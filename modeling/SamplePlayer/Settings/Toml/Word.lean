import SamplePlayer.Decimal.Numeral
import SamplePlayer.Settings.Value

/-!
# Unquoted values in a TOML text

Truth values, numbers and instants are single words. Underscores may set off groups of digits, but
each must stand between two digits. An instant is kept as a text in the usual form.

## Main definitions

* `wholeNumber?`, `decimalNumber?`: numbers.
* `instant?`: dates and times of day.
* `word?`: the value that a word is.
-/

namespace SamplePlayer.Toml

/-! ## Numbers -/

/-- Whether a character is a digit to a base up to 16. -/
def isDigitTo (base : Nat) (c : Char) : Bool :=
  if base = 16 then c.isDigit || ('a' ≤ c && c ≤ 'f') || ('A' ≤ c && c ≤ 'F')
  else c.isDigit && Decimal.digitValue c < base

/-- The value of a digit to a base up to 16. -/
def digitTo (c : Char) : Nat :=
  if c.isDigit then Decimal.digitValue c
  else if 'a' ≤ c then c.toNat - 'a'.toNat + 10
  else c.toNat - 'A'.toNat + 10

/-- The digits of a text that may be in groups. -/
def ungroup? (base : Nat) (text : List Char) : Option (List Char) :=
  let rec go (afterDigit : Bool) : List Char → Option (List Char)
    | [] => if afterDigit then some [] else none
    | c :: rest =>
      if c = '_' then if afterDigit then go false rest else none
      else if isDigitTo base c then (go true rest).map (c :: ·)
      else none
  go false text

/-- The value of digits in groups to a base. -/
def based? (base : Nat) (text : List Char) : Option Nat :=
  (ungroup? base text).map (·.foldl (fun n c => base * n + digitTo c) 0)

/-- Decimal digits without a redundant zero in front. -/
def canonical? (text : List Char) : Option (List Char) :=
  match ungroup? 10 text with
  | some ('0' :: _ :: _) => none
  | digits => digits

/-- The whole number that a word is. Only a decimal one takes a sign. -/
def wholeNumber? (word : List Char) : Option Int :=
  match word with
  | '0' :: 'x' :: digits => (based? 16 digits).map Int.ofNat
  | '0' :: 'o' :: digits => (based? 8 digits).map Int.ofNat
  | '0' :: 'b' :: digits => (based? 2 digits).map Int.ofNat
  | _ =>
    let (negative, digits) := Decimal.splitSign word
    (canonical? digits).map fun digits =>
      let n : Int := Decimal.ofDigits 0 digits
      if negative then -n else n

/-- The numeral of a word with a fraction or an exponent or both. -/
def numeral? (word : List Char) : Option Decimal.Numeral := do
  let (negative, rest) := Decimal.splitSign word
  let isMark (c : Char) : Bool := c == 'e' || c == 'E'
  let mantissa := rest.takeWhile (!isMark ·)
  let exponent := rest.drop mantissa.length
  let whole ← canonical? (mantissa.takeWhile (· != '.'))
  let fraction ←
    match mantissa.dropWhile (· != '.') with
    | [] => some []
    | _ :: digits => ungroup? 10 digits
  if mantissa.all (· != '.') && exponent.isEmpty then none
  let power : Int ←
    match exponent with
    | [] => some 0
    | _ :: text =>
      let (negative, digits) := Decimal.splitSign text
      (ungroup? 10 digits).map fun digits =>
        let n : Int := Decimal.ofDigits 0 digits
        if negative then -n else n
  return ⟨negative, Decimal.ofDigits (Decimal.ofDigits 0 whole) fraction, power - fraction.length⟩

/-- The number, not whole or not finite, that a word is. -/
def decimalNumber? (word : List Char) : Option Float :=
  let (negative, rest) := Decimal.splitSign word
  match String.ofList rest with
  | "inf" => some (if negative then -(1.0 / 0.0) else 1.0 / 0.0)
  | "nan" => some (0.0 / 0.0)
  | _ => (numeral? word).map (·.toFloat)

/-! ## Instants -/

/-- The number that so many digits at the start of a text are, and the rest of the text. -/
def digits? (count : Nat) (text : List Char) : Option (Nat × List Char) :=
  let digits := text.take count
  if digits.length = count ∧ digits.all Char.isDigit then
    some (Decimal.ofDigits 0 digits, text.drop count)
  else none

/-- A text without the character at its start, which must be the one given. -/
def expect? (c : Char) : List Char → Option (List Char)
  | d :: rest => if c = d then some rest else none
  | [] => none

/-- Whether a year has a leap day. -/
def isLeap (year : Nat) : Bool :=
  year % 4 == 0 && (year % 100 != 0 || year % 400 == 0)

/-- How many days a month has. -/
def monthDays (year month : Nat) : Nat :=
  if month = 2 then if isLeap year then 29 else 28
  else if month ∈ [4, 6, 9, 11] then 30
  else 31

/-- A date at the start of a text. -/
def date? (text : List Char) : Option (List Char × List Char) := do
  let (year, rest) ← digits? 4 text
  let (month, rest) ← digits? 2 (← expect? '-' rest)
  let (day, rest) ← digits? 2 (← expect? '-' rest)
  if 1 ≤ month ∧ month ≤ 12 ∧ 1 ≤ day ∧ day ≤ monthDays year month then
    some (text.take 10, rest)
  else none

/-- The fraction of a second as it is shown: up to nine digits, without zeros at the end. -/
def shownFraction (digits : List Char) : List Char :=
  let kept := ((digits.take 9).reverse.dropWhile (· = '0')).reverse
  if kept.isEmpty then [] else '.' :: kept

/-- A time of day at the start of a text. -/
def time? (text : List Char) : Option (List Char × List Char) := do
  let (hour, rest) ← digits? 2 text
  let (minute, rest) ← digits? 2 (← expect? ':' rest)
  let (second, rest) ← digits? 2 (← expect? ':' rest)
  if 23 < hour ∨ 59 < minute ∨ 60 < second then none
  match rest with
  | '.' :: rest =>
    let digits := rest.takeWhile Char.isDigit
    if digits.isEmpty then none
    else some (text.take 8 ++ shownFraction digits, rest.drop digits.length)
  | _ => some (text.take 8, rest)

/-- The distance from world time that a text is. -/
def zone? (text : List Char) : Option (List Char) :=
  match text with
  | [] => some []
  | ['Z'] | ['z'] => some ['Z']
  | sign :: rest => do
    let (hours, after) ← digits? 2 rest
    let (minutes, after) ← digits? 2 (← expect? ':' after)
    if (sign = '+' ∨ sign = '-') ∧ hours ≤ 23 ∧ minutes ≤ 59 ∧ after.isEmpty then
      some ((if hours = 0 ∧ minutes = 0 then '+' else sign) :: rest)
    else none

/-- The instant that a word is: a date, a time of day, or both. -/
def instant? (word : List Char) : Option String :=
  match date? word with
  | some (date, []) => some (.ofList date)
  | some (date, mark :: rest) => do
    if mark ≠ 'T' ∧ mark ≠ 't' ∧ mark ≠ ' ' then none
    let (time, rest) ← time? rest
    return .ofList (date ++ 'T' :: time ++ (← zone? rest))
  | none =>
    match time? word with
    | some (time, []) => some (.ofList time)
    | _ => none

/-! ## Words -/

/-- The value that a word is. -/
def word? (word : List Char) : Option Setting :=
  match String.ofList word with
  | "true" => some (.flag true)
  | "false" => some (.flag false)
  | _ =>
    match wholeNumber? word with
    | some n => Setting.whole? n
    | none =>
      match decimalNumber? word with
      | some x => some (.number x)
      | none => (instant? word).map .text

end SamplePlayer.Toml
