/-!
# Arguments

A command takes options, each with a value, and values without a name. The value of an option is the
next argument or is attached to the option. Behind a bare `--`, nothing is an option any more.

## Main definitions

* `OptionForm`: an option that a command knows.
* `Argument`: what an argument, or two of them, amount to.
* `readArguments`: the arguments of a command.
-/

namespace SamplePlayer.CommandLine

/-- An option that a command knows. -/
structure OptionForm where
  /-- Its name, used behind two dashes. -/
  long : String
  /-- The letter that stands for it behind one dash. -/
  letter : Option Char := none
  /-- Whether a negative number may follow as its value. -/
  negative : Bool := false
deriving DecidableEq, Repr

/-- What an argument amounts to. -/
inductive Argument where
  /-- An option with its value. -/
  | option (long value : String)
  /-- A value without a name. -/
  | value (text : String)
  /-- The question what the command does. -/
  | help
  /-- Something the command does not understand. -/
  | fault
deriving DecidableEq, Repr

/-- Whether digits with at most one point and one exponent, in that order, make up a text. -/
def isNumeral (text : List Char) : Bool :=
  let rec go (first point exponent : Bool) : List Char → Bool
    | [] => true
    | c :: rest =>
      if c.isDigit then go false point exponent rest
      else if c == '.' && !point && !exponent && !first then go false true exponent rest
      else if c == 'e' && !exponent && !first then !rest.isEmpty && go false point true rest
      else false
  go true false false text

/-- What the letters behind one dash amount to: an option whose value may be attached, or a
question. -/
def readLetters (forms : List OptionForm) : List Char → Argument ⊕ OptionForm
  | [] => .inl .fault
  | c :: rest =>
    if c = 'h' then .inl .help
    else
      match forms.find? (·.letter == some c), rest with
      | none, _ => .inl .fault
      | some form, [] => .inr form
      | some form, '=' :: value => .inl (.option form.long (.ofList value))
      | some form, value => .inl (.option form.long (.ofList value))

/-- What a name behind two dashes amounts to. -/
def readName (forms : List OptionForm) (text : List Char) : Argument ⊕ OptionForm :=
  let name := String.ofList (text.takeWhile (· != '='))
  match text.dropWhile (· != '='), forms.find? (·.long == name) with
  | [], some form => .inr form
  | _ :: value, some form => .inl (.option form.long (.ofList value))
  | [], none => .inl (if name == "help" then .help else .fault)
  | _, none => .inl .fault

/-- What an argument amounts to where no option waits for its value. -/
def readFirst (forms : List OptionForm) (text : String) : Argument ⊕ OptionForm :=
  match text.toList with
  | '-' :: '-' :: name => readName forms name
  | ['-'] => .inl (.value text)
  | '-' :: letters => readLetters forms letters
  | _ => .inl (.value text)

/-- Whether an argument can be the value of the option in front of it. -/
def canFollow (form : OptionForm) (text : String) : Bool :=
  match text.toList with
  | ['-'] => true
  | '-' :: rest => form.negative && isNumeral rest
  | _ => true

/-- What the arguments of a command amount to. An option at the end that has no value, or that is
followed by what cannot be its value, is a fault. -/
def readArguments (forms : List OptionForm) :
    (waiting : Option OptionForm) → List String → List Argument
  | none, [] => []
  | some _, [] => [.fault]
  | some form, text :: rest =>
    if canFollow form text then .option form.long text :: readArguments forms none rest
    else [.fault]
  | none, text :: rest =>
    if text == "--" then rest.map .value
    else
      match readFirst forms text with
      | .inl argument => argument :: readArguments forms none rest
      | .inr form => readArguments forms (some form) rest

end SamplePlayer.CommandLine
