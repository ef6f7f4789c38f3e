import SamplePlayer.Proofs.Wave.Sheets

/-!
# What is in a file after several sessions

An output can be opened, used, closed and opened again, also while it is still open. Every opening
empties the file, but the writer of a session that was not closed is given up only after that. It
still brings its buffer and its sizes into the file, and the new session writes over them. What it
does not cover stays: the file ends as that of an earlier session if that was longer.

## Main definitions

* `WaveOutput.Call`, `WaveOutput.after`: what can be asked of an output, and what comes of it.
* `WaveOutput.Opens`: every opening succeeds.
* `WaveOutput.alone`: the file of a session that nothing came before.

## Main results

* `WaveOutput.Sound.after`: an open output is at work on its own file, after any calls.
* `WaveOutput.reopened`: the file after any calls, told from the last session and from what remained
  of the one before.
* `WaveOutput.not_reopened_alone`: the file is not always that of the last session alone.
-/

namespace SamplePlayer.WaveOutput

variable {s : Storage} {w : WaveWriter} {path : String} {format : OutputFormat} {sheet : Sheet}

/-! ### Calls -/

/-- What can be asked of an output into a file. -/
inductive Call where
  | opening (format : OutputFormat)
  | use (u : Use)
  | close

/-- Does what is asked. -/
def Call.on (o : WaveOutput) (s : Storage) : Call → Reply × WaveOutput × Storage
  | .opening format => o.opening format s
  | .use u => o.use u s
  | .close => o.close s

/-- The output and the files after one call upon the other, whatever the answers. -/
def after (calls : List Call) (st : WaveOutput × Storage) : WaveOutput × Storage :=
  calls.foldl (fun st c => (c.on st.1 st.2).2) st

/-- If a call is an opening, it succeeds. -/
def Call.Opens (o : WaveOutput) (s : Storage) : Call → Prop
  | .opening format => (o.opening format s).1 = .done
  | _ => True

/-- Every opening among the calls succeeds. -/
def Opens : List Call → WaveOutput × Storage → Prop
  | [], _ => True
  | c :: calls, st => c.Opens st.1 st.2 ∧ Opens calls (c.on st.1 st.2).2

/-- The writer of an output, if it has one, is at work on the file of the output. -/
structure Sound (path : String) (st : WaveOutput × Storage) : Prop where
  path_eq : st.1.path = path
  held : ∀ w, st.1.writer = some w →
    ∃ format sheet, st.1.Holding (Storage.resolve path) format sheet st.2

variable {st : WaveOutput × Storage} {calls : List Call}

theorem Sound.same (h : Sound path st) (opened : st.1.writer = some w) :
    w.file.path = Storage.resolve st.1.path := by
  obtain ⟨format, sheet, w', opened', riff, size, inks⟩ := h.held w opened
  obtain rfl := Option.some.inj (opened.symm.trans opened')
  rw [h.path_eq]
  exact inks.file.path_eq

theorem after_append (calls rest : List Call) (st : WaveOutput × Storage) :
    after (calls ++ rest) st = after rest (after calls st) := List.foldl_append

theorem opens_append {rest : List Call} :
    Opens (calls ++ rest) st ↔ Opens calls st ∧ Opens rest (after calls st) := by
  induction calls generalizing st with
  | nil => exact ⟨fun h => ⟨trivial, h⟩, And.right⟩
  | cons c calls ih =>
    rw [List.cons_append, Opens, Opens, ih, and_assoc]
    rfl

/-- Nothing but an opening changes anything about an output that is closed. -/
theorem on_of_closed (closed : st.1.writer = none) {c : Call}
    (other : ∀ format, c ≠ .opening format) : (c.on st.1 st.2).2 = st := by
  cases c with
  | opening format => exact absurd rfl (other format)
  | use u => cases u <;> simp [Call.on, use, write, drain, withWriter, closed]
  | close => simp [Call.on, close, closed]

theorem after_of_closed (closed : st.1.writer = none) {rest : List Call}
    (last : ∀ c ∈ rest, ∀ format, c ≠ .opening format) : after rest st = st := by
  induction rest with
  | nil => rfl
  | cons c rest ih =>
    rw [List.forall_mem_cons] at last
    change after rest (c.on st.1 st.2).2 = st
    rw [on_of_closed closed last.1]
    exact ih last.2

section Runs

variable (writable : Storage.resolve path ≠ Storage.fullDevice)
include writable

/-- The calls of a session do to the file what they do to the sheet. -/
theorem Holding.session (h : st.1.Holding (Storage.resolve path) format sheet st.2)
    (session : List Use) :
    (after (session.map .use) st).1.Holding (Storage.resolve path) format
      (session.foldl (Use.inked format) sheet) (after (session.map .use) st).2 := by
  induction session generalizing sheet st with
  | nil => exact h
  | cons u session ih => exact ih (h.use writable u).2

theorem Sound.use (h : Sound path st) (u : Use) : Sound path (st.1.use u st.2).2 := by
  cases opened : st.1.writer with
  | none =>
    have refused : (st.1.use u st.2).2 = st := on_of_closed (c := .use u) opened nofun
    rwa [refused]
  | some w =>
    obtain ⟨format, sheet, holding⟩ := h.held w opened
    obtain ⟨same, holding⟩ := holding.use writable u
    exact ⟨same.trans h.path_eq, fun _ _ => ⟨format, _, holding⟩⟩

theorem Sound.close (h : Sound path st) : Sound path (st.1.close st.2).2 := by
  cases opened : st.1.writer with
  | none =>
    have still : (st.1.close st.2).2 = st := on_of_closed (c := .close) opened nofun
    rwa [still]
  | some w =>
    obtain ⟨format, sheet, holding⟩ := h.held w opened
    have closed := (holding.close writable).2.1
    exact ⟨closed ▸ h.path_eq, fun w opened => by rw [closed] at opened; cases opened⟩

variable (regular : Storage.resolve path ≠ Storage.nullDevice)
include regular

/-- Every call leaves an output sound, as long as it is no opening that fails. -/
theorem Sound.call (h : Sound path st) {c : Call} (opens : c.Opens st.1 st.2) :
    Sound path (c.on st.1 st.2).2 := by
  cases c with
  | opening format =>
    obtain ⟨rfl, held⟩ := h
    obtain ⟨-, same, holding⟩ := holding_opening writable regular
      (fun w opened => Sound.same ⟨rfl, held⟩ opened) opens
    exact ⟨same, fun _ _ => ⟨format, _, holding⟩⟩
  | use u => exact h.use writable u
  | close => exact h.close writable

/-- So does any number of calls. -/
theorem Sound.after (h : Sound path st) (opens : Opens calls st) :
    Sound path (after calls st) := by
  induction calls generalizing st with
  | nil => exact h
  | cons c calls ih => exact ih (h.call writable regular opens.1) opens.2

end Runs

/-! ### The last session -/

/-- The file of a session that nothing came before: a header with the sizes, and the samples. -/
def alone (format : OutputFormat) (data : List UInt8) : List UInt8 :=
  WaveHeader.filled format (data.length + WaveHeader.size format - 8) data.length ++ data

theorem length_alone (data : List UInt8) :
    (alone format data).length = WaveHeader.size format + data.length :=
  WaveHeader.length_filled_append

/-- The output is drained between two frames only. -/
def Between (format : OutputFormat) (session : List Use) : Prop :=
  ∀ first rest, session = first ++ .drain :: rest →
    (first.flatMap (Use.stored format)).length / WaveHeader.bytesPerSample format %
      OutputFormat.channels = 0

theorem Between.left {session rest : List Use} (h : Between format (session ++ rest)) :
    Between format session :=
  fun first others split => h first (others ++ rest) (by rw [split]; simp)

/-- As long as an output is drained between two frames only, its samples stand one behind the
other. -/
theorem Between.inked {session : List Use} (h : Between format session) (behind : List UInt8) :
    session.foldl (Use.inked format) (.blank behind) =
      (Sheet.blank behind).put (session.flatMap (Use.stored format)) := by
  induction session using List.reverseRecOn with
  | nil => exact (Sheet.put_nil _).symm
  | append_singleton session u ih =>
    rw [List.foldl_concat, ih h.left, List.flatMap_append, List.flatMap_singleton]
    cases u with
    | write bytes => exact Sheet.put_put ..
    | drain =>
      -- The drain comes between two frames, so it leaves the writer where it is.
      let sheet := (Sheet.blank behind).put (session.flatMap (Use.stored format))
      have even : ¬ sheet.Uneven format := by
        rw [Sheet.Uneven, Sheet.counted_put_blank]
        exact not_not.mpr (h session [] rfl)
      have none : Use.stored format .drain = [] := rfl
      rw [Use.inked, Sheet.drained, if_neg even, none, List.append_nil]

/-- The finished file of samples that stand one behind the other, over what was there before. -/
theorem file_put_blank (old data : List UInt8) :
    ((Sheet.blank (old.drop (WaveHeader.size format))).put data).file format =
      alone format data ++ old.drop (alone format data).length := by
  rw [length_alone, Sheet.file, Sheet.counted_put_blank, Sheet.behind_put_blank, List.drop_drop,
    ← List.append_assoc, alone]

section Last

variable (writable : Storage.resolve path ≠ Storage.fullDevice)
  (regular : Storage.resolve path ≠ Storage.nullDevice) {before : List Call}
  (opens : Opens (before ++ [.opening format]) ({ path }, s)) (session : List Use)
include writable regular opens

/-- The data of the last session, told from what remained of the one before. -/
theorem holding_last :
    let st := after (before ++ .opening format :: session.map .use) ({ path }, s)
    (after before ({ path }, s)).2.Keeps path ∧
      st.1.Holding (Storage.resolve path) format (session.foldl (Use.inked format) (.blank
        ((after before ({ path }, s)).1.remains.drop (WaveHeader.size format)))) st.2 := by
  obtain ⟨started, done, -⟩ := opens_append.mp opens
  have sound : Sound path (after before ({ path }, s)) :=
    Sound.after writable regular ⟨rfl, nofun⟩ started
  obtain ⟨keeps, -, holding⟩ := holding_opening (sound.path_eq.symm ▸ writable)
    (sound.path_eq.symm ▸ regular) (fun _ => sound.same) done
  rw [sound.path_eq] at keeps holding
  refine ⟨keeps, ?_⟩
  rw [after_append]
  exact holding.session writable session

/-- The file after the last session. -/
theorem read_after_last {rest : List Call} (last : ∀ c ∈ rest, ∀ format, c ≠ .opening format) :
    ∃ contents, (after (before ++ .opening format :: session.map .use ++ .close :: rest)
        ({ path }, s)).2.read path = .ok contents ∧
      contents.toList = (session.foldl (Use.inked format) (.blank
        ((after before ({ path }, s)).1.remains.drop (WaveHeader.size format)))).file format := by
  obtain ⟨keeps, holding⟩ := holding_last writable regular opens session
  obtain ⟨-, closed, left, found, contents⟩ := holding.close writable
  refine ⟨left, ?_, contents⟩
  rw [after_append]
  change (after rest (WaveOutput.close ..).2).2.read path = _
  rw [after_of_closed (by rw [closed]) last]
  exact keeps.read_of_find? found

end Last

/-- Take any calls on an output into a file, as long as every opening among them succeeds, and look
at the last session that was opened and closed.

The file begins with a header for the format of this session, with the number of bytes that were
written in it as its sizes. If the output was drained between two frames only, the samples stand
behind it, one behind the other; in a format that can be asked for, these are the bytes as they were
written. But behind them stands what is left of the session before, if that was not closed and had
more to bring into its file. The file is that of the last session alone exactly if it was not
shorter. -/
theorem reopened (writable : Storage.resolve path ≠ Storage.fullDevice)
    (regular : Storage.resolve path ≠ Storage.nullDevice) {before rest : List Call}
    {session : List Use}
    (opens : Opens (before ++ [.opening format]) ({ path }, s))
    (last : ∀ c ∈ rest, ∀ format, c ≠ .opening format) :
    let old := (after before ({ path }, s)).1.remains
    let data := session.flatMap (Use.stored format)
    ∃ contents, (after (before ++ .opening format :: session.map .use ++ .close :: rest)
        ({ path }, s)).2.read path = .ok contents ∧
      contents.toList = (session.foldl (Use.inked format)
        (.blank (old.drop (WaveHeader.size format)))).file format ∧
      (format.Renderable → data = session.flatMap (Use.whole format)) ∧
      (Between format session →
        contents.toList = alone format data ++ old.drop (alone format data).length ∧
          (contents.toList = alone format data ↔ old.length ≤ (alone format data).length)) := by
  intro old data
  obtain ⟨contents, read, filled⟩ := read_after_last writable regular opens session last
  have whole (usable : format.Renderable) : data = session.flatMap (Use.whole format) :=
    List.flatMap_congr fun u _ => u.stored_eq_whole usable
  refine ⟨contents, read, filled, whole, fun between => ?_⟩
  have tail : contents.toList = alone format data ++ old.drop (alone format data).length := by
    rw [filled, between.inked, file_put_blank]
  refine ⟨tail, ?_⟩
  rw [tail, List.append_right_eq_self, List.drop_eq_nil_iff]

/-! ### A shorter session -/

/-- Numbers at a rate of one. -/
def slow : OutputFormat := ⟨1, .float, 32⟩

/-- A frame at half the level. -/
def quiet : List UInt8 := [0, 0, 0, 63, 0, 0, 0, 63]

/-- A frame at the full level. -/
def loud : List UInt8 := [0, 0, 128, 63, 0, 0, 128, 63]

/-- A session of two frames that is not closed. -/
def long : List Call := [.opening slow, .use (.write (quiet ++ loud))]

/-- A session of one frame. -/
def short : List Use := [.write quiet]

/-- The file is made and empty. -/
def emptied : Storage := { files := [("a", #[])] }

/-- A writer that has everything in its buffer. -/
def buffered (samples : List UInt8) : WaveWriter where
  file := { path := "a", pending := (WaveHeader.bytes slow ++ samples).toArray }
  format := slow
  dataBytes := samples.length

theorem resolve_a : Storage.resolve "a" = "a" := by cbv

theorem writable_a : Storage.resolve "a" ≠ Storage.fullDevice := by
  rw [resolve_a]
  decide

theorem regular_a : Storage.resolve "a" ≠ Storage.nullDevice := by
  rw [resolve_a]
  decide

theorem create_slow (created : s.create "a" = .ok emptied) :
    WaveWriter.create s "a" slow = (.ready (buffered []), emptied) := by
  simp only [WaveWriter.create, created, resolve_a]
  rfl

theorem opening_slow : ({ path := "a" } : WaveOutput).opening slow {} =
    (.done, { path := "a", writer := some (buffered []) }, emptied) := by
  have created : ({} : Storage).create "a" = .ok emptied := by cbv
  simp only [opening, create_slow created]

theorem after_long : after long ({ path := "a" }, {}) =
    ({ path := "a", writer := some (buffered (quiet ++ loud)) }, emptied) := by
  simp only [long, after, List.foldl_cons, List.foldl_nil, Call.on, opening_slow]
  rfl

theorem opens_long : Opens (long ++ [.opening slow]) ({ path := "a" }, {}) := by
  have created : emptied.create "a" = .ok emptied := by cbv
  rw [opens_append, after_long]
  refine ⟨⟨?_, trivial, trivial⟩, ?_, trivial⟩
  · rw [Call.Opens, opening_slow]
  · simp only [Call.Opens, opening, create_slow created]

theorem between_short : Between slow short := by
  intro first rest split
  have here : Use.drain ∈ short := by
    rw [split]
    simp
  cases here with
  | tail _ none => cases none

/-- The second frame of a session that was not closed stands behind the only one of the next. -/
theorem drop_remains :
    (buffered (quiet ++ loud)).remains.drop (alone slow quiet).length = loud := by
  decide +kernel

/-- A session of one frame after one of two that was not closed. -/
theorem reopened_short : ∃ contents,
    (after (long ++ .opening slow :: short.map .use ++ [.close]) ({ path := "a" }, {})).2.read "a" =
      .ok contents ∧ contents.toList = alone slow quiet ++ loud := by
  obtain ⟨contents, read, -, -, told⟩ :=
    reopened writable_a regular_a opens_long (List.forall_mem_nil _)
  refine ⟨contents, read, ?_⟩
  rw [(told between_short).1, after_long]
  exact congrArg _ drop_remains

/-- It is not so that the file of a session that is opened and closed is always that of this session
alone. -/
theorem not_reopened_alone : ¬ ∀ (path : String) (s : Storage) (format : OutputFormat)
    (before : List Call) (session : List Use) (contents : Array UInt8),
    Opens (before ++ [.opening format]) ({ path }, s) →
    let st := after (before ++ .opening format :: session.map .use) ({ path }, s)
    (st.1.close st.2).1 = .done → (st.1.close st.2).2.2.read path = .ok contents →
    contents.toList = alone format (session.flatMap (Use.stored format)) := by
  intro claim
  obtain ⟨keeps, holding⟩ := holding_last writable_a regular_a opens_long short
  rw [between_short.inked] at holding
  obtain ⟨answer, -, left, found, contents⟩ := holding.close writable_a
  rw [file_put_blank, after_long] at contents
  have same := claim "a" {} slow long short left opens_long answer (keeps.read_of_find? found)
  rw [contents] at same
  have tail : loud = [] := by
    rw [← drop_remains]
    exact List.append_right_eq_self.mp same
  cases tail

end SamplePlayer.WaveOutput
