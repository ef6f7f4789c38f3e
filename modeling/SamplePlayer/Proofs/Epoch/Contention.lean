import Mathlib.Logic.Function.Basic
import SamplePlayer.Proofs.Epoch
import SamplePlayer.Voice

/-!
# Who may change a voice

The worker that mixes and any number of callers deal with one voice at the same time, and all that
keeps them apart is the epoch. Everybody first reads the epoch. A caller then marks it, provided
that it is still what was read and carries no mark; the body of the transition follows, and at its
end the epoch moves on. The worker marks it under the same condition when it tries to write a pass
back; the body of the write-back follows, and at its end the epoch is as it was. Between any two of
these steps anybody else can take theirs.

So the epoch is marked exactly while a body runs, and only one runs at a time. As the epoch of a
voice at rest counts the transitions, a snapshot that is still current shows that there were none.

## Main definitions

* `Stand`, `Party`, `Contention`: a voice and those who deal with it.
* `Contention.Step`, `Contention.Run`: single steps, and any number of them in any order.
* `Contention.Sound`: the invariant of runs.

## Main results

* `Contention.run_transition`, `Contention.run_commit`: `Voice.transition` and `Voice.commit` are
  runs in which nobody else takes a step.
* `Contention.Run.exclusion`: what the epoch tells, in every run.
-/

namespace SamplePlayer

/-- Somebody who deals with a voice: the worker that mixes it, or one of the callers. -/
inductive Party (ι : Type) where
  | worker
  | caller (i : ι)
deriving DecidableEq

/-- How far somebody has got with a change of a voice. -/
inductive Stand where
  /-- There is nothing under way. -/
  | away
  /-- The epoch was read. -/
  | noted (epoch : Epoch)
  /-- The body of the change runs; the epoch was this one before. -/
  | inside (before : Epoch)
deriving DecidableEq

/-- A single step of somebody who deals with a voice. -/
inductive Action (ι : Type) where
  /-- The epoch is read: by the worker before a pass, by a caller before a transition. -/
  | look (p : Party ι)
  /-- Something other than the epoch is written. -/
  | write (v : Voice)
  /-- A caller enters a transition. -/
  | enter (i : ι)
  /-- A caller leaves the transition. -/
  | leave (i : ι)
  /-- The worker tries to write its pass back. -/
  | attempt
  /-- The worker is done with the write-back. -/
  | finish

namespace Action

variable {ι : Type}

/-- A step that only the worker takes. -/
def ofWorker : Action ι → Bool
  | look .worker | attempt | finish => true
  | look (.caller _) | write _ | enter _ | leave _ => false

/-- The beginning of a transition. -/
def enters : Action ι → Bool
  | enter _ => true
  | _ => false

/-- The end of a transition. -/
def leaves : Action ι → Bool
  | leave _ => true
  | _ => false

end Action

/-- A voice and how far everybody has got with it. -/
structure Contention (ι : Type) where
  voice : Voice
  stands : Party ι → Stand

namespace Contention

variable {ι : Type} {s s' s₁ s₂ s₃ : Contention ι} {a : Action ι} {actions : List (Action ι)}
  {p q : Party ι} {e : Epoch}

/-- Nobody has begun anything. -/
def start (v : Voice) : Contention ι := ⟨v, fun _ => .away⟩

/-- The epoch of the voice. -/
def epoch (s : Contention ι) : Epoch := s.voice.epoch

/-- Somebody runs the body of a change. -/
def Inside (s : Contention ι) (p : Party ι) : Prop := ∃ before, s.stands p = .inside before

/-! ### The invariant -/

/-- At rest nobody is inside. Otherwise the epoch is the marked one of somebody who is, and nobody
else is. -/
structure Sound (s : Contention ι) : Prop where
  outside_of_rest : s.epoch.busy = false → ∀ p, ¬ s.Inside p
  inside_of_busy : s.epoch.busy = true → ∃ p before, s.stands p = .inside before ∧
    before.busy = false ∧ s.epoch = before.marked ∧ ∀ q, s.Inside q → q = p

namespace Sound

theorem start {v : Voice} (rest : v.epoch.busy = false) : (start v : Contention ι).Sound where
  outside_of_rest := by
    rintro - p ⟨before, inside⟩
    cases inside
  inside_of_busy busy := by
    change v.epoch.busy = true at busy
    rw [rest] at busy
    cases busy

/-- Who is inside knows the epoch and is alone. -/
theorem of_inside {before : Epoch} (h : s.Sound) (inside : s.stands p = .inside before) :
    before.busy = false ∧ s.epoch = before.marked ∧ ∀ q, s.Inside q → q = p := by
  have busy : s.epoch.busy = true := by
    by_contra rest
    exact h.outside_of_rest (Bool.eq_false_iff.mpr rest) p ⟨before, inside⟩
  obtain ⟨r, known, found, rest, epoch, alone⟩ := h.inside_of_busy busy
  obtain rfl := alone p ⟨before, inside⟩
  obtain rfl : known = before := Stand.inside.inj (found.symm.trans inside)
  exact ⟨rest, epoch, alone⟩

/-- The epoch is marked exactly while somebody is inside. -/
theorem busy_iff (h : s.Sound) : s.epoch.busy = true ↔ ∃ p, s.Inside p := by
  constructor
  · intro busy
    obtain ⟨p, before, inside, -⟩ := h.inside_of_busy busy
    exact ⟨p, before, inside⟩
  · rintro ⟨p, before, inside⟩
    obtain ⟨rest, epoch, -⟩ := h.of_inside inside
    rw [epoch, Epoch.busy_marked rest]

/-- Nobody else is inside. -/
theorem eq_of_inside (h : s.Sound) (first : s.Inside p) (second : s.Inside q) : p = q := by
  obtain ⟨before, inside⟩ := second
  exact (h.of_inside inside).2.2 p first

end Sound

/-! ### Steps -/

variable [DecidableEq ι]

/-- The voice with another epoch, somebody having got further with it. -/
def moved (s : Contention ι) (p : Party ι) (stand : Stand) (e : Epoch) : Contention ι :=
  ⟨{ s.voice with epoch := e }, Function.update s.stands p stand⟩

/-- A single step. Who is inside cannot look, and nobody writes to the epoch but by the steps that
are there for it. -/
inductive Step (s : Contention ι) : Action ι → Contention ι → Prop
  | look (p : Party ι) (outside : ¬ s.Inside p) :
    Step s (.look p) (s.moved p (.noted s.epoch) s.epoch)
  | write (v : Voice) : Step s (.write v) ⟨{ v with epoch := s.epoch }, s.stands⟩
  | enter {i : ι} {marked : Epoch} (noted : s.stands (.caller i) = .noted s.epoch)
      (free : s.epoch.enter? = some marked) :
    Step s (.enter i) (s.moved (.caller i) (.inside s.epoch) marked)
  | leave {i : ι} {before : Epoch} (inside : s.stands (.caller i) = .inside before) :
    Step s (.leave i) (s.moved (.caller i) .away before.leave)
  | claim {snapshot claimed : Epoch} (noted : s.stands .worker = .noted snapshot)
      (current : Epoch.claim? snapshot s.epoch = some claimed) :
    Step s .attempt (s.moved .worker (.inside snapshot) claimed)
  | reject {snapshot : Epoch} (noted : s.stands .worker = .noted snapshot)
      (stale : Epoch.claim? snapshot s.epoch = none) :
    Step s .attempt (s.moved .worker .away s.epoch)
  | finish {snapshot : Epoch} (inside : s.stands .worker = .inside snapshot) :
    Step s .finish (s.moved .worker .away snapshot.yield)

/-- Any number of steps, in order. -/
inductive Run (s : Contention ι) : List (Action ι) → Contention ι → Prop
  | nil : Run s [] s
  | snoc {actions : List (Action ι)} {s' s'' : Contention ι} {a : Action ι}
      (before : Run s actions s') (last : Step s' a s'') : Run s (actions ++ [a]) s''

@[simp] theorem epoch_moved (p : Party ι) (stand : Stand) (e : Epoch) :
    (s.moved p stand e).epoch = e := rfl

@[simp] theorem stands_moved_self (p : Party ι) (stand : Stand) (e : Epoch) :
    (s.moved p stand e).stands p = stand := Function.update_self ..

theorem stands_moved_of_ne (other : q ≠ p) (stand : Stand) (e : Epoch) :
    (s.moved p stand e).stands q = s.stands q := Function.update_of_ne other ..

theorem inside_moved_of_ne (other : q ≠ p) (stand : Stand) (e : Epoch) :
    (s.moved p stand e).Inside q ↔ s.Inside q := by
  rw [Inside, stands_moved_of_ne other, Inside]

/-! ### How steps keep the invariant -/

namespace Sound

/-- Somebody outside may get further with the voice but not to the inside. -/
theorem stay (h : s.Sound) (outside : ¬ s.Inside p) {stand : Stand}
    (still : ∀ before, stand ≠ .inside before) : (s.moved p stand s.epoch).Sound := by
  have same (q : Party ι) : (s.moved p stand s.epoch).Inside q ↔ s.Inside q := by
    by_cases other : q = p
    · subst other
      simp [Inside, still] at outside ⊢
      exact outside
    · exact inside_moved_of_ne other stand _
  refine ⟨fun rest q => (same q).not.mpr (h.outside_of_rest rest q), fun busy => ?_⟩
  obtain ⟨r, before, inside, rest, epoch, alone⟩ := h.inside_of_busy busy
  have other : r ≠ p := by
    rintro rfl
    exact outside ⟨before, inside⟩
  exact ⟨r, before, (stands_moved_of_ne other ..).trans inside, rest, epoch,
    fun q within => alone q ((same q).mp within)⟩

/-- At rest somebody may go inside if they mark the epoch. -/
theorem go (h : s.Sound) (rest : s.epoch.busy = false) (p : Party ι) :
    (s.moved p (.inside s.epoch) s.epoch.marked).Sound where
  outside_of_rest still := by
    rw [epoch_moved, Epoch.busy_marked rest] at still
    cases still
  inside_of_busy _ := by
    refine ⟨p, s.epoch, stands_moved_self .., rest, rfl, fun q within => ?_⟩
    by_contra other
    exact h.outside_of_rest rest q ((inside_moved_of_ne other ..).mp within)

/-- Who is inside may leave the epoch at rest. -/
theorem come (h : s.Sound) {before : Epoch} (inside : s.stands p = .inside before)
    (rest : e.busy = false) : (s.moved p .away e).Sound where
  outside_of_rest _ := by
    intro q within
    by_cases other : q = p
    · subst other
      obtain ⟨_, stays⟩ := within
      rw [stands_moved_self] at stays
      cases stays
    · exact other ((h.of_inside inside).2.2 q ((inside_moved_of_ne other ..).mp within))
  inside_of_busy busy := by
    rw [epoch_moved, rest] at busy
    cases busy

/-- Every step keeps the invariant. -/
theorem step (h : s.Sound) (t : Step s a s') : s'.Sound := by
  cases t with
  | look p outside => exact h.stay outside nofun
  | write v => exact ⟨h.outside_of_rest, h.inside_of_busy⟩
  | enter noted free =>
    obtain ⟨rest, rfl⟩ := Epoch.enter?_eq_some_iff.mp free
    exact h.go rest _
  | leave inside =>
    refine h.come inside ?_
    rw [Epoch.leave_eq_after, Epoch.busy_after]
    exact (h.of_inside inside).1
  | claim noted current =>
    obtain ⟨rest, now, rfl⟩ := Epoch.claim?_eq_some_iff.mp current
    rw [← now] at rest ⊢
    exact h.go rest _
  | reject noted stale =>
    refine h.stay ?_ nofun
    rintro ⟨_, inside⟩
    rw [noted] at inside
    cases inside
  | finish inside => exact h.come inside (h.of_inside inside).1

theorem run (h : s.Sound) (r : Run s actions s') : s'.Sound := by
  induction r with
  | nil => exact h
  | snoc _ last ih => exact ih.step last

end Sound

/-! ### What a snapshot tells -/

/-- A step of somebody else does not move the worker. -/
theorem Step.stands_worker (t : Step s a s') (other : a.ofWorker = false) :
    s'.stands .worker = s.stands .worker := by
  cases t with
  | look p =>
    cases p with
    | worker => cases other
    | caller i => exact stands_moved_of_ne (by simp) ..
  | write => rfl
  | enter | leave => exact stands_moved_of_ne (by simp) ..
  | claim | reject | finish => cases other

theorem Run.stands_worker (r : Run s actions s') (others : ∀ a ∈ actions, a.ofWorker = false) :
    s'.stands .worker = s.stands .worker := by
  induction r with
  | nil => rfl
  | snoc _ last ih =>
    rw [last.stands_worker (others _ (by simp)), ih fun a member => others a (by simp [member])]

/-- As long as the worker does nothing, the epoch of a voice that was at rest tells how many
transitions were entered and how many of them were left. -/
theorem Run.epoch_eq (h : s.Sound) (rest : s.epoch.busy = false) (r : Run s actions s')
    (others : ∀ a ∈ actions, a.ofWorker = false) :
    let left := actions.countP Action.leaves
    let entered := actions.countP Action.enters
    entered = left ∧ s'.epoch = s.epoch.after left ∨
      entered = left + 1 ∧ s'.epoch = (s.epoch.after left).marked := by
  induction r with
  | nil => simp
  | @snoc actions s' s'' a before last ih =>
    have sound := h.run before
    have so := ih fun a member => others a (by simp [member])
    have still : (s.epoch.after (actions.countP Action.leaves)).busy = false := by
      rw [Epoch.busy_after, rest]
    have other := others a (by simp)
    simp only [List.countP_append, List.countP_singleton]
    cases last with
    | look p => exact so
    | write v => exact so
    | enter noted free =>
      -- A transition is entered at rest, so all before it were left.
      obtain ⟨unmarked, rfl⟩ := Epoch.enter?_eq_some_iff.mp free
      obtain ⟨all, now⟩ | ⟨-, now⟩ := so
      · right
        simp [Action.enters, Action.leaves, all, now]
      · rw [now, Epoch.busy_marked still] at unmarked
        cases unmarked
    | leave inside =>
      -- The caller that leaves is the one whose mark the epoch carries.
      obtain ⟨found, marked, -⟩ := sound.of_inside inside
      obtain ⟨-, now⟩ | ⟨one, now⟩ := so
      · rw [← now, marked, Epoch.busy_marked found] at still
        cases still
      · left
        rw [now] at marked
        rw [epoch_moved, ← Epoch.eq_of_marked_eq still found marked, Epoch.leave_eq_after,
          Epoch.after_after]
        simp [Action.enters, Action.leaves, one]
    | claim | reject | finish => cases other

/-- A write-back is let through at the epoch that was read, unless it was a marked one. -/
theorem inside_attempt_iff (noted : s.stands .worker = .noted e) (t : Step s .attempt s') :
    s'.Inside .worker ↔ e.busy = false ∧ s.epoch = e := by
  cases t with
  | claim found current =>
    obtain rfl := Stand.noted.inj (noted.symm.trans found)
    obtain ⟨rest, now, -⟩ := Epoch.claim?_eq_some_iff.mp current
    exact ⟨fun _ => ⟨rest, now⟩, fun _ => ⟨_, stands_moved_self ..⟩⟩
  | reject found stale =>
    obtain rfl := Stand.noted.inj (noted.symm.trans found)
    constructor
    · rintro ⟨before, inside⟩
      rw [stands_moved_self] at inside
      cases inside
    · rintro ⟨rest, now⟩
      rw [Epoch.claim?_eq_some_iff.mpr ⟨rest, now, rfl⟩] at stale
      cases stale

/-- A pass is written back exactly if no transition ran when the worker looked and none was entered
since. -/
theorem inside_attempt_iff_undisturbed (h : s.Sound) (looked : Step s (.look .worker) s₁)
    (r : Run s₁ actions s₂) (others : ∀ a ∈ actions, a.ofWorker = false)
    (few : actions.countP Action.leaves < 2 ^ 31) (t : Step s₂ .attempt s₃) :
    s₃.Inside .worker ↔ (∀ i, ¬ s.Inside (.caller i)) ∧ ∀ i, .enter i ∉ actions := by
  have sound := h.step looked
  have noted := r.stands_worker others
  cases looked with
  | look _ outside =>
    rw [stands_moved_self] at noted
    rw [inside_attempt_iff noted t]
    -- The worker is outside, so the epoch that it read tells of the callers alone.
    have alone : s.epoch.busy = false ↔ ∀ i, ¬ s.Inside (.caller i) := by
      rw [← Bool.not_eq_true, h.busy_iff, not_exists]
      exact ⟨fun none i => none _, fun none p => by
        cases p with
        | worker => exact outside
        | caller i => exact none i⟩
    rw [← alone]
    refine and_congr_right fun rest => ?_
    have entered : (∀ i, .enter i ∉ actions) ↔ actions.countP Action.enters = 0 := by
      rw [List.countP_eq_zero]
      refine ⟨fun none a member => ?_, fun none i member => none _ member rfl⟩
      cases a <;> simp_all [Action.enters]
    rw [entered]
    obtain ⟨all, now⟩ | ⟨one, now⟩ := r.epoch_eq sound rest others
    · rw [now, all, epoch_moved, Epoch.after_eq_self_iff few]
    · have still : (s.epoch.after (actions.countP Action.leaves)).busy = false := by
        rw [Epoch.busy_after, rest]
      refine ⟨fun same => ?_, by omega⟩
      rw [now, epoch_moved] at same
      rw [← same, Epoch.busy_marked still] at rest
      cases rest

/-! ### Changes that nobody interrupts -/

/-- A transition in which nobody else takes a step. -/
theorem run_transition {α : Type} (change : Voice → Voice × α) {i : ι}
    (away : s.stands (.caller i) = .away) (rest : s.epoch.busy = false) :
    ∃ v, Run s [.look (.caller i), .enter i, .write v, .leave i]
      ⟨(s.voice.transition change).1, s.stands⟩ := by
  let looked := s.moved (.caller i) (.noted s.epoch) s.epoch
  let entered := looked.moved (.caller i) (.inside s.epoch) s.epoch.marked
  let changed := (change { s.voice with epoch := s.epoch.marked }).1
  let written : Contention ι := ⟨{ changed with epoch := s.epoch.marked }, entered.stands⟩
  have first : Step s (.look (.caller i)) looked := by
    refine .look _ ?_
    rintro ⟨_, inside⟩
    rw [away] at inside
    cases inside
  have second : Step looked (.enter i) entered :=
    .enter (stands_moved_self ..) (Epoch.enter?_eq_some_iff.mpr ⟨rest, rfl⟩)
  have third : Step entered (.write changed) written := .write changed
  have within : written.stands (.caller i) = .inside s.epoch :=
    stands_moved_self (s := looked) (.caller i) (.inside s.epoch) s.epoch.marked
  have fourth : Step written (.leave i) (written.moved (.caller i) .away s.epoch.leave) :=
    .leave within
  have last : written.moved (.caller i) .away s.epoch.leave =
      ⟨(s.voice.transition change).1, s.stands⟩ := by
    simp [moved, written, entered, looked, Voice.transition, changed, epoch, ← away]
  exact ⟨changed, last ▸ (((Run.nil.snoc first).snoc second).snoc third).snoc fourth⟩

/-- A write-back in which nobody else takes a step. -/
theorem run_commit {α : Type} {snapshot : Epoch} {writeBack : Voice → Voice × α} {w : Voice}
    {result : α} (noted : s.stands .worker = .noted snapshot)
    (done : s.voice.commit snapshot writeBack = some (w, result)) :
    ∃ v, Run s [.attempt, .write v, .finish] ⟨w, Function.update s.stands .worker .away⟩ := by
  obtain ⟨claimed, current, rfl, rfl⟩ : ∃ claimed, Epoch.claim? snapshot s.epoch = some claimed ∧
      { (writeBack { s.voice with epoch := claimed }).1 with epoch := snapshot.yield } = w ∧
        (writeBack { s.voice with epoch := claimed }).2 = result := by
    obtain ⟨claimed, current, same⟩ := Option.map_eq_some_iff.mp done
    exact ⟨claimed, current, congrArg Prod.fst same, congrArg Prod.snd same⟩
  let entered := s.moved .worker (.inside snapshot) claimed
  let changed := (writeBack { s.voice with epoch := claimed }).1
  let written : Contention ι := ⟨{ changed with epoch := claimed }, entered.stands⟩
  have first : Step s .attempt entered := .claim noted current
  have second : Step entered (.write changed) written := .write changed
  have within : written.stands .worker = .inside snapshot :=
    stands_moved_self (s := s) .worker (.inside snapshot) claimed
  have third : Step written .finish (written.moved .worker .away snapshot.yield) :=
    .finish within
  have last : written.moved .worker .away snapshot.yield =
      ⟨{ changed with epoch := snapshot.yield }, Function.update s.stands .worker .away⟩ := by
    simp [moved, written, entered]
  exact ⟨changed, last ▸ ((Run.nil.snoc first).snoc second).snoc third⟩

/-- A write-back that is not let through. -/
theorem step_commit {α : Type} {snapshot : Epoch} {writeBack : Voice → Voice × α}
    (noted : s.stands .worker = .noted snapshot)
    (stale : s.voice.commit snapshot writeBack = none) :
    Step s .attempt (s.moved .worker .away s.epoch) :=
  .reject noted (Option.map_eq_none_iff.mp stale)

/-! ### What the epoch tells -/

/-- Take any run of the worker and the callers of a voice that was at rest. At most one body runs at
a time, and the epoch is marked exactly while one does.

If the worker looks then, and after any steps of others, with fewer than `2 ^ 31` transitions left
among them, tries to write back, it can. The body runs exactly if no transition was running when it
looked and none was entered since. If it does not run, the epoch stays as it is. If it does, the
epoch is in the end, whatever others do meanwhile, what it was before. -/
theorem Run.exclusion {v : Voice} {history : List (Action ι)} (rest : v.epoch.busy = false)
    (run : Run (start v) history s) :
    (∀ p q, s.Inside p → s.Inside q → p = q) ∧
    (s.epoch.busy = true ↔ ∃ p, s.Inside p) ∧
    ∀ s₁ actions s₂, Step s (.look .worker) s₁ → Run s₁ actions s₂ →
      (∀ a ∈ actions, a.ofWorker = false) → actions.countP Action.leaves < 2 ^ 31 →
      (∃ s₃, Step s₂ .attempt s₃) ∧ ∀ s₃, Step s₂ .attempt s₃ →
        (s₃.Inside .worker ↔ (∀ i, ¬ s.Inside (.caller i)) ∧ ∀ i, .enter i ∉ actions) ∧
        (¬ s₃.Inside .worker → s₃.epoch = s₂.epoch) ∧
        ∀ during s₄ s₅, Run s₃ during s₄ → (∀ a ∈ during, a.ofWorker = false) →
          Step s₄ .finish s₅ → s₅.epoch = s₂.epoch := by
  have sound := (Sound.start rest).run run
  refine ⟨fun p q => sound.eq_of_inside, sound.busy_iff, fun s₁ actions s₂ looked r others few =>
    ⟨?_, fun s₃ t => ⟨inside_attempt_iff_undisturbed sound looked r others few t, ?_, ?_⟩⟩⟩
  · have noted : s₂.stands .worker = .noted s.epoch := by
      rw [r.stands_worker others]
      cases looked
      exact stands_moved_self ..
    cases current : Epoch.claim? s.epoch s₂.epoch with
    | none => exact ⟨_, .reject noted current⟩
    | some claimed => exact ⟨_, .claim noted current⟩
  · intro outside
    cases t with
    | claim => exact absurd ⟨_, stands_moved_self ..⟩ outside
    | reject => rfl
  · intro during s₄ s₅ meanwhile others' last
    -- Nobody else moves the worker, so it puts back the epoch that it found.
    have stands := meanwhile.stands_worker others'
    cases last with
    | finish inside =>
      rw [inside] at stands
      cases t with
      | claim noted current =>
        rw [stands_moved_self] at stands
        obtain rfl := Stand.inside.inj stands
        exact (Epoch.claim?_eq_some_iff.mp current).2.1.symm
      | reject =>
        rw [stands_moved_self] at stands
        cases stands

/-- A caller comes and goes between the look of the worker and its attempt, which is rejected. -/
theorem exclusion_overtaken :
    (start {} : Contention Unit).epoch.busy = false ∧
    ∃ s₁ s₂ s₃ : Contention Unit, Step (start {}) (.look .worker) s₁ ∧
      Run s₁ [.look (.caller ()), .enter (), .leave ()] s₂ ∧ Step s₂ .attempt s₃ ∧
      ¬ s₃.Inside .worker ∧ s₃.epoch = s₂.epoch := by
  let s₁ := (start {} : Contention Unit).moved .worker (.noted .first) .first
  let noted := s₁.moved (.caller ()) (.noted .first) .first
  let entered := noted.moved (.caller ()) (.inside .first) Epoch.first.marked
  let s₂ := entered.moved (.caller ()) .away Epoch.first.leave
  have looked : Step (start {}) (.look .worker) s₁ := by
    refine .look _ ?_
    rintro ⟨_, inside⟩
    cases inside
  have looks : Step s₁ (.look (.caller ())) noted := by
    refine .look _ ?_
    rintro ⟨_, inside⟩
    cases inside
  have enters : Step noted (.enter ()) entered := .enter rfl (by decide)
  have leaves : Step entered (.leave ()) s₂ := .leave rfl
  have between := ((Run.nil.snoc looks).snoc enters).snoc leaves
  have none : Run (start {} : Contention Unit) [] (start {}) := .nil
  have told := Run.exclusion (by decide) none
  obtain ⟨⟨s₃, attempt⟩, outcome⟩ := told.2.2 s₁ _ s₂ looked between (by decide) (by decide)
  obtain ⟨inside, rejected, -⟩ := outcome s₃ attempt
  have outside : ¬ s₃.Inside .worker := fun within => (inside.mp within).2 () (by simp)
  exact ⟨by decide, s₁, s₂, s₃, looked, between, attempt, outside, rejected outside⟩

end Contention

end SamplePlayer
