import SamplePlayer.Proofs.Clip.Outcomes
import SamplePlayer.Proofs.Desk

/-!
# What steps keep

What holds of every voice and of the pass under way, whatever is requested and mixed, follows from
what a request makes of a voice, what a frame makes of a pass and its voice, and what a write-back
makes of a voice. The epochs need not tell whether a pass is stale, so this holds as well if any
number of transitions come in during a pass.

Steps of callers and steps of the mixer can be told apart: a caller leaves alone what the mixer
works with.

## Main definitions

* `Desk.Move`: single steps, with any number of transitions during a pass.
* `Desk.Does`: steps with the request that each is.
* `Desk.Law`, `Desk.Upholds`: what single operations keep, and where it holds.

## Main results

* `Pool.finish_cases`: the end of a pass.
* `Desk.Move.does`: a step that changes anything is a request, a delivery or a step of the mixer.
* `Desk.Law.move`, `Desk.Law.run`: steps and runs keep what single operations keep.
-/

namespace SamplePlayer

variable {m : Mixer} {id : VoiceId}

/-- A pass is dropped with nothing changed, or it is written back to a voice at rest that has still
the epoch that was read. -/
theorem Pool.finish_cases (m : Mixer) (id : VoiceId) (p : Pass) (pool : Pool) :
    pool.finish m id p = ([], pool) ∧
        (∀ v, pool.voices[id]? = some v → v.epoch = p.snapshot → v.epoch.busy) ∨
      ∃ v, pool.voices[id]? = some v ∧ v.epoch = p.snapshot ∧ v.epoch.busy = false ∧
        (pool.finish m id p).1 = (p.writeBack m id v).2.events ∧
        (pool.finish m id p).2.voices = (pool.set id (p.writeBack m id v).1).voices := by
  cases voice : pool.voices[id]? with
  | none => exact .inl ⟨by simp only [finish, voice], nofun⟩
  | some v =>
    by_cases current : v.epoch = p.snapshot
    · cases rest : v.epoch.busy
      · refine .inr ⟨v, rfl, current, rest, ?_⟩
        rw [finish_of_current voice rest current]
        refine ⟨rfl, ?_⟩
        dsimp only
        split
        · exact voices_giveBack
        · rfl
      · refine .inl ⟨?_, fun w found _ => Option.some.inj found ▸ rest⟩
        simp only [finish, voice, Voice.commit_writeBack, ← current, rest, true_or, if_true]
    · exact .inl ⟨finish_of_stale voice current,
        fun w found same => absurd (Option.some.inj found ▸ same) current⟩

/-- What holds of the new voice and of all old ones holds of those that are there then. -/
theorem Pool.holds_of_set {P : Voice → Prop} {pool : Pool} {w : Voice}
    (all : ∀ {j : VoiceId} {u : Voice}, pool.voices[j]? = some u → P u) (new : P w)
    {j : VoiceId} {u : Voice} (found : (pool.set id w).voices[j]? = some u) : P u := by
  obtain rfl | before := eq_or_of_getElem?_set found
  · exact new
  · exact all before

namespace Desk

variable {c : Clip} {d e : Desk} {n : Nat} {old : Array Frame}

/-! ### Steps of callers and of the mixer -/

/-- A single step. The write-back of a pass may come after any number of transitions. -/
inductive Move : Desk → Desk → Prop
  | step {d e : Desk} (s : Step d e) : Move d e
  | commit {d : Desk} {id : VoiceId} {p : Pass} {strip : Array Frame}
      (passing : d.stage = .passing id p strip)
      (full : strip.size = d.buffer.size ∨ p.finished = true) : Move d (d.committed id p strip)

theorem moves_of_run (run : Run d e) : Relation.ReflTransGen Move d e :=
  Relation.ReflTransGen.mono (fun _ _ s => Move.step s) _ _ run

/-- What the mixer works with. -/
def bench (d : Desk) : Stage × List VoiceId × Array Frame := (d.stage, d.waiting, d.buffer)

/-- A single step, with the request if it is one. The steps of the mixer are those that get on with
what it works with. -/
inductive Does : Desk → Option Request → Desk → Prop
  | request (d : Desk) (r : Request) : Does d (some r) (d.requested r)
  | deliver (d : Desk) : Does d none { d with clip := d.clip.delivered }
  | mixer {d e : Desk} (s : Move d e) (own : e.bench ≠ d.bench) : Does d none e

theorem Does.move {r : Option Request} (s : Does d r e) : Move d e := by
  cases s with
  | request r => exact .step (.request d r)
  | deliver => exact .step (.deliver d)
  | mixer s => exact s

/-- A frame of a pass. -/
theorem Does.frame {p : Pass} {strip : Array Frame} {v : Voice}
    (passing : d.stage = .passing id p strip) (voice : d.clip.pool.voices[id]? = some v)
    (more : strip.size < d.buffer.size) (unfinished : p.finished = false) :
    Does d none (d.framed id p strip v) := by
  refine .mixer (.step (.frame passing voice more unfinished)) fun same => ?_
  have stage := congrArg Prod.fst same
  rw [bench, bench, passing] at stage
  have sizes := congrArg Array.size (Stage.passing.inj stage).2.2
  rw [Array.size_push] at sizes
  exact Nat.succ_ne_self _ sizes

/-- The end of a pass. -/
theorem Does.commit {p : Pass} {strip : Array Frame} (passing : d.stage = .passing id p strip)
    (full : strip.size = d.buffer.size ∨ p.finished = true) :
    Does d none (d.committed id p strip) := by
  refine .mixer (.commit passing full) fun same => ?_
  have stage := congrArg Prod.fst same
  rw [bench, bench, passing] at stage
  cases stage

/-- A step of the mixer that gets on with nothing changes nothing. -/
theorem Move.does (s : Move d e) : e = d ∨ ∃ r, Does d r e := by
  by_cases own : e.bench = d.bench
  · have stage : e.stage = d.stage := congrArg Prod.fst own
    cases s with
    | commit passing full => exact .inr ⟨none, .commit passing full⟩
    | step s =>
      cases s with
      | request r => exact .inr ⟨r, .request d r⟩
      | deliver => exact .inr ⟨none, .deliver d⟩
      | frame passing voice more unfinished =>
        exact .inr ⟨none, .frame passing voice more unfinished⟩
      | commit passing full => exact .inr ⟨none, .commit passing full⟩
      | @begin frames =>
        -- A mix of no frames over no voices leaves everything as it is.
        have rest : (List.range d.clip.polyphony, Array.replicate frames .silence) =
            (d.waiting, d.buffer) := congrArg Prod.snd own
        obtain ⟨waiting, buffer⟩ := Prod.mk.inj rest
        exact .inl (by rw [waiting, buffer])
      | sight between =>
        rw [between] at stage
        cases stage
      | notice sighted =>
        dsimp only at stage
        rw [sighted] at stage
        split at stage <;> cases stage
      | enter noticed =>
        dsimp only at stage
        rw [noticed] at stage
        split at stage <;> cases stage
  · exact .inr ⟨none, .mixer s own⟩

/-! ### What operations keep -/

/-- A property of voices and one of passes that every operation keeps. -/
structure Law (m : Mixer) (P : Voice → Prop) (Q : Pass → Prop) : Prop where
  makes : ∀ {c : Clip} {r : Request} {j : VoiceId} {v w : Voice}, c.mixer = m → P v →
    r.Makes c j v w → P w
  enter : ∀ {v : Voice} (snapshot : Epoch), P v → Q (.startAt snapshot v)
  next : ∀ {p : Pass} {v : Voice}, Q p → P v → p.finished = false →
    Q (p.next m v).2.1 ∧ P (p.next m v).2.2
  writeBack : ∀ {p : Pass} {v : Voice} (id : VoiceId), Q p → P v → P (p.writeBack m id v).1

/-- All voices have the property, and so has the pass under way, if there is one. -/
structure Upholds (m : Mixer) (P : Voice → Prop) (Q : Pass → Prop) (d : Desk) : Prop where
  mixer_eq : d.clip.mixer = m
  voice : ∀ {id : VoiceId} {v : Voice}, d.clip.pool.voices[id]? = some v → P v
  pass : ∀ {id : VoiceId} {p : Pass} {strip : Array Frame},
    d.stage = .passing id p strip → Q p

variable {P : Voice → Prop} {Q : Pass → Prop}

theorem upholds_resting (made : Pool.make n = .ok c.pool) (fresh : P {}) (old : Array Frame) :
    (resting c old).Upholds c.mixer P Q := by
  refine ⟨rfl, fun {id v} voice => ?_, nofun⟩
  change c.pool.voices[id]? = some v at voice
  rw [Pool.eq_of_make made] at voice
  obtain ⟨-, rfl⟩ := by simpa [Array.getElem?_replicate] using voice
  exact fresh

namespace Law

theorem request (law : Law m P Q) (h : d.Upholds m P Q) (r : Request) :
    (d.requested r).Upholds m P Q := by
  have becomes := r.makes d.clip
  refine ⟨becomes.mixer_eq.trans h.mixer_eq, fun {id w} after => ?_, h.pass⟩
  obtain ⟨v, before, made⟩ := becomes.before after
  exact law.makes h.mixer_eq (h.voice before) made

theorem commit (law : Law m P Q) (h : d.Upholds m P Q) {p : Pass} {strip : Array Frame}
    (passing : d.stage = .passing id p strip) : (d.committed id p strip).Upholds m P Q := by
  refine ⟨h.mixer_eq, fun {j u} found => ?_, nofun⟩
  change (d.clip.pool.finish d.clip.mixer id p).2.voices[j]? = some u at found
  obtain ⟨dropped, -⟩ | ⟨v, voice, -, -, -, written⟩ := d.clip.pool.finish_cases d.clip.mixer id p
  · rw [dropped] at found
    exact h.voice found
  · rw [written, h.mixer_eq] at found
    exact Pool.holds_of_set h.voice (law.writeBack id (h.pass passing) (h.voice voice)) found

/-- A step keeps what operations keep. -/
theorem move (law : Law m P Q) (h : d.Upholds m P Q) (s : Move d e) : e.Upholds m P Q := by
  cases s with
  | commit passing full => exact law.commit h passing
  | step s =>
    cases s with
    | request r => exact law.request h r
    | deliver => exact ⟨h.mixer_eq, h.voice, h.pass⟩
    | begin => exact ⟨h.mixer_eq, h.voice, h.pass⟩
    | sight => exact ⟨h.mixer_eq, h.voice, nofun⟩
    | notice =>
      refine ⟨h.mixer_eq, h.voice, fun passing => ?_⟩
      dsimp only at passing
      split at passing <;> cases passing
    | enter noticed voice =>
      refine ⟨h.mixer_eq, h.voice, fun passing => ?_⟩
      dsimp only at passing
      split at passing <;> cases passing
      exact law.enter _ (h.voice voice)
    | frame passing voice more unfinished =>
      rw [Desk.framed, h.mixer_eq]
      obtain ⟨pass, after⟩ := law.next (h.pass passing) (h.voice voice) unfinished
      refine ⟨h.mixer_eq, fun found => Pool.holds_of_set h.voice after found, fun same => ?_⟩
      cases same
      exact pass
    | commit passing full => exact law.commit h passing

theorem run (law : Law m P Q) (h : d.Upholds m P Q) (run : Relation.ReflTransGen Move d e) :
    e.Upholds m P Q := by
  induction run with
  | refl => exact h
  | tail _ last ih => exact law.move ih last

end Law

end Desk

end SamplePlayer
