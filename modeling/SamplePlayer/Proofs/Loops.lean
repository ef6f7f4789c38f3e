import SamplePlayer.Proofs.Desk.Works
import SamplePlayer.Proofs.Lifecycle

/-!
# How often a voice starts over

The loops that are set on a voice are taken one by one, at any frame of a pass, but listeners hear
of them when the pass is written back, of all at once. In between the pass itself counts them. So
what was heard of, what the pass has counted and what the voice has to go are together what was set.
This is so as long as the voice is in use and no transition overtakes a pass; a pass that is dropped
takes its loops with it.

## Main definitions

* `Desk.wraps`, `Desk.Ended`: the loops of the pass under way, and whether it came to its end.
* `Desk.Calm`, `Desk.CalmRun`, `Desk.Spell`: a while in which no pass is overtaken.
* `Desk.Outlay`: what a step does to the loops of a voice.
* `Desk.Sets`, `Desk.Stops`: loops are set in a run where no pass is overtaken; a voice is stopped.

## Main results

* `Pass.count_loop_writeBack`: loops are told of at the end of a pass.
* `Desk.Does.outlay`, `Desk.Spell.budget`: what a step and a while do to the loops of a voice.
* `Desk.Run.loop_budget`: no loop is lost and none is made.
* `Desk.not_loop_budget_of_told`: where loops are set amid a pass, listeners hear of other numbers.
-/

namespace SamplePlayer

/-! ### Passes -/

namespace Pass

variable {m : Mixer} {id : VoiceId} {p : Pass} {v : Voice}

/-- Writing back leaves the loops that the voice has to go. -/
@[simp] theorem loops_writeBack : (p.writeBack m id v).1.loops = v.loops := by
  simp only [writeBack]
  split
  · split
    · unfold Pool.retired
      split <;> rfl
    · rfl
  · rfl

/-- Writing back tells of every loop that the pass took, and of a stop only at the end. -/
theorem count_loop_writeBack (m : Mixer) (id : VoiceId) (p : Pass) (v : Voice) :
    let told := Event.occurrences id (p.writeBack m id v).2.events
    told.count .loop = p.loops ∧ (.stop ∈ told → p.finished = true) := by
  cases finished : p.finished
  · rw [writeBack_of_unfinished finished, Event.occurrences_replicate_self]
    exact ⟨List.count_replicate_self, fun stop => nomatch List.eq_of_mem_replicate stop⟩
  · have stops : (Event.occurrences id
        (if v.playing then [Event.voice .stop id m.bank.lastFrame] else [])).count .loop = 0 := by
      split <;> simp
    have releases (ended : Option Float) : (Event.occurrences id
        (ended.toList.map (Event.voice .release id))).count .loop = 0 := by
      cases ended <;> simp
    refine ⟨?_, fun _ => rfl⟩
    simp only [writeBack, finished, if_true, Event.occurrences_append,
      Event.occurrences_replicate_self, List.count_append, List.count_replicate_self]
    rw [stops, releases, Nat.add_zero]

end Pass

/-! ### Voices -/

namespace Voice

variable {v : Voice}

/-- A voice that counts its loops takes one of them. -/
theorem toInt_loops_takeLoop (counts : 0 ≤ v.loops.toInt) (again : v.takeLoop.1 = true) :
    0 ≤ v.takeLoop.2.loops.toInt ∧ v.takeLoop.2.loops.toInt + 1 = v.loops.toInt := by
  obtain ⟨n, loops⟩ := Int.eq_ofNat_of_zero_le counts
  obtain ⟨-, taken⟩ | ⟨rest, some, taken, left⟩ := takeLoop_of_counts loops
  · rw [taken] at again
    cases again
  · rw [taken]
    dsimp only
    omega

/-- A voice that goes on forever takes no loop. -/
theorem loops_takeLoop_of_forever (forever : v.loops = loopForever) :
    v.takeLoop.1 = true ∧ v.takeLoop.2.loops = loopForever := by
  simp [takeLoop, forever, loopForever]

/-- A voice that counts its loops and does not start over has none to go. -/
theorem loops_of_not_again (counts : 0 ≤ v.loops.toInt) (done : v.takeLoop.1 = false) :
    v.loops = 0 := by
  obtain ⟨n, loops⟩ := Int.eq_ofNat_of_zero_le counts
  obtain ⟨rfl, -⟩ | ⟨rest, some, taken, left⟩ := takeLoop_of_counts loops
  · exact Int32.toInt_inj.mp loops
  · rw [taken] at done
    cases done

/-- What is set is the count itself, or that there is none. -/
theorem loops_setLoops (v : Voice) (count : Int32) :
    (0 ≤ count.toInt → (v.setLoops count).loops = count) ∧
      (count.toInt < 0 → (v.setLoops count).loops = loopForever) := by
  have bound : count < loopForever ↔ count.toInt < -1 := Int32.lt_iff_toInt_lt
  unfold setLoops
  constructor
  · intro counts
    refine if_neg fun below => ?_
    have least := bound.mp below
    omega
  · intro negative
    dsimp only
    split
    · rfl
    · rename_i above
      rw [bound] at above
      exact Int32.toInt_inj.mp (show count.toInt = -1 by omega)

end Voice

/-! ### Requests -/

/-- A request that does not set the loops of a voice in use leaves them. -/
theorem Request.Makes.loops_eq {c : Clip} {r : Request} {id : VoiceId} {v w : Voice}
    (made : r.Makes c id v w) (sound : c.pool.Sound) (voice : c.pool.voices[id]? = some v)
    (active : v.active) (others : ∀ count, r ≠ .setLoops id count) : w.loops = v.loops := by
  -- A voice in use is not among the free ones.
  have taken : c.pool.free.head? ≠ some id := by
    intro next
    have free := (sound.mem_free_iff_of_voice voice).mp (List.mem_of_mem_head? next)
    rw [active] at free
    cases free
  cases made with
  | kept | turned | started | stopped | placed | released => rfl
  | @adjusted a none sets =>
    cases a with
    | volume | speed | recycle => rfl
    | loops count =>
      cases r <;> cases sets
      exact absurd rfl (others count)
  | obtained one next => exact absurd next taken
  | launched two next => exact absurd next taken

/-! ### Desks -/

namespace Desk

variable {c : Clip} {d e f : Desk} {id : VoiceId} {v w : Voice} {told : List Occurrence}
  {r : Option Request} {l : ListenerId} {old : Array Frame} {n : Nat} {count : Int32}

/-- How often the pass over the voice `id` that is under way started over. -/
def wraps (d : Desk) (id : VoiceId) : Nat := ((d.pass? id).map fun (p, _) => p.loops).getD 0

/-- The pass over the voice `id` that is under way came to its end. -/
def Ended (d : Desk) (id : VoiceId) : Prop :=
  ∃ p strip, d.pass? id = some (p, strip) ∧ p.finished = true

/-- No transition overtook the pass that is under way. -/
def Calm (d : Desk) : Prop := ∀ id p strip, d.stage = .passing id p strip → d.turns = 0

/-- A run in which no pass is overtaken. -/
def CalmRun : Desk → Desk → Prop := Relation.ReflTransGen fun d e => Step d e ∧ e.Calm

/-- A while in which a voice is in use, nobody sets its loops, and no pass is overtaken. -/
inductive Spell (id : VoiceId) (d : Desk) : Desk → Prop
  | start : Spell id d d
  | step {e f : Desk} {r : Option Request} (before : Spell id d e)
      (active : e.clip.pool.inUse id) (calm : e.Calm) (does : Does e r f)
      (others : ∀ count, r ≠ some (.setLoops id count)) : Spell id d f

/-- What a step does to the loops of the voice `id`, which is `v` before and `w` after it. -/
inductive Outlay (id : VoiceId) (d e : Desk) (v w : Voice) (told : List Occurrence) : Prop
  -- It takes none, and tells of those that the pass no longer counts.
  | kept (loops : w.loops = v.loops) (wraps : told.count .loop + e.wraps id = d.wraps id)
      (ended : e.Ended id → d.Ended id)
  | taken (again : v.takeLoop.1 = true) (loops : w.loops = v.takeLoop.2.loops) (silent : told = [])
      (wraps : e.wraps id = d.wraps id + 1) (going : ¬ e.Ended id)
  | ends (done : v.takeLoop.1 = false) (loops : w.loops = v.loops) (silent : told = [])
      (wraps : e.wraps id = d.wraps id)

theorem CalmRun.run (run : CalmRun d e) : Run d e :=
  Relation.ReflTransGen.mono (fun _ _ => And.left) _ _ run

theorem wraps_of_pass {p : Pass} {strip : Array Frame} (pass : d.pass? id = some (p, strip)) :
    d.wraps id = p.loops := by
  simp [wraps, pass]

theorem wraps_of_none (none : d.pass? id = none) : d.wraps id = 0 := by
  simp [wraps, none]

theorem ended_iff {p : Pass} {strip : Array Frame} (pass : d.pass? id = some (p, strip)) :
    d.Ended id ↔ p.finished = true := by
  simp [Ended, pass]

theorem not_ended (none : d.pass? id = none) : ¬ d.Ended id := by
  simp [Ended, none]

/-- No pass is overtaken by many transitions if it is overtaken by none. -/
theorem Calm.step (calm : d.Calm) (does : Does d r e) : Step d e := by
  cases does with
  | request r => exact .request d r
  | deliver => exact .deliver d
  | mixer s =>
    cases s with
    | step s => exact s
    | commit passing full =>
      exact .commit passing full ((calm _ _ _ passing).symm ▸ Nat.two_pow_pos 31)

/-- What a step of the mixer does to the loops of a voice. A stop is told of at the end of a pass
only. -/
theorem Works.outlay (works : Works id d e told) (h : d.Sound) (calm : d.Calm)
    (voice : d.voice? id = some v) : ∃ w, e.voice? id = some w ∧ Outlay id d e v w told ∧
      (.stop ∈ told → d.Ended id) := by
  cases works with
  | aside same pass =>
    refine ⟨v, same.trans voice, .kept rfl ?_ ?_, nofun⟩
    · simp [wraps, pass]
    · simp [Ended, pass]
  | enter found after none pass =>
    obtain rfl := Option.some.inj (found.symm.trans voice)
    refine ⟨_, after, .kept rfl ?_ fun ended => ?_, nofun⟩
    · rw [wraps_of_pass pass, wraps_of_none none]
      rfl
    · exact absurd ((ended_iff pass).mp ended) nofun
  | @frame p strip u before found unfinished after pass =>
    obtain rfl := Option.some.inj (found.symm.trans voice)
    refine ⟨_, after, ?_, nofun⟩
    have counted := wraps_of_pass pass
    obtain ⟨going, loops, same⟩ | ⟨again, going, loops, taken⟩ | ⟨done, loops, same⟩ :=
      p.next_cases d.clip.mixer u
    · refine .kept (by rw [same]) ?_ fun ended => ?_
      · rw [counted, wraps_of_pass before, loops, List.count_nil, Nat.zero_add]
      · rw [ended_iff pass, going, unfinished] at ended
        cases ended
    · refine .taken again (by rw [taken]) rfl ?_ ?_
      · rw [counted, wraps_of_pass before, loops]
      · rw [ended_iff pass, going, unfinished]
        exact Bool.false_ne_true
    · exact .ends done (by rw [same]) rfl (by rw [counted, wraps_of_pass before, loops])
  | @drop p strip before stale after none =>
    -- No transition came in, so the pass is not stale.
    have passing := passing_of_pass? before
    obtain ⟨u, found, epoch, -⟩ := h.subject id p.snapshot (by rw [passing]; rfl)
    rw [calm id p strip passing, Epoch.after_zero] at epoch
    exact absurd (stale u found epoch) (by simp [(h.pool.settled found).at_rest])
  | @writeBack p strip u before found after none =>
    obtain rfl := Option.some.inj (found.symm.trans voice)
    obtain ⟨loops, stops⟩ := p.count_loop_writeBack d.clip.mixer id u
    refine ⟨_, after, .kept Pass.loops_writeBack ?_ fun ended => absurd ended (not_ended none),
      fun stop => (ended_iff before).mpr (stops stop)⟩
    rw [loops, wraps_of_none none, wraps_of_pass before, Nat.add_zero]

/-- What a step does to the loops of a voice in use, if it does not set them and no pass is
overtaken, and what it tells. -/
theorem Does.outlay (does : Does d r e) (h : d.Sound) (calm : d.Calm)
    (recording : d.clip.listeners.Recording l) (voice : d.voice? id = some v) (active : v.active)
    (others : ∀ count, r ≠ some (.setLoops id count)) :
    ∃ w told, e.voice? id = some w ∧ e.clip.listeners.Recording l ∧
      e.heard l id = d.heard l id ++ told ∧ Outlay id d e v w told ∧
      (r = none → .stop ∈ told → d.Ended id) := by
  cases r with
  | none =>
    obtain ⟨told, works, tells⟩ := does.works id
    obtain ⟨w, after, outlay, stop⟩ := works.outlay h calm voice
    obtain ⟨recording, heard⟩ := tells l recording
    exact ⟨w, told, after, recording, heard, outlay, fun _ => stop⟩
  | some request =>
    cases does
    have becomes := request.makes d.clip
    obtain ⟨w, after, made⟩ := becomes.after voice
    obtain ⟨recording, events, heard, none⟩ := becomes.heard l recording
    have loops := made.loops_eq h.pool voice active fun count same => others count (same ▸ rfl)
    refine ⟨w, Event.occurrences id events, after, recording, ?_,
      .kept loops ?_ fun ended => ended, nofun⟩
    · unfold Desk.heard
      rw [← Event.occurrences_append, ← heard]
      rfl
    · rw [List.count_eq_zero.mpr (none id), Nat.zero_add]
      rfl

namespace Outlay

theorem counts (outlay : Outlay id d e v w told) (counts : 0 ≤ v.loops.toInt) :
    0 ≤ w.loops.toInt ∧
      told.count .loop + e.wraps id + w.loops.toInt = d.wraps id + v.loops.toInt := by
  cases outlay with
  | kept loops wraps => exact ⟨loops ▸ counts, by rw [loops]; omega⟩
  | taken again loops silent wraps =>
    obtain ⟨nonneg, less⟩ := Voice.toInt_loops_takeLoop counts again
    refine ⟨loops ▸ nonneg, ?_⟩
    rw [loops, silent, wraps, List.count_nil]
    push_cast
    omega
  | ends done loops silent wraps =>
    refine ⟨loops ▸ counts, ?_⟩
    rw [loops, silent, wraps, List.count_nil]
    push_cast
    omega

theorem forever (outlay : Outlay id d e v w told) (forever : v.loops = loopForever) :
    w.loops = loopForever := by
  cases outlay with
  | kept loops => rw [loops, forever]
  | taken again loops => rw [loops, (Voice.loops_takeLoop_of_forever forever).2]
  | ends done loops => rw [loops, forever]

/-- A pass comes to its end when the voice has no loops to go. -/
theorem ended (outlay : Outlay id d e v w told)
    (set : 0 ≤ v.loops.toInt ∨ v.loops = loopForever) (before : d.Ended id → v.loops = 0)
    (after : e.Ended id) : w.loops = 0 := by
  cases outlay with
  | kept loops wraps ended => rw [loops, before (ended after)]
  | taken again loops silent wraps going => exact absurd after going
  | ends done loops =>
    rw [loops]
    obtain counts | forever := set
    · exact Voice.loops_of_not_again counts done
    · rw [(Voice.loops_takeLoop_of_forever forever).1] at done
      cases done

end Outlay

/-- What was heard of, what the pass has counted and what the voice has to go are together the same
all the while. -/
theorem Spell.budget (spell : Spell id d e) (h : d.Sound) (recording : d.clip.listeners.Recording l)
    (voice : d.voice? id = some v) : e.Sound ∧ e.clip.listeners.Recording l ∧
      ∃ w told, e.voice? id = some w ∧ e.heard l id = d.heard l id ++ told ∧
        (0 ≤ v.loops.toInt → 0 ≤ w.loops.toInt ∧
          told.count .loop + e.wraps id + w.loops.toInt = d.wraps id + v.loops.toInt) ∧
        (v.loops = loopForever → w.loops = loopForever) ∧
        (0 ≤ v.loops.toInt ∨ v.loops = loopForever → ¬ d.Ended id → e.Ended id → w.loops = 0) := by
  -- By induction on the spell; a pass that ends must find no loops, so its end is carried along.
  induction spell with
  | start =>
    refine ⟨h, recording, v, [], voice, (List.append_nil _).symm, fun counts => ⟨counts, ?_⟩,
      fun endless => endless, fun _ going ended => absurd ended going⟩
    rw [List.count_nil]
    omega
  | @step e f r before active calm does others ih =>
    obtain ⟨sound, recording, u, told, voice, heard, counts, forever, ended⟩ := ih
    rw [Pool.inUse_of_voice voice] at active
    obtain ⟨w, more, after, recording, heard', outlay, -⟩ :=
      does.outlay sound calm recording voice active others
    refine ⟨sound.step (calm.step does), recording, w, told ++ more, after, ?_, fun counted => ?_,
      fun endless => outlay.forever (forever endless), fun set going => ?_⟩
    · rw [heard', heard, List.append_assoc]
    · obtain ⟨nonneg, first⟩ := counts counted
      obtain ⟨nonneg, second⟩ := outlay.counts nonneg
      refine ⟨nonneg, ?_⟩
      rw [List.count_append]
      push_cast
      omega
    · refine outlay.ended (set.imp (fun counted => (counts counted).1) forever) (ended set going)

/-! ### Loops that are set amid a pass -/

theorem calmRun_blipPassing : CalmRun (resting blip #[]) (blipPassing 1) := by
  refine .head ⟨.request _ (.play 1.0 1.0 1.0 3), nofun⟩ (.head ⟨.begin 1 rfl rfl, nofun⟩ ?_)
  refine .head ⟨.sight (v := blipVoice) rfl rfl rfl, nofun⟩ (.head ⟨.notice rfl rfl, nofun⟩ ?_)
  exact .single ⟨.enter (v := blipVoice) rfl rfl, fun _ _ _ _ => rfl⟩

/-- The pass over the voice of `blipPlaying` took its only frame when there were `loops` loops. -/
def blipTaken (loops : Int32) : Desk :=
  ((blipPassing 1).requested (.setLoops 0 loops)).framed 0 (.start blipVoice) #[]
    (blipVoice.setLoops loops)

theorem calmRun_blipTaken (loops : Int32) : CalmRun (resting blip #[]) (blipTaken loops) :=
  (calmRun_blipPassing.tail ⟨.request _ (.setLoops 0 loops), fun _ _ _ _ => rfl⟩).tail
    ⟨.frame rfl rfl Nat.zero_lt_one rfl, fun _ _ _ _ => rfl⟩

/-- Then the loops are set to `count`. -/
def blipSet (loops count : Int32) : Desk := (blipTaken loops).requested (.setLoops 0 count)

/-- And the pass comes to its end. -/
def blipDone (loops count : Int32) : Desk :=
  let (frame, p, _) := (Pass.start blipVoice).next blip.mixer (blipVoice.setLoops loops)
  (blipSet loops count).committed 0 p #[frame]

theorem voice_blipTaken (loops : Int32) :
    ∃ v, (blipTaken loops).voice? 0 = some v ∧ v.active := by
  have voice : ((blipPassing 1).requested (.setLoops 0 loops)).clip.pool.voices[0]? =
    some (blipVoice.setLoops loops) := rfl
  refine ⟨((Pass.start blipVoice).next blip.mixer (blipVoice.setLoops loops)).2.2, ?_, ?_⟩
  · rw [voice?, blipTaken, framed, Pool.getElem?_set, if_pos rfl, voice]
    rfl
  · rw [(Pass.next_flags ..).1]
    rfl

theorem voice_blipSet (loops count : Int32) : ∃ v, (blipSet loops count).voice? 0 = some v ∧
    v.active ∧ v.loops = (blipVoice.setLoops count).loops := by
  obtain ⟨v, voice, active⟩ := voice_blipTaken loops
  obtain ⟨after, done, -, -, found, -⟩ := Clip.on_adjust_of_active voice active (.loops count)
  have here : (blipSet loops count).clip = after := congrArg Prod.snd done
  exact ⟨v.setLoops count, by rw [voice?, here]; exact found, active, rfl⟩

theorem does_blipDone (loops count : Int32) :
    Does (blipSet loops count) none (blipDone loops count) :=
  .commit rfl (.inl rfl)

theorem spell_blipTaken (loops : Int32) :
    Spell 0 ((blipPassing 1).requested (.setLoops 0 loops)) (blipTaken loops) :=
  .step .start rfl (fun _ _ _ _ => rfl) (.frame rfl rfl Nat.zero_lt_one rfl)
    fun _ => (Option.some_ne_none _).symm

theorem spell_blipDone (loops count : Int32) :
    Spell 0 (blipSet loops count) (blipDone loops count) := by
  obtain ⟨v, voice, active, -⟩ := voice_blipSet loops count
  exact .step .start ((Pool.inUse_of_voice voice).trans active) (fun _ _ _ _ => rfl)
    (does_blipDone loops count) fun _ => (Option.some_ne_none _).symm

/-! ### The balance -/

/-- Take a clip that has just been made, any run of calls and of mixing, and a call that sets the
loops of a voice in use. As long as nobody sets them again, the voice is not released, and no
transition of a voice overtakes the pass over it, the loops that a listener heard of since, those
that the pass under way has counted, and those that the voice has to go are together as many as were
set, with those that a pass under way had counted by then. If the voice was set to go on forever it
does. And whenever the mixer stops the voice it has no loops to go, so it does not stop one that
goes on forever; only a pass that has been at its end ever since the loops were set ends all the
same. -/
theorem Run.loop_budget (made : Pool.make n = .ok c.pool) (recording : c.listeners.Recording l)
    (run : Run (resting c old) d) (active : d.clip.pool.inUse id) (count : Int32)
    (spell : Spell id (d.requested (.setLoops id count)) e) :
    let set := d.requested (.setLoops id count)
    ∃ v told, e.voice? id = some v ∧ e.heard l id = set.heard l id ++ told ∧
      (0 ≤ count.toInt →
        told.count .loop + e.wraps id + v.loops.toInt = set.wraps id + count.toInt) ∧
      (count.toInt < 0 → v.loops = loopForever) ∧
      (∀ g, Spell id set g → ¬ g.Ended id → Spell id g e → e.clip.pool.inUse id → e.Calm →
        ∀ f, Does e none f → ∃ more, f.heard l id = e.heard l id ++ more ∧
          (.stop ∈ more → 0 ≤ count.toInt ∧ v.loops = 0)) := by
  intro set
  obtain ⟨sound, -⟩ := Pool.sound_of_make made
  have start := sound_resting sound old
  obtain ⟨events, reports⟩ := run.reports start
  obtain ⟨recording, -⟩ := reports.heard l recording
  obtain ⟨u, found, active⟩ := (d.clip.pool.active_or_refused id).resolve_right
    fun refused => Bool.false_ne_true (refused.1.symm.trans active)
  -- The call finds the voice in use and sets its loops; nothing is told of it.
  obtain ⟨after, done, -, listeners, voice, -⟩ :=
    Clip.on_adjust_of_active found active (.loops count)
  have here : set.clip = after := congrArg Prod.snd done
  obtain ⟨counted, endless⟩ := u.loops_setLoops count
  have begun : set.Sound := (start.run run).request (.setLoops id count)
  have listening : set.clip.listeners.Recording l := here ▸ listeners ▸ recording
  have subject : set.voice? id = some (u.setLoops count) := by rw [voice?, here]; exact voice
  obtain ⟨sound, recording, v, told, voice, heard, counts, forever, -⟩ :=
    spell.budget begun listening subject
  refine ⟨v, told, voice, heard, fun nonneg => ?_, fun negative => forever (endless negative),
    fun g first going later active calm f does => ?_⟩
  · rw [counted nonneg] at counts
    exact (counts nonneg).2
  · -- The pass that stops the voice came to its end after `g`, where loops were counted or endless.
    obtain ⟨between, listening, w, _, amid, -, counts', forever', -⟩ :=
      first.budget begun listening subject
    obtain ⟨-, -, v', -, same, -, -, -, ended⟩ := later.budget between listening amid
    obtain rfl := Option.some.inj (voice.symm.trans same)
    rw [Pool.inUse_of_voice voice] at active
    obtain ⟨x, more, -, -, heard, -, stops⟩ :=
      does.outlay sound calm recording voice active fun _ => (Option.some_ne_none _).symm
    refine ⟨more, heard, fun stop => ?_⟩
    have known : 0 ≤ w.loops.toInt ∨ w.loops = loopForever := by
      obtain negative | nonneg := Int.lt_or_le count.toInt 0
      · exact .inr (forever' (endless negative))
      · exact .inl (counts' (by rwa [counted nonneg])).1
    have none := ended known going (stops rfl stop)
    refine ⟨Int.not_lt.mp fun negative => ?_, none⟩
    have minus := forever (endless negative)
    rw [none] at minus
    contradiction

/-- The pass over the voice of `blip` took one loop when the loops are set to two, so there are
three in all. If they are set to none before the pass takes its only frame, the mixer stops the
voice. -/
theorem loop_budget_blip :
    (∃ v told, (blipDone 1 2).voice? 0 = some v ∧
      (blipDone 1 2).heard 0 0 = (blipSet 1 2).heard 0 0 ++ told ∧
      told.count .loop + v.loops.toInt = 1 + 2) ∧
    ∃ v e, (blipTaken 0).voice? 0 = some v ∧ Does (blipTaken 0) none e ∧
      e.heard 0 0 = (blipTaken 0).heard 0 0 ++ [.stop, .release] ∧ v.loops = 0 := by
  have recording : blip.listeners.Recording 0 := ⟨by decide, _, rfl, rfl, rfl, rfl⟩
  constructor
  · obtain ⟨v, voice, active⟩ := voice_blipTaken 1
    obtain ⟨w, told, after, heard, balance, -⟩ :=
      (calmRun_blipTaken 1).run.loop_budget (n := 1) rfl recording
        ((Pool.inUse_of_voice voice).trans active) 2 (spell_blipDone 1 2)
    exact ⟨w, told, after, heard, balance (by decide)⟩
  · obtain ⟨v, told, voice, -, -, -, stops⟩ :=
      (run_blipPassing 1).loop_budget (n := 1) rfl recording rfl 0 (spell_blipTaken 0)
    obtain ⟨u, found, active⟩ := voice_blipTaken 0
    -- When the loops were set, the pass had not taken a frame.
    have going : ¬ ((blipPassing 1).requested (.setLoops 0 0)).Ended 0 := by
      rintro ⟨p, strip, pass, finished⟩
      cases pass
      cases finished
    obtain ⟨e, ends, heard⟩ : ∃ e, Does (blipTaken 0) none e ∧
        e.heard 0 0 = (blipTaken 0).heard 0 0 ++ [.stop, .release] :=
      ⟨_, .commit rfl (.inl rfl), by decide +kernel⟩
    obtain ⟨more, after, none⟩ := stops _ .start going (spell_blipTaken 0)
      ((Pool.inUse_of_voice found).trans active) (fun _ _ _ _ => rfl) e ends
    obtain rfl := List.append_cancel_left (after.symm.trans heard)
    exact ⟨v, e, voice, ends, heard, (none List.mem_cons_self).2⟩

/-- In a run of a new clip in which no pass is overtaken the loops of a voice in use are set at `d`,
and a spell leads from there to `e`. -/
structure Sets (c : Clip) (l : ListenerId) (id : VoiceId) (count : Int32) (d e : Desk) : Prop where
  made : ∃ n, Pool.make n = .ok c.pool
  recording : c.listeners.Recording l
  run : ∃ old, CalmRun (resting c old) d
  active : d.clip.pool.inUse id
  spell : Spell id (d.requested (.setLoops id count)) e

/-- The mixer is about to stop a voice in use, which is `v`, and no transition overtook its pass. -/
def Stops (e : Desk) (l : ListenerId) (id : VoiceId) (v : Voice) : Prop :=
  e.clip.pool.inUse id ∧ e.Calm ∧ e.voice? id = some v ∧
    ∃ f more, Does e none f ∧ f.heard l id = e.heard l id ++ more ∧ .stop ∈ more

theorem sets_blipSet (loops count : Int32) :
    Sets blip 0 0 count (blipTaken loops) (blipSet loops count) where
  made := ⟨1, rfl⟩
  recording := ⟨by decide, _, rfl, rfl, rfl, rfl⟩
  run := ⟨#[], calmRun_blipTaken loops⟩
  active := by
    obtain ⟨v, voice, active⟩ := voice_blipTaken loops
    rw [Pool.inUse_of_voice voice, active]
  spell := .start

/-- The balance does not hold without the loops that a pass has counted when the loops are set, not
even between two passes. And a pass that was at its end then stops its voice all the same, with
loops to go or set to go on forever. -/
theorem not_loop_budget_of_told :
    (¬ ∀ c l id count d e v told, Sets c l id count d e → 0 ≤ count.toInt → e.stage = .between →
      e.voice? id = some v →
      e.heard l id = (d.requested (.setLoops id count)).heard l id ++ told →
        told.count .loop + v.loops.toInt = count.toInt) ∧
    (¬ ∀ c l id count d e v, Sets c l id count d e → 0 ≤ count.toInt → e.Stops l id v →
      v.loops = 0) ∧
    ¬ ∀ c l id count d e v, Sets c l id count d e → count.toInt < 0 → ¬ e.Stops l id v := by
  have stops (count : Int32) (heard : (blipDone 0 count).heard 0 0 =
      (blipSet 0 count).heard 0 0 ++ [.stop, .release]) :
      ∃ v, v.loops = (blipVoice.setLoops count).loops ∧ (blipSet 0 count).Stops 0 0 v := by
    obtain ⟨v, voice, active, loops⟩ := voice_blipSet 0 count
    exact ⟨v, loops, (Pool.inUse_of_voice voice).trans active, fun _ _ _ _ => rfl, voice, _, _,
      does_blipDone 0 count, heard, List.mem_cons_self⟩
  refine ⟨fun budget => ?_, fun last => ?_, fun never => ?_⟩
  · have sets := sets_blipSet 1 2
    obtain ⟨v, voice, two⟩ : ∃ v, (blipDone 1 2).voice? 0 = some v ∧ v.loops = 2 :=
      Option.map_eq_some_iff.mp (by decide +kernel)
    have heard : (blipDone 1 2).heard 0 0 = (blipSet 1 2).heard 0 0 ++ [.loop] := by
      decide +kernel
    have sum := budget _ _ _ _ _ _ v _ { sets with spell := spell_blipDone 1 2 } (by decide) rfl
      voice heard
    rw [two] at sum
    revert sum
    decide
  · obtain ⟨v, loops, stops⟩ := stops 5 (by decide +kernel)
    have zero := last _ _ _ _ _ _ v (sets_blipSet 0 5) (by decide) stops
    rw [loops] at zero
    revert zero
    decide
  · obtain ⟨v, -, stops⟩ := stops (-1) (by decide +kernel)
    exact never _ _ _ _ _ _ v (sets_blipSet 0 (-1)) (by decide) stops

end Desk

end SamplePlayer
