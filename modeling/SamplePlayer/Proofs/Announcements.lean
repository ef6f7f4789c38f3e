import Mathlib.Data.List.Induction
import Mathlib.Data.List.Nodup
import SamplePlayer.Proofs.Recording

/-!
# Who hears what

Events are queued by several calls and handed out by others, while listeners come and go. Whatever
the order of these calls, the deliveries cut the queue into consecutive pieces, so that every event
is in one of them. A delivery goes to the listeners that were added and not removed before it, the
earliest first. A listener therefore hears the deliveries between the two calls that are about it,
and nothing else, wherever the events in them were queued.

## Main definitions

* `Listeners.Use`: a call on the listeners; `Listeners.run`, `Listeners.after`: calls one after the
  other.
* `Listeners.Delivery`: events that are handed out together, with those that they go to.
* `Listeners.Registered`: a listener was added and not removed.

## Main results

* `Listeners.Delivery.length_hearings`, `Listeners.Delivery.getElem?_hearings`: who hears what when
  events are handed out.
* `Listeners.mem_registered`, `Listeners.pairwise_registered`: the register.
* `Listeners.handedOut_append_pending`: what the deliveries and the queue hold together.
* `Listeners.mailbox_of_spell`: what a listener heard.
* `Listeners.each_once`: all of it, for any calls.
-/

namespace SamplePlayer.Listeners

/-- A call on the listeners of a clip. -/
inductive Use where
  | add (box : Mailbox)
  | remove (id : ListenerId)
  | post (e : Event)
  | postAll (events : List Event)
  | emit (e : Event)
  | deliver
  | tryDeliver

/-- Events that are handed out together, and the listeners they go to. -/
structure Delivery where
  events : List Event
  audience : List ListenerId

/-- The events reach the listeners one by one: each goes to all of them before the next one does. -/
def Delivery.hearings (d : Delivery) : List (ListenerId × Event) :=
  d.events.flatMap fun e => d.audience.map fun id => (id, e)

namespace Use

/-- The listeners after a call, with no other one under way. -/
def perform (l : Listeners) : Use → Listeners
  | add box => (l.add box).2
  | remove id => (l.remove id).2
  | post e => l.post e
  | postAll events => l.postAll events
  | emit e => l.emit e
  | deliver => l.deliver
  | tryDeliver => l.tryDeliver false

/-- The events that a call queues. -/
def queues : Use → List Event
  | post e | emit e => [e]
  | postAll events => events
  | _ => []

/-- Whether a call hands out the queue. -/
def delivers : Use → Bool
  | emit _ | deliver | tryDeliver => true
  | _ => false

/-- Whether a call adds a listener. -/
def adds : Use → Bool
  | add _ => true
  | _ => false

/-- What a call hands out, and to whom. -/
def delivery? (l : Listeners) (u : Use) : Option Delivery :=
  if u.delivers then some ⟨l.pending ++ u.queues, l.registered⟩ else none

end Use

/-- The listeners after calls one after the other. -/
def run (l : Listeners) (uses : List Use) : Listeners := uses.foldl Use.perform l

/-- What the calls hand out. -/
def deliveries (l : Listeners) : List Use → List Delivery
  | [] => []
  | u :: uses => (u.delivery? l).toList ++ (u.perform l).deliveries uses

/-- The events that the calls hand out, in order. -/
def handedOut (l : Listeners) (uses : List Use) : List Event :=
  (l.deliveries uses).flatMap Delivery.events

/-- The listeners of a new clip after these calls. -/
def after (uses : List Use) : Listeners := run {} uses

/-- The number of listeners that were added, which is the number that the next one gets. -/
def added (uses : List Use) : Nat := uses.countP Use.adds

/-- The listener was added and not removed since. -/
def Registered (uses : List Use) (id : ListenerId) : Prop :=
  ∃ before box rest, uses = before ++ .add box :: rest ∧ added before = id ∧ .remove id ∉ rest

variable {l : Listeners} {u : Use} {uses : List Use} {id : ListenerId} {box : Mailbox}

/-! ### Handing out -/

/-- Every event meets every listener once. -/
theorem Delivery.length_hearings (d : Delivery) :
    d.hearings.length = d.events.length * d.audience.length := by
  simp [hearings, List.length_flatMap]

/-- The hearings are in the order of the events, and those of one event in that of the audience. -/
theorem Delivery.getElem?_hearings (d : Delivery) {i j : Nat} {e : Event} {id : ListenerId}
    (said : d.events[i]? = some e) (there : d.audience[j]? = some id) :
    d.hearings[i * d.audience.length + j]? = some (id, e) := by
  obtain ⟨events, audience⟩ := d
  change audience[j]? = some id at there
  have near : j < audience.length := (List.getElem?_eq_some_iff.mp there).1
  have row (e : Event) : (audience.map fun id => (id, e)).length = audience.length :=
    List.length_map _
  -- Each event before it takes as many places as there are listeners.
  induction events generalizing i with
  | nil => cases said
  | cons first events ih =>
    change ((audience.map fun id => (id, first)) ++
      hearings ⟨events, audience⟩)[i * audience.length + j]? = _
    cases i with
    | zero =>
      obtain rfl : first = e := Option.some.inj said
      rw [Nat.zero_mul, Nat.zero_add, List.getElem?_append_left (row first ▸ near),
        List.getElem?_map, there, Option.map_some]
    | succ i =>
      have place : (i + 1) * audience.length + j = audience.length + (i * audience.length + j) := by
        rw [Nat.succ_mul, Nat.add_comm (i * _), Nat.add_assoc]
      rw [place, List.getElem?_append_right (row first ▸ Nat.le_add_right ..), row,
        Nat.add_sub_cancel_left]
      exact ih said

theorem run_append (l : Listeners) (uses uses' : List Use) :
    l.run (uses ++ uses') = (l.run uses).run uses' := List.foldl_append

theorem run_concat (l : Listeners) (uses : List Use) (u : Use) :
    l.run (uses ++ [u]) = u.perform (l.run uses) := run_append l uses [u]

theorem deliveries_append (l : Listeners) (uses uses' : List Use) :
    l.deliveries (uses ++ uses') = l.deliveries uses ++ (l.run uses).deliveries uses' := by
  induction uses generalizing l with
  | nil => rfl
  | cons u uses ih => rw [List.cons_append, deliveries, deliveries, ih, List.append_assoc]; rfl

/-- A delivery takes its effect on the mailboxes hearing by hearing. -/
theorem mailboxes_deliver (l : Listeners) : l.deliver.mailboxes =
    (Delivery.hearings ⟨l.pending, l.registered⟩).foldl
      (fun boxes hearing => boxes.modify hearing.1 (·.hear hearing.2)) l.mailboxes := by
  rw [Delivery.hearings, List.foldl_flatMap]
  simp only [List.foldl_map]
  rfl

/-- A call that hands out anything hands out the whole queue, with the event that it queues. -/
theorem perform_of_delivers (delivers : u.delivers) :
    u.perform l = (l.postAll u.queues).deliver := by
  have still : l.postAll [] = l := by rw [postAll, List.append_nil]
  cases u with
  | emit e => rfl
  | deliver => exact (congrArg Listeners.deliver still).symm
  | tryDeliver => exact (congrArg Listeners.deliver still).symm
  | add | remove | post | postAll => cases delivers

/-- What waited or is queued by a call is handed out by it or waits. -/
theorem Use.delivery_append_pending (l : Listeners) (u : Use) :
    (u.delivery? l).toList.flatMap Delivery.events ++ (u.perform l).pending =
      l.pending ++ u.queues := by
  cases delivers : u.delivers with
  | true =>
    have empty : (u.perform l).pending = [] := by rw [perform_of_delivers delivers]; rfl
    simp [Use.delivery?, delivers, empty]
  | false =>
    rw [Use.delivery?, delivers]
    cases u with
    | add | remove => exact (List.append_nil _).symm
    | post | postAll => rfl
    | emit | deliver | tryDeliver => cases delivers

theorem handedOut_cons (l : Listeners) (u : Use) (uses : List Use) : l.handedOut (u :: uses) =
    (u.delivery? l).toList.flatMap Delivery.events ++ (u.perform l).handedOut uses :=
  List.flatMap_append

/-- What has been queued was handed out, or it waits. -/
theorem handedOut_append_pending (l : Listeners) (uses : List Use) :
    l.handedOut uses ++ (l.run uses).pending = l.pending ++ uses.flatMap Use.queues := by
  induction uses generalizing l with
  | nil => simp [handedOut, deliveries, run]
  | cons u uses ih =>
    calc l.handedOut (u :: uses) ++ (l.run (u :: uses)).pending
      _ = (u.delivery? l).toList.flatMap Delivery.events ++
            ((u.perform l).handedOut uses ++ ((u.perform l).run uses).pending) := by
        rw [handedOut_cons, List.append_assoc]
        rfl
      _ = l.pending ++ (u :: uses).flatMap Use.queues := by
        rw [ih, ← List.append_assoc, u.delivery_append_pending, List.append_assoc,
          List.flatMap_cons]

/-! ### The register -/

theorem added_concat (uses : List Use) (u : Use) :
    added (uses ++ [u]) = added uses + if u.adds then 1 else 0 := by
  simp [added]

/-- The listener is registered after a call if it was and is not removed, or is added. -/
theorem registered_concat : Registered (uses ++ [u]) id ↔
    (∃ box, u = .add box ∧ added uses = id) ∨ (Registered uses id ∧ u ≠ .remove id) := by
  constructor
  · rintro ⟨before, box, rest, split, first, kept⟩
    -- The last of the calls is the one that added the listener, or comes after it.
    obtain rfl | ⟨rest, v, rfl⟩ := rest.eq_nil_or_concat'
    · obtain ⟨rfl, same⟩ := List.append_inj' split rfl
      exact .inl ⟨box, List.singleton_inj.mp same, first⟩
    · rw [← List.cons_append, ← List.append_assoc] at split
      obtain ⟨rfl, same⟩ := List.append_inj' split rfl
      obtain rfl := List.singleton_inj.mp same
      rw [List.mem_append, not_or, List.mem_singleton] at kept
      exact .inr ⟨⟨before, box, rest, rfl, first, kept.1⟩, Ne.symm kept.2⟩
  · rintro (⟨box, rfl, first⟩ | ⟨⟨before, box, rest, rfl, first, kept⟩, other⟩)
    · exact ⟨uses, box, [], rfl, first, by simp⟩
    · refine ⟨before, box, rest ++ [u], by simp, first, ?_⟩
      simpa [kept] using other.symm

theorem not_registered_nil : ¬ Registered [] id := by
  rintro ⟨before, box, rest, split, -⟩
  simp at split

theorem lt_added_of_registered (registered : Registered uses id) : id < added uses := by
  obtain ⟨before, box, rest, rfl, rfl, -⟩ := registered
  have later : added (before ++ .add box :: rest) = added before + (added rest + 1) := by
    rw [added, List.countP_append, List.countP_cons_of_pos rfl]
    rfl
  exact later ▸ Nat.lt_add_of_pos_right (Nat.succ_pos _)

theorem after_concat (uses : List Use) (u : Use) : after (uses ++ [u]) = u.perform (after uses) :=
  run_concat _ uses u

theorem size_announce (mailboxes : Array Mailbox) (registered : List ListenerId) (e : Event) :
    (announce mailboxes registered e).size = mailboxes.size := by
  induction registered generalizing mailboxes with
  | nil => rfl
  | cons id registered ih => exact (ih _).trans Array.size_modify

theorem size_deliver (l : Listeners) : l.deliver.mailboxes.size = l.mailboxes.size := by
  refine List.foldlRecOn l.pending (motive := fun boxes : Array Mailbox => boxes.size = _) _ rfl ?_
  intro boxes same e _
  exact (size_announce ..).trans same

theorem size_perform (l : Listeners) (u : Use) :
    (u.perform l).mailboxes.size = l.mailboxes.size + if u.adds then 1 else 0 := by
  cases u with
  | add box => exact Array.size_push ..
  | remove | post | postAll => rfl
  | emit | deliver | tryDeliver => exact size_deliver _

/-- Every listener there ever was keeps its number, so no number is given out twice. -/
theorem size_after (uses : List Use) : (after uses).mailboxes.size = added uses := by
  induction uses using List.reverseRecOn with
  | nil => rfl
  | append_singleton uses u ih => rw [after_concat, size_perform, ih, added_concat]

/-- The register holds the listeners that were added and not removed. -/
theorem mem_registered : id ∈ (after uses).registered ↔ Registered uses id := by
  induction uses using List.reverseRecOn with
  | nil => simpa [after, run] using not_registered_nil
  | append_singleton uses u ih =>
    rw [after_concat, registered_concat, ← ih]
    cases u with
    | add box => simp [Use.perform, add, size_after, or_comm, eq_comm]
    | remove other =>
      have same : Use.remove other ≠ .remove id ↔ id ≠ other := by
        rw [Ne, Use.remove.injEq, Ne, eq_comm]
      rw [same]
      simp [Use.perform, remove]
    | post | postAll | emit | deliver | tryDeliver =>
      change id ∈ (after uses).registered ↔ _
      simp

/-- The register is in the order in which the listeners were added. -/
theorem pairwise_registered (uses : List Use) : (after uses).registered.Pairwise (· < ·) := by
  induction uses using List.reverseRecOn with
  | nil => exact .nil
  | append_singleton uses u ih =>
    rw [after_concat]
    cases u with
    | add box =>
      refine List.pairwise_append.mpr ⟨ih, List.pairwise_singleton .., ?_⟩
      intro id member last same
      rw [List.mem_singleton.mp same, size_after]
      exact lt_added_of_registered (mem_registered.mp member)
    | remove other => exact ih.filter _
    | post | postAll | emit | deliver | tryDeliver => exact ih

theorem count_registered (registered : Registered uses id) :
    (after uses).registered.count id = 1 :=
  List.count_eq_one_of_mem ((pairwise_registered uses).imp Nat.ne_of_lt)
    (mem_registered.mpr registered)

/-! ### A listener -/

/-- The mailbox of a listener that is not registered hears nothing. -/
theorem getElem?_deliver_of_not_mem (out : id ∉ l.registered) :
    l.deliver.mailboxes[id]? = l.mailboxes[id]? := by
  have none (e : Event) (boxes : Array Mailbox) :
      (announce boxes l.registered e)[id]? = boxes[id]? := by
    rw [getElem?_announce, List.count_eq_zero_of_not_mem out]
    simp
  refine List.foldlRecOn l.pending (motive := fun boxes : Array Mailbox => boxes[id]? = _) _ rfl ?_
  intro boxes same e _
  exact (none e boxes).trans same

/-- What a call leaves of a listener that is not registered, and will not be again. -/
theorem Use.perform_of_not_mem (known : id < l.mailboxes.size) (out : id ∉ l.registered) (u : Use) :
    id < (u.perform l).mailboxes.size ∧ id ∉ (u.perform l).registered ∧
      (u.perform l).mailboxes[id]? = l.mailboxes[id]? := by
  refine ⟨(size_perform l u).symm ▸ Nat.lt_add_right _ known, ?_, ?_⟩
  · cases u with
    | add box =>
      simp only [perform, Listeners.add, List.mem_append, List.mem_singleton]
      exact not_or.mpr ⟨out, Nat.ne_of_lt known⟩
    | remove other => exact fun member => out (List.mem_filter.mp member).1
    | post | postAll | emit | deliver | tryDeliver => exact out
  · cases u with
    | add box => exact Array.getElem?_push.trans (if_neg (Nat.ne_of_lt known))
    | remove | post | postAll => rfl
    | emit e => exact getElem?_deliver_of_not_mem (l := l.post e) out
    | deliver | tryDeliver => exact getElem?_deliver_of_not_mem out

/-- After it was removed, a listener hears nothing. -/
theorem mailbox_of_not_mem (known : id < l.mailboxes.size) (out : id ∉ l.registered)
    (uses : List Use) : (l.run uses).mailboxes[id]? = l.mailboxes[id]? := by
  induction uses generalizing l with
  | nil => rfl
  | cons u uses ih =>
    obtain ⟨known, out, same⟩ := u.perform_of_not_mem known out
    exact (ih known out).trans same

theorem mailbox_deliver_of_once (once : l.registered.count id = 1)
    (found : l.mailboxes[id]? = some box) :
    l.deliver.mailboxes[id]? = some (l.pending.foldl Mailbox.hear box) := by
  rw [deliver, getElem?_foldl_announce once, found, Option.map_some]

/-- What a call leaves of a registered listener that it does not remove. -/
theorem Use.perform_of_once (once : l.registered.count id = 1) (found : l.mailboxes[id]? = some box)
    (other : u ≠ .remove id) : (u.perform l).registered.count id = 1 ∧
      (u.perform l).mailboxes[id]? =
        some (((u.delivery? l).toList.flatMap Delivery.events).foldl Mailbox.hear box) := by
  have known : id < l.mailboxes.size := (Array.getElem?_eq_some_iff.mp found).1
  cases delivers : u.delivers with
  | true =>
    have told : (u.delivery? l).toList.flatMap Delivery.events = l.pending ++ u.queues := by
      simp [Use.delivery?, delivers]
    rw [perform_of_delivers delivers, told]
    exact ⟨once, mailbox_deliver_of_once (l := l.postAll u.queues) once found⟩
  | false =>
    have told : (u.delivery? l).toList.flatMap Delivery.events = [] := by
      simp [Use.delivery?, delivers]
    rw [told]
    cases u with
    | add box =>
      refine ⟨?_, (Array.getElem?_push.trans (if_neg (Nat.ne_of_lt known))).trans found⟩
      change (l.registered ++ [l.mailboxes.size]).count id = 1
      rw [List.count_append, once, List.count_singleton, if_neg]
      simpa using Nat.ne_of_gt known
    | remove id' =>
      refine ⟨?_, found⟩
      have apart : id ≠ id' := fun same => other (same ▸ rfl)
      exact (List.count_filter (by simpa using apart)).trans once
    | post | postAll => exact ⟨once, found⟩
    | emit | deliver | tryDeliver => cases delivers

/-- While its listener is registered, a mailbox hears what is handed out. -/
theorem mailbox_of_once (once : l.registered.count id = 1) (found : l.mailboxes[id]? = some box)
    (kept : .remove id ∉ uses) : (l.run uses).registered.count id = 1 ∧
      (l.run uses).mailboxes[id]? = some ((l.handedOut uses).foldl Mailbox.hear box) := by
  induction uses generalizing l box with
  | nil => exact ⟨once, found⟩
  | cons u uses ih =>
    rw [List.mem_cons, not_or] at kept
    obtain ⟨once, heard⟩ := Use.perform_of_once once found (Ne.symm kept.1)
    rw [handedOut_cons, List.foldl_append]
    exact ih once heard kept.2

/-- A listener hears what is handed out after it was added, up to the call that removes it. -/
theorem mailbox_of_spell {before during rest : List Use} (kept : .remove (added before) ∉ during)
    (ended : rest = [] ∨ ∃ later, rest = .remove (added before) :: later) :
    (after (before ++ .add box :: (during ++ rest))).mailboxes[added before]? =
      some (((after (before ++ [.add box])).handedOut during).foldl Mailbox.hear box) := by
  have registered : Registered (before ++ [.add box]) (added before) :=
    registered_concat.mpr (.inl ⟨box, rfl, rfl⟩)
  have found : (after (before ++ [.add box])).mailboxes[added before]? = some box := by
    rw [after_concat, ← size_after]
    exact Array.getElem?_push_size
  obtain ⟨once, heard⟩ := mailbox_of_once (count_registered registered) found kept
  have split : after (before ++ .add box :: (during ++ rest)) =
      ((after (before ++ [.add box])).run during).run rest := by
    rw [after, after, ← run_append, ← run_append]
    simp
  rw [split]
  obtain rfl | ⟨later, rfl⟩ := ended
  · exact heard
  · -- The call that removes the listener leaves its mailbox alone, and so do all that follow.
    refine (mailbox_of_not_mem ?_ ?_ later).trans heard
    · exact (Array.getElem?_eq_some_iff.mp heard).1
    · change _ ∉ List.filter _ _
      simp

/-! ### Calls in any order -/

theorem deliveries_concat (l : Listeners) (uses : List Use) (u : Use) :
    l.deliveries (uses ++ [u]) = l.deliveries uses ++ (u.delivery? (l.run uses)).toList := by
  rw [deliveries_append, deliveries, deliveries, List.append_nil]

/-- Take any calls on the listeners of a new clip.

What they queued was handed out by one delivery after the other, in the order of the queue, up to
what still waits. The next call that hands out anything leaves nothing waiting, and what it hands
out goes to each listener that is registered, once: all of them hear an event before any hears the
next one, the listener that was added first before the others. What a listener heard is what was
handed out between the call that added it and the one that removed it. A listener that is added now
gets a number that none had before. To remove one tells whether it was registered, and leaves
everything else as it is. -/
theorem each_once (uses : List Use) :
    let l := after uses
    handedOut {} uses ++ l.pending = uses.flatMap Use.queues ∧
    (∀ u : Use, u.delivers → ∃ d, deliveries {} (uses ++ [u]) = deliveries {} uses ++ [d] ∧
      d.events = l.pending ++ u.queues ∧
      d.audience.Pairwise (· < ·) ∧ (∀ id, id ∈ d.audience ↔ Registered uses id) ∧
      d.hearings.length = d.events.length * d.audience.length ∧
      (∀ i j e id, d.events[i]? = some e → d.audience[j]? = some id →
        d.hearings[i * d.audience.length + j]? = some (id, e)) ∧
      (u.perform l).mailboxes = d.hearings.foldl
        (fun boxes hearing => boxes.modify hearing.1 (·.hear hearing.2)) l.mailboxes ∧
      (u.perform l).pending = []) ∧
    (∀ before box during rest, uses = before ++ .add box :: (during ++ rest) →
      .remove (added before) ∉ during →
      (rest = [] ∨ ∃ later, rest = .remove (added before) :: later) →
      l.mailboxes[added before]? =
        some (((after (before ++ [.add box])).handedOut during).foldl Mailbox.hear box)) ∧
    (∀ box, (l.add box).1 = added uses) ∧
    ∀ id, ((l.remove id).1 = true ↔ Registered uses id) ∧
      (l.remove id).2 = { l with registered := l.registered.erase id } := by
  intro l
  refine ⟨?_, fun u delivers => ?_, ?_, fun box => size_after uses, fun id => ⟨?_, ?_⟩⟩
  · exact (handedOut_append_pending {} uses).trans (List.nil_append _)
  · refine ⟨⟨l.pending ++ u.queues, l.registered⟩, ?_, rfl, pairwise_registered uses,
      fun id => mem_registered, Delivery.length_hearings _,
      fun i j e id => Delivery.getElem?_hearings _, ?_, ?_⟩
    · rw [deliveries_concat, Use.delivery?, if_pos delivers]
      rfl
    · rw [perform_of_delivers delivers]
      exact mailboxes_deliver _
    · rw [perform_of_delivers delivers]
      rfl
  · rintro before box during rest rfl kept ended
    exact mailbox_of_spell kept ended
  · exact List.contains_iff_mem.trans mem_registered
  · have distinct : l.registered.Nodup := (pairwise_registered uses).imp Nat.ne_of_lt
    rw [distinct.erase_eq_filter]
    rfl

/-- An event that was queued before the listener came is heard by it, and one that was queued before
it went but handed out later is not. -/
theorem each_once_visit :
    let uses : List Use :=
      [.post .opened, .add {}, .emit .closed, .post .opened, .remove 0, .tryDeliver]
    (after uses).mailboxes[0]? = some { heard := #[.opened, .closed] } := by
  intro uses
  obtain ⟨-, -, spell, -⟩ := each_once uses
  exact spell [.post .opened] {} [.emit .closed, .post .opened] [.remove 0, .tryDeliver] rfl
    (by simp [added, Use.adds]) (.inr ⟨_, rfl⟩)

end SamplePlayer.Listeners
