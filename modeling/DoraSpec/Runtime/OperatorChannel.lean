import DoraSpec.Base.Machine
import DoraSpec.Message.QueuePolicy
import DoraSpec.Node.Event

/-!
# The buffer of an operator

Source `binaries/runtime/src/operator/channel.rs:25-143`. Inputs beyond the capacity are replaced by
holes, and holes are removed only when the operator takes an event. While it takes none, the queue
grows with every arrival.
-/

namespace DoraSpec.Runtime
open Base Message DoraSpec.Node

variable {Data : Type}

/-- `channel.rs:25-29`, with the event that the operator has to take next. Only the log reads the
policies. -/
structure InputBuffer (Data : Type) where
  queue : List (Option (Event Data)) := []
  effectiveCaps : AList fun _ : DataId => Nat
  sendOut : Option (Event Data) := none

/-- `InputBuffer::new`, `channel.rs:32-41`. -/
def InputBuffer.new (queueSizes : AList fun _ : DataId => Nat × QueuePolicy) : InputBuffer Data where
  effectiveCaps := (queueSizes.entries.map fun e => ⟨e.1, e.2.2.effectiveCap e.2.1⟩).toAList

/-- Dig holes, with the newest event first; `drop_oldest_inputs`, `channel.rs:107-143`. -/
def dropOldestInputs (remaining : AList fun _ : DataId => Nat) :
    List (Option (Event Data)) → List (Option (Event Data))
  | [] => []
  | some (.input id metadata data) :: queue =>
    match remaining.lookup id with
    | some 0 => none :: dropOldestInputs remaining queue
    | some (n + 1) =>
      some (.input id metadata data) :: dropOldestInputs (remaining.insert id n) queue
    | none => some (.input id metadata data) :: dropOldestInputs remaining queue
  | event :: queue => event :: dropOldestInputs remaining queue

namespace InputBuffer

/-- `add_event`, `channel.rs:100-105`. -/
def addEvent (b : InputBuffer Data) (event : Event Data) : InputBuffer Data :=
  let newestFirst := some event :: b.queue.reverse
  { b with queue := (dropOldestInputs b.effectiveCaps newestFirst).reverse }

/-- `send_next_queued`, `channel.rs:85-98`. -/
def sendNextQueued (b : InputBuffer Data) : InputBuffer Data :=
  match b.queue.dropWhile (·.isNone) with
  | [] => { b with queue := [], sendOut := none }
  | event :: queue => { b with queue, sendOut := event }

/-- The buffer gets an event, or the operator takes one; `run`, `channel.rs:43-83`. -/
def step (b : InputBuffer Data) : Option (Event Data) → InputBuffer Data × Option (Event Data)
  | some event =>
    let b := b.addEvent event
    (if b.sendOut.isNone then b.sendNextQueued else b, none)
  | none => if b.sendOut.isNone then (b, none) else (b.sendNextQueued, b.sendOut)

end InputBuffer

/-- Buffered events that are no inputs. -/
def others (queue : List (Option (Event Data))) : Nat :=
  queue.countP fun
    | none | some (.input ..) => false
    | _ => true

/-- The queue is no longer than the capacities and the events without one allow. -/
def InputBuffer.Bounded (b : InputBuffer Data) : Prop :=
  b.queue.length ≤ (b.effectiveCaps.entries.map Sigma.snd).sum + others b.queue

private theorem dropOldestInputs_spec (remaining : AList fun _ : DataId => Nat)
    (queue : List (Option (Event Data))) :
    (dropOldestInputs remaining queue).length = queue.length ∧
      others (dropOldestInputs remaining queue) = others queue := by
  unfold others
  fun_induction dropOldestInputs remaining queue with
  | case1 => exact ⟨rfl, rfl⟩
  | _ => simp [*, List.countP_cons]

namespace InputBuffer

private theorem run_arrivals {b : InputBuffer Data} (hunread : b.sendOut.isSome)
    (events : List (Event Data)) :
    (Machine.run step b (events.map some)).1.queue.length = b.queue.length + events.length ∧
      others (Machine.run step b (events.map some)).1.queue =
        others b.queue + others (events.map some) ∧
      (Machine.run step b (events.map some)).1.effectiveCaps = b.effectiveCaps := by
  induction events generalizing b with
  | nil => simp [others]
  | cons event events ih =>
    have hstep : (b.step (some event)).1 = b.addEvent event :=
      if_neg (by simp [addEvent, Option.isSome_iff_ne_none.mp hunread])
    obtain ⟨hlength, hothers⟩ := dropOldestInputs_spec b.effectiveCaps (some event :: b.queue.reverse)
    obtain ⟨hqueue, hrest, hcaps⟩ := @ih (b.addEvent event) hunread
    rw [List.map_cons, Machine.run_cons, hstep]
    refine ⟨?_, ?_, hcaps⟩
    · rw [hqueue]
      simp only [addEvent, List.length_reverse, hlength, List.length_cons]
      omega
    · rw [hrest]
      simp only [others, addEvent, List.countP_reverse, List.countP_cons] at hothers ⊢
      omega

/-- While the operator takes no event, the queue is bounded exactly as long as the holes, the inputs
and those that arrive are no more than the capacities. -/
theorem bounded_iff_places {b : InputBuffer Data} (hunread : b.sendOut.isSome)
    (events : List (Event Data)) :
    (Machine.run step b (events.map some)).1.Bounded ↔
      b.queue.length + events.length ≤ (b.effectiveCaps.entries.map Sigma.snd).sum +
        (others b.queue + others (events.map some)) := by
  obtain ⟨hqueue, hothers, hcaps⟩ := run_arrivals hunread events
  rw [Bounded, hqueue, hothers, hcaps]

private theorem dropOldestInputs_singleton (remaining : AList fun _ : DataId => Nat)
    (event : Event Data) :
    dropOldestInputs remaining [some event] = [some event] ∨
      dropOldestInputs remaining [some event] = [none] := by
  cases event with
  | input id metadata data =>
    rw [dropOldestInputs]
    split <;> simp [dropOldestInputs]
  | _ => exact .inl rfl

private theorem step_new {queueSizes : AList fun _ : DataId => Nat × QueuePolicy}
    {first : Event Data} (h : ((new queueSizes).step (some first)).1.sendOut.isSome) :
    ((new queueSizes).step (some first)).1 =
      { (new queueSizes : InputBuffer Data) with sendOut := some first } := by
  have hstep : ((new queueSizes : InputBuffer Data).step (some first)).1 =
    ((new queueSizes).addEvent first).sendNextQueued := rfl
  rw [hstep] at h ⊢
  -- a first event that the capacity does not allow is a hole, and holes are not sent
  rcases dropOldestInputs_singleton (new queueSizes : InputBuffer Data).effectiveCaps first with
    hkept | hkept
  · simp_all [sendNextQueued, addEvent, new]
  · simp_all [sendNextQueued, addEvent, new]

/-- From the start on, the first event goes to the operator. While it takes no other one, the queue
is bounded exactly as long as the inputs that arrive are no more than the capacities. -/
theorem bounded_new_iff {queueSizes : AList fun _ : DataId => Nat × QueuePolicy}
    {first : Event Data} (h : ((new queueSizes).step (some first)).1.sendOut.isSome)
    (events : List (Event Data)) :
    (Machine.run step (new queueSizes) ((first :: events).map some)).1.Bounded ↔
      events.length ≤ ((new queueSizes : InputBuffer Data).effectiveCaps.entries.map
        Sigma.snd).sum + others (events.map some) := by
  rw [List.map_cons, Machine.run_cons, bounded_iff_places h, step_new h]
  simp [new, others]

end InputBuffer

def image : Event Unit :=
  .input ⟨"still", by decide⟩ ⟨0, ⟨0, 0⟩, ⟨.null, 0, 0, none, 0, [], [], none, none⟩, ∅⟩ ()

/-- A buffer for one image. -/
def oneImage : InputBuffer Unit := .new (AList.singleton ⟨"still", by decide⟩ (1, .dropOldest))

/-- A second image arrives while there is room. -/
theorem twoImages_bounded :
    (Machine.run InputBuffer.step (oneImage.step (some image)).1 [some image]).1.Bounded :=
  (InputBuffer.bounded_iff_places rfl [image]).mpr (by decide)

/-- The third image replaces the second one, whose place is kept. -/
theorem threeImages_not_bounded :
    ¬ (Machine.run InputBuffer.step oneImage [some image, some image, some image]).1.Bounded := by
  intro h
  exact absurd h (by unfold InputBuffer.Bounded; decide)

end DoraSpec.Runtime
