import Mathlib.Data.Finset.Basic
import Mathlib.Data.Finset.Lattice.Lemmas
import DoraSpec.Base.Machine
import DoraSpec.Message.Id

/-!
# Closing outputs

Source `apis/rust/node/src/node/mod.rs:1035-1047` and `control_channel.rs:83-98`. The outputs of a
call are removed one by one before the daemon is told of all of them, so that a call which fails at
a later identifier leaves the earlier ones closed for the node alone.
-/

namespace DoraSpec.Node.CloseOutputs
open Base Message Finset

/-- Outputs that are open for the node, and those of which the daemon was told. -/
structure State where
  outputs : Finset DataId
  told : Finset DataId

/-- A call of `close_outputs` and what becomes of its request. The daemon may have been told although
no reply arrives, but it does not reply untold. -/
structure Call where
  ids : List DataId
  arrives : Bool
  reply : Except String Unit
  honest : reply = .ok () → arrives = true

/-- Remove the identifiers up to the first that is unknown; `mod.rs:1036-1040`. -/
def remove (outputs : Finset DataId) : List DataId → Finset DataId × Option DataId
  | [] => (outputs, none)
  | id :: ids => if id ∈ outputs then remove (outputs.erase id) ids else (outputs, some id)

/-- `close_outputs`, `mod.rs:1035-1047`. -/
def step (s : State) (call : Call) : State × Except String Unit :=
  match remove s.outputs call.ids with
  | (outputs, some id) => ({ s with outputs }, .error s!"unknown output {id.val}")
  | (outputs, none) =>
    ({ outputs, told := if call.arrives then s.told ∪ call.ids.toFinset else s.told },
      call.reply.mapError fun _ => "failed to report closed outputs to daemon")

/-- Open for the node are the outputs of which the daemon was not told. -/
def Agrees (outputs : Finset DataId) (s : State) : Prop := s.outputs = outputs \ s.told

/-- The call fails at its first identifier, or closes distinct open outputs and reaches the daemon. -/
def Whole (s : State) (call : Call) : Prop :=
  (∀ id ∈ call.ids.head?, id ∉ s.outputs) ∨
    call.ids.Nodup ∧ (∀ id ∈ call.ids, id ∈ s.outputs) ∧ call.arrives = true

variable {outputs left : Finset DataId} {ids : List DataId}

private theorem remove_eq_none_iff : remove outputs ids = (left, none) ↔
    ids.Nodup ∧ (∀ id ∈ ids, id ∈ outputs) ∧ left = outputs \ ids.toFinset := by
  induction ids generalizing outputs with
  | nil => simp [remove, eq_comm]
  | cons id ids ih =>
    by_cases hid : id ∈ outputs
    · have hleft : outputs.erase id \ ids.toFinset = outputs \ (id :: ids).toFinset := by
        rw [List.toFinset_cons, sdiff_insert, erase_sdiff_comm]
      rw [remove, if_pos hid, ih, hleft, ← and_assoc, ← and_assoc]
      refine and_congr_left fun _ => ?_
      simp only [List.nodup_cons, List.forall_mem_cons, mem_erase]
      grind
    · simp [remove, hid]

private theorem remove_subset : (remove outputs ids).1 ⊆ outputs := by
  induction ids generalizing outputs with
  | nil => exact subset_rfl
  | cons id ids ih =>
    rw [remove]
    split
    · exact ih.trans (erase_subset _ _)
    · exact subset_rfl

private theorem remove_fst_eq_iff :
    (remove outputs ids).1 = outputs ↔ ∀ id ∈ ids.head?, id ∉ outputs := by
  cases ids with
  | nil => simp [remove]
  | cons id ids =>
    by_cases hid : id ∈ outputs
    · have hclosed : id ∉ (remove outputs (id :: ids)).1 := by
        rw [remove, if_pos hid]
        exact fun hmem => notMem_erase id _ (remove_subset hmem)
      exact iff_of_false (fun heq => hclosed (heq.symm ▸ hid)) fun hhead => hhead id rfl hid
    · simp [remove, hid]

private theorem whole_iff {s : State} (call : Call) (h : Agrees outputs s) :
    Whole s call ↔ Agrees outputs (step s call).1 := by
  unfold Whole step Agrees
  rw [← remove_fst_eq_iff]
  rcases hremove : remove s.outputs call.ids with ⟨left, _ | unknown⟩
  · obtain ⟨hnodup, hopen, hleft⟩ := remove_eq_none_iff.mp hremove
    cases call.arrives with
    | false => simp [h.symm]
    | true =>
      refine iff_of_true (.inr ⟨hnodup, hopen, rfl⟩) ?_
      change left = outputs \ (s.told ∪ call.ids.toFinset)
      rw [hleft, h, sdiff_sdiff_left, sup_eq_union]
  · refine ⟨?_, fun hleft => .inl (hleft.trans h.symm)⟩
    rintro (hleft | ⟨hnodup, hopen, -⟩)
    · exact hleft.trans h
    · -- all identifiers would have been removed
      cases hremove.symm.trans (remove_eq_none_iff.mpr ⟨hnodup, hopen, rfl⟩)

/-- For every sequence of calls, the two sides agree after each of them exactly if each call fails at
once or closes distinct open outputs and reaches the daemon. -/
theorem agrees_iff_whole (outputs : Finset DataId) (calls : List Call) :
    (∀ pre, pre <+: calls → Agrees outputs (Machine.run step ⟨outputs, ∅⟩ pre).1) ↔
      Machine.Along step Whole ⟨outputs, ∅⟩ calls := by
  have hinit : Agrees outputs ⟨outputs, ∅⟩ := sdiff_empty.symm
  rw [Machine.along_iff_forall_prefix step (Agrees outputs) (fun _ call => whole_iff call) calls hinit]

def pose : DataId := ⟨"pose", by decide⟩

def twist : DataId := ⟨"twist", by decide⟩

/-- The call fails at its second identifier, and the first is closed for the node alone. -/
theorem secondUnknown_not_agrees :
    ¬ Agrees {pose} (step ⟨{pose}, ∅⟩ ⟨[pose, twist], true, .ok (), fun _ => rfl⟩).1 := by
  simp [Agrees, step, remove]

end DoraSpec.Node.CloseOutputs
