import DoraSpec.Base.Machine
import DoraSpec.Coordinator.Params

/-!
# The parameter replay of a dataflow that becomes ready

Source `binaries/coordinator/src/lib.rs:1167-1292, 2706-2830`. The main loop stores a change and
then sends it to the daemon; a task of its own collects the stored parameters and then sends them
one by one over the same connection. The two interleave in any way. The daemon hands what it
receives to the nodes, which are connected. A sender that waits too long for a reply goes on, so a
message may be sent while an earlier one is on its way.
-/

namespace DoraSpec.Coordinator.ParamReplay
open Base Base.KeyedLog Message Store
open Recording (Uuid)

/-- Both tasks, the connection to one daemon, and its nodes. -/
structure State where
  /-- Nodes that run on the daemon. -/
  nodes : List NodeId
  store : InMemoryStore := {}
  stateLog : List ParamOp := []
  /-- Change that the main loop stored and did not send yet. -/
  pending : Option ParamOp := none
  /-- Nodes whose parameters the replay did not collect yet. -/
  toCollect : List NodeId := []
  /-- Parameters that the replay collected and did not send yet. -/
  items : List (ParamId × List UInt8) := []
  channel : List ParamOp := []
  /-- What the nodes were told, oldest first. -/
  told : List ParamOp := []

/-- Step of one of the tasks. -/
inductive Action where
  | request (op : ParamOp)
  | forward
  | collect
  | replay
  | deliver
  deriving DecidableEq

variable (dataflowId : Uuid)

/-- One step; a step that its task cannot make has no effect. -/
def step (s : State) : Action → State × Unit
  -- store a change, and log it; `lib.rs:1173-1199` and `lib.rs:1236-1260`
  | .request op =>
    if s.pending.isSome ∨ op.id.nodeId ∉ s.nodes then (s, ())
    else match persist dataflowId s.store op with
      | .ok store => ({ s with store, stateLog := s.stateLog ++ [op], pending := some op }, ())
      | .error _ => (s, ())
  -- send it; `lib.rs:1201-1226` and `lib.rs:1262-1287`
  | .forward =>
    match s.pending with
    | some op => ({ s with pending := none, channel := s.channel ++ [op] }, ())
    | none => (s, ())
  -- one turn of the loop of `collect_param_replay_items`, `lib.rs:2614-2631`
  | .collect =>
    match s.toCollect with
    | nodeId :: toCollect => ({ s with
        toCollect, items := s.items ++ collectParams dataflowId s.store nodeId }, ())
    | [] => (s, ())
  -- one turn of the loop of `replay_persisted_params_for_daemon`, `lib.rs:2766-2827`
  | .replay =>
    match s.toCollect, s.items with
    | [], (id, value) :: items =>
      ({ s with items, channel := s.channel ++ [.setParam id value] }, ())
    | _, _ => (s, ())
  | .deliver =>
    match s.channel with
    | op :: channel => ({ s with channel, told := s.told ++ [op] }, ())
    | [] => (s, ())

/-- What was last told about a parameter agrees with the store: the stored value, or a deletion if
the parameter is not stored and was ever changed. -/
def Right (store : InMemoryStore) (stateLog log : List ParamOp) (id : ParamId) : Prop :=
  match storedParam dataflowId store id with
  | some value => latest ParamOp.id id log = some (.setParam id value)
  | none => latest ParamOp.id id log = some (.deleteParam id) ∨
      latest ParamOp.id id log = none ∧ ∀ op ∈ stateLog, op.id ≠ id

/-- The nodes were last told what is stored. -/
def Agrees (s : State) : Prop :=
  ∀ id : ParamId, id.nodeId ∈ s.nodes → Right dataflowId s.store s.stateLog s.told id

/-- The dataflow became ready: the replay is about to start, and nothing that is still to be read
speaks of a parameter that is not stored. -/
structure Ready (s : State) : Prop where
  pending : s.pending = none
  toCollect : s.toCollect = s.nodes
  items : s.items = []
  absent : ∀ id : ParamId, id.nodeId ∈ s.nodes → storedParam dataflowId s.store id = none →
    Right dataflowId s.store s.stateLog (s.told ++ s.channel) id

/-- Everything was sent and delivered. -/
structure Quiet (s : State) : Prop where
  pending : s.pending = none
  toCollect : s.toCollect = []
  items : s.items = []
  channel : s.channel = []

/-- A parameter that the replay sends is still stored as it was collected, or the change that
overtook it is still to be sent. -/
def Current (s : State) (a : Action) : Prop :=
  a = .replay → s.toCollect = [] → ∀ item ∈ s.items.head?,
    storedParam dataflowId s.store item.1 = some item.2 ∨ ∃ op ∈ s.pending, op.id = item.1

instance (s : State) (a : Action) : Decidable (Current dataflowId s a) :=
  inferInstanceAs (Decidable (_ → _ → _))

/-! ## One step -/

section Step

variable {dataflowId} {store : InMemoryStore} {stateLog log : List ParamOp} {id : ParamId}

private theorem right_concat (op : ParamOp) (hid : op.id = id)
    (hvalue : storedParam dataflowId store id = op.value) :
    Right dataflowId store stateLog (log ++ [op]) id := by
  simp only [Right, latest_concat, hid, ↓reduceIte, hvalue]
  cases op with
  | setParam a value =>
    obtain rfl : a = id := hid
    rfl
  | deleteParam a =>
    obtain rfl : a = id := hid
    exact .inl rfl

private theorem right_concat_iff (op : ParamOp) (hid : op.id ≠ id) :
    Right dataflowId store stateLog (log ++ [op]) id ↔ Right dataflowId store stateLog log id := by
  simp only [Right, latest_concat, hid, ↓reduceIte]

private theorem right_persist {store' : InMemoryStore} {op : ParamOp} (hid : op.id ≠ id)
    (hstore : persist dataflowId store op = .ok store')
    (h : Right dataflowId store stateLog log id) :
    Right dataflowId store' (stateLog ++ [op]) log id := by
  simp only [Right, storedParam_persist dataflowId hstore id, hid, ↓reduceIte] at h ⊢
  split at h
  · exact h
  · refine h.imp_right fun h => ⟨h.1, ?_⟩
    simpa [or_imp, forall_and] using ⟨h.2, hid⟩

end Step

variable {dataflowId}

/-- What is still to be told about a parameter: the change on its way to the connection, nothing,
or the value that the replay holds or is going to collect. -/
private def Covered (dataflowId : Uuid) (s : State) (id : ParamId) : Prop :=
  (∃ op ∈ s.pending, op.id = id) ∨
  Right dataflowId s.store s.stateLog (s.told ++ s.channel) id ∨
  ∃ value, storedParam dataflowId s.store id = some value ∧
    (id.nodeId ∈ s.toCollect ∨ (id, value) ∈ s.items)

private structure Inv (dataflowId : Uuid) (s : State) : Prop where
  pending : ∀ op ∈ s.pending, storedParam dataflowId s.store op.id = op.value
  covered : ∀ id : ParamId, id.nodeId ∈ s.nodes → Covered dataflowId s id

variable {s : State}

private theorem Ready.inv (h : Ready dataflowId s) : Inv dataflowId s where
  pending := by simp [h.pending]
  covered id hid := by
    cases hs : storedParam dataflowId s.store id with
    | some value => exact .inr (.inr ⟨value, hs, .inl (h.toCollect ▸ hid)⟩)
    | none => exact .inr (.inl (h.absent id hid hs))

section Keeps

variable (h : Inv dataflowId s)
include h

private theorem Inv.request (op : ParamOp) :
    Inv dataflowId (step dataflowId s (.request op)).1 := by
  simp only [step]
  split
  · exact h
  next hfree =>
  have hnone : s.pending = none := by simpa using not_or.mp hfree |>.1
  split
  · next store hstore =>
    have hstored := storedParam_persist dataflowId hstore
    refine ⟨?_, fun id hid => ?_⟩
    · intro op' hop'
      obtain rfl : op = op' := Option.some.inj hop'
      exact (hstored op.id).trans (if_pos rfl)
    · by_cases hop : op.id = id
      · exact .inl ⟨op, rfl, hop⟩
      · rcases h.covered id hid with ⟨op', hop', -⟩ | hright | ⟨value, hvalue, hcover⟩
        · simp [hnone] at hop'
        · exact .inr (.inl (right_persist hop hstore hright))
        · refine .inr (.inr ⟨value, ?_, hcover⟩)
          rw [hstored, if_neg hop, hvalue]
  · exact h

private theorem Inv.forward : Inv dataflowId (step dataflowId s .forward).1 := by
  simp only [step]
  split
  · next op hop =>
    refine ⟨by simp, fun id hid => ?_⟩
    rw [Covered, ← List.append_assoc]
    by_cases hid' : op.id = id
    · exact .inr (.inl (right_concat op hid' (hid' ▸ h.pending op hop)))
    · rcases h.covered id hid with ⟨op', hop', he⟩ | hright | hcover
      · cases hop.symm.trans hop'
        exact absurd he hid'
      · exact .inr (.inl ((right_concat_iff op hid').mpr hright))
      · exact .inr (.inr hcover)
  · exact h

private theorem Inv.collect : Inv dataflowId (step dataflowId s .collect).1 := by
  simp only [step]
  split
  · next nodeId toCollect hto =>
    refine ⟨h.pending, fun id hid => ?_⟩
    refine (h.covered id hid).imp_right (Or.imp_right ?_)
    rintro ⟨value, hvalue, hcover⟩
    refine ⟨value, hvalue, ?_⟩
    rw [hto, List.mem_cons] at hcover
    rw [List.mem_append, mem_collectParams]
    rcases hcover with (hnode | hrest) | hitem
    · exact .inr (.inr ⟨hnode, hvalue⟩)
    · exact .inl hrest
    · exact .inr (.inl hitem)
  · exact h

private theorem Inv.replay (hc : Current dataflowId s .replay) :
    Inv dataflowId (step dataflowId s .replay).1 := by
  simp only [step]
  split
  · next a value items hto hitems =>
    refine ⟨h.pending, fun id hid => ?_⟩
    rw [Covered, ← List.append_assoc]
    by_cases ha : a = id
    · subst ha
      -- the item is the stored value, unless a change of it is still to be sent
      rcases hc rfl hto (a, value) (by simp [hitems]) with hstored | hpending
      · exact .inr (.inl (right_concat (.setParam a value) rfl hstored))
      · exact .inl hpending
    · rcases h.covered id hid with hpending | hright | ⟨value', hvalue, hcover⟩
      · exact .inl hpending
      · exact .inr (.inl ((right_concat_iff (.setParam a value) ha).mpr hright))
      · refine .inr (.inr ⟨value', hvalue, hcover.imp_right fun hmem => ?_⟩)
        rw [hitems, List.mem_cons, Prod.mk.injEq] at hmem
        exact hmem.resolve_left fun he => ha he.1.symm
  · exact h

private theorem Inv.deliver : Inv dataflowId (step dataflowId s .deliver).1 := by
  simp only [step]
  split
  · next op channel hch =>
    refine ⟨h.pending, fun id hid => ?_⟩
    have := h.covered id hid
    rw [Covered, hch] at this
    simpa [Covered] using this
  · exact h

private theorem Inv.step (a : Action) (hc : Current dataflowId s a) :
    Inv dataflowId (ParamReplay.step dataflowId s a).1 := by
  cases a with
  | request op => exact h.request op
  | forward => exact h.forward
  | collect => exact h.collect
  | replay => exact h.replay hc
  | deliver => exact h.deliver

/-! ## Every interleaving -/

private theorem Inv.agrees (hq : Quiet s) : Agrees dataflowId s := by
  intro id hid
  rcases h.covered id hid with ⟨op, hop, -⟩ | hright | ⟨value, -, hcover⟩
  · simp [hq.pending] at hop
  · simpa [hq.channel] using hright
  · simp [hq.toCollect, hq.items] at hcover

end Keeps

/-- If the replay sends no parameter that a change has overtaken, then the nodes were last told
what is stored, once everything is delivered. -/
theorem replay_agrees (s : State) (actions : List Action) (hs : Ready dataflowId s)
    (hc : Machine.Along (step dataflowId) (Current dataflowId) s actions)
    (hq : Quiet (Machine.run (step dataflowId) s actions).1) :
    Agrees dataflowId (Machine.run (step dataflowId) s actions).1 :=
  (Machine.invariant (step dataflowId) (Inv dataflowId) (fun _ a h hc => h.step a hc) s actions
    hs.inv hc).agrees hq

private def gain : ParamId := ⟨⟨"cam"⟩, "gain"⟩

/-- A node with one stored parameter. -/
def camera : State where
  nodes := [⟨"cam"⟩]
  toCollect := [⟨"cam"⟩]
  store := { params := Std.ExtTreeMap.insert ∅ ⟨nilUuid, ⟨"cam"⟩, "gain"⟩ [48] }

private theorem ready_camera : Ready nilUuid camera := by
  refine ⟨rfl, rfl, rfl, fun id _ hid => ?_⟩
  rw [Right, hid]
  exact .inr ⟨rfl, fun _ h => absurd h List.not_mem_nil⟩

/-- A change after the replay arrives last. -/
theorem laterChange_agrees : Ready nilUuid camera ∧
    Agrees nilUuid (Machine.run (step nilUuid) camera
      [.collect, .replay, .request (.setParam gain [49]), .forward, .deliver, .deliver]).1 := by
  exact ⟨ready_camera, replay_agrees camera _ ready_camera (by decide) ⟨rfl, rfl, rfl, rfl⟩⟩

/-- The replay collects a parameter, the main loop changes it, and the replay sends the value that
it collected. -/
theorem staleItem_not_agrees : Ready nilUuid camera ∧
    let s := (Machine.run (step nilUuid) camera
      [.collect, .request (.setParam gain [49]), .forward, .replay, .deliver, .deliver]).1
    Quiet s ∧ ¬ Agrees nilUuid s := by
  refine ⟨ready_camera, ⟨rfl, rfl, rfl, rfl⟩, fun h => ?_⟩
  have hlatest : latest ParamOp.id gain _ = some (.setParam gain [49]) := h gain (by decide)
  exact absurd hlatest (by decide)

end DoraSpec.Coordinator.ParamReplay
