import DoraSpec.Daemon.EventLoop

/-!
# Spawn results and exit reports of a node

Source `binaries/daemon/src/lib.rs:1010-1033, 2499-2615, 3529-3749`. The task that spawns the nodes
reports that a process was started; the task that watches the process reports that it has ended. The
two reports of a process that ends at once can reach the event loop in either order.
-/

namespace DoraSpec.Daemon.SpawnReports
open Message Daemon.EventLoop Function
open Recording (Uuid)

/-- The event loop and the results of the nodes; `lib.rs:247-268`. -/
@[ext]
structure State where
  loop : EventLoop.State
  dataflowNodeResults : Uuid → NodeId → Option (Except String Unit) := fun _ _ => none

namespace State

/-- `SpawnNodeResult` of a process that was started; `lib.rs:1010-1024`. -/
def spawned (d : State) (id : Uuid) (node : NodeId) (dynamic : Bool) : State :=
  { d with loop := (step d.loop (.spawnNodeResult id node dynamic (.ok ()))).1 }

/-- `SpawnedNodeResult` of a process that is not started again, with the result that is made of its
exit status; `lib.rs:3529-3749`. -/
def ended (d : State) (id : Uuid) (node : NodeId) (dynamic : Bool) (result : Except String Unit) :
    State :=
  match d.loop.status with
  | .running =>
    { loop := (step d.loop (.spawnedNodeResult id node dynamic false)).1
      dataflowNodeResults := update d.dataflowNodeResults id
        (update (d.dataflowNodeResults id) node (some result)) }
  | _ => d

/-- Nothing waits for the node any more, and its result is known. -/
structure Settled (d : State) (id : Uuid) (node : NodeId) (result : Except String Unit) : Prop where
  running : ∀ df ∈ d.loop.running.lookup id, node ∉ df.runningNodes
  pending : ∀ df ∈ d.loop.running.lookup id, node ∉ df.pendingNodes.localNodes
  result : d.dataflowNodeResults id node = some result

/-- Both orders of the two reports lead to the same state, in which the node is settled. -/
structure OrderIrrelevant (d : State) (id : Uuid) (node : NodeId) (dynamic : Bool)
    (result : Except String Unit) : Prop where
  same : (d.spawned id node dynamic).ended id node dynamic result =
    (d.ended id node dynamic result).spawned id node dynamic
  settled : ((d.spawned id node dynamic).ended id node dynamic result).Settled id node result

/-- Every other node of the dataflow that has to end has ended. -/
def LastNode (d : State) (id : Uuid) (node : NodeId) : Prop :=
  ∀ df ∈ d.loop.running.lookup id, df.pendingNodes.localNodes ⊆ {node} ∧
    ∀ other dynamic, other ≠ node → df.runningNodes.lookup other = some dynamic → dynamic = true

/-! ## Both orders -/

private theorem erase_insert {α : Type} [DecidableEq α] {β : α → Type} (t : AList β) (a : α)
    (b : β a) : (t.insert a b).erase a = t.erase a := by
  apply AList.ext
  have hcons : List.kerase a (⟨a, b⟩ :: List.kerase a t.entries) = List.kerase a t.entries :=
    List.kerase_cons_eq rfl
  exact hcons

private theorem onlyDynamic_stopNode_iff {id : Uuid} {node : NodeId}
    {df : EventLoop.RunningDataflow} :
    (df.stopNode id node).onlyDynamic = true ↔ df.pendingNodes.localNodes ⊆ {node} ∧
      ∀ other dynamic, other ≠ node → df.runningNodes.lookup other = some dynamic →
        dynamic = true := by
  rw [EventLoop.RunningDataflow.onlyDynamic_iff]
  refine and_congr ?_ ⟨fun h other dynamic hne hother => ?_, fun h other dynamic hother => ?_⟩
  · rw [EventLoop.RunningDataflow.stopNode, PendingNodes.localNodes_handleNodeStop,
      Finset.erase_eq_empty_iff, Finset.subset_singleton_iff]
  · exact h other dynamic (by rwa [EventLoop.RunningDataflow.stopNode, AList.lookup_erase_ne hne])
  · by_cases hne : other = node
    · subst hne
      simp [EventLoop.RunningDataflow.stopNode] at hother
    · refine h other dynamic hne ?_
      rwa [EventLoop.RunningDataflow.stopNode, AList.lookup_erase_ne hne] at hother

section

variable {d : State} {id : Uuid} {node : NodeId} {dynamic : Bool} {result : Except String Unit}
  {df : EventLoop.RunningDataflow}

private theorem spawned_of_gone (hdf : d.loop.running.lookup id = none) :
    d.spawned id node dynamic = d := by
  unfold spawned step
  cases hstatus : d.loop.status <;>
    simp [EventLoop.State.handle, EventLoop.State.spawnNodeResult, EventLoop.State.lookup, hdf]

private theorem lookup_ended_of_gone (hdf : d.loop.running.lookup id = none) :
    (d.ended id node dynamic result).loop.running.lookup id = none := by
  unfold ended
  cases hstatus : d.loop.status with
  | running =>
    cases dynamic <;> simp [step, hstatus, EventLoop.State.handle,
      EventLoop.State.spawnedNodeResult, EventLoop.State.handleNodeStop,
      EventLoop.State.handleNodeStopInner, EventLoop.State.fail, hdf]
  | _ => exact hdf

private theorem stopNode_insert (df : EventLoop.RunningDataflow) :
    { df with runningNodes := df.runningNodes.insert node dynamic }.stopNode id node =
      df.stopNode id node := by
  simp [EventLoop.RunningDataflow.stopNode, erase_insert]

section

variable (hrun : d.loop.status = .running)
include hrun

private theorem results_ended :
    (d.ended id node dynamic result).dataflowNodeResults = update d.dataflowNodeResults id
      (update (d.dataflowNodeResults id) node (some result)) := by
  simp [ended, hrun]

private theorem orderIrrelevant_of_gone (hdf : d.loop.running.lookup id = none) :
    d.OrderIrrelevant id node dynamic result := by
  have hgone := @lookup_ended_of_gone d id node dynamic result hdf
  refine ⟨?_, ?_⟩
  · rw [spawned_of_gone hdf, spawned_of_gone hgone]
  · rw [spawned_of_gone hdf]
    refine ⟨by simp [hgone], by simp [hgone], ?_⟩
    rw [results_ended hrun, update_self, update_self]

variable (hdf : d.loop.running.lookup id = some df)
include hdf

private theorem loop_spawned :
    (d.spawned id node dynamic).loop = { d.loop with
      running := d.loop.running.insert id
        { df with runningNodes := df.runningNodes.insert node dynamic } } := by
  simp [spawned, step, hrun, EventLoop.State.handle, EventLoop.State.spawnNodeResult,
    EventLoop.State.lookup, hdf]

private theorem loop_ended :
    (d.ended id node dynamic result).loop = if (df.stopNode id node).onlyDynamic then
      d.loop.finishDataflow id
      else { d.loop with running := d.loop.running.insert id (df.stopNode id node) } := by
  rw [← handleNodeStop_of_lookup hdf node dynamic]
  simp [ended, step, hrun, EventLoop.State.handle, EventLoop.State.spawnedNodeResult]

private theorem loop_spawned_ended :
    ((d.spawned id node dynamic).ended id node dynamic result).loop =
      if (df.stopNode id node).onlyDynamic then d.loop.finishDataflow id
      else { d.loop with running := d.loop.running.insert id (df.stopNode id node) } := by
  have hspawned := @loop_spawned d id node dynamic df hrun hdf
  rw [loop_ended (by rw [hspawned]; exact hrun) (by rw [hspawned]; exact AList.lookup_insert _),
    stopNode_insert, hspawned]
  simp [EventLoop.State.finishDataflow, erase_insert]

private theorem orderIrrelevant_of_onlyDynamic (h : (df.stopNode id node).onlyDynamic = true) :
    d.OrderIrrelevant id node dynamic result := by
  have hspawned := @loop_spawned d id node dynamic df hrun hdf
  have hrun' : (d.spawned id node dynamic).loop.status = .running := by rw [hspawned]; exact hrun
  have hfirst := @loop_spawned_ended d id node dynamic result df hrun hdf
  have hsecond := @loop_ended d id node dynamic result df hrun hdf
  rw [if_pos h] at hfirst hsecond
  have hgone : (d.loop.finishDataflow id).running.lookup id = none := AList.lookup_erase _ _
  refine ⟨?_, ?_⟩
  · rw [@spawned_of_gone (d.ended id node dynamic result) id node dynamic (by rw [hsecond, hgone])]
    ext1
    · rw [hfirst, hsecond]
    · rw [results_ended hrun', results_ended hrun]
      rfl
  · refine ⟨by simp [hfirst, hgone], by simp [hfirst, hgone], ?_⟩
    rw [results_ended hrun', update_self, update_self]

private theorem not_orderIrrelevant (h : ¬ (df.stopNode id node).onlyDynamic = true) :
    ¬ d.OrderIrrelevant id node dynamic result := by
  intro hirrelevant
  have hfirst := @loop_spawned_ended d id node dynamic result df hrun hdf
  have hsecond := @loop_ended d id node dynamic result df hrun hdf
  rw [if_neg h] at hfirst hsecond
  have hlate := @loop_spawned (d.ended id node dynamic result) id node dynamic (df.stopNode id node)
    (by rw [hsecond]; exact hrun) (by rw [hsecond]; exact AList.lookup_insert _)
  rw [← hirrelevant.same, hfirst, hsecond] at hlate
  have hdf' := congrArg (fun s : EventLoop.State => s.running.lookup id) hlate
  simp only [AList.lookup_insert, Option.some.injEq] at hdf'
  have hnode := congrArg (fun df : EventLoop.RunningDataflow => df.runningNodes.lookup node) hdf'
  simp [EventLoop.RunningDataflow.stopNode] at hnode

end

/-- The order of the two reports does not matter if and only if every other node of the dataflow has
ended already. -/
theorem orderIrrelevant_iff_lastNode (hrun : d.loop.status = .running) :
    d.OrderIrrelevant id node dynamic result ↔ d.LastNode id node := by
  cases hdf : d.loop.running.lookup id with
  | none => exact iff_of_true (orderIrrelevant_of_gone hrun hdf) (by simp [LastNode, hdf])
  | some df =>
    have hlast : d.LastNode id node ↔ (df.stopNode id node).onlyDynamic = true := by
      simp [LastNode, hdf, onlyDynamic_stopNode_iff]
    rw [hlast]
    by_cases h : (df.stopNode id node).onlyDynamic = true
    · exact iff_of_true (orderIrrelevant_of_onlyDynamic hrun hdf h) h
    · exact iff_of_false (not_orderIrrelevant hrun hdf h) h

end

/-- Sample dataflow whose nodes have still to be started. -/
def waitingFor (nodes : Finset NodeId) : State where
  loop := { running := AList.singleton .nil { pendingNodes := { localNodes := nodes }
                                              dynamicNodes := ∅ } }

/-- A single node. -/
theorem orderIrrelevant_single :
    (waitingFor {⟨"camera"⟩}).OrderIrrelevant .nil ⟨"camera"⟩ false (.ok ()) := by
  refine (orderIrrelevant_iff_lastNode rfl).mpr fun df hdf => ?_
  cases hdf
  refine ⟨subset_rfl, fun other dynamic _ hother => ?_⟩
  cases hother

/-- A camera that ends before its spawn result is handled counts as running from then on, as long as
there is another node. -/
theorem spawned_after_ended :
    ¬ (waitingFor {⟨"camera"⟩, ⟨"plotter"⟩}).OrderIrrelevant .nil ⟨"camera"⟩ false (.ok ()) ∧
      ∃ df ∈ (((waitingFor {⟨"camera"⟩, ⟨"plotter"⟩}).ended .nil ⟨"camera"⟩ false
          (.ok ())).spawned .nil ⟨"camera"⟩ false).loop.running.lookup .nil,
        df.runningNodes.lookup ⟨"camera"⟩ = some false := by
  refine ⟨not_orderIrrelevant rfl rfl (by decide), ?_⟩
  exact ⟨_, rfl, rfl⟩

end State
end DoraSpec.Daemon.SpawnReports
