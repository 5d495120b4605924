import DoraSpec.Coordinator.Topology

/-!
# What a client learns about its topology changes

Compares the answers of the coordinator with what the daemon did. The daemon never fills the reply
channel of a topology command, so every command that it carries out is answered with a timeout.
-/

namespace DoraSpec.Coordinator.Topology
open Base Message Daemon Function Option
open Store (DaemonId nilUuid)

/-- The table of the coordinator lists the nodes that the connected daemons run. -/
def TablesAgree (s : System) : Prop :=
  ∀ id, ∀ df ∈ s.coordinator.runningDataflows id, ∀ d ∈ s.coordinator.daemonConnections, ∀ n,
    df.nodeToDaemon n = some d ↔ ∃ running ∈ s.daemons d id, n ∈ running.runningNodes

/-- The answer is a success exactly if the change was made. -/
def Handled.Truthful (h : Handled) : Prop := h.answer.isOk = true ↔ h.carriedOut = true

/-- The requests are answered truthfully, and the tables agree after the last one. -/
def AnsweredTruthfully (s : System) (turns : List Turn) : Prop :=
  (∀ h ∈ (Machine.run handle s turns).2, h.Truthful) ∧ TablesAgree (Machine.run handle s turns).1

/-- The daemon is able to make the change. -/
def Effective (spawned : Bool) (before : Option Daemon.RunningDataflow) : TopologyEvent → Prop
  | .addNode node => spawned = true ∧ (∃ inputs, nodeInputs node = .ok inputs) ∧
      ∃ df ∈ before, node.id ∉ df.runningNodes
  | .removeNode nodeId => ∃ df ∈ before, nodeId ∈ df.runningNodes
  | .addMapping _ _ => before.isSome
  | .removeMapping source target => ∃ df ∈ before, (source, target) ∈ df.mappings

/-- The request passes the checks of the coordinator, and the daemon is able to make the change. -/
def TakesEffect (s : System) (t : Turn) : Prop :=
  ∃ df daemon command, forward s.coordinator t.request = .ok (df, daemon, command) ∧
    Effective t.spawned (s.daemons daemon t.request.dataflowId) command.event

/-! ## The daemon -/

private theorem runningNodes_registerInputs (id : NodeId) (inputs : Inputs)
    (df : Daemon.RunningDataflow) :
    (inputs.foldl (Daemon.RunningDataflow.registerInput id) df).runningNodes = df.runningNodes := by
  induction inputs generalizing df with
  | nil => rfl
  | cons entry inputs ih =>
    rw [List.foldl_cons, ih]
    cases h : entry.2.mapping <;> simp [Daemon.RunningDataflow.registerInput, h]

private theorem runningNodes_addNode (df : Daemon.RunningDataflow) (node : ResolvedNode)
    (inputs : Inputs) : (df.addNode node inputs).runningNodes = insert node.id df.runningNodes := by
  simp only [Daemon.RunningDataflow.addNode]
  split <;> simp only [runningNodes_registerInputs]

private theorem runningNodes_apply (df : Daemon.RunningDataflow) (spawned : Bool)
    (event : TopologyEvent) (h : ¬ Effective spawned (some df) event) :
    (df.apply spawned event).runningNodes = df.runningNodes := by
  cases event with
  | addNode node =>
    simp only [Daemon.RunningDataflow.apply]
    split
    · next inputs hin =>
      have hmem : node.id ∈ df.runningNodes := by
        by_contra hmem
        exact h ⟨rfl, ⟨inputs, hin⟩, df, rfl, hmem⟩
      rw [runningNodes_addNode, Finset.insert_eq_of_mem hmem]
    · rfl
  | removeNode nodeId =>
    have hmem : nodeId ∉ df.runningNodes := fun hmem => h ⟨df, rfl, hmem⟩
    exact Finset.erase_eq_of_notMem hmem
  | addMapping source target => rfl
  | removeMapping source target =>
    simp only [Daemon.RunningDataflow.apply, Daemon.RunningDataflow.removeMapping]
    split <;> rfl

private theorem carriedOut_iff (spawned : Bool) (before : Option Daemon.RunningDataflow)
    (event : TopologyEvent) :
    CarriedOut before (before.map (·.apply spawned event)) event ↔
      Effective spawned before event := by
  cases before with
  | none => cases event <;> simp [CarriedOut, Effective]
  | some df =>
    cases event with
    | addNode node =>
      cases hin : nodeInputs node <;> cases spawned <;>
        simp [CarriedOut, Effective, Daemon.RunningDataflow.apply, hin, runningNodes_addNode]
    | removeNode nodeId =>
      simp [CarriedOut, Effective, Daemon.RunningDataflow.apply, Daemon.RunningDataflow.removeNode]
    | addMapping source target =>
      simp [CarriedOut, Effective, Daemon.RunningDataflow.apply, Daemon.RunningDataflow.addMapping]
    | removeMapping source target =>
      by_cases h : (source, target) ∈ df.mappings <;>
        simp [CarriedOut, Effective, Daemon.RunningDataflow.apply,
          Daemon.RunningDataflow.removeMapping, Daemon.RunningDataflow.closeInputs, h]

/-! ## One request -/

private theorem handle_of_error {s : System} {t : Turn} {e : String}
    (h : forward s.coordinator t.request = .error e) : handle s t = (s, ⟨.error e, false⟩) := by
  simp only [handle, h]

/-- Tables of the daemon after a command. -/
def afterCommand (s : System) (t : Turn) (daemon : DaemonId) (command : Command) :
    Option Daemon.RunningDataflow :=
  (s.daemons daemon t.request.dataflowId).map (·.apply t.spawned command.event)

private theorem handle_of_ok {s : System} {t : Turn} {df : RunningDataflow} {daemon : DaemonId}
    {command : Command} (h : forward s.coordinator t.request = .ok (df, daemon, command)) :
    handle s t =
      (⟨s.coordinator, update s.daemons daemon
          (update (s.daemons daemon) t.request.dataflowId
            (afterCommand s t daemon command))⟩,
        ⟨.error "daemon dispatch failed: timeout waiting for daemon WS reply",
          decide (CarriedOut (s.daemons daemon t.request.dataflowId)
            (afterCommand s t daemon command) command.event)⟩) := by
  simp only [handle, h, handleTopologyEvent, finish, sendAndReceive, update_self,
    afterCommand]
  rfl

/-- No request is answered with a success, so the truthful answers are those about requests that
did not take effect. -/
theorem truthful_handle_iff (s : System) (t : Turn) :
    (handle s t).2.Truthful ↔ ¬ TakesEffect s t := by
  cases h : forward s.coordinator t.request with
  | error e =>
    rw [handle_of_error h]
    simp [Handled.Truthful, TakesEffect, h, Except.isOk, Except.toBool]
  | ok found =>
    obtain ⟨df, daemon, command⟩ := found
    rw [handle_of_ok h]
    have hc : CarriedOut _ (afterCommand s t daemon command) command.event ↔ _ :=
      carriedOut_iff t.spawned (s.daemons daemon t.request.dataflowId) command.event
    simp [Handled.Truthful, TakesEffect, h, Except.isOk, Except.toBool, hc]

private theorem TablesAgree.handle {s : System} (hs : TablesAgree s) {t : Turn}
    (ht : ¬ TakesEffect s t) : TablesAgree (Topology.handle s t).1 := by
  cases h : forward s.coordinator t.request with
  | error e => rwa [handle_of_error h]
  | ok found =>
    obtain ⟨df, daemon, command⟩ := found
    rw [handle_of_ok h]
    intro id df' hdf' d hd n
    refine (hs id df' hdf' d hd n).trans ?_
    dsimp only
    by_cases hdaemon : d = daemon
    · subst hdaemon
      by_cases hid : id = t.request.dataflowId
      · subst hid
        rw [update_self, update_self, afterCommand]
        cases hrun : s.daemons d t.request.dataflowId with
        | none => simp
        | some running =>
          have hne : ¬ Effective t.spawned (some running) command.event :=
            fun he => ht ⟨df, d, command, h, hrun ▸ he⟩
          simp [runningNodes_apply running t.spawned command.event hne]
      · rw [update_self, update_of_ne hid]
    · rw [update_of_ne hdaemon]

/-! ## Sequences of requests -/

private theorem answeredTruthfully_cons (s : System) (t : Turn) (turns : List Turn) :
    AnsweredTruthfully s (t :: turns) ↔
      (handle s t).2.Truthful ∧ AnsweredTruthfully (handle s t).1 turns := by
  simp only [AnsweredTruthfully, Machine.run_cons, List.mem_cons, forall_eq_or_imp, and_assoc]

/-- A sequence of requests is answered truthfully exactly if none of them takes effect. -/
theorem answeredTruthfully_iff (s : System) (turns : List Turn) (hs : TablesAgree s) :
    AnsweredTruthfully s turns ↔ Machine.Along handle (fun s t => ¬ TakesEffect s t) s turns := by
  induction turns generalizing s with
  | nil =>
    simp only [AnsweredTruthfully, Machine.run_nil, List.not_mem_nil, false_implies, implies_true,
      true_and, Machine.Along, iff_true]
    exact hs
  | cons t turns ih =>
    rw [answeredTruthfully_cons, truthful_handle_iff]
    exact and_congr_right fun ht => ih _ (hs.handle ht)

/-- One daemon that runs a dataflow without nodes. -/
def emptyDataflow : System where
  coordinator :=
    { runningDataflows := fun id => if id = nilUuid then some { daemons := [DaemonId.nil] } else none
      daemonConnections := {DaemonId.nil} }
  daemons := fun d id => if d = DaemonId.nil ∧ id = nilUuid then some {} else none

private theorem tablesAgree_emptyDataflow : TablesAgree emptyDataflow := by
  intro id df hdf d hd n
  have hnone : df.nodeToDaemon n = none := by
    simp only [emptyDataflow, mem_def, ite_none_right_eq_some, some.injEq]
      at hdf
    rw [← hdf.2]
  simp only [hnone, reduceCtorEq, false_iff, not_exists, not_and]
  intro running hrunning
  simp only [emptyDataflow, mem_def, ite_none_right_eq_some, some.injEq]
    at hrunning
  rw [← hrunning.2]
  exact Finset.notMem_empty n

/-- Removing an unknown node is answered with an error. -/
theorem removeUnknown_answered : TablesAgree emptyDataflow ∧
    AnsweredTruthfully emptyDataflow [⟨⟨nilUuid, .removeNode ⟨"camera"⟩⟩, true⟩] := by
  refine ⟨tablesAgree_emptyDataflow,
    (answeredTruthfully_iff _ _ tablesAgree_emptyDataflow).mpr ⟨?_, trivial⟩⟩
  rintro ⟨df, daemon, command, hforward, -⟩
  have herror : ∃ e, forward emptyDataflow.coordinator ⟨nilUuid, .removeNode ⟨"camera"⟩⟩ =
      .error e := ⟨_, rfl⟩
  obtain ⟨e, he⟩ := herror
  cases he.symm.trans hforward

/-- The daemon adds the node, and the client is told that the daemon did not answer. -/
theorem addNode_not_answeredTruthfully : TablesAgree emptyDataflow ∧
    ¬ AnsweredTruthfully emptyDataflow
      [⟨⟨nilUuid, .addNode { id := ⟨"camera"⟩, path := some "camera.py" }⟩, true⟩] := by
  refine ⟨tablesAgree_emptyDataflow, fun h => ?_⟩
  have heffect : TakesEffect emptyDataflow
      ⟨⟨nilUuid, .addNode { id := ⟨"camera"⟩, path := some "camera.py" }⟩, true⟩ :=
    ⟨_, _, _, rfl, rfl, ⟨_, rfl⟩, _, rfl, Finset.notMem_empty _⟩
  exact (truthful_handle_iff _ _).mp ((answeredTruthfully_cons _ _ _).mp h).1 heffect

end DoraSpec.Coordinator.Topology
