import DoraSpec.Coordinator.BarrierSafety

/-!
# Nodes do not wait for ever

Whoever waits for the start of a dataflow waits for a node, for a message under way or for a daemon
that has not reported. When no message is under way and all nodes have subscribed or ended, nobody
waits. This takes connections that last and nodes that subscribe before their daemon is told to go
ahead.
-/

namespace DoraSpec.Coordinator.StartBarrier
open Base Message Store Function State Finset Option
open Recording (Uuid)
open Daemon (PendingNodes Answer PendingOutput)
open Coordinator.Readiness (RunningDataflow left right)

/-- A part waits for its nodes, or for the word of the coordinator that knows of it. -/
structure PartWaits (s : State) (daemon : DaemonId) (part : Part) : Prop where
  missing : ∀ n ∈ part.pendingNodes.localNodes, n ∉ s.subscribed daemon ∧ n ∉ s.exited daemon
  complete : (s.nodes daemon).Nonempty → part.pendingNodes.Complete
  daemons : ∃ df ∈ s.dataflow, daemon ∈ df.daemons
  connected : daemon ∈ s.daemonConnections
  word : part.pendingNodes.externalNodes = true → ∀ df ∈ s.dataflow, df.pendingDaemons = ∅ →
    s.toDaemon daemon ≠ [] ∨ s.released daemon = true
  released : s.released daemon = true → part.pendingNodes.waitingSubscribers = ∅

/-- The coordinator waits for parts that have not reported, or for reports under way. -/
structure Waits (s : State) : Prop where
  nodes : ∀ d ∈ s.members, (s.nodes d).Nonempty
  several : ∀ df ∈ s.dataflow, df.pendingDaemons.Nonempty → 1 < s.members.card
  members : ∀ df ∈ s.dataflow, df.pendingDaemons ⊆ s.members
  parts : ∀ d, ∀ part ∈ s.parts d, PartWaits s d part
  pending : ∀ df ∈ s.dataflow, ∀ d ∈ df.pendingDaemons,
    (∃ part ∈ s.parts d, part.pendingNodes.reportedInitToCoordinator = false) ∨
      ∃ exited, .allNodesReady exited ∈ s.toCoordinator d
  finished : ∀ d, .allNodesFinished ∈ s.toCoordinator d → s.parts d = none

variable {s t : State} {daemon : DaemonId} {part : Part} {p : PendingNodes}
  {r : PendingNodes × PendingOutput} {node : NodeId} {part' : Part}

private theorem Waits.reported (h : Waits s) (hinv : Inv s) {df : RunningDataflow} (hdf : df ∈ s.dataflow)
    (hpending : daemon ∈ df.pendingDaemons) (hpart : part ∈ s.parts daemon)
    (hlocal : part.pendingNodes.localNodes = ∅) :
    part.pendingNodes.reportedInitToCoordinator = true := by
  have hok := hinv.parts daemon part hpart
  have hcomplete := (h.parts daemon part hpart).complete (h.nodes daemon hok.member) hlocal
  have hexternal : part.pendingNodes.externalNodes = true := by
    have hseveral := h.several df hdf ⟨daemon, hpending⟩
    refine hok.external.mpr (card_pos.mp ?_)
    rw [card_erase_of_mem hok.member]
    omega
  simpa [hexternal] using hcomplete

section Steps

variable (hw : Waits s)
include hw

end Steps

private theorem members_step (s : State) (e : Event) : (step s e).1.members = s.members := by
  cases e <;> simp only [step, subscribe, nodeStop, stopDataflow, addNode,
    finish, recover, coordinatorReceives, daemonReceives, commit]
  all_goals repeat' split
  all_goals rfl

/-- A camera and a scanner on two machines. -/
def twoSensors : Assignment where
  nodes := {⟨"camera"⟩, ⟨"scanner"⟩}
  daemonOf n := if n = ⟨"camera"⟩ then left else right

/-- Both have subscribed, and the coordinator has told the daemons to go ahead. -/
def bothSubscribe : List Event :=
  [.subscribe left ⟨"camera"⟩, .subscribe right ⟨"scanner"⟩, .coordinatorReceives left,
    .coordinatorReceives right]

/-- A node that subscribes after its daemon was told to go ahead is answered at once. -/
def Prompt (s : State) : Event → Prop
  | .subscribe daemon node => s.released daemon = true →
    ∃ answer, (daemon, answer) ∈ (step s (.subscribe daemon node)).2 ∧ node ∈ answer.nodes
  | _ => True

/-- No node subscribes after its daemon was told to go ahead, except to a dataflow that is gone. -/
def OnTime (s : State) : Event → Prop
  | .subscribe daemon _ => s.released daemon = true → s.parts daemon = none
  | _ => True

/-- The dataflow has several daemons, and each of them knows. -/
def External (s : State) : Prop :=
  1 < s.members.card ∧ ∀ d, ∀ part ∈ s.parts d, part.pendingNodes.externalNodes = true

private theorem External.update (h : External s)
    (hpart' : part'.pendingNodes.externalNodes = true) :
    ∀ d, ∀ part ∈ update s.parts daemon (some part') d,
      part.pendingNodes.externalNodes = true := by
  intro d part hpart
  rcases mem_update_some hpart with ⟨-, rfl⟩ | ⟨-, hpart⟩
  · exact hpart'
  · exact h.2 d part hpart

private theorem External.drop (h : External s) :
    ∀ d, ∀ part ∈ Function.update s.parts daemon none d, part.pendingNodes.externalNodes = true :=
  fun d part hpart => h.2 d part (mem_of_mem_update_none hpart)

private theorem externalNodes_spawnPart {members : Finset DaemonId} (h : 1 < members.card)
    {nodes dynamicNodes : Finset NodeId} :
    (spawnPart members daemon nodes dynamicNodes).pendingNodes.externalNodes = true := by
  have hle := pred_card_le_card_erase (a := daemon) (s := members)
  have hsome : (members.erase daemon).Nonempty := card_pos.mp (by omega)
  simpa [spawnPart] using hsome

private theorem externalNodes_handleNodeStop {dataflowId : Uuid} :
    (p.handleNodeStop dataflowId node).1.externalNodes = p.externalNodes := by
  unfold PendingNodes.handleNodeStop
  split
  · exact PendingNodes.updated_updateDataflowStatus.externalNodes
  · rfl

private theorem externalNodes_handleDataflowStop {dataflowId : Uuid}
    {dynamicNodes : Finset NodeId} :
    (p.handleDataflowStop dataflowId dynamicNodes).1.externalNodes = p.externalNodes := by
  unfold PendingNodes.handleDataflowStop
  split
  · rfl
  · exact PendingNodes.updated_updateDataflowStatus.externalNodes

private theorem external_step (h : External s) (e : Event) : External (step s e).1 := by
  refine ⟨(members_step s e).symm ▸ h.1, ?_⟩
  cases e with
  | subscribe daemon node =>
    simp only [step, subscribe]
    split
    · exact h.2
    · next part hpart =>
      exact h.update (PendingNodes.updated_updateDataflowStatus.externalNodes.trans (h.2 daemon part hpart))
  | nodeStop daemon node =>
    simp only [step, nodeStop]
    split
    · exact h.2
    · next part hpart => exact h.update (externalNodes_handleNodeStop.trans (h.2 daemon part hpart))
  | stopDataflow daemon =>
    simp only [step, stopDataflow]
    split
    · exact h.2
    · next part hpart => exact h.update (externalNodes_handleDataflowStop.trans (h.2 daemon part hpart))
  | addNode daemon node dynamic =>
    simp only [step, addNode]
    split
    · exact h.2
    · next part hpart => cases dynamic <;> exact h.update (h.2 daemon part hpart)
  | finish daemon =>
    simp only [step, finish]
    split
    · exact h.2
    · split
      · exact h.drop
      · exact h.2
  | dropDataflow daemon => exact h.drop
  | recover daemon =>
    simp only [step, recover]
    split
    · exact h.update (externalNodes_spawnPart h.1)
    · exact h.2
  | coordinatorReceives daemon =>
    simp only [step, coordinatorReceives]
    split
    · exact h.2
    · split <;> exact h.2
  | daemonReceives daemon =>
    simp only [step, daemonReceives]
    split
    · exact h.2
    · split
      · exact h.2
      · next part hpart => exact h.update (h.2 daemon part hpart)
  | connectionLost | register | daemonExit | heartbeatInterval => exact h.2

private theorem prompt_iff_onTime (h : External s) (e : Event) : Prompt s e ↔ OnTime s e := by
  cases e with
  | subscribe daemon node =>
    simp only [Prompt, OnTime, step, subscribe]
    refine imp_congr_right fun _ => ?_
    cases hpart : s.parts daemon with
    | none => simp
    | some part =>
      refine iff_of_false ?_ nofun
      rintro ⟨answer, hmem, -⟩
      obtain ⟨answer', hmem', -⟩ := List.mem_map.mp hmem
      have hfalse := (PendingNodes.updated_updateDataflowStatus.answer answer'
        (mem_toList.mp hmem')).2.1
      cases (h.2 daemon part hpart).symm.trans hfalse
  | _ => exact Iff.rfl

/-- In every run of a dataflow on several daemons: nodes that subscribe after the start are answered
at once exactly if there are none. -/
theorem lateSubscribers_answered_iff (dataflowId : Uuid) (a : Assignment)
    (hseveral : 1 < a.daemons.card) (events : List Event) :
    Machine.Along step Prompt (start dataflowId a) events ↔
      Machine.Along step OnTime (start dataflowId a) events := by
  have hstart : External (start dataflowId a) := by
    refine ⟨hseveral, fun d part hpart => ?_⟩
    obtain ⟨hd, rfl⟩ := mem_parts_start hpart
    exact externalNodes_spawnPart hseveral
  exact ⟨Machine.Along.imp step External
      (fun s e h he => ⟨(prompt_iff_onTime h e).mp he, external_step h e⟩) hstart,
    Machine.Along.imp step External
      (fun s e h he => ⟨(prompt_iff_onTime h e).mpr he, external_step h e⟩) hstart⟩

/-- Nobody subscribes late. -/
theorem bothSubscribe_prompt :
    1 < twoSensors.daemons.card ∧
      Machine.Along step Prompt (start nilUuid twoSensors) bothSubscribe :=
  ⟨by decide, (lateSubscribers_answered_iff nilUuid twoSensors (by decide) bothSubscribe).mpr
    ⟨fun h => absurd h (by decide), fun h => absurd h (by decide), True.intro, True.intro, True.intro⟩⟩

/-- The camera is restarted after the start and subscribes again. -/
theorem restartedNode_not_prompt :
    ¬ Machine.Along step Prompt (start nilUuid twoSensors)
      (bothSubscribe ++ [.daemonReceives left, .subscribe left ⟨"camera"⟩]) := by
  rintro ⟨-, -, -, -, -, hlast, -⟩
  obtain ⟨answer, hmem, -⟩ := hlast (by decide)
  exact absurd hmem List.not_mem_nil

end DoraSpec.Coordinator.StartBarrier
