import Mathlib.Data.Finset.Basic
import DoraSpec.Store.CoordinatorStore

/-!
# Nodes that wait for the start of a dataflow

Source `binaries/daemon/src/pending.rs`. A node that subscribes waits for its answer until all local
nodes have subscribed or ended. If the dataflow has nodes on other daemons too, the daemon then
reports to the coordinator and waits for its word. Nothing is said here about the channels: the
answers and the report are returned.
-/

namespace DoraSpec.Daemon
open Message Store
open Recording (Uuid)

/-- `pending.rs:18-40`. -/
structure PendingNodes where
  localNodes : Finset NodeId := ∅
  externalNodes : Bool := false
  waitingSubscribers : Finset NodeId := ∅
  exitedBeforeSubscribe : List NodeId := []
  reportedInitToCoordinator : Bool := false

/-- Answer to waiting nodes. -/
structure Answer where
  nodes : Finset NodeId
  result : Except String Unit

/-- What a step sends: answers to nodes, and a report with the nodes that ended too early. -/
structure PendingOutput where
  answer : Option Answer := none
  report : Option (List NodeId) := none

namespace PendingNodes

/-- Error for the nodes that have waited in vain; `pending.rs:182-186`. -/
def exitedError (dataflowId : Uuid) (causingNode : NodeId) : String :=
  s!"Node {causingNode.val} exited before initializing dora. For " ++
    s!"more information, run `dora logs {uuidText dataflowId} {causingNode.val}`."

/-- `answer_subscribe_requests`, `pending.rs:167-200`. -/
def answerSubscribeRequests (p : PendingNodes) (dataflowId : Uuid) (external : List NodeId) :
    PendingNodes × Answer :=
  let nodeExitedBeforeSubscribe := match p.exitedBeforeSubscribe with
    | first :: _ => some first
    | [] => external.head?
  let result := match nodeExitedBeforeSubscribe with
    | some causingNode => .error (exitedError dataflowId causingNode)
    | none => .ok ()
  ({ p with waitingSubscribers := ∅ }, { nodes := p.waitingSubscribers, result })

/-- `update_dataflow_status`, `pending.rs:142-165`. -/
def updateDataflowStatus (p : PendingNodes) (dataflowId : Uuid) : PendingNodes × PendingOutput :=
  if p.localNodes = ∅ then
    if p.externalNodes then
      if p.reportedInitToCoordinator then (p, {})
      else ({ p with reportedInitToCoordinator := true }, { report := some p.exitedBeforeSubscribe })
    else
      let r := p.answerSubscribeRequests dataflowId []
      (r.1, { answer := some r.2 })
  else (p, {})

/-- `handle_node_subscription`, `pending.rs:66-81`. -/
def handleNodeSubscription (p : PendingNodes) (dataflowId : Uuid) (nodeId : NodeId) :
    PendingNodes × PendingOutput :=
  { p with
    waitingSubscribers := insert nodeId p.waitingSubscribers
    localNodes := p.localNodes.erase nodeId }.updateDataflowStatus dataflowId

/-- `handle_node_stop`, `pending.rs:83-105`. -/
def handleNodeStop (p : PendingNodes) (dataflowId : Uuid) (nodeId : NodeId) :
    PendingNodes × PendingOutput :=
  if nodeId ∈ p.localNodes then
    { p with
      localNodes := p.localNodes.erase nodeId
      exitedBeforeSubscribe := p.exitedBeforeSubscribe ++ [nodeId] }.updateDataflowStatus dataflowId
  else (p, {})

/-- `handle_dataflow_stop`, `pending.rs:107-124`. The nodes are removed one by one, and only the removal
of the last local node has an effect. -/
def handleDataflowStop (p : PendingNodes) (dataflowId : Uuid) (dynamicNodes : Finset NodeId) :
    PendingNodes × PendingOutput :=
  if p.localNodes ∩ dynamicNodes = ∅ then (p, {})
  else { p with localNodes := p.localNodes \ dynamicNodes }.updateDataflowStatus dataflowId

/-- `handle_external_all_nodes_ready`, `pending.rs:126-140`, which goes on even if local nodes are
missing. -/
def handleExternalAllNodesReady (p : PendingNodes) (dataflowId : Uuid) (external : List NodeId) :
    PendingNodes × Answer :=
  p.answerSubscribeRequests dataflowId external

/-! ## Answers and reports -/

variable {p : PendingNodes} {dataflowId : Uuid}

/-- Nodes are told to start only if no node has ended too early. -/
theorem answerSubscribeRequests_ok {external : List NodeId} :
    (p.answerSubscribeRequests dataflowId external).2.result = .ok () ↔
      p.exitedBeforeSubscribe = [] ∧ external = [] := by
  unfold answerSubscribeRequests
  cases p.exitedBeforeSubscribe with
  | nil => cases external <;> simp
  | cons first rest => simp

/-- An update of the status, or none: only the flag and the waiting nodes change. A daemon reports
once, when no local node is missing, and only if there are other daemons. It answers on its own only
if there are none. -/
structure Updated (p : PendingNodes) (r : PendingNodes × PendingOutput) : Prop where
  localNodes : r.1.localNodes = p.localNodes
  externalNodes : r.1.externalNodes = p.externalNodes
  exited : r.1.exitedBeforeSubscribe = p.exitedBeforeSubscribe
  reported : p.reportedInitToCoordinator = true → r.1.reportedInitToCoordinator = true
  report : ∀ exited ∈ r.2.report, p.localNodes = ∅ ∧ p.externalNodes = true ∧
    p.reportedInitToCoordinator = false ∧ r.1.reportedInitToCoordinator = true ∧
    exited = p.exitedBeforeSubscribe
  answer : ∀ answer ∈ r.2.answer, p.localNodes = ∅ ∧ p.externalNodes = false ∧
    (answer.result = .ok () → p.exitedBeforeSubscribe = [])
  sent : p.reportedInitToCoordinator = false → r.1.reportedInitToCoordinator = true →
    r.2.report.isSome
  waiting : ∀ node ∈ p.waitingSubscribers,
    node ∈ r.1.waitingSubscribers ∨ ∃ answer ∈ r.2.answer, node ∈ answer.nodes
  fewer : r.1.waitingSubscribers ⊆ p.waitingSubscribers

/-- No update. -/
theorem Updated.rfl : Updated p (p, {}) where
  localNodes := Eq.refl _
  externalNodes := Eq.refl _
  exited := Eq.refl _
  reported := id
  report := nofun
  answer := nofun
  sent hfalse htrue := absurd (htrue.symm.trans hfalse) nofun
  waiting _ h := .inl h
  fewer := subset_rfl

/-- The update of the status is one. -/
theorem updated_updateDataflowStatus : Updated p (p.updateDataflowStatus dataflowId) := by
  fun_cases p.updateDataflowStatus dataflowId with
  | case1 | case4 => exact .rfl
  | case2 hlocal hexternal hreported =>
    refine ⟨rfl, rfl, rfl, fun _ => rfl, ?_, nofun, fun _ _ => rfl, fun _ h => .inl h, subset_rfl⟩
    rintro exited ⟨⟩
    exact ⟨hlocal, hexternal, by simpa using hreported, rfl, rfl⟩
  | case3 hlocal hexternal =>
    refine ⟨rfl, rfl, rfl, id, nofun, ?_, fun hfalse htrue => absurd (htrue.symm.trans hfalse) nofun,
      fun _ h => .inr ⟨_, rfl, h⟩, Finset.empty_subset _⟩
    rintro answer ⟨⟩
    exact ⟨hlocal, by simpa using hexternal, fun hok => (answerSubscribeRequests_ok.mp hok).1⟩

/-- A node that has ended is not waited for. -/
theorem localNodes_handleNodeStop (p : PendingNodes) (dataflowId : Uuid) (nodeId : NodeId) :
    (p.handleNodeStop dataflowId nodeId).1.localNodes = p.localNodes.erase nodeId := by
  unfold handleNodeStop
  split
  · exact updated_updateDataflowStatus.localNodes
  · next h => exact (Finset.erase_eq_of_notMem h).symm

/-- Without missing nodes, the daemon has reported or nobody waits. -/
def Complete (p : PendingNodes) : Prop :=
  p.localNodes = ∅ →
    if p.externalNodes then p.reportedInitToCoordinator = true else p.waitingSubscribers = ∅

/-- Nor after the answers. -/
theorem Complete.answerSubscribeRequests (h : p.Complete) (dataflowId : Uuid) (external : List NodeId) :
    (p.answerSubscribeRequests dataflowId external).1.Complete := by
  intro hlocal
  have := h hlocal
  cases hexternal : p.externalNodes with
  | true => simpa [PendingNodes.answerSubscribeRequests, hexternal] using this
  | false => simp [PendingNodes.answerSubscribeRequests, hexternal]

end PendingNodes

end DoraSpec.Daemon
