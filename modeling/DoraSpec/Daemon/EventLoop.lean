import DoraSpec.Base.Machine
import DoraSpec.Daemon.PendingNodes
import DoraSpec.Daemon.Topology
import DoraSpec.Node.Event

/-!
# The event loop of a daemon

Source `binaries/daemon/src/lib.rs:876-1130` and the handlers that it calls. All dataflows of a
daemon share one loop, and an error of a handler ends it. Events may be under way when their
dataflow finishes, and most handlers then answer or log that it is not running. Two of them return
an error. What the handlers do with a running dataflow is left out as far as it decides neither when
the dataflow finishes nor whether the loop goes on. Messages to the coordinator and to other daemons
are taken to be sent.
-/

namespace DoraSpec.Daemon.EventLoop
open Base Message Store
open Recording (Uuid)
open Node (DataMessage)

/-! ## State -/

/-- What decides when a dataflow finishes and which outputs leave the machine;
`running_dataflow.rs:177-222`. Running nodes come with their flag for dynamic nodes. -/
structure RunningDataflow where
  pendingNodes : PendingNodes
  dynamicNodes : Finset NodeId
  runningNodes : AList fun _ : NodeId => Bool := ∅
  openExternalMappings : Finset OutputId := ∅
  enableDebugInspection : Bool := false
  stopSent : Bool := false

namespace RunningDataflow

/-- No node of its own is left that must end; `lib.rs:3276-3282`. -/
def onlyDynamic (df : RunningDataflow) : Bool :=
  df.pendingNodes.localNodes = ∅ && df.runningNodes.entries.all (·.2)

/-- When only dynamic nodes are left. -/
theorem onlyDynamic_iff {df : RunningDataflow} :
    df.onlyDynamic = true ↔ df.pendingNodes.localNodes = ∅ ∧
      ∀ node dynamic, df.runningNodes.lookup node = some dynamic → dynamic = true := by
  simp only [onlyDynamic, Bool.and_eq_true, decide_eq_true_eq, List.all_eq_true, and_congr_right_iff]
  refine fun _ => ⟨fun h node dynamic hnode => ?_, fun h e he => ?_⟩
  · exact h ⟨node, dynamic⟩ (AList.mem_lookup_iff.mp hnode)
  · exact h e.1 e.2 (AList.mem_lookup_iff.mpr he)

/-- `should_finish_immediately`, `running_dataflow.rs:416-428`. -/
def shouldFinishImmediately (df : RunningDataflow) : Bool := df.onlyDynamic && df.stopSent

/-- `stop_all`, `running_dataflow.rs:345-414`. -/
def stopAll (df : RunningDataflow) (id : Uuid) : RunningDataflow :=
  { df with
    pendingNodes := (df.pendingNodes.handleDataflowStop id df.dynamicNodes).1
    stopSent := true }

/-- The output goes to other daemons, which takes its data; `lib.rs:2892-2893`. -/
def remoteReceivers (df : RunningDataflow) (output : OutputId) : Bool :=
  output ∈ df.openExternalMappings || df.enableDebugInspection

end RunningDataflow

/-- Error that ends the loop. -/
inductive Failure where
  /-- The dataflow of the event is not running. -/
  | dataflowGone (text : String)
  /-- The node that owned the memory has removed it. -/
  | memoryGone (text : String)
  | other (text : String)

/-- Whether the loop goes on. -/
inductive Status where
  | running
  | exited
  | failed (failure : Failure)

/-- What the loop keeps; `lib.rs:247-268`. -/
structure State where
  status : Status := .running
  running : AList fun _ : Uuid => RunningDataflow := ∅
  coordinator : Bool := true
  exitWhenDone : Option (Finset (Uuid × NodeId)) := none
  exitWhenAllFinished : Bool := false

/-- What a handler answers or logs. -/
inductive Notice where
  | reply (result : Except String Unit)
  | log (text : String)

/-! ## Events -/

/-- Requests whose handlers answer with an error if the dataflow is not running. -/
inductive Request where
  | subscribeDrop | closeOutputs | outputsDone | eventStreamDropped
  | reloadDataflow | restartNode | stopNode | setParam | deleteParam
  | startTopicDebugStream | stopTopicDebugStream

/-- The answer; `lib.rs:1402-1464, 1830-1863, 2756-2862, 3065, 3175`. -/
def Request.missing (request : Request) (id : Uuid) : String :=
  let gone := s!"no running dataflow with ID `{uuidText id}`"
  match request with
  | .subscribeDrop => "failed to subscribe: " ++ gone
  | .reloadDataflow => "Reload failed: " ++ gone
  | _ => gone

/-- Messages whose handlers at most log that the dataflow is not running. -/
inductive Signal where
  | reportDrop | timer | logs | logBroadcast | processHandleReplaced
  | addMapping | removeMapping | stateCatchUp | remoteOutput | remoteOutputClosed

/-- The log; `lib.rs:1790-1824, 1880-1888, 2057-2125, 2812-2835, 3357-3452, 3778-3782`. -/
def Signal.missing (signal : Signal) (id : Uuid) : List Notice :=
  let gone := s!"no running dataflow with ID `{uuidText id}`"
  match signal with
  | .reportDrop => [.log ("failed to get handle drop tokens: " ++ gone)]
  | .timer => [.log s!"Timer event for unknown dataflow `{uuidText id}`"]
  | .logs => [.log s!"Logs event for unknown dataflow `{uuidText id}`"]
  | .processHandleReplaced => [.log "ProcessHandleReplaced for unknown dataflow"]
  | .stateCatchUp =>
    [.log s!"state catch-up: dataflow `{uuidText id}` no longer running on daemon"]
  | .remoteOutput | .remoteOutputClosed => [.log ("send out failed: " ++ gone)]
  | .logBroadcast | .addMapping | .removeMapping => []

/-- Node of a dataflow to spawn, and whether it could be prepared. -/
structure SpawnNode where
  id : NodeId
  dynamic : Bool := false
  prepared : Bool := true

/-- Events of the loop; `event_types.rs` and `lib.rs:917-1103`. Where the answer of a handler depends
on what is left out here, it is part of the event. -/
inductive Event where
  | request (request : Request) (id : Uuid) (result : Except String Unit)
  | signal (signal : Signal) (id : Uuid)
  | subscribe (id : Uuid) (node : NodeId)
  /-- An output of a node, with the size of the memory region of its data if it can be opened. -/
  | sendOut (id : Uuid) (output : OutputId) (data : Option DataMessage) (region : Option Nat)
  | spawnedNodeResult (id : Uuid) (node : NodeId) (dynamic restart : Bool)
  | spawnNodeResult (id : Uuid) (node : NodeId) (dynamic : Bool) (result : Except String Unit)
  | build (workingDir : Except String Unit)
  /-- A dataflow is spawned, on this daemon and maybe others, or found not to be built. Nodes on other
  daemons read the outputs in the last but one field. -/
  | spawn (id : Uuid) (nodes : List SpawnNode) (external : Bool)
      (workingDir result : Except String Unit) (openExternalMappings : Finset OutputId := ∅)
      (enableDebugInspection : Bool := false)
  | allNodesReady (id : Uuid) (exitedBeforeSubscribe : List NodeId)
  | stopDataflow (id : Uuid)
  | addNode (id : Uuid) (node : NodeId) (dynamic : Bool) (result : Except String Unit)
  | removeNode (id : Uuid) (node : NodeId)
  /-- A dynamic node asks for its configuration. -/
  | nodeConfig (node : NodeId)
  | nodeStopped (id : Uuid) (node : NodeId)
  /-- The first signal to stop, or the time for it. -/
  | manualStop
  | secondCtrlC
  | destroy
  /-- Nanoseconds since the last heartbeat of the coordinator. -/
  | heartbeatInterval (elapsed : Nat)
  /-- Events that do not look at a dataflow. -/
  | other

/-- The dataflow that an event refers to. -/
def Event.dataflow? : Event → Option Uuid
  | .request _ id _ | .signal _ id | .subscribe id _ | .sendOut id _ _ _
  | .spawnedNodeResult id _ _ _ | .spawnNodeResult id _ _ _ | .spawn id ..
  | .allNodesReady id _ | .stopDataflow id | .addNode id _ _ _ | .removeNode id _
  | .nodeStopped id _ => some id
  | .build _ | .nodeConfig _ | .manualStop | .secondCtrlC | .destroy | .heartbeatInterval _ | .other => none

/-! ## Handlers -/

namespace State

/-- Handlers that look the dataflow up and only answer or log if it is not running. -/
def lookup (s : State) (id : Uuid) (missing : List Notice)
    (f : RunningDataflow → RunningDataflow × List Notice) : State × List Notice :=
  match s.running.lookup id with
  | none => (s, missing)
  | some df => ({ s with running := s.running.insert id (f df).1 }, (f df).2)

/-- The loop ends with an error. -/
def fail (s : State) (failure : Failure) : State × List Notice :=
  ({ s with status := .failed failure }, [])

/-- `finish_dataflow`, `lib.rs:3289-3348`. -/
def finishDataflow (s : State) (id : Uuid) : State := { s with running := s.running.erase id }

/-- `subscribe`, `lib.rs:2694-2751`. -/
def subscribe (s : State) (id : Uuid) (node : NodeId) : State × List Notice :=
  let err := s!"subscribe failed: no running dataflow with ID `{uuidText id}`"
  s.lookup id [.reply (.error err)] fun df =>
    ({ df with pendingNodes := (df.pendingNodes.handleNodeSubscription id node).1 }, [])

/-- The data of an output for other daemons; `lib.rs:4141-4161`. -/
def dataBytes (data : Option DataMessage) (region : Option Nat) : Except Failure Unit :=
  match data, region with
  | some (.sharedMemory _ _ _), none => .error (.memoryGone "failed to map shared memory output")
  | some (.sharedMemory _ len _), some size =>
    if size < len then .error (.other s!"shared memory length {len} exceeds region size {size}")
    else .ok ()
  | _, _ => .ok ()

/-- `send_out`, `lib.rs:2879-2942`. -/
def sendOut (s : State) (id : Uuid) (output : OutputId) (data : Option DataMessage)
    (region : Option Nat) : State × List Notice :=
  match s.running.lookup id with
  | none =>
    s.fail (.dataflowGone s!"send out failed: no running dataflow with ID `{uuidText id}`")
  | some df =>
    if df.remoteReceivers output then
      match dataBytes data region with
      | .ok () => (s, [])
      | .error failure => s.fail failure
    else (s, [])

/-- `handle_node_stop_inner`, `lib.rs:3230-3287`. -/
def handleNodeStopInner (s : State) (id : Uuid) (node : NodeId) (dynamic : Bool) :
    Except String State :=
  match s.running.lookup id with
  | none =>
    -- dynamic nodes may outlive their dataflow
    if dynamic then .ok s
    else .error s!"failed to get downstream nodes: no running dataflow with ID `{uuidText id}`"
  | some df =>
    let df := { df with
      pendingNodes := (df.pendingNodes.handleNodeStop id node).1
      runningNodes := df.runningNodes.erase node }
    if df.onlyDynamic then .ok (s.finishDataflow id)
    else .ok { s with running := s.running.insert id df }

/-- `handle_node_stop`, `lib.rs:3208-3228`. -/
def handleNodeStop (s : State) (id : Uuid) (node : NodeId) (dynamic : Bool) : State × List Notice :=
  match s.handleNodeStopInner id node dynamic with
  | .ok s => (s, [])
  | .error text => s.fail (.dataflowGone text)

/-- A node could be started or not; `lib.rs:998-1021`. -/
def spawnNodeResult (s : State) (id : Uuid) (node : NodeId) (dynamic : Bool)
    (result : Except String Unit) : State × List Notice :=
  match result with
  | .ok () =>
    let err := s!"failed to handle SpawnNodeResult: no running dataflow with ID {uuidText id}"
    s.lookup id [.log err] fun df =>
      ({ df with runningNodes := df.runningNodes.insert node dynamic }, [])
  | .error _ => s.handleNodeStop id node dynamic

/-- A node has ended; `lib.rs:3528-3749`. -/
def spawnedNodeResult (s : State) (id : Uuid) (node : NodeId) (dynamic restart : Bool) :
    State × List Notice :=
  if restart then (s, []) else s.handleNodeStop id node dynamic

/-- Nodes that could not be prepared are stopped; the first error is that of the request;
`lib.rs:2483-2486`. -/
def stopUnprepared (s : State) (id : Uuid) : List SpawnNode → State × Except String Unit
  | [] => (s, .ok ())
  | node :: nodes =>
    match s.handleNodeStopInner id node.id node.dynamic with
    | .ok s => s.stopUnprepared id nodes
    | .error text => (s, .error text)

/-- A working directory that does not exist ends the loop; `lib.rs:1183, 1247`. -/
def checkWorkingDir (s : State) (workingDir : Except String Unit) (r : State × List Notice) :
    State × List Notice :=
  match workingDir with
  | .ok () => r
  | .error text => s.fail (.other text)

/-- `spawn_dataflow`, `lib.rs:2224-2497`, whose errors are answers. -/
def spawn (s : State) (id : Uuid) (nodes : List SpawnNode) (external : Bool)
    (result : Except String Unit) (openExternalMappings : Finset OutputId := ∅)
    (enableDebugInspection : Bool := false) : State × List Notice :=
  if id ∈ s.running then
    (s, [.reply (.error s!"there is already a running dataflow with ID `{uuidText id}`")])
  else
    let pendingNodes := {
      localNodes := ((nodes.filter fun n => !n.dynamic).map SpawnNode.id).toFinset
      externalNodes := external }
    let dynamicNodes := ((nodes.filter SpawnNode.dynamic).map SpawnNode.id).toFinset
    let df := { pendingNodes, dynamicNodes, openExternalMappings, enableDebugInspection }
    let s := { s with running := s.running.insert id df }
    match result with
    | .error text => (s, [.reply (.error text)])
    | .ok () =>
      let r := s.stopUnprepared id (nodes.filter fun n => !n.prepared)
      (r.1, [.reply r.2])

/-- `lib.rs:1294-1331`. -/
def allNodesReady (s : State) (id : Uuid) (exited : List NodeId) : State × List Notice :=
  s.lookup id [.log s!"received AllNodesReady for unknown dataflow (ID `{uuidText id}`)"] fun df =>
    ({ df with pendingNodes := (df.pendingNodes.handleExternalAllNodesReady id exited).1 }, [])

/-- Stop a dataflow and finish it at once if none of its nodes must end. -/
def stopAndFinish (s : State) (id : Uuid) (df : RunningDataflow) : State :=
  if (df.stopAll id).shouldFinishImmediately then s.finishDataflow id
  else { s with running := s.running.insert id (df.stopAll id) }

/-- `lib.rs:1473-1518`. -/
def stopDataflow (s : State) (id : Uuid) : State × List Notice :=
  match s.running.lookup id with
  | none => (s, [.reply (.error s!"no running dataflow with ID `{uuidText id}`")])
  | some df => (s.stopAndFinish id df, [.reply (.ok ())])

/-- A node is added if its process could be started; `lib.rs:1546-1736`. -/
def addNode (s : State) (id : Uuid) (node : NodeId) (dynamic : Bool) (result : Except String Unit) :
    State × List Notice :=
  s.lookup id [.log s!"AddNode failed: no running dataflow with ID `{uuidText id}`"] fun df =>
    match result with
    | .error text => (df, [.log ("AddNode failed: " ++ text)])
    | .ok () =>
      let df := { df with runningNodes := df.runningNodes.insert node dynamic }
      let localNodes := insert node df.pendingNodes.localNodes
      (if dynamic then { df with dynamicNodes := insert node df.dynamicNodes }
        else { df with pendingNodes := { df.pendingNodes with localNodes } }, [])

/-- The node is forgotten before it has ended; `lib.rs:1738-1781`. -/
def removeNode (s : State) (id : Uuid) (node : NodeId) : State × List Notice :=
  s.lookup id [] fun df => ({ df with runningNodes := df.runningNodes.erase node }, [])

/-- `handle_dynamic_node_event`, `lib.rs:2619-2676`. -/
def nodeConfig (s : State) (node : NodeId) : Except String Unit :=
  match s.running.entries.filterMap fun e => (e.2.runningNodes.lookup node).map (e.1, ·) with
  | [] => .error s!"no node with ID `{node.val}`"
  | [(id, dynamic)] =>
    if dynamic then .ok ()
    else .error ("failed to get dynamic node config within given dataflow: " ++
      s!"node with ID `{node.val}` in {uuidText id} is not dynamic")
  | _ => .error (s!"multiple dataflows contain dynamic node id {node.val}. " ++
      "Please only have one running dataflow with the specified " ++
      "node id if you want to use dynamic node")

/-- `lib.rs:1076-1091`. -/
def nodeStopped (s : State) (id : Uuid) (node : NodeId) : State :=
  let s := { s with exitWhenDone := s.exitWhenDone.map (·.erase (id, node)) }
  if s.exitWhenDone = some ∅ then { s with status := .exited }
  else if s.exitWhenAllFinished && s.running.entries.isEmpty then { s with status := .exited }
  else s

/-- `trigger_manual_stop`, `lib.rs:1132-1161`, and the end of the loop if nothing is left. -/
def manualStop (s : State) : State :=
  let s := s.running.entries.foldl (fun s e => s.stopAndFinish e.1 e.2) s
  let s := { s with exitWhenAllFinished := true }
  if s.running.entries.isEmpty then { s with status := .exited } else s

/-- `lib.rs:937-966`. -/
def heartbeatInterval (s : State) (elapsed : Nat) : State × List Notice :=
  if s.coordinator && decide (20000000000 < elapsed) then
    s.fail (.other "coordinator heartbeat timeout (20s)")
  else (s, [])

/-- One event. -/
def handle (s : State) : Event → State × List Notice
  | .request request id result =>
    s.lookup id [.reply (.error (request.missing id))] fun df => (df, [.reply result])
  | .signal signal id => s.lookup id (signal.missing id) fun df => (df, [])
  | .subscribe id node => s.subscribe id node
  | .sendOut id output data region => s.sendOut id output data region
  | .spawnedNodeResult id node dynamic restart => s.spawnedNodeResult id node dynamic restart
  | .spawnNodeResult id node dynamic result => s.spawnNodeResult id node dynamic result
  | .build workingDir => s.checkWorkingDir workingDir (s, [])
  | .spawn id nodes external workingDir result openExternalMappings enableDebugInspection =>
    s.checkWorkingDir workingDir
      (s.spawn id nodes external result openExternalMappings enableDebugInspection)
  | .allNodesReady id exited => s.allNodesReady id exited
  | .stopDataflow id => s.stopDataflow id
  | .addNode id node dynamic result => s.addNode id node dynamic result
  | .removeNode id node => s.removeNode id node
  | .nodeConfig node => (s, [.reply (s.nodeConfig node)])
  | .nodeStopped id node => (s.nodeStopped id node, [])
  | .manualStop => (s.manualStop, [])
  | .secondCtrlC => s.fail (.other "received second ctrl-c signal")
  | .destroy => ({ s with status := .exited }, [.reply (.ok ())])
  | .heartbeatInterval elapsed => s.heartbeatInterval elapsed
  | .other => (s, [])

end State

/-- One turn of the loop, which takes no events any more once it has ended. -/
def step (s : State) (e : Event) : State × List Notice :=
  match s.status with
  | .running => s.handle e
  | _ => (s, [])

/-! ## Events of dataflows that are gone -/

/-- The loop has ended because of a dataflow or a node that is gone. -/
def State.Lost (s : State) : Prop :=
  match s.status with
  | .failed (.dataflowGone _) | .failed (.memoryGone _) => True
  | _ => False

/-- The data of the output can still be read. -/
def Available : Option DataMessage → Option Nat → Prop
  | some (.sharedMemory _ _ _), none => False
  | _, _ => True

/-- Outputs come from running dataflows, and if they go to other daemons their data is there. Nodes that
are not dynamic end, or fail to start, before their dataflow finishes. -/
def Served (s : State) : Event → Prop
  | .sendOut id output data region =>
    ∃ df ∈ s.running.lookup id, df.remoteReceivers output = true → Available data region
  | .spawnedNodeResult id _ dynamic restart => restart = false → dynamic = false → id ∈ s.running
  | .spawnNodeResult id _ dynamic (.error _) => dynamic = false → id ∈ s.running
  | _ => True

/-- The loop does not end because of an event for something that is gone, and an event for one dataflow
leaves the others as they are. -/
def Survives (s : State) (e : Event) : Prop :=
  ¬ (step s e).1.Lost ∧
    ∀ id ∈ e.dataflow?, ∀ other, other ≠ id → (step s e).1.running.lookup other = s.running.lookup other

section

variable {s : State} {id other : Uuid}

/-- Only the dataflow is changed, and the loop goes on. -/
structure Kept (s : State) (id : Uuid) (t : State) : Prop where
  status : t.status = s.status
  running : ∀ other, other ≠ id → t.running.lookup other = s.running.lookup other

private theorem Kept.refl : Kept s id s := ⟨rfl, fun _ _ => rfl⟩

variable {df : RunningDataflow} {node : NodeId}

private theorem Kept.insert : Kept s id { s with running := s.running.insert id df } :=
  ⟨rfl, fun _ h => AList.lookup_insert_ne h⟩

private theorem Kept.finishDataflow : Kept s id (s.finishDataflow id) :=
  ⟨rfl, fun _ h => AList.lookup_erase_ne h⟩

private theorem Kept.trans {t u : State} (h : Kept s id t) (h' : Kept t id u) : Kept s id u :=
  ⟨h'.status.trans h.status, fun other hne => (h'.running other hne).trans (h.running other hne)⟩

/-- A lookup. -/
theorem kept_lookup {missing : List Notice} {f : RunningDataflow → RunningDataflow × List Notice} :
    Kept s id (s.lookup id missing f).1 := by
  unfold State.lookup
  split
  · exact .refl
  · exact .insert

/-- A stop. -/
theorem kept_stopAndFinish : Kept s id (s.stopAndFinish id df) := by
  unfold State.stopAndFinish
  split
  · exact .finishDataflow
  · exact .insert

private theorem kept_stopDataflow : Kept s id (s.stopDataflow id).1 := by
  unfold State.stopDataflow
  split
  · exact .refl
  · exact kept_stopAndFinish

private theorem kept_handleNodeStopInner {dynamic : Bool} {t : State}
    (h : s.handleNodeStopInner id node dynamic = .ok t) : Kept s id t := by
  revert h
  fun_cases s.handleNodeStopInner id node dynamic <;> rintro ⟨⟩
  · exact .refl
  · exact .finishDataflow
  · exact .insert

/-- Nodes that cannot be prepared. -/
theorem kept_stopUnprepared {nodes : List SpawnNode} : Kept s id (s.stopUnprepared id nodes).1 := by
  induction nodes generalizing s with
  | nil => exact .refl
  | cons node nodes ih =>
    unfold State.stopUnprepared
    split
    · next t ht => exact (kept_handleNodeStopInner ht).trans ih
    · exact .refl

/-- A spawn. -/
theorem kept_spawn {nodes : List SpawnNode} {external : Bool} {result : Except String Unit}
    {mappings : Finset OutputId} {inspected : Bool} :
    Kept s id (s.spawn id nodes external result mappings inspected).1 := by
  fun_cases s.spawn id nodes external result mappings inspected with
  | case1 => exact .refl
  | case2 => exact .insert
  | case3 => exact Kept.insert.trans kept_stopUnprepared

/-- A node stop fails exactly if the dataflow is gone and the node is not dynamic. -/
theorem handleNodeStop_cases (s : State) (id : Uuid) (node : NodeId) (dynamic : Bool) :
    (dynamic = false → id ∈ s.running) ∧ Kept s id (s.handleNodeStop id node dynamic).1 ∨
      ¬ (dynamic = false → id ∈ s.running) ∧ (s.handleNodeStop id node dynamic).1.Lost ∧
        (s.handleNodeStop id node dynamic).1.running = s.running := by
  unfold State.handleNodeStop
  split
  · next t ht =>
    refine .inl ⟨fun hdynamic => ?_, kept_handleNodeStopInner ht⟩
    subst hdynamic
    unfold State.handleNodeStopInner at ht
    split at ht
    · simp at ht
    · next df hdf => exact AList.lookup_isSome.mp (by simp [hdf])
  · next text ht =>
    refine .inr ⟨?_, True.intro, rfl⟩
    unfold State.handleNodeStopInner at ht
    split at ht
    · next hnone =>
      split at ht
      · cases ht
      · next hdynamic =>
        intro h
        exact AList.lookup_eq_none.mp hnone (h (by simpa using hdynamic))
    · dsimp only at ht
      split at ht <;> cases ht

/-- What the end of a node leaves of its dataflow, unless that finishes; `lib.rs:3253-3282`. -/
def RunningDataflow.stopNode (df : RunningDataflow) (id : Uuid) (node : NodeId) : RunningDataflow :=
  { df with
    pendingNodes := (df.pendingNodes.handleNodeStop id node).1
    runningNodes := df.runningNodes.erase node }

/-- The end of a node of a running dataflow. -/
theorem handleNodeStopInner_of_lookup (hdf : s.running.lookup id = some df) (node : NodeId)
    (dynamic : Bool) :
    s.handleNodeStopInner id node dynamic = .ok (if (df.stopNode id node).onlyDynamic then
      s.finishDataflow id else { s with running := s.running.insert id (df.stopNode id node) }) := by
  simp only [State.handleNodeStopInner, hdf]
  change (if (df.stopNode id node).onlyDynamic then _ else _) = _
  split <;> rfl

/-- The end of a node of a running dataflow. -/
theorem handleNodeStop_of_lookup (hdf : s.running.lookup id = some df) (node : NodeId)
    (dynamic : Bool) :
    (s.handleNodeStop id node dynamic).1 = if (df.stopNode id node).onlyDynamic then
      s.finishDataflow id else { s with running := s.running.insert id (df.stopNode id node) } := by
  simp only [State.handleNodeStop, handleNodeStopInner_of_lookup hdf]

private theorem dataBytes_cases (data : Option DataMessage) (region : Option Nat) :
    (Available data region ∧ (State.dataBytes data region = .ok () ∨
        ∃ text, State.dataBytes data region = .error (.other text))) ∨
      ¬ Available data region ∧ ∃ text, State.dataBytes data region = .error (.memoryGone text) := by
  match data, region with
  | some (.sharedMemory _ _ _), none => exact .inr ⟨not_false, _, rfl⟩
  | some (.sharedMemory _ len _), some size =>
    refine .inl ⟨True.intro, ?_⟩
    by_cases h : size < len
    · exact .inr ⟨_, if_pos h⟩
    · exact .inl (if_neg h)
  | some (.vec _), _ => exact .inl ⟨True.intro, .inl rfl⟩
  | none, _ => exact .inl ⟨True.intro, .inl rfl⟩

variable (hrun : s.status = .running)
include hrun

private theorem sendOut_lost_iff (output : OutputId) (data : Option DataMessage)
    (region : Option Nat) :
    (s.sendOut id output data region).1.Lost ↔ ¬ Served s (.sendOut id output data region) := by
  unfold State.sendOut
  split
  · next hdf => exact iff_of_true True.intro (by simp [Served, hdf])
  · next df hdf =>
    have hserved : Served s (.sendOut id output data region) ↔
        (df.remoteReceivers output = true → Available data region) := by
      simp [Served, hdf]
    rw [hserved]
    split
    · next hremote =>
      rcases dataBytes_cases data region with ⟨hdata, hok | ⟨text, herr⟩⟩ | ⟨hdata, text, herr⟩
      · simp [hok, State.Lost, hrun, hdata]
      · simp [herr, State.fail, State.Lost, hdata]
      · simp [herr, State.fail, State.Lost, hdata, hremote]
    · next hlocal => simp [State.Lost, hrun, hlocal]

omit hrun in
/-- Outputs do not change the table. -/
theorem running_sendOut {output : OutputId} {data : Option DataMessage} {region : Option Nat} :
    (s.sendOut id output data region).1.running = s.running := by
  unfold State.sendOut
  split
  · rfl
  · split
    · split <;> rfl
    · rfl

private theorem survives_of_kept {e : Event} (hid : e.dataflow? = some id)
    (h : Kept s id (s.handle e).1) : Survives s e := by
  have hstep : step s e = s.handle e := by simp [step, hrun]
  refine ⟨?_, fun id' hid' other hne => ?_⟩
  · simp [hstep, State.Lost, h.status, hrun]
  · cases Option.mem_unique hid hid'
    rw [hstep]
    exact h.running other hne

private theorem not_lost_of_running : ¬ s.Lost := by
  simp [State.Lost, hrun]

private theorem survives_of_none {e : Event} (hid : e.dataflow? = none)
    (h : ¬ (s.handle e).1.Lost) : Survives s e := by
  refine ⟨by simpa [step, hrun] using h, fun id hid' => ?_⟩
  rw [hid] at hid'
  cases hid'

private theorem not_lost_nodeStopped : ¬ (s.nodeStopped id node).Lost := by
  fun_cases s.nodeStopped id node with
  | case3 => exact not_lost_of_running hrun
  | _ => exact not_false

omit hrun in
private theorem running_nodeStopped : (s.nodeStopped id node).running = s.running := by
  unfold State.nodeStopped
  dsimp only
  split
  · rfl
  · split <;> rfl

omit hrun in
private theorem status_stopAll (entries : List (Sigma fun _ : Uuid => RunningDataflow)) :
    (entries.foldl (fun s e => s.stopAndFinish e.1 e.2) s).status = s.status := by
  induction entries generalizing s with
  | nil => rfl
  | cons e entries ih =>
    have hkept : Kept s e.1 (s.stopAndFinish e.1 e.2) := kept_stopAndFinish
    exact ih.trans hkept.status

private theorem not_lost_manualStop : ¬ s.manualStop.Lost := by
  unfold State.manualStop
  dsimp only
  split
  · exact not_false
  · exact not_lost_of_running ((status_stopAll _).trans hrun)

private theorem survives_handleNodeStop {e : Event} {dynamic : Bool}
    (hid : e.dataflow? = some id) (he : s.handle e = s.handleNodeStop id node dynamic) :
    Survives s e ↔ (dynamic = false → id ∈ s.running) := by
  rcases handleNodeStop_cases s id node dynamic with ⟨hserved, hkept⟩ | ⟨hnot, hlost, -⟩
  · exact iff_of_true (survives_of_kept hrun hid (he ▸ hkept)) hserved
  · refine iff_of_false (fun h => h.1 ?_) hnot
    rwa [show step s e = s.handle e by simp [step, hrun], he]

private theorem survives_iff (e : Event) : Survives s e ↔ Served s e := by
  have hstep : step s e = s.handle e := by simp [step, hrun]
  cases e with
  | sendOut id output data region =>
    refine (and_iff_left fun id' hid' other hne => ?_).trans ?_
    · rw [hstep, State.handle, running_sendOut]
    · rw [hstep, State.handle, sendOut_lost_iff hrun, not_not]
  | spawnedNodeResult id node dynamic restart =>
    cases restart with
    | true => exact iff_of_true (survives_of_kept hrun rfl .refl) (fun h => nomatch h)
    | false => exact (survives_handleNodeStop hrun rfl rfl).trans (by simp [Served])
  | spawnNodeResult id node dynamic result =>
    cases result with
    | ok _ => exact iff_of_true (survives_of_kept hrun rfl kept_lookup) True.intro
    | error text => exact survives_handleNodeStop hrun rfl rfl
  | request | signal | subscribe | allNodesReady | addNode | removeNode =>
    exact iff_of_true (survives_of_kept hrun rfl kept_lookup) True.intro
  | build workingDir =>
    refine iff_of_true (survives_of_none hrun rfl ?_) True.intro
    cases workingDir with
    | ok _ => exact not_lost_of_running hrun
    | error text => exact not_false
  | spawn id nodes external workingDir result mappings inspected =>
    cases workingDir with
    | ok _ => exact iff_of_true (survives_of_kept hrun rfl kept_spawn) True.intro
    | error text =>
      refine iff_of_true ⟨?_, fun _ _ _ _ => ?_⟩ True.intro
      · rw [hstep]
        exact not_false
      · rw [hstep]
        rfl
  | stopDataflow id =>
    exact iff_of_true (survives_of_kept hrun rfl kept_stopDataflow) True.intro
  | nodeStopped id node =>
    refine iff_of_true ⟨?_, fun id' hid' other hne => ?_⟩ True.intro
    · rw [hstep]
      exact not_lost_nodeStopped hrun
    · rw [hstep, State.handle, running_nodeStopped]
  | nodeConfig | other =>
    exact iff_of_true (survives_of_none hrun rfl (not_lost_of_running hrun)) True.intro
  | manualStop => exact iff_of_true (survives_of_none hrun rfl (not_lost_manualStop hrun)) True.intro
  | secondCtrlC | destroy => exact iff_of_true (survives_of_none hrun rfl not_false) True.intro
  | heartbeatInterval elapsed =>
    refine iff_of_true (survives_of_none hrun rfl ?_) True.intro
    simp only [State.handle, State.heartbeatInterval]
    split
    · exact not_false
    · exact not_lost_of_running hrun

end

/-- A daemon without dataflows; `lib.rs:809-834`. -/
def start (coordinator : Bool) (exitWhenDone : Option (Finset (Uuid × NodeId))) : State :=
  { coordinator, exitWhenDone }

private theorem survives_iff_of_not_lost {s : State} (h : ¬ s.Lost) (e : Event) :
    Survives s e ↔ (s.status = .running → Served s e) := by
  by_cases hrun : s.status = .running
  · simp [survives_iff hrun, hrun]
  · have hstep : step s e = (s, []) := by
      unfold step
      split
      · next h => exact absurd h hrun
      · rfl
    exact iff_of_true ⟨by simpa [hstep] using h, by simp [hstep]⟩ fun h => absurd h hrun

/-- In every run of the loop: no event for something that is gone ends it and all other dataflows are
left alone, exactly if outputs and ends of nodes come while their dataflow is running. -/
theorem loop_survives_iff (coordinator : Bool) (exitWhenDone : Option (Finset (Uuid × NodeId)))
    (events : List Event) :
    Machine.Along step Survives (start coordinator exitWhenDone) events ↔
      Machine.Along step (fun s e => s.status = .running → Served s e)
        (start coordinator exitWhenDone) events := by
  have hstart : ¬ (start coordinator exitWhenDone).Lost := not_false
  constructor
  · exact Machine.Along.imp step (fun s => ¬ s.Lost)
      (fun s e h hs => ⟨(survives_iff_of_not_lost h e).mp hs, hs.1⟩) hstart
  · refine Machine.Along.imp step (fun s => ¬ s.Lost) (fun s e h hs => ?_) hstart
    have hsurvives := (survives_iff_of_not_lost h e).mpr hs
    exact ⟨hsurvives, hsurvives.1⟩

/-- The viewer of a camera is removed, and the camera ends before the viewer does. -/
def removedViewer : List Event :=
  [.spawn nilUuid [{ id := ⟨"camera"⟩ }, { id := ⟨"viewer"⟩ }] false (.ok ()) (.ok ()),
    .spawnNodeResult nilUuid ⟨"camera"⟩ false (.ok ()), .spawnNodeResult nilUuid ⟨"viewer"⟩ false (.ok ()),
    .subscribe nilUuid ⟨"camera"⟩, .subscribe nilUuid ⟨"viewer"⟩, .removeNode nilUuid ⟨"viewer"⟩,
    .spawnedNodeResult nilUuid ⟨"camera"⟩ false false, .spawnedNodeResult nilUuid ⟨"viewer"⟩ false false]

/-- The end of the viewer ends the loop. -/
theorem removedViewer_not_survives :
    ¬ Machine.Along step Survives (start true none) removedViewer := by
  rintro ⟨-, -, -, -, -, -, -, h, -⟩
  exact h.1 True.intro

end DoraSpec.Daemon.EventLoop
