import DoraSpec.Daemon.EventLoop

/-!
# Requests to spawn a dataflow

Source `binaries/daemon/src/lib.rs:1010-1033, 1230-1292, 2224-2615`. A daemon enters a dataflow into
its tables first and then looks for the sources of its nodes, opens a listener for each of them and
subscribes to the outputs of nodes on other daemons. A task prepares the nodes then, and starts them
if all are prepared. What the system answers to each step is an input, and no other event is handled
until the request is answered. The event loop is that of `EventLoop`, where messages to the
coordinator are taken to be sent.
-/

namespace DoraSpec.Daemon.SpawnRequests
open Base Message Store Daemon.EventLoop Function List
open Recording (Uuid)

/-! ## State and request -/

/-- Causes of the errors of nodes that are not started; `common.rs:192-203`. -/
inductive NodeErrorCause where
  | cascading (causedByNode : NodeId)
  | failedToSpawn (text : String)

/-- `common.rs:128-132`; the exit status is unknown. -/
structure NodeError where
  timestamp : Nat
  cause : NodeErrorCause

/-- Tables of a daemon that a request to spawn reads or writes; `lib.rs:247-268`. A build comes with
the working directories of its nodes. -/
structure State where
  loop : EventLoop.State := {}
  workingDir : Uuid → Option String := fun _ => none
  dataflowNodeResults : Uuid → NodeId → Option (Except NodeError Unit) := fun _ _ => none
  builds : Uuid → Option (NodeId → Option String) := fun _ => none
  remoteDaemonEvents : Bool := true
  clock : Nat := 0

/-- `coordinator_to_daemon.rs`, `SpawnDataflowNodes`, as far as it decides what becomes of the
request. -/
structure Request where
  buildId : Option Uuid := none
  dataflowId : Uuid
  nodes : List ResolvedNode
  spawnNodes : Finset NodeId
  nodup : (nodes.map (·.id)).Nodup

/-- What the system answers. -/
structure Env where
  baseWorkingDir : Except String String
  cloneLogger : Except String Unit
  /-- The listener for a node could be opened; `Spawner::spawn_node`. -/
  spawnNode : NodeId → Except String Unit
  declareSubscriber : OutputId → Except String Unit
  prepare : NodeId → Except String Unit
  cloneNodeLogger : NodeId → Except String Unit
  start : NodeId → Except String Unit

/-- `has_git_source`, `descriptor.rs:825-830`. -/
def hasGitSource (node : ResolvedNode) : Bool :=
  match node.kind with
  | .custom { source := .gitBranch .., .. } => true
  | _ => false

/-- Output that an input of a local node is mapped to. A time limit that is no duration is a panic;
`lib.rs:2285-2304`. -/
def mappedOutput (entry : DataId × Input) : Outcome String (Option OutputId) :=
  match entry.2.mapping with
  | .user mapping => do
    let _ ← Outcome.mapOption Duration.fromSecsF64 entry.2.inputTimeout
    pure (some (mapping.source, mapping.output))
  | _ => pure none

/-- Keys of the mappings of the new dataflow; `lib.rs:2274-2331`. -/
def mappedOutputs (request : Request) : Outcome String (List OutputId) := do
  let outputs ← request.nodes.mapM fun node => do
    let inputs ← nodeInputs node
    if node.id ∈ request.spawnNodes then inputs.mapM mappedOutput else pure []
  pure (outputs.flatten.filterMap id)

/-! ## The pass over the nodes -/

/-- What the pass over the nodes has collected; those whose listener failed are not prepared. -/
structure Visit where
  nodes : List SpawnNode := []
  external : Bool := false
  results : NodeId → Option (Except NodeError Unit)
  clock : Nat

/-- `lib.rs:2364-2367`. -/
def notCloned (node : NodeId) : String :=
  s!"node {node.val} has git source, but no git clone directory was found for it\n\n" ++
    "try running `dora build` again"

/-- `lib.rs:2264-2269`. -/
def notBuilt (node : NodeId) : String :=
  s!"node {node.val} has git source, but no `dora build` was run yet\n\n" ++
    "nodes with a `git` field must be built using `dora build` before starting the dataflow"

/-- A node of this daemon; `lib.rs:2344-2417`. -/
def visitLocal (env : Env) (dirs : NodeId → Option String) (v : Visit) (node : ResolvedNode) :
    Visit × Except String Unit :=
  let entry : SpawnNode := { id := node.id, dynamic := dynamic node.kind }
  if dirs node.id = none ∧ hasGitSource node then
    ({ v with nodes := v.nodes ++ [entry] }, .error (notCloned node.id))
  else
    match env.spawnNode node.id with
    | .ok () => ({ v with nodes := v.nodes ++ [entry] }, .ok ())
    | .error text =>
      let failure : NodeError := { timestamp := v.clock, cause := .failedToSpawn text }
      ({ v with
          nodes := v.nodes ++ [{ entry with prepared := false }]
          results := update v.results node.id (some (.error failure))
          clock := v.clock + 1 }, .ok ())

/-- Subscribe to outputs of nodes on other daemons; `lib.rs:2422-2441`. -/
def subscribeAll (env : Env) (remoteDaemonEvents : Bool) : List OutputId → Except String Unit
  | [] => .ok ()
  | output :: outputs =>
    if remoteDaemonEvents then
      match env.declareSubscriber output with
      | .ok () => subscribeAll env remoteDaemonEvents outputs
      | .error _ => .error s!"failed to subscribe to {output.1.val}/{output.2.val}"
    else .error "no remote_daemon_events_tx channel"

/-- One node; `lib.rs:2341-2485`. -/
def visit (env : Env) (s : State) (request : Request) (dirs : NodeId → Option String)
    (mapped : List OutputId) (v : Visit) (node : ResolvedNode) : Visit × Except String Unit :=
  if node.id ∈ request.spawnNodes then visitLocal env dirs v node
  else
    ({ v with external := true },
      subscribeAll env s.remoteDaemonEvents (mapped.filter (·.1 = node.id)))

/-- The pass ends with the first error. -/
def visitNodes (env : Env) (s : State) (request : Request) (dirs : NodeId → Option String)
    (mapped : List OutputId) (v : Visit) : List ResolvedNode → Visit × Except String Unit
  | [] => (v, .ok ())
  | node :: nodes =>
    match visit env s request dirs mapped v node with
    | (v, .ok ()) => visitNodes env s request dirs mapped v nodes
    | (v, .error text) => (v, .error text)

namespace State

/-- Nothing of the new dataflow is known yet. -/
def unvisited (s : State) (id : Uuid) : Visit :=
  { results := s.dataflowNodeResults id, clock := s.clock }

/-- The tables with the new dataflow; `lib.rs:2241-2256, 2346-2355, 2403-2417`. -/
def insertDataflow (s : State) (id : Uuid) (dir : String) (v : Visit) : State :=
  let pendingNodes := {
    localNodes := ((v.nodes.filter fun n => !n.dynamic).map SpawnNode.id).toFinset
    externalNodes := v.external }
  let dynamicNodes := ((v.nodes.filter SpawnNode.dynamic).map SpawnNode.id).toFinset
  { s with
    loop := { s.loop with running := s.loop.running.insert id { pendingNodes, dynamicNodes } }
    workingDir := update s.workingDir id (some dir)
    dataflowNodeResults := update s.dataflowNodeResults id v.results
    clock := v.clock }

/-- Stop the nodes whose listener failed, and leave the others to the task; `lib.rs:2483-2496`. -/
def stopFailed (s : State) (id : Uuid) (nodes : List SpawnNode) :
    State × Except String (List SpawnNode) :=
  let r := s.loop.stopUnprepared id (nodes.filter fun n => !n.prepared)
  ({ s with loop := r.1 }, r.2.map fun _ => nodes.filter SpawnNode.prepared)

/-- `spawn_dataflow`, `lib.rs:2224-2497`. Without a result it has panicked. -/
def spawnDataflow (env : Env) (s : State) (request : Request) (dir : String) :
    State × Option (Except String (List SpawnNode)) :=
  let id := request.dataflowId
  match env.cloneLogger with
  | .error _ => (s, some (.error "failed to clone logger"))
  | .ok () =>
    if id ∈ s.loop.running then
      (s, some (.error s!"there is already a running dataflow with ID `{uuidText id}`"))
    else
      let buildInfo := request.buildId.bind s.builds
      match request.nodes.find? hasGitSource, buildInfo with
      | some node, none =>
        (s.insertDataflow id dir (s.unvisited id), some (.error (notBuilt node.id)))
      | _, _ =>
        match mappedOutputs request with
        | .ok mapped =>
          let dirs := buildInfo.getD fun _ => none
          match visitNodes env s request dirs mapped (s.unvisited id) request.nodes with
          | (v, .error text) => (s.insertDataflow id dir v, some (.error text))
          | (v, .ok ()) =>
            let r := (s.insertDataflow id dir v).stopFailed id v.nodes
            (r.1, some r.2)
        | .err _ | .panic _ => (s.insertDataflow id dir (s.unvisited id), none)

end State

/-! ## The task -/

/-- `SpawnNodeResult`: the node was started, or could not be. -/
structure NodeResult where
  node : SpawnNode
  failure : Option NodeErrorCause

/-- Start the nodes one by one; `lib.rs:2569-2613`. -/
def startNodes (env : Env) (result : Except String Unit) :
    List SpawnNode → List NodeResult × Except String Unit
  | [] => ([], result)
  | node :: nodes =>
    match env.cloneNodeLogger node.id with
    | .error _ => ([], .error "failed to clone NodeLogger")
    | .ok () =>
      match env.start node.id with
      | .ok () =>
        let r := startNodes env result nodes
        ({ node, failure := none } :: r.1, r.2)
      | .error text =>
        let result := result.bind fun _ => .error s!"failed to spawn {node.id.val}"
        let r := startNodes env result nodes
        ({ node, failure := some (.failedToSpawn s!"spawn failed: {text}") } :: r.1, r.2)

/-- Report of a node that could not be prepared; `lib.rs:2526-2545`. -/
def prepareFailure (env : Env) (node : SpawnNode) : Option NodeResult :=
  match env.prepare node.id with
  | .ok () => none
  | .error text =>
    some { node, failure := some (.failedToSpawn s!"preparing for spawn failed: {text}") }

/-- `spawn_prepared_nodes`, `lib.rs:2499-2615`. -/
def spawnPreparedNodes (env : Env) (tasks : List SpawnNode) :
    List NodeResult × Except String Unit :=
  match tasks.filterMap (prepareFailure env) with
  | [] => startNodes env (.ok ()) tasks
  | first :: failed =>
    let prepared := tasks.filter fun node => (prepareFailure env node).isNone
    (first :: failed ++
        prepared.map fun node => { node, failure := some (.cascading first.node.id) },
      .error s!"failed to prepare node {first.node.id.val}")

/-- The loop handles a `SpawnNodeResult`; `lib.rs:1010-1033`. -/
def State.nodeResult (s : State) (id : Uuid) (result : NodeResult) : State :=
  let node := result.node
  match s.loop.status, result.failure with
  | .running, none =>
    { s with loop := (step s.loop (.spawnNodeResult id node.id node.dynamic (.ok ()))).1 }
  | .running, some cause =>
    let failure : NodeError := { timestamp := s.clock, cause }
    { s with
      loop := (step s.loop (.spawnNodeResult id node.id node.dynamic (.error ""))).1
      dataflowNodeResults := update s.dataflowNodeResults id
        (update (s.dataflowNodeResults id) node.id (some (.error failure)))
      clock := s.clock + 1 }
  | _, _ => s

/-! ## The answer -/

/-- The tables when the request is answered, the answer and the processes that were started. -/
structure Reply where
  state : State
  answer : Option (Except String Unit)
  started : List NodeId

/-- Processes among the started nodes; dynamic nodes are started by the user. -/
def processes (results : List NodeResult) : List NodeId :=
  (results.filter fun r => r.failure.isNone && !r.node.dynamic).map (·.node.id)

/-- A request to spawn, `lib.rs:1230-1292`, up to its `SpawnDataflowResult`. The answer is missing if
the daemon ends before. -/
def spawn (env : Env) (s : State) (request : Request) : Reply :=
  match env.baseWorkingDir with
  | .error text => { state := { s with loop := (s.loop.fail (.other text)).1 }, answer := none
                     started := [] }
  | .ok dir =>
    match s.spawnDataflow env request dir with
    | (s, none) => { state := s, answer := none, started := [] }
    | (s, some (.error text)) => { state := s, answer := some (.error text), started := [] }
    | (s, some (.ok tasks)) =>
      let (results, result) := spawnPreparedNodes env tasks
      let s := results.foldl (State.nodeResult · request.dataflowId) s
      { state := s
        answer := match s.loop.status with
          | .running => some result
          | _ => none
        started := processes results }

/-- The tables are as before. -/
structure Restored (s t : State) : Prop where
  running : t.loop.running = s.loop.running
  workingDir : t.workingDir = s.workingDir
  dataflowNodeResults : t.dataflowNodeResults = s.dataflowNodeResults

/-- A request that fails before a process was started has changed nothing. -/
def FailsCleanly (env : Env) (s : State) (request : Request) : Prop :=
  ∀ text, (spawn env s request).answer = some (.error text) →
    (spawn env s request).started = [] → Restored s (spawn env s request).state

/-- Nodes of this daemon whose listener could be opened. -/
def prepares (env : Env) (request : Request) : List ResolvedNode :=
  request.nodes.filter fun node => node.id ∈ request.spawnNodes ∧ (env.spawnNode node.id).isOk

/-- No step fails that comes after the tables were written and before the first process is
started. -/
structure Unhindered (env : Env) (s : State) (request : Request) (mapped : List OutputId) :
    Prop where
  cloned : ∀ node ∈ request.nodes, node.id ∈ request.spawnNodes → hasGitSource node →
    ∃ dirs ∈ request.buildId.bind s.builds, dirs node.id ≠ none
  subscribed : ∀ node ∈ request.nodes, node.id ∉ request.spawnNodes → ∀ output ∈ mapped,
    output.1 = node.id → s.remoteDaemonEvents ∧ (env.declareSubscriber output).isOk
  prepared : ∀ node ∈ prepares env request, (env.prepare node.id).isOk
  started : (∀ node ∈ prepares env request,
      (env.cloneNodeLogger node.id).isOk ∧ (env.start node.id).isOk) ∨
    ∃ node ∈ (prepares env request).takeWhile (fun node => (env.cloneNodeLogger node.id).isOk),
      (env.start node.id).isOk ∧ dynamic node.kind = false

/-- The request fails before the tables are written, or no later step fails without a process. -/
def Atomic (env : Env) (s : State) (request : Request) : Prop :=
  ¬env.baseWorkingDir.isOk ∨ ¬env.cloneLogger.isOk ∨ request.dataflowId ∈ s.loop.running ∨
    (∀ node ∈ request.nodes, hasGitSource node → request.buildId.bind s.builds ≠ none) ∧
      ∀ mapped, mappedOutputs request = .ok mapped → Unhindered env s request mapped

/-- Times of results are in the past. -/
def Timely (s : State) : Prop :=
  ∀ id node error, s.dataflowNodeResults id node = some (.error error) → error.timestamp < s.clock

@[simp] private theorem isOk_ok {ε α : Type} (a : α) : (.ok a : Except ε α).isOk = true := rfl

@[simp] private theorem isOk_error {ε α : Type} (e : ε) :
    (.error e : Except ε α).isOk = false := rfl

/-! ## Nodes that are waited for -/

/-- The loop goes on, and the dataflow does as long as one of the nodes is not dynamic. -/
def Waiting (loop : EventLoop.State) (id : Uuid) (nodes : List SpawnNode) : Prop :=
  loop.status = .running ∧
    ((∃ df, loop.running.lookup id = some df ∧
        ∀ n ∈ nodes, n.dynamic = false → n.id ∈ df.pendingNodes.localNodes) ∨
      loop.running.lookup id = none ∧ ∀ n ∈ nodes, n.dynamic = true)

section Waiting

variable {loop : EventLoop.State} {id : Uuid} {node : SpawnNode} {nodes rest : List SpawnNode}

private theorem Waiting.mono (h : Waiting loop id nodes) (hsub : rest ⊆ nodes) :
    Waiting loop id rest := by
  obtain ⟨hrun, ⟨df, hdf, hpending⟩ | ⟨hnone, hdynamic⟩⟩ := h
  · exact ⟨hrun, .inl ⟨df, hdf, fun n hn => hpending n (hsub hn)⟩⟩
  · exact ⟨hrun, .inr ⟨hnone, fun n hn => hdynamic n (hsub hn)⟩⟩

private theorem Waiting.stop (h : Waiting loop id (node :: nodes)) (hne : node.id ∉ nodes.map (·.id)) :
    ∃ loop', loop.handleNodeStopInner id node.id node.dynamic = .ok loop' ∧
      Waiting loop' id nodes := by
  obtain ⟨hrun, ⟨df, hdf, hpending⟩ | ⟨hnone, hdynamic⟩⟩ := h
  · have hleft : ∀ n ∈ nodes, n.dynamic = false →
        n.id ∈ (df.stopNode id node.id).pendingNodes.localNodes := by
      intro n hn hn'
      rw [EventLoop.RunningDataflow.stopNode, PendingNodes.localNodes_handleNodeStop]
      refine Finset.mem_erase.mpr ⟨fun heq => hne ?_, hpending n (.tail _ hn) hn'⟩
      exact heq ▸ mem_map_of_mem hn
    refine ⟨_, handleNodeStopInner_of_lookup hdf node.id node.dynamic, ?_⟩
    split
    · next hfinished =>
      refine ⟨hrun, .inr ⟨AList.lookup_erase _ _, fun n hn => ?_⟩⟩
      have hempty := (EventLoop.RunningDataflow.onlyDynamic_iff.mp hfinished).1
      by_contra hn'
      have hmem := hleft n hn (by simpa using hn')
      rw [hempty] at hmem
      exact absurd hmem (Finset.notMem_empty _)
    · exact ⟨hrun, .inl ⟨_, AList.lookup_insert _, hleft⟩⟩
  · refine ⟨loop, ?_, hrun, .inr ⟨hnone, fun n hn => hdynamic n (.tail _ hn)⟩⟩
    simp [EventLoop.State.handleNodeStopInner, hnone, hdynamic node (.head _)]

private theorem Waiting.stopUnprepared {stops : List SpawnNode} (h : Waiting loop id (stops ++ rest))
    (hnodup : ((stops ++ rest).map (·.id)).Nodup) :
    ∃ loop', loop.stopUnprepared id stops = (loop', .ok ()) ∧ Waiting loop' id rest := by
  induction stops generalizing loop with
  | nil => exact ⟨loop, rfl, h⟩
  | cons node stops ih =>
    obtain ⟨hne, hnodup⟩ := nodup_cons.mp hnodup
    obtain ⟨next, hnext, hwaiting⟩ := h.stop hne
    obtain ⟨loop', hloop, hrest⟩ := ih hwaiting hnodup
    exact ⟨loop', by rw [EventLoop.State.stopUnprepared, hnext, ← hloop], hrest⟩

private theorem Waiting.nodeResult {s : State} {result : NodeResult}
    (h : Waiting s.loop id (result.node :: rest)) (hne : result.node.id ∉ rest.map (·.id)) :
    Waiting (s.nodeResult id result).loop id rest := by
  have hrun := h.1
  cases hfailure : result.failure with
  | none =>
    simp only [State.nodeResult, hrun, hfailure, step, EventLoop.State.handle,
      EventLoop.State.spawnNodeResult, EventLoop.State.lookup]
    obtain ⟨-, ⟨df, hdf, hpending⟩ | ⟨hnone, hdynamic⟩⟩ := h
    · simp only [hdf]
      exact ⟨rfl, .inl ⟨_, AList.lookup_insert _, fun n hn => hpending n (.tail _ hn)⟩⟩
    · simp only [hnone]
      exact ⟨hrun, .inr ⟨hnone, fun n hn => hdynamic n (.tail _ hn)⟩⟩
  | some cause =>
    obtain ⟨next, hnext, hwaiting⟩ := h.stop hne
    simpa [State.nodeResult, hrun, hfailure, step, EventLoop.State.handle,
      EventLoop.State.spawnNodeResult, EventLoop.State.handleNodeStop, hnext] using hwaiting

private theorem Waiting.nodeResults {s : State} {results : List NodeResult}
    (h : Waiting s.loop id (results.map (·.node)))
    (hnodup : (results.map (·.node.id)).Nodup) :
    (results.foldl (State.nodeResult · id) s).loop.status = .running := by
  induction results generalizing s with
  | nil => exact h.1
  | cons result results ih =>
    obtain ⟨hne, hnodup⟩ := nodup_cons.mp hnodup
    exact ih (h.nodeResult (by simpa using hne)) hnodup

end Waiting

/-! ## Traces of a request -/

/-- A result of the dataflow is newer than the request, or the dataflow is in the table. -/
structure Marked (s : State) (id : Uuid) (t : State) : Prop where
  clock : s.clock ≤ t.clock
  trace : (∃ node error, t.dataflowNodeResults id node = some (.error error) ∧
    s.clock ≤ error.timestamp) ∨ id ∈ t.loop.running

section Marked

variable {s t : State} {id : Uuid}

private theorem Marked.not_restored (h : Marked s id t) (htimely : Timely s)
    (hid : id ∉ s.loop.running) :
    ¬Restored s t := by
  intro hrestored
  rcases h.trace with ⟨node, error, herror, htime⟩ | hrunning
  · rw [hrestored.dataflowNodeResults] at herror
    exact absurd (htimely id node error herror) (Nat.not_lt.mpr htime)
  · rw [hrestored.running] at hrunning
    exact hid hrunning

private theorem Marked.nodeResult (h : Marked s id t) (result : NodeResult) :
    Marked s id (t.nodeResult id result) := by
  unfold State.nodeResult
  split
  · next hrun _ =>
    refine ⟨h.clock, h.trace.imp_right fun hid => ?_⟩
    obtain ⟨df, hdf⟩ := Option.isSome_iff_exists.mp (AList.lookup_isSome.mpr hid)
    simp [step, hrun, EventLoop.State.handle, EventLoop.State.spawnNodeResult,
      EventLoop.State.lookup, hdf, AList.mem_insert]
  · next cause _ _ =>
    refine ⟨Nat.le_succ_of_le h.clock, .inl ⟨result.node.id, ⟨t.clock, cause⟩, ?_, h.clock⟩⟩
    simp only [update_self]
  · exact h

private theorem Marked.nodeResults (h : Marked s id t) (results : List NodeResult) :
    Marked s id (results.foldl (State.nodeResult · id) t) := by
  induction results generalizing t with
  | nil => exact h
  | cons result results ih => exact ih (h.nodeResult result)

private theorem marked_insertDataflow {dir : String} {v : Visit} (hclock : s.clock ≤ v.clock) :
    Marked s id (s.insertDataflow id dir v) :=
  ⟨hclock, .inr (by simp [State.insertDataflow, AList.mem_insert])⟩

end Marked

/-! ## The pass over the nodes -/

section Visits

variable {env : Env} {s : State} {request : Request} {dirs : NodeId → Option String}
  {mapped : List OutputId} {v : Visit}

/-- A node as the loop sees it. -/
def entryOf (env : Env) (node : ResolvedNode) : SpawnNode :=
  { id := node.id, dynamic := dynamic node.kind, prepared := (env.spawnNode node.id).isOk }

/-- The node stops the pass neither by its source nor by its outputs. -/
def Passes (env : Env) (s : State) (request : Request) (dirs : NodeId → Option String)
    (mapped : List OutputId) (node : ResolvedNode) : Prop :=
  if node.id ∈ request.spawnNodes then hasGitSource node → dirs node.id ≠ none
  else ∀ output ∈ mapped, output.1 = node.id →
    s.remoteDaemonEvents ∧ (env.declareSubscriber output).isOk

private theorem subscribeAll_eq_ok (remote : Bool) (outputs : List OutputId) :
    subscribeAll env remote outputs = .ok () ↔
      ∀ output ∈ outputs, remote = true ∧ (env.declareSubscriber output).isOk := by
  induction outputs with
  | nil => simp [subscribeAll]
  | cons output outputs ih =>
    cases remote with
    | false => exact iff_of_false nofun fun h => nomatch (h output (.head _)).1
    | true =>
      cases hdeclare : env.declareSubscriber output with
      | error text => simp [subscribeAll, hdeclare]
      | ok _ =>
        simp only [subscribeAll, if_true, hdeclare, ih, forall_mem_cons, isOk_ok, true_and]

/-- Results of failed listeners are newer than the request. -/
structure Recorded (s : State) (v : Visit) : Prop where
  clock : s.clock ≤ v.clock
  failed : ∀ n ∈ v.nodes, n.prepared = false →
    ∃ node error, v.results node = some (.error error) ∧ s.clock ≤ error.timestamp

private theorem recorded_unvisited (s : State) (id : Uuid) : Recorded s (s.unvisited id) :=
  ⟨Nat.le_refl _, nofun⟩

private theorem visit_spec (hrecorded : Recorded s v) (node : ResolvedNode) :
    Recorded s (visit env s request dirs mapped v node).1 ∧
      ((visit env s request dirs mapped v node).2 = .ok () ↔
        Passes env s request dirs mapped node) ∧
      ((visit env s request dirs mapped v node).2 = .ok () →
        (visit env s request dirs mapped v node).1.nodes = v.nodes ++
          if node.id ∈ request.spawnNodes then [entryOf env node] else []) := by
  have hmore {entry : SpawnNode} (hentry : entry.prepared = true) :
      Recorded s { v with nodes := v.nodes ++ [entry] } := by
    refine ⟨hrecorded.clock, fun n hn hfalse => ?_⟩
    rcases mem_append.mp hn with hold | hnew
    · exact hrecorded.failed n hold hfalse
    · rw [mem_singleton.mp hnew, hentry] at hfalse
      cases hfalse
  by_cases hlocal : node.id ∈ request.spawnNodes
  · simp only [visit, Passes, hlocal, if_true, visitLocal]
    by_cases hmissing : dirs node.id = none ∧ hasGitSource node = true
    · simp only [hmissing, and_self, if_true]
      exact ⟨hmore rfl, by simp, nofun⟩
    · simp only [hmissing, if_false]
      have hpasses : hasGitSource node = true → dirs node.id ≠ none :=
        fun hgit hnone => hmissing ⟨hnone, hgit⟩
      cases hspawn : env.spawnNode node.id with
      | ok _ =>
        exact ⟨hmore rfl, iff_of_true rfl hpasses,
          fun _ => by simp [entryOf, hspawn]⟩
      | error text =>
        refine ⟨⟨Nat.le_succ_of_le hrecorded.clock, fun n _ _ => ?_⟩, iff_of_true rfl hpasses,
          fun _ => by simp [entryOf, hspawn]⟩
        exact ⟨node.id, ⟨v.clock, .failedToSpawn text⟩, update_self .., hrecorded.clock⟩
  · simp only [visit, Passes, hlocal, if_false, append_nil, subscribeAll_eq_ok]
    exact ⟨⟨hrecorded.clock, hrecorded.failed⟩, by simp, fun _ => trivial⟩

private theorem visitNodes_spec (hrecorded : Recorded s v) (nodes : List ResolvedNode) :
    Recorded s (visitNodes env s request dirs mapped v nodes).1 ∧
      ((visitNodes env s request dirs mapped v nodes).2 = .ok () ↔
        ∀ node ∈ nodes, Passes env s request dirs mapped node) ∧
      ((visitNodes env s request dirs mapped v nodes).2 = .ok () →
        (visitNodes env s request dirs mapped v nodes).1.nodes = v.nodes ++
          (nodes.filter (·.id ∈ request.spawnNodes)).map (entryOf env)) := by
  induction nodes generalizing v with
  | nil => simpa [visitNodes] using hrecorded
  | cons node nodes ih =>
    obtain ⟨hnext, hok, hnodes⟩ :=
      @visit_spec env s request dirs mapped v hrecorded node
    rcases hvisit : visit env s request dirs mapped v node with ⟨next, _ | _⟩
    · rw [hvisit] at hnext hok
      have hstops : ¬Passes env s request dirs mapped node := fun h => by simpa using hok.mpr h
      simp only [visitNodes, hvisit, forall_mem_cons, hstops, false_and]
      exact ⟨hnext, by simp, nofun⟩
    · rw [hvisit] at hnext hok hnodes
      obtain ⟨hlast, hlastOk, hlastNodes⟩ := ih hnext
      simp only [visitNodes, hvisit, forall_mem_cons, hok.mp rfl, true_and]
      refine ⟨hlast, hlastOk, fun h => ?_⟩
      rw [hlastNodes h, hnodes rfl]
      by_cases hlocal : node.id ∈ request.spawnNodes
      · simp [hlocal]
      · simp [hlocal]

private theorem filter_prepared (env : Env) (request : Request) :
    ((request.nodes.filter (·.id ∈ request.spawnNodes)).map (entryOf env)).filter
        SpawnNode.prepared = (prepares env request).map (entryOf env) := by
  rw [filter_map, prepares, filter_filter]
  congr 1
  refine filter_congr fun node _ => ?_
  simp [entryOf, Bool.and_comm]

private theorem nodup_entries (env : Env) (request : Request) :
    (((request.nodes.filter (·.id ∈ request.spawnNodes)).map (entryOf env)).map (·.id)).Nodup := by
  rw [map_map]
  exact request.nodup.sublist (filter_sublist.map _)

private theorem stopFailed_spec {dir : String} (hrecorded : Recorded s v)
    (hrun : s.loop.status = .running) (hnodup : (v.nodes.map (·.id)).Nodup) :
    ∃ t, (s.insertDataflow request.dataflowId dir v).stopFailed request.dataflowId v.nodes =
        (t, .ok (v.nodes.filter SpawnNode.prepared)) ∧ Marked s request.dataflowId t ∧
      Waiting t.loop request.dataflowId (v.nodes.filter SpawnNode.prepared) := by
  have hwaiting : Waiting (s.insertDataflow request.dataflowId dir v).loop request.dataflowId
      v.nodes := by
    refine ⟨hrun, .inl ⟨_, AList.lookup_insert _, fun n hn hn' => ?_⟩⟩
    simp only [mem_toFinset, mem_map, mem_filter]
    exact ⟨n, ⟨hn, by simp [hn']⟩, rfl⟩
  have hperm : (v.nodes.filter (fun n => !n.prepared) ++ v.nodes.filter SpawnNode.prepared).Perm
      v.nodes :=
    perm_append_comm.trans (filter_append_perm SpawnNode.prepared v.nodes)
  obtain ⟨loop, hloop, hleft⟩ := (hwaiting.mono hperm.subset).stopUnprepared
    ((hperm.map _).nodup_iff.mpr hnodup)
  refine ⟨{ s.insertDataflow request.dataflowId dir v with loop }, ?_, ⟨hrecorded.clock, ?_⟩,
    hleft⟩
  · simp [State.stopFailed, hloop, Except.map]
  · by_cases hfailed : ∃ n ∈ v.nodes, n.prepared = false
    · obtain ⟨n, hn, hn'⟩ := hfailed
      obtain ⟨node, error, herror, htime⟩ := hrecorded.failed n hn hn'
      exact .inl ⟨node, error, by simpa [State.insertDataflow] using herror, htime⟩
    · have hnone : v.nodes.filter (fun n => !n.prepared) = [] := by simpa using hfailed
      rw [hnone, EventLoop.State.stopUnprepared] at hloop
      have hsame := (Prod.mk.inj hloop).1
      exact .inr (by rw [← hsame]; simp [State.insertDataflow, AList.mem_insert])

end Visits

/-! ## What the task reports -/

section Task

variable {env : Env}

private theorem startNodes_error (result : Except String Unit) (nodes : List SpawnNode) :
    (startNodes env result nodes).2.isOk ↔ result.isOk ∧
      ∀ node ∈ nodes, (env.cloneNodeLogger node.id).isOk ∧ (env.start node.id).isOk := by
  induction nodes generalizing result with
  | nil => simp [startNodes]
  | cons node nodes ih =>
    simp only [startNodes, forall_mem_cons]
    cases hclone : env.cloneNodeLogger node.id with
    | error text => simp
    | ok _ =>
      cases hstart : env.start node.id with
      | ok _ => simp only [ih, isOk_ok, and_self, true_and]
      | error text =>
        simp only [ih]
        cases result <;> simp [Except.bind]

private theorem processes_startNodes (result : Except String Unit) (nodes : List SpawnNode) :
    processes (startNodes env result nodes).1 = [] ↔
      ∀ node ∈ nodes.takeWhile (fun node => (env.cloneNodeLogger node.id).isOk),
        (env.start node.id).isOk → node.dynamic = true := by
  induction nodes generalizing result with
  | nil => simp [startNodes, processes]
  | cons node nodes ih =>
    simp only [startNodes]
    cases hclone : env.cloneNodeLogger node.id with
    | error text => simp [processes, hclone]
    | ok _ =>
      have hhead : (env.cloneNodeLogger node.id).isOk = true := by rw [hclone]; rfl
      rw [takeWhile_cons, if_pos hhead, forall_mem_cons]
      cases hstart : env.start node.id with
      | ok _ =>
        rw [← ih result]
        cases hdynamic : node.dynamic <;>
          simp [processes, hdynamic]
      | error text =>
        rw [← ih (result.bind fun _ => .error s!"failed to spawn {node.id.val}")]
        simp [processes]

private theorem map_node_startNodes (result : Except String Unit) (nodes : List SpawnNode) :
    (startNodes env result nodes).1.map (·.node) <+: nodes := by
  induction nodes generalizing result with
  | nil => exact prefix_rfl
  | cons node nodes ih =>
    simp only [startNodes]
    cases env.cloneNodeLogger node.id with
    | error text => exact nil_prefix
    | ok _ =>
      cases env.start node.id with
      | ok _ => exact cons_prefix_cons.mpr ⟨rfl, ih result⟩
      | error text => exact cons_prefix_cons.mpr ⟨rfl, ih _⟩

private theorem prepareFailure_eq_none {node : SpawnNode} :
    prepareFailure env node = none ↔ (env.prepare node.id).isOk := by
  unfold prepareFailure
  cases env.prepare node.id <;> simp

private theorem node_of_prepareFailure {node : SpawnNode} {result : NodeResult}
    (h : prepareFailure env node = some result) :
    result.node = node ∧ result.failure.isSome := by
  unfold prepareFailure at h
  cases hprepare : env.prepare node.id with
  | ok _ => simp [hprepare] at h
  | error text =>
    rw [hprepare] at h
    cases h
    exact ⟨rfl, rfl⟩

/-- All nodes are prepared, and all are started or at least one process is. -/
def Launches (env : Env) (tasks : List SpawnNode) : Prop :=
  (∀ node ∈ tasks, (env.prepare node.id).isOk) ∧
    ((∀ node ∈ tasks, (env.cloneNodeLogger node.id).isOk ∧ (env.start node.id).isOk) ∨
      ∃ node ∈ tasks.takeWhile (fun node => (env.cloneNodeLogger node.id).isOk),
        (env.start node.id).isOk ∧ node.dynamic = false)

/-- The task fails without a process if and only if a node cannot be prepared, or the first start
that succeeds, if any, comes too late. -/
theorem spawnPreparedNodes_spec (tasks : List SpawnNode) :
    (¬(spawnPreparedNodes env tasks).2.isOk ∧ processes (spawnPreparedNodes env tasks).1 = []) ↔
      ¬Launches env tasks := by
  unfold spawnPreparedNodes Launches
  cases hfailed : tasks.filterMap (prepareFailure env) with
  | nil =>
    have hprepared : ∀ node ∈ tasks, (env.prepare node.id).isOk := by
      intro node hnode
      rw [filterMap_eq_nil_iff] at hfailed
      exact prepareFailure_eq_none.mp (hfailed node hnode)
    simp only [startNodes_error, processes_startNodes, isOk_ok, true_and, not_and, not_or,
      not_exists, Bool.not_eq_false]
    exact ⟨fun h _ => h, fun h => h hprepared⟩
  | cons first failed =>
    refine iff_of_true ⟨by simp, ?_⟩ fun h => ?_
    · have hfailures : ∀ r ∈ first :: failed, r.failure.isSome := by
        intro r hr
        rw [← hfailed] at hr
        obtain ⟨node, -, hnode⟩ := mem_filterMap.mp hr
        exact (node_of_prepareFailure hnode).2
      simp only [processes, map_eq_nil_iff, filter_eq_nil_iff, mem_append,
        mem_map]
      rintro r (hr | ⟨node, -, rfl⟩)
      · have hsome := hfailures r hr
        cases hr' : r.failure with
        | none => simp [hr'] at hsome
        | some cause => simp
      · simp
    · have hmem : first ∈ tasks.filterMap (prepareFailure env) := by rw [hfailed]; exact .head _
      obtain ⟨node, hnode, hfirst⟩ := mem_filterMap.mp hmem
      rw [prepareFailure_eq_none.mpr (h.1 node hnode)] at hfirst
      cases hfirst

private theorem subperm_spawnPreparedNodes (tasks : List SpawnNode) :
    ((spawnPreparedNodes env tasks).1.map (·.node)).Subperm tasks := by
  unfold spawnPreparedNodes
  cases hfailed : tasks.filterMap (prepareFailure env) with
  | nil => exact (map_node_startNodes _ tasks).sublist.subperm
  | cons first failed =>
    have hnodes : (tasks.filterMap (prepareFailure env)).map (·.node) =
        tasks.filter fun node => !(prepareFailure env node).isNone := by
      clear hfailed
      induction tasks with
      | nil => rfl
      | cons node tasks ih =>
        cases hnode : prepareFailure env node with
        | none => simp [hnode, ih]
        | some r => simp [hnode, ih, (node_of_prepareFailure hnode).1]
    rw [hfailed] at hnodes
    simp only [map_append, map_map, hnodes]
    have hmap : (tasks.filter fun node => (prepareFailure env node).isNone).map
        ((fun r : NodeResult => r.node) ∘
          fun node => { node, failure := some (.cascading first.node.id) }) =
        tasks.filter fun node => (prepareFailure env node).isNone := map_id _
    rw [hmap]
    exact (perm_append_comm.trans (filter_append_perm _ tasks)).subperm

end Task

/-! ## Requests that fail cleanly -/

section

variable {env : Env} {s : State} {request : Request}

section

variable (htimely : Timely s) (hid : request.dataflowId ∉ s.loop.running)
include htimely hid

private theorem failsCleanly_of_marked {result : Except String Unit}
    (hanswer : (spawn env s request).answer = some result)
    (hmarked : Marked s request.dataflowId (spawn env s request).state) :
    FailsCleanly env s request ↔ ¬(¬result.isOk ∧ (spawn env s request).started = []) := by
  constructor
  · rintro hclean ⟨herror, hnone⟩
    cases result with
    | ok _ => simp at herror
    | error text => exact hmarked.not_restored htimely hid (hclean text hanswer hnone)
  · intro h text htext hnone
    rw [hanswer] at htext
    cases htext
    exact absurd ⟨by simp, hnone⟩ h

private theorem not_failsCleanly_of_refused {dir : String}
    (hdir : env.baseWorkingDir = .ok dir) {v : Visit} (hrecorded : Recorded s v) {text : String}
    (h : s.spawnDataflow env request dir =
      (s.insertDataflow request.dataflowId dir v, some (.error text))) :
    ¬FailsCleanly env s request := by
  have hspawn : spawn env s request =
      { state := s.insertDataflow request.dataflowId dir v, answer := some (.error text)
        started := [] } := by
    simp only [spawn, hdir, h]
  rw [failsCleanly_of_marked htimely hid (by rw [hspawn])
    (by rw [hspawn]; exact marked_insertDataflow hrecorded.clock)]
  simp [hspawn]

private theorem failsCleanly_of_tasks {dir : String} (hdir : env.baseWorkingDir = .ok dir)
    {t : State} {tasks : List SpawnNode}
    (h : s.spawnDataflow env request dir = (t, some (.ok tasks)))
    (hmarked : Marked s request.dataflowId t) (hwaiting : Waiting t.loop request.dataflowId tasks)
    (hnodup : (tasks.map (·.id)).Nodup) :
    FailsCleanly env s request ↔ Launches env tasks := by
  have hsubperm := @subperm_spawnPreparedNodes env tasks
  have hids : ((spawnPreparedNodes env tasks).1.map (·.node.id)).Nodup := by
    obtain ⟨l, hperm, hsublist⟩ := hsubperm
    have hall := (hperm.map SpawnNode.id).nodup_iff.mp (hnodup.sublist (hsublist.map _))
    rwa [map_map] at hall
  have hstatus := (hwaiting.mono hsubperm.subset).nodeResults hids
  have hspawn : spawn env s request =
      { state := (spawnPreparedNodes env tasks).1.foldl
          (State.nodeResult · request.dataflowId) t
        answer := some (spawnPreparedNodes env tasks).2
        started := processes (spawnPreparedNodes env tasks).1 } := by
    simp only [spawn, hdir, h, hstatus]
  rw [failsCleanly_of_marked htimely hid (by rw [hspawn])
    (by rw [hspawn]; exact hmarked.nodeResults _)]
  rw [hspawn, spawnPreparedNodes_spec, not_not]

end

private theorem launches_iff (env : Env) (nodes : List ResolvedNode) :
    Launches env (nodes.map (entryOf env)) ↔ (∀ node ∈ nodes, (env.prepare node.id).isOk) ∧
      ((∀ node ∈ nodes, (env.cloneNodeLogger node.id).isOk ∧ (env.start node.id).isOk) ∨
        ∃ node ∈ nodes.takeWhile (fun node => (env.cloneNodeLogger node.id).isOk),
          (env.start node.id).isOk ∧ dynamic node.kind = false) := by
  rw [Launches, takeWhile_map]
  simp only [mem_map, forall_exists_index, and_imp, forall_apply_eq_imp_iff₂,
    exists_exists_and_eq_and]
  rfl

private theorem passes_iff (env : Env) (s : State) (request : Request) (mapped : List OutputId) :
    (∀ node ∈ request.nodes,
      Passes env s request ((request.buildId.bind s.builds).getD fun _ => none) mapped node) ↔
      (∀ node ∈ request.nodes, node.id ∈ request.spawnNodes → hasGitSource node →
        ∃ dirs ∈ request.buildId.bind s.builds, dirs node.id ≠ none) ∧
      ∀ node ∈ request.nodes, node.id ∉ request.spawnNodes → ∀ output ∈ mapped,
        output.1 = node.id → s.remoteDaemonEvents ∧ (env.declareSubscriber output).isOk := by
  have hdirs (node : NodeId) :
      ((request.buildId.bind s.builds).getD fun _ => none) node ≠ none ↔
        ∃ dirs ∈ request.buildId.bind s.builds, dirs node ≠ none := by
    cases request.buildId.bind s.builds <;> simp
  rw [← forall₂_and]
  refine forall₂_congr fun node _ => ?_
  by_cases hlocal : node.id ∈ request.spawnNodes
  · simp [Passes, hlocal, hdirs]
  · simp [Passes, hlocal]

private theorem spawnDataflow_of_built {dir : String} (hlogger : env.cloneLogger = .ok ())
    (hid : request.dataflowId ∉ s.loop.running)
    (hbuilt : ∀ node ∈ request.nodes, hasGitSource node → request.buildId.bind s.builds ≠ none) :
    s.spawnDataflow env request dir =
      match mappedOutputs request with
      | .ok mapped =>
        match visitNodes env s request ((request.buildId.bind s.builds).getD fun _ => none) mapped
            (s.unvisited request.dataflowId) request.nodes with
        | (v, .error text) => (s.insertDataflow request.dataflowId dir v, some (.error text))
        | (v, .ok ()) =>
          let r := (s.insertDataflow request.dataflowId dir v).stopFailed request.dataflowId v.nodes
          (r.1, some r.2)
      | .err _ | .panic _ =>
        (s.insertDataflow request.dataflowId dir (s.unvisited request.dataflowId), none) := by
  simp only [State.spawnDataflow, hlogger, hid, if_false]
  split
  · next node hfind hnone =>
    exact absurd hnone (hbuilt node (mem_of_find?_eq_some hfind) (List.find?_some hfind))
  · rfl

private theorem failsCleanly_iff_unhindered (hrun : s.loop.status = .running) (htimely : Timely s)
    (hlogger : env.cloneLogger = .ok ()) (hid : request.dataflowId ∉ s.loop.running)
    (hbuilt : ∀ node ∈ request.nodes, hasGitSource node → request.buildId.bind s.builds ≠ none)
    {dir : String} (hdir : env.baseWorkingDir = .ok dir) {mapped : List OutputId}
    (hmapped : mappedOutputs request = .ok mapped) :
    FailsCleanly env s request ↔ Unhindered env s request mapped := by
  have hspawn := @spawnDataflow_of_built env s request dir hlogger hid hbuilt
  simp only [hmapped] at hspawn
  have hpasses := passes_iff env s request mapped
  obtain ⟨hrecorded, hok, hnodes⟩ := @visitNodes_spec env s request
    ((request.buildId.bind s.builds).getD fun _ => none) mapped _
    (recorded_unvisited s request.dataflowId) request.nodes
  rcases hvisit : visitNodes env s request ((request.buildId.bind s.builds).getD fun _ => none)
    mapped (s.unvisited request.dataflowId) request.nodes with ⟨v, text | _⟩
  · rw [hvisit] at hspawn hrecorded hok
    refine iff_of_false (not_failsCleanly_of_refused htimely hid hdir hrecorded hspawn) fun h => ?_
    simpa using hok.mpr (hpasses.mpr ⟨h.cloned, h.subscribed⟩)
  · rw [hvisit] at hspawn hrecorded hok hnodes
    have hentries := hnodes rfl
    rw [State.unvisited, nil_append] at hentries
    have hnodup := nodup_entries env request
    rw [← hentries] at hnodup
    obtain ⟨t, hstop, hmarked, hwaiting⟩ := @stopFailed_spec s request v dir hrecorded hrun hnodup
    simp only [hstop] at hspawn
    rw [failsCleanly_of_tasks htimely hid hdir hspawn hmarked hwaiting
      (hnodup.sublist (filter_sublist.map _)), hentries, filter_prepared, launches_iff]
    obtain ⟨hcloned, hsubscribed⟩ := hpasses.mp (hok.mp rfl)
    exact ⟨fun h => ⟨hcloned, hsubscribed, h.1, h.2⟩, fun h => ⟨h.prepared, h.started⟩⟩

/-- A request to spawn that fails before a process was started leaves the tables as they were if and
only if it fails before they were written. -/
theorem failsCleanly_iff_atomic (env : Env) (s : State) (request : Request)
    (hrun : s.loop.status = .running) (htimely : Timely s) :
    FailsCleanly env s request ↔ Atomic env s request := by
  cases hdir : env.baseWorkingDir with
  | error text => exact iff_of_true (by simp [FailsCleanly, spawn, hdir]) (by simp [Atomic, hdir])
  | ok dir =>
  cases hlogger : env.cloneLogger with
  | error text =>
    refine iff_of_true (fun _ _ _ => ?_) (by simp [Atomic, hlogger])
    simp only [spawn, hdir, State.spawnDataflow, hlogger]
    exact ⟨rfl, rfl, rfl⟩
  | ok _ =>
  by_cases hid : request.dataflowId ∈ s.loop.running
  · refine iff_of_true (fun _ _ _ => ?_) (by simp [Atomic, hid])
    simp only [spawn, hdir, State.spawnDataflow, hlogger, hid, if_true]
    exact ⟨rfl, rfl, rfl⟩
  have hatomic : Atomic env s request ↔
      (∀ node ∈ request.nodes, hasGitSource node → request.buildId.bind s.builds ≠ none) ∧
        ∀ mapped, mappedOutputs request = .ok mapped → Unhindered env s request mapped := by
    simp [Atomic, hdir, hlogger, hid]
  rw [hatomic]
  by_cases hbuilt :
      ∀ node ∈ request.nodes, hasGitSource node → request.buildId.bind s.builds ≠ none
  · rcases hmapped : mappedOutputs request with mapped | text | text
    · rw [failsCleanly_iff_unhindered hrun htimely hlogger hid hbuilt hdir hmapped]
      refine ⟨fun h => ⟨hbuilt, fun other hother => ?_⟩, fun h => h.2 mapped rfl⟩
      cases hother
      exact h
    all_goals
      refine iff_of_true (fun text h => ?_) ⟨hbuilt, nofun⟩
      simp [spawn, hdir, spawnDataflow_of_built hlogger hid hbuilt, hmapped] at h
  · refine iff_of_false ?_ fun h => hbuilt h.1
    push Not at hbuilt
    obtain ⟨node, hnode, hgit, hnone⟩ := hbuilt
    obtain ⟨first, hfirst⟩ : ∃ first, request.nodes.find? hasGitSource = some first :=
      Option.isSome_iff_exists.mp (List.find?_isSome.mpr ⟨node, hnode, hgit⟩)
    have hrefused : s.spawnDataflow env request dir =
        (s.insertDataflow request.dataflowId dir (s.unvisited request.dataflowId),
          some (.error (notBuilt first.id))) := by
      simp only [State.spawnDataflow, hlogger, hid, if_false, hfirst, hnone]
    exact not_failsCleanly_of_refused htimely hid hdir
      (recorded_unvisited s request.dataflowId) hrefused

end

/-! ## Other dataflows -/

/-- The tables have the same entries for other dataflows. -/
def Apart (id : Uuid) (s t : State) : Prop :=
  ∀ other, other ≠ id → t.loop.running.lookup other = s.loop.running.lookup other ∧
    t.workingDir other = s.workingDir other ∧
    t.dataflowNodeResults other = s.dataflowNodeResults other

section Apart

variable {s t : State} {id other : Uuid} {node : NodeId} {dynamic : Bool}

private theorem running_spawnNodeResult {loop : EventLoop.State} {result : Except String Unit}
    (hne : other ≠ id) :
    (step loop (.spawnNodeResult id node dynamic result)).1.running.lookup other =
      loop.running.lookup other := by
  rw [step]
  split
  · cases result with
    | ok _ => exact kept_lookup.running other hne
    | error text =>
      obtain ⟨-, hkept⟩ | ⟨-, -, hsame⟩ := handleNodeStop_cases loop id node dynamic
      · exact hkept.running other hne
      · exact congrArg (·.lookup other) hsame
  · rfl

private theorem Apart.nodeResult (h : Apart id s t) (result : NodeResult) :
    Apart id s (t.nodeResult id result) := by
  intro other hne
  obtain ⟨hrunning, hdir, hresults⟩ := h other hne
  unfold State.nodeResult
  split
  · exact ⟨(running_spawnNodeResult hne).trans hrunning, hdir, hresults⟩
  · exact ⟨(running_spawnNodeResult hne).trans hrunning, hdir,
      (update_of_ne hne ..).trans hresults⟩
  · exact ⟨hrunning, hdir, hresults⟩

private theorem Apart.nodeResults (h : Apart id s t) (results : List NodeResult) :
    Apart id s (results.foldl (State.nodeResult · id) t) := by
  induction results generalizing t with
  | nil => exact h
  | cons result results ih => exact ih (h.nodeResult result)

private theorem apart_insertDataflow (dir : String) (v : Visit) :
    Apart id s (s.insertDataflow id dir v) :=
  fun _ hne => ⟨AList.lookup_insert_ne hne, update_of_ne hne .., update_of_ne hne ..⟩

end Apart

private theorem apart_spawnDataflow (env : Env) (s : State) (request : Request) (dir : String) :
    Apart request.dataflowId s (s.spawnDataflow env request dir).1 := by
  fun_cases State.spawnDataflow env s request dir with
  | case1 | case2 => exact fun _ _ => ⟨rfl, rfl, rfl⟩
  | case5 =>
    intro other hne
    obtain ⟨hrunning, hrest⟩ := apart_insertDataflow (s := s) dir _ other hne
    exact ⟨(kept_stopUnprepared.running other hne).trans hrunning, hrest⟩
  | case3 | case4 | case6 | case7 => exact apart_insertDataflow dir _

/-- Whatever becomes of a request to spawn, other dataflows are as before. -/
theorem spawn_apart (env : Env) (s : State) (request : Request) :
    Apart request.dataflowId s (spawn env s request).state := by
  unfold spawn
  split
  · exact fun _ _ => ⟨rfl, rfl, rfl⟩
  · next dir _ =>
    have h := apart_spawnDataflow env s request dir
    split <;> next heq => rw [heq] at h; first | exact h | exact h.nodeResults _

/-! ## A node that was not built -/

/-- Every step of the system succeeds. -/
def allFine : Env where
  baseWorkingDir := .ok "/work"
  cloneLogger := .ok ()
  spawnNode _ := .ok ()
  declareSubscriber _ := .ok ()
  prepare _ := .ok ()
  cloneNodeLogger _ := .ok ()
  start _ := .ok ()

/-- A dataflow with one node. -/
def oneNode (source : NodeSource) : Request where
  dataflowId := .nil
  nodes := [{ id := ⟨"camera"⟩, kind := .custom { path := "camera", source, runConfig := {} } }]
  spawnNodes := {⟨"camera"⟩}
  nodup := List.nodup_singleton _

/-- The dataflow is in the tables already. -/
def occupied : State := ({} : State).insertDataflow .nil "/work" (State.unvisited {} .nil)

/-- A request that succeeds, and one that is refused and changes nothing. -/
theorem failsCleanly_oneNode :
    (Timely {} ∧ FailsCleanly allFine {} (oneNode .local)) ∧ Timely occupied ∧
      (∃ text, (spawn allFine occupied (oneNode .local)).answer = some (.error text)) ∧
      FailsCleanly allFine occupied (oneNode .local) := by
  have htimely : Timely {} := nofun
  have hoccupied : Timely occupied := by
    intro id node error h
    by_cases hid : id = .nil <;> simp [occupied, State.insertDataflow, State.unvisited, hid] at h
  refine ⟨⟨htimely, ?_⟩, hoccupied, ⟨_, rfl⟩, ?_⟩
  · refine (failsCleanly_iff_atomic allFine {} (oneNode .local) rfl htimely).mpr ?_
    refine .inr (.inr (.inr ⟨by simp [oneNode, hasGitSource], fun mapped _ => ?_⟩))
    exact ⟨by simp [oneNode, hasGitSource], by simp [oneNode], fun _ _ => rfl,
      .inl fun _ _ => ⟨rfl, rfl⟩⟩
  · refine (failsCleanly_iff_atomic allFine occupied (oneNode .local) rfl hoccupied).mpr ?_
    exact .inr (.inr (.inl (by decide)))

/-- The dataflow stays in the tables when a node was not built. -/
theorem not_failsCleanly_oneNode :
    ¬FailsCleanly allFine {} (oneNode (.gitBranch "camera.git" none)) := by
  intro h
  have hrestored := h _ rfl rfl
  have hrunning := congrArg AList.keys hrestored.running
  revert hrunning
  decide

end DoraSpec.Daemon.SpawnRequests
