import DoraSpec.Daemon.EventLoop

/-!
# Finishing a dataflow

Source `binaries/daemon/src/lib.rs:1010-1033, 2499-2615, 3208-3348`, `running_dataflow.rs:348-436` and
`spawn/prepared.rs:168-382`. The event loop finishes a dataflow by looking at its tables of pending
and of running nodes, which reports of other tasks fill and empty. Here those tasks run beside the
loop: one starts the processes, and for each process one waits for its end and starts it again. Of a
node that is added again while its process lives, only the new process is known.
-/

namespace DoraSpec.Daemon.DataflowFinish
open Base Message Daemon.EventLoop Function List
open Recording (Uuid)

/-! ## The loop beside the tasks -/

inductive Phase where
  | waiting
  | alive
  /-- It has ended and is going to be started again. -/
  | restarting
  | gone
  deriving DecidableEq

/-- What the tasks know of the process of a node, and the reports that the loop has still to
handle. -/
structure Process where
  dynamic : Bool
  phase : Phase
  spawnResult : Option (Except String Unit) := none
  /-- The report that it has ended and is not started again. -/
  exitReport : Bool := false

/-- The loop and its tasks. -/
structure State where
  loop : EventLoop.State
  processes : Uuid → NodeId → Option Process := fun _ _ => none
  /-- Dataflows that the daemon was told to spawn. -/
  spawned : Finset Uuid := ∅

/-- What becomes of a node of a new dataflow. -/
structure Plan where
  dynamic : Bool := false
  prepared : Bool := true

/-- Steps of the loop and its tasks. -/
inductive Event where
  | spawn (id : Uuid) (nodes : AList fun _ : NodeId => Plan) (external : Bool)
      (workingDir result : Except String Unit)
  | addNode (id : Uuid) (node : NodeId) (dynamic : Bool) (result : Except String Unit)
  /-- The process is started, or cannot be. -/
  | start (id : Uuid) (node : NodeId) (result : Except String Unit)
  | exit (id : Uuid) (node : NodeId) (restart : Bool)
  /-- The process is started again, or is given up. -/
  | restart (id : Uuid) (node : NodeId) (started : Bool)
  /-- The loop handles the `SpawnNodeResult`. -/
  | spawnResult (id : Uuid) (node : NodeId)
  /-- The loop handles the last `SpawnedNodeResult`. -/
  | exitReport (id : Uuid) (node : NodeId)
  /-- The loop handles any other event. -/
  | other (event : EventLoop.Event)

namespace State

def setProcess (s : State) (id : Uuid) (node : NodeId) (p : Process) : State :=
  let processes := update (s.processes id) node (some p)
  { s with processes := update s.processes id processes }

/-- Let the loop handle an event. -/
def handle (s : State) (e : EventLoop.Event) : State := { s with loop := (EventLoop.step s.loop e).1 }

/-- Nodes of a new dataflow as the loop sees them. -/
def spawnNodes (nodes : AList fun _ : NodeId => Plan) : List SpawnNode :=
  nodes.entries.map fun e => { id := e.1, dynamic := e.2.dynamic, prepared := e.2.prepared }

/-- Nodes wait for their processes unless something has gone wrong before; `lib.rs:2345-2497`. -/
def planned (result : Except String Unit) (plan : Plan) : Process :=
  { dynamic := plan.dynamic
    phase := match result with
      | .ok () => if plan.prepared then .waiting else .gone
      | .error _ => .gone }

/-- The request reaches `spawn_dataflow`, and the dataflow is new. -/
def Spawns (s : State) (id : Uuid) (workingDir : Except String Unit) : Bool :=
  match s.loop.status, workingDir with
  | .running, .ok () => id ∉ s.loop.running
  | _, _ => false

def spawn (s : State) (id : Uuid) (nodes : AList fun _ : NodeId => Plan) (external : Bool)
    (workingDir result : Except String Unit) : State :=
  { s.handle (.spawn id (spawnNodes nodes) external workingDir result) with
    processes := if s.Spawns id workingDir then
        update s.processes id fun node => (nodes.lookup node).map (planned result)
      else s.processes
    spawned := insert id s.spawned }

/-- The process is started by the handler itself; `lib.rs:1594-1612`. -/
def addNode (s : State) (id : Uuid) (node : NodeId) (dynamic : Bool) (result : Except String Unit) :
    State :=
  let t := s.handle (.addNode id node dynamic result)
  match s.loop.status, s.loop.running.lookup id, result with
  | .running, some _, .ok () => t.setProcess id node { dynamic, phase := .alive }
  | _, _, _ => t

/-- `spawn_prepared_nodes`, `lib.rs:2568-2612`. -/
def start (s : State) (id : Uuid) (node : NodeId) (result : Except String Unit) : State :=
  match s.processes id node with
  | some p =>
    if p.phase = .waiting then
      s.setProcess id node { p with
        phase := match result with
          | .ok () => .alive
          | .error _ => .gone
        spawnResult := some result }
    else s
  | none => s

/-- The process ends and the `restart_loop` decides; `prepared.rs:181-260`. -/
def exit (s : State) (id : Uuid) (node : NodeId) (restart : Bool) : State :=
  match s.processes id node with
  | some p =>
    if p.phase = .alive then
      s.setProcess id node { p with
        phase := if restart then .restarting else .gone
        exitReport := !restart }
    else s
  | none => s

/-- `prepared.rs:262-380`. -/
def restart (s : State) (id : Uuid) (node : NodeId) (started : Bool) : State :=
  match s.processes id node with
  | some p =>
    if p.phase = .restarting then
      s.setProcess id node { p with phase := if started then .alive else .gone }
    else s
  | none => s

def spawnResult (s : State) (id : Uuid) (node : NodeId) : State :=
  match s.processes id node with
  | some p =>
    match p.spawnResult with
    | some result =>
      (s.setProcess id node { p with spawnResult := none }).handle
        (.spawnNodeResult id node p.dynamic result)
    | none => s
  | none => s

def exitReport (s : State) (id : Uuid) (node : NodeId) : State :=
  match s.processes id node with
  | some p =>
    if p.exitReport then
      (s.setProcess id node { p with exitReport := false }).handle
        (.spawnedNodeResult id node p.dynamic false)
    else s
  | none => s

end State

def next (s : State) : Event → State
  | .spawn id nodes external workingDir result => s.spawn id nodes external workingDir result
  | .addNode id node dynamic result => s.addNode id node dynamic result
  | .start id node result => s.start id node result
  | .exit id node restart => s.exit id node restart
  | .restart id node started => s.restart id node started
  | .spawnResult id node => s.spawnResult id node
  | .exitReport id node => s.exitReport id node
  -- these come from the tasks, or tell them something
  | .other (.spawn ..) | .other (.addNode ..) | .other (.spawnNodeResult ..)
  | .other (.spawnedNodeResult ..) => s
  | .other e => s.handle e

/-- Dataflows that are running, or that the event spawns. -/
def candidates (s : State) : Event → List Uuid
  | .spawn id _ _ workingDir _ =>
    if s.Spawns id workingDir then id :: s.loop.running.keys else s.loop.running.keys
  | _ => s.loop.running.keys

/-- One step, with the dataflows that it reports to be finished. Nothing else takes a dataflow out of
the table. -/
def step (s : State) (e : Event) : State × List Uuid :=
  (next s e, (candidates s e).filter (· ∉ (next s e).loop.running))

/-! ## Nodes that are looked at -/

/-- The table of pending or that of running nodes has the node, as one that must end. -/
def Tracked (df : EventLoop.RunningDataflow) (node : NodeId) : Prop :=
  (node ∈ df.pendingNodes.localNodes ∧ node ∉ df.dynamicNodes) ∨
    df.runningNodes.lookup node = some false

private theorem Tracked.not_onlyDynamic {df : EventLoop.RunningDataflow} {node : NodeId}
    (h : Tracked df node) : ¬ df.onlyDynamic = true := by
  rw [EventLoop.RunningDataflow.onlyDynamic_iff]
  rintro ⟨hpending, hrunning⟩
  rcases h with ⟨hmem, -⟩ | hlookup
  · simp [hpending] at hmem
  · cases hrunning node false hlookup

/-- The nodes in `keep` stay tracked, so their dataflows go on, and no dataflow is new. -/
structure Evolves (keep : Uuid → NodeId → Prop) (s t : EventLoop.State) : Prop where
  retains : ∀ id df node, s.running.lookup id = some df → keep id node → Tracked df node →
    ∃ df', t.running.lookup id = some df' ∧ Tracked df' node
  shrinks : ∀ id, id ∈ t.running → id ∈ s.running

namespace Evolves

variable {keep : Uuid → NodeId → Prop} {s t u : EventLoop.State} {id : Uuid}
  {df df' : EventLoop.RunningDataflow}

private theorem of_running_eq (h : t.running = s.running) : Evolves keep s t :=
  ⟨fun id df _ hdf _ ht => ⟨df, by rwa [h], ht⟩, fun id hid => by rwa [h] at hid⟩

private theorem refl : Evolves keep s s := of_running_eq rfl

private theorem trans (h : Evolves keep s t) (h' : Evolves keep t u) : Evolves keep s u := by
  refine ⟨fun id df node hdf hkeep htracked => ?_, fun id hid => h.shrinks id (h'.shrinks id hid)⟩
  obtain ⟨df', hdf', htracked'⟩ := h.retains id df node hdf hkeep htracked
  exact h'.retains id df' node hdf' hkeep htracked'

private theorem insert (hdf : s.running.lookup id = some df)
    (h : ∀ node, keep id node → Tracked df node → Tracked df' node) :
    Evolves keep s { s with running := s.running.insert id df' } := by
  refine ⟨fun i d node hd hkeep htracked => ?_, fun i hi => ?_⟩
  · by_cases heq : i = id
    · subst heq
      cases hdf.symm.trans hd
      exact ⟨df', AList.lookup_insert _, h node hkeep htracked⟩
    · exact ⟨d, by rw [AList.lookup_insert_ne heq, hd], htracked⟩
  · rcases (AList.mem_insert _).mp hi with rfl | hi
    · exact AList.lookup_isSome.mp (by simp [hdf])
    · exact hi

private theorem finish (hdf : s.running.lookup id = some df)
    (h : ∀ node, keep id node → ¬ Tracked df node) : Evolves keep s (s.finishDataflow id) := by
  refine ⟨fun i d node hd hkeep htracked => ?_, fun i hi => (AList.mem_erase.mp hi).2⟩
  by_cases heq : i = id
  · subst heq
    cases hdf.symm.trans hd
    exact absurd htracked (h node hkeep)
  · exact ⟨d, by rw [EventLoop.State.finishDataflow, AList.lookup_erase_ne heq, hd], htracked⟩

private theorem lookup {missing : List Notice}
    {f : EventLoop.RunningDataflow → EventLoop.RunningDataflow × List Notice}
    (h : ∀ df, s.running.lookup id = some df → ∀ node, keep id node → Tracked df node →
      Tracked (f df).1 node) : Evolves keep s (s.lookup id missing f).1 := by
  unfold EventLoop.State.lookup
  cases hdf : s.running.lookup id with
  | none => exact refl
  | some df => exact insert hdf (h df hdf)

end Evolves

/-! ## What the events of the loop keep -/

/-- The event takes no node in `keep` out of the tables. -/
def Harmless (keep : Uuid → NodeId → Prop) (s : EventLoop.State) : EventLoop.Event → Prop
  | .spawnedNodeResult id node _ restart => restart = false → ¬ keep id node
  | .spawnNodeResult id node dynamic result => keep id node → result = .ok () ∧ dynamic = false
  | .removeNode id node => ¬ keep id node
  | .addNode id node dynamic _ => keep id node → dynamic = false
  | .subscribe id node => keep id node → ∀ df, s.running.lookup id = some df →
      node ∈ df.pendingNodes.localNodes → df.runningNodes.lookup node = some false
  | .spawn .. => False
  | _ => True

variable {dynamic : Bool} {e : EventLoop.Event} {result : Except String Unit}

section

variable {keep : Uuid → NodeId → Prop} {s : EventLoop.State} {id : Uuid} {node : NodeId}
  {df : EventLoop.RunningDataflow}

private theorem localNodes_handleNodeSubscription (p : PendingNodes) (id : Uuid) (node : NodeId) :
    (p.handleNodeSubscription id node).1.localNodes = p.localNodes.erase node :=
  PendingNodes.updated_updateDataflowStatus.localNodes

private theorem localNodes_handleDataflowStop (p : PendingNodes) (id : Uuid)
    (dynamicNodes : Finset NodeId) :
    (p.handleDataflowStop id dynamicNodes).1.localNodes = p.localNodes \ dynamicNodes := by
  unfold PendingNodes.handleDataflowStop
  split
  · next h => exact (Finset.sdiff_eq_self_of_disjoint (Finset.disjoint_iff_inter_eq_empty.mpr h)).symm
  · exact PendingNodes.updated_updateDataflowStatus.localNodes

private theorem Tracked.insert {other : NodeId} (h : Tracked df node)
    (hother : node = other → dynamic = false) :
    Tracked { df with runningNodes := df.runningNodes.insert other dynamic } node := by
  rcases h with hpending | hrunning
  · exact .inl hpending
  · refine .inr ?_
    by_cases heq : node = other
    · subst heq
      rw [AList.lookup_insert, hother rfl]
    · rwa [AList.lookup_insert_ne heq]

private theorem Tracked.stopNode {other : NodeId} (h : Tracked df node) (hne : node ≠ other) :
    Tracked (df.stopNode id other) node := by
  rcases h with ⟨hmem, hdynamic⟩ | hrunning
  · refine .inl ⟨?_, hdynamic⟩
    rw [EventLoop.RunningDataflow.stopNode, PendingNodes.localNodes_handleNodeStop]
    exact Finset.mem_erase.mpr ⟨hne, hmem⟩
  · exact .inr (by rwa [EventLoop.RunningDataflow.stopNode, AList.lookup_erase_ne hne])

private theorem Tracked.stopAll (h : Tracked df node) : Tracked (df.stopAll id) node := by
  rcases h with ⟨hmem, hdynamic⟩ | hrunning
  · refine .inl ⟨?_, hdynamic⟩
    rw [EventLoop.RunningDataflow.stopAll, localNodes_handleDataflowStop]
    exact Finset.mem_sdiff.mpr ⟨hmem, hdynamic⟩
  · exact .inr hrunning

private theorem evolves_handleNodeStopInner {t : EventLoop.State}
    (h : s.handleNodeStopInner id node dynamic = .ok t) (hkeep : ¬ keep id node) :
    Evolves keep s t := by
  cases hdf : s.running.lookup id with
  | none =>
    simp only [EventLoop.State.handleNodeStopInner, hdf] at h
    split at h
    · cases h
      exact .refl
    · cases h
  | some df =>
    rw [handleNodeStopInner_of_lookup hdf] at h
    cases h
    have hne : ∀ n, keep id n → n ≠ node := fun n hn heq => hkeep (heq ▸ hn)
    split
    · next hfinish =>
      exact .finish hdf fun n hn ht => (ht.stopNode (hne n hn)).not_onlyDynamic hfinish
    · exact .insert hdf fun n hn ht => ht.stopNode (hne n hn)

private theorem evolves_handleNodeStop (hkeep : ¬ keep id node) :
    Evolves keep s (s.handleNodeStop id node dynamic).1 := by
  unfold EventLoop.State.handleNodeStop
  split
  · next t ht => exact evolves_handleNodeStopInner ht hkeep
  · exact .of_running_eq rfl

private theorem evolves_stopUnprepared {nodes : List SpawnNode}
    (hkeep : ∀ n ∈ nodes, ¬ keep id n.id) : Evolves keep s (s.stopUnprepared id nodes).1 := by
  induction nodes generalizing s with
  | nil => exact .refl
  | cons n nodes ih =>
    unfold EventLoop.State.stopUnprepared
    split
    · next t ht =>
      exact (evolves_handleNodeStopInner ht (hkeep n mem_cons_self)).trans
        (ih fun m hm => hkeep m (mem_cons_of_mem n hm))
    · exact .refl

private theorem evolves_stopAndFinish (hdf : s.running.lookup id = some df) :
    Evolves keep s (s.stopAndFinish id df) := by
  unfold EventLoop.State.stopAndFinish
  split
  · next hfinish =>
    have honly : (df.stopAll id).onlyDynamic = true := (Bool.and_eq_true_iff.mp hfinish).1
    exact .finish hdf fun n _ ht => ht.stopAll.not_onlyDynamic honly
  · exact .insert hdf fun n _ ht => ht.stopAll

private theorem lookup_stopAndFinish_ne {other : Uuid} (hne : other ≠ id) :
    (s.stopAndFinish id df).running.lookup other = s.running.lookup other :=
  kept_stopAndFinish.running other hne

private theorem evolves_foldl_stopAndFinish
    (entries : List (Sigma fun _ : Uuid => EventLoop.RunningDataflow)) (hkeys : entries.NodupKeys)
    (hlookup : ∀ e ∈ entries, s.running.lookup e.1 = some e.2) :
    Evolves keep s (entries.foldl (fun s e => s.stopAndFinish e.1 e.2) s) := by
  induction entries generalizing s with
  | nil => exact .refl
  | cons e entries ih =>
    obtain ⟨hnot, hkeys⟩ := nodupKeys_cons.mp hkeys
    refine (evolves_stopAndFinish (hlookup e mem_cons_self)).trans (ih hkeys fun e' he' => ?_)
    rw [lookup_stopAndFinish_ne, hlookup e' (mem_cons_of_mem e he')]
    exact fun heq => hnot (heq ▸ mem_keys_of_mem he')

private theorem evolves_manualStop : Evolves keep s s.manualStop := by
  have hfold := @evolves_foldl_stopAndFinish keep s s.running.entries s.running.nodupKeys
    fun e he => AList.mem_lookup_iff.mpr he
  unfold EventLoop.State.manualStop
  dsimp only
  split
  · exact hfold.trans (.of_running_eq rfl)
  · exact hfold.trans (.of_running_eq rfl)

private theorem evolves_subscribe
    (h : keep id node → ∀ df, s.running.lookup id = some df →
      node ∈ df.pendingNodes.localNodes → df.runningNodes.lookup node = some false) :
    Evolves keep s (s.subscribe id node).1 := by
  refine .lookup fun df hdf n hn ht => ?_
  rcases ht with ⟨hmem, hdynamic⟩ | hrunning
  · by_cases heq : n = node
    · subst heq
      exact .inr (h hn df hdf hmem)
    · refine .inl ⟨?_, hdynamic⟩
      rw [localNodes_handleNodeSubscription]
      exact Finset.mem_erase.mpr ⟨heq, hmem⟩
  · exact .inr hrunning

private theorem evolves_addNode (h : keep id node → dynamic = false) :
    Evolves keep s (s.addNode id node dynamic result).1 := by
  refine .lookup fun df _ n hn ht => ?_
  cases result with
  | error text => exact ht
  | ok _ =>
    have ht' : Tracked { df with runningNodes := df.runningNodes.insert node dynamic } n :=
      ht.insert fun heq => h (heq ▸ hn)
    cases dynamic with
    | false =>
      rcases ht' with ⟨hmem, hdynamic⟩ | hrunning
      · exact .inl ⟨Finset.mem_insert_of_mem hmem, hdynamic⟩
      · exact .inr hrunning
    | true =>
      have hne : n ≠ node := fun heq => absurd (h (heq ▸ hn)) nofun
      rcases ht' with ⟨hmem, hdynamic⟩ | hrunning
      · exact .inl ⟨hmem, by simp [hne, hdynamic]⟩
      · exact .inr hrunning

private theorem evolves_removeNode (h : ¬ keep id node) :
    Evolves keep s (s.removeNode id node).1 := by
  refine .lookup fun df _ n hn ht => ?_
  have hne : n ≠ node := fun heq => h (heq ▸ hn)
  rcases ht with hpending | hrunning
  · exact .inl hpending
  · exact .inr (by rwa [AList.lookup_erase_ne hne])

private theorem evolves_handle (h : Harmless keep s e) :
    Evolves keep s (s.handle e).1 := by
  cases e with
  | request | signal | allNodesReady => exact .lookup fun _ _ _ _ ht => ht
  | subscribe id node => exact evolves_subscribe h
  | sendOut id output data region => exact .of_running_eq running_sendOut
  | spawnedNodeResult id node dynamic restart =>
    cases restart with
    | true => exact .refl
    | false => exact evolves_handleNodeStop (h rfl)
  | spawnNodeResult id node dynamic result =>
    cases result with
    | ok _ => exact .lookup fun _ _ n hn ht => ht.insert fun heq => (h (heq ▸ hn)).2
    | error text => exact evolves_handleNodeStop fun hkeep => absurd (h hkeep).1 nofun
  | build workingDir => cases workingDir <;> exact .of_running_eq rfl
  | spawn => exact h.elim
  | stopDataflow id =>
    simp only [EventLoop.State.handle, EventLoop.State.stopDataflow]
    cases hdf : s.running.lookup id with
    | none => exact .refl
    | some df => exact evolves_stopAndFinish hdf
  | addNode id node dynamic result => exact evolves_addNode h
  | removeNode id node => exact evolves_removeNode h
  | nodeConfig | other => exact .refl
  | nodeStopped id node =>
    simp only [EventLoop.State.handle, EventLoop.State.nodeStopped]
    split
    · exact .of_running_eq rfl
    · split <;> exact .of_running_eq rfl
  | manualStop => exact evolves_manualStop
  | secondCtrlC | destroy => exact .of_running_eq rfl
  | heartbeatInterval elapsed =>
    simp only [EventLoop.State.handle, EventLoop.State.heartbeatInterval]
    split <;> exact .of_running_eq rfl

/-- One step of the loop. -/
theorem evolves_step (h : Harmless keep s e) :
    Evolves keep s (EventLoop.step s e).1 := by
  unfold EventLoop.step
  split
  · exact evolves_handle h
  · exact .refl

end

/-! ## The invariant -/

/-- The node must end, and its process has not. -/
def Unfinished (s : State) (id : Uuid) (node : NodeId) : Prop :=
  ∃ p, s.processes id node = some p ∧ p.dynamic = false ∧ p.phase ≠ .gone

structure Inv (s : State) : Prop where
  tracked : ∀ id node, Unfinished s id node →
    ∃ df, s.loop.running.lookup id = some df ∧ Tracked df node
  exited : ∀ id node p, s.processes id node = some p → p.exitReport = true → p.phase = .gone
  failed : ∀ id node p text, s.processes id node = some p →
    p.spawnResult = some (.error text) → p.phase = .gone
  spawned : ∀ id, id ∈ s.loop.running → id ∈ s.spawned

/-- A dataflow is spawned once. Subscriptions are handled after the spawn result of the node, nodes
are removed after their process has ended, and added again after that was handled. -/
def Orderly (s : State) : Event → Prop
  | .spawn id .. => id ∉ s.spawned
  | .addNode id node .. => ∀ p, s.processes id node = some p →
      p.phase = .gone ∧ p.spawnResult = none ∧ p.exitReport = false
  | .other (.subscribe id node) => ∀ df, s.loop.running.lookup id = some df →
      node ∈ df.pendingNodes.localNodes → df.runningNodes.lookup node = some false
  | .other (.removeNode id node) => ∀ p, s.processes id node = some p →
      p.dynamic = true ∨ p.phase = .gone
  | _ => True

section

variable {s : State} {id : Uuid} {node : NodeId} {p q : Process}

private theorem processes_setProcess {id' : Uuid} {node' : NodeId}
    (h : (s.setProcess id node p).processes id' node' = some q) :
    (id' = id ∧ node' = node ∧ q = p) ∨ s.processes id' node' = some q := by
  unfold State.setProcess at h
  by_cases hid : id' = id
  · subst hid
    simp only [update_self] at h
    by_cases hnode : node' = node
    · subst hnode
      rw [update_self] at h
      exact .inl ⟨rfl, rfl, (Option.some.inj h).symm⟩
    · rw [update_of_ne hnode] at h
      exact .inr h
  · simp only [update_of_ne hid] at h
    exact .inr h

private theorem Inv.setProcess (h : Inv s)
    (htracked : p.dynamic = false → p.phase ≠ .gone →
      ∃ df, s.loop.running.lookup id = some df ∧ Tracked df node)
    (hexited : p.exitReport = true → p.phase = .gone)
    (hfailed : ∀ text, p.spawnResult = some (.error text) → p.phase = .gone) :
    Inv (s.setProcess id node p) where
  tracked := by
    rintro id' node' ⟨q, hq, hdynamic, hphase⟩
    rcases processes_setProcess hq with ⟨rfl, rfl, rfl⟩ | hq
    · exact htracked hdynamic hphase
    · exact h.tracked id' node' ⟨q, hq, hdynamic, hphase⟩
  exited := by
    intro id' node' q hq
    rcases processes_setProcess hq with ⟨-, -, rfl⟩ | hq
    · exact hexited
    · exact h.exited id' node' q hq
  failed := by
    intro id' node' q text hq
    rcases processes_setProcess hq with ⟨-, -, rfl⟩ | hq
    · exact hfailed text
    · exact h.failed id' node' q text hq
  spawned := h.spawned

private theorem Inv.handle (h : Inv s) (he : Harmless (Unfinished s) s.loop e) : Inv (s.handle e) where
  tracked := by
    intro id node hunfinished
    obtain ⟨df, hdf, ht⟩ := h.tracked id node hunfinished
    exact (evolves_step he).retains id df node hdf hunfinished ht
  exited := h.exited
  failed := h.failed
  spawned := fun id hid => h.spawned id ((evolves_step he).shrinks id hid)

private theorem Inv.setPhase (h : Inv s) (hp : s.processes id node = some p)
    (hphase : p.phase ≠ .gone)
    (hdynamic : q.dynamic = p.dynamic)
    (hexited : q.exitReport = true → p.exitReport = true ∨ q.phase = .gone)
    (hfailed : ∀ text, q.spawnResult = some (.error text) →
      p.spawnResult = some (.error text) ∨ q.phase = .gone) : Inv (s.setProcess id node q) := by
  refine h.setProcess (fun hd _ => ?_) (fun hr => ?_) fun text hr => ?_
  · exact h.tracked id node ⟨p, hp, hdynamic ▸ hd, hphase⟩
  · exact (hexited hr).resolve_left fun hr => hphase (h.exited id node p hp hr)
  · exact (hfailed text hr).resolve_left fun hr => hphase (h.failed id node p text hp hr)

private theorem inv_start (h : Inv s) (result : Except String Unit) :
    Inv (s.start id node result) := by
  fun_cases State.start s id node result with
  | case1 p hp hphase =>
    refine h.setPhase hp (by simp [hphase]) rfl .inl fun text htext => .inr ?_
    cases htext
    rfl
  | _ => exact h

private theorem inv_exit (h : Inv s) (restart : Bool) : Inv (s.exit id node restart) := by
  fun_cases State.exit s id node restart with
  | case1 p hp hphase =>
    refine h.setPhase hp (by simp [hphase]) rfl (fun hr => .inr ?_) fun _ => .inl
    simp_all
  | _ => exact h

private def newDataflow (nodes : AList fun _ : NodeId => Plan) (external : Bool) :
    EventLoop.RunningDataflow where
  pendingNodes := {
    localNodes := (((State.spawnNodes nodes).filter fun n => !n.dynamic).map SpawnNode.id).toFinset
    externalNodes := external }
  dynamicNodes := (((State.spawnNodes nodes).filter SpawnNode.dynamic).map SpawnNode.id).toFinset

variable {nodes : AList fun _ : NodeId => Plan} {external : Bool}
  {workingDir result : Except String Unit}

private theorem mem_spawnNodes {n : SpawnNode} :
    n ∈ State.spawnNodes nodes ↔ nodes.lookup n.id = some ⟨n.dynamic, n.prepared⟩ := by
  rw [← Option.mem_def, AList.mem_lookup_iff, State.spawnNodes, mem_map]
  constructor
  · rintro ⟨e, he, rfl⟩
    exact he
  · intro he
    exact ⟨_, he, rfl⟩

private theorem tracked_newDataflow {plan : Plan} (hplan : nodes.lookup node = some plan)
    (hdynamic : plan.dynamic = false) :
    Tracked (newDataflow nodes external) node := by
  refine .inl ⟨?_, fun hmem => ?_⟩
  · simp only [newDataflow, mem_toFinset, mem_map, mem_filter]
    refine ⟨⟨node, false, plan.prepared⟩, ⟨mem_spawnNodes.mpr ?_, rfl⟩, rfl⟩
    rw [hplan, ← hdynamic]
  · simp only [newDataflow, mem_toFinset, mem_map, mem_filter] at hmem
    obtain ⟨n, ⟨hn, hd⟩, rfl⟩ := hmem
    rw [mem_spawnNodes, hplan] at hn
    cases hn
    exact absurd (hdynamic.symm.trans hd) nofun

private theorem running_spawn_of_not {nodes : List SpawnNode}
    (hs : s.Spawns id workingDir = false) :
    (EventLoop.step s.loop (.spawn id nodes external workingDir result)).1.running =
      s.loop.running := by
  unfold EventLoop.step
  cases hstatus : s.loop.status with
  | running =>
    cases workingDir with
    | error text => rfl
    | ok _ =>
      have hid : id ∈ s.loop.running := by simpa [State.Spawns, hstatus] using hs
      simp [EventLoop.State.handle, EventLoop.State.checkWorkingDir, EventLoop.State.spawn, hid]
  | _ => rfl

private theorem evolves_spawn {keep : Uuid → NodeId → Prop} (hs : s.Spawns id workingDir = true)
    (hkeep : ∀ node plan, nodes.lookup node = some plan → plan.prepared = false → ¬ keep id node) :
    Evolves keep
      { s.loop with running := s.loop.running.insert id (newDataflow nodes external) }
      (EventLoop.step s.loop
        (.spawn id (State.spawnNodes nodes) external workingDir result)).1 := by
  unfold State.Spawns at hs
  split at hs
  · next hstatus =>
    have hid : id ∉ s.loop.running := by simpa using hs
    simp only [EventLoop.step, hstatus, EventLoop.State.handle, EventLoop.State.checkWorkingDir,
      EventLoop.State.spawn, hid, if_false]
    cases result with
    | error text => exact .refl
    | ok _ =>
      refine evolves_stopUnprepared fun n hn => ?_
      obtain ⟨hmem, hprepared⟩ := mem_filter.mp hn
      exact hkeep n.id _ (mem_spawnNodes.mp hmem) (by simpa using hprepared)
  · cases hs

private theorem phase_planned_ne_gone {plan : Plan}
    (h : (State.planned result plan).phase ≠ .gone) : plan.prepared = true := by
  unfold State.planned at h
  cases result with
  | error text => exact absurd rfl h
  | ok _ =>
    cases hp : plan.prepared
    · simp [hp] at h
    · rfl

private theorem processes_spawn {id' : Uuid} (hs : s.Spawns id workingDir = true)
    (h : (s.spawn id nodes external workingDir result).processes id' node = some p) :
    (id' = id ∧ ∃ plan, nodes.lookup node = some plan ∧ p = State.planned result plan) ∨
      (id' ≠ id ∧ s.processes id' node = some p) := by
  simp only [State.spawn, if_pos hs] at h
  by_cases hid : id' = id
  · subst hid
    rw [update_self] at h
    obtain ⟨plan, hplan, rfl⟩ := Option.map_eq_some_iff.mp h
    exact .inl ⟨rfl, plan, hplan, rfl⟩
  · rw [update_of_ne hid] at h
    exact .inr ⟨hid, h⟩

private theorem inv_spawn_new (h : Inv s) (hs : s.Spawns id workingDir = true) :
    Inv (s.spawn id nodes external workingDir result) := by
  have hev : Evolves (Unfinished (s.spawn id nodes external workingDir result))
      { s.loop with running := s.loop.running.insert id (newDataflow nodes external) }
      (s.spawn id nodes external workingDir result).loop := by
    refine evolves_spawn hs fun node plan hplan hprepared => ?_
    rintro ⟨p, hp, -, hphase⟩
    rcases processes_spawn hs hp with ⟨-, plan', hplan', rfl⟩ | ⟨hne, -⟩
    · cases hplan.symm.trans hplan'
      exact absurd (phase_planned_ne_gone hphase) (by simp [hprepared])
    · exact absurd rfl hne
  refine ⟨?_, ?_, ?_, ?_⟩
  · rintro id' node' ⟨p, hp, hdynamic, hphase⟩
    have hunfinished : Unfinished (s.spawn id nodes external workingDir result) id' node' :=
      ⟨p, hp, hdynamic, hphase⟩
    rcases processes_spawn hs hp with ⟨rfl, plan, hplan, rfl⟩ | ⟨hid, hp⟩
    · exact hev.retains id' _ node' (AList.lookup_insert _) hunfinished
        (tracked_newDataflow hplan hdynamic)
    · obtain ⟨df, hdf, ht⟩ := h.tracked id' node' ⟨p, hp, hdynamic, hphase⟩
      exact hev.retains id' df node' (by rwa [AList.lookup_insert_ne hid]) hunfinished ht
  · intro id' node' p hp hexit
    rcases processes_spawn hs hp with ⟨-, plan, -, rfl⟩ | ⟨-, hp⟩
    · cases hexit
    · exact h.exited id' node' p hp hexit
  · intro id' node' p text hp hfailed
    rcases processes_spawn hs hp with ⟨-, plan, -, rfl⟩ | ⟨-, hp⟩
    · cases hfailed
    · exact h.failed id' node' p text hp hfailed
  · intro id' hid'
    rcases (AList.mem_insert _).mp (hev.shrinks id' hid') with rfl | hmem
    · exact Finset.mem_insert_self ..
    · exact Finset.mem_insert_of_mem (h.spawned id' hmem)

private theorem inv_spawn (h : Inv s) : Inv (s.spawn id nodes external workingDir result) := by
  cases hs : s.Spawns id workingDir with
  | true => exact inv_spawn_new h hs
  | false =>
    have hprocesses : (s.spawn id nodes external workingDir result).processes = s.processes :=
      if_neg (by simp [hs])
    have hrunning : (s.spawn id nodes external workingDir result).loop.running = s.loop.running :=
      running_spawn_of_not hs
    refine ⟨fun id' node' hu => ?_, ?_, ?_, fun id' hid' => ?_⟩
    · rw [hrunning]
      exact h.tracked id' node' (by simpa only [Unfinished, hprocesses] using hu)
    · rw [hprocesses]
      exact h.exited
    · rw [hprocesses]
      exact h.failed
    · rw [hrunning] at hid'
      exact Finset.mem_insert_of_mem (h.spawned id' hid')

end

/-! ## Reports -/

section

variable {s : State} {e : Event} {id : Uuid}

private structure Reported (outs : List (List Uuid)) (s : State) : Prop where
  inv : Inv s
  nodup : outs.flatten.Nodup
  ended : ∀ id ∈ outs.flatten, id ∉ s.loop.running ∧ id ∈ s.spawned

end

end DoraSpec.Daemon.DataflowFinish
