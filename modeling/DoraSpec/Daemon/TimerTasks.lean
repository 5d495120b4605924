import DoraSpec.Daemon.DataflowFinish

/-!
# Timer tasks

Source `binaries/daemon/src/running_dataflow.rs:280-346` and `lib.rs:1294-1331, 1614-1661,
2274-2324, 2694-2751`. The inputs of the nodes are entered into a table of timers when the nodes
are spawned or added. The tasks that send the ticks are made when the dataflow is started, and only
then. The events are those of the loop; a task ends when its dataflow does.
-/

namespace DoraSpec.Daemon.TimerTasks
open Base Message Daemon.EventLoop
open Recording (Uuid)

/-- The interval of a timer that can run: `tokio::time::interval` panics on zero, which ends the
task. -/
def Positive (interval : Duration) : Prop := 0 < interval.secs ∨ 0 < interval.nanos

instance (interval : Duration) : Decidable (Positive interval) :=
  inferInstanceAs (Decidable (_ ∨ _))

/-- What the daemon knows of the timers of a dataflow; `running_dataflow.rs:181, 187, 197`. The last
field, for the statements only, says that `start` was called. -/
structure Timers where
  timers : Finset (Duration × InputKey) := ∅
  timerHandles : Finset Duration := ∅
  dataflowStarted : Bool := false
  started : Bool := false

/-- Inputs of a node that are mapped to timers; `lib.rs:1644-1650, 2306-2312`. -/
def timersOf (node : NodeId) (inputs : Inputs) : Finset (Duration × InputKey) :=
  (inputs.filterMap fun (inputId, input) =>
    match input.mapping with
    | .timer interval => some (interval, (node, inputId))
    | _ => none).toFinset

variable {t : Timers}

namespace Timers

/-- Enter the inputs of a node. -/
def register (t : Timers) (node : NodeId) (inputs : Inputs) : Timers :=
  { t with timers := t.timers ∪ timersOf node inputs }

/-- `start`, `running_dataflow.rs:280-346`: a task for each interval that has none. -/
def start (t : Timers) : Timers :=
  { t with timerHandles := t.timerHandles ∪ t.timers.image Prod.fst, started := true }

/-- Once the dataflow is started, every interval in the table has a task that runs. -/
def Ticking (t : Timers) : Prop :=
  t.started = true → ∀ entry ∈ t.timers, entry.1 ∈ t.timerHandles ∧ Positive entry.1

private theorem ticking_start : t.start.Ticking ↔ ∀ entry ∈ t.timers, Positive entry.1 := by
  constructor
  · intro h entry hentry
    exact (h rfl entry hentry).2
  · intro h _ entry hentry
    refine ⟨Finset.mem_union_right _ ?_, h entry hentry⟩
    exact Finset.mem_image_of_mem Prod.fst hentry

private theorem ticking_register (ht : t.Ticking) (node : NodeId) (inputs : Inputs) :
    (t.register node inputs).Ticking ↔ (t.started = true →
      ∀ entry ∈ timersOf node inputs, entry.1 ∈ t.timerHandles ∧ Positive entry.1) := by
  constructor
  · intro h hstarted entry hentry
    exact h hstarted entry (Finset.mem_union_right _ hentry)
  · intro h hstarted entry hentry
    rcases Finset.mem_union.mp hentry with hold | hnew
    · exact ht hstarted entry hold
    · exact h hstarted entry hnew

end Timers

/-! ## The daemon -/

/-- The event loop and the timers of its dataflows. -/
structure State where
  loop : EventLoop.State
  timers : Uuid → Timers := fun _ => {}

/-- Event of the loop, with the inputs of the nodes that it spawns or adds. A request to spawn that
is refused before the inputs are looked at has none. -/
structure Event where
  event : EventLoop.Event
  inputs : NodeId → Inputs := fun _ => []

namespace State

/-- The subscription of the node is the last one that the dataflow waits for; `lib.rs:2719-2745`. -/
def StartsWith (s : State) (id : Uuid) (node : NodeId) : Prop :=
  (s.timers id).dataflowStarted = false ∧ ∃ df ∈ s.loop.running.lookup id,
    (df.pendingNodes.handleNodeSubscription id node).2.answer.isSome = true

instance (s : State) (id : Uuid) (node : NodeId) : Decidable (s.StartsWith id node) :=
  inferInstanceAs (Decidable (_ ∧ _))

/-- What an event does to the timers of its dataflow. -/
def changed (s : State) (e : Event) : Option (Uuid × Timers) :=
  match e.event with
  | .spawn id nodes _ (.ok ()) _ _ _ =>
    if id ∈ s.loop.running then none
    else some (id, nodes.foldl (fun t node => t.register node.id (e.inputs node.id)) {})
  | .addNode id node _ (.ok ()) =>
    if id ∈ s.loop.running then some (id, (s.timers id).register node (e.inputs node)) else none
  | .subscribe id node =>
    if s.StartsWith id node then some (id, { (s.timers id).start with dataflowStarted := true })
    else none
  | .allNodesReady id exitedBeforeSubscribe =>
    -- the flag is not set here, but such a dataflow has nodes elsewhere and its nodes do not start it
    if id ∈ s.loop.running ∧ exitedBeforeSubscribe = [] then some (id, (s.timers id).start)
    else none
  | _ => none

/-- Every started dataflow has a running task for each interval that an input is mapped to. -/
def TimersRun (s : State) : Prop := ∀ id ∈ s.loop.running, (s.timers id).Ticking

end State

/-- One turn of the loop. -/
def step (s : State) (e : Event) : State × List Notice :=
  match s.loop.status with
  | .running =>
    let r := EventLoop.step s.loop e.event
    match s.changed e with
    | some (id, t) => ({ loop := r.1, timers := Function.update s.timers id t }, r.2)
    | none => ({ s with loop := r.1 }, r.2)
  | _ => (s, [])

/-- A daemon without dataflows. -/
def initial (coordinator : Bool) (exitWhenDone : Option (Finset (Uuid × NodeId))) : State :=
  { loop := { coordinator, exitWhenDone } }

/-- A node that is added after the start brings no interval that has no task yet, and no timer of
zero length is in the table when the dataflow starts, nor added later. -/
def Covered (s : State) (e : Event) : Prop :=
  match s.loop.status, e.event with
  | .running, .addNode id node _ (.ok ()) =>
    id ∈ s.loop.running → (s.timers id).started = true →
      ∀ entry ∈ timersOf node (e.inputs node),
        entry.1 ∈ (s.timers id).timerHandles ∧ Positive entry.1
  | .running, .subscribe id node =>
    s.StartsWith id node → ∀ entry ∈ (s.timers id).timers, Positive entry.1
  | .running, .allNodesReady id exitedBeforeSubscribe =>
    id ∈ s.loop.running → exitedBeforeSubscribe = [] →
      ∀ entry ∈ (s.timers id).timers, Positive entry.1
  | _, _ => True

/-! ## One event -/

section

variable {s : State} {id : Uuid}

private theorem timersRun_update (h : s.TimersRun) {loop : EventLoop.State}
    (hother : ∀ other, other ≠ id → other ∈ loop.running → other ∈ s.loop.running) :
    State.TimersRun { loop, timers := Function.update s.timers id t } ↔
      (id ∈ loop.running → t.Ticking) := by
  constructor
  · intro hrun hid
    simpa using hrun id hid
  · intro hid other hmem
    rcases eq_or_ne other id with rfl | hne
    · simpa using hid hmem
    · simpa [Function.update_of_ne hne] using h other (hother other hne hmem)

private def MakesNone : EventLoop.Event → Prop
  | .spawn .. => False
  | _ => True

private theorem running_of_step {e : EventLoop.Event} (he : MakesNone e)
    (hid : id ∈ (EventLoop.step s.loop e).1.running) : id ∈ s.loop.running := by
  have h : DataflowFinish.Harmless (fun _ _ => False) s.loop e := by
    cases e <;> simp_all [DataflowFinish.Harmless, MakesNone]
  exact (DataflowFinish.evolves_step h).shrinks id hid

private theorem running_lookup {missing : List Notice}
    {f : EventLoop.RunningDataflow → EventLoop.RunningDataflow × List Notice}
    (hid : id ∈ s.loop.running) : id ∈ (s.loop.lookup id missing f).1.running := by
  obtain ⟨df, hdf⟩ := Option.isSome_iff_exists.mp (AList.lookup_isSome.mpr hid)
  simp [EventLoop.State.lookup, hdf, AList.mem_insert]

private theorem ticking_new (nodes : List SpawnNode) (inputs : NodeId → Inputs) :
    (nodes.foldl (fun t node => t.register node.id (inputs node.id)) ({} : Timers)).Ticking := by
  have hstarted (t : Timers) :
      (nodes.foldl (fun t node => t.register node.id (inputs node.id)) t).started = t.started := by
    induction nodes generalizing t with
    | nil => rfl
    | cons node nodes ih => exact ih _
  intro h
  rw [hstarted] at h
  cases h

private theorem running_other_of_spawn (s : EventLoop.State) {id other : Uuid} (hne : other ≠ id)
    (nodes : List SpawnNode) (external : Bool) (workingDir result : Except String Unit)
    (mappings : Finset OutputId) (inspected : Bool)
    (hother : other ∈ (s.handle (.spawn id nodes external workingDir result mappings
      inspected)).1.running) :
    other ∈ s.running := by
  have hkept : Kept s id (s.spawn id nodes external result mappings inspected).1 := kept_spawn
  cases workingDir with
  | error text => exact hother
  | ok _ =>
    rw [← AList.lookup_isSome] at hother ⊢
    rwa [← hkept.running other hne]

variable {e : Event}

private theorem timersRun_of_unchanged (h : s.TimersRun) (hrun : s.loop.status = .running)
    (he : MakesNone e.event) (hnone : s.changed e = none) : (step s e).1.TimersRun := by
  simp only [step, hrun, hnone]
  intro id hid
  exact h id (running_of_step he hid)

private theorem timersRun_of_changed (h : s.TimersRun) (hrun : s.loop.status = .running)
    (he : MakesNone e.event) (hsome : s.changed e = some (id, t))
    (hid : id ∈ (s.loop.handle e.event).1.running) : (step s e).1.TimersRun ↔ t.Ticking := by
  have hloop : EventLoop.step s.loop e.event = s.loop.handle e.event := by
    simp [EventLoop.step, hrun]
  simp only [step, hrun, hsome]
  rw [timersRun_update h fun other _ => running_of_step he, hloop]
  simp [hid]

private theorem timersRun_of_spawn (h : s.TimersRun) (hrun : s.loop.status = .running) (id : Uuid)
    (nodes : List SpawnNode) (external : Bool) (workingDir result : Except String Unit)
    (mappings : Finset OutputId) (inspected : Bool) (inputs : NodeId → Inputs) :
    (step s ⟨.spawn id nodes external workingDir result mappings inspected,
      inputs⟩).1.TimersRun := by
  have hother (other : Uuid) (hne : other ≠ id) (hmem : other ∈ (EventLoop.step s.loop
      (.spawn id nodes external workingDir result mappings inspected)).1.running) :
      other ∈ s.loop.running := by
    simp only [EventLoop.step, hrun] at hmem
    exact running_other_of_spawn s.loop hne nodes external workingDir result mappings inspected hmem
  simp only [step, hrun, State.changed]
  cases workingDir with
  | error text =>
    intro other hmem
    simp only [EventLoop.step, hrun] at hmem
    exact h other hmem
  | ok _ =>
    by_cases hid : id ∈ s.loop.running
    · simp only [hid, if_true]
      intro other hmem
      rcases eq_or_ne other id with rfl | hne
      · exact h other hid
      · exact h other (hother other hne hmem)
    · simp only [hid, if_false]
      exact (timersRun_update h hother).mpr fun _ => ticking_new nodes inputs

private theorem covered_iff (h : s.TimersRun) (e : Event) :
    Covered s e ↔ (step s e).1.TimersRun := by
  obtain ⟨event, inputs⟩ := e
  cases hrun : s.loop.status with
  | exited | failed => simp [Covered, step, hrun, h]
  | running =>
    cases event with
    | spawn id nodes external workingDir result mappings inspected =>
      exact iff_of_true (by simp [Covered, hrun])
        (timersRun_of_spawn h hrun id nodes external workingDir result mappings inspected inputs)
    | addNode id node dynamic result =>
      cases result with
      | error text =>
        exact iff_of_true (by simp [Covered, hrun]) (timersRun_of_unchanged h hrun True.intro rfl)
      | ok _ =>
        by_cases hid : id ∈ s.loop.running
        · have hstep := timersRun_of_changed (e := ⟨.addNode id node dynamic (.ok ()), inputs⟩) h
            hrun True.intro (if_pos hid) (running_lookup hid)
          rw [hstep, Timers.ticking_register (h id hid)]
          simp only [Covered, hrun, hid, true_implies]
        · exact iff_of_true (by simp [Covered, hrun, hid])
            (timersRun_of_unchanged h hrun True.intro (if_neg hid))
    | subscribe id node =>
      by_cases hstarts : s.StartsWith id node
      · have hid : id ∈ s.loop.running := by
          obtain ⟨-, df, hdf, -⟩ := hstarts
          exact AList.lookup_isSome.mp (by rw [hdf]; rfl)
        have hstep := timersRun_of_changed (e := ⟨.subscribe id node, inputs⟩) h hrun True.intro
          (if_pos hstarts) (running_lookup hid)
        have hflag : ({ (s.timers id).start with dataflowStarted := true } : Timers).Ticking ↔
            (s.timers id).start.Ticking := Iff.rfl
        rw [hstep, hflag, Timers.ticking_start]
        simp only [Covered, hrun, hstarts, true_implies]
      · exact iff_of_true (by simp [Covered, hrun, hstarts])
          (timersRun_of_unchanged h hrun True.intro (if_neg hstarts))
    | allNodesReady id exited =>
      by_cases hready : id ∈ s.loop.running ∧ exited = []
      · have hstep := timersRun_of_changed (e := ⟨.allNodesReady id exited, inputs⟩) h hrun
          True.intro (if_pos hready) (running_lookup hready.1)
        rw [hstep, Timers.ticking_start]
        simp only [Covered, hrun, hready, true_implies]
      · refine iff_of_true ?_ (timersRun_of_unchanged h hrun True.intro (if_neg hready))
        simp only [Covered, hrun]
        intro hid hempty
        exact absurd ⟨hid, hempty⟩ hready
    | _ => exact iff_of_true (by simp [Covered, hrun]) (timersRun_of_unchanged h hrun True.intro rfl)

end

/-! ## Runs -/

/-- Along a run the timers of all started dataflows run if and only if every event is covered. -/
theorem timersRun_iff_covered (coordinator : Bool)
    (exitWhenDone : Option (Finset (Uuid × NodeId))) (events : List Event) :
    (∀ before, before <+: events →
      (Machine.run step (initial coordinator exitWhenDone) before).1.TimersRun) ↔
      Machine.Along step Covered (initial coordinator exitWhenDone) events := by
  have hstart : (initial coordinator exitWhenDone).TimersRun := fun id hid => by cases hid
  exact (Machine.along_iff_forall_prefix step State.TimersRun (fun s e h => covered_iff h e) events
    hstart).symm

/-! ## A timer of a node that is added later -/

/-- Input `dora/timer/secs/1`. -/
def everySecond : Inputs := [(⟨"tick", by decide⟩, { mapping := .timer (.fromSecs 1) })]

/-- A dataflow with one node is spawned and starts, and then a node with a timer is added. -/
def timerAdded : List Event :=
  [{ event := .spawn .nil [{ id := ⟨"camera"⟩ }] false (.ok ()) (.ok ()) },
    { event := .subscribe .nil ⟨"camera"⟩ },
    { event := .addNode .nil ⟨"clock"⟩ false (.ok ()), inputs := fun _ => everySecond }]

/-- No task is made for the timer of a node that is added to a started dataflow. -/
theorem not_timersRun_timerAdded :
    ¬ (Machine.run step (initial true none) timerAdded).1.TimersRun := by
  intro h
  have htick := h .nil (by decide) (by decide) (.fromSecs 1, ⟨"clock"⟩, ⟨"tick", by decide⟩)
    (by decide)
  exact absurd htick.1 (by decide)

end DoraSpec.Daemon.TimerTasks
