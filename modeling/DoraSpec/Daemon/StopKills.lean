import Mathlib.Data.Finset.Basic
import DoraSpec.Base.Machine

/-!
# Stopping the processes of a node

Source `binaries/daemon/src/running_dataflow.rs:142-163, 348-422`, `lib.rs:1010-1033, 3750-3781` and
`spawn/prepared.rs:103-382, 620-657`. A stop of the dataflow takes the process handle of the node
out of the table, sleeps for the grace period, submits a soft kill, sleeps for half the period and
submits a kill. Meanwhile the restart loop of the node may start processes and send their handles to
the daemon. Modelled for one node that has processes; its dataflow stays in the table.
-/

namespace DoraSpec.Daemon.StopKills
open Base List Finset Machine

/-! ## Processes and handles -/

/-- `running_dataflow.rs:95-101`. -/
inductive ProcessOperation where
  | softKill
  | kill
  deriving DecidableEq

/-- Where the task of the node is; `prepared.rs:103-380`. -/
inductive Phase where
  /-- The first process has still to be started. -/
  | prepared
  | running (process : Nat)
  /-- The process has ended and the loop has not looked at `disable_restart` yet. -/
  | exited
  | backoff
  /-- The next process is started without looking again. -/
  | starting
  | ended
  deriving DecidableEq

/-- What starting a process leads to. An error may come after the process was created. -/
inductive Started where
  | ok
  | failed (processLeft : Bool)

/-- Events of the restart loop that the daemon has still to handle. -/
inductive Message where
  | spawnedNodeResult (restart : Bool)
  | processHandleReplaced (handle : Nat)
  deriving DecidableEq

/-- How far the stop is. -/
inductive Stage where
  | grace
  | softKilled
  | killed
  deriving DecidableEq

/-- The task of a stop, with the handle it has taken. -/
structure StopTask where
  process : Option Nat
  stage : Stage := .grace

/-- Entry of the node in the table. -/
structure RunningNode where
  process : Option Nat

/-- Processes are numbered; a handle is the number of its process. -/
structure State where
  phase : Phase := .prepared
  nextProcess : Nat := 0
  alive : Finset Nat := ∅
  received : Nat → List ProcessOperation := fun _ => []
  disableRestart : Bool := false
  /-- Handle in the `SpawnNodeResult` that the daemon has still to handle. -/
  spawnNodeResult : Option Nat := none
  messages : List Message := []
  runningNode : Option RunningNode := none
  stopTask : Option StopTask := none

namespace State

/-- `submit`, `running_dataflow.rs:151-153`. Operations reach a process while it lives. -/
def submit (s : State) (process : Nat) (op : ProcessOperation) : State :=
  if process ∈ s.alive then
    { s with received := Function.update s.received process (s.received process ++ [op]) }
  else s

/-- Submit an operation if there is a handle. -/
def submitTo (s : State) (process : Option Nat) (op : ProcessOperation) : State :=
  process.elim s (s.submit · op)

/-- `drop` of a handle, `running_dataflow.rs:156-162`. -/
def dropHandle (s : State) (process : Option Nat) : State := s.submitTo process .kill

/-- A process is created. -/
def create (s : State) : State :=
  { s with alive := insert s.nextProcess s.alive, nextProcess := s.nextProcess + 1 }

/-! ## The task of the node -/

/-- `spawn`, `prepared.rs:112-146`. -/
def spawn (s : State) : Started → State
  | .ok => { s.create with phase := .running s.nextProcess, spawnNodeResult := some s.nextProcess }
  | .failed processLeft => { (if processLeft then s.create else s) with phase := .ended }

/-- The loop looks at `disable_restart` after the exit of a process that the policy and the limits let
it start again; `prepared.rs:193-264`. -/
def decideRestart (s : State) (wanted delayed : Bool) : State :=
  if wanted && !s.disableRestart then
    { s with
      phase := if delayed then .backoff else .starting
      messages := s.messages ++ [.spawnedNodeResult true] }
  else { s with phase := .ended, messages := s.messages ++ [.spawnedNodeResult false] }

/-- `prepared.rs:283-294`. -/
def wake (s : State) : State := { s with phase := if s.disableRestart then .ended else .starting }

/-- `prepared.rs:334-376`. -/
def respawn (s : State) : Started → State
  | .ok => { s.create with
      phase := .running s.nextProcess
      messages := s.messages ++ [.processHandleReplaced s.nextProcess] }
  | .failed processLeft => { (if processLeft then s.create else s) with phase := .ended }

/-! ## The daemon -/

/-- `lib.rs:1016-1018`. -/
def handleSpawnNodeResult (s : State) : State :=
  match s.spawnNodeResult with
  | none => s
  | some handle => { s with spawnNodeResult := none, runningNode := some ⟨some handle⟩ }.dropHandle
      (s.runningNode.bind RunningNode.process)

/-- `lib.rs:3750-3781` and `lib.rs:3269-3275`. -/
def handleMessage (s : State) : State :=
  match s.messages with
  | [] => s
  | .spawnedNodeResult true :: messages => { s with messages }
  | .spawnedNodeResult false :: messages =>
    { s with messages, runningNode := none }.dropHandle (s.runningNode.bind RunningNode.process)
  | .processHandleReplaced handle :: messages =>
    match s.runningNode with
    | some node => { s with messages, runningNode := some ⟨some handle⟩ }.dropHandle node.process
    | none => { s with messages }.dropHandle (some handle)

/-- `disable_restart` is set through the table. -/
def setDisableRestart (s : State) : State :=
  { s with disableRestart := s.disableRestart || s.runningNode.isSome }

/-- `stop_all`, `running_dataflow.rs:348-422`. A forced stop kills at once. -/
def stopAll (s : State) (force : Bool) : State :=
  let process := s.runningNode.bind RunningNode.process
  let s := { s.setDisableRestart with runningNode := s.runningNode.map fun _ => ⟨none⟩ }
  if force then (s.submitTo process .kill).dropHandle process
  else { s with stopTask := some { process } }

/-- The first sleep of the stop is over; `running_dataflow.rs:390-399`. -/
def graceOver (s : State) : State :=
  match s.stopTask with
  | some { process, stage := .grace } =>
    { s.submitTo process .softKill with stopTask := some { process, stage := .softKilled } }
  | _ => s

/-- The second sleep is over, and the handle is dropped; `running_dataflow.rs:401-415`. -/
def killTime (s : State) : State :=
  match s.stopTask with
  | some { process, stage := .softKilled } =>
    { (s.submitTo process .kill).dropHandle process with
      stopTask := some { process := none, stage := .killed } }
  | _ => s

end State

open State

inductive Event where
  | spawn (result : Started)
  /-- A process ends. -/
  | exit (process : Nat)
  | decide (wanted delayed : Bool)
  | wake
  | respawn (result : Started)
  | handleSpawnNodeResult
  | handleMessage
  /-- The inputs of the node are closed, or it subscribes after the stop. -/
  | disableRestart
  | graceOver
  | killTime

/-- One step of the task of the node, of its processes, of the daemon or of the stop. -/
def step (s : State) : Event → State × Unit
  | .spawn result => (if s.phase = .prepared then s.spawn result else s, ())
  | .exit process => ({ s with
      alive := s.alive.erase process
      phase := if s.phase = .running process ∧ process ∈ s.alive then .exited else s.phase }, ())
  | .decide wanted delayed => (if s.phase = .exited then s.decideRestart wanted delayed else s, ())
  | .wake => (if s.phase = .backoff then s.wake else s, ())
  | .respawn result => (if s.phase = .starting then s.respawn result else s, ())
  | .handleSpawnNodeResult => (s.handleSpawnNodeResult, ())
  | .handleMessage => (s.handleMessage, ())
  | .disableRestart => (s.setDisableRestart, ())
  | .graceOver => (s.graceOver, ())
  | .killTime => (s.killTime, ())

/-! ## What a process is to receive -/

/-- Operations that a live process has got at a stage of the stop. -/
def Due : Stage → List ProcessOperation → Prop
  | .grace, ops => ops = []
  | .softKilled, ops => ops = [.softKill]
  | .killed, ops => [.softKill, .kill] <+: ops

/-- Every live process has got what is due. -/
def Obeys (s : State) : Prop :=
  ∀ task ∈ s.stopTask, ∀ process ∈ s.alive, Due task.stage (s.received process)

/-- At the stop every live process is the one whose handle is in the table, and was not killed
before; no process is about to be started, and the loop will see that restarts are disabled. -/
structure Ready (s : State) : Prop where
  held : ∀ process ∈ s.alive, s.runningNode = some ⟨some process⟩ ∧ s.received process = []
  settled : s.phase ≠ .prepared ∧ s.phase ≠ .starting
  disabled : s.phase = .exited ∨ s.phase = .backoff →
    s.disableRestart = true ∨ s.runningNode.isSome = true

/-! ## Where the handles are -/

section

variable {s : State} {process : Option Nat} {k : Nat} {op : ProcessOperation}

private theorem State.submit_of_not_alive (h : k ∉ s.alive) : s.submit k op = s := if_neg h

private theorem State.dropHandle_of_not_alive (h : ∀ k ∈ process, k ∉ s.alive) :
    s.dropHandle process = s := by
  cases process with
  | none => rfl
  | some k => exact submit_of_not_alive (h k rfl)

private theorem submitTo_eq (s : State) (process : Option Nat) (op : ProcessOperation) :
    ∃ received, s.submitTo process op = { s with received } := by
  cases process with
  | none => exact ⟨s.received, rfl⟩
  | some k =>
    simp only [submitTo, Option.elim_some, submit]
    split
    · exact ⟨_, rfl⟩
    · exact ⟨s.received, rfl⟩

private theorem State.received_submitTo_ne (h : process ≠ some k) :
    (s.submitTo process op).received k = s.received k := by
  cases process with
  | none => rfl
  | some j =>
    have hne : k ≠ j := fun heq => h (heq ▸ rfl)
    simp only [submitTo, Option.elim_some, submit]
    split
    · exact Function.update_of_ne hne ..
    · rfl

def Message.handle : Message → Option Nat
  | spawnedNodeResult _ => none
  | processHandleReplaced handle => some handle

/-- Handles on their way to the daemon and in its table. -/
def State.handles (s : State) : List Nat :=
  s.spawnNodeResult.toList ++ s.messages.filterMap Message.handle ++
    (s.runningNode.bind RunningNode.process).toList

private structure Inv (s : State) : Prop where
  nodup : s.handles.Nodup
  handles_lt : ∀ k ∈ s.handles, k < s.nextProcess
  alive_lt : ∀ k ∈ s.alive, k < s.nextProcess
  running : ∀ k, s.phase = .running k → k ∈ s.alive

private inductive Moved (s : State) : State → Prop
  | mk {messages spawnNodeResult runningNode} (process : Option Nat)
    (h : s.handles.Perm
      (process.toList ++ handles { s with messages, spawnNodeResult, runningNode })) :
    Moved s ({ s with messages, spawnNodeResult, runningNode }.dropHandle process)

private theorem Moved.refl (s : State) : Moved s s :=
  @Moved.mk s s.messages s.spawnNodeResult s.runningNode none (.refl _)

private theorem moved_handleSpawnNodeResult (s : State) : Moved s s.handleSpawnNodeResult := by
  unfold handleSpawnNodeResult
  split
  · exact .refl s
  · next handle hs =>
    refine .mk _ ?_
    simp only [handles, hs]
    grind

private theorem moved_handleMessage (s : State) : Moved s s.handleMessage := by
  unfold handleMessage
  split
  · exact .refl s
  · next messages hm =>
    refine @Moved.mk s messages s.spawnNodeResult s.runningNode none ?_
    simp [handles, hm, Message.handle, filterMap_cons]
  · next messages hm =>
    refine .mk _ ?_
    simp only [handles, hm, Message.handle, filterMap_cons]
    grind
  · next handle messages hm =>
    split
    all_goals
      next hn =>
      refine .mk _ ?_
      simp only [handles, hm, hn, Message.handle, filterMap_cons]
      grind

section Kept

variable (h : Inv s)
include h

private theorem Inv.submitTo : Inv (s.submitTo process op) := by
  obtain ⟨received, heq⟩ := submitTo_eq s process op
  rw [heq]
  exact ⟨h.nodup, h.handles_lt, h.alive_lt, h.running⟩

private theorem Inv.create : Inv { s.create with phase := .ended } where
  nodup := h.nodup
  handles_lt k hk := Nat.lt_succ_of_lt (h.handles_lt k hk)
  alive_lt k hk := by
    rcases mem_insert.mp hk with rfl | hk
    · exact Nat.lt_succ_self _
    · exact Nat.lt_succ_of_lt (h.alive_lt k hk)
  running k hk := by cases hk

private theorem Inv.start {t : State} (hnext : t.nextProcess = s.nextProcess + 1)
    (halive : t.alive = insert s.nextProcess s.alive) (hphase : t.phase = .running s.nextProcess)
    (hnodup : t.handles.Nodup)
    (hsub : ∀ k ∈ t.handles, k = s.nextProcess ∨ k ∈ s.handles) : Inv t where
  nodup := hnodup
  handles_lt k hk := by
    rw [hnext]
    rcases hsub k hk with rfl | hk
    · exact Nat.lt_succ_self _
    · exact Nat.lt_succ_of_lt (h.handles_lt k hk)
  alive_lt k hk := by
    rw [halive] at hk
    rw [hnext]
    rcases mem_insert.mp hk with rfl | hk
    · exact Nat.lt_succ_self _
    · exact Nat.lt_succ_of_lt (h.alive_lt k hk)
  running k hk := by
    cases hphase.symm.trans hk
    rw [halive]
    exact mem_insert_self ..

private theorem Inv.ended : Inv { s with phase := .ended } :=
  ⟨h.nodup, h.handles_lt, h.alive_lt, fun _ hk => by cases hk⟩

private theorem Inv.nextProcess_notMem : s.nextProcess ∉ s.handles :=
  fun hk => Nat.lt_irrefl _ (h.handles_lt _ hk)

private theorem inv_spawn (result : Started) : Inv (s.spawn result) := by
  cases result with
  | ok =>
    have hnew := h.nextProcess_notMem
    have hnodup := h.nodup
    refine h.start rfl rfl rfl ?_ fun k hk => ?_
    · simp only [handles, spawn, create] at hnew hnodup ⊢
      grind
    · simp only [handles, spawn, create] at hk ⊢
      grind
  | failed processLeft =>
    cases processLeft
    · exact h.ended
    · exact h.create

private theorem inv_respawn (result : Started) : Inv (s.respawn result) := by
  cases result with
  | ok =>
    have hnew := h.nextProcess_notMem
    have hnodup := h.nodup
    refine h.start rfl rfl rfl ?_ fun k hk => ?_
    · simp only [handles, respawn, create, filterMap_append] at hnew hnodup ⊢
      simp only [filterMap_cons, filterMap_nil, Message.handle]
      grind
    · simp only [handles, respawn, create, filterMap_append] at hk ⊢
      simp only [filterMap_cons, filterMap_nil, Message.handle] at hk
      grind
  | failed processLeft =>
    cases processLeft
    · exact h.ended
    · exact h.create

private theorem inv_exit (process : Nat) : Inv (step s (.exit process)).1 where
  nodup := h.nodup
  handles_lt := h.handles_lt
  alive_lt k hk := h.alive_lt k (mem_of_mem_erase hk)
  running k hk := by
    simp only [step] at hk
    split at hk
    · cases hk
    · next hnot =>
      have hk' := h.running k hk
      refine mem_erase.mpr ⟨fun heq => hnot ⟨heq ▸ hk, heq ▸ hk'⟩, hk'⟩

private theorem inv_decideRestart (wanted delayed : Bool) :
    Inv (s.decideRestart wanted delayed) := by
  have hreport : ∀ restart, (s.messages ++ [Message.spawnedNodeResult restart]).filterMap
      Message.handle = s.messages.filterMap Message.handle := by
    simp [filterMap_cons, Message.handle]
  unfold decideRestart
  split
  · refine ⟨?_, ?_, h.alive_lt, fun k hk => ?_⟩
    · simpa only [handles, hreport] using h.nodup
    · simpa only [handles, hreport] using h.handles_lt
    · cases delayed <;> cases hk
  · refine ⟨?_, ?_, h.alive_lt, fun k hk => by cases hk⟩
    · simpa only [handles, hreport] using h.nodup
    · simpa only [handles, hreport] using h.handles_lt

private theorem Inv.moved {t : State} (hmoved : Moved s t) : Inv t := by
  obtain ⟨process, hperm⟩ := hmoved
  refine Inv.submitTo ⟨?_, fun k hk => ?_, h.alive_lt, h.running⟩
  · exact (nodup_append.mp (hperm.nodup h.nodup)).2.1
  · exact h.handles_lt k (hperm.mem_iff.mpr (mem_append_right _ hk))

private theorem inv_step (e : Event) : Inv (step s e).1 := by
  cases e with
  | spawn result =>
    simp only [step]
    split
    · exact inv_spawn h result
    · exact h
  | exit process => exact inv_exit h process
  | decide wanted delayed =>
    simp only [step]
    split
    · exact inv_decideRestart h wanted delayed
    · exact h
  | wake =>
    simp only [step]
    split
    · refine ⟨h.nodup, h.handles_lt, h.alive_lt, fun k hk => ?_⟩
      simp only [wake] at hk
      split at hk <;> cases hk
    · exact h
  | respawn result =>
    simp only [step]
    split
    · exact inv_respawn h result
    · exact h
  | handleSpawnNodeResult => exact h.moved (moved_handleSpawnNodeResult s)
  | handleMessage => exact h.moved (moved_handleMessage s)
  | disableRestart => exact ⟨h.nodup, h.handles_lt, h.alive_lt, h.running⟩
  | graceOver =>
    simp only [step, graceOver]
    split
    · exact ⟨h.submitTo.nodup, h.submitTo.handles_lt, h.submitTo.alive_lt, h.submitTo.running⟩
    · exact h
  | killTime =>
    simp only [step, killTime]
    split
    · next process _ =>
      have hk : Inv ((s.submitTo process .kill).dropHandle process) := h.submitTo.submitTo
      exact ⟨hk.nodup, hk.handles_lt, hk.alive_lt, hk.running⟩
    · exact h

end Kept

/-! ## After the stop -/

private structure Safe (taken : Option Nat) (s : State) : Prop where
  task : ∃ task, s.stopTask = some task ∧ (task.stage ≠ .killed → task.process = taken) ∧
    ∀ k ∈ s.alive, Due task.stage (s.received k)
  only : ∀ k ∈ s.alive, taken = some k
  apart : ∀ k ∈ s.handles, k ∉ s.alive
  quiet : s.phase = .ended ∨
    s.disableRestart = true ∧ s.phase ≠ .prepared ∧ s.phase ≠ .starting

variable {taken : Option Nat}

section Safe

variable (h : Safe taken s)
include h

private theorem Safe.moved {t : State} (hmoved : Moved s t) : Safe taken t := by
  obtain ⟨process, hperm⟩ := hmoved
  rw [dropHandle_of_not_alive]
  · exact ⟨h.task, h.only, fun k hk => h.apart k (hperm.mem_iff.mpr (mem_append_right _ hk)),
      h.quiet⟩
  · intro k hk
    exact h.apart k (hperm.mem_iff.mpr (mem_append_left _ (Option.mem_toList.mpr hk)))

private theorem Safe.not_creating : s.phase ≠ .prepared ∧ s.phase ≠ .starting := by
  rcases h.quiet with hended | ⟨-, hquiet⟩
  · rw [hended]
    exact ⟨nofun, nofun⟩
  · exact hquiet

private theorem Safe.disableRestart (hphase : s.phase ≠ .ended) : s.disableRestart = true := by
  rcases h.quiet with hended | ⟨hdisabled, -⟩
  · exact absurd hended hphase
  · exact hdisabled

end Safe

private def AlwaysObeys (s : State) : Prop := ∀ events, Obeys (Machine.run step s events).1

private theorem AlwaysObeys.next (h : AlwaysObeys s) (e : Event) : AlwaysObeys (step s e).1 :=
  fun events => h (e :: events)

private theorem AlwaysObeys.process_eq (h : AlwaysObeys s) (htask : s.stopTask = some { process })
    (hk : k ∈ s.alive) : process = some k := by
  have hbefore : s.received k = [] := h [] { process } htask k hk
  obtain ⟨received, heq⟩ := submitTo_eq s process .softKill
  have hgrace : (run step s [.graceOver]).1 =
      { s.submitTo process .softKill with stopTask := some { process, stage := .softKilled } } := by
    simp [run, step, graceOver, htask]
  have hdue : (s.submitTo process .softKill).received k = [.softKill] := by
    have := h [.graceOver]
    rw [hgrace] at this
    exact this _ rfl k (by rw [heq]; exact hk)
  by_contra hne
  rw [received_submitTo_ne hne, hbefore] at hdue
  cases hdue

private theorem AlwaysObeys.not_creating (h : AlwaysObeys s) (htask : s.stopTask = some { process })
    (hlt : ∀ k ∈ process, k < s.nextProcess) : s.phase ≠ .prepared ∧ s.phase ≠ .starting := by
  refine ⟨fun hphase => ?_, fun hphase => ?_⟩
  · have hnext := h.next (.spawn .ok)
    simp only [step, hphase, if_true, spawn] at hnext
    exact Nat.lt_irrefl _ (hlt _ (hnext.process_eq htask (mem_insert_self ..)))
  · have hnext := h.next (.respawn .ok)
    simp only [step, hphase, if_true, respawn] at hnext
    exact Nat.lt_irrefl _ (hlt _ (hnext.process_eq htask (mem_insert_self ..)))

private theorem AlwaysObeys.disableRestart (h : AlwaysObeys s)
    (htask : s.stopTask = some { process })
    (hlt : ∀ k ∈ process, k < s.nextProcess) (hphase : s.phase = .exited ∨ s.phase = .backoff) :
    s.disableRestart = true := by
  by_contra hnot
  have hdisabled : s.disableRestart = false := by simpa using hnot
  rcases hphase with hphase | hphase
  · have hnext := h.next (.decide true false)
    simp only [step, hphase, if_true, decideRestart, hdisabled, Bool.not_false, Bool.and_true]
      at hnext
    exact (hnext.not_creating htask hlt).2 rfl
  · have hnext := h.next .wake
    simp only [step, hphase, if_true, wake, hdisabled] at hnext
    exact (hnext.not_creating htask hlt).2 rfl

end

end DoraSpec.Daemon.StopKills
