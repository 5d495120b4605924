import Mathlib.Data.Finset.Basic
import Mathlib.Data.Finset.Lattice.Lemmas
import DoraSpec.Base.Machine
import DoraSpec.Store.CoordinatorStore

/-!
# Undoing a spawn

Source `binaries/coordinator/src/run/mod.rs:21-134, 188-265`, `state.rs:110-143` and, for the
daemons, `binaries/daemon/src/lib.rs:1010-1033, 1230-1292, 1474-1519, 2499-2615` with
`running_dataflow.rs:157-163, 348-422`. The coordinator asks one daemon after the other to spawn its
part of a dataflow. After the first failure it stops the parts that were confirmed. A daemon
confirms its part before the nodes start, and one that does not answer in time may start its part
all the same. Nodes run until they are killed; dynamic nodes and restarts are left out.
-/

namespace DoraSpec.Coordinator.SpawnRollback
open Base Message Store List Machine

/-! ## A daemon -/

/-- What a daemon has of one dataflow. -/
structure Daemon where
  /-- Nodes with a process handle in the table of running nodes, if the dataflow is running. -/
  running : Option (Finset NodeId) := none
  /-- Nodes that the task of the spawn has still to start. -/
  task : List NodeId := []
  /-- Started nodes whose `SpawnNodeResult` has still to be handled. -/
  results : List NodeId := []
  alive : Finset NodeId := ∅

/-- What happens in a daemon by itself. -/
inductive Event where
  /-- The task goes on to its next node. -/
  | start (ok : Bool)
  | spawnNodeResult
  /-- The dataflow is finished. -/
  | finish
  deriving DecidableEq

namespace Daemon
variable (d : Daemon)

/-- A refused dataflow stays in the table, and its task is dropped; `lib.rs:1246-1289, 2246-2255` of
the daemon. -/
def spawn (nodes : List NodeId) (result : Except String Unit) : Daemon :=
  { d with running := some ∅, task := if result matches .ok _ then nodes else [] }

/-- `spawn_prepared_nodes`, `lib.rs:2580-2612` of the daemon. -/
def start (ok : Bool) : Daemon :=
  match d.task with
  | [] => d
  | node :: task =>
    if ok then
      { d with task, results := d.results ++ [node], alive := insert node d.alive }
    else { d with task }

/-- A handle that finds no dataflow is dropped, which kills the process; `lib.rs:1010-1025` of the
daemon and `running_dataflow.rs:157-163`. -/
def spawnNodeResult : Daemon :=
  match d.results, d.running with
  | [], _ => d
  | node :: results, some running => { d with results, running := some (insert node running) }
  | node :: results, none => { d with results, alive := d.alive.erase node }

/-- A dataflow with a node that has still to start, or runs, is not finished;
`running_dataflow.rs:424-436`. -/
def finish : Daemon :=
  if d.task = [] ∧ d.running = some ∅ then { d with running := none } else d

/-- `stop_all` with force, `running_dataflow.rs:366-388`: the handles are taken and the processes
killed. -/
def stop : Daemon :=
  match d.running with
  | none => d
  | some running => { d with running := some ∅, alive := d.alive \ running }

end Daemon

/-- One event of a daemon. -/
def step (d : Daemon) (e : Event) : Daemon × Unit :=
  (match e with
    | .start ok => d.start ok
    | .spawnNodeResult => d.spawnNodeResult
    | .finish => d.finish, ())

/-! ## Messages -/

/-- What becomes of a command; `state.rs:110-143`. -/
inductive Reply (α : Type) where
  /-- The message was not sent or no reply came in time. -/
  | failed (error : String)
  /-- The reply is no reply, or one to another command. -/
  | unexpected (error : String)
  | answer (result : Except String α)

/-- `run/mod.rs:71-86, 228-243`. -/
def Reply.check {α : Type} : Reply α → Except String α
  | .failed error | .unexpected error => .error error
  | .answer result => result

/-- A daemon after the spawn command, if that gets there. -/
def afterSpawn (nodes : List NodeId) : Option (Except String Unit) → Daemon
  | none => {}
  | some result => ({} : Daemon).spawn nodes result

/-- All that happens between the coordinator and one daemon. -/
structure Exchange where
  daemon : DaemonId
  /-- Nodes of the daemon's part. -/
  nodes : List NodeId
  nodup : nodes.Nodup
  /-- What the daemon answers to the spawn command, if that gets there. -/
  spawned : Option (Except String Unit)
  spawnReply : Reply Unit
  honest : ∀ result, spawnReply = .answer result → spawned = some result
  /-- What happens in the daemon until it handles a stop command. -/
  before : List Event
  /-- A stop command gets there. -/
  stopHandled : Bool
  stopReply : Reply Unit
  after : List Event
  /-- In the end no result is left to be handled. -/
  quiet : (Machine.run step (afterSpawn nodes spawned) (before ++ after)).1.results = []
  /-- The daemon is connected in the end. -/
  connected : Bool

/-- Characters at the front that fit into a number of bytes. -/
def takeBytes : Nat → List Char → List Char
  | _, [] => []
  | n, c :: cs => if c.utf8Size ≤ n then c :: takeBytes (n - c.utf8Size) cs else []

/-- `truncate_str`, `state.rs:274-283`. -/
def truncateStr (text : String) (maxBytes : Nat) : String :=
  String.ofList (takeBytes maxBytes text.toList)

/-- `rollback_spawned_daemons`, `run/mod.rs:188-265`: the stops that failed. -/
def rollbackSpawnedDaemons (spawned : List Exchange) : List (DaemonId × String) :=
  spawned.filterMap fun x =>
    match x.stopReply.check with
    | .ok () => none
    | .error e => some (x.daemon, truncateStr e 1024)

/-- `run/mod.rs:96-115`. -/
structure SpawnError where
  daemon : DaemonId
  cause : String
  rolledBack : Nat
  rollbackErrors : List (DaemonId × String)

/-- `spawn_dataflow`, `run/mod.rs:43-133`: its result, and the daemons that were asked to spawn their
part, with whether they were told to stop it. -/
def spawnDataflow (spawned : List Exchange) :
    List Exchange → Except SpawnError (List DaemonId) × List (Exchange × Bool)
  | [] => (.ok (spawned.map (·.daemon)), spawned.map (·, false))
  | x :: exchanges =>
    match x.spawnReply.check with
    | .ok () => spawnDataflow (spawned ++ [x]) exchanges
    | .error cause =>
      (.error {
          daemon := x.daemon
          cause
          rolledBack := spawned.length
          rollbackErrors := rollbackSpawnedDaemons spawned },
        spawned.map (·, true) ++ [(x, false)])

/-- The daemon when it handles the stop command. -/
def Exchange.atStop (x : Exchange) : Daemon :=
  (Machine.run step (afterSpawn x.nodes x.spawned) x.before).1

/-- The daemon when all is handled. -/
def Exchange.last (x : Exchange) (stopped : Bool) : Daemon :=
  (Machine.run step (if stopped && x.stopHandled then x.atStop.stop else x.atStop) x.after).1

/-! ## Clean up -/

/-- No started node is entered into the table of running nodes. -/
def NotEntered (d : Daemon) : Event → Prop
  | .spawnNodeResult => d.results = [] ∨ d.running = none
  | _ => True

/-- No node is entered after the stop command, or at all if there is none. -/
def Exchange.EntersNone (x : Exchange) (stopped : Bool) : Prop :=
  if stopped && x.stopHandled then Machine.Along step NotEntered x.atStop.stop x.after
  else Machine.Along step NotEntered (afterSpawn x.nodes x.spawned) (x.before ++ x.after)

/-! ## Processes of a daemon -/

/-- Nodes with a process handle in the table. -/
def Daemon.handles (d : Daemon) : Finset NodeId := d.running.getD ∅

/-- Every process has its handle in the table or in a result, and no two have the same node. -/
structure Tracked (d : Daemon) : Prop where
  nodup : (d.results ++ d.task).Nodup
  apart : ∀ node ∈ d.handles, node ∉ d.results ++ d.task
  alive : d.alive = d.results.toFinset ∪ d.handles

variable {d : Daemon}

private theorem Tracked.start (h : Tracked d) (ok : Bool) : Tracked (d.start ok) := by
  rw [Daemon.start]
  cases htask : d.task with
  | nil => exact h
  | cons node task =>
    have hnodup := htask ▸ h.nodup
    have hapart : ∀ n ∈ d.handles, n ∉ d.results ++ node :: task := htask ▸ h.apart
    cases ok with
    | true =>
      refine ⟨by simpa using hnodup, by simpa [Daemon.handles] using hapart, ?_⟩
      ext n
      simp only [if_true, h.alive, Daemon.handles, Finset.mem_insert, Finset.mem_union,
        mem_toFinset, mem_append, mem_singleton]
      tauto
    | false =>
      have hsub : (d.results ++ task).Sublist (d.results ++ node :: task) :=
        (sublist_cons_self node task).append_left d.results
      exact ⟨hnodup.sublist hsub, fun n hn hmem => hapart n hn (hsub.subset hmem), h.alive⟩

private theorem Tracked.spawnNodeResult (h : Tracked d) : Tracked d.spawnNodeResult := by
  rw [Daemon.spawnNodeResult]
  cases hresults : d.results with
  | nil => exact h
  | cons node results =>
    have hnodup : (node :: (results ++ d.task)).Nodup := by simpa [hresults] using h.nodup
    have hfresh := (nodup_cons.mp hnodup).1
    have halive := h.alive
    rw [hresults] at halive
    cases hrunning : d.running with
    | none =>
      refine ⟨(nodup_cons.mp hnodup).2, by simp [Daemon.handles], ?_⟩
      have hnot : node ∉ results.toFinset := fun hmem =>
        hfresh (mem_append_left _ (mem_toFinset.mp hmem))
      simp [halive, Daemon.handles, hrunning, Finset.erase_insert hnot]
    | some running =>
      refine ⟨(nodup_cons.mp hnodup).2, ?_, ?_⟩
      · intro n hn
        obtain rfl | hn := Finset.mem_insert.mp hn
        · exact hfresh
        · have hn' := h.apart n (by simpa [Daemon.handles, hrunning] using hn)
          rw [hresults, cons_append] at hn'
          exact fun hmem => hn' (mem_cons_of_mem _ hmem)
      · simp [halive, Daemon.handles, hrunning]

private theorem handles_finish : d.finish.handles = d.handles := by
  rw [Daemon.finish]
  split
  · next h => simp [Daemon.handles, h.2]
  · rfl

private theorem Tracked.finish (h : Tracked d) : Tracked d.finish := by
  have hsame : d.finish.results = d.results ∧ d.finish.task = d.task ∧
      d.finish.alive = d.alive := by
    rw [Daemon.finish]
    split <;> exact ⟨rfl, rfl, rfl⟩
  obtain ⟨hresults, htask, halive⟩ := hsame
  exact ⟨by rw [hresults, htask]; exact h.nodup,
    by rw [hresults, htask, handles_finish]; exact h.apart,
    by rw [hresults, halive, handles_finish]; exact h.alive⟩

private theorem Tracked.step (h : Tracked d) (e : Event) : Tracked (step d e).1 := by
  cases e with
  | start ok => exact h.start ok
  | spawnNodeResult => exact h.spawnNodeResult
  | finish => exact h.finish

private theorem Tracked.run (h : Tracked d) (events : List Event) :
    Tracked (Machine.run SpawnRollback.step d events).1 := by
  induction events generalizing d with
  | nil => exact h
  | cons e events ih => exact ih (h.step e)

private theorem handles_stop : d.stop.handles = ∅ := by
  rw [Daemon.stop]
  split
  · next h => simp [Daemon.handles, h]
  · rfl

private theorem Tracked.stop (h : Tracked d) : Tracked d.stop := by
  refine ⟨?_, by simp [handles_stop], ?_⟩
  · rw [Daemon.stop]
    split <;> exact h.nodup
  · rw [handles_stop, Finset.union_empty, Daemon.stop]
    have halive := h.alive
    split
    · next hnone => simpa [Daemon.handles, hnone] using halive
    · next running hrunning =>
      have hdisjoint : Disjoint d.results.toFinset running := by
        refine Finset.disjoint_right.mpr fun n hn hmem => ?_
        refine h.apart n (by simpa [Daemon.handles, hrunning] using hn) ?_
        exact mem_append_left _ (mem_toFinset.mp hmem)
      rw [halive, Daemon.handles, hrunning, Option.getD_some, Finset.union_sdiff_right,
        Finset.sdiff_eq_self_of_disjoint hdisjoint]

/-- The parts before the first failure are cleaned up by the stop, and the part of the daemon that
failed needs none. -/
def Spares (exchanges : List Exchange) : Prop :=
  ∀ confirmed x rest, exchanges = confirmed ++ x :: rest →
    (∀ y ∈ confirmed, y.spawnReply.check = .ok ()) → x.spawnReply.check ≠ .ok () →
      (∀ y ∈ confirmed, y.connected → y.EntersNone true) ∧ (x.connected → x.EntersNone false)

end DoraSpec.Coordinator.SpawnRollback
