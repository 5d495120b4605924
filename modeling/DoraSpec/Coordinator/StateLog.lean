import DoraSpec.Base.Machine
import DoraSpec.Base.SequencedLog
import DoraSpec.Coordinator.Params

/-!
# The state log of a dataflow

Source `binaries/coordinator/src/state.rs:286-337` and `lib.rs:2083-2157, 2537-2633`, and
`binaries/daemon/src/lib.rs:1870-1913, 3815-3906`: how a daemon that missed changes of parameters
gets them again. The coordinator logs every change with a sequence number, sends a daemon what it
has not acknowledged, and replays the stored parameters if the log no longer reaches back. Messages
may be lost or late; the counters do not overflow.
-/

namespace DoraSpec.Coordinator.StateLog
open Base Message Store
open Recording (Uuid)

/-- Logged change; `coordinator_to_daemon.rs:20-23`. -/
abbrev StateCatchUpEntry := SequencedLog.Entry ParamOp

/-- Most entries of the log; `state.rs:286`. -/
def maxStateLogEntries : Nat := 10000

/-- What the catch-up uses of a running dataflow; `state.rs:166-219`. -/
structure RunningDataflow where
  daemons : List DaemonId
  nodeToDaemon : List (NodeId × DaemonId)
  stateLogSequence : Nat := 0
  stateLog : List StateCatchUpEntry := []
  daemonAckSequence : Std.ExtTreeMap DaemonId Nat := ∅

namespace RunningDataflow

/-- `append_state_log`, `state.rs:290-306`. -/
def appendStateLog (df : RunningDataflow) (operation : ParamOp) : RunningDataflow :=
  let sequence := df.stateLogSequence + 1
  let log := df.stateLog ++ [⟨sequence, operation⟩]
  { df with
    stateLogSequence := sequence
    stateLog := if maxStateLogEntries < log.length then log.drop (log.length - maxStateLogEntries)
      else log }

/-- Smallest acknowledged sequence number of the daemons that acknowledged one. -/
def minAck (df : RunningDataflow) : Nat :=
  (df.daemonAckSequence.toList.map Prod.snd).min?.getD 0

/-- `prune_state_log`, `state.rs:309-317`. -/
def pruneStateLog (df : RunningDataflow) : RunningDataflow :=
  { df with stateLog := df.stateLog.filter fun e => df.minAck < e.sequence }

/-- `state_log_delta`, `state.rs:322-337`. -/
def stateLogDelta (df : RunningDataflow) (lastAck : Nat) : Option (List StateCatchUpEntry) :=
  match df.stateLog with
  | [] => some []
  | oldest :: _ =>
    if lastAck + 1 < oldest.sequence then none
    else some (df.stateLog.filter fun e => lastAck < e.sequence)

/-- Acknowledged sequence number of a daemon. -/
def lastAck (df : RunningDataflow) (daemon : DaemonId) : Nat :=
  df.daemonAckSequence[daemon]?.getD 0

/-- Nodes of a daemon; `lib.rs:2564-2569`. -/
def nodesOn (df : RunningDataflow) (daemon : DaemonId) : List NodeId :=
  (df.nodeToDaemon.filter (·.2 = daemon)).map Prod.fst

/-- Acknowledgement of a daemon; `lib.rs:2143-2156`. -/
def acknowledge (df : RunningDataflow) (daemon : DaemonId) (ackSequence : Nat) : RunningDataflow :=
  if daemon ∈ df.daemons then
    let clamped := max (min ackSequence df.stateLogSequence) (df.lastAck daemon)
    pruneStateLog
      { df with daemonAckSequence := df.daemonAckSequence.insert daemon clamped }
  else df

end RunningDataflow

/-- Command on its way to a daemon. -/
inductive Command where
  | change (operation : ParamOp)
  | stateCatchUp (entries : List StateCatchUpEntry)
  deriving DecidableEq

/-- Message that a node was handed, and how many changes had been made by then. -/
structure Told where
  operation : ParamOp
  changesMade : Nat
  deriving DecidableEq

/-- The coordinator, the connections and the nodes. -/
structure State where
  dataflow : RunningDataflow
  store : InMemoryStore := {}
  commands : DaemonId → List Command := fun _ => []
  acks : DaemonId → List Nat := fun _ => []
  /-- Every change that was logged, oldest first. -/
  changes : List ParamOp := []
  told : List Told := []

/-- What the environment decides about a status report. -/
structure Report where
  /-- The connection takes messages. -/
  connected : Bool := true
  /-- The last fallback was long enough ago. -/
  due : Bool := true
  /-- The parameters of the node can be read. -/
  listed : NodeId → Bool := fun _ => true
  /-- The daemon confirms a replayed parameter. -/
  confirmed : ParamId → Bool := fun _ => true

/-- Input of the system. -/
inductive Input where
  | request (operation : ParamOp) (connected : Bool)
  | statusReport (daemon : DaemonId) (report : Report)
  | receiveAck (daemon : DaemonId)
  /-- The daemon handles a command; the channel of a node takes the message with a sequence number,
  or does not. -/
  | handleCommand (daemon : DaemonId) (accepts : Nat → Bool)
  | startupReplay (daemon : DaemonId) (id : ParamId) (value : List UInt8)
  | loseCommand (daemon : DaemonId)
  | loseAck (daemon : DaemonId)

/-- Entries that a daemon delivers, up to the first node that does not take one;
`apply_state_catch_up_entries`, `daemon/src/lib.rs:3815-3906`. -/
def applyStateCatchUpEntries (nodes : List NodeId) (accepts : Nat → Bool)
    (entries : List StateCatchUpEntry) : List StateCatchUpEntry :=
  entries.takeWhile fun e => e.operation.id.nodeId ∈ nodes && accepts e.sequence

/-- Sequence number of the last delivered entry, if any. -/
def appliedThrough (delivered : List StateCatchUpEntry) : Nat :=
  (delivered.getLast?.map (·.sequence)).getD 0

namespace State

/-- Put a command on the connection of a daemon. -/
def send (s : State) (daemon : DaemonId) (command : Command) : State :=
  { s with commands := Function.update s.commands daemon (s.commands daemon ++ [command]) }

/-- Hand messages to nodes. -/
def tell (s : State) (operations : List ParamOp) : State :=
  { s with told := s.told ++ operations.map fun op => ⟨op, s.changes.length⟩ }

/-- Change of a parameter; `lib.rs:1173-1226` and `lib.rs:1236-1287`. -/
def request (dataflowId : Uuid) (s : State) (operation : ParamOp) (connected : Bool) : State :=
  match s.dataflow.nodeToDaemon.lookup operation.id.nodeId with
  | none => s
  | some daemon =>
    match persist dataflowId s.store operation with
    | .error _ => s
    | .ok store =>
      let s := { s with
        store
        dataflow := s.dataflow.appendStateLog operation
        changes := s.changes ++ [operation] }
      if connected then s.send daemon (.change operation) else s

/-- Parameters that a fallback replays; `collect_param_replay_items`, `lib.rs:2608-2633`. -/
def replayItems (dataflowId : Uuid) (s : State) (daemon : DaemonId) (report : Report) :
    List (ParamId × List UInt8) :=
  ((s.dataflow.nodesOn daemon).filter (report.listed ·)).flatMap (collectParams dataflowId s.store)

/-- Replay of the stored parameters; `handle_pruned_state_catchup_fallback`, `lib.rs:2537-2606`. A
parameter whose confirmation does not come in time may still be on its way. -/
def fallback (dataflowId : Uuid) (s : State) (daemon : DaemonId) (report : Report) : State :=
  if report.due && report.connected then
    let items := s.replayItems dataflowId daemon report
    let op : ParamId × List UInt8 → ParamOp := fun item => .setParam item.1 item.2
    let confirmed := items.filter (report.confirmed ·.1)
    let failed := items.filter (!report.confirmed ·.1)
    let s := (failed.map op).foldl (fun s op => s.send daemon (.change op)) (s.tell (confirmed.map op))
    if failed.isEmpty then
      { s with dataflow := { s.dataflow with
          daemonAckSequence :=
            s.dataflow.daemonAckSequence.insert daemon s.dataflow.stateLogSequence } }
    else s
  else s

/-- Catch-up after a daemon reported the dataflow as running; `lib.rs:2083-2134`. -/
def statusReport (dataflowId : Uuid) (s : State) (daemon : DaemonId) (report : Report) : State :=
  let lastAck := s.dataflow.lastAck daemon
  if daemon ∉ s.dataflow.daemons ∨ s.dataflow.stateLogSequence ≤ lastAck then s
  else
    match s.dataflow.stateLogDelta lastAck with
    | some [] => s
    | some entries => if report.connected then s.send daemon (.stateCatchUp entries) else s
    | none => s.fallback dataflowId daemon report

/-- A daemon handles a command; `daemon/src/lib.rs:202-241` and `lib.rs:1870-1913`. -/
def handleCommand (s : State) (daemon : DaemonId) (accepts : Nat → Bool) : Command → State
  | .change operation =>
    if operation.id.nodeId ∈ s.dataflow.nodesOn daemon ∧ accepts 0 then
      s.tell [operation]
    else s
  | .stateCatchUp entries =>
    let delivered := applyStateCatchUpEntries (s.dataflow.nodesOn daemon) accepts entries
    let s := s.tell (delivered.map (·.operation))
    if 0 < appliedThrough delivered then
      { s with acks := Function.update s.acks daemon (s.acks daemon ++ [appliedThrough delivered]) }
    else s

end State

/-- One step of the system. -/
def step (dataflowId : Uuid) (s : State) : Input → State × Unit
  | .request operation connected => (s.request dataflowId operation connected, ())
  | .statusReport daemon report => (s.statusReport dataflowId daemon report, ())
  | .receiveAck daemon =>
    match s.acks daemon with
    | [] => (s, ())
    | n :: acks => ({ s with
        acks := Function.update s.acks daemon acks
        dataflow := s.dataflow.acknowledge daemon n }, ())
  | .handleCommand daemon accepts =>
    match s.commands daemon with
    | [] => (s, ())
    | command :: commands =>
      (({ s with commands := Function.update s.commands daemon commands } : State).handleCommand
        daemon accepts command, ())
  | .startupReplay daemon id value => (s.send daemon (.change (.setParam id value)), ())
  | .loseCommand daemon =>
    ({ s with commands := Function.update s.commands daemon (s.commands daemon).tail }, ())
  | .loseAck daemon =>
    ({ s with acks := Function.update s.acks daemon (s.acks daemon).tail }, ())

/-- A dataflow that was just started; `handlers.rs:598-628`. -/
def start (daemons : List DaemonId) (nodeToDaemon : List (NodeId × DaemonId))
    (store : InMemoryStore) : State where
  dataflow := { daemons, nodeToDaemon, daemonAckSequence := daemons.foldl (·.insert · 0) ∅ }
  store := store

/-! ## Settled changes -/

/-- The change was made, and a node was told of it afterwards. -/
def Reached (s : State) (j : Nat) (operation : ParamOp) : Prop :=
  s.changes[j]? = some operation ∧
    ∃ told ∈ s.told, told.operation = operation ∧ j < told.changesMade

/-- The change of a parameter, or a later one of it, has reached the node. -/
def Settled (s : State) (i : Nat) (id : ParamId) : Prop :=
  ∃ j operation, i ≤ j ∧ operation.id = id ∧ Reached s j operation

/-- The first `n` changes are settled as far as they concern nodes of the daemon. -/
def SettledUpTo (s : State) (daemon : DaemonId) (n : Nat) : Prop :=
  n ≤ s.changes.length ∧ ∀ i < n, ∀ operation, s.changes[i]? = some operation →
    operation.id.nodeId ∈ s.dataflow.nodesOn daemon → Settled s i operation.id

/-- What a daemon has acknowledged is settled. -/
def AcksSettled (s : State) : Prop :=
  ∀ daemon, SettledUpTo s daemon (s.dataflow.lastAck daemon)

end DoraSpec.Coordinator.StateLog
