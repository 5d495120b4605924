import Mathlib.Data.Finset.Basic
import DoraSpec.Base.Machine
import DoraSpec.Store.CoordinatorStore

/-!
# Stopping and checking dataflows

Source `binaries/coordinator/src/lib.rs`, the events of the main loop that change which daemons a
dataflow runs on, and `handlers.rs:35-68, 213-256`. A dataflow runs on several daemons, each of
which reports when its part has finished. The state has also the daemons on which nodes of a
dataflow really run, which the coordinator cannot see: a daemon that loses its coordinator drops its
dataflows without a report.
-/

namespace DoraSpec.Coordinator.Lifecycle
open Message Store
open Recording (Uuid)
open Std (ExtTreeMap)

/-- Result of each node; `daemon_to_coordinator.rs:182-185`. -/
abbrev NodeResults := ExtTreeMap NodeId (Except String Unit)

/-- Client that waits for an answer. -/
abbrev Client := Nat

/-- What the events use of a running dataflow; `state.rs:172-219`. -/
structure RunningDataflow where
  name : Option String := none
  daemons : List DaemonId
  stopReplySenders : List Client := []

/-- Tables of the main loop; `lib.rs:267-274`. -/
structure State where
  runningDataflows : ExtTreeMap Uuid RunningDataflow := ∅
  dataflowResults : ExtTreeMap Uuid (ExtTreeMap DaemonId NodeResults) := ∅
  archivedDataflows : List (Uuid × Option String) := []
  daemonConnections : Finset DaemonId := ∅
  /-- Daemons that run nodes of the dataflow. -/
  active : Uuid → Finset DaemonId := fun _ => ∅

/-- Answer to a client; `coordinator_to_cli.rs:20-110`. -/
inductive ControlRequestReply where
  | dataflowStartTriggered (uuid : Uuid)
  | dataflowSpawned (uuid : Uuid)
  | dataflowStopped (uuid : Uuid) (result : NodeResults)
  | dataflowRestarted (oldUuid newUuid : Uuid)

/-- What a step sends: answers to clients, and stop commands to daemons. -/
structure Output where
  answers : List (Client × Except String ControlRequestReply) := []
  stopsSent : List (Uuid × DaemonId) := []

/-- Event of the main loop. -/
inductive Event where
  /-- A dataflow was spawned on its daemons. -/
  | start (client : Client) (uuid : Uuid) (name : Option String) (daemons : List DaemonId)
  | dataflowFinishedOnDaemon (uuid : Uuid) (daemon : DaemonId) (result : NodeResults)
  /-- Each daemon has its reply to the stop command. -/
  | stop (client : Client) (uuid : Uuid) (replies : DaemonId → Except String Unit)
  | stopByName (client : Client) (name : String) (replies : DaemonId → Except String Unit)
  | restart (client : Client) (uuid : Uuid) (replies : DaemonId → Except String Unit)
    (spawned : Except String (Uuid × List DaemonId))
  | check (client : Client) (uuid : Uuid)
  | register (daemon : DaemonId)
  | daemonExit (daemon : DaemonId)
  /-- Daemons whose heartbeat is overdue. -/
  | heartbeatInterval (disconnected : List DaemonId)
  /-- Missing nodes are spawned again. -/
  | recover (uuid : Uuid) (daemon : DaemonId)
  /-- A daemon drops its dataflows. -/
  | dropDataflows (daemon : DaemonId)

/-- Results of all daemons together; `dataflow_result`, `handlers.rs:139-157`. -/
def dataflowResult (results : ExtTreeMap DaemonId NodeResults) : NodeResults :=
  results.toList.foldl (fun all r => r.2.toList.foldl (fun all e => all.insert e.1 e.2) all) ∅

/-- Send the stop command to one daemon after the other, until one fails; the loop of
`stop_dataflow`, `handlers.rs:234-250`. -/
def sendStops (connections : Finset DaemonId) (replies : DaemonId → Except String Unit) :
    List DaemonId → List DaemonId × Except String Unit
  | [] => ([], .ok ())
  | daemon :: daemons =>
    if daemon ∈ connections then
      match replies daemon with
      | .ok () =>
        let (sent, result) := sendStops connections replies daemons
        (daemon :: sent, result)
      | .error e => ([daemon], .error s!"failed to stop dataflow: {e}")
    else ([], .error "no daemon connection")

/-- Running dataflow or else archived dataflow of a name; `resolve_name`, `handlers.rs:35-68`. -/
def resolveName (s : State) (name : String) : Except String Uuid :=
  match (s.runningDataflows.toList.filter (·.2.name = some name)).map Prod.fst with
  | [uuid] => .ok uuid
  | [] =>
    match (s.archivedDataflows.filter (·.2 = some name)).map Prod.fst with
    | [] => .error s!"no dataflow with name `{name}`"
    | [uuid] => .ok uuid
    | _ => .error (s!"multiple archived dataflows found with name `{name}`, " ++
        "Please provide the UUID instead.")
  | _ => .error s!"multiple dataflows found with name `{name}`"

/-- Most archived dataflows; `lib.rs:479`. -/
def maxArchivedDataflows : Nat := 200

/-- Archive a finished dataflow, and forget the oldest ones; `lib.rs:475-482`. -/
def archive (archived : List (Uuid × Option String)) (uuid : Uuid) (name : Option String) :
    List (Uuid × Option String) :=
  let archived := if archived.any (·.1 = uuid) then archived else archived ++ [(uuid, name)]
  archived.drop (archived.length - maxArchivedDataflows)

namespace State

/-- Results that were reported so far; `lib.rs:509-517`. -/
def resultOf (s : State) (uuid : Uuid) : NodeResults :=
  dataflowResult (s.dataflowResults[uuid]?.getD ∅)

/-- Daemons that stop running nodes of a dataflow. -/
def deactivate (s : State) (uuid : Uuid) (daemon : DaemonId) : State :=
  { s with active := Function.update s.active uuid ((s.active uuid).erase daemon) }

/-- A daemon has finished its part of a dataflow; `lib.rs:457-580`. -/
def finishedOnDaemon (s : State) (uuid : Uuid) (daemon : DaemonId) (result : NodeResults) :
    State × Output :=
  match s.runningDataflows[uuid]? with
  | none => (s.deactivate uuid daemon, {})
  | some df =>
    let df := { df with daemons := df.daemons.filter (· ≠ daemon) }
    let results := (s.dataflowResults[uuid]?.getD ∅).insert daemon result
    let s := { s.deactivate uuid daemon with
      dataflowResults := s.dataflowResults.insert uuid results }
    if df.daemons.isEmpty then
      ({ s with
          runningDataflows := s.runningDataflows.erase uuid
          archivedDataflows := archive s.archivedDataflows uuid df.name },
        { answers := df.stopReplySenders.map fun client =>
            (client, .ok (.dataflowStopped uuid (dataflowResult results))) })
    else ({ s with runningDataflows := s.runningDataflows.insert uuid df }, {})

/-- A client asks to stop a dataflow; `lib.rs:784-824` and `handlers.rs:213-256`. -/
def stop (s : State) (client : Client) (uuid : Uuid) (replies : DaemonId → Except String Unit) :
    State × Output :=
  match s.dataflowResults[uuid]? with
  | some results => (s, { answers := [(client, .ok (.dataflowStopped uuid (dataflowResult results)))] })
  | none =>
    match s.runningDataflows[uuid]? with
    | none => (s, { answers :=
        [(client, .error s!"no known running dataflow found with UUID `{uuidText uuid}`")] })
    | some df =>
      let (sent, result) := sendStops s.daemonConnections replies df.daemons
      let stopsSent := sent.map (uuid, ·)
      match result with
      | .ok () =>
        let df := { df with stopReplySenders := df.stopReplySenders ++ [client] }
        ({ s with runningDataflows := s.runningDataflows.insert uuid df }, { stopsSent })
      | .error e => (s, { answers := [(client, .error e)], stopsSent })

/-- Start a dataflow under an identifier that was not used before; `lib.rs:671-687`. -/
def start (s : State) (uuid : Uuid) (name : Option String) (daemons : List DaemonId) : State :=
  { s with
    runningDataflows := s.runningDataflows.insert uuid { name, daemons }
    active := Function.update s.active uuid daemons.toFinset }

/-- The identifier was not used before. -/
def Unused (s : State) (uuid : Uuid) : Prop :=
  uuid ∉ s.runningDataflows ∧ uuid ∉ s.dataflowResults ∧ s.active uuid = ∅

instance (s : State) (uuid : Uuid) : Decidable (s.Unused uuid) :=
  inferInstanceAs (Decidable (_ ∧ _ ∧ _))

/-- Stop a dataflow and start it again under a new identifier; `restart_dataflow`,
`lib.rs:3909-3980`. -/
def restart (s : State) (client : Client) (uuid : Uuid) (replies : DaemonId → Except String Unit)
    (spawned : Except String (Uuid × List DaemonId)) : State × Output :=
  match s.runningDataflows[uuid]? with
  | none => (s, { answers :=
      [(client, .error s!"no running dataflow with UUID `{uuidText uuid}`")] })
  | some df =>
    let (sent, result) := sendStops s.daemonConnections replies df.daemons
    let stopsSent := sent.map (uuid, ·)
    match result, spawned with
    | .error e, _ => (s, { answers := [(client, .error e)], stopsSent })
    | .ok (), .error e => (s, { answers := [(client, .error e)], stopsSent })
    | .ok (), .ok (newUuid, daemons) =>
      if s.Unused newUuid then
        let s := { s with runningDataflows := s.runningDataflows.erase uuid }
        (s.start newUuid df.name daemons,
          { answers := [(client, .ok (.dataflowRestarted uuid newUuid))], stopsSent })
      else (s, {})

/-- A client asks whether a dataflow runs; `lib.rs:699-718`. -/
def check (s : State) (uuid : Uuid) : ControlRequestReply :=
  if uuid ∈ s.runningDataflows then .dataflowSpawned uuid else .dataflowStopped uuid (s.resultOf uuid)

/-- Forget daemons whose heartbeat is overdue; `lib.rs:1674-1695`. -/
def disconnect (s : State) (disconnected : List DaemonId) : State :=
  { s with
    daemonConnections := s.daemonConnections \ disconnected.toFinset
    runningDataflows := s.runningDataflows.map fun _ df =>
      { df with daemons := df.daemons.filter (· ∉ disconnected) } }

end State

/-- One turn of the main loop, or an event on a daemon. -/
def step (s : State) : Event → State × Output
  | .start client uuid name daemons =>
    if s.Unused uuid then
      (s.start uuid name daemons, { answers := [(client, .ok (.dataflowStartTriggered uuid))] })
    else (s, {})
  | .dataflowFinishedOnDaemon uuid daemon result => s.finishedOnDaemon uuid daemon result
  | .stop client uuid replies => s.stop client uuid replies
  | .stopByName client name replies =>
    match resolveName s name with
    | .ok uuid => s.stop client uuid replies
    | .error e => (s, { answers := [(client, .error e)] })
  | .restart client uuid replies spawned => s.restart client uuid replies spawned
  | .check client uuid => (s, { answers := [(client, .ok (s.check uuid))] })
  | .register daemon => ({ s with daemonConnections := insert daemon s.daemonConnections }, {})
  -- `lib.rs:1818-1824`
  | .daemonExit daemon => ({ s with daemonConnections := s.daemonConnections.erase daemon }, {})
  | .heartbeatInterval disconnected => (s.disconnect disconnected, {})
  -- `lib.rs:2024-2081`
  | .recover uuid daemon =>
    match s.runningDataflows[uuid]? with
    | none => (s, {})
    | some df =>
      if daemon ∈ df.daemons then
        ({ s with active := Function.update s.active uuid (insert daemon (s.active uuid)) }, {})
      else (s, {})
  | .dropDataflows daemon => ({ s with active := fun uuid => (s.active uuid).erase daemon }, {})

/-- Dataflow that a stop request is about. -/
def stopTarget (s : State) : Event → Option Uuid
  | .stop _ uuid _ => some uuid
  | .stopByName _ name _ => (resolveName s name).toOption
  | _ => none

/-- A dataflow that is said to have stopped runs on no daemon, and a stop request is forwarded to
every connected daemon that runs the dataflow. -/
structure Right (s : State) (event : Event) : Prop where
  stopped : ∀ client uuid result,
    (client, .ok (.dataflowStopped uuid result)) ∈ (step s event).2.answers →
      (step s event).1.active uuid = ∅
  forwarded : ∀ uuid ∈ stopTarget s event, ∀ daemon ∈ s.active uuid,
    daemon ∈ s.daemonConnections → (uuid, daemon) ∈ (step s event).2.stopsSent

end DoraSpec.Coordinator.Lifecycle
