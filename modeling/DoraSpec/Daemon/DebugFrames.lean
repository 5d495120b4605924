import DoraSpec.Daemon.DropTokens

/-!
# Debug frames of watched outputs

Source `binaries/daemon/src/lib.rs:1825-1868, 2879-2942, 2999-3054, 4140-4183`: messages of outputs
that somebody watches go to the coordinator as well. A serialised event is represented by the event.
The content of the shared-memory regions at the time of a message is an input. The coordinator asks for
the messages only of dataflows that are inspected, `binaries/coordinator/src/lib.rs:2232-2320, 2455-2510`.
-/

namespace DoraSpec.Daemon.DebugFrames
open Base Message
open Node (NodeEvent DataMessage)
open Recording (Uuid)

/-- Shared-memory regions that can be opened. -/
abbrev Regions := String → Option (List UInt8)

/-- `InterDaemonEvent::Output`, `daemon_to_daemon.rs`. -/
structure OutputEvent where
  dataflowId : Uuid
  output : OutputId
  metadata : Metadata
  data : Option (List UInt8)

/-- `DaemonEvent::TopicDebugData`, `daemon_to_coordinator.rs:99-103`. -/
structure TopicDebugData where
  dataflowId : Uuid
  subscriptionIds : Finset Uuid
  payload : OutputEvent

/-- What `send_out` reads of a running dataflow; `running_dataflow.rs:177-222`. -/
structure Dataflow where
  tables : DropTokens.State := {}
  openExternalMappings : Finset OutputId := ∅
  enableDebugInspection : Bool := false
  debugTopicWatchers : OutputId → Option (Finset Uuid) := fun _ => none

/-- Tables of a daemon. -/
structure State where
  /-- The daemon has a coordinator. -/
  coordinatorSender : Bool
  running : Uuid → Option Dataflow := fun _ => none
  /-- The daemon has stopped with an error. -/
  failed : Bool := false

/-- What a message leads to: the events for local receivers and the frames for the coordinator. -/
structure Sent where
  delivered : List (NodeId × NodeEvent) := []
  frames : List TopicDebugData := []

/-- Events of a daemon. -/
inductive Event where
  | spawn (id : Uuid) (openExternalMappings : Finset OutputId) (enableDebugInspection : Bool)
  | finish (id : Uuid)
  | startTopicDebugStream (id : Uuid) (outputs : List OutputId) (subscriptionId : Uuid)
  | stopTopicDebugStream (id : Uuid) (subscriptionId : Uuid)
  /-- Any other event that changes mappings, channels or tokens. -/
  | tables (id : Uuid) (event : DropTokens.Event)
  | sendOut (id : Uuid) (output : OutputId) (metadata : Metadata) (data : Option DataMessage)
      (regions : Regions)

/-- Size of the region that a message lies in. -/
def regionSize (regions : Regions) : Option DataMessage → Option Nat
  | some (.sharedMemory id _ _) => (regions id).map List.length
  | _ => none

/-- Bytes for other daemons, if the region could be mapped; `lib.rs:4142-4168`. -/
def dataBytes (needDataBytes : Bool) (regions : Regions) : Option DataMessage → Option (List UInt8)
  | none => none
  | some (.vec bytes) => if needDataBytes then some bytes else none
  | some (.sharedMemory id len _) =>
    if needDataBytes then (regions id).map (·.take len) else none

/-- Inputs that get a copy of the message; `lib.rs:4037-4135`. -/
def receivers (owner : NodeId) (data : Option DataMessage) : DropTokens.State → List InputKey →
    List InputKey
  | _, [] => []
  | s, key :: keys =>
    let rest := receivers owner data (DropTokens.State.deliver owner data (s, []) key).1 keys
    match s.subscribeChannels key.1 with
    | none => rest
    | some channel =>
      if channel.capacity < DropTokens.controlEventHeadroom then rest
      else match channel.trySend with
        | .ok _ => key :: rest
        | .error _ => rest

namespace Dataflow

/-- `lib.rs:2891-2892`. -/
def remoteReceivers (df : Dataflow) (output : OutputId) : Bool :=
  output ∈ df.openExternalMappings || df.enableDebugInspection

/-- `StartTopicDebugStream`, `lib.rs:1825-1846`. -/
def watch (df : Dataflow) (outputs : List OutputId) (subscriptionId : Uuid) : Dataflow :=
  { df with debugTopicWatchers := fun output =>
      if output ∈ outputs then
        some (insert subscriptionId ((df.debugTopicWatchers output).getD ∅))
      else df.debugTopicWatchers output }

/-- `StopTopicDebugStream`, `lib.rs:1847-1868`. -/
def unwatch (df : Dataflow) (subscriptionId : Uuid) : Dataflow :=
  { df with debugTopicWatchers := fun output =>
      ((df.debugTopicWatchers output).map (·.erase subscriptionId)).filter (· ≠ ∅) }

end Dataflow

namespace State

def modify (s : State) (id : Uuid) (f : Dataflow → Dataflow) : State :=
  { s with running := Function.update s.running id ((s.running id).map f) }

/-- `send_topic_debug_frames`, `lib.rs:2999-3054`. -/
def sendTopicDebugFrames (s : State) (df : Dataflow) (event : OutputEvent) :
    List TopicDebugData :=
  if s.coordinatorSender then
    match df.debugTopicWatchers event.output with
    | none => []
    | some subscriptionIds =>
      [{ dataflowId := event.dataflowId, subscriptionIds, payload := event }]
  else []

/-- `send_out`, `lib.rs:2879-2942`; what other daemons get is left out. -/
def sendOut (s : State) (id : Uuid) (output : OutputId) (metadata : Metadata)
    (data : Option DataMessage) (regions : Regions) : State × Sent :=
  match s.running id with
  | none => ({ s with failed := true }, {})
  | some df =>
    let remoteReceivers := df.remoteReceivers output
    let region := regionSize regions data
    let tables := df.tables.sendOutputToLocalReceivers output data remoteReceivers region
    let delivered := (receivers output.1 data df.tables (df.tables.mappings output)).map
      fun key => (key.1, NodeEvent.input key.2 metadata data)
    let s := s.modify id fun df => { df with tables }
    match DropTokens.State.mapError remoteReceivers region data with
    | some _ => ({ s with failed := true }, { delivered })
    | none =>
      let event : OutputEvent :=
        { dataflowId := id, output, metadata, data := dataBytes remoteReceivers regions data }
      (s, { delivered, frames := s.sendTopicDebugFrames df event })

end State

/-- One event. A daemon that has stopped does nothing any more. -/
def step (s : State) (e : Event) : State × Sent :=
  if s.failed then (s, {})
  else match e with
    | .spawn id openExternalMappings enableDebugInspection =>
      let df : Dataflow := { openExternalMappings, enableDebugInspection }
      ({ s with running := Function.update s.running id (some df) }, {})
    | .finish id => ({ s with running := Function.update s.running id none }, {})
    | .startTopicDebugStream id outputs subscriptionId =>
      (s.modify id (·.watch outputs subscriptionId), {})
    | .stopTopicDebugStream id subscriptionId => (s.modify id (·.unwatch subscriptionId), {})
    | .tables _ (.sendOut ..) => (s, {})
    | .tables id event =>
      (s.modify id fun df => { df with tables := DropTokens.transition df.tables event }, {})
    | .sendOut id output metadata data regions => s.sendOut id output metadata data regions

/-! ## What the watchers see -/

/-- Bytes that a receiver of the message gets, unless it cannot read the region. -/
def payload (regions : Regions) : Option DataMessage → Option (List UInt8)
  | none => some []
  | some (.vec bytes) => some bytes
  | some (.sharedMemory id len _) =>
    (regions id).bind fun region => if region.length < len then none else some (region.take len)

/-- The local receivers and the watchers get the message. -/
structure Sent.Agrees (regions : Regions) (metadata : Metadata) (data : Option DataMessage)
    (sent : Sent) : Prop where
  delivered : ∀ r ∈ sent.delivered, ∃ id, r.2 = .input id metadata data
  metadata : ∀ frame ∈ sent.frames, frame.payload.metadata = metadata
  payload : ∀ frame ∈ sent.frames, ∀ bytes, payload regions data = some bytes →
    frame.payload.data.getD [] = bytes

/-- What the step sends to the watchers is what local receivers get. If the daemon goes on, all
watchers of the output get it. -/
def FramesAgree (s : State) (e : Event) : Prop :=
  match e with
  | .sendOut id output metadata data regions =>
    (step s e).2.Agrees regions metadata data ∧
      ∀ df watchers, s.running id = some df → df.debugTopicWatchers output = some watchers →
        s.coordinatorSender → (step s e).1.failed = false →
          ∃ frame ∈ (step s e).2.frames, frame.subscriptionIds = watchers
  | _ => True

variable {data : Option DataMessage} {regions : Regions} {id : Uuid} {output : OutputId} {s : State}

private theorem dataBytes_of_payload {bytes : List UInt8} (h : payload regions data = some bytes) :
    (dataBytes true regions data).getD [] = bytes := by
  cases data with
  | none => simpa [payload, dataBytes] using h
  | some message =>
    cases message with
    | vec b => simpa [payload, dataBytes] using h
    | sharedMemory id len token =>
      obtain ⟨region, hr, hregion⟩ := Option.bind_eq_some_iff.mp h
      split at hregion
      · cases hregion
      · simpa [dataBytes, hr] using hregion

private theorem frames_sendOut {metadata : Metadata} {frame : TopicDebugData}
    (h : frame ∈ (s.sendOut id output metadata data regions).2.frames) :
    ∃ df, s.running id = some df ∧ s.coordinatorSender = true ∧
      (df.debugTopicWatchers output).isSome ∧
      frame.payload = { dataflowId := id, output, metadata,
                        data := dataBytes (df.remoteReceivers output) regions data } := by
  unfold State.sendOut at h
  cases hdf : s.running id with
  | none => simp [hdf] at h
  | some df =>
    simp only [hdf] at h
    cases hmap : DropTokens.State.mapError (df.remoteReceivers output) (regionSize regions data)
        data with
    | some err => simp [hmap] at h
    | none =>
      simp only [hmap, State.sendTopicDebugFrames, State.modify] at h
      cases hcoord : s.coordinatorSender with
      | false => simp [hcoord] at h
      | true =>
        cases hw : df.debugTopicWatchers output with
        | none => simp [hcoord, hw] at h
        | some watchers =>
          simp only [hcoord, hw, if_true, List.mem_singleton] at h
          subst h
          exact ⟨df, rfl, rfl, by simp [hw], rfl⟩

private theorem delivered_sendOut {metadata : Metadata} {r : NodeId × NodeEvent}
    (h : r ∈ (s.sendOut id output metadata data regions).2.delivered) :
    ∃ input, r.2 = .input input metadata data := by
  unfold State.sendOut at h
  cases hdf : s.running id with
  | none => simp [hdf] at h
  | some df =>
    simp only [hdf] at h
    cases hmap : DropTokens.State.mapError (df.remoteReceivers output) (regionSize regions data)
        data <;>
    · simp only [hmap] at h
      obtain ⟨key, -, rfl⟩ := List.mem_map.mp h
      exact ⟨key.2, rfl⟩

private theorem exists_frame {metadata : Metadata} {df : Dataflow} {watchers : Finset Uuid}
    (hdf : s.running id = some df) (hw : df.debugTopicWatchers output = some watchers)
    (hcoord : s.coordinatorSender)
    (hgoes : (s.sendOut id output metadata data regions).1.failed = false) :
    ∃ frame ∈ (s.sendOut id output metadata data regions).2.frames,
      frame.subscriptionIds = watchers := by
  cases hmap : DropTokens.State.mapError (df.remoteReceivers output) (regionSize regions data)
      data with
  | some err => simp [State.sendOut, hdf, hmap] at hgoes
  | none =>
    simp [State.sendOut, hdf, hmap, State.sendTopicDebugFrames, State.modify, hcoord, hw]

/-! ## What the coordinator asks for -/

/-- Events of a daemon that are messages of the coordinator. -/
def Event.fromCoordinator : Event → Bool
  | .spawn .. | .startTopicDebugStream .. | .stopTopicDebugStream .. => true
  | _ => false

/-- What the coordinator keeps of its dataflows for a daemon, and the messages to the daemon. -/
structure Coordinator where
  running : List Uuid := []
  /-- Subscriptions of each dataflow with their outputs; `state.rs:194`. -/
  topicSubscribers : List (Uuid × Uuid × List OutputId) := []
  sent : List Event := []

-- `_unstable_debug.enable_debug_inspection` of the descriptor of each dataflow
variable (inspected : Uuid → Bool)

namespace Coordinator

/-- The daemon takes the flag from the descriptor that it gets; `running_dataflow.rs:270`. -/
def start (c : Coordinator) (id : Uuid) (openExternalMappings : Finset OutputId) : Coordinator :=
  { c with running := id :: c.running
           sent := .spawn id openExternalMappings (inspected id) :: c.sent }

def finish (c : Coordinator) (id : Uuid) : Coordinator :=
  { c with running := c.running.filter (· ≠ id)
           topicSubscribers := c.topicSubscribers.filter (·.1 ≠ id) }

/-- `start_topic_debug_stream`, `lib.rs:2232-2313`, or an error. -/
def startTopicDebugStream (c : Coordinator) (id : Uuid) (outputs : List OutputId)
    (subscriptionId : Uuid) : Option Coordinator :=
  if id ∉ c.running then none
  else if !inspected id then none
  else some { c with
    topicSubscribers := (id, subscriptionId, outputs) :: c.topicSubscribers
    sent := .startTopicDebugStream id outputs subscriptionId :: c.sent }

/-- `stop_topic_debug_stream` and `rollback_topic_debug_stream`, `lib.rs:2322-2440`. -/
def stopTopicDebugStream (c : Coordinator) (id subscriptionId : Uuid) : Coordinator :=
  { c with topicSubscribers := c.topicSubscribers.filter (·.2.1 ≠ subscriptionId)
           sent := .stopTopicDebugStream id subscriptionId :: c.sent }

/-- `restore_topic_debug_streams_for_daemon`, `lib.rs:2455-2510`. -/
def restore (c : Coordinator) (reported : List Uuid) : Coordinator :=
  let streams := c.topicSubscribers.filter (·.1 ∈ reported)
  { c with sent := streams.map (fun t => .startTopicDebugStream t.1 t.2.2 t.2.1) ++ c.sent }

end Coordinator

/-- A daemon with its coordinator. -/
structure System where
  coordinator : Coordinator := {}
  daemon : State

/-- Steps of both sides. -/
inductive SystemEvent where
  | start (id : Uuid) (openExternalMappings : Finset OutputId)
  | finish (id : Uuid)
  | subscribe (id : Uuid) (outputs : List OutputId) (subscriptionId : Uuid)
  | unsubscribe (id subscriptionId : Uuid)
  | reconnect (reported : List Uuid)
  /-- Some message of the coordinator arrives, however late or often. -/
  | arrive (index : Nat)
  /-- Any event of the daemon that is no message of the coordinator. -/
  | daemon (event : Event)

namespace System

def handle (s : System) (e : Event) : System × Sent :=
  ({ s with daemon := (step s.daemon e).1 }, (step s.daemon e).2)

/-- One step. -/
def step (s : System) : SystemEvent → System × Sent
  | .start id mappings => ({ s with coordinator := s.coordinator.start inspected id mappings }, {})
  | .finish id => ({ s with coordinator := s.coordinator.finish id }, {})
  | .subscribe id outputs subscriptionId =>
    ({ s with coordinator := (s.coordinator.startTopicDebugStream inspected id outputs
        subscriptionId).getD s.coordinator }, {})
  | .unsubscribe id subscriptionId =>
    ({ s with coordinator := s.coordinator.stopTopicDebugStream id subscriptionId }, {})
  | .reconnect reported => ({ s with coordinator := s.coordinator.restore reported }, {})
  | .arrive index => (s.coordinator.sent[index]?).elim (s, {}) s.handle
  | .daemon event => if event.fromCoordinator then (s, {}) else s.handle event

/-- The messages of nodes go to the watchers as they go to local receivers. -/
def FramesAgree (s : System) : SystemEvent → Prop
  | .daemon event => event.fromCoordinator = false → DebugFrames.FramesAgree s.daemon event
  | _ => True

end System

private def Event.Allowed : Event → Prop
  | .spawn id _ enableDebugInspection => enableDebugInspection = inspected id
  | .startTopicDebugStream id _ _ => inspected id = true
  | _ => True

private structure Dataflow.Gated (flag : Bool) (df : Dataflow) : Prop where
  same : df.enableDebugInspection = flag
  watched : ∀ output, (df.debugTopicWatchers output).isSome → flag = true

private def State.Gated (s : State) : Prop :=
  ∀ id df, s.running id = some df → df.Gated (inspected id)

private structure System.Gated (s : System) : Prop where
  subscribed : ∀ t ∈ s.coordinator.topicSubscribers, inspected t.1 = true
  sent : ∀ e ∈ s.coordinator.sent, e.Allowed inspected
  daemon : s.daemon.Gated inspected

variable {inspected}

private theorem State.Gated.update (h : s.Gated inspected) {df : Option Dataflow}
    (hdf : ∀ d ∈ df, d.Gated (inspected id)) :
    State.Gated inspected { s with running := Function.update s.running id df } := by
  intro id' d hd
  dsimp only at hd
  by_cases heq : id' = id
  · subst heq
    exact hdf d (by simpa using hd)
  · exact h id' d (by simpa [heq] using hd)

private theorem State.Gated.modify (h : s.Gated inspected) {f : Dataflow → Dataflow}
    (hf : ∀ df : Dataflow, df.Gated (inspected id) → (f df).Gated (inspected id)) :
    (s.modify id f).Gated inspected := by
  refine h.update fun d hd => ?_
  obtain ⟨df, hdf, rfl⟩ := Option.map_eq_some_iff.mp hd
  exact hf df (h id df hdf)

private theorem State.Gated.step (h : s.Gated inspected) {e : Event} (he : e.Allowed inspected) :
    (step s e).1.Gated inspected := by
  unfold DebugFrames.step
  split
  · exact h
  · cases e with
    | spawn id mappings flag => exact h.update (by rintro _ ⟨⟩; exact ⟨he, by simp⟩)
    | finish id => exact h.update nofun
    | startTopicDebugStream id outputs subscription =>
      exact h.modify fun df hdf => ⟨hdf.same, fun _ _ => he⟩
    | stopTopicDebugStream id subscription =>
      refine h.modify fun df hdf => ⟨hdf.same, fun output hw => hdf.watched output ?_⟩
      obtain ⟨watchers, hwatchers⟩ := Option.isSome_iff_exists.mp hw
      obtain ⟨old, hold, -⟩ := Option.map_eq_some_iff.mp (Option.filter_eq_some_iff.mp hwatchers).1
      simp [hold]
    | tables id event => cases event <;> first | exact h | exact h.modify fun df hdf => ⟨hdf.1, hdf.2⟩
    | sendOut id output metadata data regions =>
      have hkeep (tables : DropTokens.State) :
          (s.modify id fun df => { df with tables }).Gated inspected :=
        h.modify fun df hdf => ⟨hdf.same, hdf.watched⟩
      change (s.sendOut id output metadata data regions).1.Gated inspected
      fun_cases State.sendOut s id output metadata data regions with
      | case1 => exact h
      | case2 | case3 => exact hkeep _

private theorem System.Gated.handle {s : System} (h : s.Gated inspected) {e : Event}
    (he : e.Allowed inspected) : (s.handle e).1.Gated inspected :=
  ⟨h.subscribed, h.sent, h.daemon.step he⟩

private theorem startTopicDebugStream_eq_some {c c' : Coordinator} {outputs : List OutputId}
    {subscription : Uuid} :
    c.startTopicDebugStream inspected id outputs subscription = some c' ↔
      id ∈ c.running ∧ inspected id = true ∧
        { c with
          topicSubscribers := (id, subscription, outputs) :: c.topicSubscribers
          sent := .startTopicDebugStream id outputs subscription :: c.sent } = c' := by
  simp [Coordinator.startTopicDebugStream]

private theorem System.Gated.step {s : System} (h : s.Gated inspected) (e : SystemEvent) :
    (System.step inspected s e).1.Gated inspected := by
  cases e with
  | start id mappings => exact ⟨h.subscribed, List.forall_mem_cons.mpr ⟨rfl, h.sent⟩, h.daemon⟩
  | finish id => exact ⟨fun t ht => h.subscribed t (List.mem_of_mem_filter ht), h.sent, h.daemon⟩
  | subscribe id outputs subscription =>
    cases hstart : s.coordinator.startTopicDebugStream inspected id outputs subscription with
    | none => simpa [System.step, hstart] using h
    | some c =>
      simp only [System.step, hstart, Option.getD_some]
      obtain ⟨-, hflag, rfl⟩ := startTopicDebugStream_eq_some.mp hstart
      exact ⟨List.forall_mem_cons.mpr ⟨hflag, h.subscribed⟩,
        List.forall_mem_cons.mpr ⟨hflag, h.sent⟩, h.daemon⟩
  | unsubscribe id subscription =>
    exact ⟨fun t ht => h.subscribed t (List.mem_of_mem_filter ht),
      List.forall_mem_cons.mpr ⟨trivial, h.sent⟩, h.daemon⟩
  | reconnect reported =>
    refine ⟨h.subscribed, fun e he => ?_, h.daemon⟩
    rcases List.mem_append.mp he with he | he
    · obtain ⟨t, ht, rfl⟩ := List.mem_map.mp he
      exact h.subscribed t (List.mem_of_mem_filter ht)
    · exact h.sent e he
  | arrive index =>
    cases hmessage : s.coordinator.sent[index]? with
    | none => simpa [System.step, hmessage] using h
    | some e =>
      simpa [System.step, hmessage] using h.handle (h.sent e (List.mem_of_getElem? hmessage))
  | daemon event =>
    simp only [System.step]
    split
    · exact h
    · next hlocal => exact h.handle (by cases event <;> simp_all [Event.fromCoordinator, Event.Allowed])

private theorem State.Gated.framesAgree (h : s.Gated inspected) (e : Event) : FramesAgree s e := by
  cases e with
  | sendOut id output metadata data regions =>
    simp only [FramesAgree, DebugFrames.step]
    split
    · next hfailed => exact ⟨⟨nofun, nofun, nofun⟩, by simp [hfailed]⟩
    · refine ⟨⟨fun r hr => delivered_sendOut hr, fun frame hframe => ?_,
        fun frame hframe bytes hpay => ?_⟩, fun df watchers hdf hw hcoord => exists_frame hdf hw hcoord⟩
      · obtain ⟨df, -, -, -, hpayload⟩ := frames_sendOut hframe
        rw [hpayload]
      · obtain ⟨df, hdf, hcoord, hw, hpayload⟩ := frames_sendOut hframe
        have hdf := h id df hdf
        have hremote : df.remoteReceivers output = true := by
          simp [Dataflow.remoteReceivers, hdf.same, hdf.watched output hw]
        rw [hpayload, hremote]
        exact dataBytes_of_payload hpay
  | _ => trivial

/-- In every run of a daemon with its coordinator, the watchers of an output get the messages that the
local receivers get. -/
theorem debugFrames_agree (inspected : Uuid → Bool) (coordinatorSender : Bool)
    (events : List SystemEvent) :
    Machine.Along (System.step inspected) System.FramesAgree
      { daemon := { coordinatorSender } } events := by
  refine Machine.Along.imp (P := fun _ _ => True) _ (System.Gated inspected)
    (fun s e hs _ => ⟨?_, hs.step e⟩) ⟨nofun, nofun, nofun⟩
    (Machine.along_of_forall _ events (fun _ _ _ => trivial) _)
  cases e with
  | daemon event => exact fun _ => hs.daemon.framesAgree event
  | _ => trivial

end DoraSpec.Daemon.DebugFrames
