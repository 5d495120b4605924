import DoraSpec.Node.SchedulerAccounting

/-!
# Event stream of a node

Source `apis/rust/node/src/event_stream/mod.rs`. Asynchronous code is modelled by its polls: a
schedule lists, for every poll made before the deadline, what has arrived in the channel since
the previous poll, and the deadline is the end of the schedule. The conversion of payloads to
Arrow arrays and the recording of events to a file are parameters.
-/

namespace DoraSpec.Node
open Base Message Arrow

/-- Code outside the stream that its functions call. -/
structure StreamEnv (Data : Type) where
  /-- `data_to_arrow_array`; an error is given by its debug text. -/
  dataToArrowArray : Option DataMessage → Metadata → Except String Data
  /-- `zenoh_payload_to_arrow_array`; an error is given by its debug text. -/
  zenohPayloadToArrowArray : List UInt8 → Metadata → Except String Data
  /-- `record_event`, which always succeeds when events are not written to a file. -/
  recordEvent : EventItem → Except String Unit

/-- Receiving half of the channel: queued items, and whether all senders are gone. -/
structure Receiver where
  items : List EventItem
  closed : Bool

/-- State of the stream; `mod.rs:62-90`. -/
structure EventStream (Data : Type) where
  receiver : Receiver
  scheduler : Scheduler
  useScheduler : Bool
  inputTypeChecks : AList fun _ : DataId => DataType
  pendingPassthrough : List (Event Data)

/-- What a poll of a receive returns. -/
inductive RecvPoll (Data : Type) where
  | pending
  | ready (event : Option (Event Data))
  | panicked (message : String)

/-- Items that arrived in the channel before a poll, and whether the senders have gone. -/
structure Arrival where
  items : List EventItem
  closed : Bool

/-- Failure of a pattern-aware wait; `error.rs:35-51`. -/
inductive PatternError where
  | timeout
  | serverRestarted (server : String)
  | streamEnded
  | streamError (message : String)
  deriving DecidableEq

/-- Classification of an event during a wait; `mod.rs:905-917`. -/
inductive CorrelationOutcome where
  | isMatch
  | serverRestarted
  | streamEnded
  | streamError (message : String)
  | passthrough
  deriving DecidableEq

/-- Decision about one event; `classify_correlation_event`, `mod.rs:919-936`. The error text of
an error event travels with the outcome. -/
def classifyCorrelationEvent {Data : Type} (event : Event Data) (expectedServer : NodeId)
    (isMatch : Event Data → Bool) : CorrelationOutcome :=
  if isMatch event then .isMatch
  else match event with
    | .nodeRestarted id => if id = expectedServer then .serverRestarted else .passthrough
    | .stop _ => .streamEnded
    | .error message => .streamError message
    | _ => .passthrough

/-- User event of a channel item; `convert_event_item`, `mod.rs:939-998`. -/
def convertEventItem {Data : Type} (env : StreamEnv Data) : EventItem → Event Data
  | .nodeEvent .stop => .stop .manual
  | .nodeEvent (.reload operatorId) => .reload operatorId
  | .nodeEvent (.inputClosed id) => .inputClosed id
  | .nodeEvent (.inputRecovered id) => .inputRecovered id
  | .nodeEvent (.nodeRestarted id) => .nodeRestarted id
  | .nodeEvent (.input id metadata data) =>
    match env.dataToArrowArray data metadata with
    | .ok array => .input id metadata array
    | .error err => .error err
  | .nodeEvent .allInputsClosed => .stop .allInputsClosed
  | .nodeEvent (.paramUpdate key value) => .paramUpdate key value
  | .nodeEvent (.paramDeleted key) => .paramDeleted key
  | .nodeEvent (.nodeFailed ids error source) => .nodeFailed ids error source
  | .zenohInput id metadata payload =>
    match env.zenohPayloadToArrowArray payload metadata with
    | .ok array => .input id metadata array
    | .error err => .error err
  | .fatalError report => .error s!"fatal event stream error: {report}"
  | .timeoutError report => .error s!"Timeout event stream error: {report}"

/-- The metadata marks a service or action message; `mod.rs:534-542`. -/
def isPatternMessage (metadata : Metadata) : Bool :=
  (metadata.parameters.lookup requestId).isSome ||
    (metadata.parameters.lookup goalId).isSome ||
    (metadata.parameters.lookup goalStatus).isSome

namespace EventStream

variable {Data : Type} (env : StreamEnv Data)

/-- First-message type check: it only warns, and is used up by the first input that is not a
pattern message; `mod.rs:527-565`. -/
def checkInputType (s : EventStream Data) : Option (Event Data) → EventStream Data
  | some (.input id metadata _) =>
    if isPatternMessage metadata then s
    else { s with inputTypeChecks := s.inputTypeChecks.erase id }
  | _ => s

/-- The check changes nothing but the table of checks. -/
theorem checkInputType_eq (s : EventStream Data) (event : Option (Event Data)) :
    s.checkInputType event =
      { s with inputTypeChecks := (s.checkInputType event).inputTypeChecks } := by
  fun_cases checkInputType s event <;> rfl

/-- Record and sort a batch of items; `add_event`, `mod.rs:587-590`. A failed recording
panics. -/
def addEvents : List EventItem → Scheduler → Except String Scheduler
  | [], scheduler => .ok scheduler
  | item :: items, scheduler =>
    match env.recordEvent item with
    | .error err => .error err
    | .ok () => addEvents items (scheduler.addEvent item)

/-- One poll of a receive; `recv_async`, `mod.rs:496-568`. The loop takes items out of the
channel until it is empty, and waits for more only while nothing is scheduled. -/
def recvAsync (s : EventStream Data) : RecvPoll Data × EventStream Data :=
  match s.pendingPassthrough with
  | event :: rest => (.ready (some event), { s with pendingPassthrough := rest })
  | [] =>
    if s.useScheduler then
      match addEvents env s.receiver.items s.scheduler with
      | .error err => (.panicked err, s)
      | .ok scheduler =>
        let s := { s with
          scheduler := scheduler
          receiver := { s.receiver with items := [] } }
        if scheduler.isEmpty && !s.receiver.closed then (.pending, s)
        else
          let event := scheduler.next.1.map (convertEventItem env)
          (.ready event, checkInputType { s with scheduler := scheduler.next.2 } event)
    else
      match s.receiver.items with
      | item :: items =>
        let event := some (convertEventItem env item)
        (.ready event,
          checkInputType { s with receiver := { s.receiver with items := items } } event)
      | [] => if s.receiver.closed then (.ready none, s) else (.pending, s)

/-- One poll of the `Stream` interface, which bypasses the scheduler; `poll_next`,
`mod.rs:1130-1189`. -/
def pollNext (s : EventStream Data) : RecvPoll Data × EventStream Data :=
  match s.pendingPassthrough with
  | event :: rest => (.ready (some event), { s with pendingPassthrough := rest })
  | [] =>
    match s.receiver.items with
    | item :: items =>
      let event := some (convertEventItem env item)
      (.ready event,
        checkInputType { s with receiver := { s.receiver with items := items } } event)
    | [] => if s.receiver.closed then (.ready none, s) else (.pending, s)

/-- Arrivals reach an open channel in order. -/
def deliver (s : EventStream Data) (arrival : Arrival) : EventStream Data :=
  if s.receiver.closed then s
  else { s with receiver := ⟨s.receiver.items ++ arrival.items, arrival.closed⟩ }

/-- Core loop of the pattern-aware helpers; `wait_for_correlation`, `mod.rs:856-899`. -/
def waitForCorrelation (isMatch : Event Data → Bool) (expectedServer : NodeId) :
    List Arrival → EventStream Data → Outcome PatternError (Event Data) × EventStream Data
  | [], s => (.err .timeout, s)
  | arrival :: polls, s =>
    match recvAsync env (s.deliver arrival) with
    | (.pending, s) => waitForCorrelation isMatch expectedServer polls s
    | (.panicked message, s) => (.panic message, s)
    | (.ready none, s) => (.err .streamEnded, s)
    | (.ready (some event), s) =>
      match classifyCorrelationEvent event expectedServer isMatch with
      | .isMatch => (.ok event, s)
      | .serverRestarted =>
        (.err (.serverRestarted expectedServer.val),
          { s with pendingPassthrough := s.pendingPassthrough ++ [event] })
      | .streamEnded =>
        (.err .streamEnded, { s with pendingPassthrough := s.pendingPassthrough ++ [event] })
      | .streamError message => (.err (.streamError message), s)
      | .passthrough =>
        waitForCorrelation isMatch expectedServer polls
          { s with pendingPassthrough := s.pendingPassthrough ++ [event] }

/-- The event is a response to the request; `mod.rs:799-808`. -/
def matchesRequest (request : String) : Event Data → Bool
  | .input _ metadata _ => getStringParam metadata.parameters requestId == some request
  | _ => false

/-- Wait for a service response; `recv_service_response`, `mod.rs:790-813`. -/
def recvServiceResponse (request : String) (expectedServer : NodeId) :
    List Arrival → EventStream Data → Outcome PatternError (Event Data) × EventStream Data :=
  waitForCorrelation env (matchesRequest request) expectedServer

/-- Events that a plain receive loop yields over a schedule, up to the end of the stream. -/
def receives : List Arrival → EventStream Data → List (Event Data)
  | [], _ => []
  | arrival :: polls, s =>
    match recvAsync env (s.deliver arrival) with
    | (.pending, s) => receives polls s
    | (.ready (some event), s) => event :: receives polls s
    | _ => []

/-- Streams that arise from a fresh one by arrivals, receives and waits. -/
inductive Reachable : EventStream Data → Prop
  | init (sizes : AList fun _ : DataId => Nat)
      (queuePolicies : AList fun _ : DataId => QueuePolicy) (useScheduler : Bool)
      (inputTypeChecks : AList fun _ : DataId => DataType) :
      Reachable ⟨⟨[], false⟩, Scheduler.init sizes queuePolicies, useScheduler,
        inputTypeChecks, []⟩
  | deliver {s : EventStream Data} (h : Reachable s) (arrival : Arrival) :
      Reachable (s.deliver arrival)
  | recvAsync {s : EventStream Data} (h : Reachable s) : Reachable (recvAsync env s).2
  | pollNext {s : EventStream Data} (h : Reachable s) : Reachable (pollNext env s).2
  | drainDropCounts {s : EventStream Data} (h : Reachable s) :
      Reachable { s with scheduler := s.scheduler.drainDropCounts.1 }
  | waitForCorrelation {s : EventStream Data} (h : Reachable s) (isMatch : Event Data → Bool)
      (expectedServer : NodeId) (polls : List Arrival) :
      Reachable (waitForCorrelation env isMatch expectedServer polls s).2

end EventStream
end DoraSpec.Node
