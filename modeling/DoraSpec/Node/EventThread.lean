import Mathlib.Data.List.Count
import DoraSpec.Base.Machine
import DoraSpec.Node.Event

/-!
# The thread of the event stream

Source `apis/rust/node/src/event_stream/thread.rs:100-310`. The thread fetches events from the
daemon and forwards them to the user. An event with a shared-memory payload carries a drop token,
which the thread gives back when the user has dropped the event: its end of the acknowledgement
channel is disconnected then, and nothing is ever sent on it. The steps of the thread are those at
which it looks at the user, the daemon or the clock, in any order with what these do. Times are in
milliseconds. Log texts and time stamps are left out.
-/

namespace DoraSpec.Node.EventThread

/-! ## State -/

/-- Token of a fetched event. Events are numbered, as two of them may carry the same token. -/
structure Copy where
  event : Nat
  token : Nat
  deriving DecidableEq

/-- The token in an event; `thread.rs:156-166`. -/
def dropToken : NodeEvent → Option Nat
  | .input _ _ (some (.sharedMemory _ _ token)) => some token
  | _ => none

/-- The event after which the channel to the user is closed; `thread.rs:160-163`. -/
def isAllInputsClosed : NodeEvent → Bool
  | .allInputsClosed => true
  | _ => false

/-- Tokens of numbered events. -/
def copies (events : List (NodeEvent × Nat)) : List Copy :=
  events.filterMap fun e => (dropToken e.1).map (⟨e.2, ·⟩)

/-- Token of an event that was forwarded, with the time. -/
structure Pending where
  copy : Copy
  since : Nat

/-- Where the thread is. -/
inductive Phase where
  /-- In `handle_pending_drop_tokens`, with the tokens to look at and those that stay pending. -/
  | checking (todo still : List Pending)
  | requesting
  | forwarding (events : List (NodeEvent × Nat))
  /-- At the head of the loop of `report_remaining_drop_tokens`. -/
  | reporting
  /-- In the inner loop of `report_remaining_drop_tokens`. -/
  | waiting (todo still : List Pending)
  | ended

/-- The thread, the user and what has happened so far. -/
structure State where
  phase : Phase := .checking [] []
  /-- The thread still has its end of the channel to the user. -/
  tx : Bool := true
  closeTx : Bool := false
  pendingDropTokens : List Pending := []
  dropTokens : List Copy := []
  now : Nat := 0
  /-- When the thread left its main loop. -/
  endedAt : Option Nat := none
  /-- The user still has the other end of the channel. -/
  receiver : Bool := true
  /-- When an event was dropped, by the user or by the thread. -/
  dropped : Nat → Option Nat := fun _ => none
  nextEvent : Nat := 0
  fetched : List Copy := []
  reported : List Copy := []

/-- Answer of the daemon to a request, or the failure of the connection. -/
inductive Reply where
  | nextEvents (events : List NodeEvent)
  | error
  | empty
  | other
  | broken

namespace State

/-- Leave the main loop. -/
def leave (s : State) : State := { s with phase := .reporting, endedAt := some s.now }

/-- Events that are dropped now, if they were not dropped before. -/
def discard (s : State) (events : List Nat) : State :=
  { s with dropped := fun n => (s.dropped n).orElse fun _ => if n ∈ events then some s.now else none }

/-! ## The main loop -/

/-- `handle_pending_drop_tokens`, `thread.rs:228-251`, for one token. -/
def checkOne (s : State) (p : Pending) (todo still : List Pending) : State :=
  if (s.dropped p.copy.event).isSome then
    { s with phase := .checking todo still, dropTokens := s.dropTokens ++ [p.copy] }
  else { s with phase := .checking todo (still ++ [p]) }

/-- The tokens are on their way to the daemon. -/
def report (s : State) : State :=
  { s with reported := s.reported ++ s.dropTokens, dropTokens := [] }

/-- Look at the pending tokens again. -/
def check (s : State) : State :=
  { s with phase := .checking s.pendingDropTokens [], pendingDropTokens := [] }

/-- The `NextEvent` request, `thread.rs:117-150`. A request that fails has not reached the daemon. -/
def request (s : State) : Reply → State
  | .nextEvents [] => s.report.leave
  | .nextEvents events =>
    let numbered := events.zipIdx s.nextEvent
    { s.report with
      phase := .forwarding numbered
      nextEvent := s.nextEvent + events.length
      fetched := s.fetched ++ copies numbered }
  | .broken => { s with dropTokens := [] }.leave
  -- the thread sleeps
  | .error | .empty | .other => { s.report with now := s.now + 100 }.check

/-- One event of a batch, `thread.rs:151-207`. -/
def forward (s : State) (event : NodeEvent) (number : Nat) (events : List (NodeEvent × Nat)) :
    State :=
  let closeTx := s.closeTx || isAllInputsClosed event
  if s.tx then
    if s.receiver then
      let pending := ((dropToken event).map fun token => (⟨⟨number, token⟩, s.now⟩ : Pending)).toList
      { s with
        phase := .forwarding events
        closeTx
        tx := !closeTx
        pendingDropTokens := s.pendingDropTokens ++ pending }
    else ({ s with closeTx }.discard (number :: events.map Prod.snd)).leave
  else { s with phase := .forwarding events, closeTx }.discard [number]

/-! ## After the main loop -/

/-- `report_drop_tokens` and the condition of the loop, `thread.rs:259-262, 291-310`. -/
def reportRemaining (s : State) (reply : Reply) : State :=
  if s.pendingDropTokens.isEmpty && s.dropTokens.isEmpty then { s with phase := .ended }
  else if s.dropTokens.isEmpty then
    { s with phase := .waiting s.pendingDropTokens [], pendingDropTokens := [] }
  else match reply with
    | .empty => { s.report with phase := .waiting s.pendingDropTokens [], pendingDropTokens := [] }
    | .broken => { s with phase := .ended, dropTokens := [], pendingDropTokens := [] }
    | _ => { s.report with phase := .ended, pendingDropTokens := [] }

/-- Wait for one event to be dropped, `thread.rs:264-283`. -/
def waitOne (s : State) (p : Pending) (todo still : List Pending) : State :=
  if (s.dropped p.copy.event).isSome then
    { s with phase := .waiting todo still, dropTokens := s.dropTokens ++ [p.copy] }
  else
    let now := s.now + 100
    { s with now, phase := .waiting todo (if now - p.since > 1000 then still else still ++ [p]) }

/-- The next step of the thread. The answer is used by the steps that make a request. -/
def advance (s : State) (reply : Reply) : State :=
  match s.phase with
  | .checking (p :: todo) still => s.checkOne p todo still
  | .checking [] still => { s with phase := .requesting, pendingDropTokens := still }
  | .requesting => s.request reply
  | .forwarding ((event, number) :: events) => s.forward event number events
  | .forwarding [] => s.check
  | .reporting => s.reportRemaining reply
  | .waiting (p :: todo) still => s.waitOne p todo still
  | .waiting [] still => { s with phase := .reporting, pendingDropTokens := still }
  | .ended => s

/-- Numbers of the events that are still to be forwarded. -/
def unforwarded (s : State) : List Nat :=
  match s.phase with
  | .forwarding events => events.map Prod.snd
  | _ => []

end State

inductive Input where
  | advance (reply : Reply)
  | pass (time : Nat)
  /-- The user drops an event, or it is dropped with the channel to the user. -/
  | dropEvent (event : Nat)
  | dropReceiver

def step (s : State) : Input → State × Unit
  | .advance reply => (s.advance reply, ())
  | .pass time => ({ s with now := s.now + time }, ())
  | .dropEvent event =>
    (if event < s.nextEvent ∧ event ∉ s.unforwarded then s.discard [event] else s, ())
  | .dropReceiver => ({ s with receiver := false }, ())

end DoraSpec.Node.EventThread
