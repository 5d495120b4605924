import Mathlib.Data.Finset.Basic
import DoraSpec.Base.Machine
import DoraSpec.Daemon.Topology
import DoraSpec.Node.Event

/-!
# Shared-memory regions and their drop tokens

Source `binaries/daemon/src/lib.rs:2811-2849, 4018-4184`, `running_dataflow.rs:531-565` and
`event_types.rs:177-239`. The owner of a shared-memory region may use it again when the receivers
of the message have given back its token; the daemon counts the receivers and tells the owner.
Sets of receivers are lists. The bytes for other daemons, the deadlines of the inputs and the
statistics are left out.
-/

namespace DoraSpec.Daemon.DropTokens
open Message Function
open Node (DataMessage)

/-- Generated afresh for each message; `common.rs:309-316`. -/
abbrev DropToken := Nat

/-- `DataMessage::drop_token`, `common.rs:278-283`. -/
def dropToken : DataMessage → Option DropToken
  | .vec _ => none
  | .sharedMemory _ _ token => some token

/-! ## Channels -/

/-- `event_types.rs:178`. -/
def nodeEventChannelCapacity : Nat := 1000

/-- Kept free for events that are no inputs; `event_types.rs:181`. -/
def controlEventHeadroom : Nat := 50

/-- Bounded channel to a node; it is closed when the node no longer listens. -/
structure EventChannel where
  queued : Nat := 0
  closed : Bool := false

/-- Why a bounded channel does not take an event. -/
inductive TrySendError where
  | closed
  | full

namespace EventChannel

/-- Free places. -/
def capacity (channel : EventChannel) : Nat := nodeEventChannelCapacity - channel.queued

/-- Put an event into the channel. -/
def trySend (channel : EventChannel) : Except TrySendError EventChannel :=
  if channel.closed then .error .closed
  else if channel.capacity = 0 then .error .full
  else .ok { channel with queued := channel.queued + 1 }

/-- Send an event that is no input, unless the channel is full or closed; `event_types.rs:186-221`. -/
def sendControl (channel : EventChannel) : EventChannel :=
  match channel.trySend with
  | .ok channel => channel
  | .error _ => channel

end EventChannel

/-- Unbounded channel on which a node hears that outputs were dropped. -/
structure DropChannel where
  closed : Bool := false

/-! ## State -/

/-- Nodes that have not given back a token yet; `running_dataflow.rs:165-168`. -/
structure DropTokenInformation where
  owner : NodeId
  pendingNodes : Finset NodeId := ∅

/-- Tables of a running dataflow, and what has happened so far: who sent the messages, which
delivered copies are still out, and whom the daemon has told of a dropped output. -/
structure State where
  mappings : OutputId → List InputKey := fun _ => []
  brokenInputs : Finset InputKey := ∅
  subscribeChannels : NodeId → Option EventChannel := fun _ => none
  dropChannels : NodeId → Option DropChannel := fun _ => none
  pendingDropTokens : DropToken → Option DropTokenInformation := fun _ => none
  /-- The daemon has stopped with an error. -/
  failed : Option String := none
  owners : DropToken → Option NodeId := fun _ => none
  /-- Receivers of the copies, one for each input that got one. -/
  copies : DropToken → List NodeId := fun _ => []
  told : List (NodeId × DropToken) := []

namespace State

/-- `check_drop_token`, `running_dataflow.rs:531-565`. -/
def checkDropToken (s : State) (token : DropToken) : State :=
  match s.pendingDropTokens token with
  | none => s
  | some info =>
    if info.pendingNodes = ∅ then
      let s := { s with pendingDropTokens := update s.pendingDropTokens token none }
      match s.dropChannels info.owner with
      | none => s
      | some channel =>
        if channel.closed then s else { s with told := s.told ++ [(info.owner, token)] }
    else s

/-! ## Sending -/

/-- Count the receiver of a copy; `lib.rs:4111-4121`. -/
def awaitDrop (s : State) (owner : NodeId) (token : DropToken) (receiver : NodeId) : State :=
  let info := (s.pendingDropTokens token).getD { owner }
  { s with
    pendingDropTokens := update s.pendingDropTokens token
      (some { info with pendingNodes := insert receiver info.pendingNodes })
    copies := update s.copies token (receiver :: s.copies token) }

/-- Bookkeeping for an input that was put into the channel; `lib.rs:4055-4121`. -/
def delivered (s : State) (owner : NodeId) (data : Option DataMessage) (key : InputKey)
    (channel : EventChannel) : State :=
  let s := { s with
    brokenInputs := s.brokenInputs.erase key
    subscribeChannels := update s.subscribeChannels key.1
      (some (if key ∈ s.brokenInputs then channel.sendControl else channel)) }
  match data.bind dropToken with
  | some token => s.awaitDrop owner token key.1
  | none => s

/-- Send a message to one input; the second component are the closed channels.
`lib.rs:4037-4135`. -/
def deliver (owner : NodeId) (data : Option DataMessage) (acc : State × List NodeId)
    (key : InputKey) : State × List NodeId :=
  match acc.1.subscribeChannels key.1 with
  | none => acc
  | some channel =>
    if channel.capacity < controlEventHeadroom then acc
    else match channel.trySend with
      | .ok channel => (acc.1.delivered owner data key channel, acc.2)
      | .error .closed => (acc.1, acc.2 ++ [key.1])
      | .error .full => acc

/-- Remove the closed channels; `lib.rs:4136-4138`. -/
def removeClosed (s : State) (closed : List NodeId) : State :=
  { s with subscribeChannels := fun node =>
      if node ∈ closed then none else s.subscribeChannels node }

/-- Why the message cannot be copied for other daemons. The size of the region is given if it could
be opened; `lib.rs:4141-4166`. -/
def mapError (needDataBytes : Bool) (region : Option Nat) : Option DataMessage → Option String
  | some (.sharedMemory _ len _) =>
    if needDataBytes then
      match region with
      | none => some "failed to map shared memory output"
      | some size =>
        if size < len then some s!"shared memory length {len} exceeds region size {size}" else none
    else none
  | _ => none

/-- Register the token even if no node receives the message; `lib.rs:4171-4182`. -/
def registerToken (s : State) (owner : NodeId) (token : DropToken) : State :=
  let info := (s.pendingDropTokens token).getD { owner }
  { s with pendingDropTokens := update s.pendingDropTokens token (some info) }.checkDropToken
    token

/-- `send_output_to_local_receivers`, `lib.rs:4018-4184`. -/
def sendOutputToLocalReceivers (s : State) (output : OutputId) (data : Option DataMessage)
    (needDataBytes : Bool) (region : Option Nat) : State :=
  let r := (s.mappings output).foldl (deliver output.1 data) (s, [])
  let s := r.1.removeClosed r.2
  match mapError needDataBytes region data with
  | some err => { s with failed := some err }
  | none =>
    match data.bind dropToken with
    | some token => s.registerToken output.1 token
    | none => s

/-! ## Giving back -/

/-- A node gives back a token; `lib.rs:2822-2834`. -/
def reportToken (node : NodeId) (s : State) (token : DropToken) : State :=
  let s := { s with copies := update s.copies token ((s.copies token).erase node) }
  match s.pendingDropTokens token with
  | none => s
  | some info =>
    if node ∈ info.pendingNodes then
      { s with
        pendingDropTokens := update s.pendingDropTokens token
          (some { info with pendingNodes := info.pendingNodes.erase node }) }.checkDropToken token
    else s

end State

/-! ## Runs -/

/-- What happens to a dataflow on the daemon. -/
inductive Event where
  | addMapping (output : OutputId) (key : InputKey)
  | removeMapping (output : OutputId) (key : InputKey)
  | subscribe (node : NodeId)
  | subscribeDrop (node : NodeId)
  | sendOut (output : OutputId) (data : Option DataMessage) (needDataBytes : Bool)
      (region : Option Nat)
  | reportDrop (node : NodeId) (tokens : List DropToken)
  | eventStreamDropped (node : NodeId)
  | outputsDone (node : NodeId)
  | removeNode (node : NodeId)
  /-- An input has not been served in time. -/
  | inputTimeout (key : InputKey)
  /-- The daemon sends an event that is no input. -/
  | control (node : NodeId)
  /-- The node takes an event from its channel. -/
  | receive (node : NodeId)
  /-- The node ends, with all copies it has. -/
  | gone (node : NodeId)

/-- Change the channel of a node, if it has one. -/
def State.modifyChannel (s : State) (node : NodeId) (f : EventChannel → EventChannel) : State :=
  { s with subscribeChannels :=
      update s.subscribeChannels node ((s.subscribeChannels node).map f) }

/-- One event; `lib.rs:1735-1860, 2690-2849, 3100-3206`. A token is used for one message only. -/
def transition (s : State) : Event → State
  | .addMapping output key =>
    if key ∈ s.mappings output then s
    else { s with mappings := update s.mappings output (s.mappings output ++ [key]) }
  | .removeMapping output key =>
    { s with mappings := update s.mappings output ((s.mappings output).erase key) }
  | .subscribe node =>
    { s with subscribeChannels := update s.subscribeChannels node (some {}) }
  | .subscribeDrop node => { s with dropChannels := update s.dropChannels node (some {}) }
  | .sendOut output data needDataBytes region =>
    match data.bind dropToken with
    | none => s.sendOutputToLocalReceivers output data needDataBytes region
    | some token =>
      if (s.owners token).isSome then s
      else { s with owners := update s.owners token (some output.1)
          }.sendOutputToLocalReceivers output data needDataBytes region
  | .reportDrop node tokens => tokens.foldl (State.reportToken node) s
  | .eventStreamDropped node =>
    { s with subscribeChannels := update s.subscribeChannels node none }
  | .outputsDone node => { s with dropChannels := update s.dropChannels node none }
  | .removeNode node => { s with
      mappings := fun output =>
        if output.1 = node then [] else (s.mappings output).filter (·.1 ≠ node)
      subscribeChannels := update s.subscribeChannels node none
      dropChannels := update s.dropChannels node none }
  | .inputTimeout key => { s with brokenInputs := insert key s.brokenInputs }
  | .control node => s.modifyChannel node EventChannel.sendControl
  | .receive node => s.modifyChannel node fun c => { c with queued := c.queued - 1 }
  | .gone node =>
    { s.modifyChannel node fun c => { c with closed := true } with
      dropChannels := update s.dropChannels node
        ((s.dropChannels node).map fun _ => { closed := true })
      copies := fun token => (s.copies token).filter (· ≠ node) }

/-- A daemon that has stopped with an error does nothing any more. -/
def step (s : State) (e : Event) : State × Unit :=
  (if s.failed.isSome then s else transition s e, ())

end DoraSpec.Daemon.DropTokens
