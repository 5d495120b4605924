import DoraSpec.Message.Id
import DoraSpec.Message.Metadata

/-!
# Events of a node

Source `apis/rust/node/src/event_stream/thread.rs`, `event.rs` and
`libraries/message/src/daemon_to_node.rs`: what the background threads deliver and what the
event stream hands to the user. Acknowledgement channels and the ownership of a shared memory
mapping carry no data and are left out.
-/

namespace DoraSpec.Node
open Message

/-- JSON value of a runtime parameter; numbers keep their source text. -/
inductive Json where
  | null
  | bool (value : Bool)
  | number (text : String)
  | string (value : String)
  | array (items : List Json)
  | object (members : List (String × Json))

/-- Payload of an input sent through the daemon; `common.rs:268-275`. -/
inductive DataMessage where
  | vec (bytes : List UInt8)
  | sharedMemory (sharedMemoryId : String) (len : Nat) (dropToken : Nat)

/-- Event sent by the daemon to a node; `daemon_to_node.rs:65-115`. -/
inductive NodeEvent where
  | stop
  | reload (operatorId : Option OperatorId)
  | input (id : DataId) (metadata : Metadata) (data : Option DataMessage)
  | inputClosed (id : DataId)
  | inputRecovered (id : DataId)
  | nodeRestarted (id : NodeId)
  | allInputsClosed
  | paramUpdate (key : String) (value : Json)
  | paramDeleted (key : String)
  | nodeFailed (affectedInputIds : List DataId) (error : String) (sourceNodeId : NodeId)

/-- Item of the channel between the receiving threads and the stream; `thread.rs:32-52`. -/
inductive EventItem where
  | nodeEvent (event : NodeEvent)
  | zenohInput (id : DataId) (metadata : Metadata) (payload : List UInt8)
  | fatalError (report : String)
  | timeoutError (report : String)

/-- Why the stream is about to close; `event.rs:115-127`. -/
inductive StopCause where
  | manual
  | allInputsClosed
  deriving DecidableEq

/-- Event handed to the user; `event.rs:17-106`. The decoded payload has type `Data`. -/
inductive Event (Data : Type) where
  | input (id : DataId) (metadata : Metadata) (data : Data)
  | inputClosed (id : DataId)
  | inputRecovered (id : DataId)
  | nodeRestarted (id : NodeId)
  | stop (cause : StopCause)
  | reload (operatorId : Option OperatorId)
  | paramUpdate (key : String) (value : Json)
  | paramDeleted (key : String)
  | nodeFailed (affectedInputIds : List DataId) (error : String) (sourceNodeId : NodeId)
  | error (message : String)

namespace EventItem

/-- Input identifier and metadata of the two kinds of input items. -/
def inputParts : EventItem → Option (DataId × Metadata)
  | nodeEvent (.input id metadata _) => some (id, metadata)
  | zenohInput id metadata _ => some (id, metadata)
  | _ => none

/-- The item is an input event, delivered by the daemon or over zenoh. -/
def isInput (event : EventItem) : Bool := event.inputParts.isSome

end EventItem
end DoraSpec.Node
