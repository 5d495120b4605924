import DoraSpec.Arrow.DataType
import Mathlib.Data.List.AList

/-!
# Message metadata

Source `libraries/message/src/metadata.rs`: the type information that accompanies a raw
payload, the user parameters and the well-known parameter keys of the service, action and
streaming patterns. Maps are association lists with distinct keys; their order carries no
meaning. Floating-point parameters are kept as their bit patterns.
-/

namespace DoraSpec.Message
open Arrow

/-- Position of one buffer inside a raw payload; `metadata.rs:155-158`. -/
structure BufferOffset where
  offset : Nat
  len : Nat
  deriving DecidableEq

/-- Type information of a raw payload; `metadata.rs:50-72`. -/
structure ArrowTypeInfo where
  dataType : DataType
  len : Nat
  nullCount : Nat
  validity : Option (List UInt8)
  offset : Nat
  bufferOffsets : List BufferOffset
  childData : List ArrowTypeInfo
  fieldNames : Option (List String)
  schemaHash : Option UInt64

/-- Metadata parameter value; `metadata.rs:76-85`. -/
inductive Parameter where
  | bool (value : Bool)
  | integer (value : Int64)
  | string (value : String)
  | listInt (value : List Int64)
  | float (bits : UInt64)
  | listFloat (bits : List UInt64)
  | listString (value : List String)
  | timestamp (nanos : Int)
  deriving DecidableEq

/-- Parameter map; `metadata.rs:48`. -/
abbrev MetadataParameters := AList fun _ : String => Parameter

/-- Hybrid logical clock reading: a 64-bit time and the 128-bit clock identity. -/
structure Timestamp where
  time : UInt64
  id : BitVec 128
  deriving DecidableEq

/-- Data sent along with an output; `metadata.rs:11-16`. -/
structure Metadata where
  metadataVersion : UInt16
  timestamp : Timestamp
  typeInfo : ArrowTypeInfo
  parameters : MetadataParameters

/-- Key of a service request and its response; `metadata.rs:115`. -/
def requestId : String := "request_id"

/-- Key of an action goal; `metadata.rs:118`. -/
def goalId : String := "goal_id"

/-- Key of the completion status of an action goal; `metadata.rs:121`. -/
def goalStatus : String := "goal_status"

/-- Key that asks to discard older queued messages; `metadata.rs:147`. -/
def flush : String := "flush"

/-- Key of the wire format of a payload; `metadata.rs:151`. -/
def framing : String := "_framing"

/-- Value of the key `framing` for an Arrow IPC stream; `metadata.rs:154`. -/
def framingArrowIpc : String := "arrow-ipc"

/-- String parameter, absent when missing or of another kind; `metadata.rs:89-94`. -/
def getStringParam (params : MetadataParameters) (key : String) : Option String :=
  (params.lookup key).bind fun
    | .string s => some s
    | _ => none

/-- Boolean parameter, absent when missing or of another kind; `metadata.rs:107-112`. -/
def getBoolParam (params : MetadataParameters) (key : String) : Option Bool :=
  (params.lookup key).bind fun
    | .bool b => some b
    | _ => none

end DoraSpec.Message
