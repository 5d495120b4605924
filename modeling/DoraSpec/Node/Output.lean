import DoraSpec.Node.ArrowUtils
import DoraSpec.Node.EventStream

/-!
# Outputs of a node

Source `apis/rust/node/src/node/mod.rs`, and for the receiver `event_stream/mod.rs` and
`event_stream/data_conversion.rs`. An array is sent as a raw copy of its buffers or as an Arrow IPC
stream, through the daemon or over zenoh. The daemon passes metadata and data on as they are. What a
call reads from its surroundings is a record: the clock, the tracing context and the results of
calls to the daemon, to zenoh and to the operating system.
-/

namespace DoraSpec.Node
open Base Arrow Message

/-- Wire format of an output; `descriptor.rs:19-25`. -/
inductive OutputFraming where
  | raw
  | arrowIpc
  deriving DecidableEq

/-! ## Arrow IPC streams -/

/-- Writer and reader of the Arrow crate. -/
structure IpcCrate where
  /-- A stream with one batch, whose only column is the array. -/
  write : ArrayData → Except String (List UInt8)
  /-- The batches of a stream, each with its columns. -/
  read : List UInt8 → Except String (List (Except String (List ArrayData)))

/-- `arrow_utils.rs:9`. -/
def maxIpcBytes : Nat := 256 * 1024 * 1024

/-- `decode_arrow_ipc`, `arrow_utils.rs:231-259`. -/
def decodeArrowIpc (ipc : IpcCrate) (buf : List UInt8) : Except String ArrayData :=
  if buf.length > maxIpcBytes then
    .error s!"Arrow IPC payload too large: {buf.length} bytes (max {maxIpcBytes})"
  else match ipc.read buf with
    | .error _ => .error "failed to open Arrow IPC stream"
    | .ok [] => .error "Arrow IPC stream contained no record batches"
    | .ok (.error _ :: _) => .error "failed to read RecordBatch from IPC stream"
    | .ok (.ok [column] :: _) => .ok column
    | .ok (.ok columns :: _) =>
      .error s!"expected 1 column in IPC record batch, got {columns.length}"

/-! ## Samples -/

/-- Region of shared memory. -/
structure Shmem where
  osId : String
  bytes : List UInt8

/-- Region for a message; `mod.rs:1559-1562, 1625-1628`. -/
inductive DataSample where
  | shmem (memory : Shmem) (len : Nat) (fits : len ≤ memory.bytes.length)
  | vec (bytes : List UInt8)

namespace DataSample

/-- `deref`, `mod.rs:1581-1591`. -/
def bytes : DataSample → List UInt8
  | shmem memory len _ => memory.bytes.take len
  | vec bytes => bytes

/-- The sample with new bytes, as many as it had. -/
def write : DataSample → List UInt8 → DataSample
  | shmem memory len _, data =>
    shmem { memory with bytes := data ++ memory.bytes.drop len } data.length (by simp)
  | vec _, data => vec data

/-- `finalize`, `mod.rs:1565-1578`. -/
def finalize (dropToken : Nat) : DataSample → DataMessage × Option Shmem
  | shmem memory len _ => (.sharedMemory memory.osId len dropToken, some memory)
  | vec bytes => (.vec bytes, none)

/-- What is written is there. -/
@[simp] theorem bytes_write (sample : DataSample) (data : List UInt8) :
    (sample.write data).bytes = data := by
  cases sample <;> simp [write, bytes]

end DataSample

/-! ## Sending -/

/-- What to do with outputs of a wrong type, if they are checked; `mod.rs:64-71`. -/
inductive RuntimeTypeCheck where
  | warn
  | error
  deriving DecidableEq

/-- What sending reads of a node; `mod.rs:109-148`. -/
structure DoraNode where
  outputs : List DataId
  outputFraming : AList fun _ : DataId => OutputFraming
  runtimeTypeChecks : Option (RuntimeTypeCheck × AList fun _ : DataId => DataType) := none
  interactive : Bool := false
  zenohSession : Bool := false
  zenohZeroCopyThreshold : Nat := 4096

/-- Surroundings of a call. -/
structure SendEnv where
  timestamp : Timestamp
  /-- The tracing context, empty if there is none. -/
  telemetryContext : String := ""
  dropToken : Nat := 0
  /-- `allocate_shared_memory`: a region from the cache or a new one. -/
  allocateSharedMemory : (len : Nat) → Except String { memory : Shmem // len ≤ memory.bytes.length }
  finishedDropTokens : Except String Unit := .ok ()
  zenohPublish : Except String Unit := .ok ()
  sendMessage : Except String Unit := .ok ()

/-- Message on its way to the receivers, with the region that holds its data. -/
inductive Sent where
  | daemon (outputId : DataId) (metadata : Metadata) (data : Option DataMessage)
    (shmem : Option Shmem)
  | zenoh (outputId : DataId) (metadata : Metadata) (payload : List UInt8)

namespace Sent

def outputId : Sent → DataId
  | daemon outputId _ _ _ => outputId
  | zenoh outputId _ _ => outputId

def metadata : Sent → Metadata
  | daemon _ metadata _ _ => metadata
  | zenoh _ metadata _ => metadata

/-- The message at a receiver. -/
def item (inputId : DataId) : Sent → EventItem
  | daemon _ metadata data _ => .nodeEvent (.input inputId metadata data)
  | zenoh _ metadata payload => .zenohInput inputId metadata payload

/-- The receiver finds the region as it was sent, because a region is reused only after its drop
token has come back. -/
def Intact (regions : String → Option (List UInt8)) : Sent → Prop
  | daemon _ _ _ shmem => ∀ memory ∈ shmem, regions memory.osId = some memory.bytes
  | zenoh _ _ _ => True

end Sent

/-- Key of the tracing context; `mod.rs:946`. -/
def openTelemetryContext : String := "open_telemetry_context"

/-- Below this size a message is not put into shared memory; `mod.rs:104`. -/
def zeroCopyThreshold : Nat := 4096

/-- `carries_pattern_correlation`, `mod.rs:1657-1661`. -/
def carriesPatternCorrelation (params : MetadataParameters) : Bool :=
  (params.lookup requestId).isSome || (params.lookup goalId).isSome ||
    (params.lookup goalStatus).isSome

namespace DoraNode

variable (node : DoraNode) (env : SendEnv)

/-- `validate_output`, `mod.rs:713-723`. -/
def validateOutput (outputId : DataId) : Bool := decide (outputId ∈ node.outputs) || node.interactive

/-- Configured format of an output; `mod.rs:823-828`. -/
def framing (outputId : DataId) : OutputFraming := (node.outputFraming.lookup outputId).getD .raw

/-- `allocate_data_sample`, `mod.rs:1310-1332`. -/
def allocateDataSample (dataLen : Nat) : Except String DataSample :=
  if zeroCopyThreshold ≤ dataLen ∧ !node.interactive ∧ !node.zenohSession then
    match env.allocateSharedMemory dataLen with
    | .ok memory => .ok (.shmem memory.val dataLen memory.property)
    | .error e => .error e
  else .ok (.vec (List.replicate dataLen 0))

/-- Parameters with the tracing context; `mod.rs:945-955`. -/
def withTelemetry (parameters : MetadataParameters) : MetadataParameters :=
  if (parameters.lookup openTelemetryContext).isNone && env.telemetryContext ≠ "" then
    parameters.insert openTelemetryContext (.string env.telemetryContext)
  else parameters

/-- `mod.rs:957`. -/
def outputMetadata (typeInfo : ArrowTypeInfo) (parameters : MetadataParameters) : Metadata where
  metadataVersion := 0
  timestamp := env.timestamp
  typeInfo
  parameters := withTelemetry env parameters

/-- Bytes that may go over zenoh; `mod.rs:970-983`. -/
def zenohBytes : Option DataMessage → List UInt8
  | some (.vec bytes) => bytes
  | _ => []

/-- Over zenoh if there is a session and the message is large enough, and through the daemon otherwise
and if that fails; `mod.rs:967-1025`. -/
def route (outputId : DataId) (metadata : Metadata) (data : Option DataMessage)
    (shmem : Option Shmem) : Except String Sent :=
  let rawBytes := zenohBytes data
  if node.zenohSession ∧ rawBytes ≠ [] ∧ node.zenohZeroCopyThreshold ≤ rawBytes.length ∧
      env.zenohPublish = .ok () then
    .ok (.zenoh outputId metadata rawBytes)
  else match env.sendMessage with
    | .ok () => .ok (.daemon outputId metadata data shmem)
    | .error _ => .error s!"failed to send output {outputId.val}"

/-- `send_output_sample`, `mod.rs:926-1029`. -/
def sendOutputSample (outputId : DataId) (typeInfo : ArrowTypeInfo)
    (parameters : MetadataParameters) (sample : Option DataSample) : Except String Sent := do
  if !node.interactive && !node.zenohSession then env.finishedDropTokens
  node.route env outputId (outputMetadata env typeInfo parameters)
    (sample.map fun sample => (sample.finalize env.dropToken).1)
    (sample.bind fun sample => (sample.finalize env.dropToken).2)

/-- `send_typed_output`, `mod.rs:899-918`. -/
def sendTypedOutput (outputId : DataId) (typeInfo : ArrowTypeInfo) (parameters : MetadataParameters)
    (data : List UInt8) : Except String (Option Sent) :=
  if !node.validateOutput outputId then .ok none
  else do
    let sample ← node.allocateDataSample env data.length
    some <$> node.sendOutputSample env outputId typeInfo parameters (some (sample.write data))

variable (arrow : ArrowCrate) (ipc : IpcCrate)

/-- The runtime type check; `mod.rs:801-821`. A failure that only warns lets the message pass. -/
def typeMismatch (outputId : DataId) (parameters : MetadataParameters) (actual : DataType) :
    Option String := do
  let (mode, checks) ← node.runtimeTypeChecks
  let expected ← checks.lookup outputId
  -- types are compared by their debug texts, which show all of a type
  if !carriesPatternCorrelation parameters ∧ arrow.debug actual ≠ arrow.debug expected ∧
      mode = .error then
    some (s!"output \"{outputId.val}\": expected Arrow type {arrow.debug expected}, " ++
      s!"got {arrow.debug actual}")
  else none

/-- Type information of an IPC stream; `mod.rs:843-853`. -/
def ipcTypeInfo (data : ArrayData) : ArrowTypeInfo where
  dataType := data.dataType
  len := data.len
  nullCount := data.nullCount
  validity := none
  offset := 0
  bufferOffsets := []
  childData := []
  fieldNames := none
  schemaHash := some (computeSchemaHash arrow data.dataType)

/-- The part of `send_output` for raw copies; `mod.rs:831-838`. -/
def sendRaw (outputId : DataId) (parameters : MetadataParameters) (data : ArrayData) :
    Outcome String Sent := do
  let sample ← Outcome.ofExcept (node.allocateDataSample env (requiredDataSize arrow data))
  let (bytes, typeInfo) ← copyArrayIntoSample arrow sample.bytes data
  match node.sendOutputSample env outputId typeInfo parameters (some (sample.write bytes)) with
  | .ok sent => pure sent
  | .error _ => .err "failed to send output"

/-- The part of `send_output` for IPC streams; `mod.rs:839-867`. -/
def sendIpc (outputId : DataId) (parameters : MetadataParameters) (data : ArrayData) :
    Outcome String Sent :=
  match ipc.write data with
  | .error e => .err s!"Arrow IPC encode: {e}"
  | .ok ipcBuf => do
    let sample ← Outcome.ofExcept (node.allocateDataSample env ipcBuf.length)
    let parameters := parameters.insert Message.framing (.string framingArrowIpc)
    match node.sendOutputSample env outputId (ipcTypeInfo arrow data) parameters
      (some (sample.write ipcBuf)) with
    | .ok sent => pure sent
    | .error _ => .err "failed to send output"

/-- `send_output`, `mod.rs:780-870`. -/
def sendOutput (outputId : DataId) (parameters : MetadataParameters) (data : ArrayData) :
    Outcome String (Option Sent) :=
  if !node.validateOutput outputId then .ok none
  else match node.typeMismatch arrow outputId parameters data.dataType with
    | some message => .err message
    | none => some <$> match node.framing outputId with
      | .raw => node.sendRaw env arrow outputId parameters data
      | .arrowIpc => node.sendIpc env arrow ipc outputId parameters data

end DoraNode

/-! ## Receiving -/

/-- The two decoders of `arrow_utils.rs`. -/
structure Decoders where
  bufferIntoArrowArray : List UInt8 → ArrowTypeInfo → Except String ArrayData
  decodeArrowIpc : List UInt8 → Except String ArrayData

/-- The decoders as they are. -/
def decoders (arrow : ArrowCrate) (ipc : IpcCrate) : Decoders where
  bufferIntoArrowArray := bufferIntoArrowArray arrow
  decodeArrowIpc := decodeArrowIpc ipc

/-- `().into_arrow()`, `into_impls.rs:60-66`. -/
def unitArray : ArrayData := ⟨.null, 0, 0, [], none, []⟩

section

variable (d : Decoders) (regions : String → Option (List UInt8))

/-- `MappedInputData::map`, `data_conversion.rs:73-90`. -/
def mapInput (sharedMemoryId : String) (len : Nat) : Except String (List UInt8) :=
  match regions sharedMemoryId with
  | none => .error "failed to map shared memory input"
  | some memory =>
    if len > memory.length then
      .error (s!"mapped input data length ({len}) exceeds shared memory region size " ++
        s!"({memory.length})")
    else .ok (memory.take len)

/-- `into_arrow_array` and `decode_ipc`, `data_conversion.rs:17-54`. -/
def intoArrowArray (data : Option (List UInt8)) (typeInfo : ArrowTypeInfo) (isIpc : Bool) :
    Except String ArrayData :=
  match data with
  | none => .ok unitArray
  | some bytes =>
    if isIpc then d.decodeArrowIpc bytes else d.bufferIntoArrowArray bytes typeInfo

/-- The metadata say that the payload is an IPC stream; `mod.rs:1028-1031, 1116-1119` of the event
stream. -/
def isIpc (metadata : Metadata) : Bool :=
  getStringParam metadata.parameters Message.framing = some framingArrowIpc

/-- `data_to_arrow_array`, `mod.rs:1094-1127` of the event stream. -/
def dataToArrowArray (data : Option DataMessage) (metadata : Metadata) : Except String ArrayData :=
  match data with
  | none => intoArrowArray d none metadata.typeInfo (isIpc metadata)
  | some (.vec bytes) => intoArrowArray d (some bytes) metadata.typeInfo (isIpc metadata)
  | some (.sharedMemory id len _) =>
    match mapInput regions id len with
    | .ok bytes => intoArrowArray d (some bytes) metadata.typeInfo (isIpc metadata)
    | .error e => .error e

/-- `zenoh_payload_to_arrow_array`, `mod.rs:1021-1092` of the event stream. -/
def zenohPayloadToArrowArray (payload : List UInt8) (metadata : Metadata) :
    Except String ArrayData :=
  if payload = [] then .ok unitArray
  else if isIpc metadata then d.decodeArrowIpc payload
  else d.bufferIntoArrowArray payload metadata.typeInfo

/-- Conversion of payloads in an event stream that writes no events to a file. -/
def streamEnv : StreamEnv ArrayData where
  dataToArrowArray := dataToArrowArray d regions
  zenohPayloadToArrowArray := zenohPayloadToArrowArray d
  recordEvent _ := .ok ()

end

end DoraSpec.Node
