import DoraSpec.Node.ArrowRoundTrip
import DoraSpec.Node.Output

/-!
# Agreement on the wire format

The sender takes the format of a message from its configuration, the receiver takes it from a
parameter of the message. An output in the IPC format sets the parameter, but a raw one leaves it as
user code has passed it, for instance with the parameters of a message that arrived as an IPC stream.
-/

namespace DoraSpec.Node
open Base Arrow Message

/-! ## Transport -/

/-- The payload of a message. -/
def Sent.payload : Sent → List UInt8
  | .daemon _ _ (some (.vec bytes)) _ => bytes
  | .daemon _ _ (some (.sharedMemory _ len _)) (some memory) => memory.bytes.take len
  | .daemon _ _ _ _ => []
  | .zenoh _ _ payload => payload

/-- Event for a decoded payload. -/
def receivedEvent (inputId : DataId) (metadata : Metadata) :
    Except String ArrayData → Event ArrayData
  | .ok array => .input inputId metadata array
  | .error err => .error err

private theorem convert_nodeEvent (env : StreamEnv ArrayData) (id : DataId) (metadata : Metadata)
    (data : Option DataMessage) :
    convertEventItem env (.nodeEvent (.input id metadata data)) =
      receivedEvent id metadata (env.dataToArrowArray data metadata) := by
  rw [convertEventItem]
  cases env.dataToArrowArray data metadata <;> rfl

private theorem convert_zenohInput (env : StreamEnv ArrayData) (id : DataId) (metadata : Metadata)
    (payload : List UInt8) :
    convertEventItem env (.zenohInput id metadata payload) =
      receivedEvent id metadata (env.zenohPayloadToArrowArray payload metadata) := by
  rw [convertEventItem]
  cases env.zenohPayloadToArrowArray payload metadata <;> rfl

/-- Every receiver gets what a decoder returns. -/
def Sent.Received (sent : Sent) (decode : Decoders → Except String ArrayData) : Prop :=
  ∀ (d : Decoders) (regions : String → Option (List UInt8)) (inputId : DataId),
    sent.Intact regions → convertEventItem (streamEnv d regions) (sent.item inputId) =
      receivedEvent inputId sent.metadata (decode d)

/-- The decoder for a format. -/
def Decoders.decode (d : Decoders) : OutputFraming → List UInt8 → ArrowTypeInfo →
    Except String ArrayData
  | .raw, bytes, typeInfo => d.bufferIntoArrowArray bytes typeInfo
  | .arrowIpc, bytes, _ => d.decodeArrowIpc bytes

/-- Every receiver decodes the payload by the format, whatever the two decoders do. -/
def Sent.DecodedAs (sent : Sent) (framing : OutputFraming) : Prop :=
  sent.Received fun d => d.decode framing sent.payload sent.metadata.typeInfo

/-- The format that the metadata name. -/
def metadataFraming (metadata : Metadata) : OutputFraming :=
  if isIpc metadata then .arrowIpc else .raw

section

variable {node : DoraNode} {env : SendEnv} {outputId : DataId} {typeInfo : ArrowTypeInfo}
  {parameters : MetadataParameters} {sent : Sent} {metadata : Metadata}

private theorem intoArrowArray_some (d : Decoders) (bytes : List UInt8) (metadata : Metadata) :
    intoArrowArray d (some bytes) metadata.typeInfo (isIpc metadata) =
      d.decode (metadataFraming metadata) bytes metadata.typeInfo := by
  unfold intoArrowArray metadataFraming
  cases isIpc metadata <;> rfl

private theorem received_zenoh {payload : List UInt8} (h : payload ≠ []) :
    (Sent.zenoh outputId metadata payload).DecodedAs (metadataFraming metadata) := by
  intro d regions inputId _
  have hdecode : zenohPayloadToArrowArray d payload metadata =
      d.decode (metadataFraming metadata) payload metadata.typeInfo := by
    unfold zenohPayloadToArrowArray metadataFraming
    cases isIpc metadata <;> simp [h, Decoders.decode]
  rw [Sent.item, convert_zenohInput]
  exact congrArg (receivedEvent inputId metadata) hdecode

private theorem received_daemon (metadata : Metadata) (sample : DataSample) (dropToken : Nat) :
    (Sent.daemon outputId metadata (some (sample.finalize dropToken).1)
      (sample.finalize dropToken).2).DecodedAs (metadataFraming metadata) := by
  intro d regions inputId hintact
  have hdecode : dataToArrowArray d regions (some (sample.finalize dropToken).1) metadata =
      d.decode (metadataFraming metadata) sample.bytes metadata.typeInfo := by
    cases sample with
    | vec bytes => exact intoArrowArray_some d bytes metadata
    | shmem memory len fits =>
      have hmap : mapInput regions memory.osId len = .ok (memory.bytes.take len) := by
        simp [mapInput, hintact memory rfl, Nat.not_lt.mpr fits]
      simp only [DataSample.finalize, dataToArrowArray, hmap]
      exact intoArrowArray_some d _ metadata
  have hpayload : (Sent.daemon outputId metadata (some (sample.finalize dropToken).1)
      (sample.finalize dropToken).2).payload = sample.bytes := by
    cases sample <;> rfl
  rw [Sent.item, convert_nodeEvent, hpayload]
  exact congrArg (receivedEvent inputId metadata) hdecode

/-- What becomes of a sample: both ways keep its bytes and its type information, and the receiver
decodes them by the format that the metadata name. -/
theorem sendOutputSample_eq_ok {sample : DataSample}
    (h : node.sendOutputSample env outputId typeInfo parameters (some sample) = .ok sent) :
    sent.outputId = outputId ∧ sent.metadata.typeInfo = typeInfo ∧
      sent.metadata.parameters = DoraNode.withTelemetry env parameters ∧
      sent.payload = sample.bytes ∧ sent.DecodedAs (metadataFraming sent.metadata) := by
  have h : node.route env outputId (DoraNode.outputMetadata env typeInfo parameters)
      (some (sample.finalize env.dropToken).1) (sample.finalize env.dropToken).2 = .ok sent := by
    unfold DoraNode.sendOutputSample at h
    split at h
    · exact (except_bind_eq_ok.mp h).choose_spec.2
    · exact h
  simp only [DoraNode.route] at h
  split at h
  · next hzenoh =>
    obtain rfl := Except.ok.inj h
    refine ⟨rfl, rfl, rfl, ?_, received_zenoh hzenoh.2.1⟩
    cases sample with
    | vec bytes => rfl
    | shmem memory len fits => exact absurd rfl hzenoh.2.1
  · split at h
    · obtain rfl := Except.ok.inj h
      exact ⟨rfl, rfl, rfl, by cases sample <;> rfl, received_daemon _ sample env.dropToken⟩
    · cases h

/-- The parameters name the IPC format. -/
def Marked (parameters : MetadataParameters) : Prop :=
  getStringParam parameters Message.framing = some framingArrowIpc

instance (parameters : MetadataParameters) : Decidable (Marked parameters) :=
  inferInstanceAs (Decidable (_ = _))

/-- Marked messages are read as IPC. -/
theorem metadataFraming_eq_arrowIpc :
    metadataFraming metadata = .arrowIpc ↔ Marked metadata.parameters := by
  simp [metadataFraming, isIpc, Marked]

/-- Others are read as raw copies. -/
theorem metadataFraming_eq_raw :
    metadataFraming metadata = .raw ↔ ¬ Marked metadata.parameters := by
  simp [metadataFraming, isIpc, Marked]

/-- Tracing leaves the marker alone. -/
theorem marked_withTelemetry :
    Marked (DoraNode.withTelemetry env parameters) ↔ Marked parameters := by
  unfold DoraNode.withTelemetry
  split
  · rw [Marked, Marked, getStringParam, getStringParam, AList.lookup_insert_ne (by decide)]
  · exact Iff.rfl

private theorem marked_insert (parameters : MetadataParameters) :
    Marked (parameters.insert Message.framing (.string framingArrowIpc)) := by
  simp [Marked, getStringParam]

/-- How a sent message was encoded. -/
inductive Encoded (arrow : ArrowCrate) (ipc : IpcCrate) (data : ArrayData) (sent : Sent) :
    OutputFraming → Prop
  | raw {target : List UInt8} (hlen : target.length = requiredDataSize arrow data)
    (hcopy : copyArrayIntoSample arrow target data = .ok (sent.payload, sent.metadata.typeInfo)) :
    Encoded arrow ipc data sent .raw
  | arrowIpc (hwrite : ipc.write data = .ok sent.payload) : Encoded arrow ipc data sent .arrowIpc

variable {arrow : ArrowCrate} {ipc : IpcCrate} {data : ArrayData}

private theorem length_allocateDataSample {len : Nat} {sample : DataSample}
    (h : node.allocateDataSample env len = .ok sample) : sample.bytes.length = len := by
  unfold DoraNode.allocateDataSample at h
  split at h
  · split at h
    · next memory _ =>
      obtain rfl := Except.ok.inj h
      simpa [DataSample.bytes] using memory.property
    · cases h
  · obtain rfl := Except.ok.inj h
    simp [DataSample.bytes]

private theorem sendRaw_eq_ok (h : node.sendRaw env arrow outputId parameters data = .ok sent) :
    sent.outputId = outputId ∧ Encoded arrow ipc data sent .raw ∧
      sent.DecodedAs (metadataFraming sent.metadata) ∧
      sent.metadata.parameters = DoraNode.withTelemetry env parameters := by
  obtain ⟨sample, hsample, h⟩ := Outcome.bind_eq_ok.mp h
  obtain ⟨⟨bytes, info⟩, hcopy, h⟩ := Outcome.bind_eq_ok.mp h
  have hlen := length_allocateDataSample (Outcome.ofExcept_eq_ok.mp hsample)
  dsimp only at h
  split at h
  · next hsent =>
    obtain rfl := Outcome.ok.inj h
    obtain ⟨hid, hinfo, hparams, hpayload, hdecoded⟩ := sendOutputSample_eq_ok hsent
    rw [DataSample.bytes_write] at hpayload
    exact ⟨hid, .raw hlen (by rw [hcopy, hpayload, hinfo]), hdecoded, hparams⟩
  · cases h

private theorem sendIpc_eq_ok (h : node.sendIpc env arrow ipc outputId parameters data = .ok sent) :
    sent.outputId = outputId ∧ Encoded arrow ipc data sent .arrowIpc ∧
      sent.DecodedAs (metadataFraming sent.metadata) ∧
      Marked sent.metadata.parameters := by
  unfold DoraNode.sendIpc at h
  split at h
  · cases h
  · next ipcBuf hwrite =>
    obtain ⟨sample, -, h⟩ := Outcome.bind_eq_ok.mp h
    dsimp only at h
    split at h
    · next hsent =>
      obtain rfl := Outcome.ok.inj h
      obtain ⟨hid, -, hparams, hpayload, hdecoded⟩ := sendOutputSample_eq_ok hsent
      rw [DataSample.bytes_write] at hpayload
      refine ⟨hid, .arrowIpc (by rw [hwrite, hpayload]), hdecoded, ?_⟩
      rw [hparams, marked_withTelemetry]
      exact marked_insert parameters
    · cases h

/-- What `send_output` sends: an encoding of the array by the configured format, which the receiver
decodes by the format that the metadata name. That is IPC if the output is configured so or the user
has passed the marker. -/
theorem sendOutput_eq_some
    (h : node.sendOutput env arrow ipc outputId parameters data = .ok (some sent)) :
    sent.outputId = outputId ∧ Encoded arrow ipc data sent (node.framing outputId) ∧
      sent.DecodedAs (metadataFraming sent.metadata) ∧
      (Marked sent.metadata.parameters ↔
        node.framing outputId = .arrowIpc ∨ Marked parameters) := by
  unfold DoraNode.sendOutput at h
  split at h
  · cases h
  · split at h
    · cases h
    · cases hframing : node.framing outputId with
      | raw =>
        rw [hframing] at h
        obtain ⟨_, h, ⟨⟩⟩ := Outcome.map_eq_ok.mp h
        obtain ⟨hid, hencoded, hdecoded, hparams⟩ := sendRaw_eq_ok h
        refine ⟨hid, hencoded, hdecoded, ?_⟩
        rw [hparams, marked_withTelemetry]
        simp
      | arrowIpc =>
        rw [hframing] at h
        obtain ⟨_, h, ⟨⟩⟩ := Outcome.map_eq_ok.mp h
        obtain ⟨hid, hencoded, hdecoded, hmarked⟩ := sendIpc_eq_ok h
        exact ⟨hid, hencoded, hdecoded, iff_of_true hmarked (.inl rfl)⟩

/-- Two decoders that never agree. -/
def disagreeing : Decoders where
  bufferIntoArrowArray _ _ := .error "raw"
  decodeArrowIpc _ := .error "ipc"

/-- Some memory has the message intact. -/
theorem Sent.exists_intact (sent : Sent) : ∃ regions, sent.Intact regions := by
  cases sent with
  | daemon _ _ _ shmem =>
    refine ⟨fun _ => shmem.map Shmem.bytes, ?_⟩
    rintro memory ⟨⟩
    rfl
  | zenoh _ _ _ => exact ⟨fun _ => none, True.intro⟩

private theorem decodedAs_unique {framing framing' : OutputFraming} (h : sent.DecodedAs framing)
    (h' : sent.DecodedAs framing') : framing = framing' := by
  obtain ⟨regions, hintact⟩ := sent.exists_intact
  have heq := (h disagreeing regions sent.outputId hintact).symm.trans
    (h' disagreeing regions sent.outputId hintact)
  cases framing <;> cases framing' <;>
    first | rfl | exact absurd heq (by simp [receivedEvent, Decoders.decode, disagreeing])

private theorem decodedAs_iff
    (h : node.sendOutput env arrow ipc outputId parameters data = .ok (some sent)) :
    sent.DecodedAs (node.framing outputId) ↔
      node.framing outputId = .arrowIpc ∨ ¬ Marked parameters := by
  obtain ⟨-, -, hdecoded, hmarked⟩ := sendOutput_eq_some h
  have hnamed : sent.DecodedAs (node.framing outputId) ↔
      metadataFraming sent.metadata = node.framing outputId :=
    ⟨fun h => decodedAs_unique hdecoded h, fun h => h ▸ hdecoded⟩
  rw [← metadataFraming_eq_arrowIpc] at hmarked
  rw [hnamed]
  generalize node.framing outputId = framing at hmarked ⊢
  cases framing with
  | arrowIpc => simpa using hmarked
  | raw => cases hf : metadataFraming sent.metadata <;> simpa [hf] using hmarked

end

/-! ## Messages that are passed on -/

section

variable (arrow : ArrowCrate) (ipc : IpcCrate) {received : List MetadataParameters}

/-- An output of some node. User code passes parameters that may depend on those of all messages that
have been received. -/
structure Send where
  node : DoraNode
  env : SendEnv
  outputId : DataId
  parameters : List MetadataParameters → MetadataParameters
  data : ArrayData

namespace Send

def framing (s : Send) : OutputFraming := s.node.framing s.outputId

def result (received : List MetadataParameters) (s : Send) : Outcome String (Option Sent) :=
  s.node.sendOutput s.env arrow ipc s.outputId (s.parameters received) s.data

/-- One send, after which its message has been received. -/
def step (received : List MetadataParameters) (s : Send) :
    List MetadataParameters × Outcome String (Option Sent) :=
  let result := s.result arrow ipc received
  match result with
  | .ok (some sent) => (received ++ [sent.metadata.parameters], result)
  | _ => (received, result)

/-- If a message is sent, it is decoded by the format in which it was encoded. -/
def Agrees (received : List MetadataParameters) (s : Send) : Prop :=
  ∀ sent, s.result arrow ipc received = .ok (some sent) →
    Encoded arrow ipc s.data sent s.framing ∧ sent.DecodedAs s.framing

/-- If a message is sent, its output has the IPC format or its parameters do not name it. -/
def Unmarked (received : List MetadataParameters) (s : Send) : Prop :=
  ∀ sent, s.result arrow ipc received = .ok (some sent) →
    s.framing = .arrowIpc ∨ ¬ Marked (s.parameters received)

variable {arrow ipc}

private theorem agrees_iff {s : Send} :
    s.Agrees arrow ipc received ↔ s.Unmarked arrow ipc received := by
  refine forall_congr' fun sent => forall_congr' fun hsent => ?_
  obtain ⟨-, hencoded, -⟩ := sendOutput_eq_some hsent
  exact (and_iff_right hencoded).trans (decodedAs_iff hsent)

end Send

variable {arrow ipc}

/-- In every run of sends: all messages are decoded by the format of their encoding exactly if raw
outputs are not sent with parameters that name the IPC format. -/
theorem messages_agree_iff (received : List MetadataParameters) (sends : List Send) :
    Machine.Along (Send.step arrow ipc) (fun received s => s.Agrees arrow ipc received) received
        sends ↔
      Machine.Along (Send.step arrow ipc) (fun received s => s.Unmarked arrow ipc received) received
        sends := by
  simp only [Send.agrees_iff]

variable (arrow ipc) in
/-- The message is sent, with the parameters of the last message that was received. -/
def Send.Forwards (initial : MetadataParameters) (received : List MetadataParameters) (s : Send) :
    Prop :=
  s.parameters received = received.getLastD initial ∧
    ∃ sent, s.result arrow ipc received = .ok (some sent)

variable {initial : MetadataParameters}

private theorem forwarded_along {sends : List Send}
    (h : Machine.Along (Send.step arrow ipc) (Send.Forwards arrow ipc initial) received sends) :
    Machine.Along (Send.step arrow ipc) (fun received s => s.Agrees arrow ipc received) received
        sends ↔
      (Marked (received.getLastD initial) → ∀ s ∈ sends, s.framing = .arrowIpc) ∧
        sends.Pairwise fun before after => before.framing = .arrowIpc → after.framing = .arrowIpc := by
  induction sends generalizing received with
  | nil => simp [Machine.Along]
  | cons s sends ih =>
    obtain ⟨⟨hparams, sent, hsent⟩, htail⟩ := h
    have hstep : (Send.step arrow ipc received s).1 = received ++ [sent.metadata.parameters] := by
      simp only [Send.step, hsent]
    have hmarked : Marked sent.metadata.parameters ↔
        s.framing = .arrowIpc ∨ Marked (received.getLastD initial) :=
      hparams ▸ (sendOutput_eq_some hsent).2.2.2
    have hagrees : s.Agrees arrow ipc received ↔
        s.framing = .arrowIpc ∨ ¬ Marked (received.getLastD initial) := by
      rw [Send.agrees_iff, ← hparams]
      exact ⟨fun h => h sent hsent, fun h _ _ => h⟩
    have hrest := ih htail
    rw [hstep] at hrest
    simp only [Machine.Along, hagrees, hstep, hrest, List.getLastD_concat, hmarked,
      List.forall_mem_cons, List.pairwise_cons]
    -- once an output has the IPC format, all later ones need it
    by_cases hipc : s.framing = .arrowIpc
    · simp only [hipc, true_or, true_and, forall_const]
      exact ⟨fun h => ⟨fun _ => h.1, h⟩, And.right⟩
    · simp only [hipc, false_or, false_and, IsEmpty.forall_iff, implies_true, true_and]
      exact ⟨fun h => ⟨h.1, h.2.2⟩, fun h => ⟨h.1, fun hm => absurd hm h.1, h.2⟩⟩

/-- Parameters are passed on from message to message: all are decoded by the format of their encoding
exactly if no raw output comes after one in the IPC format. -/
theorem forwarded_agree_iff {sends : List Send} (hinitial : ¬ Marked initial)
    (h : Machine.Along (Send.step arrow ipc) (Send.Forwards arrow ipc initial) [] sends) :
    Machine.Along (Send.step arrow ipc) (fun received s => s.Agrees arrow ipc received) [] sends ↔
      sends.Pairwise fun before after => before.framing = .arrowIpc → after.framing = .arrowIpc :=
  (forwarded_along h).trans (and_iff_right fun hmarked => absurd hmarked hinitial)

end

/-! ## An IPC stream that is passed on as a raw copy -/

/-- A crate whose only stream holds the array of three integers. One byte stands for the bytes of
the stream, of which only matters that they are not those of a raw copy. -/
def oneStream : IpcCrate where
  write _ := .ok [1]
  read bytes := if bytes = [1] then .ok [.ok [threeInts]] else .error "no stream"

/-- Surroundings in which every call succeeds. -/
def quietEnv : SendEnv where
  timestamp := ⟨0, 0⟩
  allocateSharedMemory len := .ok ⟨⟨"region", List.replicate len 0⟩, by simp⟩

/-- An output named `out`. -/
def outId : DataId := ⟨"out", by decide⟩

/-- A node with one output sends three integers and passes on the last parameters. -/
def forwardOut (framing : OutputFraming) : Send where
  node := { outputs := [outId], outputFraming := AList.singleton outId framing }
  env := quietEnv
  outputId := outId
  parameters received := received.getLastD ∅
  data := threeInts

/-- The second message is a raw copy, and its receiver takes it for an IPC stream. -/
theorem forwardOut_not_agree :
    ¬ Machine.Along (Send.step smallCrate oneStream)
      (fun received s => s.Agrees smallCrate oneStream received) []
      [forwardOut .arrowIpc, forwardOut .raw] := by
  have hforwards : Machine.Along (Send.step smallCrate oneStream)
      (Send.Forwards smallCrate oneStream ∅) [] [forwardOut .arrowIpc, forwardOut .raw] :=
    ⟨⟨rfl, _, rfl⟩, ⟨rfl, _, rfl⟩, True.intro⟩
  rw [forwarded_agree_iff (by decide) hforwards]
  decide

end DoraSpec.Node
