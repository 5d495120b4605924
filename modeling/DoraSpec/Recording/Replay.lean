import DoraSpec.Node.FramingAgreement
import DoraSpec.Recording.RecordNode
import DoraSpec.Recording.RoundTrip

/-!
# Replayed messages

The record node keeps the metadata of a message and makes a raw copy of its array. A message that has
been sent as an IPC stream keeps the parameter that says so, and when it is replayed its receiver takes
the raw copy for a stream. Raw messages arrive as they were.
-/

namespace DoraSpec.Recording

open List
open Base Base.Bytes Arrow Message DoraSpec.Node Outcome

variable (arrow : ArrowCrate) (ipc : IpcCrate)

/-! ## Messages -/

/-- Every raw copy of the array decodes to it, with the type information of the copy. -/
def CopyDecodes (a : ArrayData) : Prop :=
  ∀ target sample info, target.length = requiredDataSize arrow a →
    copyArrayIntoSample arrow target a = .ok (sample, info) →
      bufferIntoArrowArray arrow sample info = .ok a

/-- No raw copy of an array is an IPC stream of this array. -/
def CopiesAreNoStreams : Prop :=
  ∀ a raw, rawCopy arrow a = .ok raw → decodeArrowIpc ipc (raw.getD []) ≠ .ok a

/-- A message that `send_output` has sent was received with these metadata and this array. -/
inductive Delivered : Metadata → ArrayData → Prop
  | intro {node : DoraNode} {env : SendEnv} {outputId : DataId} {parameters : MetadataParameters}
    {a data : ArrayData} {sent : Sent} {regions : String → Option (List UInt8)} {inputId : DataId}
    {metadata : Metadata}
    (hsent : node.sendOutput env arrow ipc outputId parameters a = .ok (some sent))
    (hcopy : CopyDecodes arrow a) (hintact : sent.Intact regions)
    (hreceived : convertEventItem (streamEnv (decoders arrow ipc) regions) (sent.item inputId) =
      .input inputId metadata data) : Delivered metadata data

/-- Message at the record node. -/
structure Received where
  now : UInt64
  source : String × String
  metadata : Metadata
  data : ArrayData

/-- Messages of the inputs that are recorded, up to the end of the recording. -/
def received (sources : Sources) : List (UInt64 × Event ArrayData) → List Received
  | [] => []
  | (now, .input id metadata data) :: events =>
    match sources.lookup id.val with
    | none => received sources events
    | some source => ⟨now, source, metadata, data⟩ :: received sources events
  | (_, .stop _) :: _ => []
  | _ :: events => received sources events

/-- What a replayed message has in common with the recorded one: the output, the array that its
receivers decode, and the parameters, except for a tracing context that is added if there was none. -/
structure Faithful (m : Received) (sent : Sent) : Prop where
  outputId : sent.outputId.val = m.source.2
  decoded : ∀ (regions : String → Option (List UInt8)) (inputId : DataId), sent.Intact regions →
    convertEventItem (streamEnv (decoders arrow ipc) regions) (sent.item inputId) =
      .input inputId sent.metadata m.data
  parameters : ∀ key, (m.metadata.parameters.lookup key).isSome ∨ key ≠ openTelemetryContext →
    sent.metadata.parameters.lookup key = m.metadata.parameters.lookup key

variable {arrow ipc}

private theorem receivedEvent_eq_input {inputId : DataId} {metadata metadata' : Metadata}
    {result : Except String ArrayData} {data : ArrayData} :
    receivedEvent inputId metadata result = .input inputId metadata' data ↔
      metadata = metadata' ∧ result = .ok data := by
  cases result <;> simp [receivedEvent]

/-- A received message that does not name the IPC format has been sent as a raw copy of its array. -/
theorem Delivered.copied {metadata : Metadata} {data : ArrayData}
    (h : Delivered arrow ipc metadata data) (hmarked : ¬ Marked metadata.parameters) :
    CopyDecodes arrow data ∧ ∃ target sample,
      copyArrayIntoSample arrow target data = .ok (sample, metadata.typeInfo) := by
  obtain ⟨hsent, hcopy, hintact, hreceived⟩ := h
  next node env outputId parameters a sent regions inputId =>
  obtain ⟨-, hencoded, hdecoded, hnames⟩ := sendOutput_eq_some hsent
  rw [hdecoded (decoders arrow ipc) regions inputId hintact, receivedEvent_eq_input] at hreceived
  obtain ⟨rfl, hreceived⟩ := hreceived
  rw [metadataFraming_eq_raw.mpr hmarked] at hreceived
  cases hframing : node.framing outputId with
  | arrowIpc => exact absurd (hnames.mpr (.inl hframing)) hmarked
  | raw =>
    rw [hframing] at hencoded
    obtain ⟨hlen, hcopied⟩ := hencoded
    have hsame : data = a :=
      Except.ok.inj (hreceived.symm.trans (hcopy _ _ _ hlen hcopied))
    subst hsame
    exact ⟨hcopy, _, _, hcopied⟩

private theorem rawCopy_eq_ok {a : ArrayData} {raw : Option (List UInt8)}
    (h : rawCopy arrow a = .ok raw) :
    ∃ target info, target.length = requiredDataSize arrow a ∧
      copyArrayIntoSample arrow target a = .ok (raw.getD [], info) := by
  unfold rawCopy at h
  dsimp only at h
  split at h
  · obtain ⟨⟨buf, info⟩, hcopy, h⟩ := bind_eq_ok.mp h
    obtain rfl := Outcome.ok.inj h
    exact ⟨_, info, length_replicate, hcopy⟩
  · next hsize =>
    obtain rfl := Outcome.ok.inj h
    have hzero : requiredDataSize arrow a = 0 := by omega
    obtain ⟨sample, info, hcopy, hagree, -⟩ := copiesAt a [] 0 hzero.le
    have hempty : sample = [] := eq_nil_of_length_eq_zero hagree.1
    exact ⟨[], info, hzero.symm, by rw [copyArrayIntoSample, hcopy, hempty]; rfl⟩

/-! ## Entries -/

variable {bincode : EventSerializer} {startNanos : UInt64}

variable (arrow bincode) in
/-- The entry holds the message with a raw copy of its array. -/
structure Holds (m : Received) (entry : RecordEntry) : Prop where
  nodeId : entry.nodeId = m.source.1
  outputId : entry.outputId = m.source.2
  event : ∃ nodeId outputId raw timestamp, outputId.val = m.source.2 ∧ rawCopy arrow m.data = .ok raw ∧
    bincode.deserialize entry.eventBytes = .ok ⟨.output .nil nodeId outputId m.metadata raw, timestamp⟩

private theorem recordEntry_eq_ok {m : Received} {entry : RecordEntry}
    (h : recordEntry arrow bincode startNanos m.now m.source m.metadata m.data = .ok entry) :
    Holds arrow bincode m entry := by
  obtain ⟨raw, hraw, h⟩ := bind_eq_ok.mp h
  obtain ⟨nodeId, -, h⟩ := bind_eq_ok.mp h
  obtain ⟨outputId, hid, h⟩ := bind_eq_ok.mp h
  dsimp only at h
  split at h
  · cases h
  · next hserialize =>
    obtain rfl := Outcome.ok.inj h
    refine ⟨rfl, rfl, nodeId, outputId, raw, _, ?_, hraw, bincode.roundTrip hserialize⟩
    rcases DataId.from_cases (ε := String) m.source.2 with ⟨hvalid, hok⟩ | ⟨hpanics, -⟩
    · rw [hok] at hid
      obtain rfl := Outcome.ok.inj hid
      rfl
    · rw [hid] at hpanics
      exact absurd hpanics (not_panics_ok _)

private theorem recordLoop_eq_ok {sources : Sources} {events : List (UInt64 × Event ArrayData)}
    {w v : RecordingWriter} (h : recordLoop arrow bincode startNanos sources w events = .ok v) :
    ∃ entries, w.writeEntries entries = .ok v ∧
      List.Forall₂ (Holds arrow bincode) (received sources events) entries := by
  fun_induction recordLoop arrow bincode startNanos sources w events with
  | case1 | case4 => exact ⟨[], congrArg Except.ok (Outcome.ok.inj h), .nil⟩
  | case2 w now id metadata data events hlookup ih =>
    rw [received, hlookup]
    exact ih h
  | case3 w now id metadata data events source hlookup ih =>
    obtain ⟨entry, hentry, h⟩ := bind_eq_ok.mp h
    obtain ⟨w', hwrite, h⟩ := bind_eq_ok.mp h
    obtain ⟨entries, hentries, hholds⟩ := ih w' h
    rw [received, hlookup]
    refine ⟨entry :: entries, ?_, .cons (recordEntry_eq_ok hentry) hholds⟩
    exact except_bind_eq_ok.mpr ⟨w', ofExcept_eq_ok.mp hwrite, hentries⟩
  | case5 w event events hinput hstop ih =>
    have hskip : received sources (event :: events) = received sources events := by
      obtain ⟨now, event⟩ := event
      cases event <;> first | rfl | exact (hinput _ _ _ _ rfl).elim | exact (hstop _ _ rfl).elim
    rw [hskip]
    exact ih h

/-! ## Replayed entries -/

/-- Memory can be allocated and the daemon takes messages. -/
structure Works (env : SendEnv) : Prop where
  memory : ∀ len, ∃ memory, env.allocateSharedMemory len = .ok memory
  dropTokens : env.finishedDropTokens = .ok ()
  daemon : env.sendMessage = .ok ()

variable {node : DoraNode} {env : SendEnv}

private theorem sendTypedOutput_eq_ok (hworks : Works env) {outputId : DataId}
    (hout : outputId ∈ node.outputs)
    (typeInfo : ArrowTypeInfo) (parameters : MetadataParameters) (data : List UInt8) :
    ∃ sent sample, node.sendTypedOutput env outputId typeInfo parameters data = .ok (some sent) ∧
      sample.bytes = data ∧
      node.sendOutputSample env outputId typeInfo parameters (some sample) = .ok sent := by
  have hsample : ∃ sample, node.allocateDataSample env data.length = .ok sample := by
    unfold DoraNode.allocateDataSample
    obtain ⟨memory, hmemory⟩ := hworks.memory data.length
    split
    · exact ⟨_, by rw [hmemory]⟩
    · exact ⟨_, rfl⟩
  obtain ⟨sample, hsample⟩ := hsample
  have hroute : ∀ metadata data shmem, ∃ sent, node.route env outputId metadata data shmem = .ok sent := by
    intro metadata data shmem
    unfold DoraNode.route
    dsimp only
    split
    · exact ⟨_, rfl⟩
    · exact ⟨_, by rw [hworks.daemon]⟩
  have hsend : ∃ sent, node.sendOutputSample env outputId typeInfo parameters
      (some (sample.write data)) = .ok sent := by
    unfold DoraNode.sendOutputSample
    rw [hworks.dropTokens]
    split <;> exact hroute _ _ _
  obtain ⟨sent, hsend⟩ := hsend
  refine ⟨sent, sample.write data, ?_, DataSample.bytes_write _ _, hsend⟩
  have hvalid : node.validateOutput outputId = true := by simp [DoraNode.validateOutput, hout]
  simp only [DoraNode.sendTypedOutput, hvalid, hsample]
  change some <$> node.sendOutputSample env outputId typeInfo parameters (some (sample.write data)) = _
  rw [hsend]
  rfl

private theorem lookup_withTelemetry {parameters : MetadataParameters} {key : String}
    (h : (parameters.lookup key).isSome ∨ key ≠ openTelemetryContext) :
    (DoraNode.withTelemetry env parameters).lookup key = parameters.lookup key := by
  unfold DoraNode.withTelemetry
  split
  · next hnone =>
    refine AList.lookup_insert_ne fun heq => ?_
    subst heq
    simp_all
  · rfl

private theorem faithful_iff {m : Received} {sent : Sent} {sample : DataSample} {outputId : DataId}
    {raw : Option (List UInt8)} (hstreams : CopiesAreNoStreams arrow ipc)
    (hdelivered : Delivered arrow ipc m.metadata m.data) (hid : outputId.val = m.source.2)
    (hraw : rawCopy arrow m.data = .ok raw) (hbytes : sample.bytes = raw.getD [])
    (hsent : node.sendOutputSample env outputId m.metadata.typeInfo m.metadata.parameters (some sample) =
      .ok sent) :
    Faithful arrow ipc m sent ↔ ¬ Marked m.metadata.parameters := by
  obtain ⟨hsentId, hinfo, hparams, hpayload, hdecoded⟩ := sendOutputSample_eq_ok hsent
  have hmarked : Marked sent.metadata.parameters ↔ Marked m.metadata.parameters := by
    rw [hparams, marked_withTelemetry]
  rw [hbytes] at hpayload
  have hevent := fun regions inputId => hdecoded (decoders arrow ipc) regions inputId
  constructor
  · intro h hm
    obtain ⟨regions, hintact⟩ := sent.exists_intact
    have harray := h.decoded regions outputId hintact
    rw [hevent regions outputId hintact, receivedEvent_eq_input,
      metadataFraming_eq_arrowIpc.mpr (hmarked.mpr hm), hpayload] at harray
    exact hstreams m.data raw hraw harray.2
  · intro hm
    obtain ⟨hcopy, target, bytes, hcopied⟩ := hdelivered.copied hm
    obtain ⟨target', info, hlen, hcopied'⟩ := rawCopy_eq_ok hraw
    obtain rfl := copyArrayIntoSample_info hcopied hcopied'
    refine ⟨hsentId ▸ hid, ?_, fun key hkey => by rw [hparams, lookup_withTelemetry hkey]⟩
    intro regions inputId hintact
    rw [hevent regions inputId hintact, receivedEvent_eq_input,
      metadataFraming_eq_raw.mpr (mt hmarked.mp hm), hpayload, hinfo]
    exact ⟨rfl, hcopy _ _ _ hlen hcopied'⟩

/-! ## Whole recordings -/

private theorem forall₂_iff_of_forall₂ {α β : Type} {R : α → β → Prop} {P : α → Prop} {as : List α}
    {bs : List β} (h : List.Forall₂ (fun a b => R a b ↔ P a) as bs) :
    List.Forall₂ R as bs ↔ ∀ a ∈ as, P a := by
  induction h with
  | nil => simp
  | cons h _ ih => simp [h, ih]

/-- The messages of a source. -/
def ofSource (replayNode : String) (messages : List Received) : List Received :=
  messages.filter fun m => m.source.1 = replayNode

private theorem replayEntries_holds {env : Nat → SendEnv} {replayNode : String}
    {messages : List Received}
    {entries : List RecordEntry} (hstreams : CopiesAreNoStreams arrow ipc)
    (hworks : ∀ i, Works (env i))
    (hout : ∀ m ∈ ofSource replayNode messages, ∀ id : DataId, id.val = m.source.2 →
      id ∈ node.outputs)
    (hdelivered : ∀ m ∈ ofSource replayNode messages, Delivered arrow ipc m.metadata m.data)
    (h : List.Forall₂ (Holds arrow bincode) messages entries) (i : Nat) :
    (replayEntries bincode node env replayNode i entries).2 = .ok () ∧
      List.Forall₂ (fun m sent => Faithful arrow ipc m sent ↔ ¬ Marked m.metadata.parameters)
        (ofSource replayNode messages) (replayEntries bincode node env replayNode i entries).1 := by
  induction h generalizing i with
  | nil => exact ⟨rfl, .nil⟩
  | @cons m entry messages entries hm _ ih =>
    rw [replayEntries]
    by_cases hsource : m.source.1 = replayNode
    · have hcons : ofSource replayNode (m :: messages) = m :: ofSource replayNode messages := by
        simp [ofSource, hsource]
      rw [hcons, forall_mem_cons] at hout hdelivered
      rw [hcons]
      obtain ⟨nodeId, outputId, raw, timestamp, hid, hraw, hevent⟩ := hm.event
      obtain ⟨sent, sample, hsent, hbytes, hsample⟩ := sendTypedOutput_eq_ok (hworks i)
        (hout.1 outputId hid) m.metadata.typeInfo m.metadata.parameters (raw.getD [])
      have hentry : replayEntry bincode node (env i) replayNode entry = .ok (some sent) := by
        simp only [replayEntry, hm.nodeId, hsource, ne_eq, not_true_eq_false, if_false, hevent, hsent]
      rw [hentry]
      obtain ⟨hok, hrest⟩ := ih hout.2 hdelivered.2 (i + 1)
      exact ⟨hok, .cons (faithful_iff hstreams hdelivered.1 hid hraw hbytes hsample) hrest⟩
    · have hskip : ofSource replayNode (m :: messages) = ofSource replayNode messages := by
        simp [ofSource, hsource]
      rw [hskip] at hout hdelivered ⊢
      have hentry : replayEntry bincode node (env i) replayNode entry = .ok none := by
        simp only [replayEntry, hm.nodeId, ne_eq, hsource, not_false_eq_true, if_true]
      rw [hentry]
      exact ih hout hdelivered (i + 1)

/-- Both identifiers of the source fit into a record. -/
def Received.ShortIds (m : Received) : Prop :=
  (ofText m.source.1).length < 2 ^ 16 ∧ (ofText m.source.2).length < 2 ^ 16

private theorem shortIds_of_holds {messages : List Received} {entries : List RecordEntry}
    (h : List.Forall₂ (Holds arrow bincode) messages entries)
    (hshort : ∀ m ∈ messages, m.ShortIds) : ∀ e ∈ entries, e.ShortIds := by
  induction h with
  | nil => simp
  | cons hm _ ih =>
    rw [forall_mem_cons] at hshort ⊢
    refine ⟨?_, ih hshort.2⟩
    rw [RecordEntry.ShortIds, hm.nodeId, hm.outputId]
    exact hshort.1

section

variable {topicMap : List (String × String)} {dataflowId : Uuid} {descriptorYaml : String}
  {events : List (UInt64 × Event ArrayData)} {file : List UInt8} {sources : Sources}

private theorem recordNode_eq_ok
    (h : recordNode arrow bincode topicMap dataflowId descriptorYaml startNanos events = .ok file)
    (hsources : reverseMap topicMap = .ok sources)
    (hshort : ∀ m ∈ received sources events, m.ShortIds) :
    ∃ header entries, readRecording file = .ok (header, entries, .eof) ∧
      List.Forall₂ (Holds arrow bincode) (received sources events) entries := by
  obtain ⟨_, hreverse, h⟩ := bind_eq_ok.mp h
  rw [ofExcept_eq_ok, hsources] at hreverse
  obtain rfl := Except.ok.inj hreverse
  obtain ⟨w, hnew, h⟩ := bind_eq_ok.mp h
  obtain ⟨v, hloop, h⟩ := bind_eq_ok.mp h
  obtain rfl := Outcome.ok.inj h
  obtain ⟨entries, hentries, hholds⟩ := recordLoop_eq_ok hloop
  have hwrite : record ⟨1, startNanos, dataflowId, ofText descriptorYaml⟩ entries = .ok v :=
    except_bind_eq_ok.mpr ⟨w, ofExcept_eq_ok.mp hnew, hentries⟩
  exact ⟨_, entries, readRecording_finish hwrite (UInt16.le_refl _) (shortIds_of_holds hholds hshort),
    hholds⟩

variable {env : Nat → SendEnv} {replayNode : String}
  (hrecord : recordNode arrow bincode topicMap dataflowId descriptorYaml startNanos events = .ok file)
  (hsources : reverseMap topicMap = .ok sources)
  (hshort : ∀ m ∈ received sources events, m.ShortIds)
  (hstreams : CopiesAreNoStreams arrow ipc) (hworks : ∀ i, Works (env i))
  (hout : ∀ m ∈ ofSource replayNode (received sources events), ∀ id : DataId,
    id.val = m.source.2 → id ∈ node.outputs)
  (hdelivered : ∀ m ∈ ofSource replayNode (received sources events),
    Delivered arrow ipc m.metadata m.data)
include hrecord hsources hshort hstreams hworks hout hdelivered

/-- Replaying a finished recording for a source sends its messages in order, and exactly those that
do not name the IPC format arrive as they were. -/
theorem replayPass_spec :
    (replayPass bincode node env replayNode file).2 = .ok () ∧
      List.Forall₂ (fun m sent => Faithful arrow ipc m sent ↔ ¬ Marked m.metadata.parameters)
        (ofSource replayNode (received sources events))
        (replayPass bincode node env replayNode file).1 := by
  obtain ⟨header, entries, hread, hholds⟩ := recordNode_eq_ok hrecord hsources hshort
  obtain ⟨hok, hsent⟩ := replayEntries_holds hstreams hworks hout hdelivered hholds 0
  simp only [replayPass, hread]
  rw [hok]
  exact ⟨rfl, hsent⟩

/-- A finished recording is replayed for a source without errors and its messages arrive in order as
they were, exactly if none of them names the IPC format. -/
theorem replay_faithful_iff :
    ((replayPass bincode node env replayNode file).2 = .ok () ∧
      List.Forall₂ (Faithful arrow ipc) (ofSource replayNode (received sources events))
        (replayPass bincode node env replayNode file).1) ↔
      ∀ m ∈ ofSource replayNode (received sources events), ¬ Marked m.metadata.parameters := by
  obtain ⟨hok, hsent⟩ := replayPass_spec hrecord hsources hshort hstreams hworks hout hdelivered
  rw [and_iff_right hok]
  exact forall₂_iff_of_forall₂ hsent

end

/-! ## A recording of one message -/

/-- A serialiser for one value only, with its bytes. -/
noncomputable def onlyValue {α : Type} (a : α) (bytes : List UInt8) : Serializer α where
  serialize value := open Classical in if value = a then .ok bytes else .error "unknown value"
  deserialize read := if read = bytes then .ok a else .error "unknown bytes"
  roundTrip h := by
    split at h
    · next heq =>
      cases h
      rw [if_pos rfl, heq]
    · cases h

/-- bincode of bytes and texts: their number first. -/
def sized (bytes : List UInt8) : List UInt8 := toLE 8 bytes.length ++ bytes

/-- bincode of a timestamp. -/
def timestampBytes (t : Timestamp) : List UInt8 := toLE 8 t.time.toNat ++ toLE 16 t.id.toNat

/-- bincode of the type information of 32-bit integers without field names. -/
def int32InfoBytes (info : ArrowTypeInfo) : List UInt8 :=
  toLE 4 4 ++ toLE 8 info.len ++ toLE 8 info.nullCount ++
    info.validity.elim [0] (fun bitmap => 1 :: sized bitmap) ++ toLE 8 info.offset ++
    toLE 8 info.bufferOffsets.length ++
    info.bufferOffsets.flatMap (fun b => toLE 8 b.offset ++ toLE 8 b.len) ++
    toLE 8 0 ++ [0] ++ info.schemaHash.elim [0] (fun hash => 1 :: toLE 8 hash.toNat)

/-- bincode of metadata whose parameters are texts. -/
def metadataBytes (m : Metadata) : List UInt8 :=
  toLE 2 m.metadataVersion.toNat ++ timestampBytes m.timestamp ++ int32InfoBytes m.typeInfo ++
    toLE 8 m.parameters.entries.length ++ m.parameters.entries.flatMap fun e =>
      sized (ofText e.1) ++ toLE 4 2 ++ sized (match e.2 with
        | .string text => ofText text
        | _ => [])

/-- Bytes of the array of three integers. -/
def threeIntsBytes : List UInt8 := [1, 0, 0, 0, 0, 0, 0, 0, 3, 0, 0, 0]

/-- Metadata of a message with the array of three integers. -/
def threeIntsMetadata (framing : OutputFraming) : Metadata :=
  match framing with
  | .raw => DoraNode.outputMetadata quietEnv (arrowTypeInfo smallCrate threeInts [⟨0, 12⟩] []) ∅
  | .arrowIpc => DoraNode.outputMetadata quietEnv (DoraNode.ipcTypeInfo smallCrate threeInts)
    ((∅ : MetadataParameters).insert Message.framing (.string framingArrowIpc))

/-- The events of a record node that gets this message. -/
def threeIntsEvents (framing : OutputFraming) : List (UInt64 × Event ArrayData) :=
  [(0, .input outId (threeIntsMetadata framing) threeInts)]

/-- bincode of its recorded event: kind, dataflow, node, output, metadata, data and timestamp. -/
def threeIntsRecord (framing : OutputFraming) : List UInt8 :=
  toLE 4 0 ++ sized (List.replicate 16 0) ++ sized (ofText "n") ++ sized (ofText "out") ++
    metadataBytes (threeIntsMetadata framing) ++ 1 :: sized threeIntsBytes ++
    timestampBytes quietEnv.timestamp

/-- bincode for this event. -/
noncomputable def threeIntsBincode (framing : OutputFraming) : EventSerializer :=
  onlyValue ⟨.output .nil ⟨"n"⟩ outId (threeIntsMetadata framing) (some threeIntsBytes),
    quietEnv.timestamp⟩ (threeIntsRecord framing)

private theorem recordEntry_threeInts (framing : OutputFraming) :
    recordEntry smallCrate (threeIntsBincode framing) 0 0 ("n", "out") (threeIntsMetadata framing)
      threeInts = .ok ⟨"n", "out", 0, threeIntsRecord framing⟩ := by
  have hraw : rawCopy smallCrate threeInts = .ok (some threeIntsBytes) := rfl
  have hnode : (NodeId.from "n" : Outcome String NodeId) = .ok ⟨"n"⟩ := rfl
  have hout : (DataId.from "out" : Outcome String DataId) = .ok outId := rfl
  have hserialize : (threeIntsBincode framing).serialize ⟨.output .nil ⟨"n"⟩ outId
      (threeIntsMetadata framing) (some threeIntsBytes), (threeIntsMetadata framing).timestamp⟩ =
        .ok (threeIntsRecord framing) := by
    cases framing <;> exact if_pos rfl
  simp only [recordEntry, hraw, hnode, hout, ok_bind, hserialize]
  rfl

/-- The topics of the recording. -/
def outSources : Sources := AList.singleton "out" ("n", "out")

private theorem reverseMap_out : reverseMap [("out", "n/out")] = .ok outSources := rfl

private theorem recordLen_threeInts (framing : OutputFraming) :
    recordLen ⟨"n", "out", 0, threeIntsRecord framing⟩ < 400 := by
  cases framing <;> decide +kernel

private theorem recordNode_threeInts (framing : OutputFraming) :
    ∃ file, recordNode smallCrate (threeIntsBincode framing) [("out", "n/out")] .nil "" 0
      (threeIntsEvents framing) = .ok file := by
  have hloop : ∀ w : RecordingWriter, ∃ v, recordLoop smallCrate (threeIntsBincode framing) 0
      outSources w (threeIntsEvents framing) = .ok v := by
    intro w
    have hlookup : outSources.lookup outId.val = some ("n", "out") := rfl
    rw [threeIntsEvents, recordLoop, hlookup]
    dsimp only
    rw [recordEntry_threeInts, ok_bind, RecordingWriter.writeEntry,
      if_neg (by have := recordLen_threeInts framing; simp only [maxRecordBytes]; omega),
      if_neg (by have := recordLen_threeInts framing; omega)]
    exact ⟨_, rfl⟩
  have hnew : ∃ w, RecordingWriter.new ⟨1, 0, .nil, ofText ""⟩ = .ok w := ⟨_, rfl⟩
  obtain ⟨w, hnew⟩ := hnew
  obtain ⟨v, hloop⟩ := hloop w
  refine ⟨v.finish.1, ?_⟩
  simp only [recordNode, reverseMap_out, Outcome.ofExcept, ok_bind, hnew, hloop]
  rfl

private theorem copyDecodes_threeInts : CopyDecodes smallCrate threeInts := by
  intro target sample info hlen hcopy
  obtain ⟨_, _, hcopy', -, hdecodes⟩ := copyArrayIntoSample_spec hlen (by rw [hlen]; decide)
  obtain ⟨rfl, rfl⟩ := Prod.mk.inj (Outcome.ok.inj (hcopy.symm.trans hcopy'))
  exact (hdecodes not_bytesless_threeInts threeInts).mpr ⟨accepted_threeInts, rfl⟩

private theorem copiesAreNoStreams_oneStream : CopiesAreNoStreams smallCrate oneStream := by
  intro a raw hraw hdecode
  have hread : raw.getD [] = [1] ∧ a = threeInts := by
    unfold decodeArrowIpc at hdecode
    split at hdecode
    · cases hdecode
    · by_cases hone : raw.getD [] = [1]
      · rw [hone] at hdecode
        exact ⟨hone, (Except.ok.inj hdecode).symm⟩
      · simp [oneStream, hone] at hdecode
  obtain ⟨hone, rfl⟩ := hread
  obtain rfl : some threeIntsBytes = raw := Outcome.ok.inj hraw
  exact absurd hone (by decide)

/-- Message with the array of three integers. -/
def threeIntsSent (framing : OutputFraming) : Sent :=
  .daemon outId (threeIntsMetadata framing)
    (some (.vec (match framing with
      | .raw => threeIntsBytes
      | .arrowIpc => [1]))) none

private theorem delivered_threeInts (framing : OutputFraming) :
    Delivered smallCrate oneStream (threeIntsMetadata framing) threeInts := by
  have hsent : (forwardOut framing).node.sendOutput quietEnv smallCrate oneStream outId ∅ threeInts =
      .ok (some (threeIntsSent framing)) := by
    cases framing <;> rfl
  have hintact : (threeIntsSent framing).Intact fun _ => none := by
    simp [threeIntsSent, Sent.Intact]
  have hreceived : convertEventItem (streamEnv (decoders smallCrate oneStream) fun _ => none)
      ((threeIntsSent framing).item outId) = .input outId (threeIntsMetadata framing) threeInts := by
    cases framing <;> rfl
  exact .intro hsent copyDecodes_threeInts hintact hreceived

private theorem works_quietEnv : Works quietEnv := ⟨fun _ => ⟨_, rfl⟩, rfl, rfl⟩

/-- The recorded message. -/
def threeIntsReceived (framing : OutputFraming) : Received :=
  ⟨0, ("n", "out"), threeIntsMetadata framing, threeInts⟩

private theorem received_threeInts (framing : OutputFraming) :
    received outSources (threeIntsEvents framing) = [threeIntsReceived framing] := rfl

private theorem ofSource_threeInts (framing : OutputFraming) :
    ofSource "n" (received outSources (threeIntsEvents framing)) = [threeIntsReceived framing] := rfl

section

variable (framing : OutputFraming)

private theorem shortIds_threeInts :
    ∀ m ∈ received outSources (threeIntsEvents framing), m.ShortIds := by
  rw [received_threeInts, forall_mem_singleton]
  change (ofText "n").length < 2 ^ 16 ∧ (ofText "out").length < 2 ^ 16
  decide

private theorem outputs_threeInts :
    ∀ m ∈ ofSource "n" (received outSources (threeIntsEvents framing)),
    ∀ id : DataId, id.val = m.source.2 → id ∈ (forwardOut .raw).node.outputs := by
  rw [ofSource_threeInts, forall_mem_singleton]
  exact fun id hid => mem_singleton.mpr (DataId.ext hid)

private theorem deliveries_threeInts :
    ∀ m ∈ ofSource "n" (received outSources (threeIntsEvents framing)),
    Delivered smallCrate oneStream m.metadata m.data := by
  rw [ofSource_threeInts, forall_mem_singleton]
  exact delivered_threeInts framing

end

/-- A raw message arrives as it was. -/
theorem replay_threeInts : ∃ file,
    recordNode smallCrate (threeIntsBincode .raw) [("out", "n/out")] .nil "" 0 (threeIntsEvents .raw) =
      .ok file ∧
    List.Forall₂ (Faithful smallCrate oneStream) [threeIntsReceived .raw]
      (replayPass (threeIntsBincode .raw) (forwardOut .raw).node (fun _ => quietEnv) "n" file).1 := by
  obtain ⟨file, hfile⟩ := recordNode_threeInts .raw
  have hreplay := (replay_faithful_iff hfile reverseMap_out (shortIds_threeInts .raw)
    copiesAreNoStreams_oneStream (fun _ => works_quietEnv) (outputs_threeInts .raw)
    (deliveries_threeInts .raw)).mpr
  rw [ofSource_threeInts, forall_mem_singleton] at hreplay
  exact ⟨file, hfile, (hreplay (by decide)).2⟩

/-- A message that was sent as an IPC stream is recorded, and no replay of it arrives as it was. -/
theorem replay_threeInts_ipc : ∃ file,
    recordNode smallCrate (threeIntsBincode .arrowIpc) [("out", "n/out")] .nil "" 0
      (threeIntsEvents .arrowIpc) = .ok file ∧
    ¬ List.Forall₂ (Faithful smallCrate oneStream) [threeIntsReceived .arrowIpc]
      (replayPass (threeIntsBincode .arrowIpc) (forwardOut .raw).node (fun _ => quietEnv) "n"
        file).1 := by
  obtain ⟨file, hfile⟩ := recordNode_threeInts .arrowIpc
  obtain ⟨-, hsent⟩ := replayPass_spec hfile reverseMap_out (shortIds_threeInts .arrowIpc)
    copiesAreNoStreams_oneStream (fun _ => works_quietEnv) (outputs_threeInts .arrowIpc)
    (deliveries_threeInts .arrowIpc)
  rw [ofSource_threeInts] at hsent
  refine ⟨file, hfile, ?_⟩
  rw [forall₂_iff_of_forall₂ hsent, forall_mem_singleton]
  decide

end DoraSpec.Recording
