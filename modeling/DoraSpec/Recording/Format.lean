import DoraSpec.Base.Bytes
import DoraSpec.Base.Outcome

/-!
# Recording files

Source `libraries/recording/src/lib.rs`. The writer appends to an in-memory byte sequence that
accepts every write, the reader consumes one; other input and output errors are outside the
model. An error stands for the outermost message of its report.
-/

namespace DoraSpec.Recording
open Base Base.Bytes

/-- First bytes of a recording, `DORAREC\0`; `lib.rs:6`. -/
def magic : List UInt8 := [0x44, 0x4f, 0x52, 0x41, 0x52, 0x45, 0x43, 0x00]

/-- First bytes of the footer, `DORAEND\0`; `lib.rs:7`. -/
def footerMagic : List UInt8 := [0x44, 0x4f, 0x52, 0x41, 0x45, 0x4e, 0x44, 0x00]

/-- Newest supported version of the format; `lib.rs:8`. -/
def formatVersion : UInt16 := 1

/-- Largest record or descriptor; `lib.rs:11`. -/
def maxRecordBytes : Nat := 64 * 1024 * 1024

/-- Identifier of a dataflow: sixteen bytes. -/
structure Uuid where
  bytes : List UInt8
  length_eq : bytes.length = 16
  deriving DecidableEq

/-- `Uuid::nil`. -/
def Uuid.nil : Uuid := ⟨List.replicate 16 0, rfl⟩

/-- Header at the start of a recording; `lib.rs:15-20`. -/
structure RecordingHeader where
  version : UInt16
  startNanos : UInt64
  dataflowId : Uuid
  descriptorYaml : List UInt8
  deriving DecidableEq

/-- One recorded message; `lib.rs:24-29`. -/
structure RecordEntry where
  nodeId : String
  outputId : String
  timestampOffsetNanos : UInt64
  eventBytes : List UInt8
  deriving DecidableEq

/-- Totals written at the end; `lib.rs:33-36`. -/
structure RecordingFooter where
  totalMessages : UInt64
  totalBytes : UInt64
  deriving DecidableEq

/-! ## Writer -/

/-- State of the writer: the bytes written so far and the totals; `lib.rs:39-43`. -/
structure RecordingWriter where
  written : List UInt8
  totalMessages : UInt64
  totalBytes : UInt64

/-- Bytes of an accepted header, in the order of the writes; `lib.rs:201-206`. -/
def headerBytes (header : RecordingHeader) : List UInt8 :=
  magic ++ (toLE 2 header.version.toNat ++ (toLE 8 header.startNanos.toNat ++
    (header.dataflowId.bytes ++ (toLE 4 header.descriptorYaml.length ++
      header.descriptorYaml))))

/-- Write the header; `write_header`, `lib.rs:194-208`. -/
def writeHeader (header : RecordingHeader) : Except String (List UInt8) :=
  if header.descriptorYaml.length > maxRecordBytes then
    .error s!"descriptor YAML too large to write: {header.descriptorYaml.length} bytes (max {maxRecordBytes})"
  else .ok (headerBytes header)

/-- Length of the record of an entry; `lib.rs:60-61`. -/
def recordLen (entry : RecordEntry) : Nat :=
  2 + (ofText entry.nodeId).length + 2 + (ofText entry.outputId).length + 8 + 4 +
    entry.eventBytes.length

/-- Bytes of an entry after its record length, in the order of the writes; `lib.rs:71-81`. Both
identifier lengths are cut to sixteen bits. -/
def recordBytes (entry : RecordEntry) : List UInt8 :=
  toLE 2 (ofText entry.nodeId).length ++ (ofText entry.nodeId ++
    (toLE 2 (ofText entry.outputId).length ++ (ofText entry.outputId ++
      (toLE 8 entry.timestampOffsetNanos.toNat ++ (toLE 4 entry.eventBytes.length ++
        entry.eventBytes)))))

/-- A record behind its length; `lib.rs:70-81`. -/
def frame (entry : RecordEntry) : List UInt8 := toLE 4 (recordLen entry) ++ recordBytes entry

/-- Bytes of the footer; `lib.rs:93-96`. -/
def footerBytes (footer : RecordingFooter) : List UInt8 :=
  footerMagic ++ (toLE 8 footer.totalMessages.toNat ++ toLE 8 footer.totalBytes.toNat)

namespace RecordingWriter

/-- Start a recording; `lib.rs:46-54`. -/
def new (header : RecordingHeader) : Except String RecordingWriter := do
  let bytes ← writeHeader header
  pure ⟨bytes, 0, 0⟩

/-- Append an entry; `lib.rs:56-86`. -/
def writeEntry (w : RecordingWriter) (entry : RecordEntry) : Except String RecordingWriter :=
  if recordLen entry > maxRecordBytes then
    .error s!"record too large to write: {recordLen entry} bytes (max {maxRecordBytes})"
  else if recordLen entry ≥ 2 ^ 32 then
    .error s!"record length {recordLen entry} exceeds u32::MAX"
  else
    .ok { written := w.written ++ frame entry
          totalMessages := w.totalMessages + 1
          totalBytes := w.totalBytes + UInt64.ofNat (recordLen entry) + 4 }

/-- Append the footer; `lib.rs:88-99`. -/
def finish (w : RecordingWriter) : List UInt8 × RecordingFooter :=
  (w.written ++ footerBytes ⟨w.totalMessages, w.totalBytes⟩, ⟨w.totalMessages, w.totalBytes⟩)

/-- Append a list of entries, up to the first that is refused. -/
def writeEntries (w : RecordingWriter) (entries : List RecordEntry) :
    Except String RecordingWriter :=
  entries.foldlM writeEntry w

end RecordingWriter

/-- Record a whole session without its footer. -/
def record (header : RecordingHeader) (entries : List RecordEntry) :
    Except String RecordingWriter := do
  let w ← RecordingWriter.new header
  w.writeEntries entries

/-! ## Reader -/

/-- Sixteen bytes as an identifier; `lib.rs:231-233`. -/
def readUuid (bytes : List UInt8) : Option (Uuid × List UInt8) :=
  if h : 16 ≤ bytes.length then
    some (⟨bytes.take 16, List.length_take_of_le h⟩, bytes.drop 16)
  else none

/-- An identifier is read back in front of anything. -/
theorem readUuid_append (id : Uuid) (rest : List UInt8) :
    readUuid (id.bytes ++ rest) = some (id, rest) := by
  obtain ⟨bytes, h⟩ := id
  simp [readUuid, ← h]

/-- Read a header; `read_header`, `lib.rs:210-251`. -/
def readHeader (bytes : List UInt8) : Except String (RecordingHeader × List UInt8) :=
  let short : String := "failed to fill whole buffer"
  match readExact 8 bytes with
  | none => .error "failed to read magic bytes"
  | some (magicBuf, bytes) =>
    if magicBuf ≠ magic then .error "not an dora recording file (invalid magic)"
    else match readExact 2 bytes with
    | none => .error short
    | some (versionBuf, bytes) =>
      let version := UInt16.ofNat (ofLE versionBuf)
      if version > formatVersion then
        .error s!"unsupported recording format version {version} (max supported: {formatVersion})"
      else match readExact 8 bytes with
      | none => .error short
      | some (nanosBuf, bytes) =>
        match readUuid bytes with
        | none => .error short
        | some (dataflowId, bytes) =>
          match readExact 4 bytes with
          | none => .error short
          | some (yamlLenBuf, bytes) =>
            if ofLE yamlLenBuf > maxRecordBytes then
              .error s!"descriptor YAML too large: {ofLE yamlLenBuf} bytes (max {maxRecordBytes})"
            else match readExact (ofLE yamlLenBuf) bytes with
            | none => .error short
            | some (descriptorYaml, bytes) =>
              .ok ({ version := version
                     startNanos := UInt64.ofNat (ofLE nanosBuf)
                     dataflowId := dataflowId
                     descriptorYaml := descriptorYaml }, bytes)

/-- Length, end check and body of the next record; `lib.rs:130-155`. The end of the bytes and a
footer both end the recording. -/
def readFrame (bytes : List UInt8) : Except String (Option (List UInt8 × List UInt8)) :=
  match readExact 4 bytes with
  | none => .ok none
  | some (lenBuf, bytes) =>
    if lenBuf = footerMagic.take 4 then .ok none
    else if ofLE lenBuf > maxRecordBytes then
      .error s!"record too large: {ofLE lenBuf} bytes (max {maxRecordBytes})"
    else match readExact (ofLE lenBuf) bytes with
    | none => .error "truncated record"
    | some (recordBuf, bytes) => .ok (some (recordBuf, bytes))

/-- Take `n` bytes at a position, or fail; `read_array`, `lib.rs:184-192`. -/
def readArray (n : Nat) (buf : List UInt8) (pos : Nat) : Outcome String (List UInt8 × Nat) :=
  if pos + n > buf.length then .err s!"buffer too short at offset {pos}"
  else .ok (window buf pos n, pos + n)

/-- Index a buffer by a range of length `n`, which panics when the range leaves the buffer. -/
def indexRange (n : Nat) (buf : List UInt8) (pos : Nat) : Outcome String (List UInt8) :=
  if pos + n > buf.length then
    .panic s!"range end index {pos + n} out of range for slice of length {buf.length}"
  else .ok (window buf pos n)

/-- An identifier behind its sixteen-bit length; `lib.rs:159-163` and `lib.rs:165-169`. -/
def readIdentifier (message : String) (buf : List UInt8) (pos : Nat) :
    Outcome String (String × Nat) := do
  let (lenBuf, pos) ← readArray 2 buf pos
  let raw ← indexRange (ofLE lenBuf) buf pos
  let text ← Outcome.okOr message (toText raw)
  pure (text, pos + ofLE lenBuf)

/-- Fields of a record; `lib.rs:157-180`. Bytes after the last field are ignored. -/
def parseRecord (buf : List UInt8) : Outcome String RecordEntry := do
  let (nodeId, pos) ← readIdentifier "invalid node_id utf8" buf 0
  let (outputId, pos) ← readIdentifier "invalid output_id utf8" buf pos
  let (timestampBuf, pos) ← readArray 8 buf pos
  let (eventLenBuf, pos) ← readArray 4 buf pos
  let eventBytes ← indexRange (ofLE eventLenBuf) buf pos
  pure { nodeId := nodeId
         outputId := outputId
         timestampOffsetNanos := UInt64.ofNat (ofLE timestampBuf)
         eventBytes := eventBytes }

/-- Read the next entry; `next_entry`, `lib.rs:129-181`. -/
def nextEntry (bytes : List UInt8) : Outcome String (Option (RecordEntry × List UInt8)) :=
  match readFrame bytes with
  | .error message => .err message
  | .ok none => .ok none
  | .ok (some (recordBuf, bytes)) => do
    let entry ← parseRecord recordBuf
    pure (some (entry, bytes))

/-- How reading a recording ends. -/
inductive ReadEnd where
  | eof
  | error (message : String)
  | panic (message : String)
  deriving DecidableEq

/-- A read frame consumes its length field. -/
theorem length_of_readFrame {bytes body rest : List UInt8}
    (h : readFrame bytes = .ok (some (body, rest))) : rest.length < bytes.length := by
  unfold readFrame at h
  split at h
  · cases h
  · next lenBuf tail hl =>
    split at h
    · cases h
    · split at h
      · cases h
      · split at h
        · cases h
        · next hb =>
          obtain ⟨rfl, rfl⟩ := Prod.mk.inj (Option.some.inj (Except.ok.inj h))
          obtain ⟨rfl, h4⟩ := readExact_eq_some hl
          obtain ⟨rfl, -⟩ := readExact_eq_some hb
          simp only [List.length_append]
          omega

private theorem nextEntry_eq_some {bytes rest : List UInt8} {entry : RecordEntry}
    (h : nextEntry bytes = .ok (some (entry, rest))) :
    ∃ body, readFrame bytes = .ok (some (body, rest)) ∧ parseRecord body = .ok entry := by
  unfold nextEntry at h
  split at h
  · cases h
  · cases h
  · next body tail hf =>
    obtain ⟨e, hp, he⟩ := Outcome.bind_eq_ok.mp h
    obtain ⟨rfl, rfl⟩ := Prod.mk.inj (Option.some.inj (Outcome.ok.inj he))
    exact ⟨body, hf, hp⟩

/-- Read entries until the end of the recording, an error or a panic. -/
def readEntries (bytes : List UInt8) : List RecordEntry × ReadEnd :=
  match _h : nextEntry bytes with
  | .ok none => ([], .eof)
  | .err message => ([], .error message)
  | .panic message => ([], .panic message)
  | .ok (some (entry, rest)) =>
    let tail := readEntries rest
    (entry :: tail.1, tail.2)
termination_by bytes.length
decreasing_by
  obtain ⟨_, hf, -⟩ := nextEntry_eq_some _h
  exact length_of_readFrame hf

/-- Open a recording and read it to its end; `lib.rs:118-122` and the callers of
`next_entry`. -/
def readRecording (bytes : List UInt8) :
    Except String (RecordingHeader × List RecordEntry × ReadEnd) := do
  let (header, rest) ← readHeader bytes
  pure (header, readEntries rest)

end DoraSpec.Recording
