import DoraSpec.Base.Text
import DoraSpec.Node.Output
import DoraSpec.Recording.Format

/-!
# Recording and replaying messages

Source `binaries/record-node/src/main.rs` and `binaries/replay-node/src/main.rs`. The record node copies
the arrays that it receives and writes them with their metadata to a file. The replay node takes the
place of a node and sends its messages again. One pass over the file is modelled, without the pauses
between messages.
-/

namespace DoraSpec.Recording
open Base Base.Bytes Base.Text Arrow Message
open DoraSpec.Node

/-- `daemon_to_daemon.rs:11-24`. -/
inductive InterDaemonEvent where
  | output (dataflowId : Uuid) (nodeId : NodeId) (outputId : DataId) (metadata : Metadata)
    (data : Option (List UInt8))
  | outputClosed (dataflowId : Uuid) (nodeId : NodeId) (outputId : DataId)

/-- `common.rs:245-248`. -/
structure Timestamped (α : Type) where
  inner : α
  timestamp : Timestamp

/-- bincode for the events of a recording. -/
abbrev EventSerializer := Serializer (Timestamped InterDaemonEvent)

/-! ## Record node -/

/-- Source node and output by input, as they stand in the topic map. -/
abbrev Sources := AList fun _ : String => String × String

/-- Add an entry of the topic map; `main.rs:26-35` of the record node. -/
def addSource (sources : Sources) (entry : String × String) : Except String Sources :=
  match splitOnce '/' entry.2 with
  | some source => .ok (sources.insert entry.1 source)
  | none => .error s!"invalid topic format: {entry.2}"

/-- `main.rs:24-35` of the record node. -/
def reverseMap (topicMap : List (String × String)) : Except String Sources :=
  topicMap.foldlM addSource ∅

section

variable (arrow : ArrowCrate) (bincode : EventSerializer)

/-- Raw copy of an array, if it has bytes; `main.rs:65-73` of the record node. -/
def rawCopy (data : ArrayData) : Outcome String (Option (List UInt8)) :=
  let dataSize := requiredDataSize arrow data
  if 0 < dataSize then do
    let (buf, _) ← copyArrayIntoSample arrow (List.replicate dataSize 0) data
    pure (some buf)
  else .ok none

/-- The entry for a message that arrives at a time; `main.rs:65-101` of the record node. -/
def recordEntry (startNanos nowNanos : UInt64) (source : String × String) (metadata : Metadata)
    (data : ArrayData) : Outcome String RecordEntry := do
  let rawData ← rawCopy arrow data
  let nodeId ← NodeId.from source.1
  let outputId ← DataId.from source.2
  let event : Timestamped InterDaemonEvent :=
    ⟨.output .nil nodeId outputId metadata rawData, metadata.timestamp⟩
  match bincode.serialize event with
  | .error _ => .err "failed to serialize timestamped message"
  | .ok eventBytes =>
    pure
      { nodeId := source.1
        outputId := source.2
        timestampOffsetNanos := if nowNanos < startNanos then 0 else nowNanos - startNanos
        eventBytes }

/-- The loop over the events, each with the time of its arrival; `main.rs:57-107` of the record
node. -/
def recordLoop (startNanos : UInt64) (sources : Sources) :
    RecordingWriter → List (UInt64 × Event ArrayData) → Outcome String RecordingWriter
  | writer, [] => .ok writer
  | writer, (now, .input id metadata data) :: events =>
    match sources.lookup id.val with
    | none => recordLoop startNanos sources writer events
    | some source => do
      let entry ← recordEntry arrow bincode startNanos now source metadata data
      let writer ← Outcome.ofExcept (writer.writeEntry entry)
      recordLoop startNanos sources writer events
  | writer, (_, .stop _) :: _ => .ok writer
  | writer, _ :: events => recordLoop startNanos sources writer events

/-- The file of a recording that is finished; `main.rs:13-116` of the record node. -/
def recordNode (topicMap : List (String × String)) (dataflowId : Uuid) (descriptorYaml : String)
    (startNanos : UInt64) (events : List (UInt64 × Event ArrayData)) :
    Outcome String (List UInt8) := do
  let sources ← Outcome.ofExcept (reverseMap topicMap)
  let header : RecordingHeader :=
    { version := 1, startNanos, dataflowId, descriptorYaml := ofText descriptorYaml }
  let writer ← Outcome.ofExcept (RecordingWriter.new header)
  let writer ← recordLoop arrow bincode startNanos sources writer events
  pure writer.finish.1

/-! ## Replay node -/

variable (node : DoraNode)

/-- What an entry sends; `main.rs:32-76` of the replay node. -/
def replayEntry (env : SendEnv) (replayNode : String) (entry : RecordEntry) :
    Except String (Option Sent) :=
  if entry.nodeId ≠ replayNode then .ok none
  else match bincode.deserialize entry.eventBytes with
    | .error _ => .ok none
    | .ok ⟨.outputClosed _ _ _, _⟩ => .ok none
    | .ok ⟨.output _ _ outputId metadata data, _⟩ =>
      match node.sendTypedOutput env outputId metadata.typeInfo metadata.parameters
        (data.getD []) with
      | .ok sent => .ok sent
      | .error _ => .error "failed to send replay output"

/-- The loop over the entries, and the messages that it sends; `main.rs:31-79` of the replay node. -/
def replayEntries (env : Nat → SendEnv) (replayNode : String) :
    Nat → List RecordEntry → List Sent × Except String Unit
  | _, [] => ([], .ok ())
  | i, entry :: entries =>
    match replayEntry bincode node (env i) replayNode entry with
    | .error e => ([], .error e)
    | .ok sent =>
      let rest := replayEntries env replayNode (i + 1) entries
      (sent.toList ++ rest.1, rest.2)

/-- How reading a file ends for its reader. -/
def ReadEnd.toOutcome : ReadEnd → Outcome String Unit
  | .eof => .ok ()
  | .error message => .err message
  | .panic message => .panic message

/-- One pass over a recording; `main.rs:23-86` of the replay node. -/
def replayPass (env : Nat → SendEnv) (replayNode : String) (file : List UInt8) :
    List Sent × Outcome String Unit :=
  match readRecording file with
  | .error _ => ([], .err "failed to read recording")
  | .ok (_, entries, ending) =>
    let replayed := replayEntries bincode node env replayNode 0 entries
    (replayed.1, do
      Outcome.ofExcept replayed.2
      ending.toOutcome)

end

end DoraSpec.Recording
