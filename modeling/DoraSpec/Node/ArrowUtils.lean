import DoraSpec.Arrow.ArrayData
import DoraSpec.Base.Bytes
import DoraSpec.Base.Outcome
import DoraSpec.Message.Metadata

/-!
# Arrow arrays in raw samples

Source `apis/rust/node/src/node/arrow_utils.rs:1-188`: an array is copied buffer by buffer into
one sample, with alignment padding, and rebuilt from the sample by the type information that the
copy produces. Lengths and offsets are natural numbers; the sizes of allocated samples are below
`2 ^ 63`.
-/

namespace DoraSpec.Node
open Base Base.Bytes Arrow Message

variable (arrow : ArrowCrate)

/-- Deepest accepted nesting; `arrow_utils.rs:12`. -/
def maxTypeDepth : Nat := 32

/-- Most buffers or children of one level; `arrow_utils.rs:15`. -/
def maxEntries : Nat := 256

/-- FNV-1a hash of the debug text of a type; `compute_schema_hash`, `arrow_utils.rs:25-33`. -/
def computeSchemaHash (dataType : DataType) : UInt64 :=
  (ofText (arrow.debug dataType)).foldl
    (fun hash byte => (hash ^^^ byte.toUInt64) * 0x100000001b3) 0xcbf29ce484222325

/-- Where a buffer is placed: fixed-width buffers are aligned; `arrow_utils.rs:47-49`. -/
def alignFor (spec : BufferSpec) (next : Nat) : Nat :=
  match spec with
  | .fixedWidth _ alignment _ => (next + alignment - 1) / alignment * alignment
  | _ => next

/-! ## Size -/

/-- End of the buffers of one level; `arrow_utils.rs:45-51`. -/
def buffersSize : List (List UInt8) → List BufferSpec → Nat → Nat
  | buffer :: buffers, spec :: specs, next =>
    buffersSize buffers specs (alignFor spec next + buffer.length)
  | _, _, next => next

mutual
/-- End of an array that starts at a position; `required_data_size_inner`,
`arrow_utils.rs:42-55`. -/
def requiredDataSizeInner : ArrayData → Nat → Nat
  | ⟨dataType, _, _, buffers, _, childData⟩, next =>
    requiredChildrenSize childData (buffersSize buffers (arrow.layout dataType) next)

/-- End of the children; `arrow_utils.rs:52-54`. -/
def requiredChildrenSize : List ArrayData → Nat → Nat
  | [], next => next
  | child :: children, next =>
    requiredChildrenSize children (requiredDataSizeInner child next)
end

/-- Size of a continuous copy; `required_data_size`, `arrow_utils.rs:37-41`. -/
def requiredDataSize (a : ArrayData) : Nat := requiredDataSizeInner arrow a 0

/-! ## Copy -/

/-- Copy the buffers of one level; `arrow_utils.rs:74-94`. A target that is too small panics. -/
def copyBuffers : List (List UInt8) → List BufferSpec → List UInt8 → Nat →
    Outcome String (List UInt8 × Nat × List BufferOffset)
  | buffer :: buffers, spec :: specs, target, next =>
    if target.length < next then
      .panic s!"range start index {next} out of range for slice of length {target.length}"
    else if target.length - next < buffer.length then
      .panic (s!"target buffer too small (total_len: {target.length}, offset: {next}, " ++
        s!"required_len: {buffer.length})")
    else if target.length < alignFor spec next + buffer.length then
      .panic (s!"range end index {buffer.length} out of range for slice of length " ++
        s!"{target.length - alignFor spec next}")
    else do
      let (target, next', offsets) ←
        copyBuffers buffers specs (writeAt target (alignFor spec next) buffer)
          (alignFor spec next + buffer.length)
      pure (target, next', ⟨alignFor spec next, buffer.length⟩ :: offsets)
  | _, _, target, next => .ok (target, next, [])

/-- Type information of a copied array; `arrow_utils.rs:102-112`. The validity bytes are those of
the whole bitmap. -/
def arrowTypeInfo (a : ArrayData) (bufferOffsets : List BufferOffset)
    (childData : List ArrowTypeInfo) : ArrowTypeInfo where
  dataType := a.dataType
  len := a.len
  nullCount := a.nullCount
  validity := a.nulls.map NullBuffer.bytes
  offset := a.offset
  bufferOffsets := bufferOffsets
  childData := childData
  fieldNames := none
  schemaHash := some (computeSchemaHash arrow a.dataType)

mutual
/-- Copy an array and describe it; `copy_array_into_sample_inner`, `arrow_utils.rs:67-113`. -/
def copyArrayIntoSampleInner : ArrayData → List UInt8 → Nat →
    Outcome String (List UInt8 × Nat × ArrowTypeInfo)
  | ⟨dataType, len, offset, buffers, nulls, childData⟩, target, next => do
    let (target, next, bufferOffsets) ←
      copyBuffers buffers (arrow.layout dataType) target next
    let (target, next, children) ← copyChildren childData target next
    pure (target, next,
      arrowTypeInfo arrow ⟨dataType, len, offset, buffers, nulls, childData⟩ bufferOffsets children)

/-- Copy the children one after the other; `arrow_utils.rs:96-100`. -/
def copyChildren : List ArrayData → List UInt8 → Nat →
    Outcome String (List UInt8 × Nat × List ArrowTypeInfo)
  | [], target, next => .ok (target, next, [])
  | child :: children, target, next => do
    let (target, next, info) ← copyArrayIntoSampleInner child target next
    let (target, next, infos) ← copyChildren children target next
    pure (target, next, info :: infos)
end

/-- Copy an array into a sample; `copy_array_into_sample`, `arrow_utils.rs:62-65`. -/
def copyArrayIntoSample (target : List UInt8) (a : ArrayData) :
    Outcome String (List UInt8 × ArrowTypeInfo) := do
  let (target, _, info) ← copyArrayIntoSampleInner arrow a target 0
  pure (target, info)

/-! ## Decoding -/

/-- Cut the buffers out of a sample; `arrow_utils.rs:149-165`. -/
def sliceBuffers (raw : List UInt8) : List BufferOffset → Except String (List (List UInt8))
  | [] => .ok []
  | ⟨offset, len⟩ :: offsets =>
    if offset + len ≥ 2 ^ 64 then
      .error s!"buffer offset overflow: offset={offset}, len={len}"
    else if offset + len > raw.length then
      .error (s!"buffer offset out of bounds: offset={offset}, len={len}, " ++
        s!"buffer_len={raw.length}")
    else do
      let buffers ← sliceBuffers raw offsets
      pure (window raw offset len :: buffers)

mutual
/-- Rebuild an array from a sample; `buffer_into_arrow_array_inner`,
`arrow_utils.rs:124-188`. -/
def bufferIntoArrowArrayInner (raw : List UInt8) : ArrowTypeInfo → Nat →
    Except String ArrayData
  | ⟨dataType, len, _, validity, offset, bufferOffsets, childData, _, _⟩, depth =>
    if depth > maxTypeDepth then
      .error s!"Arrow type nesting depth exceeds maximum ({maxTypeDepth})"
    else if raw = [] then .ok (arrow.newEmpty dataType)
    else if bufferOffsets.length > maxEntries then
      .error s!"too many buffer offsets: {bufferOffsets.length} (max {maxEntries})"
    else if childData.length > maxEntries then
      .error s!"too many child arrays: {childData.length} (max {maxEntries})"
    else do
      let buffers ← sliceBuffers raw bufferOffsets
      let children ← decodeChildren raw childData (depth + 1)
      (arrow.tryNew dataType len validity offset buffers children).mapError fun _ =>
        "Error creating Arrow array"

/-- Rebuild the children one after the other; `arrow_utils.rs:167-174`. -/
def decodeChildren (raw : List UInt8) : List ArrowTypeInfo → Nat →
    Except String (List ArrayData)
  | [], _ => .ok []
  | info :: infos, depth => do
    let child ← bufferIntoArrowArrayInner raw info depth
    let children ← decodeChildren raw infos depth
    pure (child :: children)
end

/-- Rebuild an array from a sample and its type information; `buffer_into_arrow_array`,
`arrow_utils.rs:117-122`. -/
def bufferIntoArrowArray (raw : List UInt8) (info : ArrowTypeInfo) : Except String ArrayData :=
  bufferIntoArrowArrayInner arrow raw info 0

end DoraSpec.Node
