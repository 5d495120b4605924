import DoraSpec.Arrow.DataType
import Mathlib.Data.List.Basic

/-!
# Arrow arrays

The untyped arrays of the `arrow-data` crate: a logical type, a length and an offset counted in
elements, the value buffers, an optional null mask and child arrays. A null mask has a position
of its own, counted in bits of its buffer. Buffer layouts, validation and empty arrays belong to
the crate and are parameters.
-/

namespace DoraSpec.Arrow

/-- The bit at a position of a bitmap, least significant bit of each byte first. -/
def bitAt (bytes : List UInt8) (pos : Nat) : Bool :=
  match bytes[pos / 8]? with
  | some b => b.toNat.testBit (pos % 8)
  | none => false

/-- Null mask of `len` elements: a bitmap and the position of its first bit. A set bit marks a
valid element. -/
structure NullBuffer (len : Nat) where
  bytes : List UInt8
  offset : Nat
  fits : offset + len ≤ 8 * bytes.length

/-- The element is null. -/
def NullBuffer.isNull {len : Nat} (nulls : NullBuffer len) (i : Nat) : Bool :=
  !bitAt nulls.bytes (nulls.offset + i)

/-- Number of null elements. -/
def NullBuffer.nullCount {len : Nat} (nulls : NullBuffer len) : Nat :=
  (List.range len).countP nulls.isNull

/-- Untyped array. -/
structure ArrayData where
  dataType : DataType
  len : Nat
  offset : Nat
  buffers : List (List UInt8)
  nulls : Option (NullBuffer len)
  childData : List ArrayData

/-- Kind of a value buffer. -/
inductive BufferSpec where
  | fixedWidth (byteWidth alignment : Nat) (alignment_pos : 0 < alignment)
  | variableWidth
  | bitMap
  | alwaysNull

namespace ArrayData

/-- Induction along the child arrays. -/
@[elab_as_elim]
theorem childInduction {motive : ArrayData → Prop}
    (node : ∀ a : ArrayData, (∀ c ∈ a.childData, motive c) → motive a) (a : ArrayData) :
    motive a :=
  @ArrayData.rec motive (fun children => ∀ c ∈ children, motive c)
    (fun _ _ _ _ _ _ ih => node _ ih)
    (fun _ hc => absurd hc List.not_mem_nil)
    (fun _ _ hh ht => List.forall_mem_cons.mpr ⟨hh, ht⟩) a

/-- The element is null. -/
def isNull (a : ArrayData) (i : Nat) : Bool :=
  match a.nulls with
  | some nulls => nulls.isNull i
  | none => false

/-- Number of null elements. -/
def nullCount (a : ArrayData) : Nat :=
  match a.nulls with
  | some nulls => nulls.nullCount
  | none => 0

end ArrayData

/-- Null mask of an array that is read from a bitmap at the array's own offset. A mask without
nulls is dropped. -/
def maskAt {len : Nat} (bytes : List UInt8) (offset : Nat)
    (fits : offset + len ≤ 8 * bytes.length) : Option (NullBuffer len) :=
  if (NullBuffer.mk bytes offset fits).nullCount = 0 then none else some ⟨bytes, offset, fits⟩

/-- The null mask is read from the bitmap, which is long enough for it. -/
def IsMask {len : Nat} (validity : Option (List UInt8)) (offset : Nat)
    (nulls : Option (NullBuffer len)) : Prop :=
  match validity with
  | none => nulls = none
  | some bytes => ∃ fits, nulls = maskAt bytes offset fits

/-- What the repository uses of the Arrow crates. -/
structure ArrowCrate where
  /-- Kinds of the buffers of a type; `layout`. -/
  layout : DataType → List BufferSpec
  /-- Debug text of a type. -/
  debug : DataType → String
  /-- Full validation of an array whose children are valid; `validate_data`. -/
  validateData : ArrayData → Except String Unit
  /-- The elements of a type whose first buffers are those of the layout read the buffer with an
  index: view types point into data buffers behind the layout. -/
  reads : DataType → List (List UInt8) → Nat → Prop
  /-- Validation looks up every buffer that is read. -/
  reads_of_valid : ∀ a, validateData a = .ok () → ∀ k,
    reads a.dataType (a.buffers.take (layout a.dataType).length) k → k < a.buffers.length
  /-- Array without elements; `new_empty`. -/
  newEmpty : DataType → ArrayData
  dataType_newEmpty : ∀ t, (newEmpty t).dataType = t
  len_newEmpty : ∀ t, (newEmpty t).len = 0
  /-- Array from its parts; `ArrayData::try_new`. -/
  tryNew : DataType → Nat → Option (List UInt8) → Nat → List (List UInt8) → List ArrayData →
    Except String ArrayData
  /-- The bitmap is read at the offset of the array, and the array is validated. -/
  tryNew_eq_ok : ∀ {dataType len validity offset buffers childData b},
    tryNew dataType len validity offset buffers childData = .ok b ↔ ∃ nulls,
      IsMask validity offset nulls ∧
      validateData ⟨dataType, len, offset, buffers, nulls, childData⟩ = .ok () ∧
      b = ⟨dataType, len, offset, buffers, nulls, childData⟩

end DoraSpec.Arrow
