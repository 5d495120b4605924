import Mathlib.Algebra.Order.Ring.Nat
import DoraSpec.Base.Outcome

/-!
# Arrow arrays of the ROS2 bridge

Arrow arrays as the bridge sees them. A struct array is given by its rows: row `i` is what
`slice(i, 1)` leaves of each column. Whether a slot is valid is kept where the bridge looks at it. The
operations are those of the arrow crate that the bridge calls, as far as it calls them.
-/

namespace DoraSpec.Ros2
open Base

/-- Primitive types of Arrow. -/
inductive PrimType where
  | i8 | i16 | i32 | i64 | u8 | u16 | u32 | u64 | f32 | f64
  deriving DecidableEq

namespace PrimType

/-- Rust type of the values. -/
@[reducible] def Native : PrimType → Type
  | i8 => Int8
  | i16 => Int16
  | i32 => Int32
  | i64 => Int64
  | u8 => UInt8
  | u16 => UInt16
  | u32 => UInt32
  | u64 => UInt64
  | f32 => Float32
  | f64 => Float

/-- `std::any::type_name` of the Rust type. -/
def nativeName : PrimType → String
  | i8 => "i8"
  | i16 => "i16"
  | i32 => "i32"
  | i64 => "i64"
  | u8 => "u8"
  | u16 => "u16"
  | u32 => "u32"
  | u64 => "u64"
  | f32 => "f32"
  | f64 => "f64"

/-- `std::any::type_name` of the Arrow type. -/
def typeName : PrimType → String
  | i8 => "arrow_array::types::Int8Type"
  | i16 => "arrow_array::types::Int16Type"
  | i32 => "arrow_array::types::Int32Type"
  | i64 => "arrow_array::types::Int64Type"
  | u8 => "arrow_array::types::UInt8Type"
  | u16 => "arrow_array::types::UInt16Type"
  | u32 => "arrow_array::types::UInt32Type"
  | u64 => "arrow_array::types::UInt64Type"
  | f32 => "arrow_array::types::Float32Type"
  | f64 => "arrow_array::types::Float64Type"

def zero : (type : PrimType) → type.Native
  | i8 => 0
  | i16 => 0
  | i32 => 0
  | i64 => 0
  | u8 => 0
  | u16 => 0
  | u32 => 0
  | u64 => 0
  | f32 => 0
  | f64 => 0

end PrimType

/-- A slot that is not valid still has a value. -/
structure Slot (α : Type) where
  value : α
  valid : Bool := true

/-- The value of a valid slot, as of `iter()` and `unwrap_or_default`. -/
def Slot.getD {α : Type} (slot : Slot α) (default : α) : α := if slot.valid then slot.value else default

/-- Arrays. The columns of a struct array are given with no rows, followed by the rows. -/
inductive Arr where
  | prim (type : PrimType) (values : List type.Native)
  | bool (values : List Bool)
  | string (large : Bool) (values : List (Slot String))
  | binary (large : Bool) (values : List (Slot (List UInt8)))
  | list (large : Bool) (rows : List Arr)
  | struct (columns : List (String × Arr)) (rows : List (List Arr))
  | other (dataType : String) (len : Nat)

namespace Arr

def len : Arr → Nat
  | prim _ values => values.length
  | bool values => values.length
  | string _ values => values.length
  | binary _ values => values.length
  | list _ rows => rows.length
  | struct _ rows => rows.length
  | other _ len => len

/-! ## Views of a type -/

/-- `as_primitive_opt`. -/
def asPrimitive? (type : PrimType) : Arr → Option (List type.Native)
  | prim type' values => if h : type' = type then some (h ▸ values) else none
  | _ => none

/-- `as_boolean_opt`. -/
def asBoolean? : Arr → Option (List Bool)
  | bool values => some values
  | _ => none

/-- `as_string_opt`. -/
def asString? (large : Bool) : Arr → Option (List (Slot String))
  | string large' values => if large' = large then some values else none
  | _ => none

/-- `as_binary_opt`. -/
def asBinary? (large : Bool) : Arr → Option (List (Slot (List UInt8)))
  | binary large' values => if large' = large then some values else none
  | _ => none

/-- `as_list_opt`. -/
def asList? (large : Bool) : Arr → Option (List Arr)
  | list large' rows => if large' = large then some rows else none
  | _ => none

/-- `as_struct_opt`. -/
def asStruct? : Arr → Option (List (String × Arr) × List (List Arr))
  | struct columns rows => some (columns, rows)
  | _ => none

variable {a : Arr} {columns : List (String × Arr)}

/-- Arrays of primitive values. -/
theorem asPrimitive?_eq_some {type : PrimType} {values : List type.Native} :
    a.asPrimitive? type = some values ↔ a = prim type values := by
  cases a with
  | prim type' values' =>
    by_cases h : type' = type
    · subst h
      simp [asPrimitive?]
    · simp [asPrimitive?, h]
  | _ => simp [asPrimitive?]

/-- Arrays of truth values. -/
theorem asBoolean?_eq_some {values : List Bool} :
    a.asBoolean? = some values ↔ a = bool values := by
  cases a <;> simp [asBoolean?]

/-- Arrays of strings. -/
theorem asString?_eq_some {large : Bool} {values : List (Slot String)} :
    a.asString? large = some values ↔ a = string large values := by
  cases a <;> simp [asString?]

/-- Arrays of structs. -/
theorem asStruct?_eq_some {rows : List (List Arr)} :
    a.asStruct? = some (columns, rows) ↔ a = struct columns rows := by
  cases a <;> simp [asStruct?]

/-! ## Parts and wholes -/

/-- `slice`, within the bounds of the array. -/
def slice (offset length : Nat) : Arr → Arr
  | prim type values => prim type ((values.drop offset).take length)
  | bool values => bool ((values.drop offset).take length)
  | string large values => string large ((values.drop offset).take length)
  | binary large values => binary large ((values.drop offset).take length)
  | list large rows => list large ((rows.drop offset).take length)
  | struct columns rows => struct columns ((rows.drop offset).take length)
  | other dataType _ => other dataType length

/-- Column of a struct array with at most one row. -/
def columnByName (columns : List (String × Arr)) (rows : List (List Arr)) (name : String) :
    Option Arr :=
  match rows with
  | row :: _ => ((columns.map Prod.fst).zip row).lookup name
  | [] => columns.lookup name

/-- Two arrays of one type. -/
def append : Arr → Arr → Option Arr
  | prim type values, prim type' values' =>
    if h : type' = type then some (prim type (values ++ h ▸ values')) else none
  | bool values, bool values' => some (bool (values ++ values'))
  | string large values, string large' values' =>
    if large = large' then some (string large (values ++ values')) else none
  | binary large values, binary large' values' =>
    if large = large' then some (binary large (values ++ values')) else none
  | list large rows, list large' rows' =>
    if large = large' then some (list large (rows ++ rows')) else none
  | struct columns rows, struct columns' rows' =>
    if columns.map Prod.fst = columns'.map Prod.fst then some (struct columns (rows ++ rows'))
    else none
  | _, _ => none

end Arr

/-- What the bridge uses of the Arrow crates to put arrays together; an error of an operation that
panics is the text of the panic. -/
structure ArrowOps where
  /-- `StructArray::from` a list of columns. -/
  structFrom : List (String × Arr) → Except String Arr
  structFrom_nil : ∀ a, structFrom [] ≠ .ok a
  structFrom_ok : ∀ {columns n}, columns ≠ [] → (∀ c ∈ columns, c.2.len = n) →
    structFrom columns = .ok (.struct (columns.map fun c => (c.1, c.2.slice 0 0))
      ((List.range n).map fun i => columns.map fun c => c.2.slice i 1))
  /-- `ListArray::new` of one row with the offsets zero and `size`, converted to `i32`. -/
  listNew : Arr → Nat → Except String Arr
  listNew_ok : ∀ {values size}, size < 2 ^ 31 → size ≤ values.len →
    listNew values size = .ok (.list false [values.slice 0 size])
  /-- `concat`. -/
  concat : List Arr → Except String Arr
  concat_nil : ∀ a, concat [] ≠ .ok a
  concat_rows : ∀ {columns rows}, rows ≠ [] →
    concat (rows.map fun row => .struct columns [row]) = .ok (.struct columns rows)

namespace ArrowOps

variable {columns : List (String × Arr)}

private theorem slice_of_len_one {a : Arr} (h : a.len = 1) : a.slice 0 1 = a := by
  cases a <;> simp_all [Arr.len, Arr.slice, List.take_of_length_le]

/-- Columns of one element are the row of a struct array. -/
theorem structFrom_of_len_one (arrow : ArrowOps) (hne : columns ≠ [])
    (h : ∀ c ∈ columns, c.2.len = 1) :
    arrow.structFrom columns =
      .ok (.struct (columns.map fun c => (c.1, c.2.slice 0 0)) [columns.map Prod.snd]) := by
  have hrow : columns.map (fun c => c.2.slice 0 1) = columns.map Prod.snd :=
    List.map_congr_left fun c hc => slice_of_len_one (h c hc)
  rw [arrow.structFrom_ok hne h, List.range_one, List.map_singleton, hrow]

private theorem foldlM_append (rest before : List (List Arr)) :
    (rest.map fun row => Arr.struct columns [row]).foldlM Arr.append (.struct columns before) =
      some (.struct columns (before ++ rest)) := by
  induction rest generalizing before with
  | nil => simp
  | cons row rest ih => simp [Arr.append, ih]

/-- The operations on arrays of one type. -/
def sameType : ArrowOps where
  structFrom
    | [] => .error ("use StructArray::try_new_with_length or StructArray::new_empty_fields " ++
        "to create a struct array with no fields")
    | first :: rest =>
      match (first :: rest).find? fun c => c.2.len ≠ first.2.len with
      | some c => .error (s!"Incorrect array length for StructArray field \"{c.1}\", " ++
          s!"expected {first.2.len} got {c.2.len}")
      | none => .ok (.struct ((first :: rest).map fun c => (c.1, c.2.slice 0 0))
          ((List.range first.2.len).map fun i => (first :: rest).map fun c => c.2.slice i 1))
  structFrom_nil := nofun
  structFrom_ok {columns n} hne h := by
    cases columns with
    | nil => exact absurd rfl hne
    | cons first rest =>
      have hfirst := h first List.mem_cons_self
      have hnone : (first :: rest).find? (fun c => c.2.len ≠ n) = none :=
        List.find?_eq_none.mpr fun c hc => by simp [h c hc]
      simp only [hfirst, hnone]
  listNew values size :=
    let last := size % 2 ^ 32
    if 2 ^ 31 ≤ last then .error "offsets must be monotonically increasing"
    else if values.len < last then
      .error s!"Max offset of {last} exceeds length of values {values.len}"
    else .ok (.list false [values.slice 0 last])
  listNew_ok {values size} h hlen := by
    have hmod : size % 2 ^ 32 = size := Nat.mod_eq_of_lt (by omega)
    simp only [hmod, if_neg (Nat.not_le.mpr h), if_neg (Nat.not_lt.mpr hlen)]
  concat
    | [] => .error "concat requires input of at least one array"
    | first :: rest =>
      match rest.foldlM Arr.append first with
      | some array => .ok array
      | none => .error "It is not possible to concatenate arrays of different data types."
  concat_nil := nofun
  concat_rows {columns rows} h := by
    cases rows with
    | nil => exact absurd rfl h
    | cons row rest => simp only [List.map_cons, foldlM_append, List.singleton_append]

end ArrowOps

end DoraSpec.Ros2
