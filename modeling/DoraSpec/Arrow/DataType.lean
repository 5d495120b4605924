import Mathlib.Logic.Basic

/-!
# Arrow data types

The logical types of the `arrow-schema` crate, as far as the repository passes them around:
the constructor, its parameters and the nested fields. Field metadata is not read by any
modelled function and is left out.
-/

namespace DoraSpec.Arrow

/-- Resolution of times and timestamps. -/
inductive TimeUnit where
  | second | millisecond | microsecond | nanosecond
  deriving DecidableEq

/-- Representation of calendar intervals. -/
inductive IntervalUnit where
  | yearMonth | dayTime | monthDayNano
  deriving DecidableEq

/-- Child layout of a union array. -/
inductive UnionMode where
  | sparse | dense
  deriving DecidableEq

mutual
/-- Named and possibly nullable child of a nested type. -/
inductive Field where
  | mk (name : String) (dataType : DataType) (nullable : Bool)

/-- Logical type of an Arrow array. -/
inductive DataType where
  | null
  | boolean
  | int8 | int16 | int32 | int64
  | uint8 | uint16 | uint32 | uint64
  | float16 | float32 | float64
  | timestamp (unit : TimeUnit) (timezone : Option String)
  | date32 | date64
  | time32 (unit : TimeUnit)
  | time64 (unit : TimeUnit)
  | duration (unit : TimeUnit)
  | interval (unit : IntervalUnit)
  | binary
  | fixedSizeBinary (size : Int)
  | largeBinary
  | binaryView
  | utf8
  | largeUtf8
  | utf8View
  | list (field : Field)
  | listView (field : Field)
  | fixedSizeList (field : Field) (size : Int)
  | largeList (field : Field)
  | largeListView (field : Field)
  | struct (fields : List Field)
  | union (fields : List (Int × Field)) (mode : UnionMode)
  | dictionary (key value : DataType)
  | decimal32 (precision : Nat) (scale : Int)
  | decimal64 (precision : Nat) (scale : Int)
  | decimal128 (precision : Nat) (scale : Int)
  | decimal256 (precision : Nat) (scale : Int)
  | map (field : Field) (sorted : Bool)
  | runEndEncoded (runEnds values : Field)
end

end DoraSpec.Arrow
