import Mathlib.Logic.Basic

/-!
# Types of ROS2 messages

Source `libraries/extensions/ros2-bridge/msg-gen/src/types/`. A member of a message has a type that may
be nested once in an array or a sequence. Messages refer to each other by name.
-/

namespace DoraSpec.Ros2

/-- `primitives.rs:16-53`. -/
inductive BasicType where
  | i8 | i16 | i32 | i64 | u8 | u16 | u32 | u64 | f32 | f64 | bool | char | byte
  deriving DecidableEq

/-- `primitives.rs:203-209`. -/
inductive GenericString where
  | string
  | wString
  | boundedString (max : Nat)
  | boundedWString (max : Nat)
  deriving DecidableEq

/-- Strings of UTF-16 units; `is_wide`, `primitives.rs:212-214`. -/
def GenericString.isWide : GenericString → Bool
  | string | boundedString _ => false
  | wString | boundedWString _ => true

/-- Type in another package; `primitives.rs:160-169`. -/
structure NamespacedType where
  package : String
  nameSpace : String
  name : String
  deriving DecidableEq

/-- Text for error messages, as of a derived `Debug`. -/
def NamespacedType.debug (t : NamespacedType) : String :=
  s!"NamespacedType \x7b package: \"{t.package}\", namespace: \"{t.nameSpace}\", " ++
    s!"name: \"{t.name}\" \x7d"

/-- Type of elements; `primitives.rs:294-301`. -/
inductive NestableType where
  | basicType (t : BasicType)
  | namedType (name : String)
  | namespacedType (reference : NamespacedType)
  | genericString (t : GenericString)
  deriving DecidableEq

/-- `member.rs:15-22` and `sequences.rs`. -/
inductive MemberType where
  | nestableType (t : NestableType)
  | array (valueType : NestableType) (size : Nat)
  | sequence (valueType : NestableType)
  | boundedSequence (valueType : NestableType) (maxSize : Nat)
  deriving DecidableEq

/-- Member of a message, with the texts of its default values; `message.rs:6-15`. -/
structure Member where
  name : String
  type : MemberType
  default : Option (List String) := none
  deriving DecidableEq

/-- `message.rs:132-143`, without its constants. -/
structure Message where
  package : String
  name : String
  members : List Member
  deriving DecidableEq

end DoraSpec.Ros2
