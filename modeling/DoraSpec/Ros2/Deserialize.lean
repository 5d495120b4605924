import DoraSpec.Base.Wire
import DoraSpec.Ros2.Serialize

/-!
# Deserialisation of ROS2 messages

Source `libraries/extensions/ros2-bridge/arrow/src/deserialize/`. The wire format is a parameter: it
writes basic values, strings and lengths so that they can be read back. A sequence is its length and
its elements, a tuple only its elements. The reader of a message has room on the stack for `depth`
calls.
-/

namespace DoraSpec.Ros2
open Base

/-- What a wire format writes as a whole. -/
inductive AtomKind where
  | prim (type : PrimType)
  | bool
  | str
  | len
  deriving DecidableEq

/-- Values of an atom. -/
@[reducible] def AtomKind.Val : AtomKind → Type
  | prim type => type.Native
  | bool => Bool
  | str => String
  | len => Nat

abbrev Atom := Sigma AtomKind.Val

mutual

/-- Atoms of a value in the order in which they are written. -/
def Datum.atoms : Datum → List Atom
  | .prim type value => [⟨.prim type, value⟩]
  | .bool value => [⟨.bool, value⟩]
  | .str value => [⟨.str, value⟩]
  | .seq items => ⟨.len, items.length⟩ :: Datum.atomsOfItems items
  | .tuple items => Datum.atomsOfItems items

def Datum.atomsOfItems : List Datum → List Atom
  | [] => []
  | item :: items => item.atoms ++ Datum.atomsOfItems items

end

private theorem Datum.atomsOfItems_eq (items : List Datum) :
    Datum.atomsOfItems items = items.flatMap Datum.atoms := by
  induction items with
  | nil => rfl
  | cons item items ih => rw [atomsOfItems, ih, List.flatMap_cons]

/-- A sequence starts with its length. -/
@[simp] theorem Datum.atoms_seq (items : List Datum) :
    (Datum.seq items).atoms = ⟨.len, items.length⟩ :: items.flatMap Datum.atoms := by
  rw [atoms, atomsOfItems_eq]

/-- A tuple has no length. -/
@[simp] theorem Datum.atoms_tuple (items : List Datum) :
    (Datum.tuple items).atoms = items.flatMap Datum.atoms := by
  rw [atoms, atomsOfItems_eq]

/-! ## Readers -/

section

variable {β : Type} (wire : Wire AtomKind.Val β)

/-- `MAX_SEQUENCE_ELEMENTS`, `sequence.rs:20`. -/
def maxSequenceElements : Nat := 16000000

/-- `PrimitiveDeserializer`, `primitive.rs:9-155`. -/
def deserializePrimitive (t : BasicType) : Reader β Arr :=
  match t.prim? with
  | some type => do
    let value ← wire.next (.prim type)
    pure (.prim type [value])
  | none => do
    let value ← wire.next .bool
    pure (.bool [value])

/-- `Vec<u16>`. -/
def readUnits : Reader β (List UInt16) := do
  let count ← wire.next .len
  Reader.many none "" (wire.next (.prim .u16)) .ok 0 count

/-- `String::from_utf16`. -/
def fromUtf16 (units : List UInt16) : Outcome String String :=
  Outcome.okOr "invalid utf-16: lone surrogate found" (Utf16.decode units)

/-- String array with valid slots. -/
def Arr.ofStrings (strings : List String) : Arr := .string false (strings.map fun s => ⟨s, true⟩)

/-- `StringDeserializer` and `WStringDeserializer`, `string.rs:4-85`. -/
def deserializeString (t : GenericString) : Reader β Arr :=
  if t.isWide then do
    let units ← readUnits wire
    let value ← Reader.lift (fromUtf16 units)
    pure (.ofStrings [value])
  else do
    let value ← wire.next .str
    pure (.ofStrings [value])

/-- Elements of one kind, with the limit of `visit_seq`; the elements are the only row of a list. -/
def readItems {α γ : Type} (kind : String) (item : Reader β α) (convert : α → Outcome String γ)
    (array : List γ → Arr) (count : Nat) : Reader β Arr := do
  let values ← Reader.many (some maxSequenceElements)
    s!"{kind} exceeds maximum of {maxSequenceElements} elements" item convert 0 count
  pure (.list false [array values])

/-- `deserialize_struct_seq`, `sequence.rs:154-182`. -/
def deserializeStructSeq (env : Env) (message : Reader β Arr) (count : Nat) : Reader β Arr := do
  let values ← Reader.many (some maxSequenceElements)
    s!"struct sequence exceeds maximum of {maxSequenceElements} elements" message .ok 0 count
  let concatenated ← Reader.lift (.ofExcept (env.concat values))
  pure (.list false [concatenated])

/-- `SequenceVisitor::visit_seq`, `sequence.rs:53-152`, with `deserialize_primitive_seq`,
`sequence.rs:184-207`; `count` is the number of elements that the format gives. -/
def visitSeq (env : Env) (message : String → String → Reader β Arr) (package : String)
    (itemType : NestableType) (count : Nat) : Reader β Arr :=
  match itemType with
  | .basicType t =>
    match t.prim? with
    | some type => readItems "sequence" (wire.next (.prim type)) .ok (.prim type) count
    | none => readItems "bool sequence" (wire.next .bool) .ok .bool count
  | .namedType name => deserializeStructSeq env (message package name) count
  | .namespacedType reference =>
    if reference.nameSpace ≠ "msg" then
      Reader.lift (.err s!"sequence item references non-message type {reference.debug}")
    else deserializeStructSeq env (message reference.package reference.name) count
  | .genericString t =>
    if t.isWide then readItems "wstring sequence" (readUnits wire) fromUtf16 .ofStrings count
    else readItems "string sequence" (wire.next .str) .ok .ofStrings count

/-- Member of a message, `mod.rs:85-137`; `ArrayDeserializer`, `array.rs:8-28`, and
`SequenceDeserializer`, `sequence.rs:22-39`. -/
def deserializeField (env : Env) (message : String → String → Reader β Arr) (package : String)
    (m : Member) : Reader β Arr :=
  match m.type with
  | .nestableType (.basicType t) => deserializePrimitive wire t
  | .nestableType (.namedType name) => message package name
  | .nestableType (.namespacedType reference) =>
    if reference.nameSpace ≠ "msg" then
      Reader.lift (.err s!"struct field {m.name} references non-message type {reference.debug}")
    else message reference.package reference.name
  | .nestableType (.genericString t) => deserializeString wire t
  | .array valueType size => visitSeq wire env message package valueType size
  | .sequence valueType | .boundedSequence valueType _ => do
    let count ← wire.next .len
    visitSeq wire env message package valueType count

/-- `StructDeserializer` and `StructVisitor::visit_seq`, `mod.rs:25-156`. The format gives as many
elements of a tuple as are asked for. -/
def deserialize (env : Env) : Nat → String → String → Reader β Arr
  | 0, _, _ => Reader.lift (.panic "stack overflow")
  | depth + 1, package, name => do
    let message ← Reader.lift (.okOr s!"could not find message type {package}::{name}"
      (env.messages package name))
    let fields ← message.members.mapM fun m => do
      let value ← deserializeField wire env (deserialize env depth) package m
      pure (m.name, value)
    Reader.lift (.ofPanics (env.structFrom fields))

end

end DoraSpec.Ros2
