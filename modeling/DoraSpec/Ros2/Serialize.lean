import DoraSpec.Base.Utf16
import DoraSpec.Ros2.DefaultValues

/-!
# Serialisation of Arrow values as ROS2 messages

Source `libraries/extensions/ros2-bridge/arrow/src/serialize/`, files `mod.rs`, `primitive.rs`,
`array.rs` and `sequence.rs`. What is handed to the serde serializer is a tree: sequences are written
with their length, tuples without. The recursion follows the messages that a message refers to, with
room on the stack for `depth` calls.
-/

namespace DoraSpec.Ros2
open Base Outcome Outcome

/-- Calls of a serde serializer. Tuple structs are tuples. -/
inductive Datum where
  | prim (type : PrimType) (value : type.Native)
  | bool (value : Bool)
  | str (value : String)
  | seq (items : List Datum)
  | tuple (items : List Datum)

/-- Value of the only slot; `check_single_element`, `mod.rs:230-237`, and its inlined copies. -/
def singleElement {α : Type} (describe : String) : List α → Outcome String α
  | [value] => .ok value
  | values => .err s!"expected single-element {describe}, got length {values.length}"

/-! ## Single values -/

/-- `as_single_primitive`, `primitive.rs:68-87`. -/
def asSinglePrimitive (type : PrimType) (column : Arr) : Outcome String type.Native := do
  let values ← okOr s!"value is not compatible with expected `{type.nativeName}` type"
    (column.asPrimitive? type)
  singleElement s!"{type.nativeName} array" values

/-- `SerializeWrapper::serialize`, `primitive.rs:12-66`. -/
def serializePrimitive (t : BasicType) (column : Arr) : Outcome String Datum :=
  match t.prim? with
  | some type => do
    let value ← asSinglePrimitive type column
    .ok (.prim type value)
  | none => do
    let values ← okOr "value is not compatible with expected `BooleanArray` type"
      column.asBoolean?
    let value ← singleElement "BooleanArray" values
    .ok (.bool value)

namespace GenericString

/-- Declared maximum. -/
def max? : GenericString → Option Nat
  | string | wString => none
  | boundedString max | boundedWString max => some max

/-- Length to which the maximum refers: bytes, or units of a wide string. -/
def lengthOf (t : GenericString) (s : String) : Nat :=
  if t.isWide then (Utf16.encode s).length else s.utf8ByteSize

/-- A string, or the units of a wide string. -/
def datum (t : GenericString) (s : String) : Datum :=
  if t.isWide then .seq ((Utf16.encode s).map (.prim .u16)) else .str s

/-- Text for error messages. -/
def kind (t : GenericString) : String := if t.isWide then " (WString)" else ""

/-- Check of the maximum, `mod.rs:159-167,180-188`. -/
def checkBound (t : GenericString) (s : String) : Outcome String Unit :=
  match t with
  | string | wString => .ok ()
  | boundedString max =>
    if max < t.lengthOf s then
      .err s!"string length {t.lengthOf s} exceeds BoundedString max {max}"
    else .ok ()
  | boundedWString max =>
    if max < t.lengthOf s then
      .err s!"wstring length {t.lengthOf s} exceeds BoundedWString max {max}"
    else .ok ()

/-- Error for arrays that are not of strings. -/
def expected (t : GenericString) : String :=
  if t.isWide then "expected string array for WString" else "expected string array"

end GenericString

/-- String arrays with offsets of either size. -/
def stringSlots (t : GenericString) (column : Arr) : Outcome String (Bool × List (Slot String)) :=
  match column.asString? false with
  | some slots => .ok (false, slots)
  | none => do
    let slots ← okOr t.expected (column.asString? true)
    .ok (true, slots)

/-- Strings of `serialize_field`, `mod.rs:146-192`. -/
def serializeString (t : GenericString) (column : Arr) : Outcome String Datum := do
  let (large, slots) ← stringSlots t column
  let slot ← singleElement ((if large then "LargeStringArray" else "StringArray") ++ t.kind) slots
  t.checkBound slot.value
  .ok (t.datum slot.value)

/-! ## Elements -/

/-- Rows of a struct array as arrays of their own. -/
def Arr.structRows : Arr → List Arr
  | struct columns rows => rows.map fun row => struct columns [row]
  | _ => []

/-- Values of `BasicArrayAsTuple`, `array.rs:194-227`, and `BasicSequence`, `sequence.rs:229-256`. -/
def primitiveItems (type : PrimType) (entry : Arr) : Outcome String (List Datum) := do
  let values ← okOr s!"not a primitive {type.typeName} array" (entry.asPrimitive? type)
  .ok (values.map (.prim type))

/-- Values of `BoolArrayAsTuple`, `array.rs:230-258`, and `BoolArray`, `sequence.rs:298-319`. -/
def boolItems (entry : Arr) : Outcome String (List Datum) := do
  let values ← okOr "not a boolean array" entry.asBoolean?
  .ok (values.map .bool)

/-- `serialize_arrow_string` and `serialize_arrow_wstring`, `array.rs:261-292` and
`sequence.rs:198-227`. -/
def stringItems (t : GenericString) (entry : Arr) : Outcome String (List Datum) := do
  let (_, slots) ← stringSlots t entry
  .ok (slots.map fun slot => t.datum (slot.getD ""))

/-- Elements that are messages. -/
def messageItems (message : Arr → Outcome String Datum) (entry : Arr) :
    Outcome String (List Datum) := do
  let _ ← okOr "not a struct array" entry.asStruct?
  entry.structRows.mapM message

/-- Elements of an array or a sequence. -/
def serializeItems (message : String → String → Arr → Outcome String Datum) (package : String)
    (t : NestableType) (entry : Arr) : Outcome String (List Datum) :=
  match t with
  | .basicType t =>
    match t.prim? with
    | some type => primitiveItems type entry
    | none => boolItems entry
  | .namedType name => messageItems (message package name) entry
  | .namespacedType reference =>
    if reference.nameSpace ≠ "msg" then
      .err s!"sequence references non-message type {reference.debug}"
    else messageItems (message reference.package reference.name) entry
  | .genericString t => stringItems t entry

/-- Lists with offsets of either size. -/
def listEntry (incompatible : Outcome String Arr) (column : Arr) : Outcome String Arr :=
  match column.asList? false with
  | some rows => singleElement "list" rows
  | none =>
    match column.asList? true with
    | some rows => singleElement "large list" rows
    | none => incompatible

/-- `ArraySerializeWrapper::serialize`, `array.rs:24-191`. -/
def serializeArray (message : String → String → Arr → Outcome String Datum) (package : String)
    (valueType : NestableType) (size : Nat) (column : Arr) : Outcome String Datum := do
  let entry ← listEntry (.err "value is not compatible with expected array type") column
  let items ← serializeItems message package valueType entry
  match valueType with
  | .basicType _ =>
    if items.length ≠ size then
      .err s!"expected array with length {size}, got length {items.length}"
    else .ok (.tuple items)
  | _ => .ok (.tuple items)

/-- A binary array is its own entry, `sequence.rs:44-59`. -/
def binaryEntry (incompatible : Outcome String Arr) (column : Arr) : Outcome String Arr :=
  match column.asBinary? false with
  | some slots => do
    let slot ← singleElement "binary" slots
    .ok (.binary false [slot])
  | none =>
    match column.asBinary? true with
    | some slots => do
      let slot ← singleElement "large binary" slots
      .ok (.binary true [slot])
    | none => incompatible

/-- Check of the maximum, `sequence.rs:65-75`. -/
def checkMaxSize (len : Nat) : Option Nat → Outcome String Unit
  | some max =>
    if max < len then .err s!"sequence length {len} exceeds BoundedSequence max_size {max}"
    else .ok ()
  | none => .ok ()

/-- Branches of `sequence.rs:76-195`, with `ByteSequence` and `serialize_binary`,
`sequence.rs:258-296`. Booleans are written as a tuple. -/
def serializeEntry (message : String → String → Arr → Outcome String Datum) (package : String)
    (itemType : NestableType) (entry : Arr) : Outcome String Datum :=
  match itemType, entry with
  | .basicType .bool, _ => do
    let items ← boolItems entry
    .ok (.tuple items)
  | .basicType .u8, .binary _ slots | .basicType .char, .binary _ slots
  | .basicType .byte, .binary _ slots =>
    .ok (.seq (slots.map fun slot => .seq ((slot.getD []).map (.prim .u8))))
  | _, _ => do
    let items ← serializeItems message package itemType entry
    .ok (.seq items)

/-- `SequenceSerializeWrapper::serialize`, `sequence.rs:23-196`. -/
def serializeSequence (env : Env) (message : String → String → Arr → Outcome String Datum)
    (package : String) (itemType : NestableType) (maxSize : Option Nat) (column : Arr) :
    Outcome String Datum := do
  let entry ← listEntry (binaryEntry
    (.err s!"value is not compatible with expected sequence type: {env.debugArray column}") column)
    column
  checkMaxSize entry.len maxSize
  serializeEntry message package itemType entry

/-! ## Messages -/

/-- `serialize_field`, `mod.rs:99-220`. -/
def serializeField (env : Env) (message : String → String → Arr → Outcome String Datum)
    (package : String) (m : Member) (column : Arr) : Outcome String Datum :=
  match m.type with
  | .nestableType (.basicType t) => serializePrimitive t column
  | .nestableType (.namedType name) => message package name column
  | .nestableType (.namespacedType reference) =>
    if reference.nameSpace ≠ "msg" then
      .err s!"struct field {m.name} references non-message type {reference.debug}"
    else message reference.package reference.name column
  | .nestableType (.genericString t) => serializeString t column
  | .array valueType size => serializeArray message package valueType size column
  | .sequence valueType => serializeSequence env message package valueType none column
  | .boundedSequence valueType maxSize =>
    serializeSequence env message package valueType (some maxSize) column

/-- Column of a member, or its default; `mod.rs:68-85`. -/
def fieldColumn (env : Env) (depth : Nat) (package : String) (message : Message)
    (columns : List (String × Arr)) (rows : List (List Arr)) (m : Member) : Outcome String Arr :=
  match Arr.columnByName columns rows m.name with
  | some column => .ok column
  | none =>
    (withContext s!"failed to calculate default value for field {message.name}.{m.name}"
      (defaultForMember env (defaultForMessage env depth) package m)).mapErr env.debugReport

/-- One round of the loop over the members, `mod.rs:67-94`; `write` serialises a referenced message. -/
def serializeMember (env : Env) (depth : Nat) (write : String → String → Arr → Outcome String Datum)
    (package : String) (message : Message) (columns : List (String × Arr)) (rows : List (List Arr))
    (m : Member) : Outcome String Datum := do
  let column ← fieldColumn env depth package message columns rows m
  (serializeField env write package m column).mapErr fun e =>
    s!"failed to serialize field {message.name}.{m.name}: {e}"

/-- Check of the columns, `mod.rs:52-58`. -/
def checkColumn (message : Message) (column : String × Arr) : Outcome String Unit :=
  if message.members.any fun m => m.name = column.1 then .ok ()
  else .err s!"given struct has unknown field {column.1}"

/-- `TypedValue::serialize`, `mod.rs:27-97`. -/
def serialize (env : Env) : Nat → String → String → Arr → Outcome String Datum
  | 0, _, _, _ => .panic "stack overflow"
  | depth + 1, package, name, value => do
    let message ← okOr s!"could not find message type {package}::{name}"
      (env.messages package name)
    let (columns, rows) ← okOr
      (s!"expected struct array for message: {name}, with following format: " ++
        s!"{env.debugMessage message} \n But, got type: {env.debugType value}") value.asStruct?
    columns.forM (checkColumn message)
    if 1 < rows.length then
      .err s!"expected single struct instance, got struct array with {rows.length} entries"
    let fields ← message.members.mapM
      (serializeMember env depth (serialize env depth) package message columns rows)
    .ok (.tuple fields)

/-! ## What is written

Each function writes in the cases of one relation, and returns an error or panics in all others. -/

section

variable {α : Type} {message : String → String → Arr → Outcome String Datum} {package : String}

private theorem singleElement_eq_ok {describe : String} {values : List α} {value : α} :
    singleElement describe values = .ok value ↔ values = [value] := by
  match values with
  | [] => simp [singleElement]
  | [v] => simp [singleElement]
  | _ :: _ :: _ => simp [singleElement]

variable {column entry : Arr} {items : List Datum} {t : NestableType} {d : Datum}

private theorem serializePrimitive_eq_ok {t : BasicType} :
    serializePrimitive t column = .ok d ↔
      (∃ type value, t.prim? = some type ∧ column = .prim type [value] ∧ d = .prim type value) ∨
      t.prim? = none ∧ ∃ value, column = .bool [value] ∧ d = .bool value := by
  unfold serializePrimitive
  cases ht : t.prim? with
  | some type =>
    simp only [asSinglePrimitive, bind_eq_ok, okOr_eq_ok, ok.injEq,
      Arr.asPrimitive?_eq_some, singleElement_eq_ok]
    constructor
    · rintro ⟨value, ⟨values, rfl, rfl⟩, rfl⟩
      exact .inl ⟨type, value, rfl, rfl, rfl⟩
    · rintro (⟨_, value, ⟨⟩, rfl, rfl⟩ | ⟨⟨⟩, -⟩)
      exact ⟨value, ⟨_, rfl, rfl⟩, rfl⟩
  | none =>
    simp only [bind_eq_ok, okOr_eq_ok, ok.injEq, Arr.asBoolean?_eq_some,
      singleElement_eq_ok]
    constructor
    · rintro ⟨values, rfl, value, rfl, rfl⟩
      exact .inr ⟨trivial, value, rfl, rfl⟩
    · rintro (⟨_, _, ⟨⟩, -⟩ | ⟨-, value, rfl, rfl⟩)
      exact ⟨_, rfl, value, rfl, rfl⟩

private theorem stringSlots_eq_ok {t : GenericString} {large : Bool} {slots : List (Slot String)} :
    stringSlots t column = .ok (large, slots) ↔ column = .string large slots := by
  unfold stringSlots
  cases hs : column.asString? false with
  | some slots' =>
    rw [Arr.asString?_eq_some] at hs
    simp [hs]
  | none =>
    have hne (slots) : column ≠ .string false slots := by
      rw [ne_eq, ← Arr.asString?_eq_some, hs]
      nofun
    simp only [bind_eq_ok, okOr_eq_ok, Arr.asString?_eq_some, ok.injEq,
      Prod.mk.injEq]
    constructor
    · rintro ⟨slots', hs', rfl, rfl⟩
      exact hs'
    · cases large with
      | false => exact fun h => absurd h (hne slots)
      | true => exact fun h => ⟨slots, h, rfl, rfl⟩

/-- The string is not longer than declared. -/
def GenericString.Fits (t : GenericString) (s : String) : Prop := ∀ max ∈ t.max?, t.lengthOf s ≤ max

private theorem GenericString.checkBound_eq_ok {t : GenericString} {s : String} :
    t.checkBound s = .ok () ↔ t.Fits s := by
  cases t <;> simp [checkBound, Fits, max?]

private theorem serializeString_eq_ok {t : GenericString} :
    serializeString t column = .ok d ↔
      ∃ large slot, column = .string large [slot] ∧ t.Fits slot.value ∧ d = t.datum slot.value := by
  simp only [serializeString, bind_eq_ok, Prod.exists, stringSlots_eq_ok,
    singleElement_eq_ok, ok.injEq]
  constructor
  · rintro ⟨large, _, rfl, slot, rfl, ⟨⟩, hfits, rfl⟩
    exact ⟨large, slot, rfl, GenericString.checkBound_eq_ok.mp hfits, rfl⟩
  · rintro ⟨large, slot, rfl, hfits, rfl⟩
    exact ⟨large, _, rfl, slot, rfl, (), GenericString.checkBound_eq_ok.mpr hfits, rfl⟩

/-- Message to which a type refers. -/
def NestableType.message? (package : String) : NestableType → Option (String × String)
  | .namedType name => some (package, name)
  | .namespacedType reference =>
    if reference.nameSpace = "msg" then some (reference.package, reference.name) else none
  | .basicType _ | .genericString _ => none

namespace MemberType

/-- Type of the elements, or of the value itself. -/
def element : MemberType → NestableType
  | nestableType t | array t _ | sequence t | boundedSequence t _ => t

/-- Messages in a column. -/
def messageArrays : MemberType → Arr → List Arr
  | nestableType _, column => [column]
  | _, .list _ [entry] => entry.structRows
  | _, _ => []

end MemberType

/-- Elements that are written for an entry. -/
inductive WritesItems (message : String → String → Arr → Outcome String Datum) (package : String) :
    NestableType → Arr → List Datum → Prop
  | prim {t : BasicType} {type : PrimType} {values : List type.Native} (ht : t.prim? = some type) :
    WritesItems message package (.basicType t) (.prim type values) (values.map (.prim type))
  | bool {values : List Bool} :
    WritesItems message package (.basicType .bool) (.bool values) (values.map .bool)
  | string {t : GenericString} {large : Bool} {slots : List (Slot String)} :
    WritesItems message package (.genericString t) (.string large slots)
      (slots.map fun slot => t.datum (slot.getD ""))
  | message {t : NestableType} {reference : String × String} {columns : List (String × Arr)}
    {rows : List (List Arr)} {items : List Datum} (ht : t.message? package = some reference)
    (hitems : List.Forall₂ (fun row d => message reference.1 reference.2 row = .ok d)
      (Arr.struct columns rows).structRows items) :
    WritesItems message package t (.struct columns rows) items

private theorem BasicType.prim?_eq_none {t : BasicType} : t.prim? = none ↔ t = .bool := by
  cases t <;> simp [prim?]

private theorem primitiveItems_eq_ok {type : PrimType} :
    primitiveItems type entry = .ok items ↔
      ∃ values, entry = .prim type values ∧ values.map (.prim type) = items := by
  simp only [primitiveItems, bind_eq_ok, okOr_eq_ok, Arr.asPrimitive?_eq_some,
    ok.injEq]

private theorem boolItems_eq_ok :
    boolItems entry = .ok items ↔ ∃ values, entry = .bool values ∧ values.map .bool = items := by
  simp only [boolItems, bind_eq_ok, okOr_eq_ok, Arr.asBoolean?_eq_some,
    ok.injEq]

private theorem messageItems_eq_ok {f : Arr → Outcome String Datum} :
    messageItems f entry = .ok items ↔
      ∃ columns rows, entry = .struct columns rows ∧
        List.Forall₂ (fun row d => f row = .ok d) entry.structRows items := by
  simp only [messageItems, bind_eq_ok, okOr_eq_ok, Prod.exists,
    Arr.asStruct?_eq_some, mapM_eq_ok, exists_and_right]

private theorem serializeItems_eq_ok :
    serializeItems message package t entry = .ok items ↔
      WritesItems message package t entry items := by
  have hmessage {reference : String × String} (ht : t.message? package = some reference) :
      messageItems (message reference.1 reference.2) entry = .ok items ↔
        WritesItems message package t entry items := by
    rw [messageItems_eq_ok]
    constructor
    · rintro ⟨columns, rows, rfl, hitems⟩
      exact .message ht hitems
    · intro h
      cases h with
      | message ht' hitems =>
        obtain rfl := Option.some.inj (ht.symm.trans ht')
        exact ⟨_, _, rfl, hitems⟩
      | _ => cases ht
  match t with
  | .basicType t =>
    rw [serializeItems]
    cases ht : t.prim? with
    | some type =>
      refine primitiveItems_eq_ok.trans ⟨?_, fun h => ?_⟩
      · rintro ⟨values, rfl, rfl⟩
        exact .prim ht
      · cases h with
        | prim ht' =>
          obtain rfl := Option.some.inj (ht.symm.trans ht')
          exact ⟨_, rfl, rfl⟩
        | bool => cases ht
        | message ht' => cases ht'
    | none =>
      obtain rfl := BasicType.prim?_eq_none.mp ht
      refine boolItems_eq_ok.trans ⟨?_, fun h => ?_⟩
      · rintro ⟨values, rfl, rfl⟩
        exact .bool
      · cases h with
        | prim ht' => cases ht'
        | bool => exact ⟨_, rfl, rfl⟩
        | message ht' => cases ht'
  | .namedType name => exact hmessage rfl
  | .namespacedType reference =>
    rw [serializeItems]
    by_cases hns : reference.nameSpace = "msg"
    · rw [if_neg (not_not.mpr hns)]
      exact hmessage (if_pos hns)
    · rw [if_pos hns]
      constructor
      · nofun
      · intro h
        cases h with
        | message ht => simp [NestableType.message?, hns] at ht
  | .genericString t =>
    simp only [serializeItems, stringItems, bind_eq_ok, Prod.exists, stringSlots_eq_ok,
      ok.injEq]
    constructor
    · rintro ⟨large, slots, rfl, rfl⟩
      exact .string
    · intro h
      cases h with
      | string => exact ⟨_, _, rfl, rfl⟩
      | message ht' => cases ht'

/-- All entries are written. -/
theorem WritesItems.length_eq (h : WritesItems message package t entry items) :
    items.length = entry.len := by
  cases h with
  | prim | bool | string => exact List.length_map _
  | message _ hitems =>
    rw [← hitems.length_eq]
    exact List.length_map _

/-- Entry of the only row of a list, or a binary array with one row. -/
inductive IsEntry : Arr → Arr → Prop
  | list {large : Bool} {entry : Arr} : IsEntry (.list large [entry]) entry
  | binary {large : Bool} {slot : Slot (List UInt8)} :
    IsEntry (.binary large [slot]) (.binary large [slot])

private theorem listEntry_eq_ok {incompatible : Outcome String Arr} :
    listEntry incompatible column = .ok entry ↔
      (∃ large, column = .list large [entry]) ∨
        (∀ large rows, column ≠ .list large rows) ∧ incompatible = .ok entry := by
  cases column with
  | list large rows =>
    cases large <;> simp [listEntry, Arr.asList?, singleElement_eq_ok]
  | _ => simp [listEntry, Arr.asList?]

private theorem binaryEntry_eq_ok {e : String} :
    binaryEntry (.err e) column = .ok entry ↔
      ∃ large slot, column = .binary large [slot] ∧ .binary large [slot] = entry := by
  cases column with
  | binary large slots =>
    cases large <;> simp [binaryEntry, Arr.asBinary?, singleElement_eq_ok, bind_eq_ok]
  | _ => simp [binaryEntry, Arr.asBinary?]

private theorem sequenceEntry_eq_ok {e : String} :
    listEntry (binaryEntry (.err e) column) column = .ok entry ↔ IsEntry column entry := by
  rw [listEntry_eq_ok, binaryEntry_eq_ok]
  constructor
  · rintro (⟨large, rfl⟩ | ⟨-, large, slot, rfl, rfl⟩)
    · exact .list
    · exact .binary
  · rintro (_ | _)
    · exact .inl ⟨_, rfl⟩
    · exact .inr ⟨nofun, _, _, rfl, rfl⟩

private theorem checkMaxSize_eq_ok {len : Nat} {maxSize : Option Nat} :
    checkMaxSize len maxSize = .ok () ↔ ∀ max ∈ maxSize, len ≤ max := by
  cases maxSize <;> simp [checkMaxSize]

/-- What is written for the entry of a sequence. -/
inductive WritesEntry (message : String → String → Arr → Outcome String Datum) (package : String) :
    NestableType → Arr → Datum → Prop
  | items {t : NestableType} {entry : Arr} {items : List Datum} (ht : t ≠ .basicType .bool)
    (hitems : WritesItems message package t entry items) :
    WritesEntry message package t entry (.seq items)
  | bools {values : List Bool} :
    WritesEntry message package (.basicType .bool) (.bool values) (.tuple (values.map .bool))
  | bytes {t : BasicType} {large : Bool} {slots : List (Slot (List UInt8))}
    (ht : t.prim? = some .u8) : WritesEntry message package (.basicType t) (.binary large slots)
      (.seq (slots.map fun slot => .seq ((slot.getD []).map (.prim .u8))))

private theorem serializeEntry_eq_ok :
    serializeEntry message package t entry = .ok d ↔ WritesEntry message package t entry d := by
  have hbytes {b : BasicType} {large : Bool} {slots : List (Slot (List UInt8))}
      (hb : b.prim? = some .u8) :
      ok (ε := String) (.seq (slots.map fun slot => .seq ((slot.getD []).map (.prim .u8)))) =
        .ok d ↔ WritesEntry message package (.basicType b) (.binary large slots) d := by
    constructor
    · rintro ⟨⟩
      exact .bytes hb
    · intro h
      cases h with
      | items _ hitems => cases hitems
      | bytes => rfl
  unfold serializeEntry
  split
  · rw [bind_eq_ok]
    constructor
    · rintro ⟨items, hitems, ⟨⟩⟩
      obtain ⟨values, rfl, rfl⟩ := boolItems_eq_ok.mp hitems
      exact .bools
    · intro h
      cases h with
      | items ht => exact absurd rfl ht
      | bools => exact ⟨_, boolItems_eq_ok.mpr ⟨_, rfl, rfl⟩, rfl⟩
      | bytes ht => cases ht
  · exact hbytes rfl
  · exact hbytes rfl
  · exact hbytes rfl
  · next hbool hu8 hchar hbyte =>
    rw [bind_eq_ok]
    constructor
    · rintro ⟨items, hitems, ⟨⟩⟩
      exact .items hbool (serializeItems_eq_ok.mp hitems)
    · intro h
      cases h with
      | items ht hitems => exact ⟨_, serializeItems_eq_ok.mpr hitems, rfl⟩
      | bools => exact absurd rfl hbool
      | @bytes b large slots ht =>
        cases b with
        | u8 => exact absurd rfl (hu8 large slots rfl)
        | char => exact absurd rfl (hchar large slots rfl)
        | byte => exact absurd rfl (hbyte large slots rfl)
        | _ => cases ht

/-- Fields that are written for a column. -/
inductive WritesField (message : String → String → Arr → Outcome String Datum) (package : String) :
    MemberType → Arr → Datum → Prop
  | prim {t : BasicType} {type : PrimType} {value : type.Native} (ht : t.prim? = some type) :
    WritesField message package (.nestableType (.basicType t)) (.prim type [value])
      (.prim type value)
  | bool {value : Bool} :
    WritesField message package (.nestableType (.basicType .bool)) (.bool [value]) (.bool value)
  | string {t : GenericString} {large : Bool} {slot : Slot String} (hfits : t.Fits slot.value) :
    WritesField message package (.nestableType (.genericString t)) (.string large [slot])
      (t.datum slot.value)
  | message {t : NestableType} {reference : String × String} {column : Arr} {d : Datum}
    (ht : t.message? package = some reference)
    (hd : message reference.1 reference.2 column = .ok d) :
    WritesField message package (.nestableType t) column d
  | array {t : NestableType} {size : Nat} {large : Bool} {entry : Arr} {items : List Datum}
    (hitems : WritesItems message package t entry items)
    (hsize : ∀ b, t = .basicType b → items.length = size) :
    WritesField message package (.array t size) (.list large [entry]) (.tuple items)
  | sequence {t : NestableType} {column entry : Arr} {d : Datum} (hentry : IsEntry column entry)
    (hd : WritesEntry message package t entry d) :
    WritesField message package (.sequence t) column d
  | boundedSequence {t : NestableType} {maxSize : Nat} {column entry : Arr} {d : Datum}
    (hentry : IsEntry column entry) (hmax : entry.len ≤ maxSize)
    (hd : WritesEntry message package t entry d) :
    WritesField message package (.boundedSequence t maxSize) column d

private theorem serializeArray_eq_ok {size : Nat} :
    serializeArray message package t size column = .ok d ↔
      WritesField message package (.array t size) column d := by
  unfold serializeArray
  simp only [bind_eq_ok, listEntry_eq_ok, serializeItems_eq_ok, reduceCtorEq, and_false,
    or_false]
  constructor
  · rintro ⟨entry, ⟨large, rfl⟩, items, hitems, hd⟩
    split at hd
    · split at hd
      · cases hd
      · next hsize =>
        cases hd
        exact .array hitems fun _ _ => not_not.mp hsize
    · next hbasic =>
      cases hd
      exact .array hitems fun b hb => absurd hb (hbasic b)
  · intro h
    cases h with
    | array hitems hsize =>
      refine ⟨_, ⟨_, rfl⟩, _, hitems, ?_⟩
      split
      · rw [if_neg (not_not.mpr (hsize _ rfl))]
      · rfl

private theorem serializeSequence_eq_ok {env : Env} {maxSize : Option Nat} :
    serializeSequence env message package t maxSize column = .ok d ↔
      ∃ entry, IsEntry column entry ∧ (∀ max ∈ maxSize, entry.len ≤ max) ∧
        WritesEntry message package t entry d := by
  simp only [serializeSequence, bind_eq_ok, sequenceEntry_eq_ok, serializeEntry_eq_ok]
  constructor
  · rintro ⟨entry, hentry, ⟨⟩, hmax, hd⟩
    exact ⟨entry, hentry, checkMaxSize_eq_ok.mp hmax, hd⟩
  · rintro ⟨entry, hentry, hmax, hd⟩
    exact ⟨entry, hentry, (), checkMaxSize_eq_ok.mpr hmax, hd⟩

private theorem serializeField_eq_ok {env : Env} {m : Member} :
    serializeField env message package m column = .ok d ↔
      WritesField message package m.type column d := by
  have hmessage {t : NestableType} {reference : String × String}
      (ht : t.message? package = some reference) :
      message reference.1 reference.2 column = .ok d ↔
        WritesField message package (.nestableType t) column d := by
    constructor
    · exact .message ht
    · intro h
      cases h with
      | message ht' hd =>
        obtain rfl := Option.some.inj (ht.symm.trans ht')
        exact hd
      | _ => cases ht
  obtain ⟨_, type, _⟩ := m
  match type with
  | .nestableType (.basicType t) =>
    refine serializePrimitive_eq_ok.trans ⟨?_, fun h => ?_⟩
    · rintro (⟨type, value, ht, rfl, rfl⟩ | ⟨ht, value, rfl, rfl⟩)
      · exact .prim ht
      · obtain rfl := BasicType.prim?_eq_none.mp ht
        exact .bool
    · cases h with
      | prim ht => exact .inl ⟨_, _, ht, rfl, rfl⟩
      | bool => exact .inr ⟨rfl, _, rfl, rfl⟩
      | message ht => cases ht
  | .nestableType (.namedType name) => exact @hmessage (.namedType name) (package, name) rfl
  | .nestableType (.namespacedType reference) =>
    simp only [serializeField]
    by_cases hns : reference.nameSpace = "msg"
    · rw [if_neg (not_not.mpr hns)]
      have ht : (NestableType.namespacedType reference).message? package =
          some (reference.package, reference.name) := if_pos hns
      exact hmessage ht
    · rw [if_pos hns]
      constructor
      · nofun
      · intro h
        cases h with
        | message ht => simp [NestableType.message?, hns] at ht
  | .nestableType (.genericString t) =>
    refine serializeString_eq_ok.trans ⟨?_, fun h => ?_⟩
    · rintro ⟨large, slot, rfl, hfits, rfl⟩
      exact .string hfits
    · cases h with
      | string hfits => exact ⟨_, _, rfl, hfits, rfl⟩
      | message ht => cases ht
  | .array t size => exact serializeArray_eq_ok
  | .sequence t =>
    refine serializeSequence_eq_ok.trans ⟨?_, fun h => ?_⟩
    · rintro ⟨entry, hentry, -, hd⟩
      exact .sequence hentry hd
    · cases h with
      | sequence hentry hd => exact ⟨_, hentry, nofun, hd⟩
  | .boundedSequence t maxSize =>
    refine serializeSequence_eq_ok.trans ⟨?_, fun h => ?_⟩
    · rintro ⟨entry, hentry, hmax, hd⟩
      exact .boundedSequence hentry (hmax _ rfl) hd
    · cases h with
      | boundedSequence hentry hmax hd =>
        exact ⟨_, hentry, fun max hm => Option.some.inj hm ▸ hmax, hd⟩

end

/-! ## Whole messages -/

/-- Each left element has a partner. -/
theorem exists_zip_of_mem {α β : Type} {R : α → β → Prop} {as : List α} {bs : List β}
    (h : List.Forall₂ R as bs) {a : α} (ha : a ∈ as) : ∃ b, (a, b) ∈ as.zip bs ∧ R a b := by
  induction h with
  | nil => cases ha
  | @cons a' b' _ _ hab _ ih =>
    rcases List.mem_cons.mp ha with rfl | ha
    · exact ⟨b', List.mem_cons_self, hab⟩
    · obtain ⟨b, hb, hR⟩ := ih ha
      exact ⟨b, List.mem_cons_of_mem _ hb, hR⟩

/-- Each right element has a partner. -/
theorem exists_of_mem_right {α β : Type} {R : α → β → Prop} {as : List α} {bs : List β}
    (h : List.Forall₂ R as bs) {b : β} (hb : b ∈ bs) : ∃ a ∈ as, R a b := by
  obtain ⟨a, ha, hR⟩ := exists_zip_of_mem h.flip hb
  exact ⟨a, List.of_mem_zip ha |>.2, hR⟩

section

variable {env : Env} {depth : Nat} {package name : String} {value : Arr} {d : Datum}

/-- A struct is written if it has at most one row and no unknown column, and each member is. -/
theorem serialize_eq_ok :
    serialize env (depth + 1) package name value = .ok d ↔
      ∃ message columns rows fields, env.messages package name = some message ∧
        value = .struct columns rows ∧
        (∀ column ∈ columns, ∃ m ∈ message.members, m.name = column.1) ∧ rows.length ≤ 1 ∧
        List.Forall₂ (fun m field => ∃ column,
          fieldColumn env depth package message columns rows m = .ok column ∧
            WritesField (serialize env depth) package m.type column field)
          message.members fields ∧ d = .tuple fields := by
  have hcheck {message : Message} {columns : List (String × Arr)} :
      columns.forM (checkColumn message) = .ok () ↔
        ∀ column ∈ columns, ∃ m ∈ message.members, m.name = column.1 := by
    simp only [forM_eq_ok, checkColumn]
    simp
  have hmembers {message : Message} {columns rows fields} :
      message.members.mapM
          (serializeMember env depth (serialize env depth) package message columns rows) =
        .ok fields ↔ List.Forall₂ (fun m field => ∃ column,
          fieldColumn env depth package message columns rows m = .ok column ∧
            WritesField (serialize env depth) package m.type column field)
          message.members fields := by
    simp only [mapM_eq_ok, serializeMember, bind_eq_ok, mapErr_eq_ok,
      serializeField_eq_ok]
  simp only [serialize, bind_eq_ok, okOr_eq_ok, Prod.exists, Arr.asStruct?_eq_some]
  constructor
  · rintro ⟨message, hmessage, columns, rows, rfl, ⟨⟩, hcolumns, h⟩
    split at h
    · cases h
    · next hrows =>
      obtain ⟨fields, hfields, ⟨⟩⟩ := bind_eq_ok.mp h
      exact ⟨message, columns, rows, fields, hmessage, rfl, hcheck.mp hcolumns, not_lt.mp hrows,
        hmembers.mp hfields, rfl⟩
  · rintro ⟨message, columns, rows, fields, hmessage, rfl, hcolumns, hrows, hfields, rfl⟩
    refine ⟨message, hmessage, columns, rows, rfl, (), hcheck.mpr hcolumns, ?_⟩
    rw [if_neg (not_lt.mpr hrows)]
    exact bind_eq_ok.mpr ⟨fields, hmembers.mpr hfields, rfl⟩

end

end DoraSpec.Ros2
