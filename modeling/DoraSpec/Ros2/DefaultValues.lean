import DoraSpec.Base.Text
import DoraSpec.Ros2.Arrow
import DoraSpec.Ros2.Types

/-!
# Default values of the ROS2 bridge

Source `libraries/extensions/ros2-bridge/arrow/src/serialize/defaults.rs`. A field that is missing in
an Arrow struct gets the default of the message file, or zero. The recursion is over messages that
refer to each other, which need not end: `depth` is the number of calls for which there is room on the
stack.
-/

namespace DoraSpec.Ros2
open Base Base.Text

/-- What the bridge knows and uses: the messages by package and name, the operations on arrays and
the debug output of values in error messages. The members of a ROS2 message have different names. -/
structure Env extends ArrowOps where
  messages : String → String → Option Message
  distinct {package name : String} {message : Message} :
    messages package name = some message → (message.members.map Member.name).Nodup
  debugMessage : Message → String := fun _ => ""
  debugType : Arr → String := fun _ => ""
  debugArray : Arr → String := fun _ => ""
  debugReport : List String → String := fun _ => ""

/-- The messages of a list. -/
def Env.ofList (messages : List Message)
    (distinct : ∀ message ∈ messages, (message.members.map Member.name).Nodup) : Env where
  messages package name :=
    messages.find? fun message => message.package = package ∧ message.name = name
  distinct h := distinct _ (List.mem_of_find?_eq_some h)
  toArrowOps := .sameType

/-- Arrow type of a basic type, except for booleans. -/
def BasicType.prim? : BasicType → Option PrimType
  | i8 => some .i8
  | i16 => some .i16
  | i32 => some .i32
  | i64 => some .i64
  | u8 | char | byte => some .u8
  | u16 => some .u16
  | u32 => some .u32
  | u64 => some .u64
  | f32 => some .f32
  | f64 => some .f64
  | bool => none

/-- `parse` of the Rust type. -/
def PrimType.parse : (type : PrimType) → String → Option type.Native
  | i8, s => (parseSigned 8 s).map Int8.ofInt
  | i16, s => (parseSigned 16 s).map Int16.ofInt
  | i32, s => (parseSigned 32 s).map Int32.ofInt
  | i64, s => (parseSigned 64 s).map Int64.ofInt
  | u8, s => (parseUnsigned (2 ^ 8 - 1) s).map UInt8.ofNat
  | u16, s => (parseUnsigned (2 ^ 16 - 1) s).map UInt16.ofNat
  | u32, s => (parseUnsigned (2 ^ 32 - 1) s).map UInt32.ofNat
  | u64, s => (parseUnsigned (2 ^ 64 - 1) s).map UInt64.ofNat
  | f32, s => parseF32 s
  | f64, s => parseF64 s

/-- `parse::<bool>`. -/
def parseBool (s : String) : Option Bool :=
  if s = "true" then some true else if s = "false" then some false else none

/-- An error with its contexts, the outermost first. -/
abbrev Report := List String

/-- `with_context`. -/
def withContext {α : Type} (context : String) (x : Outcome Report α) : Outcome Report α :=
  x.mapErr (context :: ·)

/-- A string array with one entry. -/
def oneString (s : String) : Arr := .string false [⟨s, true⟩]

/-- `preset_default_for_basic_type`, `defaults.rs:112-189`. -/
def presetDefaultForBasicType (t : NestableType) (preset : String) : Outcome Report Arr :=
  match t with
  | .basicType .char => .ok (oneString preset)
  | .basicType .byte => .ok (.prim .u8 preset.toUTF8.data.toList)
  | .basicType t =>
    match t.prim? with
    | some p =>
      match p.parse preset with
      | some value => .ok (.prim p [value])
      | none => .err ["Could not parse preset default value"]
    | none =>
      match parseBool preset with
      | some value => .ok (.bool [value])
      | none => .err ["could not parse preset default value"]
  | .genericString _ => .ok (oneString preset)
  | .namedType _ | .namespacedType _ =>
    .err ["preset default values for named/namespaced types are not supported in ROS2"]

/-- `default_for_nestable_type`, `defaults.rs:69-110`; `message` gives the default of a message. -/
def defaultForNestableType (message : String → String → Outcome Report Arr) (package : String)
    (t : NestableType) (size : Nat) : Outcome Report Arr :=
  match t with
  | .basicType .char => .ok (oneString "")
  | .basicType t =>
    match t.prim? with
    | some p => .ok (.prim p (List.replicate size p.zero))
    | none => .ok (.bool (List.replicate size false))
  | .genericString _ => .ok (oneString "")
  | .namedType name => message package name
  | .namespacedType reference => message reference.package reference.name

/-- `list_default_values`, `defaults.rs:216-261`. -/
def listDefaultValues (env : Env) (message : String → String → Outcome Report Arr)
    (package : String) (m : Member) (valueType : NestableType) (size : Option Nat) : Outcome Report Arr :=
  match m.default with
  | some [] => .err ["empty default value not supported"]
  | some defaults => do
    let rawArray ← defaults.mapM fun preset =>
      withContext s!"failed to parse default value for `{m.name}`"
        (presetDefaultForBasicType valueType preset)
    withContext "Failed to concatenate default list value"
      ((Outcome.ofExcept (env.concat rawArray)).mapErr ([·]))
  | none => do
    let size := size.getD 1
    let values ← defaultForNestableType message package valueType size
    .ofPanics (env.listNew values size)

/-- `default_for_member`, `defaults.rs:18-67`. -/
def defaultForMember (env : Env) (message : String → String → Outcome Report Arr)
    (package : String) (m : Member) : Outcome Report Arr :=
  match m.type with
  | .nestableType (.namedType name) =>
    if m.default.isSome then .err ["default values for nested types are not supported"]
    else defaultForNestableType message package (.namedType name) 1
  | .nestableType (.namespacedType reference) =>
    defaultForNestableType message package (.namespacedType reference) 1
  | .nestableType t =>
    match m.default with
    | some [] => .err ["empty default value not supported"]
    | some [preset] =>
      withContext s!"failed to parse default value for `{m.name}`" (presetDefaultForBasicType t preset)
    | some _ => .err ["there should be only a single default value for non-sequence types"]
    | none => defaultForNestableType message package t 1
  | .array valueType size => listDefaultValues env message package m valueType (some size)
  | .sequence valueType => listDefaultValues env message package m valueType none
  | .boundedSequence valueType maxSize => listDefaultValues env message package m valueType (some maxSize)

/-- `default_for_referenced_message`, `defaults.rs:191-214`, with the look-up of the message. -/
def defaultForMessage (env : Env) : Nat → String → String → Outcome Report Arr
  | 0, _, _ => .panic "stack overflow"
  | depth + 1, package, name =>
    match env.messages package name with
    | none => .err ["unknown referenced message"]
    | some message => do
      let fields ← message.members.mapM fun m => do
        let default ← defaultForMember env (defaultForMessage env depth) package m
        .ok (m.name, default)
      .ofPanics (env.structFrom fields)

/-! ## Room on the stack

More room does not change a default. -/

section

variable {f g : String → String → Outcome Report Arr} {package : String}

private theorem defaultForNestableType_mono (h : ∀ p n v, f p n = .ok v → g p n = .ok v)
    {t : NestableType} {size : Nat} {v : Arr}
    (hv : defaultForNestableType f package t size = .ok v) :
    defaultForNestableType g package t size = .ok v := by
  cases t with
  | basicType t => cases t <;> exact hv
  | genericString t => exact hv
  | namedType | namespacedType => exact h _ _ _ hv

private theorem listDefaultValues_mono (h : ∀ p n v, f p n = .ok v → g p n = .ok v) {m : Member}
    {t : NestableType} {size : Option Nat} {v : Arr}
    (hv : listDefaultValues env f package m t size = .ok v) :
    listDefaultValues env g package m t size = .ok v := by
  unfold listDefaultValues at hv ⊢
  cases hm : m.default with
  | some defaults =>
    rw [hm] at hv
    cases defaults <;> exact hv
  | none =>
    rw [hm] at hv
    obtain ⟨values, hvalues, hlist⟩ := Outcome.bind_eq_ok.mp hv
    exact Outcome.bind_eq_ok.mpr ⟨values, defaultForNestableType_mono h hvalues, hlist⟩

/-- Deeper messages change no default of a member. -/
theorem defaultForMember_mono (h : ∀ p n v, f p n = .ok v → g p n = .ok v) {m : Member} {v : Arr}
    (hv : defaultForMember env f package m = .ok v) : defaultForMember env g package m = .ok v := by
  obtain ⟨name, type, default⟩ := m
  match type with
  | .nestableType (.namedType _) =>
    simp only [defaultForMember] at hv ⊢
    split at hv
    · cases hv
    · next hdefault =>
      rw [if_neg hdefault]
      exact defaultForNestableType_mono h hv
  | .nestableType (.namespacedType reference) =>
    exact @defaultForNestableType_mono f g package h (.namespacedType reference) 1 v hv
  | .nestableType (.basicType t) =>
    match default with
    | none => exact defaultForNestableType_mono h hv
    | some [] | some [_] | some (_ :: _ :: _) => exact hv
  | .nestableType (.genericString t) =>
    match default with
    | none => exact @defaultForNestableType_mono f g package h (.genericString t) 1 v hv
    | some [] | some [_] | some (_ :: _ :: _) => exact hv
  | .array .. => exact listDefaultValues_mono h hv
  | .sequence _ => exact listDefaultValues_mono h hv
  | .boundedSequence .. => exact listDefaultValues_mono h hv

end

/-- A default value does not depend on the depth. -/
theorem defaultForMessage_mono {env : Env} {depth depth' : Nat} {package name : String} {v : Arr}
    (hle : depth ≤ depth') (h : defaultForMessage env depth package name = .ok v) :
    defaultForMessage env depth' package name = .ok v := by
  induction depth generalizing depth' package name v with
  | zero => cases h
  | succ depth ih =>
    cases depth' with
    | zero => cases hle
    | succ depth' =>
      rw [defaultForMessage] at h ⊢
      cases hm : env.messages package name with
      | none => simp [hm] at h
      | some message =>
        simp only [hm, Outcome.bind_eq_ok, Outcome.mapM_eq_ok] at h ⊢
        obtain ⟨fields, hfields, hv⟩ := h
        refine ⟨fields, hfields.imp fun m field => ?_, hv⟩
        rintro ⟨column, hcolumn, hfield⟩
        exact ⟨column, defaultForMember_mono
          (fun _ _ _ hv => ih (Nat.le_of_succ_le_succ hle) hv) hcolumn, hfield⟩

end DoraSpec.Ros2
