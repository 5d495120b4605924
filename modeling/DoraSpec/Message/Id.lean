import DoraSpec.Base.Outcome
import Mathlib.Data.String.Basic

/-!
# Node and data identifiers

Source `libraries/message/src/id.rs`. A `DataId` keeps its field private there and every
constructor validates it, so the model carries the check as a field. The field of a `NodeId`
is visible in its crate and is also filled without a check, so the grammar is a predicate.
-/

namespace DoraSpec.Message
open Base

/-- Rejected identifier with its explanation; `id.rs:57`. -/
structure InvalidId where
  message : String
  deriving DecidableEq

/-- Characters of a node identifier; `id.rs:16`. -/
def isNodeIdChar (c : Char) : Bool := c.isAlphanum || c == '_' || c == '-' || c == '.'

/-- Characters of a data identifier; `id.rs:37`. -/
def isDataIdChar (c : Char) : Bool := isNodeIdChar c || c == '/'

/-- Two neighbouring slashes; the `contains("//")` of `id.rs:47`. -/
def hasDoubleSlash : List Char → Bool
  | a :: b :: rest => (a == '/' && b == '/') || hasDoubleSlash (b :: rest)
  | _ => false

/-- Node identifier check; `validate_node_id`, `id.rs:10-23`. -/
def validateNodeId (id : String) : Except InvalidId Unit :=
  if id.toList.isEmpty then .error ⟨"identifier must not be empty"⟩
  else match id.toList.find? (fun c => !isNodeIdChar c) with
    | some ch => .error ⟨s!"identifier contains invalid character '{ch}' -- " ++
        "only [a-zA-Z0-9_.-] are allowed"⟩
    | none => .ok ()

/-- Data identifier check; `validate_data_id`, `id.rs:31-54`. -/
def validateDataId (id : String) : Except InvalidId Unit :=
  if id.toList.isEmpty then .error ⟨"identifier must not be empty"⟩
  else match id.toList.find? (fun c => !isDataIdChar c) with
    | some ch => .error ⟨s!"identifier contains invalid character '{ch}' -- " ++
        "only [a-zA-Z0-9_./-] are allowed"⟩
    | none =>
      if id.toList.head? = some '/' ∨ id.toList.getLast? = some '/' ∨ hasDoubleSlash id.toList then
        .error ⟨s!"identifier '{id}' has empty path segment -- " ++
          "leading, trailing, or consecutive '/' are not allowed"⟩
      else .ok ()

/-- Accepted node identifiers: characters of the grammar, at least one. -/
theorem validateNodeId_eq_ok {id : String} : validateNodeId id = .ok () ↔
    id.toList ≠ [] ∧ ∀ c ∈ id.toList, isNodeIdChar c = true := by
  unfold validateNodeId
  split
  · next h => simp_all
  · next h =>
    split
    · next c hc =>
      have := List.find?_some hc
      have hmem := List.mem_of_find?_eq_some hc
      simp only [reduceCtorEq, false_iff, not_and]
      intro _ hall
      simp [hall c hmem] at this
    · next hc => simpa using ⟨by simpa using h, by simpa using hc⟩

/-- Accepted data identifiers: characters of the grammar and no empty segment. -/
theorem validateDataId_eq_ok {id : String} :
    validateDataId id = .ok () ↔ id.toList ≠ [] ∧ (∀ c ∈ id.toList, isDataIdChar c = true) ∧
      id.toList.head? ≠ some '/' ∧ id.toList.getLast? ≠ some '/' ∧
        hasDoubleSlash id.toList = false := by
  unfold validateDataId
  split
  · next he => simp_all
  · next he =>
    split
    · next c hf =>
      have hc := List.find?_some hf
      have hm := List.mem_of_find?_eq_some hf
      simp only [reduceCtorEq, false_iff]
      rintro ⟨-, h, -⟩
      simp [h c hm] at hc
    · next hf =>
      have hall : ∀ c ∈ id.toList, isDataIdChar c = true := by simpa using hf
      have hne : id.toList ≠ [] := by simpa using he
      split
      · next hs =>
        simp only [reduceCtorEq, false_iff]
        rintro ⟨-, -, h1, h2, h3⟩
        simp [h1, h2, h3] at hs
      · next hs =>
        push Not at hs
        exact iff_of_true rfl ⟨hne, hall, hs.1, hs.2.1, by simpa using hs.2.2⟩

instance (id : String) : Decidable (validateNodeId id = .ok ()) :=
  match h : validateNodeId id with
  | .ok () => .isTrue rfl
  | .error _ => .isFalse (by simp)

instance (id : String) : Decidable (validateDataId id = .ok ()) :=
  match h : validateDataId id with
  | .ok () => .isTrue rfl
  | .error _ => .isFalse (by simp)

/-- Node identifier; `id.rs:68`. The wrapped text is not always validated. -/
structure NodeId where
  val : String
  deriving DecidableEq

/-- Node identifiers are ordered as their texts; the derived `Ord` of `id.rs:67`. -/
instance : Ord NodeId := ⟨compareOn NodeId.val⟩

instance : Std.TransOrd NodeId := inferInstanceAs (Std.TransCmp (compareOn NodeId.val))

instance : Std.LawfulEqOrd NodeId where
  eq_of_compare {a b} h := by
    cases a
    cases b
    exact congrArg NodeId.mk (Std.LawfulEqOrd.eq_of_compare h)

/-- The identifier grammar that `validate_node_id` accepts. -/
def NodeId.Valid (id : NodeId) : Prop := validateNodeId id.val = .ok ()

instance (id : NodeId) : Decidable id.Valid :=
  inferInstanceAs (Decidable (validateNodeId id.val = .ok ()))

/-- A valid node identifier has only characters of the grammar. -/
theorem NodeId.Valid.isNodeIdChar {id : NodeId} (h : id.Valid) :
    ∀ c ∈ id.val.toList, isNodeIdChar c = true := by
  unfold NodeId.Valid validateNodeId at h
  split at h
  · cases h
  · split at h
    · cases h
    · next hf => simpa using hf

/-- Conversion from text that panics on a rejected identifier; `id.rs:101-108`. -/
def NodeId.from {ε : Type} (id : String) : Outcome ε NodeId :=
  match validateNodeId id with
  | .error e => .panic s!"invalid NodeId '{id}': {e.message}"
  | .ok () => .ok ⟨id⟩

/-- Data identifier with the check that each of its constructors makes; `id.rs:154`. -/
structure DataId where
  val : String
  valid : validateDataId val = .ok ()
  deriving DecidableEq

/-- Conversion from text that panics on a rejected identifier; `id.rs:186-193`. -/
def DataId.from {ε : Type} (id : String) : Outcome ε DataId :=
  match h : validateDataId id with
  | .error e => .panic s!"invalid DataId '{id}': {e.message}"
  | .ok () => .ok ⟨id, h⟩

/-- Operator identifier, any text; `id.rs:125`. -/
structure OperatorId where
  val : String
  deriving DecidableEq

/-- Data identifiers are equal whenever their texts are. -/
theorem DataId.ext {a b : DataId} (h : a.val = b.val) : a = b := by
  cases a
  cases b
  cases h
  rfl

/-- The node conversion returns exactly the accepted texts, unchanged. -/
theorem NodeId.from_eq_ok {ε : Type} {id : String} {n : NodeId} :
    (NodeId.from id : Outcome ε NodeId) = .ok n ↔ n.val = id ∧ n.Valid := by
  unfold NodeId.from NodeId.Valid
  cases n with
  | mk val =>
    split
    · next e h =>
      constructor
      · intro hc
        cases hc
      · rintro ⟨rfl, hv⟩
        change validateNodeId val = .ok () at hv
        rw [h] at hv
        cases hv
    · next h =>
      simp only [Outcome.ok.injEq, NodeId.mk.injEq]
      constructor
      · rintro rfl
        exact ⟨rfl, h⟩
      · rintro ⟨rfl, _⟩
        rfl

/-- The node conversion never reports an error: a rejected text is a panic. -/
theorem NodeId.from_cases {ε : Type} (id : String) :
    (NodeId.from id : Outcome ε NodeId) = .ok ⟨id⟩ ∧ validateNodeId id = .ok () ∨
      (NodeId.from id : Outcome ε NodeId).Panics ∧ validateNodeId id ≠ .ok () := by
  unfold NodeId.from
  split
  · next e h => exact .inr ⟨True.intro, by rw [h]; simp⟩
  · next h => exact .inl ⟨rfl, h⟩

/-- The data conversion never reports an error: a rejected text is a panic. -/
theorem DataId.from_cases {ε : Type} (id : String) :
    (∃ h, (DataId.from id : Outcome ε DataId) = .ok ⟨id, h⟩) ∨
      (DataId.from id : Outcome ε DataId).Panics ∧ validateDataId id ≠ .ok () := by
  unfold DataId.from
  split
  · next e h => exact .inr ⟨True.intro, by rw [h]; simp⟩
  · next h => exact .inl ⟨h, rfl⟩

end DoraSpec.Message
