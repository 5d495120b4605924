import Mathlib.Data.List.DropRight
import DoraSpec.Base.BoundedSearch
import DoraSpec.Message.Descriptor

/-!
# Type names and their compatibility

Source `libraries/core/src/types.rs`. A type is named by a URN, with parameters in brackets. Types
are compatible by name and parameters, or by at most three of the widening rules, the built-in ones
and those of the dataflow.
-/

namespace DoraSpec.Core.Types
open Base Base.Text Message

/-! ## Names -/

/-- Characters with the Unicode property `White_Space`. -/
def isWhiteSpace (c : Char) : Bool :=
  (9 ≤ c.toNat && c.toNat ≤ 13) || (0x2000 ≤ c.toNat && c.toNat ≤ 0x200a) ||
    c.toNat ∈ [0x20, 0x85, 0xa0, 0x1680, 0x2028, 0x2029, 0x202f, 0x205f, 0x3000]

/-- Text without white space at its ends. -/
def trim (s : String) : String :=
  String.ofList ((s.toList.dropWhile isWhiteSpace).rdropWhile isWhiteSpace)

/-- Name of a type without its parameters, and the parameters; `types.rs:172-177`. -/
structure ParsedUrn where
  base : String
  params : Std.ExtTreeMap String String := ∅

/-- One parameter of a name; `types.rs:205-212`. -/
def parseParam (part : String) : Option (String × String) := do
  let (k, v) ← splitOnce '=' (trim part)
  if trim k = "" ∨ trim v = "" then none else some (trim k, trim v)

/-- `parse_urn`, `types.rs:185-215`. -/
def parseUrn (urn : String) : Option ParsedUrn :=
  if urn = "" then none
  else
    match splitOnce '[' urn with
    | none => some { base := urn }
    | some (base, rest) =>
      if rest.toList.getLast? ≠ some ']' then none
      else if rest.toList.dropLast = [] then none
      else do
        let params ← ((rest.toList.dropLast.splitOn ',').map String.ofList).mapM parseParam
        some { base, params := params.foldl (fun m e => m.insert e.1 e.2) ∅ }

/-- Name up to the parameters, or the whole text if it is malformed. -/
def urnBase (urn : String) : String := ((parseUrn urn).map (·.base)).getD urn

/-- Parameters of a name, none if it is malformed. -/
def urnParams (urn : String) : Std.ExtTreeMap String String :=
  ((parseUrn urn).map (·.params)).getD ∅

/-- Known types; `types.rs:454-456`. Their definitions are read only for texts of messages: the
closest name to an unknown one (`suggest`) and the difference of two structures
(`check_schema_compat`, `validate.rs:1098-1113`). -/
structure TypeRegistry where
  types : List String
  suggest : String → Option String := fun _ => none
  schemaDetail : String → String → Option String := fun _ _ => none

/-- The name is of a known type; `resolve`, `types.rs:500-512`. -/
def TypeRegistry.resolves (registry : TypeRegistry) (urn : String) : Bool :=
  urn ∈ registry.types ||
    match parseUrn urn with
    | some parsed => parsed.base ≠ urn && parsed.base ∈ registry.types
    | none => false

/-! ## Compatibility -/

/-- Type that takes anything; `types.rs:323`. -/
def bytesUrn : String := "std/core/v1/Bytes"

/-- Widening rules; `types.rs:289-294`. -/
def builtins : List TypeRule :=
  [⟨"std/core/v1/UInt8", "std/core/v1/UInt32"⟩, ⟨"std/core/v1/UInt32", "std/core/v1/UInt64"⟩,
    ⟨"std/core/v1/Int32", "std/core/v1/Int64"⟩, ⟨"std/core/v1/Float32", "std/core/v1/Float64"⟩]

/-- Rules in the order in which they were added; `types.rs:277-280`. -/
structure CompatibilityGraph where
  edges : List TypeRule

namespace CompatibilityGraph

/-- `new`, `types.rs:284-311`. -/
def new (userRules : List TypeRule) : CompatibilityGraph := ⟨builtins ++ userRules⟩

/-- Types that a rule leads to. -/
def neighbors (graph : CompatibilityGraph) (current : String) : List String :=
  (graph.edges.filter (·.source = current)).map (·.target)

/-- Most rules in a row; `types.rs:359`. -/
def depthLimit : Nat := 3

/-- The parameters that both have are the same; `types.rs:344-351`. -/
def sharedAgree (fp tp : Std.ExtTreeMap String String) : Bool :=
  fp.toList.all fun (k, va) => (tp[k]?).all (va = ·)

/-- `is_compatible`, `types.rs:317-376`. -/
def isCompatible (graph : CompatibilityGraph) (src dst : String) : Bool :=
  if dst = bytesUrn then true
  else if urnBase src = urnBase dst then
    if !(urnParams src).isEmpty && !(urnParams dst).isEmpty then
      sharedAgree (urnParams src) (urnParams dst)
    else true
  else BoundedSearch.reaches graph.neighbors depthLimit (urnBase dst) (urnBase src)

end CompatibilityGraph

/-- A value of the first type may be used where the second one is expected: the second one takes
anything, or the names are the same and no parameter differs, or at most three rules lead from one
name to the other. -/
inductive Compatible (rules : List TypeRule) (src dst : String) : Prop
  | bytes : dst = bytesUrn → Compatible rules src dst
  | same : urnBase src = urnBase dst →
      (∀ k : String, ∀ va ∈ (urnParams src)[k]?, ∀ vb ∈ (urnParams dst)[k]?, va = vb) →
      Compatible rules src dst
  | widened {n : Nat} : urnBase src ≠ urnBase dst → n < CompatibilityGraph.depthLimit →
      BoundedSearch.Walk (CompatibilityGraph.new rules).neighbors (urnBase src) (n + 1)
        (urnBase dst) → Compatible rules src dst

namespace CompatibilityGraph

private theorem sharedAgree_iff (fp tp : Std.ExtTreeMap String String) :
    sharedAgree fp tp = true ↔ ∀ k : String, ∀ va ∈ fp[k]?, ∀ vb ∈ tp[k]?, va = vb := by
  simp only [sharedAgree, List.all_eq_true, Prod.forall, Std.ExtTreeMap.mem_toList_iff_getElem?_eq_some,
    Option.all_eq_true, decide_eq_true_eq, Option.mem_def]

private theorem agree_of_isEmpty {fp tp : Std.ExtTreeMap String String}
    (h : ¬ (!fp.isEmpty && !tp.isEmpty) = true) :
    ∀ k : String, ∀ va ∈ fp[k]?, ∀ vb ∈ tp[k]?, va = vb := by
  intro k va hva vb hvb
  have hempty : fp = ∅ ∨ tp = ∅ := or_iff_not_imp_left.mpr (by simpa using h)
  rcases hempty with rfl | rfl
  · simp at hva
  · simp at hvb

/-- The search of the graph decides compatibility. -/
theorem isCompatible_iff (rules : List TypeRule) (src dst : String) :
    (new rules).isCompatible src dst = true ↔ Compatible rules src dst := by
  unfold isCompatible
  split
  · next hbytes => exact iff_of_true rfl (.bytes hbytes)
  next hbytes =>
  split
  · next hbase =>
    have hiff : Compatible rules src dst ↔
        ∀ k : String, ∀ va ∈ (urnParams src)[k]?, ∀ vb ∈ (urnParams dst)[k]?, va = vb := by
      refine ⟨fun h => ?_, .same hbase⟩
      cases h with
      | bytes h => exact absurd h hbytes
      | same _ h => exact h
      | widened h _ _ => exact absurd hbase h
    rw [hiff]
    split
    · exact sharedAgree_iff _ _
    · next hempty => exact iff_of_true rfl (agree_of_isEmpty hempty)
  · next hbase =>
    rw [BoundedSearch.reaches_iff]
    refine ⟨fun ⟨n, hn, hwalk⟩ => .widened hbase hn hwalk, fun h => ?_⟩
    cases h with
    | bytes h => exact absurd h hbytes
    | same h _ => exact absurd h hbase
    | widened _ hn hwalk => exact ⟨_, hn, hwalk⟩

end CompatibilityGraph

end DoraSpec.Core.Types
