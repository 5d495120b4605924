import DoraSpec.Core.Expand
import DoraSpec.Base.Replacement
import Mathlib.Data.List.Perm.Basic

/-!
# Parameters of modules

The values of the parameters are put into the arguments of the inner nodes one parameter after the
other, so a text that a value completes to a placeholder is replaced as well. In the environment the
parameters have upper-case names, and parameters whose names differ in case only overwrite each
other.
-/

namespace DoraSpec.Core.Expand
open Base Base.Replacement Message List

/-- Text that stands for a parameter; `expand.rs:485`. -/
def placeholder (key : String) : String := "$\x7b_param." ++ key ++ "\x7d"

/-- Environment variable of a parameter; `expand.rs:476`. -/
def paramVariable (key : String) : String := "PARAM_" ++ key.toUpper

/-- Rule for the placeholder of a parameter. -/
def paramRule (param : String × String) : Rule Char where
  pattern := (placeholder param.1).toList
  value := param.2.toList

/-- Text with each of its placeholders replaced by the value of the parameter. -/
def replacePlaceholders (params : List (String × String)) (s : String) : String :=
  String.ofList (replaceEach (params.map paramRule) s.toList)

/-- The placeholders of the arguments are replaced, and each parameter is in the environment. -/
structure Receives (params : List (String × String)) (inner result : Node) : Prop where
  args : result.args = inner.args.map (replacePlaceholders params)
  env : ∀ param ∈ params, ∃ vars ∈ result.env,
    vars[paramVariable param.1]? = some (.string param.2)

/-- Every inner node receives the parameters, in whichever order they are taken. -/
def SubstitutesEach (params : List (String × String)) : Prop :=
  ∀ order : List (String × String), order.Perm params → ∀ inner,
    Receives params inner (substituteParamsInNode inner order)

/-- No value completes the placeholder of another parameter, unless that stands for itself. -/
def Inert (params : List (String × String)) : Prop :=
  ∀ p ∈ params, ∀ q ∈ params, p.1 ≠ q.1 →
    q.2 = placeholder q.1 ∨ ¬ Completes p.2.toList (placeholder q.1).toList

/-- Parameters of one variable have one value. -/
def CaseDistinct (params : List (String × String)) : Prop :=
  ∀ p ∈ params, ∀ q ∈ params, p.1.toUpper = q.1.toUpper → p.2 = q.2

/-! ## Arguments -/

private theorem placeholder_ne (key : String) : placeholder key ≠ "" := by
  intro h
  have := congrArg String.toList h
  simp [placeholder] at this

private theorem toList_substituteParamsInStr (s : String) (params : List (String × String)) :
    (substituteParamsInStr s params).toList = replaceInTurn (params.map paramRule) s.toList := by
  unfold substituteParamsInStr replaceInTurn
  induction params generalizing s with
  | nil => rfl
  | cons param params ih =>
    obtain ⟨key, value⟩ := param
    have hpass : (s.replace ("$\x7b_param." ++ key ++ "\x7d") value).toList =
        replaceEach [paramRule (key, value)] s.toList := toList_replace s value (placeholder_ne key)
    rw [foldl_cons, ih, map_cons, foldl_cons, hpass]

private theorem placeholder_inj {a b : String} (h : placeholder a = placeholder b) : a = b := by
  have := congrArg String.toList h
  rw [← String.toList_inj]
  simpa [placeholder] using this

private theorem marks_paramRule {node : Node} (haccepted : checkParams node = .ok ())
    (hkeys : (node.params.map (·.1)).Nodup) : Marks '$' '\x7d' (node.params.map paramRule) where
  ne := by decide
  delimited := by
    intro rule hrule
    obtain ⟨⟨key, value⟩, hparam, rfl⟩ := mem_map.mp hrule
    have hkey := Outcome.forM_eq_ok.mp haccepted (key, value) hparam
    dsimp only at hkey
    split at hkey
    · next h =>
      rw [Bool.and_eq_true, all_eq_true] at h
      have hnot {c : Char} (hc : (c.isAlphanum || c == '_') = false) : c ∉ key.toList := by
        intro hmem
        rw [h.1 c hmem] at hc
        cases hc
      refine ⟨"\x7b_param.".toList ++ key.toList, ?_, ?_, ?_⟩
      · simp [paramRule, placeholder]
      · simpa using hnot (by decide)
      · simpa using hnot (by decide)
    · cases hkey
  nodup := by
    rw [map_map, nodup_map_iff_inj_on hkeys.of_map]
    intro p hp q hq heq
    exact inj_on_of_nodup_map hkeys hp hq (placeholder_inj (String.toList_inj.mp heq))

section Arguments
variable {node : Node} (haccepted : checkParams node = .ok ())
  (hkeys : (node.params.map (·.1)).Nodup)
include haccepted hkeys

private theorem substituteParamsInStr_of_inert (hinert : Inert node.params)
    {order : List (String × String)} (horder : order.Perm node.params) (s : String) :
    substituteParamsInStr s order = replacePlaceholders node.params s := by
  have marks := marks_paramRule haccepted hkeys
  have hperm := horder.map paramRule
  have hnodup : (order.map (·.1)).Nodup := ((horder.map _).nodup_iff).mpr hkeys
  rw [← String.toList_inj, toList_substituteParamsInStr, replacePlaceholders, String.toList_ofList,
    ← marks.replaceEach_perm hperm]
  refine (marks.of_perm hperm).replaceInTurn_eq ?_ _
  rw [pairwise_map]
  refine (pairwise_map.mp hnodup).imp_of_mem fun {p q} hp hq hne => ?_
  have := hinert p (horder.mem_iff.mp hp) q (horder.mem_iff.mp hq) hne
  exact this.imp (fun h => congrArg String.toList h) id

private theorem inert_of_substituteParamsInStr
    (h : ∀ order : List (String × String), order.Perm node.params →
      ∀ s, substituteParamsInStr s order = replacePlaceholders node.params s) :
    Inert node.params := by
  intro p hp q hq hne
  by_contra hnot
  push Not at hnot
  have hpq : paramRule p ≠ paramRule q := by
    intro heq
    exact hne (placeholder_inj (String.toList_inj.mp (congrArg Rule.pattern heq)))
  obtain ⟨order, hperm, s, hs⟩ := (marks_paramRule haccepted hkeys).exists_replaceInTurn_ne
    (mem_map_of_mem hp) (mem_map_of_mem hq) hpq
    (fun heq => hnot.1 (String.toList_inj.mp heq)) hnot.2
  -- the order of the rules is one of the parameters
  obtain ⟨order, rfl, hparams⟩ : Relation.Comp (· = List.map paramRule ·) List.Perm order
      node.params := by
    rw [eq_map_comp_perm]
    exact hperm
  refine hs ?_
  have := congrArg String.toList (h order hparams (String.ofList s))
  rwa [toList_substituteParamsInStr, replacePlaceholders, String.toList_ofList,
    String.toList_ofList] at this

end Arguments

/-! ## Environment -/

private theorem paramVariable_inj {a b : String} :
    paramVariable a = paramVariable b ↔ a.toUpper = b.toUpper := by
  simp [paramVariable]

private theorem getElem?_insertParams {params : List (String × String)}
    (hcase : CaseDistinct params) (vars : EnvVars) {param : String × String} (h : param ∈ params) :
    (params.foldl (fun env (key, value) => env.insert ("PARAM_" ++ key.toUpper) (.string value))
      vars)[paramVariable param.1]? = some (EnvValue.string param.2) := by
  induction params using reverseRecOn with
  | nil => cases h
  | append_singleton params last ih =>
    rw [foldl_append, foldl_cons, foldl_nil, Std.ExtTreeMap.getElem?_insert]
    split
    · next heq =>
      have := paramVariable_inj.mp (Std.LawfulEqCmp.eq_of_compare heq)
      rw [hcase last (by simp) param h this]
    · next hne =>
      rcases mem_append.mp h with h | h
      · exact ih (fun p hp q hq => hcase p (by simp [hp]) q (by simp [hq])) h
      · cases mem_singleton.mp h
        exact absurd Std.ReflCmp.compare_self hne

/-! ## Both -/

/-- The inner nodes of a module with accepted parameters receive each of them exactly if no value
completes the placeholder of another parameter and no two names differ in case only. -/
theorem substitutesEach_iff (node : Node) (haccepted : checkParams node = .ok ())
    (hkeys : (node.params.map (·.1)).Nodup) :
    SubstitutesEach node.params ↔ Inert node.params ∧ CaseDistinct node.params := by
  constructor
  · intro h
    constructor
    · refine inert_of_substituteParamsInStr haccepted hkeys fun order horder s => ?_
      exact Option.some.inj (h order horder { id := ⟨""⟩, args := some s }).args
    · intro p hp q hq heq
      have henv := (h node.params .rfl { id := ⟨""⟩ }).env
      obtain ⟨vars, hvars, hp⟩ := henv p hp
      obtain ⟨vars', hvars', hq⟩ := henv q hq
      cases hvars.symm.trans hvars'
      rw [paramVariable_inj.mpr heq] at hp
      exact EnvValue.string.inj (Option.some.inj (hp.symm.trans hq))
  · rintro ⟨hinert, hcase⟩ order horder inner
    constructor
    · have hargs := substituteParamsInStr_of_inert haccepted hkeys hinert horder
      exact congrArg (inner.args.map ·) (funext hargs)
    · intro param hparam
      refine ⟨_, rfl, getElem?_insertParams ?_ _ (horder.mem_iff.mpr hparam)⟩
      intro p hp q hq
      exact hcase p (horder.mem_iff.mp hp) q (horder.mem_iff.mp hq)

/-- Module with two numbers as parameters. -/
def rangeNode : Node where
  id := ⟨"module"⟩
  params := [("max", "20"), ("min", "5")]

/-- Two parameters, both substituted. -/
theorem substitutesEach_rangeNode : SubstitutesEach rangeNode.params := by
  refine (substitutesEach_iff rangeNode rfl (by decide)).mpr ⟨?_, ?_⟩
  · unfold Inert
    decide +kernel
  · unfold CaseDistinct
    decide +kernel

/-- Parameter whose value is the placeholder of another one. -/
def chainNode : Node where
  id := ⟨"module"⟩
  params := [("a", "$\x7b_param.b\x7d"), ("b", "text")]

/-- The value of one parameter is taken for a placeholder of the other. -/
theorem not_substitutesEach :
    ¬ ∀ node : Node, checkParams node = .ok () → (node.params.map (·.1)).Nodup →
      SubstitutesEach node.params := by
  intro h
  have hargs := (h chainNode rfl (by decide) chainNode.params .rfl
    { id := ⟨"inner"⟩, args := some "$\x7b_param.a\x7d" }).args
  have := congrArg String.toList (Option.some.inj hargs)
  rw [toList_substituteParamsInStr, replacePlaceholders, String.toList_ofList] at this
  revert this
  decide

end DoraSpec.Core.Expand
