import DoraSpec.Core.Types

/-!
# Chains of widening rules

The types of a rule are names with or without parameters, and a chain of rules leads from one type to
another if each type is the next one up to parameters that only one of them gives. The graph keeps the
names of the rules as texts and the search looks for names without parameters. So it finds no rule
whose types carry parameters, and it does not look for a chain between types of the same name.
-/

namespace DoraSpec.Core.Types
open Base Base.Text Message

/-! ## Chains by types and by texts -/

/-- Types of the same base that agree on every parameter that both give. -/
structure SameType (a b : String) : Prop where
  base : urnBase a = urnBase b
  agree : ∀ k : String, ∀ va ∈ (urnParams a)[k]?, ∀ vb ∈ (urnParams b)[k]?, va = vb

/-- Type that a number of rules leads to. -/
inductive RuleChain (rules : List TypeRule) (a : String) : Nat → String → Prop
  | start : RuleChain rules a 0 a
  | step {n : Nat} {t : String} {rule : TypeRule} : RuleChain rules a n t → rule ∈ rules →
      SameType t rule.source → RuleChain rules a (n + 1) rule.target

/-- A chain of one to three rules, built-in or of the dataflow, leads from one type to another. -/
def LeadsTo (rules : List TypeRule) (a b : String) : Prop :=
  ∃ n < CompatibilityGraph.depthLimit, ∃ t,
    RuleChain (builtins ++ rules) a (n + 1) t ∧ SameType t b

/-- A chain of one to three rules whose names follow each other as texts leads from the base of one
type to the base of another. -/
def LeadsByText (rules : List TypeRule) (a b : String) : Prop :=
  ∃ n < CompatibilityGraph.depthLimit,
    BoundedSearch.Walk (CompatibilityGraph.new rules).neighbors (urnBase a) (n + 1) (urnBase b)

/-- The first type may be used for the second: by the type that takes anything, by name and
parameters, or by rules. -/
def Widens (rules : List TypeRule) (a b : String) : Prop :=
  b = bytesUrn ∨ SameType a b ∨ LeadsTo rules a b

/-- Where only rules lead from one type to another, their bases differ and some rules do so by text. -/
def Textual (rules : List TypeRule) (a b : String) : Prop :=
  LeadsTo rules a b → b = bytesUrn ∨ SameType a b ∨ urnBase a ≠ urnBase b ∧ LeadsByText rules a b

/-- The types of the rule carry no parameters. -/
def Bare (rule : TypeRule) : Prop := urnBase rule.source = rule.source ∧ urnBase rule.target = rule.target

/-! ## Names without parameters -/

private theorem base_cases (urn : String) :
    (urnBase urn = urn ∧ urnParams urn = ∅) ∨ '[' ∉ (urnBase urn).toList := by
  unfold urnBase urnParams
  cases h : parseUrn urn with
  | none => exact .inl ⟨rfl, rfl⟩
  | some parsed =>
    unfold parseUrn at h
    split at h
    · cases h
    cases hs : splitOnce '[' urn with
    | none =>
      rw [hs] at h
      cases h
      exact .inl ⟨rfl, rfl⟩
    | some parts =>
      obtain ⟨base, rest⟩ := parts
      have hbase : parsed.base = base := by
        rw [hs] at h
        dsimp only at h
        split at h
        · cases h
        split at h
        · cases h
        obtain ⟨params, -, hp⟩ := Option.bind_eq_some_iff.mp h
        rw [← Option.some.inj hp]
      right
      rw [Option.map_some, Option.getD_some, hbase]
      exact (splitOnce_eq_some hs).2

private theorem parse_of_bare {urn : String} (h : '[' ∉ urn.toList) :
    urnBase urn = urn ∧ urnParams urn = ∅ := by
  unfold urnBase urnParams parseUrn
  split
  · exact ⟨rfl, rfl⟩
  · rw [splitOnce_eq_none.mpr h]
    exact ⟨rfl, rfl⟩

private theorem parse_urnBase (urn : String) :
    urnBase (urnBase urn) = urnBase urn ∧ urnParams (urnBase urn) = ∅ := by
  rcases base_cases urn with ⟨hbase, hparams⟩ | h
  · rw [hbase]
    exact ⟨hbase, hparams⟩
  · exact parse_of_bare h

variable {a b : String}

namespace SameType

private theorem refl (a : String) : SameType a a where
  base := rfl
  agree _ _ hva _ hvb := Option.some.inj (hva.symm.trans hvb)

private theorem symm (h : SameType a b) : SameType b a where
  base := h.base.symm
  agree k va hva vb hvb := (h.agree k vb hvb va hva).symm

private theorem of_base (h : urnBase a = b) : SameType a b where
  base := by rw [← h, (parse_urnBase a).1]
  agree k va _ vb hvb := by
    rw [← h, (parse_urnBase a).2] at hvb
    simp at hvb

end SameType

/-! ## The search -/

private theorem isCompatible_iff_text (rules : List TypeRule) (a b : String) :
    (CompatibilityGraph.new rules).isCompatible a b = true ↔
      b = bytesUrn ∨ SameType a b ∨ urnBase a ≠ urnBase b ∧ LeadsByText rules a b := by
  rw [CompatibilityGraph.isCompatible_iff]
  constructor
  · intro h
    cases h with
    | bytes h => exact .inl h
    | same hbase hagree => exact .inr (.inl ⟨hbase, hagree⟩)
    | widened hbase hn hwalk => exact .inr (.inr ⟨hbase, _, hn, hwalk⟩)
  · rintro (h | ⟨hbase, hagree⟩ | ⟨hbase, n, hn, hwalk⟩)
    · exact .bytes h
    · exact .same hbase hagree
    · exact .widened hbase hn hwalk

variable {rules : List TypeRule}

private theorem mem_neighbors {current next : String} :
    next ∈ (CompatibilityGraph.new rules).neighbors current ↔
      ∃ rule ∈ builtins ++ rules, rule.source = current ∧ rule.target = next := by
  simp only [CompatibilityGraph.neighbors, CompatibilityGraph.new, List.mem_map, List.mem_filter,
    decide_eq_true_eq, and_assoc]

private theorem LeadsByText.leadsTo (h : LeadsByText rules a b) :
    LeadsTo rules a b := by
  have hchain {n : Nat} {x : String}
      (hw : BoundedSearch.Walk (CompatibilityGraph.new rules).neighbors (urnBase a) (n + 1) x) :
      RuleChain (builtins ++ rules) a (n + 1) x := by
    induction n generalizing x with
    | zero =>
      obtain ⟨⟩ | ⟨hstart, hnext⟩ := hw
      cases hstart
      obtain ⟨rule, hrule, hsource, rfl⟩ := mem_neighbors.mp hnext
      exact .step .start hrule (.of_base hsource.symm)
    | succ n ih =>
      obtain ⟨⟩ | ⟨hwalk, hnext⟩ := hw
      obtain ⟨rule, hrule, rfl, rfl⟩ := mem_neighbors.mp hnext
      exact .step (ih hwalk) hrule (.refl _)
  obtain ⟨n, hn, hwalk⟩ := h
  exact ⟨n, hn, urnBase b, hchain hwalk, (SameType.of_base rfl).symm⟩

private theorem bare_builtins : ∀ rule ∈ builtins, Bare rule := by
  have htext : ∀ rule ∈ builtins, '[' ∉ rule.source.toList ∧ '[' ∉ rule.target.toList := by decide
  intro rule hrule
  exact ⟨(parse_of_bare (htext rule hrule).1).1, (parse_of_bare (htext rule hrule).2).1⟩

private theorem LeadsTo.leadsByText (hbare : ∀ rule ∈ rules, Bare rule) (h : LeadsTo rules a b) :
    LeadsByText rules a b := by
  have hall : ∀ rule ∈ builtins ++ rules, Bare rule := by
    intro rule hrule
    exact (List.mem_append.mp hrule).elim (bare_builtins rule) (hbare rule)
  have hwalk {n : Nat} {t : String} (hc : RuleChain (builtins ++ rules) a n t) :
      BoundedSearch.Walk (CompatibilityGraph.new rules).neighbors (urnBase a) n (urnBase t) := by
    induction hc with
    | start => exact .refl
    | @step _ _ rule _ hrule hsame ih =>
      rw [hsame.base, (hall rule hrule).1] at ih
      rw [(hall rule hrule).2]
      exact ih.step (mem_neighbors.mpr ⟨rule, hrule, rfl, rfl⟩)
  obtain ⟨n, hn, t, hc, hsame⟩ := h
  exact ⟨n, hn, hsame.base ▸ hwalk hc⟩

/-- The search decides compatibility exactly where chains of rules can be followed by their texts. That
is so for types that are of different bases or agree if no rule carries parameters. -/
theorem isCompatible_iff_widens (rules : List TypeRule) (a b : String) :
    (((CompatibilityGraph.new rules).isCompatible a b = true ↔ Widens rules a b) ↔
      Textual rules a b) ∧
    ((∀ rule ∈ rules, Bare rule) → (urnBase a = urnBase b → SameType a b) → Textual rules a b) := by
  rw [isCompatible_iff_text]
  refine ⟨⟨fun h hleads => h.mpr (.inr (.inr hleads)), fun h => ⟨?_, ?_⟩⟩, fun hbare hsame hleads => ?_⟩
  · rintro (hbytes | hsame | ⟨-, htext⟩)
    · exact .inl hbytes
    · exact .inr (.inl hsame)
    · exact .inr (.inr htext.leadsTo)
  · rintro (hbytes | hsame | hleads)
    · exact .inl hbytes
    · exact .inr (.inl hsame)
    · exact h hleads
  · by_cases hbase : urnBase a = urnBase b
    · exact .inr (.inl (hsame hbase))
    · exact .inr (.inr ⟨hbase, hleads.leadsByText hbare⟩)

/-- A rule for images of one encoding is not found. -/
theorem not_isCompatible_iff_widens :
    ¬ ∀ rules a b, (CompatibilityGraph.new rules).isCompatible a b = true ↔ Widens rules a b := by
  intro h
  have hwidens : Widens [⟨"Image[encoding=rgb8]", "Picture"⟩] "Image[encoding=rgb8]" "Picture" :=
    .inr (.inr ⟨0, by decide, "Picture",
      .step .start (List.mem_append_right _ List.mem_cons_self) (.refl _), .refl _⟩)
  have hsource : urnBase "Image[encoding=rgb8]" = "Image" := rfl
  have htarget : urnBase "Picture" = "Picture" := rfl
  rcases (isCompatible_iff_text ..).mp ((h _ _ _).mpr hwidens) with hbytes | hsame | ⟨-, n, -, hwalk⟩
  · exact absurd hbytes (by decide)
  · have := hsame.base
    rw [hsource, htarget] at this
    exact absurd this (by decide)
  · -- no rule has the text of the base
    have hstart {k : Nat} {t : String} (hw : BoundedSearch.Walk
        (CompatibilityGraph.new [⟨"Image[encoding=rgb8]", "Picture"⟩]).neighbors "Image" k t) :
        t = "Image" := by
      induction hw with
      | refl => rfl
      | step _ hstep ih =>
        subst ih
        cases hstep
    rw [hsource, htarget] at hwalk
    exact absurd (hstart hwalk) (by decide)

end DoraSpec.Core.Types
