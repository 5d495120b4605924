import Mathlib.Data.List.Infix
import Mathlib.Data.List.Nodup
import Mathlib.Data.List.TakeWhile
import Mathlib.Tactic.Linarith

/-!
# Replacing patterns in a text

All patterns of a text are replaced at once, or one after the other. With patterns between two
delimiters the results are the same unless a value together with the text around it makes up a
pattern that is still to be replaced.
-/

namespace DoraSpec.Base.Replacement
open List

/-- A pattern and the value that takes its place. -/
structure Rule (α : Type*) where
  pattern : List α
  value : List α
  deriving DecidableEq

variable {α : Type*} {s : List α}

/-! ## Patterns between delimiters -/

/-- Text that begins and ends with delimiters and has none inside. -/
structure Delimited (l r : α) (p : List α) : Prop where
  exists_body : ∃ body, p = l :: (body ++ [r]) ∧ l ∉ body ∧ r ∉ body

/-- Rules with different patterns between delimiters. -/
structure Marks (l r : α) (rules : List (Rule α)) : Prop where
  ne : l ≠ r
  delimited : ∀ rule ∈ rules, Delimited l r rule.pattern
  nodup : (rules.map (·.pattern)).Nodup

/-- With a start of the pattern in front and an end of it behind the text contains the pattern. -/
def Completes (t p : List α) : Prop :=
  ∃ x y, x <+: p ∧ x ≠ p ∧ y <:+ p ∧ y ≠ p ∧ p <:+: x ++ t ++ y

instance [DecidableEq α] (t p : List α) : Decidable (Completes t p) :=
  decidable_of_iff (∃ x ∈ p.inits, ∃ y ∈ p.tails, x ≠ p ∧ y ≠ p ∧ p <:+: x ++ t ++ y) <| by
    simp only [Completes, List.mem_inits, List.mem_tails]
    grind

namespace Delimited
variable {l r : α} {p q : List α}

variable (hp : Delimited l r p)
include hp

private theorem ne_nil : p ≠ [] := by
  obtain ⟨body, rfl, -, -⟩ := hp.exists_body
  exact cons_ne_nil _ _

private theorem eq_of_isPrefix_append (hq : Delimited l r q) (h : p <+: q ++ s) : p = q := by
  classical
  obtain ⟨body, rfl, -, hr⟩ := hp.exists_body
  obtain ⟨body', rfl, -, hr'⟩ := hq.exists_body
  have hbody {b z : List α} (hb : r ∉ b) : (b ++ r :: z).takeWhile (· ≠ r) = b := by
    rw [takeWhile_append_of_pos]
    · simp
    · intro c hc
      exact decide_eq_true fun hcr => hb (hcr ▸ hc)
  obtain ⟨rest, hrest⟩ := h
  have htail : body ++ r :: rest = body' ++ r :: s := by simpa using hrest
  have := congrArg (takeWhile (· ≠ r)) htail
  rw [hbody hr, hbody hr'] at this
  rw [this]

private theorem head_eq {c : α} (h : p <+: c :: s) : c = l := by
  obtain ⟨body, rfl, -, -⟩ := hp.exists_body
  exact (cons_prefix_cons.mp h).1.symm

private theorem left_notMem_of_suffix (hne : l ≠ r) {u : List α} (hu : u <:+ p) (hup : u ≠ p) :
    l ∉ u := by
  obtain ⟨body, rfl, hl, -⟩ := hp.exists_body
  have hsuffix : u <:+ body ++ [r] := (suffix_cons_iff.mp hu).resolve_left hup
  intro hmem
  have := hsuffix.mem hmem
  simp [hl, hne] at this

private theorem right_notMem_of_prefix (hne : l ≠ r) {u : List α} (hu : u <+: p) (hup : u ≠ p) :
    r ∉ u := by
  obtain ⟨body, rfl, -, hr⟩ := hp.exists_body
  rw [← cons_append] at hu hup
  have hprefix : u <+: l :: body := (prefix_concat_iff.mp hu).resolve_left hup
  intro hmem
  have := hprefix.mem hmem
  simp [hr, hne.symm] at this

private theorem not_prefix_append_cons (hne : l ≠ r) {x s : List α} (hx : x ≠ [])
    (hr : r ∉ x) : ¬ p <+: x ++ l :: s := by
  intro h
  obtain ⟨c, x, rfl⟩ := exists_cons_of_ne_nil hx
  obtain ⟨body, rfl, hl, -⟩ := hp.exists_body
  have htail : body ++ [r] <+: x ++ l :: s := (cons_prefix_cons.mp h).2
  have hfront : x ++ [l] <+: x ++ l :: s := by simp
  rcases prefix_or_prefix_of_prefix htail hfront with hshort | hlong
  · have := hshort.mem (mem_append_right body mem_cons_self)
    simp only [mem_append, mem_singleton] at this
    exact this.elim (fun h => hr (mem_cons_of_mem _ h)) fun h => hne h.symm
  · have := hlong.mem (mem_append_right x mem_cons_self)
    simp only [mem_append, mem_singleton] at this
    exact this.elim hl hne

end Delimited

namespace Marks
variable {l r : α} {rules : List (Rule α)}

private theorem ne_nil (marks : Marks l r rules) : ∀ rule ∈ rules, rule.pattern ≠ [] :=
  fun rule hrule => (marks.delimited rule hrule).ne_nil

private theorem eq_of_isPrefix_append (marks : Marks l r rules) {rule other : Rule α} (hrule : rule ∈ rules)
    (hother : other ∈ rules) (h : other.pattern <+: rule.pattern ++ s) :
    other = rule :=
  inj_on_of_nodup_map marks.nodup hother hrule
    ((marks.delimited other hother).eq_of_isPrefix_append (marks.delimited rule hrule) h)

/-- The order of the rules does not matter. -/
theorem of_perm (marks : Marks l r rules) {order : List (Rule α)} (h : order.Perm rules) :
    Marks l r order where
  ne := marks.ne
  delimited rule hrule := marks.delimited rule (h.mem_iff.mp hrule)
  nodup := ((h.map _).nodup_iff).mpr marks.nodup

private theorem of_sublist (marks : Marks l r rules) {some : List (Rule α)}
    (h : some.Sublist rules) :
    Marks l r some where
  ne := marks.ne
  delimited rule hrule := marks.delimited rule (h.subset hrule)
  nodup := marks.nodup.sublist (h.map _)

end Marks

/-! ## One pass -/

section
variable [DecidableEq α] {rules : List (Rule α)}

/-- Text after a number of symbols with its patterns replaced. -/
def replaceFrom (rules : List (Rule α)) : Nat → List α → List α
  | _, [] => []
  | skip + 1, _ :: s => replaceFrom rules skip s
  | 0, c :: s =>
    match rules.find? (·.pattern <+: c :: s) with
    | none => c :: replaceFrom rules 0 s
    | some rule => rule.value ++ replaceFrom rules (rule.pattern.length - 1) s

/-- Every pattern of the text is replaced by its value, from left to right. -/
def replaceEach (rules : List (Rule α)) (s : List α) : List α := replaceFrom rules 0 s

/-- The patterns are replaced one after the other. -/
def replaceInTurn (rules : List (Rule α)) (s : List α) : List α :=
  rules.foldl (fun s rule => replaceEach [rule] s) s

@[simp]
private theorem replaceEach_nil (rules : List (Rule α)) : replaceEach rules [] = [] := rfl

private theorem replaceFrom_eq (rules : List (Rule α)) (skip : Nat) (s : List α) :
    replaceFrom rules skip s = replaceEach rules (s.drop skip) := by
  induction skip generalizing s with
  | zero => rfl
  | succ skip ih =>
    cases s with
    | nil => rfl
    | cons c s => exact ih s

private theorem replaceEach_cons {c : α} (h : ∀ rule ∈ rules, ¬ rule.pattern <+: c :: s) :
    replaceEach rules (c :: s) = c :: replaceEach rules s := by
  have hnone : rules.find? (·.pattern <+: c :: s) = none := by
    rw [List.find?_eq_none]
    intro rule hrule
    simpa using h rule hrule
  rw [replaceEach, replaceFrom, hnone]
  rfl

private theorem replaceEach_pattern_append {rule : Rule α} (hrule : rule ∈ rules) (hne : rule.pattern ≠ [])
    (hunique : ∀ other ∈ rules, other.pattern <+: rule.pattern ++ s → other = rule) :
    replaceEach rules (rule.pattern ++ s) = rule.value ++ replaceEach rules s := by
  obtain ⟨c, p, hp⟩ := exists_cons_of_ne_nil hne
  have hsome : rules.find? (·.pattern <+: c :: (p ++ s)) = some rule := by
    rw [← cons_append, ← hp]
    cases hfind : rules.find? (·.pattern <+: rule.pattern ++ s) with
    | none => simpa using List.find?_eq_none.mp hfind rule hrule
    | some other =>
      rw [hunique other (mem_of_find?_eq_some hfind) (by simpa using List.find?_some hfind)]
  rw [hp, cons_append, replaceEach, replaceFrom, hsome]
  simp [replaceFrom_eq, hp]

private theorem replaceEach_append {t s : List α}
    (h : ∀ rule ∈ rules, ∀ u ≠ [], u <:+ t → ¬ rule.pattern <+: u ++ s) :
    replaceEach rules (t ++ s) = t ++ replaceEach rules s := by
  induction t with
  | nil => rfl
  | cons c t ih =>
    have hhead : ∀ rule ∈ rules, ¬ rule.pattern <+: c :: (t ++ s) := by
      intro rule hrule
      exact h rule hrule (c :: t) (cons_ne_nil c t) (suffix_refl _)
    rw [cons_append, replaceEach_cons hhead, ih]
    · rfl
    · intro rule hrule u hu hsuffix
      exact h rule hrule u hu (hsuffix.trans (suffix_cons c t))

private theorem replaceInTurn_append (front back : List (Rule α)) (s : List α) :
    replaceInTurn (front ++ back) s = replaceInTurn back (replaceInTurn front s) :=
  foldl_append

private theorem replaceInTurn_eq_self (h : ∀ rule ∈ rules, replaceEach [rule] s = s) :
    replaceInTurn rules s = s := by
  induction rules with
  | nil => rfl
  | cons rule rules ih =>
    rw [replaceInTurn, foldl_cons, h rule mem_cons_self]
    exact ih fun other hother => h other (mem_cons_of_mem _ hother)

private theorem scan_induction (hne : ∀ rule ∈ rules, rule.pattern ≠ []) {motive : List α → Prop}
    (nil : motive [])
    (cons : ∀ c s, (∀ rule ∈ rules, ¬ rule.pattern <+: c :: s) → motive s → motive (c :: s))
    (pattern : ∀ rule ∈ rules, ∀ s, motive s → motive (rule.pattern ++ s)) (s : List α) :
    motive s := by
  induction hn : s.length using Nat.strong_induction_on generalizing s with
  | h n ih =>
    subst hn
    cases s with
    | nil => exact nil
    | cons c s =>
      by_cases hmatch : ∃ rule ∈ rules, rule.pattern <+: c :: s
      · obtain ⟨rule, hrule, rest, hrest⟩ := hmatch
        have hpos := length_pos_iff.mpr (hne rule hrule)
        rw [← hrest] at ih ⊢
        exact pattern rule hrule rest
          (ih rest.length (by rw [length_append]; omega) rest rfl)
      · push Not at hmatch
        exact cons c s hmatch (ih s.length (by simp) s rfl)

section Single
variable {rule : Rule α} (hne : rule.pattern ≠ [])
include hne

private theorem replaceEach_singleton_pattern_append (s : List α) :
    replaceEach [rule] (rule.pattern ++ s) = rule.value ++ replaceEach [rule] s :=
  replaceEach_pattern_append mem_cons_self hne fun _ h _ => mem_singleton.mp h

omit [DecidableEq α] in
private theorem single_ne : ∀ other ∈ [rule], other.pattern ≠ [] :=
  fun _ h => mem_singleton.mp h ▸ hne

private theorem replaceEach_singleton_self (hvalue : rule.value = rule.pattern) (s : List α) :
    replaceEach [rule] s = s := by
  induction s using scan_induction (single_ne hne) with
  | nil => rfl
  | cons c s h ih => rw [replaceEach_cons h, ih]
  | pattern other hother s ih =>
    cases mem_singleton.mp hother
    rw [replaceEach_singleton_pattern_append hne, ih, hvalue]

private theorem length_replaceEach_singleton (s : List α) :
    ∃ n, (replaceEach [rule] s).length + n * rule.pattern.length =
      s.length + n * rule.value.length := by
  induction s using scan_induction (single_ne hne) with
  | nil => exact ⟨0, by simp⟩
  | cons c s h ih =>
    obtain ⟨n, hn⟩ := ih
    refine ⟨n, ?_⟩
    rw [replaceEach_cons h, length_cons, length_cons]
    omega
  | pattern other hother s ih =>
    cases mem_singleton.mp hother
    obtain ⟨n, hn⟩ := ih
    refine ⟨n + 1, ?_⟩
    rw [replaceEach_singleton_pattern_append hne, length_append, length_append]
    linarith

private theorem replaceEach_singleton_ne (hvalue : rule.value ≠ rule.pattern) (hs : rule.pattern <:+: s) :
    replaceEach [rule] s ≠ s := by
  induction s with
  | nil => exact absurd (eq_nil_of_infix_nil hs) hne
  | cons c s ih =>
    intro heq
    by_cases hc : rule.pattern <+: c :: s
    · obtain ⟨rest, hrest⟩ := hc
      rw [← hrest, replaceEach_singleton_pattern_append hne] at heq
      obtain ⟨n, hn⟩ := length_replaceEach_singleton hne rest
      have hlen := congrArg List.length heq
      rw [length_append, length_append] at hlen
      have hmul : (n + 1) * rule.value.length = (n + 1) * rule.pattern.length := by linarith
      exact hvalue (append_inj heq (Nat.eq_of_mul_eq_mul_left n.succ_pos hmul)).1
    · rw [replaceEach_cons (by simpa using hc)] at heq
      exact ih ((infix_cons_iff.mp hs).resolve_left hc) (List.cons.inj heq).2

end Single

/-! ## Passes in turn -/

namespace Marks
variable {l r : α} {rules : List (Rule α)}

private theorem replaceEach_pattern (marks : Marks l r rules) {rule : Rule α} (hrule : rule ∈ rules)
    (s : List α) :
    replaceEach rules (rule.pattern ++ s) = rule.value ++ replaceEach rules s :=
  replaceEach_pattern_append hrule (marks.ne_nil rule hrule) fun _ hother h =>
    marks.eq_of_isPrefix_append hrule hother h

private theorem replaceEach_other (marks : Marks l r rules) {p : List α} (hp : Delimited l r p)
    (hnot : ∀ rule ∈ rules, rule.pattern ≠ p) (s : List α) :
    replaceEach rules (p ++ s) = p ++ replaceEach rules s := by
  refine replaceEach_append fun rule hrule u hu hsuffix hprefix => ?_
  have hrule' := marks.delimited rule hrule
  by_cases hup : u = p
  · subst hup
    exact hnot rule hrule (hrule'.eq_of_isPrefix_append hp hprefix)
  · obtain ⟨c, u, rfl⟩ := exists_cons_of_ne_nil hu
    have hc : c = l := hrule'.head_eq hprefix
    exact hp.left_notMem_of_suffix marks.ne hsuffix hup (hc ▸ mem_cons_self)

/-- The order of the rules does not matter for one pass. -/
theorem replaceEach_perm (marks : Marks l r rules) {order : List (Rule α)} (h : order.Perm rules)
    (s : List α) : replaceEach order s = replaceEach rules s := by
  induction s using scan_induction marks.ne_nil with
  | nil => rfl
  | cons c s hc ih =>
    rw [replaceEach_cons hc, replaceEach_cons fun rule hrule => hc rule (h.mem_iff.mp hrule), ih]
  | pattern rule hrule s ih =>
    rw [marks.replaceEach_pattern hrule, ← ih,
      (marks.of_perm h).replaceEach_pattern (h.mem_iff.mpr hrule)]

section Last
variable {rule : Rule α} (marks : Marks l r (rules ++ [rule]))
include marks

omit [DecidableEq α] in
private theorem front : Marks l r rules := marks.of_sublist (sublist_append_left _ _)

private theorem replaceEach_last (s : List α) :
    replaceEach rules (rule.pattern ++ s) = rule.pattern ++ replaceEach rules s := by
  have hrule := marks.delimited rule (mem_append_right _ mem_cons_self)
  refine marks.front.replaceEach_other hrule ?_ s
  intro other hother heq
  have := marks.nodup
  rw [map_append, nodup_append] at this
  exact this.2.2 _ (mem_map_of_mem hother) _ (mem_map_of_mem mem_cons_self) heq

private theorem prefix_of_prefix_replaceEach
    (hvalues : ∀ other ∈ rules, ¬ Completes other.value rule.pattern) {u w : List α} (hu : u ≠ [])
    (huw : u ++ w = rule.pattern) (h : w <+: replaceEach rules s) : w <+: s := by
  induction s using scan_induction marks.front.ne_nil generalizing u w with
  | nil => simpa using h
  | cons c s hc ih =>
    rw [replaceEach_cons hc] at h
    cases w with
    | nil => exact nil_prefix
    | cons d w =>
      obtain ⟨rfl, hw⟩ := cons_prefix_cons.mp h
      exact cons_prefix_cons.mpr ⟨rfl, ih (u := u ++ [d]) (by simp) (by simpa using huw) hw⟩
  | pattern other hother s ih =>
    rw [marks.front.replaceEach_pattern hother] at h
    by_cases hw : w = []
    · exact hw ▸ nil_prefix
    -- otherwise the value completes the pattern
    refine absurd ?_ (hvalues other hother)
    have hup : u ≠ rule.pattern := by
      intro heq
      rw [← huw] at heq
      simp [hw] at heq
    rcases prefix_or_prefix_of_prefix h (prefix_append other.value _) with
      ⟨rest, hrest⟩ | ⟨rest, hrest⟩
    · refine ⟨u, [], ⟨w, huw⟩, hup, nil_suffix, ?_, ?_⟩
      · exact fun heq => (marks.ne_nil rule (mem_append_right _ mem_cons_self)) heq.symm
      · exact ⟨[], rest, by simp [← huw, ← hrest]⟩
    · refine ⟨u, rest, ⟨w, huw⟩, hup, ⟨u ++ other.value, by simp [hrest, huw]⟩, ?_, ?_⟩
      · intro heq
        have := congrArg List.length huw
        rw [heq] at hrest
        have hlen := congrArg List.length hrest
        rw [length_append] at this hlen
        exact hu (length_eq_zero_iff.mp (by omega))
      · exact ⟨[], [], by simp [hrest, huw]⟩

private theorem replaceEach_value
    {value : List α} (hvalue : ¬ Completes value rule.pattern) (s : List α) :
    replaceEach [rule] (value ++ s) = value ++ replaceEach [rule] s := by
  refine replaceEach_append fun other hother u hu hsuffix hprefix => hvalue ?_
  cases mem_singleton.mp hother
  have hne := marks.ne_nil rule (mem_append_right _ mem_cons_self)
  obtain ⟨before, hbefore⟩ := hsuffix
  rcases prefix_or_prefix_of_prefix hprefix (prefix_append u s) with
    ⟨rest, hrest⟩ | ⟨rest, hrest⟩
  · refine ⟨[], [], nil_prefix, hne.symm, nil_suffix, hne.symm, ?_⟩
    exact ⟨before, rest, by simp [hbefore, hrest]⟩
  · refine ⟨[], rest, nil_prefix, hne.symm, ⟨u, hrest⟩, ?_, ⟨before, [], ?_⟩⟩
    · intro heq
      have hlen := congrArg List.length hrest
      rw [heq, length_append] at hlen
      exact hu (length_eq_zero_iff.mp (by omega))
    · simp [← hbefore, ← hrest]

private theorem replaceEach_replaceEach (hlast : rule.value = rule.pattern ∨
    ∀ other ∈ rules, ¬ Completes other.value rule.pattern) (s : List α) :
    replaceEach [rule] (replaceEach rules s) = replaceEach (rules ++ [rule]) s := by
  have hne := marks.ne_nil rule (mem_append_right _ mem_cons_self)
  induction s using scan_induction marks.ne_nil with
  | nil => rfl
  | cons c s hc ih =>
    rw [replaceEach_cons hc, ← ih,
      replaceEach_cons fun other hother => hc other (mem_append_left _ hother)]
    rcases hlast with hself | hvalues
    · rw [replaceEach_singleton_self hne hself, replaceEach_singleton_self hne hself]
    · refine replaceEach_cons fun other hother hprefix =>
        hc rule (mem_append_right _ mem_cons_self) ?_
      cases mem_singleton.mp hother
      obtain ⟨d, w, hw⟩ := exists_cons_of_ne_nil hne
      rw [hw] at hprefix ⊢
      obtain ⟨rfl, hrest⟩ := cons_prefix_cons.mp hprefix
      refine cons_prefix_cons.mpr ⟨rfl, ?_⟩
      exact marks.prefix_of_prefix_replaceEach hvalues (u := [d]) (by simp) hw.symm hrest
  | pattern other hother s ih =>
    rw [marks.replaceEach_pattern hother, ← ih]
    rcases mem_append.mp hother with hfront | hsame
    · rw [marks.front.replaceEach_pattern hfront]
      rcases hlast with hself | hvalues
      · rw [replaceEach_singleton_self hne hself, replaceEach_singleton_self hne hself]
      · exact marks.replaceEach_value (hvalues other hfront) _
    · cases mem_singleton.mp hsame
      rw [marks.replaceEach_last, replaceEach_singleton_pattern_append hne]

end Last

/-- Passes in turn replace as one pass does if no value completes the pattern of a later rule. -/
theorem replaceInTurn_eq (marks : Marks l r rules)
    (hvalues : rules.Pairwise fun earlier later =>
      later.value = later.pattern ∨ ¬ Completes earlier.value later.pattern) (s : List α) :
    replaceInTurn rules s = replaceEach rules s := by
  induction rules using reverseRecOn with
  | nil =>
    induction s with
    | nil => rfl
    | cons c s ih =>
      rw [replaceEach_cons (by simp), ← ih]
      rfl
  | append_singleton rules rule ih =>
    rw [pairwise_append] at hvalues
    obtain ⟨hfront, -, hlast⟩ := hvalues
    rw [replaceInTurn_append, ih marks.front hfront]
    refine marks.replaceEach_replaceEach ?_ s
    by_cases hself : rule.value = rule.pattern
    · exact .inl hself
    · exact .inr fun other hother =>
        (hlast other hother rule mem_cons_self).resolve_left hself

/-- Between a text without a right delimiter and one without a left one only the pattern counts. -/
theorem replaceEach_framed (marks : Marks l r rules) {p t x y : List α}
    (hp : Delimited l r p) (hpt : ∀ s, replaceEach rules (p ++ s) = t ++ replaceEach rules s)
    (hx : r ∉ x) (hy : l ∉ y) : replaceEach rules (x ++ (p ++ y)) = x ++ (t ++ y) := by
  have hfront : replaceEach rules (x ++ (p ++ y)) = x ++ replaceEach rules (p ++ y) := by
    refine replaceEach_append fun rule hrule u hu hsuffix hprefix => ?_
    obtain ⟨body, rfl, -, -⟩ := hp.exists_body
    exact (marks.delimited rule hrule).not_prefix_append_cons marks.ne hu
      (fun h => hx (hsuffix.mem h)) hprefix
  have hback : replaceEach rules (y ++ []) = y ++ replaceEach rules [] := by
    refine replaceEach_append fun rule hrule u hu hsuffix hprefix => ?_
    obtain ⟨c, u, rfl⟩ := exists_cons_of_ne_nil hu
    have hc : c = l := (marks.delimited rule hrule).head_eq hprefix
    exact hy (hsuffix.mem (hc ▸ mem_cons_self))
  rw [append_nil, replaceEach_nil, append_nil] at hback
  rw [hfront, hpt, hback]

/-- If a value completes the pattern of another rule, passes in some order change some text in
another way than one pass does. -/
theorem exists_replaceInTurn_ne (marks : Marks l r rules) {first second : Rule α}
    (hfirst : first ∈ rules) (hsecond : second ∈ rules) (hne : first ≠ second)
    (hvalue : second.value ≠ second.pattern) (hcompletes : Completes first.value second.pattern) :
    ∃ order : List (Rule α), order.Perm rules ∧
      ∃ s, replaceInTurn order s ≠ replaceEach rules s := by
  obtain ⟨x, y, hx, hxp, hy, hyp, hcontains⟩ := hcompletes
  have hpattern := marks.delimited second hsecond
  have hx := hpattern.right_notMem_of_prefix marks.ne hx hxp
  have hy := hpattern.left_notMem_of_suffix marks.ne hy hyp
  have hframed {some : List (Rule α)} (h : some.Sublist rules) {t : List α}
      (hpt : ∀ s, replaceEach some (first.pattern ++ s) = t ++ replaceEach some s) :
      replaceEach some (x ++ (first.pattern ++ y)) = x ++ (t ++ y) :=
    (marks.of_sublist h).replaceEach_framed (marks.delimited first hfirst) hpt hx hy
  have hsingle {rule : Rule α} (h : rule ∈ rules) : [rule].Sublist rules :=
    singleton_sublist.mpr h
  -- the two rules have the last passes
  let others := (rules.erase first).erase second
  have hperm : (others ++ [first, second]).Perm rules := by
    have hsecond' : second ∈ rules.erase first := (mem_erase_of_ne hne.symm).mpr hsecond
    refine perm_append_comm.trans ?_
    exact ((perm_cons_erase hfirst).trans ((perm_cons_erase hsecond').cons first)).symm
  have hothers : replaceInTurn others (x ++ (first.pattern ++ y)) = x ++ (first.pattern ++ y) := by
    refine replaceInTurn_eq_self fun rule hrule => ?_
    obtain ⟨hrf, hrule⟩ := marks.nodup.of_map.mem_erase_iff.mp (mem_of_mem_erase hrule)
    refine hframed (hsingle hrule) fun s => ?_
    refine (marks.of_sublist (hsingle hrule)).replaceEach_other (marks.delimited first hfirst) ?_ s
    intro other hother heq
    cases mem_singleton.mp hother
    exact hrf (inj_on_of_nodup_map marks.nodup hrule hfirst heq)
  refine ⟨_, hperm, x ++ (first.pattern ++ y), ?_⟩
  have hturn : replaceInTurn (others ++ [first, second]) (x ++ (first.pattern ++ y)) =
      replaceEach [second] (x ++ (first.value ++ y)) := by
    have hpass := hframed (hsingle hfirst)
      (replaceEach_singleton_pattern_append (marks.ne_nil first hfirst))
    rw [replaceInTurn_append, hothers, replaceInTurn, foldl_cons, hpass]
    rfl
  rw [hturn, hframed (List.Sublist.refl rules) (marks.replaceEach_pattern hfirst)]
  exact replaceEach_singleton_ne hpattern.ne_nil hvalue (by simpa using hcontains)

end Marks
end

/-! ## Strings -/

section
open String String.Slice.Pattern String.Slice.Pattern.Model

variable {s : Slice} {pattern : String}

private theorem prefix_iff_matchesAt {pos : s.Pos} :
    pattern.toList <+: (s.sliceFrom pos).copy.toList ↔ MatchesAt pattern pos := by
  rw [ForwardStringSearcher.matchesAt_iff_splits]
  constructor
  · rintro ⟨rest, hrest⟩
    have hcopy : (s.sliceFrom pos).copy = pattern ++ String.ofList rest := by
      rw [← String.toList_inj, String.toList_append, String.toList_ofList, hrest]
    exact ⟨_, _, hcopy ▸ pos.splits⟩
  · rintro ⟨t₁, t₂, h⟩
    rw [h.copy_sliceFrom_eq, String.toList_append]
    exact prefix_append _ _

private theorem replaceEach_sliceFrom {value : List Char} {start stop : s.Pos} (hle : start ≤ stop)
    (hnone : ∀ pos, start ≤ pos → pos < stop → ¬ MatchesAt pattern pos) :
    replaceEach [⟨pattern.toList, value⟩] (s.sliceFrom start).copy.toList =
      (s.slice start stop hle).copy.toList ++
        replaceEach [⟨pattern.toList, value⟩] (s.sliceFrom stop).copy.toList := by
  induction start using WellFounded.induction Slice.Pos.wellFounded_gt with
  | h start ih =>
    by_cases hlt : start < stop
    · have hend := Slice.Pos.ne_endPos_of_lt hlt
      have hcopy := (Slice.Pos.splits_next_right start hend).copy_sliceFrom_eq
      have hhead := hnone start (Std.le_refl _) hlt
      rw [← prefix_iff_matchesAt, hcopy] at hhead
      rw [hcopy, Slice.copy_slice_eq_append_of_lt hlt]
      simp only [String.toList_append, String.toList_singleton, singleton_append] at hhead ⊢
      rw [replaceEach_cons (by simpa using hhead), ih _ (by simp) (by simpa using hlt)]
      · rfl
      · intro pos hpos hstop
        exact hnone pos (Std.le_trans (Std.le_of_lt (by simp)) hpos) hstop
    · obtain rfl : start = stop := Std.le_antisymm hle (Std.not_lt.mp hlt)
      simp

private theorem toList_foldl_steps {value : String} {f : String → SearchStep s → String}
    (hmatched : ∀ sofar start stop, f sofar (.matched start stop) = sofar ++ value)
    (hrejected : ∀ sofar start stop,
      f sofar (.rejected start stop) = sofar ++ (s.slice! start stop).copy)
    (hne : pattern ≠ "") {pos : s.Pos} {steps : List (SearchStep s)}
    (h : IsValidSearchFrom pattern pos steps) (sofar : String) :
    (steps.foldl f sofar).toList = sofar.toList ++
      replaceEach [⟨pattern.toList, value.toList⟩] (s.sliceFrom pos).copy.toList := by
  induction h generalizing sofar with
  | endPos => simp
  | matched hmatch hrest ih =>
    obtain ⟨t₁, t₂, hstart, hstop⟩ := ForwardStringSearcher.isLongestMatchAt_iff_splits.mp hmatch
    rw [foldl_cons, ih, hstart.copy_sliceFrom_eq, hstop.copy_sliceFrom_eq,
      String.toList_append, replaceEach_singleton_pattern_append (by simpa using hne), hmatched,
      String.toList_append, List.append_assoc]
  | mismatched hlt hnone hrest ih =>
    rw [foldl_cons, ih, replaceEach_sliceFrom (Std.le_of_lt hlt) hnone, hrejected,
      String.toList_append, List.append_assoc, Slice.slice_eq_slice!]

/-- `String.replace` replaces the pattern in one pass. -/
theorem toList_replace (s : String) {pattern : String} (value : String) (hne : pattern ≠ "") :
    (s.replace pattern value).toList =
      replaceEach [⟨pattern.toList, value.toList⟩] s.toList := by
  have hvalid := (ForwardStringSearcher.lawfulToForwardSearcherModel hne).isValidSearchFrom_toList
    s.toSlice
  have hvalue (sofar : String) : sofar ++ ToSlice.toSlice value = sofar ++ value :=
    congrArg (sofar ++ ·) String.copy_toSlice
  rw [String.replace, String.Slice.replace, ← Std.Iter.foldl_toList,
    toList_foldl_steps (fun sofar _ _ => hvalue sofar) (fun _ _ _ => rfl) hne hvalid]
  simp

end

end DoraSpec.Base.Replacement
