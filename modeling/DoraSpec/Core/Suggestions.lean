import DoraSpec.Base.EditDistance
import Mathlib.Algebra.Group.Nat.Defs

/-!
# Distance between type names

Source `libraries/core/src/types.rs:644-668`: suggestions for an unknown type compare names by a
table of distances between prefixes. The loops stay inside the table, whose entries are at most 256,
so it is a function of natural numbers.
-/

namespace DoraSpec.Core
open Base List Function

/-- Table with the first column and the first row; `types.rs:652-658`. -/
def initialTable (i j : Nat) : Nat := if i = 0 then j else if j = 0 then i else 0

/-- Write `dp[i + 1][j + 1]`; `types.rs:661-664`. -/
def fillCell (a b : List Char) (i : Nat) (dp : Nat → Nat → Nat) (j : Nat) : Nat → Nat → Nat :=
  let cost := if a[i]? = b[j]? then 0 else 1
  update dp (i + 1) (update (dp (i + 1)) (j + 1)
    (min (min (dp i (j + 1) + 1) (dp (i + 1) j + 1)) (dp i j + cost)))

/-- Row `i + 1` up to a column; the inner loop, `types.rs:660-665`. -/
def fillRow (a b : List Char) (dp : Nat → Nat → Nat) (i columns : Nat) : Nat → Nat → Nat :=
  (range columns).foldl (fillCell a b i) dp

/-- The first rows; the outer loop, `types.rs:659-666`. -/
def fillTable (a b : List Char) (rows : Nat) : Nat → Nat → Nat :=
  (range rows).foldl (fun dp i => fillRow a b dp i b.length) initialTable

/-- `edit_distance`, `types.rs:646-668`. Long texts get `usize::MAX`. -/
def editDistance (a b : String) : Nat :=
  if a.utf8ByteSize > 256 ∨ b.utf8ByteSize > 256 then 2 ^ 64 - 1
  else fillTable a.toList b.toList a.length a.length b.length

variable {a b : List Char} {i j n : Nat} {dp : Nat → Nat → Nat}

/-- Distance between the first `i` and the first `j` characters. -/
def prefixDistance (a b : List Char) (i j : Nat) : Nat :=
  lev (a.take i).reverse (b.take j).reverse

private theorem prefixDistance_zero_left (hj : j ≤ b.length) : prefixDistance a b 0 j = j := by
  simp [prefixDistance, lev, hj]

private theorem prefixDistance_zero_right (hi : i ≤ a.length) : prefixDistance a b i 0 = i := by
  simp [prefixDistance, hi]

private theorem prefixDistance_succ (hi : i < a.length) (hj : j < b.length) :
    prefixDistance a b (i + 1) (j + 1) =
      min (min (prefixDistance a b i (j + 1) + 1) (prefixDistance a b (i + 1) j + 1))
        (prefixDistance a b i j + if a[i]? = b[j]? then 0 else 1) := by
  have ha : (a.take (i + 1)).reverse = a[i] :: (a.take i).reverse := by
    rw [take_succ_eq_append_getElem hi, reverse_concat]
  have hb : (b.take (j + 1)).reverse = b[j] :: (b.take j).reverse := by
    rw [take_succ_eq_append_getElem hj, reverse_concat]
  simp only [prefixDistance, ha, hb, lev, getElem?_eq_getElem hi,
    getElem?_eq_getElem hj, Option.some.injEq]

private theorem fillRow_succ (dp : Nat → Nat → Nat) (i n : Nat) :
    fillRow a b dp i (n + 1) = fillCell a b i (fillRow a b dp i n) n := by
  rw [fillRow, range_succ, foldl_append]
  rfl

private theorem fillTable_succ (n : Nat) :
    fillTable a b (n + 1) = fillRow a b (fillTable a b n) n b.length := by
  rw [fillTable, range_succ, foldl_append]
  rfl

private theorem fillRow_spec (hi : i < a.length)
    (hprev : ∀ j ≤ b.length, dp i j = prefixDistance a b i j) (hfirst : dp (i + 1) 0 = i + 1)
    (hn : n ≤ b.length) :
    (∀ r ≠ i + 1, fillRow a b dp i n r = dp r) ∧
      ∀ j ≤ n, fillRow a b dp i n (i + 1) j = prefixDistance a b (i + 1) j := by
  induction n with
  | zero =>
    refine ⟨fun r _ => rfl, fun j hj => ?_⟩
    obtain rfl := Nat.le_zero.mp hj
    exact hfirst.trans (prefixDistance_zero_right hi).symm
  | succ n ih =>
    obtain ⟨hrest, hrow⟩ := ih (by omega)
    rw [fillRow_succ, fillCell]
    refine ⟨fun r hr => (update_of_ne hr _ _).trans (hrest r hr), fun j hj => ?_⟩
    rw [update_self]
    by_cases hlast : j = n + 1
    · subst hlast
      rw [update_self, hrest i (by omega), hrow n le_rfl, hprev _ hn, hprev n (by omega),
        prefixDistance_succ hi hn]
    · rw [update_of_ne hlast]
      exact hrow j (by omega)

private theorem fillTable_spec (hn : n ≤ a.length) :
    (∀ i ≤ n, ∀ j ≤ b.length, fillTable a b n i j = prefixDistance a b i j) ∧
      ∀ i > n, fillTable a b n i = initialTable i := by
  induction n with
  | zero =>
    refine ⟨fun i hi j hj => ?_, fun i _ => rfl⟩
    obtain rfl := Nat.le_zero.mp hi
    exact (prefixDistance_zero_left hj).symm
  | succ n ih =>
    obtain ⟨hdone, hopen⟩ := ih (by omega)
    have hfirst : fillTable a b n (n + 1) 0 = n + 1 := by simp [hopen, initialTable]
    obtain ⟨hrest, hrow⟩ := fillRow_spec hn (hdone n le_rfl) hfirst le_rfl
    rw [fillTable_succ]
    refine ⟨fun i hi j hj => ?_, fun i hi => (hrest i (by omega)).trans (hopen i (by omega))⟩
    by_cases hlast : i = n + 1
    · subst hlast
      exact hrow j hj
    · rw [hrest i hlast]
      exact hdone i (by omega) j hj

/-- The distance is the least number of insertions, deletions and substitutions. -/
theorem editDistance_isLeast (a b : String) (ha : a.utf8ByteSize ≤ 256)
    (hb : b.utf8ByteSize ≤ 256) : IsLeast {n | Edits n a.toList b.toList} (editDistance a b) := by
  have hdp := (fillTable_spec (a := a.toList) (b := b.toList) le_rfl).1 _ le_rfl _ le_rfl
  rw [prefixDistance, take_length, take_length] at hdp
  rw [editDistance, if_neg (by omega), ← String.length_toList, ← String.length_toList, hdp]
  exact isLeast_of_reverse (isLeast_lev _ _)

/-- One letter is replaced. -/
theorem editDistance_isLeast_image :
    IsLeast {n | Edits n "Image".toList "Imege".toList} (editDistance "Image" "Imege") :=
  editDistance_isLeast "Image" "Imege" (by decide) (by decide)

end DoraSpec.Core
