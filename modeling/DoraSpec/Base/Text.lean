import Mathlib.Algebra.Order.Ring.Nat
import Mathlib.Data.List.TakeWhile

/-!
# Splitting text and reading numbers

Operations on strings with the documented behaviour of the Rust standard library: `split_once`
on a character, `parse::<u64>` and `parse::<f64>`. Floating-point values are Lean's binary64
`Float`, whose operations are defined by its logical model.
-/

namespace DoraSpec.Base.Text

/-! ## Splitting -/

/-- Text before and after the first separator; `split_once`. -/
def splitOnce (sep : Char) (s : String) : Option (String × String) :=
  match s.toList.dropWhile (· ≠ sep) with
  | [] => none
  | _ :: back => some (String.ofList (s.toList.takeWhile (· ≠ sep)), String.ofList back)

/-- Two texts joined by a separator. -/
def joinOnce (sep : Char) (front back : String) : String :=
  front ++ String.singleton sep ++ back

/-- Characters of a joined text. -/
theorem toList_joinOnce (sep : Char) (front back : String) :
    (joinOnce sep front back).toList = front.toList ++ sep :: back.toList := by
  simp [joinOnce]

variable {sep : Char}

/-- A joined text splits where it was joined if the front has no separator. -/
theorem splitOnce_joinOnce {front : String} (h : sep ∉ front.toList) (back : String) :
    splitOnce sep (joinOnce sep front back) = some (front, back) := by
  have hf : ∀ c ∈ front.toList, decide (c ≠ sep) = true := by
    intro c hc
    rw [decide_eq_true_eq]
    rintro rfl
    exact h hc
  rw [splitOnce, toList_joinOnce, List.dropWhile_append_of_pos hf,
    List.takeWhile_append_of_pos hf]
  simp [String.ofList_toList]

/-- Joined texts without a separator in front are equal only part by part. -/
theorem joinOnce_inj {front front' back back' : String} (h : sep ∉ front.toList)
    (h' : sep ∉ front'.toList) (he : joinOnce sep front back = joinOnce sep front' back') :
    front = front' ∧ back = back' := by
  have hs := splitOnce_joinOnce h back
  rw [he, splitOnce_joinOnce h'] at hs
  obtain ⟨rfl, rfl⟩ := Prod.mk.inj (Option.some.inj hs)
  exact ⟨rfl, rfl⟩

/-- Two lists whose fronts have a property that the heads of their backs lack are equal only part by
part. -/
theorem append_inj_of_all {α : Type} {p : α → Bool} {front front' back back' : List α}
    (hfront : ∀ c ∈ front, p c) (hfront' : ∀ c ∈ front', p c)
    (hback : ∀ c ∈ back.head?, p c = false) (hback' : ∀ c ∈ back'.head?, p c = false)
    (he : front ++ back = front' ++ back') : front = front' ∧ back = back' := by
  have htake {front back : List α} (hfront : ∀ c ∈ front, p c)
      (hback : ∀ c ∈ back.head?, p c = false) : (front ++ back).takeWhile p = front := by
    rw [List.takeWhile_append_of_pos hfront]
    cases back with
    | nil => simp
    | cons c back => simp [hback c rfl]
  have heq : front = front' := by rw [← htake hfront hback, he, htake hfront' hback']
  exact ⟨heq, List.append_cancel_left (heq ▸ he)⟩

/-- A text that splits is joined from its parts, and its front has no separator. -/
theorem splitOnce_eq_some {s front back : String} (h : splitOnce sep s = some (front, back)) :
    s = joinOnce sep front back ∧ sep ∉ front.toList := by
  unfold splitOnce at h
  split at h
  · cases h
  · next c rest hd =>
    obtain ⟨rfl, rfl⟩ := Prod.mk.inj (Option.some.inj h)
    have hc : c = sep := by
      have := List.head?_dropWhile_not (fun c => decide (c ≠ sep)) s.toList
      rw [hd] at this
      simpa using this
    subst hc
    constructor
    · rw [← String.toList_inj, toList_joinOnce, String.toList_ofList, String.toList_ofList,
        ← hd, List.takeWhile_append_dropWhile]
    · rw [String.toList_ofList]
      intro hm
      simpa using List.mem_takeWhile_imp hm

/-- A text does not split exactly when it has no separator. -/
theorem splitOnce_eq_none {s : String} :
    splitOnce sep s = none ↔ sep ∉ s.toList := by
  constructor
  · intro h hm
    unfold splitOnce at h
    split at h
    · next hd => simpa using List.dropWhile_eq_nil_iff.mp hd sep hm
    · cases h
  · intro h
    cases hs : splitOnce sep s with
    | none => rfl
    | some parts =>
      obtain ⟨rfl, -⟩ := splitOnce_eq_some hs
      exact absurd (by simp [toList_joinOnce]) h

/-! ## Unsigned integers -/

/-- Value of a non-empty sequence of decimal digits. -/
def parseDigits (cs : List Char) : Option Nat :=
  if cs ≠ [] ∧ cs.all Char.isDigit then some (Nat.ofDigitChars 10 cs 0) else none

/-- Drop an optional plus sign. -/
def dropPlus : List Char → List Char
  | '+' :: cs => cs
  | cs => cs

/-- Unsigned integer with an optional plus sign; `parse::<u64>`. -/
def parseU64 (s : String) : Option UInt64 :=
  match parseDigits (dropPlus s.toList) with
  | some n => if n < 2 ^ 64 then some (UInt64.ofNat n) else none
  | none => none

private theorem dropPlus_toDigits (n : Nat) : dropPlus (Nat.toDigits 10 n) = Nat.toDigits 10 n := by
  unfold dropPlus
  split
  · next cs hc =>
    have hp : '+' ∈ Nat.toDigits 10 n := by simp [hc]
    exact absurd (Nat.isDigit_of_mem_toDigits (by decide) (by decide) hp) (by decide)
  · rfl

private theorem parseDigits_toDigits (n : Nat) : parseDigits (Nat.toDigits 10 n) = some n := by
  have hd : (Nat.toDigits 10 n).all Char.isDigit = true :=
    List.all_eq_true.mpr fun c hc => Nat.isDigit_of_mem_toDigits (by decide) (by decide) hc
  rw [parseDigits, if_pos ⟨Nat.toDigits_ne_nil, hd⟩,
    Nat.ofDigitChars_toDigits (by decide) (by decide)]

/-- A printed number is read back when it fits. -/
theorem parseU64_repr (n : Nat) :
    parseU64 n.repr = if n < 2 ^ 64 then some (UInt64.ofNat n) else none := by
  rw [parseU64, Nat.toList_repr, dropPlus_toDigits, parseDigits_toDigits]

/-- Unsigned integer of at most `max`, with an optional plus sign; `parse` of the unsigned types. -/
def parseUnsigned (max : Nat) (s : String) : Option Nat :=
  (parseDigits (dropPlus s.toList)).filter (· ≤ max)

/-! ## Floating-point numbers -/

/-- Sign and rest of a number. -/
def splitSign : List Char → Bool × List Char
  | '-' :: cs => (true, cs)
  | '+' :: cs => (false, cs)
  | cs => (false, cs)

/-- Signed integer of a number of bits; `parse` of the signed types. -/
def parseSigned (bits : Nat) (s : String) : Option Int :=
  match splitSign s.toList with
  | (negative, digits) =>
    ((parseDigits digits).map fun n => if negative then -(n : Int) else n).filter fun n =>
      -2 ^ (bits - 1) ≤ n ∧ n < 2 ^ (bits - 1)

/-- Exponent part: nothing, or `e` with a signed integer. -/
def parseExponent : List Char → Option Int
  | [] => some 0
  | c :: cs =>
    if c = 'e' ∨ c = 'E' then
      match splitSign cs with
      | (negative, digits) =>
        (parseDigits digits).map fun n => if negative then -(n : Int) else n
    else none

/-- Fraction part: nothing, or a point with digits. -/
def splitFraction : List Char → List Char × List Char
  | '.' :: cs => (cs.takeWhile Char.isDigit, cs.dropWhile Char.isDigit)
  | cs => ([], cs)

/-- Digits and decimal exponent of an unsigned decimal number. -/
def parseDecimal (cs : List Char) : Option (Nat × Int) :=
  match splitFraction (cs.dropWhile Char.isDigit) with
  | (fraction, rest) =>
    match parseDigits (cs.takeWhile Char.isDigit ++ fraction), parseExponent rest with
    | some digits, some exponent => some (digits, exponent - fraction.length)
    | _, _ => none

/-- The binary64 value nearest to `digits * 10 ^ exponent`. -/
def ofDecimal (digits : Nat) (exponent : Int) : Float :=
  if exponent < 0 then Float.ofScientific digits true (-exponent).toNat
  else Float.ofScientific digits false exponent.toNat

/-- Floating-point number; `parse::<f64>`: an optional sign, then `inf`, `infinity` or `nan` in
any case, or a decimal number with an optional exponent. -/
def parseF64 (s : String) : Option Float :=
  match splitSign s.toList with
  | (negative, cs) =>
    let magnitude : Option Float :=
      if cs.map Char.toLower = "inf".toList ∨ cs.map Char.toLower = "infinity".toList then
        some (1.0 / 0.0)
      else if cs.map Char.toLower = "nan".toList then some (0.0 / 0.0)
      else (parseDecimal cs).map fun (digits, exponent) => ofDecimal digits exponent
    magnitude.map fun x => if negative then -x else x

/-- The binary32 value nearest to `digits * 10 ^ exponent`. -/
def ofDecimal32 (digits : Nat) (exponent : Int) : Float32 :=
  if exponent < 0 then Float32.ofScientific digits true (-exponent).toNat
  else Float32.ofScientific digits false exponent.toNat

/-- `parse::<f32>`, which accepts the same texts as `parse::<f64>`. -/
def parseF32 (s : String) : Option Float32 :=
  match splitSign s.toList with
  | (negative, cs) =>
    let magnitude : Option Float32 :=
      if cs.map Char.toLower = "inf".toList ∨ cs.map Char.toLower = "infinity".toList then
        some (1.0 / 0.0)
      else if cs.map Char.toLower = "nan".toList then some (0.0 / 0.0)
      else (parseDecimal cs).map fun (digits, exponent) => ofDecimal32 digits exponent
    magnitude.map fun x => if negative then -x else x

/-- Nearest integer to `n / d`, the even one of two equally near. -/
def roundHalfEven (n d : Nat) : Nat :=
  if 2 * (n % d) < d then n / d
  else if d < 2 * (n % d) then n / d + 1
  else n / d + n / d % 2

private theorem roundHalfEven_le (n d : Nat) : roundHalfEven n d ≤ n / d + 1 := by
  unfold roundHalfEven
  split
  · omega
  · split <;> omega

/-- Nearest integer to `scale * (mantissa * 2 ^ exponent)`. -/
def roundScaled (scale mantissa : Nat) (exponent : Int) : Nat :=
  if 0 ≤ exponent then scale * mantissa * 2 ^ exponent.toNat
  else roundHalfEven (scale * mantissa) (2 ^ (-exponent).toNat)

/-- A binary64 value is a multiple of one, or below `2 ^ 52`. -/
theorem roundScaled_cases {scale mantissa : Nat} (exponent : Int) (hs : 0 < scale)
    (hm : mantissa < 2 ^ 53) :
    roundScaled scale mantissa exponent % scale = 0 ∨
      roundScaled scale mantissa exponent ≤ scale * 2 ^ 52 := by
  unfold roundScaled
  split
  · left
    rw [Nat.mul_assoc, Nat.mul_mod_right]
  · next he =>
    right
    have hd : 2 ≤ 2 ^ (-exponent).toNat := by
      have h1 : 1 ≤ (-exponent).toNat := by omega
      calc 2 = 2 ^ 1 := rfl
        _ ≤ 2 ^ (-exponent).toNat := Nat.pow_le_pow_right (by decide) h1
    have hn : scale * mantissa + scale ≤ 2 * (scale * 2 ^ 52) := by
      calc scale * mantissa + scale = scale * (mantissa + 1) := rfl
        _ ≤ scale * 2 ^ 53 := Nat.mul_le_mul_left _ hm
        _ = 2 * (scale * 2 ^ 52) := by omega
    have hr := roundHalfEven_le (scale * mantissa) (2 ^ (-exponent).toNat)
    have hq : scale * mantissa / 2 ^ (-exponent).toNat ≤ scale * mantissa / 2 :=
      Nat.div_le_div_left hd (by decide)
    omega

open Float.Model in
/-- The mantissa of a finite binary64 value has at most 53 bits. -/
theorem mantissa_lt {x : Float} {sign : UnpackedFloat.Sign} {mantissa : Nat} {exponent : Int}
    {pos : 0 < mantissa} (h : x.toModel.unpack = .finite sign mantissa exponent pos) :
    mantissa < 2 ^ 53 := by
  unfold Float.Model.unpack UnpackedFloat.unpack at h
  dsimp only at h
  rcases ite_eq_iff.mp h with ⟨-, h⟩ | ⟨-, h⟩
  · rcases ite_eq_iff.mp h with ⟨-, h⟩ | ⟨-, h⟩ <;> cases h
  · rcases ite_eq_iff.mp h with ⟨-, h⟩ | ⟨-, h⟩
    · rcases dite_eq_iff.mp h with ⟨_, h⟩ | ⟨_, h⟩
      · cases h
      · -- a subnormal number has no implicit bit
        injection h with _ hm
        rw [← hm]
        exact Nat.lt_trans (BitVec.isLt _) (by decide)
    · injection h with _ hm
      rw [← hm]
      exact BitVec.isLt _

end DoraSpec.Base.Text
