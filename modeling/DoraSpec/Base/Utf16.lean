import Mathlib.Logic.Basic

/-!
# UTF-16

`str::encode_utf16` and `String::from_utf16`. A character outside the basic plane is a pair of
surrogates; a list of units is rejected if it has a surrogate without its partner.
-/

namespace DoraSpec.Base.Utf16

open List Option

/-- Units of a character. -/
def encodeChar (c : Char) : List UInt16 :=
  if c.toNat < 0x10000 then [.ofNat c.toNat]
  else [.ofNat (0xD800 + (c.toNat - 0x10000) / 0x400), .ofNat (0xDC00 + (c.toNat - 0x10000) % 0x400)]

/-- `str::encode_utf16`. -/
def encode (s : String) : List UInt16 := s.toList.flatMap encodeChar

/-- Character of a pair of surrogates. -/
def pairChar (high low : UInt16) : Char :=
  .ofNat (0x10000 + (high.toNat - 0xD800) * 0x400 + (low.toNat - 0xDC00))

/-- Characters of a list of units. -/
def decodeChars : List UInt16 → Option (List Char)
  | [] => some []
  | [u] => if u.toNat < 0xD800 ∨ 0xDFFF < u.toNat then some [.ofNat u.toNat] else none
  | u :: v :: units =>
    if u.toNat < 0xD800 ∨ 0xDFFF < u.toNat then
      (decodeChars (v :: units)).map (.ofNat u.toNat :: ·)
    else if u.toNat ≤ 0xDBFF ∧ 0xDC00 ≤ v.toNat ∧ v.toNat ≤ 0xDFFF then
      (decodeChars units).map (pairChar u v :: ·)
    else none

/-- `String::from_utf16`. -/
def decode (units : List UInt16) : Option String := (decodeChars units).map String.ofList

private theorem toNat_char (c : Char) :
    c.toNat < 0xD800 ∨ 0xDFFF < c.toNat ∧ c.toNat < 0x110000 := by
  simpa [UInt32.isValidChar, Nat.isValidChar] using c.valid

private theorem toNat_ofNat {n : Nat} (h : n < 0xD800 ∨ 0xDFFF < n ∧ n < 0x110000) :
    (Char.ofNat n).toNat = n := by
  have hv : n.isValidChar := by simpa [Nat.isValidChar] using h
  rw [Char.ofNat, dif_pos hv]
  rfl

private theorem decodeChars_cons {u : UInt16} (h : u.toNat < 0xD800 ∨ 0xDFFF < u.toNat)
    (units : List UInt16) :
    decodeChars (u :: units) = (decodeChars units).map (Char.ofNat u.toNat :: ·) := by
  cases units with
  | nil => simp [decodeChars, h]
  | cons v units => rw [decodeChars, if_pos h]

private theorem decodeChars_pair {u v : UInt16} (hu : 0xD800 ≤ u.toNat) (hu' : u.toNat ≤ 0xDBFF)
    (hv : 0xDC00 ≤ v.toNat) (hv' : v.toNat ≤ 0xDFFF) (units : List UInt16) :
    decodeChars (u :: v :: units) = (decodeChars units).map (pairChar u v :: ·) := by
  rw [decodeChars, if_neg (by omega), if_pos ⟨hu', hv, hv'⟩]

private theorem decodeChars_encodeChar (c : Char) (units : List UInt16) :
    decodeChars (encodeChar c ++ units) = (decodeChars units).map (c :: ·) := by
  have hc := toNat_char c
  have hsize : UInt16.size = 0x10000 := rfl
  unfold encodeChar
  split
  · next hsmall =>
    have hu : (UInt16.ofNat c.toNat).toNat = c.toNat := UInt16.toNat_ofNat_of_lt' hsmall
    rw [singleton_append, decodeChars_cons (by omega), hu, Char.ofNat_toNat]
  · next hlarge =>
    have hh : (UInt16.ofNat (0xD800 + (c.toNat - 0x10000) / 0x400)).toNat =
        0xD800 + (c.toNat - 0x10000) / 0x400 := UInt16.toNat_ofNat_of_lt' (by omega)
    have hl : (UInt16.ofNat (0xDC00 + (c.toNat - 0x10000) % 0x400)).toNat =
        0xDC00 + (c.toNat - 0x10000) % 0x400 := UInt16.toNat_ofNat_of_lt' (by omega)
    have hpair : pairChar (.ofNat (0xD800 + (c.toNat - 0x10000) / 0x400))
        (.ofNat (0xDC00 + (c.toNat - 0x10000) % 0x400)) = c := by
      have hsum : 0x10000 + (0xD800 + (c.toNat - 0x10000) / 0x400 - 0xD800) * 0x400 +
          (0xDC00 + (c.toNat - 0x10000) % 0x400 - 0xDC00) = c.toNat := by omega
      rw [pairChar, hh, hl, hsum, Char.ofNat_toNat]
    rw [cons_append, singleton_append, decodeChars_pair (by omega) (by omega) (by omega)
      (by omega), hpair]

private theorem decodeChars_flatMap (cs : List Char) :
    decodeChars (cs.flatMap encodeChar) = some cs := by
  induction cs with
  | nil => rfl
  | cons c cs ih => rw [flatMap_cons, decodeChars_encodeChar, ih, map_some]

/-- Texts are decoded back. -/
@[simp] theorem decode_encode (s : String) : decode (encode s) = some s := by
  rw [decode, encode, decodeChars_flatMap, map_some, String.ofList_toList]

private theorem encodeChar_ofNat {u : UInt16} (h : u.toNat < 0xD800 ∨ 0xDFFF < u.toNat) :
    encodeChar (.ofNat u.toNat) = [u] := by
  have hu := u.toNat_lt
  rw [encodeChar, toNat_ofNat (by omega), if_pos (by omega), UInt16.ofNat_toNat]

private theorem encodeChar_pairChar {u v : UInt16} (hu : 0xD800 ≤ u.toNat) (hu' : u.toNat ≤ 0xDBFF)
    (hv : 0xDC00 ≤ v.toNat) (hv' : v.toNat ≤ 0xDFFF) : encodeChar (pairChar u v) = [u, v] := by
  have hhigh : 0xD800 + (0x10000 + (u.toNat - 0xD800) * 0x400 + (v.toNat - 0xDC00) - 0x10000) / 0x400 =
      u.toNat := by omega
  have hlow : 0xDC00 + (0x10000 + (u.toNat - 0xD800) * 0x400 + (v.toNat - 0xDC00) - 0x10000) % 0x400 =
      v.toNat := by omega
  rw [encodeChar, pairChar, toNat_ofNat (by omega), if_neg (by omega), hhigh, hlow,
    UInt16.ofNat_toNat, UInt16.ofNat_toNat]

private theorem flatMap_of_decodeChars {units : List UInt16} {cs : List Char}
    (h : decodeChars units = some cs) : cs.flatMap encodeChar = units := by
  fun_induction decodeChars units generalizing cs with
  | case1 =>
    obtain rfl := some.inj h
    rfl
  | case2 u hu =>
    obtain rfl := some.inj h
    simp [encodeChar_ofNat hu]
  | case3 | case6 => cases h
  | case4 u v units hu ih =>
    obtain ⟨cs, hcs, rfl⟩ := map_eq_some_iff.mp h
    rw [flatMap_cons, ih hcs, encodeChar_ofNat hu, singleton_append]
  | case5 u v units hu huv ih =>
    obtain ⟨cs, hcs, rfl⟩ := map_eq_some_iff.mp h
    rw [flatMap_cons, ih hcs, encodeChar_pairChar (by omega) huv.1 huv.2.1 huv.2.2,
      cons_append, singleton_append]

/-- Decoded units are encoded back. -/
theorem encode_of_decode {units : List UInt16} {s : String} (h : decode units = some s) :
    encode s = units := by
  obtain ⟨cs, hcs, rfl⟩ := map_eq_some_iff.mp h
  rw [encode, String.toList_ofList, flatMap_of_decodeChars hcs]

end DoraSpec.Base.Utf16
