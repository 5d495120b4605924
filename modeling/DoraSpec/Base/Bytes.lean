import Mathlib.Algebra.Order.Ring.Nat
import Mathlib.Data.List.Basic

/-!
# Byte sequences

Fixed-width little-endian numbers, exact reads from the front of a byte sequence, reads and
writes at a position of a buffer and UTF-8 text, over lists of bytes.
-/

namespace DoraSpec.Base.Bytes

open List

/-- The `width` little-endian bytes of a number; higher bits are dropped. -/
def toLE : Nat → Nat → List UInt8
  | 0, _ => []
  | width + 1, n => UInt8.ofNat n :: toLE width (n / 256)

/-- The number with the given little-endian bytes. -/
def ofLE : List UInt8 → Nat
  | [] => 0
  | b :: bs => b.toNat + 256 * ofLE bs

/-- The encoding has the given width. -/
@[simp] theorem length_toLE (width n : Nat) : (toLE width n).length = width := by
  induction width generalizing n with
  | zero => rfl
  | succ width ih => rw [toLE, length_cons, ih]

/-- Reading a written number back gives its low bytes. -/
theorem ofLE_toLE (width n : Nat) : ofLE (toLE width n) = n % 256 ^ width := by
  induction width generalizing n with
  | zero => rw [toLE, ofLE, pow_zero, Nat.mod_one]
  | succ width ih =>
    rw [toLE, ofLE, ih, UInt8.toNat_ofNat', pow_succ' 256 width, Nat.mod_mul]

variable {n pos : Nat} {front bytes rest buf target : List UInt8}

/-- Numbers that fit are read back. -/
theorem ofLE_toLE_of_lt {width : Nat} (h : n < 256 ^ width) : ofLE (toLE width n) = n := by
  rw [ofLE_toLE, Nat.mod_eq_of_lt h]

/-- Take exactly `n` bytes from the front; `read_exact` on an in-memory source, which fails
when fewer bytes are left. -/
def readExact (n : Nat) (bytes : List UInt8) : Option (List UInt8 × List UInt8) :=
  if n ≤ bytes.length then some (bytes.take n, bytes.drop n) else none

/-- A read of the right width returns the front part and leaves the rest. -/
theorem readExact_append (h : front.length = n) (rest : List UInt8) :
    readExact n (front ++ rest) = some (front, rest) := by
  subst h
  simp [readExact]

/-- A read fails exactly when too few bytes are left. -/
theorem readExact_eq_none :
    readExact n bytes = none ↔ bytes.length < n := by
  unfold readExact
  split
  · next h => simp [h]
  · next h => simpa using h

/-- A successful read splits the bytes. -/
theorem readExact_eq_some (h : readExact n bytes = some (front, rest)) :
    bytes = front ++ rest ∧ front.length = n := by
  unfold readExact at h
  split at h
  · next hn =>
    obtain ⟨rfl, rfl⟩ := Prod.mk.inj (Option.some.inj h)
    exact ⟨(take_append_drop n bytes).symm, length_take_of_le hn⟩
  · cases h

/-- The bytes of `buf` from `pos` up to `pos + n`. -/
def window (buf : List UInt8) (pos n : Nat) : List UInt8 := (buf.drop pos).take n

/-- What is left of a buffer at a position inside it. -/
def At (buf : List UInt8) (pos : Nat) (rest : List UInt8) : Prop :=
  pos + rest.length = buf.length ∧ buf.drop pos = rest

/-- A buffer is at its own start. -/
theorem at_zero (buf : List UInt8) : At buf 0 buf :=
  ⟨Nat.zero_add _, rfl⟩

/-- The position moves past a field. -/
theorem At.advance (h : At buf pos (front ++ rest)) :
    At buf (pos + front.length) rest := by
  obtain ⟨hl, hd⟩ := h
  constructor
  · rw [length_append] at hl
    omega
  · rw [← drop_drop, hd, drop_left]

/-- The field at the position is the front of what is left. -/
theorem At.window_eq (h : At buf pos (front ++ rest)) :
    window buf pos front.length = front := by
  rw [window, h.2, take_left]

/-- The field at the position lies inside the buffer. -/
theorem At.le_length (h : At buf pos (front ++ rest)) :
    pos + front.length ≤ buf.length := by
  have hl := h.1
  rw [length_append] at hl
  omega

/-- A window in bounds has its length. -/
theorem length_window (h : pos + n ≤ buf.length) :
    (window buf pos n).length = n := by
  rw [window, length_take, length_drop]
  omega

/-- Two buffers of one length with the same first `n` bytes. -/
def AgreeUpTo (n : Nat) (x y : List UInt8) : Prop := x.length = y.length ∧ x.take n = y.take n

/-- Agreement is reflexive. -/
theorem AgreeUpTo.refl (n : Nat) (x : List UInt8) : AgreeUpTo n x x := ⟨rfl, rfl⟩

/-- Agreement is transitive. -/
theorem AgreeUpTo.trans {x y z : List UInt8} (h : AgreeUpTo n x y) (h' : AgreeUpTo n y z) :
    AgreeUpTo n x z :=
  ⟨h.1.trans h'.1, h.2.trans h'.2⟩

/-- A shorter part agrees, too. -/
theorem AgreeUpTo.mono {m : Nat} {x y : List UInt8} (h : AgreeUpTo n x y) (hm : m ≤ n) :
    AgreeUpTo m x y := by
  refine ⟨h.1, ?_⟩
  rw [← Nat.min_eq_left hm, ← take_take, h.2, take_take]

/-- Agreeing buffers have the same windows. -/
theorem AgreeUpTo.window_eq {len : Nat} {x y : List UInt8} (h : AgreeUpTo n x y)
    (hn : pos + len ≤ n) : window x pos len = window y pos len := by
  have hw : ∀ buf : List UInt8, window buf pos len = ((buf.take n).drop pos).take len := by
    intro buf
    rw [window, drop_take, take_take, Nat.min_eq_left (by omega)]
  rw [hw x, hw y, h.2]

/-- Overwrite the bytes at a position; `copy_from_slice` on a part of a buffer. -/
def writeAt (target : List UInt8) (pos : Nat) (bytes : List UInt8) : List UInt8 :=
  target.take pos ++ bytes ++ target.drop (pos + bytes.length)

/-- A write inside a buffer leaves everything before it as it was. -/
theorem agreeUpTo_writeAt (hn : n ≤ pos) (h : pos + bytes.length ≤ target.length) :
    AgreeUpTo n (writeAt target pos bytes) target := by
  constructor
  · simp only [writeAt, length_append, length_take, length_drop]
    omega
  · have hp : n ≤ (target.take pos).length := by
      rw [length_take]
      omega
    rw [writeAt, append_assoc, take_append_of_le_length hp, take_take,
      Nat.min_eq_left hn]

/-- The written bytes are found where they were written. -/
theorem window_writeAt (h : pos ≤ target.length) :
    window (writeAt target pos bytes) pos bytes.length = bytes := by
  have hp : (target.take pos).length = pos := length_take_of_le h
  rw [window, writeAt, append_assoc, drop_left' hp, take_left]

/-- Writing in bounds keeps the length. -/
theorem length_writeAt (h : pos + bytes.length ≤ target.length) :
    (writeAt target pos bytes).length = target.length :=
  (agreeUpTo_writeAt (Nat.le_refl pos) h).1

/-- A write leaves everything after it as it was. -/
theorem window_writeAt_of_le {start : Nat} (h : pos + bytes.length ≤ target.length)
    (hle : pos + bytes.length ≤ start) :
    window (writeAt target pos bytes) start n = window target start n := by
  have hfront : (target.take pos ++ bytes).length = pos + bytes.length := by
    rw [length_append, length_take_of_le (by omega)]
  obtain ⟨k, rfl⟩ := Nat.exists_eq_add_of_le hle
  unfold window writeAt
  rw [← drop_drop, drop_left' hfront, drop_drop]

/-- A write leaves everything before it as it was. -/
theorem window_writeAt_of_ge {start : Nat} (h : pos + bytes.length ≤ target.length)
    (hle : start + n ≤ pos) :
    window (writeAt target pos bytes) start n = window target start n :=
  (agreeUpTo_writeAt hle h).window_eq (Nat.le_refl _)

/-- UTF-8 encoding of a text; `as_bytes`. -/
def ofText (text : String) : List UInt8 := text.toByteArray.data.toList

/-- Text with the given UTF-8 encoding; `from_utf8`. -/
def toText (bytes : List UInt8) : Option String := String.fromUTF8? bytes.toByteArray

/-- Decoding an encoded text gives it back. -/
theorem toText_ofText (text : String) : toText (ofText text) = some text := by
  have h : (ofText text).toByteArray = text.toByteArray := by
    apply ByteArray.ext
    rw [data_toByteArray, ofText, Array.toArray_toList]
  unfold toText String.fromUTF8?
  rw [h, dif_pos text.isValidUTF8]
  rfl

/-- A decoded text has the decoded bytes as its encoding. -/
theorem ofText_of_toText {text : String} (h : toText bytes = some text) :
    ofText text = bytes := by
  unfold toText String.fromUTF8? at h
  split at h
  · obtain rfl := Option.some.inj h
    change bytes.toByteArray.data.toList = bytes
    rw [data_toByteArray]
  · cases h

/-- Conversion of values to bytes and back, which is that of a library. -/
structure Serializer (α : Type) where
  serialize : α → Except String (List UInt8)
  deserialize : List UInt8 → Except String α
  roundTrip : ∀ {value bytes}, serialize value = .ok bytes → deserialize bytes = .ok value

end DoraSpec.Base.Bytes
