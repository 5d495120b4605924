import DoraSpec.Base.Outcome
import DoraSpec.Base.Text

/-!
# Durations

The standard library's `Duration` and the printer `FormattedDuration` of
`libraries/message/src/config.rs:351-365`.
-/

namespace DoraSpec.Message
open Base Base.Text

/-- Whole seconds and the remaining nanoseconds. -/
structure Duration where
  secs : Nat
  nanos : Nat
  secs_lt : secs < 2 ^ 64
  nanos_lt : nanos < 1000000000
  deriving DecidableEq

namespace Duration

/-- Durations are equal whenever both parts are. -/
theorem ext {a b : Duration} (hs : a.secs = b.secs) (hn : a.nanos = b.nanos) : a = b := by
  cases a
  cases b
  cases hs
  cases hn
  rfl

/-- Duration of whole seconds; `Duration::from_secs`. -/
def fromSecs (secs : UInt64) : Duration :=
  ⟨secs.toNat, 0, secs.toNat_lt, by decide⟩

/-- Duration of whole milliseconds; `Duration::from_millis`. -/
def fromMillis (millis : UInt64) : Duration :=
  ⟨millis.toNat / 1000, millis.toNat % 1000 * 1000000,
    Nat.lt_of_le_of_lt (Nat.div_le_self _ _) millis.toNat_lt, by omega⟩

open Float.Model in
/-- Nearest number of nanoseconds of a binary64 number of seconds that is not negative. -/
def nanosOfSecs (secs : Float) : Option Nat :=
  match secs.toModel.unpack with
  | .zero _ => some 0
  | .finite .positive mantissa exponent _ => some (roundScaled 1000000000 mantissa exponent)
  | _ => none

open Float.Model in
/-- The number of seconds is below zero. -/
def isNegative (secs : Float) : Bool :=
  match secs.toModel.unpack with
  | .finite .negative _ _ _ => true
  | .infinity .negative => true
  | _ => false

/-- Duration of a binary64 number of seconds, rounded to the nearest nanosecond;
`Duration::from_secs_f64`. It panics on a negative value and on one that is not a number or
too large. -/
def fromSecsF64 (secs : Float) : Outcome String Duration :=
  if isNegative secs then .panic "cannot convert float seconds to Duration: value is negative"
  else match nanosOfSecs secs with
    | none => .panic "cannot convert float seconds to Duration: value is either too big or NaN"
    | some n =>
      if h : n / 1000000000 < 2 ^ 64 then
        .ok ⟨n / 1000000000, n % 1000000000, h, Nat.mod_lt _ (by decide)⟩
      else .panic "cannot convert float seconds to Duration: value is either too big or NaN"

/-- Milliseconds beyond the whole seconds; `Duration::subsec_millis`. -/
def subsecMillis (d : Duration) : Nat := d.nanos / 1000000

/-- Whole milliseconds; `Duration::as_millis`, a 128-bit number. -/
def asMillis (d : Duration) : Nat := d.secs * 1000 + d.nanos / 1000000

/-- The duration is longer than zero. -/
def Positive (d : Duration) : Prop := 0 < d.secs ∨ 0 < d.nanos

instance (d : Duration) : Decidable d.Positive := inferInstanceAs (Decidable (_ ∨ _))

/-- The duration is a multiple of one millisecond. -/
def WholeMillis (d : Duration) : Prop := d.nanos % 1000000 = 0

instance (d : Duration) : Decidable d.WholeMillis := inferInstanceAs (Decidable (_ = _))

/-- Text of a timer interval; `FormattedDuration::fmt`, `config.rs:353-361`. -/
def format (d : Duration) : String :=
  if d.subsecMillis = 0 then joinOnce '/' "secs" d.secs.repr
  else joinOnce '/' "millis" d.asMillis.repr

/-- The conversion never reports an error. -/
theorem fromSecsF64_ne_err (secs : Float) (message : String) :
    fromSecsF64 secs ≠ .err message := by
  unfold fromSecsF64
  split
  · simp
  · split
    · simp
    · split <;> simp

open Float.Model in
private theorem not_isNegative {secs : Float} {n : Nat} (h : nanosOfSecs secs = some n) :
    isNegative secs = false := by
  unfold nanosOfSecs at h
  unfold isNegative
  split at h
  · next hu => rw [hu]
  · next hu => rw [hu]
  · cases h

/-- The conversion returns exactly the rounded values below `2 ^ 64` seconds. -/
theorem fromSecsF64_eq_ok {secs : Float} {d : Duration} :
    fromSecsF64 secs = .ok d ↔ ∃ n, nanosOfSecs secs = some n ∧ d.secs = n / 1000000000 ∧
      d.nanos = n % 1000000000 := by
  unfold fromSecsF64
  cases hn : nanosOfSecs secs with
  | none => split <;> simp
  | some n =>
    rw [not_isNegative hn, if_neg (by decide)]
    constructor
    · intro h
      simp only at h
      split at h
      · obtain rfl := Outcome.ok.inj h
        exact ⟨n, rfl, rfl, rfl⟩
      · cases h
    · rintro ⟨n', h', hs, hd⟩
      obtain rfl := Option.some.inj h'
      have hlt : n / 1000000000 < 2 ^ 64 := hs ▸ d.secs_lt
      simp only [dif_pos hlt, Outcome.ok.injEq]
      exact ext hs.symm hd.symm

open Float.Model in
private theorem nanosOfSecs_cases {secs : Float} {n : Nat} (h : nanosOfSecs secs = some n) :
    n % 1000000000 = 0 ∨ n ≤ 1000000000 * 2 ^ 52 := by
  unfold nanosOfSecs at h
  split at h
  · obtain rfl := Option.some.inj h
    exact .inl rfl
  · next hu =>
    obtain rfl := Option.some.inj h
    exact roundScaled_cases _ (by decide) (mantissa_lt hu)
  · cases h

/-- A converted duration with a fraction of a second is at most `2 ^ 52` seconds, because larger
binary64 values are whole numbers. -/
theorem secs_le_of_fromSecsF64 {secs : Float} {d : Duration} (h : fromSecsF64 secs = .ok d)
    (hn : d.nanos ≠ 0) : d.secs ≤ 2 ^ 52 := by
  obtain ⟨n, hs, hsecs, hnanos⟩ := fromSecsF64_eq_ok.mp h
  have hc := nanosOfSecs_cases hs
  omega

end Duration
end DoraSpec.Message
