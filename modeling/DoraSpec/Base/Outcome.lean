import Mathlib.Data.List.Forall2

/-!
# Outcomes of code that may fail or panic

Rust code reports a failure by `Err` and aborts by a panic; the two are kept apart. Code that
never panics is in `Except`.
Sequencing stops at the first failure or panic and never turns one into the other.
-/

namespace DoraSpec.Base

open List

universe u v w

/-- A returned value, a reported error, or a panic with its message. -/
inductive Outcome (ε : Type u) (α : Type v) where
  | ok (value : α)
  | err (error : ε)
  | panic (message : String)
  deriving DecidableEq

namespace Outcome

variable {ε : Type u} {α : Type v} {β : Type w}

/-- Sequencing: only a returned value reaches the continuation. -/
def bind : Outcome ε α → (α → Outcome ε β) → Outcome ε β
  | ok a, f => f a
  | err e, _ => err e
  | panic m, _ => panic m

instance : Monad (Outcome.{u, v} ε) where
  pure := ok
  bind := bind

/-- The code neither returned nor reported an error. -/
def Panics : Outcome ε α → Prop
  | panic _ => True
  | _ => False

instance (o : Outcome ε α) : Decidable o.Panics :=
  match o with
  | ok _ => .isFalse id
  | err _ => .isFalse id
  | panic _ => .isTrue True.intro

/-- The code returned. -/
def isOk : Outcome ε α → Bool
  | ok _ => true
  | _ => false

variable {x : Outcome ε α}

/-- Attach an error to an absent value; `Option::ok_or`. -/
def okOr (error : ε) : Option α → Outcome ε α
  | some a => ok a
  | none => err error

/-- Change the error; `Result::map_err`. -/
def mapErr {ε' : Type*} (f : ε → ε') : Outcome ε α → Outcome ε' α
  | ok a => ok a
  | err e => err (f e)
  | panic m => panic m

/-- Result of code without panics. -/
def ofExcept : Except ε α → Outcome ε α
  | .ok a => ok a
  | .error e => err e

/-- Result of code that panics with the text of its error. -/
def ofPanics : Except String α → Outcome ε α
  | .ok a => ok a
  | .error message => panic message

/-- `pure` returns. -/
@[simp] theorem pure_eq_ok (a : α) : (pure a : Outcome ε α) = ok a := rfl

section Bind

variable {γ : Type v}

/-- A result is passed on. -/
@[simp] theorem ok_bind (a : α) (f : α → Outcome ε γ) : (ok a >>= f) = f a := rfl

/-- An error skips what follows. -/
@[simp] theorem err_bind (e : ε) (f : α → Outcome ε γ) : (err e >>= f) = err e := rfl

/-- A panic skips what follows. -/
@[simp] theorem panic_bind (m : String) (f : α → Outcome ε γ) :
    (panic m >>= f) = panic m := rfl

variable {x : Outcome ε α}

/-- A panic of the first part is a panic of the sequence. -/
theorem Panics.bind (h : x.Panics) (f : α → Outcome ε γ) :
    (x >>= f).Panics := by
  cases x with
  | ok | err => exact absurd h id
  | panic m => exact True.intro

/-- A sequence returns exactly when both of its parts return. -/
theorem bind_eq_ok {f : α → Outcome ε γ} {c : γ} :
    (x >>= f) = ok c ↔ ∃ a, x = ok a ∧ f a = ok c := by
  cases x with
  | ok | err | panic => simp

/-- Results of a map. -/
theorem map_eq_ok {f : α → γ} {c : γ} :
    f <$> x = ok c ↔ ∃ a, x = ok a ∧ f a = c := by
  cases x with
  | ok | err | panic => simp [Functor.map, bind]

end Bind

instance : LawfulMonad (Outcome.{u, v} ε) :=
  LawfulMonad.mk' _ (fun x => by cases x <;> rfl) (fun _ _ => rfl) (fun x _ _ => by cases x <;> rfl)

/-- A sequence panics when its first part does, or its second part on what the first returned. -/
theorem bind_panics {γ : Type v} {f : α → Outcome ε γ} :
    (x >>= f).Panics ↔ x.Panics ∨ ∃ a, x = ok a ∧ (f a).Panics := by
  cases x with
  | ok | err | panic => simp [Panics]

/-- A result is no panic. -/
@[simp] theorem not_panics_ok (a : α) : ¬ (ok a : Outcome ε α).Panics := id

/-- An error is no panic. -/
@[simp] theorem not_panics_err (e : ε) : ¬ (err e : Outcome ε α).Panics := id

/-- Returning a value computed from the result adds no panic. -/
theorem bind_ok_panics {γ : Type v} {g : α → γ} :
    (x >>= fun a => ok (g a)).Panics ↔ x.Panics := by
  simp [bind_panics]

/-- `ok_or` returns the value of `some`. -/
theorem okOr_eq_ok {e : ε} {o : Option α} {a : α} : okOr e o = ok a ↔ o = some a := by
  cases o <;> simp [okOr]

/-- `ok_or` does not panic. -/
theorem okOr_not_panics (e : ε) (o : Option α) : ¬ (okOr e o).Panics := by
  cases o <;> exact id

/-- `map_err` keeps results. -/
@[simp] theorem mapErr_eq_ok {ε' : Type*} {f : ε → ε'} {a : α} :
    x.mapErr f = ok a ↔ x = ok a := by
  cases x <;> simp [mapErr]

/-- Results stay results. -/
theorem ofExcept_eq_ok {x : Except ε α} {a : α} : ofExcept x = ok a ↔ x = .ok a := by
  cases x <;> simp [ofExcept]

/-- Code that panics returns what it returns. -/
theorem ofPanics_eq_ok {x : Except String α} {a : α} :
    (ofPanics x : Outcome ε α) = ok a ↔ x = .ok a := by
  cases x <;> simp [ofPanics]

/-- What returns an error does not panic. -/
theorem ofExcept_not_panics (x : Except ε α) : ¬ (ofExcept x).Panics := by
  cases x <;> exact id

/-! ## Traversals

A traversal evaluates its elements from left to right and stops at the first that does not
return. -/

section Traverse

variable {ι : Type w} {γ : Type v}

/-- Some element panics, and every element before it returns. -/
def FirstPanics (f : ι → Outcome ε γ) (l : List ι) : Prop :=
  ∃ before x after, l = before ++ x :: after ∧ (∀ b ∈ before, ∃ c, f b = ok c) ∧ (f x).Panics

private theorem firstPanics_nil (f : ι → Outcome ε γ) : ¬ FirstPanics f [] := by
  rintro ⟨before, x, after, h, -⟩
  cases before <;> cases h

variable {l : List ι} {r : List γ} {f : ι → Outcome ε γ} {x : Outcome ε γ}

private theorem firstPanics_cons {i : ι} :
    FirstPanics f (i :: l) ↔ (f i).Panics ∨ (∃ c, f i = ok c) ∧ FirstPanics f l := by
  constructor
  · rintro ⟨before, x, after, h, hb, hx⟩
    cases before with
    | nil =>
      cases h
      exact .inl hx
    | cons b before =>
      cases h
      exact .inr ⟨hb _ mem_cons_self,
        before, x, after, rfl, fun c hc => hb c (mem_cons_of_mem _ hc), hx⟩
  · rintro (h | ⟨hi, before, x, after, rfl, hb, hx⟩)
    · exact ⟨[], i, l, rfl, by simp, h⟩
    · exact ⟨i :: before, x, after, rfl, forall_mem_cons.mpr ⟨hi, hb⟩, hx⟩

/-- A traversal returns exactly the list of what its elements return. -/
theorem mapM_eq_ok : l.mapM f = ok r ↔ List.Forall₂ (fun a b => f a = ok b) l r := by
  induction l generalizing r with
  | nil => simp [eq_comm]
  | cons i l ih =>
    rw [mapM_cons, forall₂_cons_left_iff]
    simp only [bind_eq_ok, ih, pure_eq_ok, ok.injEq]
    constructor
    · rintro ⟨b, hb, bs, hbs, rfl⟩
      exact ⟨b, bs, hb, hbs, rfl⟩
    · rintro ⟨b, bs, hb, hbs, rfl⟩
      exact ⟨b, hb, bs, hbs, rfl⟩

/-- A traversal that returns maps the list if every element that returns does. -/
theorem eq_map_of_mapM {g : ι → γ} (hf : ∀ i c, f i = ok c → c = g i)
    (h : l.mapM f = ok r) : r = l.map g := by
  have hr := mapM_eq_ok.mp h
  induction hr with
  | nil => rfl
  | cons hi hl ih => rw [map_cons, ← hf _ _ hi, ← ih (mapM_eq_ok.mpr hl)]

/-- Every result comes from an element. -/
theorem exists_of_mem_mapM (h : l.mapM f = ok r) {c : γ} (hc : c ∈ r) : ∃ i ∈ l, f i = ok c := by
  have hr := mapM_eq_ok.mp h
  clear h
  induction hr with
  | nil => cases hc
  | @cons i _ _ _ hi _ ih =>
    rcases mem_cons.mp hc with rfl | hc
    · exact ⟨i, mem_cons_self, hi⟩
    · obtain ⟨j, hj, h⟩ := ih hc
      exact ⟨j, mem_cons_of_mem i hj, h⟩

/-- A traversal that returns does so on every element. -/
theorem returns_of_mem_mapM (h : l.mapM f = ok r) {i : ι} (hi : i ∈ l) : ∃ c, f i = ok c := by
  have hr := mapM_eq_ok.mp h
  clear h
  induction hr with
  | nil => cases hi
  | @cons _ c _ _ hc _ ih =>
    rcases mem_cons.mp hi with rfl | hi
    · exact ⟨c, hc⟩
    · exact ih hi

/-- Traversals that follow each other on every element do so as a whole. -/
theorem exists_mapM_eq_ok {δ : Type v} {f' : ι → Outcome ε δ} {k : δ → γ}
    (hf : ∀ i c, f i = ok c → ∃ d, f' i = ok d ∧ c = k d) (h : l.mapM f = ok r) :
    ∃ r', l.mapM f' = ok r' ∧ r = r'.map k := by
  have hr := mapM_eq_ok.mp h
  clear h
  induction hr with
  | nil => exact ⟨[], rfl, rfl⟩
  | cons hi _ ih =>
    obtain ⟨d, hd, rfl⟩ := hf _ _ hi
    obtain ⟨r', hr', rfl⟩ := ih
    exact ⟨d :: r', mapM_eq_ok.mpr (.cons hd (mapM_eq_ok.mp hr')), rfl⟩

/-- Run code on a value that may be absent. -/
def mapOption (f : ι → Outcome ε γ) : Option ι → Outcome ε (Option γ)
  | none => ok none
  | some i => f i >>= fun c => ok (some c)

/-- What is optional is mapped. -/
theorem eq_map_of_mapOption {g : ι → γ} {o : Option ι} {r : Option γ}
    (hf : ∀ i c, f i = ok c → c = g i) (h : mapOption f o = ok r) : r = o.map g := by
  cases o with
  | none =>
    cases h
    rfl
  | some i =>
    obtain ⟨c, hc, hr⟩ := bind_eq_ok.mp h
    cases hr
    rw [hf i c hc, Option.map_some]

/-- A traversal panics at the first element that does. -/
theorem mapM_panics : (l.mapM f).Panics ↔ FirstPanics f l := by
  induction l with
  | nil => simpa [Panics] using firstPanics_nil f
  | cons i l ih =>
    rw [mapM_cons, firstPanics_cons, bind_panics]
    have hcons (c : γ) : (l.mapM f >>= fun cs => pure (c :: cs)).Panics ↔ FirstPanics f l := by
      rw [← ih]
      exact bind_ok_panics
    simp only [hcons, exists_and_right]

/-- The code reports no error: it returns or panics. -/
def NeverErrs (x : Outcome ε γ) : Prop := x.Panics ∨ ∃ c, x = ok c

/-- A result is no error. -/
theorem neverErrs_ok (c : γ) : (ok c : Outcome ε γ).NeverErrs := .inr ⟨c, rfl⟩

private theorem NeverErrs.bind {β : Type v} {f : γ → Outcome ε β} (hx : x.NeverErrs)
    (hf : ∀ c, (f c).NeverErrs) : (x >>= f).NeverErrs := by
  rcases hx with hx | ⟨c, rfl⟩
  · exact .inl (hx.bind f)
  · exact hf c

/-- Mapping a result gives no error. -/
theorem NeverErrs.bind_ok {β : Type v} (hx : x.NeverErrs) (g : γ → β) :
    (x >>= fun c => ok (g c)).NeverErrs :=
  hx.bind fun c => neverErrs_ok (g c)

/-- Code that reports no error returns exactly when it does not panic. -/
theorem NeverErrs.returns_iff (hx : x.NeverErrs) :
    (∃ c, x = ok c) ↔ ¬ x.Panics := by
  constructor
  · rintro ⟨c, rfl⟩
    exact id
  · exact fun h => hx.resolve_left h

/-- A traversal without errors. -/
theorem NeverErrs.mapM (hf : ∀ i, (f i).NeverErrs) (l : List ι) : (l.mapM f).NeverErrs := by
  induction l with
  | nil => exact neverErrs_ok []
  | cons i l ih =>
    rw [mapM_cons]
    exact (hf i).bind fun c => ih.bind_ok (c :: ·)

/-- Without errors, a traversal panics when any of its elements does. -/
theorem mapM_panics_of_neverErrs (hf : ∀ i, (f i).NeverErrs)
    (l : List ι) : (l.mapM f).Panics ↔ ∃ i ∈ l, (f i).Panics := by
  rw [mapM_panics]
  induction l with
  | nil => simpa using firstPanics_nil f
  | cons i l ih =>
    rw [firstPanics_cons, ih, (hf i).returns_iff, exists_mem_cons_iff]
    tauto

end Traverse

section ForM

variable {ι : Type w} {f : ι → Outcome ε PUnit}

/-- A loop returns if all rounds do. -/
theorem forM_eq_ok {l : List ι} : l.forM f = ok ⟨⟩ ↔ ∀ i ∈ l, f i = ok ⟨⟩ := by
  induction l with
  | nil => simp
  | cons i l ih =>
    rw [forall_mem_cons, ← ih]
    change (f i >>= fun _ => l.forM f) = ok ⟨⟩ ↔ _
    rw [bind_eq_ok]
    constructor
    · rintro ⟨⟨⟩, hi, hl⟩
      exact ⟨hi, hl⟩
    · rintro ⟨hi, hl⟩
      exact ⟨⟨⟩, hi, hl⟩

/-- A loop panics at the first element that does. -/
theorem forM_panics {l : List ι} : (l.forM f).Panics ↔ FirstPanics f l := by
  induction l with
  | nil => simpa [Panics] using firstPanics_nil f
  | cons i l ih =>
    rw [firstPanics_cons, ← ih]
    change (f i >>= fun _ => l.forM f).Panics ↔ _
    rw [bind_panics, exists_and_right]

end ForM

/-! ## What code may end with -/

/-- The code returns a value of one kind, reports an error of one kind or, if allowed, panics. -/
def EndsWith (Q : α → Prop) (E : ε → Prop) (P : Prop) : Outcome ε α → Prop
  | ok a => Q a
  | err e => E e
  | panic _ => P

namespace EndsWith

variable {γ : Type v} {Q : α → Prop} {E : ε → Prop} {P : Prop} {x : Outcome ε α}

/-- Rule of consequence. -/
theorem imp {Q' : α → Prop} (hx : x.EndsWith Q E P) (h : ∀ a, Q a → Q' a) :
    x.EndsWith Q' E P := by
  cases x with
  | ok a => exact h a hx
  | err | panic => exact hx

/-- The result may be named. -/
theorem self (hx : x.EndsWith Q E P) :
    x.EndsWith (fun a => x = ok a ∧ Q a) E P := by
  cases x with
  | ok a => exact ⟨rfl, hx⟩
  | err | panic => exact hx

/-- Rule of composition. -/
theorem bind {f : α → Outcome ε γ} {R : γ → Prop} (hx : x.EndsWith Q E P)
    (hf : ∀ a, Q a → (f a).EndsWith R E P) : (x >>= f).EndsWith R E P := by
  cases x with
  | ok a => exact hf a hx
  | err | panic => exact hx

/-- Rule for `ok_or`. -/
theorem okOr {e : ε} (he : E e) (o : Option α) : (okOr e o).EndsWith (· ∈ o) E P := by
  cases o with
  | none => exact he
  | some a => exact rfl

/-- Each result of a traversal is that of an element. -/
theorem mapM {ι : Type w} {f : ι → Outcome ε γ} {l : List ι} {R : ι → γ → Prop}
    (hf : ∀ i ∈ l, (f i).EndsWith (R i) E P) :
    (l.mapM f).EndsWith (fun r => ∀ c ∈ r, ∃ i ∈ l, R i c) E P := by
  induction l with
  | nil => exact fun c hc => by cases hc
  | cons i l ih =>
    rw [mapM_cons]
    refine (hf i mem_cons_self).bind fun c hc => ?_
    refine (ih fun j hj => hf j (mem_cons_of_mem i hj)).bind fun cs hcs => ?_
    rintro d (_ | ⟨_, hd⟩)
    · exact ⟨i, mem_cons_self, hc⟩
    · obtain ⟨j, hj, h⟩ := hcs d hd
      exact ⟨j, mem_cons_of_mem i hj, h⟩

/-- Rule for loops. -/
theorem forM {ι : Type w} {f : ι → Outcome ε PUnit} {l : List ι}
    (hf : ∀ i ∈ l, (f i).EndsWith (fun _ => True) E P) :
    (l.forM f).EndsWith (fun _ => True) E P := by
  induction l with
  | nil => exact True.intro
  | cons i l ih =>
    change (f i >>= fun _ => l.forM f).EndsWith _ E P
    exact (hf i mem_cons_self).bind fun _ _ => ih fun j hj => hf j (mem_cons_of_mem i hj)

/-- Rule for what is optional. -/
theorem mapOption {ι : Type w} {f : ι → Outcome ε γ} (hf : ∀ i, (f i).EndsWith (fun _ => True) E P)
    (o : Option ι) : (mapOption f o).EndsWith (fun _ => True) E P := by
  cases o with
  | none => exact True.intro
  | some i => exact (hf i).bind fun _ _ => True.intro

end EndsWith

end Outcome

/-- Fallible code without panics returns exactly when both of its parts return. -/
theorem except_bind_eq_ok {ε : Type u} {α β : Type v} {x : Except ε α} {f : α → Except ε β}
    {c : β} : (x >>= f) = .ok c ↔ ∃ a, x = .ok a ∧ f a = .ok c := by
  cases x with
  | error | ok => simp [bind, Except.bind]

end DoraSpec.Base
