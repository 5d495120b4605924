import DoraSpec.Base.Outcome

/-!
# Wire formats for atoms

A message is a list of atoms, each of a kind. A wire format writes an atom at a position and reads one
of a given kind back. Readers are composed from reads of atoms. A reader is correct on a list of atoms
if it returns the right value from what any format has written for them; over the format that writes
atoms as they are, a reader can also be asked what it has consumed.
-/

namespace DoraSpec.Base

open List

/-- Format with symbols of type `β` for atoms with values of type `Val kind`. What is written may
depend on the position, as with alignment. -/
structure Wire {κ : Type} (Val : κ → Type) (β : Type) where
  write (pos : Nat) (kind : κ) (value : Val kind) : List β
  read (pos : Nat) (kind : κ) (input : List β) : Except String (Val kind × List β)
  read_write (pos : Nat) (kind : κ) (value : Val kind) (rest : List β) :
    read pos kind (write pos kind value ++ rest) = .ok (value, rest)

/-- Position and remaining input. -/
abbrev Reader (β α : Type) := StateT (Nat × List β) (Outcome String) α

namespace Wire

variable {κ : Type} {Val : κ → Type} {β : Type}

/-- Write atoms one after the other. -/
def writeAll (wire : Wire Val β) (pos : Nat) : List (Sigma Val) → List β
  | [] => []
  | a :: atoms =>
    wire.write pos a.1 a.2 ++ wire.writeAll (pos + (wire.write pos a.1 a.2).length) atoms

private theorem writeAll_append (wire : Wire Val β) (pos : Nat) (as bs : List (Sigma Val)) :
    wire.writeAll pos (as ++ bs) =
      wire.writeAll pos as ++ wire.writeAll (pos + (wire.writeAll pos as).length) bs := by
  induction as generalizing pos with
  | nil => rfl
  | cons a as ih => simp [writeAll, ih, Nat.add_assoc]

/-- Read an atom. -/
def next (wire : Wire Val β) (kind : κ) : Reader β (Val kind) := fun (pos, input) =>
  match wire.read pos kind input with
  | .ok (value, rest) => .ok (value, pos + (input.length - rest.length), rest)
  | .error e => .err e

end Wire

/-- Code that does not read. -/
def Reader.lift {β α : Type} (x : Outcome String α) : Reader β α := fun s => x >>= fun a => .ok (a, s)

/-- Read as many values as remain and convert each. With a limit, one more value than that is an error,
together with the values already read. -/
def Reader.many {β α γ : Type} (limit : Option Nat) (message : String) (item : Reader β α)
    (convert : α → Outcome String γ) (count : Nat) : Nat → Reader β (List γ)
  | 0 => pure []
  | remaining + 1 => do
    let value ← item
    if limit.all (count + 1 ≤ ·) then
      let converted ← Reader.lift (convert value)
      let values ← Reader.many limit message item convert (count + 1) remaining
      pure (converted :: values)
    else Reader.lift (.err message)

/-! ## Correct readers -/

section

variable {κ : Type} {Val : κ → Type} {β α γ : Type} {wire : Wire Val β}

/-- The reader returns the value from what was written for the atoms, and stops behind it. -/
def Reads (wire : Wire Val β) (p : Reader β α) (atoms : List (Sigma Val)) (a : α) : Prop :=
  ∀ pos rest, p (pos, wire.writeAll pos atoms ++ rest) =
    .ok (a, pos + (wire.writeAll pos atoms).length, rest)

/-- A reader that reads nothing. -/
theorem Reads.pure (a : α) : Reads wire (pure a) [] a := fun _ _ => rfl

variable {a : α} {p : Reader β α}

/-- Readers in sequence. -/
theorem Reads.bind {f : α → Reader β γ} {as bs : List (Sigma Val)} {b : γ} (hp : Reads wire p as a)
    (hf : Reads wire (f a) bs b) : Reads wire (p >>= f) (as ++ bs) b := by
  intro pos rest
  have hbind : (p >>= f) (pos, wire.writeAll pos (as ++ bs) ++ rest) =
      p (pos, wire.writeAll pos (as ++ bs) ++ rest) >>= fun r => f r.1 r.2 := rfl
  rw [hbind, wire.writeAll_append, append_assoc, hp, Outcome.ok_bind, hf]
  simp [Nat.add_assoc]

/-- A mapped reader. -/
theorem Reads.bind_pure {f : α → γ} {as : List (Sigma Val)} (hp : Reads wire p as a) :
    Reads wire (p >>= fun a => Pure.pure (f a)) as (f a) := by
  have hbind := hp.bind (f := fun a => Pure.pure (f a)) (Reads.pure (f a))
  rwa [append_nil] at hbind

/-- The next atom is read. -/
theorem reads_next (kind : κ) (value : Val kind) :
    Reads wire (wire.next kind) [⟨kind, value⟩] value := by
  intro pos rest
  simp [Wire.writeAll, Wire.next, wire.read_write]

/-- A computed result reads nothing. -/
theorem reads_lift (a : α) : Reads wire (Reader.lift (.ok a)) [] a := fun _ _ => rfl

/-- A computed result comes first. -/
theorem Reads.lift_bind {f : α → Reader β γ} {atoms : List (Sigma Val)} {b : γ}
    (h : Reads wire (f a) atoms b) : Reads wire (Reader.lift (.ok a) >>= f) atoms b :=
  (reads_lift a).bind h

/-- What was read is converted and wrapped. -/
theorem Reads.bind_lift {δ : Type} {convert : α → Outcome String γ} {f : γ → δ}
    {as : List (Sigma Val)} {c : γ} (hp : Reads wire p as a) (hc : convert a = .ok c) :
    Reads wire (p >>= fun a => Reader.lift (convert a) >>= fun c => Pure.pure (f c)) as (f c) := by
  have hlift : Reads wire (Reader.lift (convert a) >>= fun c => Pure.pure (f c)) [] (f c) := by
    rw [hc]
    exact .lift_bind (.pure (f c))
  have hbind := hp.bind (f := fun a => Reader.lift (convert a) >>= fun c => Pure.pure (f c)) hlift
  rwa [append_nil] at hbind

/-- A list of values is read if its elements are and it is not too long. -/
theorem Reads.many {ι : Type} {limit : Option Nat} {message : String} {item : Reader β α}
    {convert : α → Outcome String γ} {xs : List ι} {atoms : ι → List (Sigma Val)} {result : ι → γ}
    {count : Nat} (h : ∀ x ∈ xs, ∃ a, Reads wire item (atoms x) a ∧ convert a = .ok (result x))
    (hlimit : ∀ max ∈ limit, count + xs.length ≤ max) :
    Reads wire (Reader.many limit message item convert count xs.length) (xs.flatMap atoms)
      (xs.map result) := by
  induction xs generalizing count with
  | nil => exact .pure []
  | cons x xs ih =>
    obtain ⟨⟨a, hread, hconvert⟩, hxs⟩ := forall_mem_cons.mp h
    have hcount : limit.all (count + 1 ≤ ·) := by
      cases limit with
      | none => rfl
      | some max =>
        have := hlimit max rfl
        rw [length_cons] at this
        simp only [Option.all_some, decide_eq_true_eq]
        omega
    refine hread.bind ?_
    rw [if_pos hcount, hconvert]
    refine Reads.lift_bind (ih hxs fun max hmax => ?_).bind_pure
    have := hlimit max hmax
    rw [length_cons] at this
    omega

end

/-! ## What a reader consumes -/

section

variable {κ : Type} {Val : κ → Type} {α γ : Type}

/-- The format that writes atoms as they are. -/
def Wire.plain [DecidableEq κ] (Val : κ → Type) : Wire Val (Sigma Val) where
  write _ kind value := [⟨kind, value⟩]
  read _ kind
    | [] => .error "unexpected end of input"
    | ⟨kind', value⟩ :: rest =>
      if h : kind' = kind then .ok (h ▸ value, rest) else .error "unexpected kind of value"
  read_write _ _ _ _ := by simp

/-- On the plain wire atoms are written as they are. -/
@[simp] theorem Wire.writeAll_plain [DecidableEq κ] (pos : Nat) (atoms : List (Sigma Val)) :
    (Wire.plain Val).writeAll pos atoms = atoms := by
  induction atoms generalizing pos with
  | nil => rfl
  | cons a atoms ih => rw [Wire.writeAll, ih]; rfl

/-- Whatever the reader returns, it and the consumed atoms are related. -/
def Consumes (p : Reader (Sigma Val) α) (P : α → List (Sigma Val) → Prop) : Prop :=
  ∀ pos input a s, p (pos, input) = .ok (a, s) → ∃ atoms, input = atoms ++ s.2 ∧ P a atoms

variable {P : α → List (Sigma Val) → Prop}

/-- A reader that consumes nothing. -/
theorem Consumes.pure {a : α} (h : P a []) :
    Consumes (pure a) P := by
  rintro pos input _ _ ⟨⟩
  exact ⟨[], rfl, h⟩

/-- A computed result consumes nothing. -/
theorem consumes_lift {x : Outcome String α} (h : ∀ a, x = .ok a → P a []) :
    Consumes (Reader.lift x) P := by
  intro pos input a s hx
  obtain ⟨a', ha', hs⟩ := Outcome.bind_eq_ok.mp hx
  cases hs
  exact ⟨[], rfl, h a ha'⟩

/-- Readers in sequence. -/
theorem Consumes.bind {p : Reader (Sigma Val) α} {f : α → Reader (Sigma Val) γ}
    {Q : γ → List (Sigma Val) → Prop} (hp : Consumes p P)
    (hf : ∀ a as, P a as → Consumes (f a) fun b bs => Q b (as ++ bs)) : Consumes (p >>= f) Q := by
  intro pos input b s h
  obtain ⟨⟨a, pos', input'⟩, ha, hb⟩ := Outcome.bind_eq_ok.mp h
  obtain ⟨as, rfl, hP⟩ := hp _ _ _ _ ha
  obtain ⟨bs, rfl, hQ⟩ := hf a as hP _ _ _ _ hb
  exact ⟨as ++ bs, (append_assoc ..).symm, hQ⟩

/-- Rule of consequence. -/
theorem Consumes.imp {p : Reader (Sigma Val) α} {Q : α → List (Sigma Val) → Prop} (h : Consumes p P)
    (hPQ : ∀ a atoms, P a atoms → Q a atoms) : Consumes p Q := by
  intro pos input a s hp
  obtain ⟨atoms, hinput, hP⟩ := h pos input a s hp
  exact ⟨atoms, hinput, hPQ a atoms hP⟩

/-- The next atom is consumed. -/
theorem consumes_next [DecidableEq κ] (kind : κ) :
    Consumes ((Wire.plain Val).next kind) fun value atoms => atoms = [⟨kind, value⟩] := by
  intro pos input value s h
  cases input with
  | nil => cases h
  | cons a rest =>
    obtain ⟨kind', value'⟩ := a
    by_cases hk : kind' = kind
    · subst hk
      simp only [Wire.next, Wire.plain, dite_true] at h
      obtain ⟨rfl, rfl⟩ := Prod.mk.inj (Outcome.ok.inj h)
      exact ⟨_, rfl, rfl⟩
    · simp [Wire.next, Wire.plain, hk] at h

/-- Readers of a list, with the part that each of them consumes. -/
theorem Consumes.mapM {ι : Type} {f : ι → Reader (Sigma Val) α}
    {P : ι → α → List (Sigma Val) → Prop} {l : List ι} (h : ∀ i ∈ l, Consumes (f i) (P i)) :
    Consumes (l.mapM f) fun values atoms => ∃ parts : List (List (Sigma Val) × α),
      List.Forall₂ (fun i part => P i part.2 part.1) l parts ∧ values = parts.map Prod.snd ∧
        atoms = parts.flatMap Prod.fst := by
  induction l with
  | nil => exact .pure ⟨[], .nil, rfl, rfl⟩
  | cons i l ih =>
    obtain ⟨hi, hl⟩ := forall_mem_cons.mp h
    rw [mapM_cons]
    refine hi.bind fun value as hvalue => (ih hl).bind fun values bs hvalues => .pure ?_
    obtain ⟨parts, hparts, rfl, rfl⟩ := hvalues
    exact ⟨(as, value) :: parts, .cons hvalue hparts, rfl, by simp⟩

/-- A list that is read is not too long, and it has consumed what its elements have. -/
theorem Consumes.many {limit : Option Nat} {message : String} {item : Reader (Sigma Val) α}
    {convert : α → Outcome String γ} (h : Consumes item P) {count remaining : Nat}
    (hcount : ∀ max ∈ limit, count ≤ max) :
    Consumes (Reader.many limit message item convert count remaining) fun values atoms =>
      (∀ max ∈ limit, count + remaining ≤ max) ∧ ∃ parts : List (List (Sigma Val) × γ),
        parts.length = remaining ∧ (∀ part ∈ parts, ∃ a, P a part.1 ∧ convert a = .ok part.2) ∧
          values = parts.map Prod.snd ∧ atoms = parts.flatMap Prod.fst := by
  induction remaining generalizing count with
  | zero => exact .pure ⟨hcount, [], rfl, nofun, rfl, rfl⟩
  | succ remaining ih =>
    refine h.bind fun value as hvalue => ?_
    split
    · next hlimit =>
      have hnext : ∀ max ∈ limit, count + 1 ≤ max := by
        rintro max rfl
        simpa using hlimit
      have hlift : Consumes (Reader.lift (convert value)) fun c bs =>
          convert value = .ok c ∧ bs = ([] : List (Sigma Val)) :=
        consumes_lift fun c hc => ⟨hc, rfl⟩
      refine hlift.bind fun c bs hc => (ih hnext).bind fun values cs hvalues => .pure ?_
      obtain ⟨hc, rfl⟩ := hc
      obtain ⟨hmax, parts, hlen, hparts, rfl, rfl⟩ := hvalues
      refine ⟨fun max hm => ?_, (as, c) :: parts, by simp [hlen],
        forall_mem_cons.mpr ⟨⟨value, hvalue, hc⟩, hparts⟩, rfl, by simp⟩
      have := hmax max hm
      omega
    · exact consumes_lift nofun

end

end DoraSpec.Base
