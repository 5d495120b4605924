import Mathlib.Data.List.Forall2

/-!
# Runs of deterministic machines

A machine is a total step from a state and an input to a state and an output. A run feeds it a
list of inputs. Invariants, with or without the outputs so far, are proved for one step and
hold along every run.
-/

namespace DoraSpec.Base.Machine

universe u v w

variable {σ : Type u} {ι : Type v} {ω : Type w} (step : σ → ι → σ × ω)

/-- Final state and outputs, oldest first, of feeding the inputs from left to right. -/
def run (s : σ) : List ι → σ × List ω
  | [] => (s, [])
  | i :: is => ((run (step s i).1 is).1, (step s i).2 :: (run (step s i).1 is).2)

/-- Every step of the run meets `P`, which sees the state before the step and the input. -/
def Along (P : σ → ι → Prop) (s : σ) : List ι → Prop
  | [] => True
  | i :: is => P s i ∧ Along P (step s i).1 is

instance decidableAlong {P : σ → ι → Prop} [∀ s i, Decidable (P s i)] (s : σ) :
    (is : List ι) → Decidable (Along step P s is)
  | [] => inferInstanceAs (Decidable True)
  | i :: is => @instDecidableAnd _ _ _ (decidableAlong (step s i).1 is)

/-- The empty run. -/
@[simp] theorem run_nil (s : σ) : run step s [] = (s, []) := rfl

/-- A run starts with its first step. -/
@[simp] theorem run_cons (s : σ) (i : ι) (is : List ι) :
    run step s (i :: is) =
      ((run step (step s i).1 is).1, (step s i).2 :: (run step (step s i).1 is).2) := rfl

/-- Feeding more inputs goes on from the state that was reached. -/
theorem run_append_fst (s : σ) (is js : List ι) :
    (run step s (is ++ js)).1 = (run step (run step s is).1 js).1 := by
  induction is generalizing s with
  | nil => rfl
  | cons i is ih => exact ih (step s i).1

variable {P : σ → ι → Prop} {Q : σ → ι → Prop}

/-- A condition that every input meets in every state holds along the run. -/
theorem along_of_forall (is : List ι) (h : ∀ i ∈ is, ∀ s, P s i) (s : σ) :
    Along step P s is := by
  induction is generalizing s with
  | nil => exact True.intro
  | cons i is ih =>
    exact ⟨h i List.mem_cons_self s, ih (fun j hj => h j (List.mem_cons_of_mem i hj)) _⟩

/-- Relations between the outputs so far and the state are proved for one step. -/
theorem history_invariant (R : List ω → σ → Prop)
    (hstep : ∀ outs s i, R outs s → P s i → R (outs ++ [(step s i).2]) (step s i).1) (outs : List ω)
    (s : σ) (is : List ι) (h : R outs s) (ha : Along step P s is) :
    R (outs ++ (run step s is).2) (run step s is).1 := by
  induction is generalizing outs s with
  | nil => simpa using h
  | cons i is ih =>
    have := ih (outs ++ [(step s i).2]) (step s i).1 (hstep outs s i h ha.1) ha.2
    simpa using this

/-- Invariants of the state are proved for one step. -/
theorem invariant (Inv : σ → Prop) (hstep : ∀ s i, Inv s → P s i → Inv (step s i).1) (s : σ)
    (is : List ι) (h : Inv s) (ha : Along step P s is) : Inv (run step s is).1 :=
  history_invariant step (fun _ s => Inv s) (fun _ s i => hstep s i) [] s is h ha

/-- Invariants that every step keeps. -/
theorem always (Inv : σ → Prop) (hstep : ∀ s i, Inv s → Inv (step s i).1) {s : σ} (h : Inv s)
    (is : List ι) : Inv (run step s is).1 :=
  invariant step (P := fun _ _ => True) Inv (fun s i hs _ => hstep s i hs) s is h
    (along_of_forall step is (fun _ _ _ => True.intro) s)

/-- A condition on the steps, with an invariant that it keeps, gives another one on the steps. -/
theorem Along.imp (Inv : σ → Prop) (hstep : ∀ s i, Inv s → P s i → Q s i ∧ Inv (step s i).1) {s : σ}
    {is : List ι} (h : Inv s) (ha : Along step P s is) : Along step Q s is := by
  induction is generalizing s with
  | nil => exact True.intro
  | cons i is ih =>
    obtain ⟨hq, hnext⟩ := hstep s i h ha.1
    exact ⟨hq, ih hnext ha.2⟩

/-- A condition that is exact for the invariant of one step is exact for that of runs. -/
theorem along_iff_forall_prefix (Inv : σ → Prop) (hstep : ∀ s i, Inv s → (P s i ↔ Inv (step s i).1))
    {s : σ} (is : List ι) (h : Inv s) :
    Along step P s is ↔ ∀ pre, pre <+: is → Inv (run step s pre).1 := by
  induction is generalizing s with
  | nil => simp [Along, h]
  | cons i is ih =>
    constructor
    · intro ⟨hi, ha⟩ pre hpre
      obtain rfl | ⟨rest, rfl, hrest⟩ := List.prefix_cons_iff.mp hpre
      · exact h
      · exact (ih ((hstep s i h).mp hi)).mp ha rest hrest
    · intro hall
      have hnext : Inv (step s i).1 := hall [i] (by simp)
      refine ⟨(hstep s i h).mpr hnext, (ih hnext).mpr fun pre hpre => ?_⟩
      exact hall (i :: pre) (by simpa using hpre)

/-- Machines that return related outputs and stay related on every input do so along every run. -/
theorem simulation {τ : Type u} {ω' : Type w} (step' : τ → ι → τ × ω') {P : ι → Prop}
    (R : σ → τ → Prop) (Same : ω → ω' → Prop)
    (hstep : ∀ s t i, R s t → P i →
      Same (step s i).2 (step' t i).2 ∧ R (step s i).1 (step' t i).1)
    (s : σ) (t : τ) (is : List ι) (h : R s t) (hP : ∀ i ∈ is, P i) :
    List.Forall₂ Same (run step s is).2 (run step' t is).2 := by
  induction is generalizing s t with
  | nil => exact .nil
  | cons i is ih =>
    obtain ⟨hsame, hrel⟩ := hstep s t i h (hP i List.mem_cons_self)
    exact .cons hsame (ih _ _ hrel fun j hj => hP j (List.mem_cons_of_mem i hj))

/-- A queue that gets shorter takes nothing from the others. -/
theorem update_subset {κ α : Type} [DecidableEq κ] {f : κ → List α} {k : κ} {l : List α}
    (h : l ⊆ f k) (other : κ) : Function.update f k l other ⊆ f other := by
  by_cases hother : other = k
  · subst hother
    rwa [Function.update_self]
  · rw [Function.update_of_ne hother]
    exact List.Subset.refl _

end DoraSpec.Base.Machine
