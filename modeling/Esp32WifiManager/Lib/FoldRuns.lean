import Mathlib.Data.List.Infix

/-!
# Runs of a deterministic system

A run is given by its inputs. What holds in all its states is compared with what
each input does in the state that it finds.
-/

namespace FoldRuns

variable {σ ι : Type*} {step : σ → ι → σ} {P : σ → Prop} {ok : σ → ι → Prop} {s : σ} {is : List ι}

/-- `P` holds in every state of the run, the first one included. -/
def Always (step : σ → ι → σ) (P : σ → Prop) : σ → List ι → Prop
  | s, [] => P s
  | s, i :: is => P s ∧ Always step P (step s i) is

/-- Every input of the run satisfies `ok` in the state in which it comes. -/
def EveryStep (step : σ → ι → σ) (ok : σ → ι → Prop) : σ → List ι → Prop
  | _, [] => True
  | s, i :: is => ok s i ∧ EveryStep step ok (step s i) is

/-- The condition on a run is checked input by input. -/
def decideEveryStep (step : σ → ι → σ) [∀ s i, Decidable (ok s i)] :
    ∀ s is, Decidable (EveryStep step ok s is)
  | _, [] => isTrue trivial
  | s, i :: is =>
    let _ := decideEveryStep step (step s i) is
    inferInstanceAs (Decidable (ok s i ∧ EveryStep step ok (step s i) is))

instance [∀ s i, Decidable (ok s i)] : Decidable (EveryStep step ok s is) :=
  decideEveryStep step s is

theorem Always.first (h : Always step P s is) : P s := by
  cases is with
  | nil => exact h
  | cons i is => exact h.1

/-- The states of a run are those after its prefixes. -/
theorem always_iff_prefix :
    Always step P s is ↔ ∀ pre, pre <+: is → P (pre.foldl step s) := by
  induction is generalizing s with
  | nil =>
    simp [Always]
  | cons i is ih =>
    simp only [Always, ih]
    constructor
    · rintro ⟨hs, htail⟩ pre hpre
      cases pre with
      | nil => exact hs
      | cons j pre =>
        obtain ⟨rfl, htl⟩ := List.cons_prefix_cons.mp hpre
        exact htail pre htl
    · intro h
      constructor
      · exact h [] (List.nil_prefix)
      · intro pre hpre
        exact h (i :: pre) (List.cons_prefix_cons.mpr ⟨rfl, hpre⟩)

/-- What every step keeps holds in every state. -/
theorem always_of_step (hstep : ∀ s i, P s → P (step s i)) (h : P s) : Always step P s is := by
  induction is generalizing s with
  | nil => exact h
  | cons i is ih => exact ⟨h, ih (hstep s i h)⟩

/-- An invariant that steps with `ok` inputs keep holds in every state of a run of them. -/
theorem always_of_everyStep (hstep : ∀ s i, P s → ok s i → P (step s i)) (h : P s)
    (hok : EveryStep step ok s is) : Always step P s is := by
  induction is generalizing s with
  | nil => exact h
  | cons i is ih => exact ⟨h, ih (hstep s i h hok.1) hok.2⟩

theorem Always.imp {Q : σ → Prop} (hPQ : ∀ s, P s → Q s) (h : Always step P s is) :
    Always step Q s is := by
  induction is generalizing s with
  | nil => exact hPQ s h
  | cons i is ih => exact ⟨hPQ s h.1, ih h.2⟩

/-- Where a step keeps `P` exactly when its input is `ok`, so does a run. -/
theorem always_iff_everyStep (hstep : ∀ s i, P s → (P (step s i) ↔ ok s i)) (h : P s) :
    Always step P s is ↔ EveryStep step ok s is := by
  induction is generalizing s with
  | nil =>
    simp [Always, EveryStep, h]
  | cons i is ih =>
    simp only [Always, EveryStep, h, true_and]
    constructor
    · intro hrun
      have hnext : P (step s i) := hrun.first
      exact ⟨(hstep s i h).mp hnext, (ih hnext).mp hrun⟩
    · rintro ⟨hok, hrun⟩
      have hnext : P (step s i) := (hstep s i h).mpr hok
      exact (ih hnext).mpr hrun

/-- A condition that does not look at the state is one on the inputs. -/
theorem everyStep_const {ok : ι → Prop} :
    EveryStep step (fun _ i => ok i) s is ↔ ∀ i ∈ is, ok i := by
  induction is generalizing s with
  | nil => simp [EveryStep]
  | cons i is ih => simp [EveryStep, ih]

end FoldRuns
