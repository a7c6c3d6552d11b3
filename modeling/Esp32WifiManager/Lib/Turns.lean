import Esp32WifiManager.Lib.Ghost

/-!
# Tasks that take turns

In a system that nothing disturbs a task runs its program to the end before the
next one begins. What every run of such a system comes to is proved on a smaller
system that takes the same steps.
-/

namespace TaskSystem

variable {Op : Type} {Ret : Op → Type} {Reply Request σ : Type}

/-- The machine whose environment gives only the answers that `f` makes. -/
def Machine.answering (M : Machine Op Ret Reply Request σ) (f : Reply → Reply) :
    Machine Op Ret Reply Request σ where
  exec t o c s := M.exec t o (f c) s
  arrive := M.arrive
  serve := M.serve

/-- Task `t` runs a program to its end while the others stand still. -/
def Alone (M : Machine Op Ret Reply Request σ) (t : TaskId) {α : Type} :
    Prog Op Ret α → σ → α → σ → Prop :=
  Runs M t fun _ _ => False

section Alone

variable {M : Machine Op Ret Reply Request σ} {t : TaskId} {α : Type} {s s' : σ}

theorem alone_pure {a b : α} :
    Alone M t (Prog.pure a) s b s' ↔ b = a ∧ s' = s := by
  constructor
  · intro h
    generalize hp : (Prog.pure a : Prog Op Ret α) = p at h
    cases h with
    | pure => exact ⟨(Prog.pure.inj hp).symm, rfl⟩
    | call => exact absurd hp (by simp)
    | others hR => exact hR.elim
  · rintro ⟨rfl, rfl⟩
    exact .pure

theorem alone_call {o : Op} {k : Ret o → Prog Op Ret α} {a : α} :
    Alone M t (.call o k) s a s' ↔
      ∃ c r mid, M.exec t o c s = some (r, mid) ∧ Alone M t (k r) mid a s' := by
  constructor
  · intro h
    cases h with
    | call he hrest => exact ⟨_, _, _, he, hrest⟩
    | others hR => exact hR.elim
  · rintro ⟨c, r, mid, he, hrest⟩
    exact .call he hrest

/-- What a program that is alone can come to, call by call. -/
theorem alone_iff_fold {p : Prog Op Ret α} {a : α} :
    Alone M t p s a s' ↔ p.fold (L := σ → Prop)
      (fun o X s => ∃ c r mid, M.exec t o c s = some (r, mid) ∧ X r mid)
      (fun b last => b = a ∧ last = s') s := by
  induction p generalizing s with
  | pure b =>
    refine alone_pure.trans ?_
    constructor
    · rintro ⟨rfl, rfl⟩
      exact ⟨rfl, rfl⟩
    · rintro ⟨rfl, rfl⟩
      exact ⟨rfl, rfl⟩
  | call o k ih =>
    rw [Prog.fold_call]
    refine alone_call.trans ?_
    constructor
    · rintro ⟨c, r, mid, he, hrest⟩
      exact ⟨c, r, mid, he, (ih r).mp hrest⟩
    · rintro ⟨c, r, mid, he, hrest⟩
      exact ⟨c, r, mid, he, (ih r).mpr hrest⟩

end Alone

/-- A turn of the server, or of a client that one of the requests has started. -/
inductive Turn (M : Machine Op Ret Reply Request σ) (requests : Request → Prop) : σ → σ → Prop
  | serve {p s s'} : M.serve s = some p → Alone M .server p s () s' → Turn M requests s s'
  | arrive {req i p s mid s'} : requests req → M.arrive req s = some (mid, p) →
      Alone M (.client i) p mid () s' → Turn M requests s s'

/-- Every run comes to a state in which `P` holds. -/
inductive Inevitably {σ : Type} (step : σ → σ → Prop) (P : σ → Prop) : σ → Prop
  | now {s} : P s → Inevitably step P s
  | later {s} : (∃ s', step s s') → (∀ s', step s s' → Inevitably step P s') → Inevitably step P s

namespace Inevitably

variable {τ : Type} {step : σ → σ → Prop} {P : σ → Prop} {s : σ}

/-- What the steps keep holds of a state that every run comes to. -/
theorem exists_of_keeps {I : σ → Prop} (hI : ∀ s s', I s → step s s' → I s')
    (h : Inevitably step P s) (hs : I s) : ∃ s', I s' ∧ P s' := by
  induction h with
  | now hP => exact ⟨_, hs, hP⟩
  | later hnext _ ih =>
    obtain ⟨s', hstep⟩ := hnext
    exact ih s' hstep (hI _ _ hs hstep)

/-- The steps go on until `P` holds, and each takes a little off a measure. -/
theorem of_measure {I : σ → Prop} {m : σ → ℕ} (hnext : ∀ s, I s → ¬ P s → ∃ s', step s s')
    (hI : ∀ s s', I s → ¬ P s → step s s' → I s' ∧ m s' < m s) (hs : I s) : Inevitably step P s := by
  generalize hn : m s = n
  induction n using Nat.strongRecOn generalizing s with
  | ind n ih =>
    by_cases hP : P s
    · exact .now hP
    · refine .later (hnext s hs hP) fun s' hstep => ?_
      obtain ⟨hs', hlt⟩ := hI s s' hs hP hstep
      exact ih _ (hn ▸ hlt) hs' rfl

/-- `R` relates the states of two systems that take the same steps. -/
structure Bisimulation (step : σ → σ → Prop) (astep : τ → τ → Prop) (R : τ → σ → Prop) : Prop where
  forth : ∀ a s s', R a s → step s s' → ∃ a', astep a a' ∧ R a' s'
  back : ∀ a s a', R a s → astep a a' → ∃ s', step s s' ∧ R a' s'

variable {astep : τ → τ → Prop} {R : τ → σ → Prop} {Q : τ → Prop} {a : τ}

/-- The second system has one step at most, which is that of the first. -/
theorem bisimulation_of_next {next : τ → Option τ}
    (hnone : ∀ a s, R a s → next a = none → ∀ s', ¬ step s s')
    (hsome : ∀ a s a', R a s → next a = some a' → (∃ s', step s s') ∧ ∀ s', step s s' → R a' s') :
    Bisimulation step (fun a a' => next a = some a') R where
  forth a s s' hs hstep := by
    cases ha : next a with
    | none => exact absurd hstep (hnone a s hs ha s')
    | some a' => exact ⟨a', rfl, (hsome a s a' hs ha).2 s' hstep⟩
  back a s a' hs ha := by
    obtain ⟨⟨s', hstep⟩, hall⟩ := hsome a s a' hs ha
    exact ⟨s', hstep, hall s' hstep⟩

theorem of_abstract (hR : Bisimulation step astep R) (hPQ : ∀ a s, R a s → Q a → P s)
    (h : Inevitably astep Q a) (hs : R a s) : Inevitably step P s := by
  induction h generalizing s with
  | now hQ => exact .now (hPQ _ _ hs hQ)
  | later hnext _ ih =>
    obtain ⟨a', ha⟩ := hnext
    obtain ⟨s', hstep, -⟩ := hR.back _ _ _ hs ha
    refine .later ⟨s', hstep⟩ fun s' hstep => ?_
    obtain ⟨a', ha, hs'⟩ := hR.forth _ _ _ hs hstep
    exact ih a' ha hs'

theorem Bisimulation.swap (hR : Bisimulation step astep R) :
    Bisimulation astep step fun s a => R a s where
  forth s a a' hs ha := hR.back a s a' hs ha
  back s a s' hs hstep := hR.forth a s s' hs hstep

/-- The runs of the one system come to it if and only if those of the other do. -/
theorem iff_abstract (hR : Bisimulation step astep R) (hPQ : ∀ a s, R a s → (P s ↔ Q a))
    (hs : R a s) : Inevitably step P s ↔ Inevitably astep Q a := by
  constructor
  · intro h
    exact of_abstract hR.swap (fun s a hs => (hPQ a s hs).mp) h hs
  · intro h
    exact of_abstract hR (fun a s hs => (hPQ a s hs).mpr) h hs

end Inevitably

end TaskSystem
