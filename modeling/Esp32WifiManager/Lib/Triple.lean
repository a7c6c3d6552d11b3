import Esp32WifiManager.Lib.TaskSystem

/-!
# Runs of one task

One task runs a program while the others may change the state between its calls.
Triples speak about such runs, with assertions that the other tasks keep.
-/

namespace TaskSystem

variable {Op : Type} {Ret : Op → Type} {Reply Request σ : Type}

/-- Task `t` runs a program from one state to another. Before each call and at the end the other
tasks may change the state as `R` allows. -/
inductive Runs (M : Machine Op Ret Reply Request σ) (t : TaskId) (R : σ → σ → Prop) {α : Type} :
    Prog Op Ret α → σ → α → σ → Prop
  | pure {a s} : Runs M t R (.pure a) s a s
  | call {o k c r s s' a s''} :
      M.exec t o c s = some (r, s') → Runs M t R (k r) s' a s'' → Runs M t R (.call o k) s a s''
  | others {p s s' a s''} : R s s' → Runs M t R p s' a s'' → Runs M t R p s a s''

/-- The other tasks keep the assertion. -/
def Stable (R : σ → σ → Prop) (P : σ → Prop) : Prop := ∀ s s', R s s' → P s → P s'

/-- From a state in which `P` holds the program ends in a state in which `Q` holds of its result. -/
def Triple (M : Machine Op Ret Reply Request σ) (t : TaskId) (R : σ → σ → Prop) {α : Type}
    (P : σ → Prop) (p : Prog Op Ret α) (Q : α → σ → Prop) : Prop :=
  ∀ s a s', P s → Runs M t R p s a s' → Q a s'

/-- The program run with these answers, alone. -/
def Prog.eval (M : Machine Op Ret Reply Request σ) (t : TaskId) {α : Type} :
    List Reply → Prog Op Ret α → σ → Option (α × σ)
  | _, .pure a, s => some (a, s)
  | [], .call _ _, _ => none
  | c :: cs, .call o k, s => (M.exec t o c s).bind fun x => (k x.1).eval M t cs x.2

variable {M : Machine Op Ret Reply Request σ} {t : TaskId} {R : σ → σ → Prop} {α β : Type}

theorem runs_of_eval {cs : List Reply} {p : Prog Op Ret α} {s s' : σ} {a : α}
    (h : p.eval M t cs s = some (a, s')) : Runs M t R p s a s' := by
  induction cs generalizing p s with
  | nil =>
    cases p with
    | pure b =>
      obtain ⟨rfl, rfl⟩ := Prod.mk.inj (Option.some.inj h)
      exact .pure
    | call o k => exact absurd h (by simp [Prog.eval])
  | cons c cs ih =>
    cases p with
    | pure b =>
      obtain ⟨rfl, rfl⟩ := Prod.mk.inj (Option.some.inj h)
      exact .pure
    | call o k =>
      obtain ⟨⟨r, mid⟩, he, hrest⟩ := Option.bind_eq_some_iff.mp h
      exact .call he (ih hrest)

theorem runs_bind {p : Prog Op Ret α} {f : α → Prog Op Ret β} {s s'' : σ} {b : β}
    (h : Runs M t R (p >>= f) s b s'') :
    ∃ a s', Runs M t R p s a s' ∧ Runs M t R (f a) s' b s'' := by
  generalize hq : p >>= f = q at h
  induction h generalizing p with
  | pure =>
    cases p with
    | pure a =>
      refine ⟨a, _, .pure, ?_⟩
      rw [show f a = _ from hq]
      exact .pure
    | call o k => exact absurd hq nofun
  | @call o k c r s s' b s'' he hrest ih =>
    cases p with
    | pure a =>
      refine ⟨a, _, .pure, ?_⟩
      rw [show f a = _ from hq]
      exact .call he hrest
    | call o' k' =>
      obtain ⟨rfl, hk⟩ := Prog.call.inj hq
      obtain ⟨a, mid, hp, hf⟩ := ih (congrFun (eq_of_heq hk) r)
      exact ⟨a, mid, .call he hp, hf⟩
  | others hR _ ih =>
    obtain ⟨a, mid, hp, hf⟩ := ih hq
    exact ⟨a, mid, .others hR hp, hf⟩

section Rules

variable {P : σ → Prop} {Q : α → σ → Prop}

theorem triple_pure {a : α} (hP : Stable R P) (h : ∀ s, P s → Q a s) :
    Triple M t R P (.pure a) Q := by
  intro s b s' hs hrun
  generalize hp : (Prog.pure a : Prog Op Ret α) = p at hrun
  induction hrun with
  | pure =>
    obtain rfl := Prog.pure.inj hp
    exact h _ hs
  | call => exact absurd hp nofun
  | others hR _ ih => exact ih (hP _ _ hR hs) hp

theorem triple_call {o : Op} {k : Ret o → Prog Op Ret α} {S : Ret o → σ → Prop} (hP : Stable R P)
    (hcall : ∀ s c r s', P s → M.exec t o c s = some (r, s') → S r s')
    (hk : ∀ r, Triple M t R (S r) (k r) Q) : Triple M t R P (.call o k) Q := by
  intro s a s' hs hrun
  generalize hp : Prog.call o k = p at hrun
  induction hrun with
  | pure => exact absurd hp nofun
  | @call o' k' c r s s' a s'' he hrest ih =>
    obtain ⟨rfl, hk'⟩ := Prog.call.inj hp
    obtain rfl := eq_of_heq hk'
    exact hk r _ _ _ (hcall _ _ _ _ hs he) hrest
  | others hR _ ih => exact ih (hP _ _ hR hs) hp

theorem triple_perform {o : Op} {f : Ret o → Prog Op Ret α} {S : Ret o → σ → Prop} (hP : Stable R P)
    (hcall : ∀ s c r s', P s → M.exec t o c s = some (r, s') → S r s')
    (hf : ∀ r, Triple M t R (S r) (f r) Q) : Triple M t R P (Prog.perform o >>= f) Q :=
  triple_call hP hcall hf

theorem triple_bind {p : Prog Op Ret β} {f : β → Prog Op Ret α} {S : β → σ → Prop}
    (hp : Triple M t R P p S) (hf : ∀ b, Triple M t R (S b) (f b) Q) :
    Triple M t R P (p >>= f) Q := by
  intro s a s' hs hrun
  obtain ⟨b, mid, hrun, hrest⟩ := runs_bind hrun
  exact hf b _ _ _ (hp _ _ _ hs hrun) hrest

/-- What every call of the program keeps, the program keeps. -/
theorem triple_frame {p : Prog Op Ret α} (hP : Stable R P)
    (hp : p.All fun o => ∀ c r s s', P s → M.exec t o c s = some (r, s') → P s') :
    Triple M t R P p fun _ => P := by
  induction p with
  | pure a => exact triple_pure hP fun _ hs => hs
  | call o k ih =>
    exact triple_call hP (fun s c r s' hs he => hp.1 c r s s' hs he) fun r => ih r (hp.2 r)

theorem Triple.weaken {P' : σ → Prop} {Q' : α → σ → Prop} {p : Prog Op Ret α}
    (h : Triple M t R P p Q) (hP : ∀ s, P' s → P s) (hQ : ∀ a s, Q a s → Q' a s) :
    Triple M t R P' p Q' := by
  intro s a s' hs hrun
  exact hQ _ _ (h _ _ _ (hP s hs) hrun)

/-- What holds of every result holds of the result of a run. -/
theorem triple_of_allThen {P : Op → Prop} {post : α → Prop} {p : Prog Op Ret α}
    (hp : p.AllThen P post) : Triple M t R (fun _ => True) p fun a _ => post a := by
  induction p with
  | pure a => exact triple_pure (fun _ _ _ _ => trivial) fun _ _ => hp
  | call o k ih =>
    have hk : ∀ r, Triple M t R (fun _ => True) (k r) fun a _ => post a := fun r => ih r (hp.2 r)
    exact triple_call (S := fun _ _ => True) (fun _ _ _ _ => trivial) (fun _ _ _ _ _ _ => trivial) hk

/-- In a run of the system task `t` runs its program, and `R` is what the other tasks and the
environment do. -/
theorem Path.task_runs {ok : Config Op Ret σ → Label Reply Request → Prop}
    (hbusy : ∀ {cfg c a w}, ok cfg (.run t c) → cfg.task t ≠ some ⟨.pure a, w⟩)
    (hothers : ∀ {cfg l cfg'}, ok cfg l → (∀ c, l ≠ .run t c) → Step M cfg l cfg' →
      R cfg.shared cfg'.shared)
    {cfg cfg' : Config Op Ret σ} {ls : List (Label Reply Request)} (hp : Path M ok cfg ls cfg')
    {p : Prog Op Ret Unit} {a : Unit} {w w' : Bool} (htask : cfg.task t = some ⟨p, w⟩)
    (hend : cfg'.task t = some ⟨.pure a, w'⟩) : Runs M t R p cfg.shared a cfg'.shared := by
  induction hp generalizing p w with
  | nil =>
    rw [htask] at hend
    obtain ⟨rfl, -⟩ := Task.mk.inj (Option.some.inj hend)
    exact .pure
  | @cons cfg l mid ls fin hs hok _ ih =>
    by_cases hl : ∃ c, l = .run t c
    · obtain ⟨c, rfl⟩ := hl
      cases hs with
      | @answer t o k w₀ reply r s hcall he =>
        rw [htask] at hcall
        obtain ⟨rfl, -⟩ := Task.mk.inj (Option.some.inj hcall)
        have hrest := ih (Config.setTask_self (by simpa using htask) _) hend
        rw [Config.setTask_shared] at hrest
        exact .call he hrest
      | @wait t o k w₀ reply hcall he =>
        rw [htask] at hcall
        obtain ⟨rfl, -⟩ := Task.mk.inj (Option.some.inj hcall)
        have hrest := ih (Config.setTask_self htask _) hend
        rw [Config.setTask_shared] at hrest
        exact hrest
      | @serve a w₀ reply q hserver hserve =>
        exact absurd (congrArg some hserver) (hbusy hok)
    · have hl : ∀ c, l ≠ .run t c := fun c hc => hl ⟨c, hc⟩
      exact .others (hothers hok hl hs) (ih (hs.task_other hl htask) hend)

end Rules

end TaskSystem
