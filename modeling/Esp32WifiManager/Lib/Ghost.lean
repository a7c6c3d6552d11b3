import Esp32WifiManager.Lib.Triple

/-!
# A machine that keeps a record

Beside the state a record is kept of what the calls have been answered. The
machine does what it did: its runs are those of the machine without the record.
-/

namespace TaskSystem

variable {Op : Type} {Ret : Op → Type} {Reply Request σ γ : Type}

/-- The machine with a record, to which each call adds by `note`. -/
def Machine.withGhost (M : Machine Op Ret Reply Request σ)
    (note : TaskId → (o : Op) → Reply → Ret o → γ → γ) :
    Machine Op Ret Reply Request (σ × γ) where
  exec t o c x := (M.exec t o c x.1).map fun y => (y.1, y.2, note t o c y.1 x.2)
  arrive req x := (M.arrive req x.1).map fun y => ((y.1, x.2), y.2)
  serve x := M.serve x.1

/-- The configuration without the record. -/
def Config.erase (cfg : Config Op Ret (σ × γ)) : Config Op Ret σ where
  shared := cfg.shared.1
  server := cfg.server
  clients := cfg.clients

/-- The configuration with the record `g`. -/
def Config.withGhost (cfg : Config Op Ret σ) (g : γ) : Config Op Ret (σ × γ) where
  shared := (cfg.shared, g)
  server := cfg.server
  clients := cfg.clients

variable {M : Machine Op Ret Reply Request σ} {note : TaskId → (o : Op) → Reply → Ret o → γ → γ}
  {t : TaskId} {R : σ → σ → Prop} {α : Type}

theorem exec_withGhost {o : Op} {c : Reply} {r : Ret o} {x x' : σ × γ}
    (h : (M.withGhost note).exec t o c x = some (r, x')) :
    M.exec t o c x.1 = some (r, x'.1) ∧ x'.2 = note t o c r x.2 := by
  obtain ⟨⟨r', s'⟩, he, heq⟩ := Option.map_eq_some_iff.mp h
  obtain ⟨rfl, rfl⟩ := Prod.mk.inj heq
  exact ⟨he, rfl⟩

theorem exec_of_exec {o : Op} {c : Reply} {r : Ret o} {s s' : σ} (g : γ)
    (h : M.exec t o c s = some (r, s')) :
    (M.withGhost note).exec t o c (s, g) = some (r, s', note t o c r g) :=
  Option.map_eq_some_iff.mpr ⟨_, h, rfl⟩

/-- A run of one task has a record, and the others do not touch it. -/
theorem Runs.withGhost {p : Prog Op Ret α} {s s' : σ} {a : α} (h : Runs M t R p s a s') (g : γ) :
    ∃ g', Runs (M.withGhost note) t (fun x y => R x.1 y.1 ∧ y.2 = x.2) p (s, g) a (s', g') := by
  induction h generalizing g with
  | pure => exact ⟨g, .pure⟩
  | call he _ ih =>
    obtain ⟨g', hrun⟩ := ih (note t _ _ _ g)
    exact ⟨g', .call (exec_of_exec g he) hrun⟩
  | @others p s s' a s'' hR _ ih =>
    obtain ⟨g', hrun⟩ := ih g
    have hkeep : R (s, g).1 (s', g).1 ∧ (s', g).2 = (s, g).2 := ⟨hR, rfl⟩
    exact ⟨g', .others hkeep hrun⟩

/-- What the record is kept of is a run of the machine. -/
theorem Runs.erase {Q : σ × γ → σ × γ → Prop} (hQ : ∀ x y, Q x y → R x.1 y.1) {p : Prog Op Ret α}
    {x x' : σ × γ} {a : α} (h : Runs (M.withGhost note) t Q p x a x') : Runs M t R p x.1 a x'.1 := by
  induction h with
  | pure => exact .pure
  | call he _ ih => exact .call (exec_withGhost he).1 ih
  | others hR _ ih => exact .others (hQ _ _ hR) ih

theorem erase_task (cfg : Config Op Ret (σ × γ)) (t : TaskId) : cfg.erase.task t = cfg.task t := by
  cases t <;> rfl

theorem erase_setTask (cfg : Config Op Ret (σ × γ)) (t : TaskId) (x : Task Op Ret) :
    (cfg.setTask x t).erase = cfg.erase.setTask x t := by
  cases t <;> rfl

theorem Step.erase {cfg cfg' : Config Op Ret (σ × γ)} {l : Label Reply Request}
    (h : Step (M.withGhost note) cfg l cfg') : Step M cfg.erase l cfg'.erase := by
  cases h with
  | @answer t o k w reply r x htask he =>
    rw [erase_setTask]
    exact .answer ((erase_task cfg t).trans htask) (exec_withGhost he).1
  | @wait t o k w reply htask he =>
    rw [erase_setTask]
    exact .wait ((erase_task cfg t).trans htask) (Option.map_eq_none_iff.mp he)
  | serve hserver hp =>
    rw [erase_setTask]
    exact .serve hserver hp
  | arrive ha =>
    obtain ⟨⟨s', p'⟩, hs, heq⟩ := Option.map_eq_some_iff.mp ha
    obtain ⟨rfl, rfl⟩ := Prod.mk.inj heq
    exact .arrive hs

/-- Every step of the machine is one of the machine with the record. -/
theorem Step.withGhost {cfg cfg' : Config Op Ret σ} {l : Label Reply Request} (h : Step M cfg l cfg')
    (g : γ) : ∃ g', Step (M.withGhost note) (cfg.withGhost g) l (cfg'.withGhost g') := by
  cases h with
  | @answer t o k w reply r s htask he =>
    refine ⟨note t o reply r g, ?_⟩
    have htask' : (cfg.withGhost g).task t = some ⟨.call o k, w⟩ := by cases t <;> exact htask
    have hexec : (M.withGhost note).exec t o reply (cfg.withGhost g).shared =
        some (r, s, note t o reply r g) := exec_of_exec g he
    have hstep := Step.answer htask' hexec
    cases t <;> exact hstep
  | @wait t o k w reply htask he =>
    refine ⟨g, ?_⟩
    have htask' : (cfg.withGhost g).task t = some ⟨.call o k, w⟩ := by cases t <;> exact htask
    have hwait : (M.withGhost note).exec t o reply (cfg.withGhost g).shared = none :=
      Option.map_eq_none_iff.mpr he
    have hstep := Step.wait htask' hwait
    cases t <;> exact hstep
  | serve hserver hp => exact ⟨g, .serve hserver hp⟩
  | arrive ha => exact ⟨g, .arrive (Option.map_eq_some_iff.mpr ⟨_, ha, rfl⟩)⟩

/-- Runs of the system with the record are runs without it. -/
theorem Path.erase {ok : Config Op Ret (σ × γ) → Label Reply Request → Prop}
    {ok' : Config Op Ret σ → Label Reply Request → Prop} (hok : ∀ cfg l, ok cfg l → ok' cfg.erase l)
    {cfg cfg' : Config Op Ret (σ × γ)} {ls : List (Label Reply Request)}
    (h : Path (M.withGhost note) ok cfg ls cfg') : Path M ok' cfg.erase ls cfg'.erase := by
  induction h with
  | nil => exact .nil
  | cons hs hl _ ih => exact .cons hs.erase (hok _ _ hl) ih

/-- Every run of the system has a record. -/
theorem Path.withGhost {ok : Config Op Ret σ → Label Reply Request → Prop}
    {cfg cfg' : Config Op Ret σ} {ls : List (Label Reply Request)} (h : Path M ok cfg ls cfg') (g : γ) :
    ∃ g', Path (M.withGhost note) (fun cfg l => ok cfg.erase l) (cfg.withGhost g) ls
      (cfg'.withGhost g') := by
  induction h generalizing g with
  | nil => exact ⟨g, .nil⟩
  | cons hs hl _ ih =>
    obtain ⟨g₁, hstep⟩ := @Step.withGhost Op Ret Reply Request σ γ M note _ _ _ hs g
    obtain ⟨g', hrest⟩ := ih g₁
    exact ⟨g', .cons hstep hl hrest⟩

/-! ### Promises of a run -/

/-- The call that a task is about to make satisfies `P` in the state before it. -/
def Promised (P : TaskId → Op → σ → Prop) (cfg : Config Op Ret σ) : Label Reply Request → Prop
  | .arrive _ => True
  | .run t _ => ∀ o k w, cfg.task t = some ⟨.call o k, w⟩ → P t o cfg.shared

/-- The test of `Promised`. -/
def promisedTest (test : TaskId → Op → σ → Bool) (cfg : Config Op Ret σ) :
    Label Reply Request → Bool
  | .arrive _ => true
  | .run t _ => (cfg.task t).all fun x => x.prog.next.all fun o => test t o cfg.shared

theorem promised_of_test {P : TaskId → Op → σ → Prop} {test : TaskId → Op → σ → Bool}
    (h : ∀ t o s, test t o s = true → P t o s) {cfg : Config Op Ret σ} {l : Label Reply Request}
    (hl : promisedTest test cfg l = true) : Promised P cfg l := by
  cases l with
  | arrive req => exact trivial
  | run t c =>
    intro o k w htask
    unfold promisedTest at hl
    dsimp only at hl
    rw [htask] at hl
    exact h t o cfg.shared hl

end TaskSystem
