import Esp32WifiManager.Lib.Ghost

/-!
# Tasks that keep to their way

Every task is at a place of its own, and each call that it makes moves it on. A
program keeps to the way when no answer brings it to a place where it makes a
call that is out of place there. Where a task is depends on its own calls only,
so that nothing the other tasks do can lead it astray.
-/

namespace TaskSystem

variable {Op : Type} {Ret : Op → Type} {Reply Request σ γ β π α : Type}

/-- The machine with a record, to which each call adds what it finds and what it is answered. -/
def Machine.withTrace (M : Machine Op Ret Reply Request σ)
    (note : TaskId → (o : Op) → σ → Ret o → γ → γ) : Machine Op Ret Reply Request (σ × γ) where
  exec t o c x := (M.exec t o c x.1).map fun y => (y.1, y.2, note t o x.1 y.1 x.2)
  arrive req x := (M.arrive req x.1).map fun y => ((y.1, x.2), y.2)
  serve x := M.serve x.1

section Traced

variable {M : Machine Op Ret Reply Request σ} {note : TaskId → (o : Op) → σ → Ret o → γ → γ}
  {t : TaskId} {o : Op} {c : Reply} {r : Ret o} {x x' : σ × γ}

theorem exec_withTrace (h : (M.withTrace note).exec t o c x = some (r, x')) :
    M.exec t o c x.1 = some (r, x'.1) ∧ x'.2 = note t o x.1 r x.2 := by
  obtain ⟨⟨r', s'⟩, he, heq⟩ := Option.map_eq_some_iff.mp h
  obtain ⟨rfl, rfl⟩ := Prod.mk.inj heq
  exact ⟨he, rfl⟩

theorem exec_withTrace_none : (M.withTrace note).exec t o c x = none ↔ M.exec t o c x.1 = none :=
  Option.map_eq_none_iff

theorem arrive_withTrace {req : Request} {p : Prog Op Ret Unit}
    (h : (M.withTrace note).arrive req x = some (x', p)) :
    M.arrive req x.1 = some (x'.1, p) ∧ x'.2 = x.2 := by
  obtain ⟨⟨s', p'⟩, ha, heq⟩ := Option.map_eq_some_iff.mp h
  obtain ⟨rfl, rfl⟩ := Prod.mk.inj heq
  exact ⟨ha, rfl⟩

end Traced

/-- `needs` is what a call needs of the place of its task, `answers` which answers it may have in a
state of which the task sees `b`, and `after` where it then is. -/
structure Typestate (Op : Type) (Ret : Op → Type) (β π : Type) where
  needs : Op → π → Prop
  answers : (o : Op) → β → Ret o → Prop
  after : (o : Op) → β → Ret o → π → π

namespace Typestate

variable (T : Typestate Op Ret β π)

/-- A program that keeps to the way, and leaves it at a place that satisfies `post` with its
result. -/
def Follows (post : α → π → Prop) (p : Prog Op Ret α) : π → Prop :=
  p.fold (fun o X w => T.needs o w ∧ ∀ b r, T.answers o b r → X r (T.after o b r w)) post

/-- A record that tells where every task is; `sees` is what a task sees of the state. -/
structure Record (M : Machine Op Ret Reply Request σ) (γ : Type) where
  note : TaskId → (o : Op) → σ → Ret o → γ → γ
  place : γ → TaskId → π
  sees : σ → β
  place_own : ∀ {t o s r g}, place (note t o s r g) t = T.after o (sees s) r (place g t)
  place_other : ∀ {t u o s r g}, u ≠ t → place (note t o s r g) u = place g u

section Rules

variable {T} {post : α → π → Prop} {w : π}

@[simp] theorem follows_pure {a : α} :
    T.Follows post (Pure.pure a : Prog Op Ret α) w ↔ post a w :=
  Iff.rfl

@[simp] theorem follows_return {a : α} :
    T.Follows post (.pure a : Prog Op Ret α) w ↔ post a w :=
  Iff.rfl

@[simp] theorem follows_call {o : Op} {k : Ret o → Prog Op Ret α} :
    T.Follows post (.call o k) w ↔
      T.needs o w ∧ ∀ b r, T.answers o b r → T.Follows post (k r) (T.after o b r w) :=
  Iff.rfl

@[simp] theorem follows_bind {ε : Type} {p : Prog Op Ret ε} {f : ε → Prog Op Ret α} :
    T.Follows post (p >>= f) w ↔ T.Follows (fun a => T.Follows post (f a)) p w := by
  unfold Follows
  rw [Prog.fold_bind]

@[simp] theorem follows_ite {c : Prop} [Decidable c] {p q : Prog Op Ret α} :
    T.Follows post (if c then p else q) w ↔
      if c then T.Follows post p w else T.Follows post q w := by
  split <;> rfl

end Rules

variable {T} {M : Machine Op Ret Reply Request σ} {N : T.Record M γ} {post : π → Prop}

/-- A task stays on its way, whichever task makes the step. -/
theorem Follows.step {cfg cfg' : Config Op Ret (σ × γ)} {l : Label Reply Request} {t : TaskId}
    {x : Task Op Ret}
    (hanswers : ∀ {o k w c r s}, l = .run t c → cfg.task t = some ⟨.call o k, w⟩ →
      M.exec t o c cfg.shared.1 = some (r, s) → T.answers o (N.sees cfg.shared.1) r)
    (hserve : t = .server → ∀ {s p w}, M.serve s = some p → post w → T.Follows (fun _ => post) p w)
    (h : T.Follows (fun _ => post) x.prog (N.place cfg.shared.2 t)) (htask : cfg.task t = some x)
    (hs : Step (M.withTrace N.note) cfg l cfg') :
    ∃ x', cfg'.task t = some x' ∧ T.Follows (fun _ => post) x'.prog (N.place cfg'.shared.2 t) := by
  cases hs with
  | @answer u o k w c r s hcall he =>
    obtain ⟨he, hnote⟩ := exec_withTrace he
    rw [Config.setTask_shared, Config.setShared_shared, hnote]
    by_cases hut : t = u
    · subst hut
      obtain rfl := Option.some.inj (htask.symm.trans hcall)
      refine ⟨_, Config.setTask_self (by simpa using hcall) _, ?_⟩
      rw [N.place_own]
      exact h.2 _ _ (hanswers rfl htask he)
    · refine ⟨x, ?_, ?_⟩
      · rw [Config.setTask_other hut, Config.setShared_task]
        exact htask
      · rw [N.place_other hut]
        exact h
  | @wait u o k w c hcall he =>
    rw [Config.setTask_shared]
    by_cases hut : t = u
    · subst hut
      obtain rfl := Option.some.inj (htask.symm.trans hcall)
      exact ⟨_, Config.setTask_self hcall _, h⟩
    · refine ⟨x, ?_, h⟩
      rw [Config.setTask_other hut]
      exact htask
  | @serve a w c p hserver hp =>
    by_cases hut : t = .server
    · subst hut
      obtain rfl := Option.some.inj (htask.symm.trans (congrArg some hserver))
      exact ⟨_, rfl, hserve rfl hp h⟩
    · refine ⟨x, ?_, h⟩
      rw [Config.setTask_other hut]
      exact htask
  | arrive ha =>
    obtain ⟨-, hrecord⟩ := arrive_withTrace ha
    refine ⟨x, Config.enter_old htask, ?_⟩
    have hplace := congrArg (fun g => N.place g t) hrecord
    exact hplace ▸ h

/-- The same over a whole run, for a client. -/
theorem Follows.path {ok : Config Op Ret (σ × γ) → Label Reply Request → Prop} {i : ℕ}
    (hanswers : ∀ {o c s r s'}, M.exec (.client i) o c s = some (r, s') →
      T.answers o (N.sees s) r)
    {cfg cfg' : Config Op Ret (σ × γ)} {ls : List (Label Reply Request)} {x : Task Op Ret}
    (h : T.Follows (fun _ => post) x.prog (N.place cfg.shared.2 (.client i)))
    (htask : cfg.task (.client i) = some x) (hp : Path (M.withTrace N.note) ok cfg ls cfg') :
    ∃ x', cfg'.task (.client i) = some x' ∧
      T.Follows (fun _ => post) x'.prog (N.place cfg'.shared.2 (.client i)) := by
  induction hp generalizing x with
  | nil => exact ⟨x, htask, h⟩
  | cons hs _ _ ih =>
    obtain ⟨x', htask', h'⟩ := h.step (N := N) (fun _ _ he => hanswers he) (by simp) htask hs
    exact ih h' htask'

/-- Every task is on its way, and a task that is not there yet will start at `start`. -/
structure OnTheWay (N : T.Record M γ) (start : π) (post : TaskId → π → Prop)
    (cfg : Config Op Ret (σ × γ)) : Prop where
  follows : ∀ {t x}, cfg.task t = some x → T.Follows (fun _ => post t) x.prog (N.place cfg.shared.2 t)
  absent : ∀ {t}, cfg.task t = none → N.place cfg.shared.2 t = start

theorem OnTheWay.step {start : π} {post : TaskId → π → Prop}
    (harrive : ∀ {req s s' p i}, M.arrive req s = some (s', p) →
      T.Follows (fun _ => post (.client i)) p start)
    (hserve : ∀ {s p w}, M.serve s = some p → post .server w → T.Follows (fun _ => post .server) p w)
    {cfg cfg' : Config Op Ret (σ × γ)} {l : Label Reply Request} (h : OnTheWay N start post cfg)
    (hanswers : ∀ {t o k w c r s}, l = .run t c → cfg.task t = some ⟨.call o k, w⟩ →
      M.exec t o c cfg.shared.1 = some (r, s) → T.answers o (N.sees cfg.shared.1) r)
    (hs : Step (M.withTrace N.note) cfg l cfg') : OnTheWay N start post cfg' := by
  have hold : ∀ {t x x'}, cfg.task t = some x → cfg'.task t = some x' →
      T.Follows (fun _ => post t) x'.prog (N.place cfg'.shared.2 t) := by
    intro t x x' hx hx'
    have hserve' : t = .server → ∀ {s p w}, M.serve s = some p → post t w →
        T.Follows (fun _ => post t) p w := by
      rintro rfl
      exact hserve
    obtain ⟨y, hy, hfollows⟩ := (h.follows hx).step (N := N) hanswers hserve' hx hs
    obtain rfl := Option.some.inj (hx'.symm.trans hy)
    exact hfollows
  cases hs with
  | @answer t o k w c r s hcall he =>
    obtain ⟨-, hnote⟩ := exec_withTrace he
    have hcall' : (cfg.setShared s).task t = some ⟨.call o k, w⟩ := by simpa using hcall
    constructor
    · intro u x hu
      rcases Config.setTask_cases hcall' hu with ⟨rfl, -⟩ | ⟨-, hx⟩
      · exact hold hcall hu
      · exact hold (by simpa using hx) hu
    · intro u hu
      obtain ⟨hut, hnone⟩ := Config.setTask_none hcall' hu
      rw [Config.setTask_shared, Config.setShared_shared, hnote, N.place_other hut]
      exact h.absent (by simpa using hnone)
  | @wait t o k w c hcall he =>
    constructor
    · intro u x hu
      rcases Config.setTask_cases hcall hu with ⟨rfl, -⟩ | ⟨-, hx⟩
      · exact hold hcall hu
      · exact hold hx hu
    · intro u hu
      obtain ⟨-, hnone⟩ := Config.setTask_none hcall hu
      rw [Config.setTask_shared]
      exact h.absent hnone
  | @serve a w c p hserver hp =>
    have htask : cfg.task .server = some ⟨.pure a, w⟩ := congrArg some hserver
    constructor
    · intro u x hu
      rcases Config.setTask_cases htask hu with ⟨rfl, -⟩ | ⟨-, hx⟩
      · exact hold htask hu
      · exact hold hx hu
    · intro u hu
      obtain ⟨-, hnone⟩ := Config.setTask_none htask hu
      exact h.absent hnone
  | @arrive req s p ha =>
    obtain ⟨ha', hrecord⟩ := arrive_withTrace ha
    have hplace : ∀ u, N.place (cfg.enter s p).shared.2 u = N.place cfg.shared.2 u :=
      fun u => congrArg (fun g => N.place g u) hrecord
    constructor
    · intro u x hu
      cases hx : cfg.task u with
      | some y => exact hold hx hu
      | none =>
        rcases Config.enter_task hu with hx' | rfl
        · exact absurd (hx.symm.trans hx') (by simp)
        · cases u with
          | server => exact absurd hx (by simp [Config.task])
          | client i =>
            rw [hplace, h.absent hx]
            exact harrive ha'
    · intro u hu
      cases hx : cfg.task u with
      | some y => exact absurd (hu.symm.trans (Config.enter_old hx)) (by simp)
      | none =>
        rw [hplace]
        exact h.absent hx

end Typestate

end TaskSystem
