import Esp32WifiManager.Lib.TaskSystem
import Mathlib.Algebra.BigOperators.Group.List.Basic
import Mathlib.Tactic.Common

/-!
# Invariants of a server and its clients

An invariant relates the phase of the server, the shared state and the credit
that the clients hold together. The server changes its phase with its calls, a
client its own credit; no call of a client sees the credit of another one.
-/

namespace TaskSystem

variable {Op : Type} {Ret : Op → Type} {Reply Request σ : Type}

/-- `assume` is what a run promises of a call before it is performed, and `assumeArrive` of a
request before it arrives; `demand` is what the server owes before each of its calls. The server
starts a program, and ends it, in a phase that satisfies `rest`. -/
structure Contract (M : Machine Op Ret Reply Request σ) (Φ W : Type) [AddCommMonoid W] where
  inv : Φ → σ → W → Prop
  rest : Φ → Prop
  assume : TaskId → Op → Reply → σ → W → Prop
  assumeArrive : Request → σ → W → Prop
  demand : Op → σ → W → Prop
  credit : Prog Op Ret Unit → W
  client : Prog Op Ret Unit → Prop

/-- A sum over a list and over the list with one element replaced. -/
theorem sum_map_set {W τ : Type} [AddCommMonoid W] (f : τ → W) {l : List τ} {i : ℕ} {x y : τ}
    (h : l[i]? = some x) :
    ∃ w, (l.map f).sum = w + f x ∧ ((l.set i y).map f).sum = w + f y := by
  induction l generalizing i with
  | nil => exact absurd h (by simp)
  | cons a l ih =>
    cases i with
    | zero =>
      obtain rfl : a = x := by simpa using h
      exact ⟨(l.map f).sum, by simp [add_comm], by simp [add_comm]⟩
    | succ i =>
      obtain ⟨w, hx, hy⟩ := ih (i := i) (by simpa using h)
      refine ⟨f a + w, ?_, ?_⟩
      · rw [List.map_cons, List.sum_cons, hx, add_assoc]
      · rw [List.set_cons_succ, List.map_cons, List.sum_cons, hy, add_assoc]

namespace Prog

variable {α : Type} {P : Op → Prop}

/-- No call of the program satisfies `P`. -/
def Never (P : Op → Prop) (p : Prog Op Ret α) : Prop := p.All fun o => ¬ P o

/-- Every call satisfies `P` as long as the answers satisfy `R`. -/
def AllGiven (R : (o : Op) → Ret o → Prop) (P : Op → Prop) (p : Prog Op Ret α) : Prop :=
  fold (fun o X => P o ∧ ∀ r, R o r → X r) (fun _ => True) p

theorem AllGiven.bind {R : (o : Op) → Ret o → Prop} {β : Type} {p : Prog Op Ret α}
    {f : α → Prog Op Ret β} (hp : AllGiven R P p) (hf : ∀ a, AllGiven R P (f a)) :
    AllGiven R P (p >>= f) := by
  induction p with
  | pure a => exact hf a
  | call o k ih => exact ⟨hp.1, fun r hr => ih r (hp.2 r hr)⟩

theorem AllGiven.perform_bind {R : (o : Op) → Ret o → Prop} {o : Op} {f : Ret o → Prog Op Ret α}
    (ho : P o) (hf : ∀ r, R o r → AllGiven R P (f r)) : AllGiven R P (perform o >>= f) :=
  ⟨ho, hf⟩

theorem All.given {p : Prog Op Ret α} (hp : All P p) (R : (o : Op) → Ret o → Prop) :
    AllGiven R P p := by
  induction p with
  | pure a => exact trivial
  | call o k ih => exact ⟨hp.1, fun r _ => ih r (hp.2 r)⟩

theorem AllGiven.mono {R : (o : Op) → Ret o → Prop} {P' : Op → Prop} (h : ∀ o, P o → P' o)
    {p : Prog Op Ret α} (hp : AllGiven R P p) : AllGiven R P' p := by
  induction p with
  | pure a => exact trivial
  | call o k ih => exact ⟨h o hp.1, fun r hr => ih r (hp.2 r hr)⟩

/-- A call that satisfies `P` is the last one that does. -/
def AtMostOnce (P : Op → Prop) : Prog Op Ret α → Prop
  | .pure _ => True
  | .call o k => (P o → ∀ r, (k r).Never P) ∧ ∀ r, (k r).AtMostOnce P

theorem Never.atMostOnce {p : Prog Op Ret α} (hp : p.Never P) : p.AtMostOnce P := by
  induction p with
  | pure a => exact trivial
  | call o k ih => exact ⟨fun _ r => hp.2 r, fun r => ih r (hp.2 r)⟩

open Classical in
/-- Whether a call that satisfies `P` may still come, as a number. -/
noncomputable def mayMake (P : Op → Prop) (p : Prog Op Ret α) : ℕ := if p.Never P then 0 else 1

theorem mayMake_eq_zero {p : Prog Op Ret α} : p.mayMake P = 0 ↔ p.Never P := by
  unfold mayMake
  split <;> simp_all

theorem mayMake_le_one (p : Prog Op Ret α) : p.mayMake P ≤ 1 := by
  unfold mayMake
  split <;> simp

theorem mayMake_answer (o : Op) (k : Ret o → Prog Op Ret α) (r : Ret o) :
    (k r).mayMake P ≤ (Prog.call o k).mayMake P := by
  by_cases h : (Prog.call o k).Never P
  · rw [mayMake_eq_zero.mpr (h.2 r)]
    exact Nat.zero_le _
  · have hone : (Prog.call o k).mayMake P = 1 := if_neg h
    rw [hone]
    apply mayMake_le_one

/-- A call that satisfies `P` uses up what is left. -/
theorem AtMostOnce.mayMake_lt {o : Op} {k : Ret o → Prog Op Ret α}
    (h : (Prog.call o k).AtMostOnce P) (ho : P o) (r : Ret o) :
    (k r).mayMake P + 1 = (Prog.call o k).mayMake P := by
  rw [mayMake_eq_zero.mpr (h.1 ho r)]
  exact (if_neg fun hnever => hnever.1 ho).symm

end Prog

namespace Contract

variable {M : Machine Op Ret Reply Request σ} {Φ W : Type} [AddCommMonoid W]
variable (C : Contract M Φ W) {α β : Type}

/-- A call of the server in phase `φ`, when `X` is needed of what follows. -/
def Performs (o : Op) (X : Ret o → Φ → Prop) (φ : Φ) : Prop :=
  ∀ s w, C.inv φ s w → C.demand o s w ∧
    ∀ c r s', C.assume .server o c s w → M.exec .server o c s = some (r, s') →
      ∃ φ', C.inv φ' s' w ∧ X r φ'

/-- The server keeps the invariant while it runs `p` from phase `φ`, and `post` holds at its
end. -/
def Keeps (p : Prog Op Ret α) (post : α → Φ → Prop) : Φ → Prop := p.fold C.Performs post

/-- A call that leaves the invariant of phase `φ` alone. -/
def Frames (φ : Φ) (o : Op) : Prop :=
  ∀ s w, C.inv φ s w → C.demand o s w ∧
    ∀ c r s', C.assume .server o c s w → M.exec .server o c s = some (r, s') → C.inv φ s' w

section Rules

variable {C} {φ : Φ} {post : α → Φ → Prop}

theorem keeps_pure {a : α} (h : post a φ) : C.Keeps (Pure.pure a : Prog Op Ret α) post φ := h

theorem keeps_bind {p : Prog Op Ret β} {f : β → Prog Op Ret α} :
    C.Keeps (p >>= f) post φ ↔ C.Keeps p (fun b => C.Keeps (f b) post) φ := by
  unfold Keeps
  rw [Prog.fold_bind]

theorem keeps_perform {o : Op} {f : Ret o → Prog Op Ret α}
    (h : C.Performs o (fun r => C.Keeps (f r) post) φ) :
    C.Keeps (Prog.perform o >>= f) post φ := h

theorem Keeps.mono {post' : α → Φ → Prop} (hpost : ∀ a φ, post a φ → post' a φ)
    {p : Prog Op Ret α} (h : C.Keeps p post φ) : C.Keeps p post' φ := by
  induction p generalizing φ with
  | pure a => exact hpost a φ h
  | call o k ih =>
    intro s w hinv
    obtain ⟨hd, hcall⟩ := h s w hinv
    refine ⟨hd, fun c r s' ha he => ?_⟩
    obtain ⟨φ', hinv', hX⟩ := hcall c r s' ha he
    exact ⟨φ', hinv', ih r hX⟩

theorem Keeps.and_allThen {P : Op → Prop} {Q : α → Prop} {p : Prog Op Ret α}
    (h : C.Keeps p post φ) (hp : p.AllThen P Q) : C.Keeps p (fun a φ => post a φ ∧ Q a) φ := by
  induction p generalizing φ with
  | pure a => exact ⟨h, hp⟩
  | call o k ih =>
    intro s w hinv
    obtain ⟨hd, hcall⟩ := h s w hinv
    refine ⟨hd, fun c r s' ha he => ?_⟩
    obtain ⟨φ', hinv', hX⟩ := hcall c r s' ha he
    exact ⟨φ', hinv', ih r hX (hp.2 r)⟩

/-- A program whose calls all leave the invariant alone stays in its phase. -/
theorem keeps_frame {p : Prog Op Ret α} (hp : p.All (C.Frames φ)) (hpost : ∀ a, post a φ) :
    C.Keeps p post φ := by
  induction p with
  | pure a => exact hpost a
  | call o k ih =>
    intro s w hinv
    obtain ⟨hd, hcall⟩ := hp.1 s w hinv
    exact ⟨hd, fun c r s' ha he => ⟨φ, hcall c r s' ha he, ih r (hp.2 r)⟩⟩

/-- As `keeps_frame`, for a program that goes on with the answers `R` only. -/
theorem keeps_given {R : (o : Op) → Ret o → Prop} {p : Prog Op Ret α}
    (hp : p.AllGiven R fun o => C.Performs o (fun r φ' => φ' = φ ∧ R o r) φ)
    (hpost : ∀ a, post a φ) : C.Keeps p post φ := by
  induction p with
  | pure a => exact hpost a
  | call o k ih =>
    intro s w hinv
    obtain ⟨hd, hcall⟩ := hp.1 s w hinv
    refine ⟨hd, fun c r s' ha he => ?_⟩
    obtain ⟨φ', hinv', rfl, hR⟩ := hcall c r s' ha he
    exact ⟨φ', hinv', ih r (hp.2 r hR)⟩

theorem performs_frame {o : Op} {X : Ret o → Φ → Prop} (ho : C.Frames φ o) (hX : ∀ r, X r φ) :
    C.Performs o X φ := by
  intro s w hinv
  obtain ⟨hd, hcall⟩ := ho s w hinv
  exact ⟨hd, fun c r s' ha he => ⟨φ, hcall c r s' ha he, hX r⟩⟩

end Rules

/-- What the clients of `cfg` hold together. -/
def load (cfg : Config Op Ret σ) : W := (cfg.clients.map fun x => C.credit x.prog).sum

/-- The step meets the assumptions. -/
def Meets (cfg : Config Op Ret σ) : Label Reply Request → Prop
  | .arrive req => C.assumeArrive req cfg.shared (C.load cfg)
  | .run t reply => ∀ o k w, cfg.task t = some ⟨.call o k, w⟩ →
      C.assume t o reply cfg.shared (C.load cfg)

/-- Clients and the environment keep the invariant in every phase, and what the server takes up in
a phase of rest keeps it. -/
structure Sound : Prop where
  call : ∀ {φ i o k c r s s' w}, C.client (.call o k) → C.inv φ s (w + C.credit (.call o k)) →
    C.assume (.client i) o c s (w + C.credit (.call o k)) →
    M.exec (.client i) o c s = some (r, s') →
    C.inv φ s' (w + C.credit (k r)) ∧ C.client (k r)
  arrive : ∀ {φ req s s' p w}, C.inv φ s w → C.assumeArrive req s w →
    M.arrive req s = some (s', p) → C.inv φ s' (w + C.credit p) ∧ C.client p
  serve : ∀ {φ s p w}, C.rest φ → C.inv φ s w → M.serve s = some p →
    ∃ φ', C.inv φ' s w ∧ C.Keeps p (fun _ => C.rest) φ'

structure Holds (φ : Φ) (cfg : Config Op Ret σ) : Prop where
  inv : C.inv φ cfg.shared (C.load cfg)
  server : C.Keeps cfg.server.prog (fun _ => C.rest) φ
  clients : ∀ {i x}, cfg.task (.client i) = some x → C.client x.prog

variable {C} {φ : Φ} {cfg cfg' : Config Op Ret σ} {l : Label Reply Request}

theorem load_setShared (s : σ) : C.load (cfg.setShared s) = C.load cfg := rfl

theorem load_setTask_server (x : Task Op Ret) : C.load (cfg.setTask x .server) = C.load cfg := rfl

/-- A client changes its own share of the credit only. -/
theorem load_setTask_client {i : ℕ} {x y : Task Op Ret} (h : cfg.task (.client i) = some x) :
    ∃ w, C.load cfg = w + C.credit x.prog ∧
      C.load (cfg.setTask y (.client i)) = w + C.credit y.prog :=
  sum_map_set (fun x : Task Op Ret => C.credit x.prog) h

theorem load_enter (s : σ) (p : Prog Op Ret Unit) :
    C.load (cfg.enter s p) = C.load cfg + C.credit p := by
  unfold load Config.enter
  rw [List.map_append, List.sum_append, List.map_singleton, List.sum_singleton]

theorem load_eq_zero {C : Contract M Φ ℕ} :
    C.load cfg = 0 ↔ ∀ i x, cfg.task (.client i) = some x → C.credit x.prog = 0 := by
  have hsum : C.load cfg = 0 ↔ ∀ x ∈ cfg.clients, C.credit x.prog = 0 := by
    unfold load
    simp [List.sum_eq_zero_iff_forall_eq_nat]
  rw [hsum]
  constructor
  · intro h i x hx
    exact h x (List.mem_of_getElem? hx)
  · intro h x hx
    obtain ⟨i, hi⟩ := List.mem_iff_getElem?.mp hx
    exact h i x hi

/-- What the server owes holds whenever it is about to make a call. -/
theorem Holds.demand (h : C.Holds φ cfg) {o : Op} {k : Ret o → Prog Op Ret Unit}
    (hs : cfg.server.prog = .call o k) : C.demand o cfg.shared (C.load cfg) := by
  have hkeeps := h.server
  rw [hs] at hkeeps
  exact (hkeeps cfg.shared (C.load cfg) h.inv).1

theorem Holds.step (hC : C.Sound) (h : C.Holds φ cfg) (hm : C.Meets cfg l)
    (hs : Step M cfg l cfg') : ∃ φ', C.Holds φ' cfg' := by
  cases hs with
  | @answer t o k w reply r s htask he =>
    have hassume := hm o k w htask
    have htask' : (cfg.setShared s).task t = some ⟨.call o k, w⟩ := by simpa using htask
    cases t with
    | server =>
      have hserver : cfg.server = ⟨.call o k, w⟩ := Option.some.inj htask
      have hkeeps := h.server
      rw [hserver] at hkeeps
      obtain ⟨φ', hinv, hrest⟩ := (hkeeps _ _ h.inv).2 reply r s hassume he
      exact ⟨φ', ⟨hinv, hrest, h.clients⟩⟩
    | client i =>
      obtain ⟨v, hload, hload'⟩ := load_setTask_client (C := C) (y := ⟨k r, false⟩) htask'
      have hinv := h.inv
      rw [load_setShared] at hload
      rw [hload] at hinv hassume
      obtain ⟨hinv', hclient⟩ := hC.call (h.clients htask) hinv hassume he
      refine ⟨φ, ?_, h.server, ?_⟩
      · rw [hload']
        exact hinv'
      · intro j x hx
        rcases Config.setTask_cases htask' hx with ⟨-, rfl⟩ | ⟨-, hold⟩
        · exact hclient
        · rw [Config.setShared_task] at hold
          exact h.clients hold
  | @wait t o k w reply htask he =>
    cases t with
    | server =>
      have hserver : cfg.server = ⟨.call o k, w⟩ := Option.some.inj htask
      have hkeeps := h.server
      rw [hserver] at hkeeps
      exact ⟨φ, ⟨h.inv, hkeeps, h.clients⟩⟩
    | client i =>
      obtain ⟨v, hload, hload'⟩ := load_setTask_client (C := C) (y := ⟨.call o k, true⟩) htask
      refine ⟨φ, ?_, h.server, ?_⟩
      · rw [hload', ← hload]
        exact h.inv
      · intro j x hx
        rcases Config.setTask_cases htask hx with ⟨-, rfl⟩ | ⟨-, hold⟩
        · have hclient := h.clients htask
          exact hclient
        · exact h.clients hold
  | @serve a w reply p hserver hp =>
    have hrest := h.server
    rw [hserver] at hrest
    obtain ⟨φ', hinv, hkeeps⟩ := hC.serve hrest h.inv hp
    exact ⟨φ', ⟨hinv, hkeeps, h.clients⟩⟩
  | @arrive req s p ha =>
    obtain ⟨hinv, hclient⟩ := hC.arrive h.inv hm ha
    refine ⟨φ, ?_, h.server, ?_⟩
    · rw [load_enter]
      exact hinv
    · intro i x hx
      rcases Config.enter_task hx with hold | rfl
      · exact h.clients hold
      · exact hclient

/-- A run that meets the assumptions keeps the invariant. -/
theorem Holds.path (hC : C.Sound) {ls : List (Label Reply Request)}
    {ok : Config Op Ret σ → Label Reply Request → Prop} (hok : ∀ cfg l, ok cfg l → C.Meets cfg l)
    (hp : Path M ok cfg ls cfg') (h : C.Holds φ cfg) : ∃ φ', C.Holds φ' cfg' := by
  induction hp generalizing φ with
  | nil => exact ⟨φ, h⟩
  | cons hs hl _ ih =>
    obtain ⟨φ', h'⟩ := h.step hC (hok _ _ hl) hs
    exact ih h'

end Contract

end TaskSystem
