import Mathlib.Data.List.Basic
import Mathlib.Data.List.Infix
import Mathlib.Order.Basic

/-!
# Tasks that share a state

A program is the tree of the calls it can make, so that a function of the source
stays one definition and every call in it is a point where another task can run.
A system has one server task, which takes up a new program when the last one has
returned, and a growing list of client tasks. A call that has to wait leaves the
state as it is and marks its task as waiting.
-/

namespace TaskSystem

/-- A program returns, or makes a call and goes on with the answer. -/
inductive Prog (Op : Type) (Ret : Op → Type) (α : Type) where
  | pure (a : α)
  | call (o : Op) (k : Ret o → Prog Op Ret α)

namespace Prog

variable {Op : Type} {Ret : Op → Type} {α β : Type}

def bind (f : α → Prog Op Ret β) : Prog Op Ret α → Prog Op Ret β
  | .pure a => f a
  | .call o k => .call o fun r => bind f (k r)

instance : Monad (Prog Op Ret) where
  pure := .pure
  bind p f := p.bind f

theorem bind_bind {γ : Type} (p : Prog Op Ret α) (f : α → Prog Op Ret β) (g : β → Prog Op Ret γ) :
    p >>= f >>= g = p >>= fun a => f a >>= g := by
  induction p with
  | pure a => rfl
  | call o k ih => exact congrArg (Prog.call o) (funext ih)

/-- The program that is a single call. -/
def perform (o : Op) : Prog Op Ret (Ret o) := .call o .pure

/-- The call a program is about to make. -/
def next : Prog Op Ret α → Option Op
  | .pure _ => none
  | .call o _ => some o

theorem of_next {p : Prog Op Ret α} {o : Op} (h : p.next = some o) : ∃ k, p = .call o k := by
  cases p with
  | pure a => exact absurd h (by simp [next])
  | call o' k =>
    obtain rfl := Option.some.inj h
    exact ⟨k, rfl⟩

/-- Meaning of a program in `L`, from the meaning `alg` of its calls and the meaning `post` of
its result. -/
def fold {L : Type*} (alg : (o : Op) → (Ret o → L) → L) (post : α → L) : Prog Op Ret α → L
  | .pure a => post a
  | .call o k => alg o fun r => fold alg post (k r)

section Fold

variable {L : Type*} (alg : (o : Op) → (Ret o → L) → L)

@[simp] theorem fold_pure (post : α → L) (a : α) :
    fold alg post (Pure.pure a : Prog Op Ret α) = post a := rfl

theorem fold_call (post : α → L) (o : Op) (k : Ret o → Prog Op Ret α) :
    fold alg post (.call o k) = alg o fun r => fold alg post (k r) := rfl

theorem fold_return (post : α → L) (a : α) : fold alg post (.pure a : Prog Op Ret α) = post a := rfl

@[simp] theorem fold_bind (post : β → L) (p : Prog Op Ret α) (f : α → Prog Op Ret β) :
    fold alg post (p >>= f) = fold alg (fun a => fold alg post (f a)) p := by
  induction p with
  | pure a => rfl
  | call o k ih =>
    change alg o _ = alg o _
    congr 1
    funext r
    exact ih r

@[simp] theorem fold_ite (post : α → L) (c : Prop) [Decidable c] (p q : Prog Op Ret α) :
    fold alg post (if c then p else q) = if c then fold alg post p else fold alg post q := by
  split <;> rfl

end Fold

/-- Every call the program can make satisfies `P`. -/
def All (P : Op → Prop) (p : Prog Op Ret α) : Prop :=
  fold (fun o X => P o ∧ ∀ r, X r) (fun _ => True) p

section All

variable {P P' : Op → Prop}

@[simp] theorem all_pure (a : α) : All P (.pure a : Prog Op Ret α) := trivial

@[simp] theorem all_call {o : Op} {k : Ret o → Prog Op Ret α} :
    All P (.call o k) ↔ P o ∧ ∀ r, All P (k r) := Iff.rfl

theorem All.mono (h : ∀ o, P o → P' o) {p : Prog Op Ret α} (hp : All P p) : All P' p := by
  induction p with
  | pure a => exact all_pure a
  | call o k ih => exact ⟨h o hp.1, fun r => ih r (hp.2 r)⟩

theorem All.and {p : Prog Op Ret α} (hp : All P p) (hp' : All P' p) :
    All (fun o => P o ∧ P' o) p := by
  induction p with
  | pure a => exact all_pure a
  | call o k ih => exact ⟨⟨hp.1, hp'.1⟩, fun r => ih r (hp.2 r) (hp'.2 r)⟩

theorem All.perform {o : Op} (h : P o) : All P (Prog.perform o : Prog Op Ret (Ret o)) :=
  ⟨h, fun r => all_pure r⟩

/-- As `All`, with a result that satisfies `post`. -/
def AllThen (P : Op → Prop) (post : α → Prop) (p : Prog Op Ret α) : Prop :=
  fold (fun o X => P o ∧ ∀ r, X r) post p

theorem AllThen.bind {post : α → Prop} {p : Prog Op Ret α} {f : α → Prog Op Ret β}
    (hp : AllThen P post p) (hf : ∀ a, post a → All P (f a)) : All P (p >>= f) := by
  induction p with
  | pure a => exact hf a hp
  | call o k ih => exact ⟨hp.1, fun r => ih r (hp.2 r)⟩

theorem AllThen.all {post : α → Prop} {p : Prog Op Ret α} (hp : AllThen P post p) : All P p := by
  induction p with
  | pure a => exact all_pure a
  | call o k ih => exact ⟨hp.1, fun r => ih r (hp.2 r)⟩

theorem AllThen.mono {post : α → Prop} (h : ∀ o, P o → P' o) {p : Prog Op Ret α}
    (hp : AllThen P post p) : AllThen P' post p := by
  induction p with
  | pure a => exact hp
  | call o k ih => exact ⟨h o hp.1, fun r => ih r (hp.2 r)⟩

theorem AllThen.bind_allThen {post : α → Prop} {post' : β → Prop} {p : Prog Op Ret α}
    {f : α → Prog Op Ret β} (hp : AllThen P post p) (hf : ∀ a, post a → AllThen P post' (f a)) :
    AllThen P post' (p >>= f) := by
  induction p with
  | pure a => exact hf a hp
  | call o k ih => exact ⟨hp.1, fun r => ih r (hp.2 r)⟩

theorem All.bind_allThen {post : β → Prop} {p : Prog Op Ret α} {f : α → Prog Op Ret β}
    (hp : All P p) (hf : ∀ a, AllThen P post (f a)) : AllThen P post (p >>= f) := by
  induction p with
  | pure a => exact hf a
  | call o k ih => exact ⟨hp.1, fun r => ih r (hp.2 r)⟩

theorem All.bind {p : Prog Op Ret α} {f : α → Prog Op Ret β} (hp : All P p)
    (hf : ∀ a, All P (f a)) : All P (p >>= f) := by
  induction p with
  | pure a => exact hf a
  | call o k ih => exact ⟨hp.1, fun r => ih r (hp.2 r)⟩

end All

end Prog

/-- The tasks of a system: the server and the clients in the order of their arrival. -/
inductive TaskId
  | server
  | client (i : ℕ)
  deriving DecidableEq, Repr

/-- What the calls do. `exec` has no value when the call has to wait; `reply` is what the
environment answers to it. `arrive` is the environment's own step, which may change the state and
starts a client; `serve` is what the server takes up next. -/
structure Machine (Op : Type) (Ret : Op → Type) (Reply Request σ : Type) where
  exec : TaskId → (o : Op) → Reply → σ → Option (Ret o × σ)
  arrive : Request → σ → Option (σ × Prog Op Ret Unit)
  serve : σ → Option (Prog Op Ret Unit)

section System

variable {Op : Type} {Ret : Op → Type} {Reply Request σ : Type}

/-- A task: what is left of its program, and whether it waits in its next call. -/
structure Task (Op : Type) (Ret : Op → Type) where
  prog : Prog Op Ret Unit
  waiting : Bool

structure Config (Op : Type) (Ret : Op → Type) (σ : Type) where
  shared : σ
  server : Task Op Ret
  clients : List (Task Op Ret)

namespace Config

variable (cfg : Config Op Ret σ)

def task : TaskId → Option (Task Op Ret)
  | .server => some cfg.server
  | .client i => cfg.clients[i]?

def setTask (task : Task Op Ret) : TaskId → Config Op Ret σ
  | .server => { cfg with server := task }
  | .client i => { cfg with clients := cfg.clients.set i task }

def setShared (s : σ) : Config Op Ret σ := { cfg with shared := s }

@[simp] theorem setShared_shared (s : σ) : (cfg.setShared s).shared = s := rfl
@[simp] theorem setShared_task (s : σ) (t : TaskId) : (cfg.setShared s).task t = cfg.task t := by
  cases t <;> rfl
@[simp] theorem setShared_server (s : σ) : (cfg.setShared s).server = cfg.server := rfl
@[simp] theorem setShared_clients (s : σ) : (cfg.setShared s).clients = cfg.clients := rfl
@[simp] theorem setTask_shared (x : Task Op Ret) (t : TaskId) :
    (cfg.setTask x t).shared = cfg.shared := by
  cases t <;> rfl

variable {cfg}

theorem task_server {p : Prog Op Ret Unit} (h : cfg.server.prog = p) :
    cfg.task .server = some ⟨p, cfg.server.waiting⟩ := by
  subst h
  rfl

theorem setTask_self {t : TaskId} {old : Task Op Ret} (h : cfg.task t = some old)
    (x : Task Op Ret) : (cfg.setTask x t).task t = some x := by
  cases t with
  | server => rfl
  | client i =>
    obtain ⟨hi, -⟩ := List.getElem?_eq_some_iff.mp h
    exact List.getElem?_set_self hi

theorem setTask_other {t u : TaskId} (h : u ≠ t) (x : Task Op Ret) :
    (cfg.setTask x t).task u = cfg.task u := by
  cases t with
  | server =>
    cases u with
    | server => exact absurd rfl h
    | client j => rfl
  | client i =>
    cases u with
    | server => rfl
    | client j =>
      have hij : i ≠ j := fun e => h (by rw [e])
      exact List.getElem?_set_ne hij

theorem setTask_cases {t u : TaskId} {old x y : Task Op Ret} (h : cfg.task t = some old)
    (hu : (cfg.setTask x t).task u = some y) : u = t ∧ y = x ∨ u ≠ t ∧ cfg.task u = some y := by
  by_cases hut : u = t
  · subst hut
    rw [setTask_self h] at hu
    exact .inl ⟨rfl, (Option.some.inj hu).symm⟩
  · rw [setTask_other hut] at hu
    exact .inr ⟨hut, hu⟩

theorem setTask_none {t u : TaskId} {old x : Task Op Ret} (h : cfg.task t = some old)
    (hu : (cfg.setTask x t).task u = none) : u ≠ t ∧ cfg.task u = none := by
  have hut : u ≠ t := by
    rintro rfl
    rw [setTask_self h] at hu
    exact absurd hu (by simp)
  rw [setTask_other hut] at hu
  exact ⟨hut, hu⟩

/-- The client that has just arrived comes last. -/
def enter (cfg : Config Op Ret σ) (s : σ) (p : Prog Op Ret Unit) : Config Op Ret σ :=
  { cfg with shared := s, clients := cfg.clients ++ [⟨p, false⟩] }

theorem enter_task {s : σ} {p : Prog Op Ret Unit} {t : TaskId} {x : Task Op Ret}
    (h : (cfg.enter s p).task t = some x) : cfg.task t = some x ∨ x = ⟨p, false⟩ := by
  cases t with
  | server => exact .inl h
  | client i =>
    change (cfg.clients ++ [⟨p, false⟩])[i]? = some x at h
    rcases Nat.lt_or_ge i cfg.clients.length with hi | hi
    · rw [List.getElem?_append_left hi] at h
      exact .inl h
    · rw [List.getElem?_append_right hi] at h
      have hx := List.mem_of_getElem? h
      exact .inr (List.mem_singleton.mp hx)

theorem enter_old {s : σ} {p : Prog Op Ret Unit} {t : TaskId} {x : Task Op Ret}
    (h : cfg.task t = some x) : (cfg.enter s p).task t = some x := by
  cases t with
  | server => exact h
  | client i =>
    obtain ⟨hi, -⟩ := List.getElem?_eq_some_iff.mp h
    exact (List.getElem?_append_left hi).trans h

end Config

/-- One step: a task runs on, or the environment starts a client. -/
inductive Label (Reply Request : Type)
  | run (t : TaskId) (reply : Reply)
  | arrive (req : Request)

variable (M : Machine Op Ret Reply Request σ)

inductive Step : Config Op Ret σ → Label Reply Request → Config Op Ret σ → Prop
  | answer {cfg t o k w reply r s} :
      cfg.task t = some ⟨.call o k, w⟩ → M.exec t o reply cfg.shared = some (r, s) →
      Step cfg (.run t reply) ((cfg.setShared s).setTask ⟨k r, false⟩ t)
  | wait {cfg t o k w reply} :
      cfg.task t = some ⟨.call o k, w⟩ → M.exec t o reply cfg.shared = none →
      Step cfg (.run t reply) (cfg.setTask ⟨.call o k, true⟩ t)
  | serve {cfg a w reply p} :
      cfg.server = ⟨.pure a, w⟩ → M.serve cfg.shared = some p →
      Step cfg (.run .server reply) (cfg.setTask ⟨p, false⟩ .server)
  | arrive {cfg req s p} :
      M.arrive req cfg.shared = some (s, p) → Step cfg (.arrive req) (cfg.enter s p)

/-- The step a label stands for, when there is one. -/
def step (cfg : Config Op Ret σ) : Label Reply Request → Option (Config Op Ret σ)
  | .arrive req => (M.arrive req cfg.shared).map fun x => cfg.enter x.1 x.2
  | .run t reply =>
    match cfg.task t, t with
    | some ⟨.call o k, _⟩, t =>
      match M.exec t o reply cfg.shared with
      | some (r, s) => some ((cfg.setShared s).setTask ⟨k r, false⟩ t)
      | none => some (cfg.setTask ⟨.call o k, true⟩ t)
    | some ⟨.pure _, _⟩, .server =>
      (M.serve cfg.shared).map fun p => cfg.setTask ⟨p, false⟩ .server
    | _, _ => none

/-- The call that a step completes, with the task that makes it. -/
def performed (cfg : Config Op Ret σ) : Label Reply Request → Option (TaskId × Op)
  | .arrive _ => none
  | .run t reply =>
    match cfg.task t with
    | some ⟨.call o _, _⟩ => if (M.exec t o reply cfg.shared).isSome then some (t, o) else none
    | _ => none

/-- Runs whose steps all satisfy `ok`. -/
inductive Path (ok : Config Op Ret σ → Label Reply Request → Prop) :
    Config Op Ret σ → List (Label Reply Request) → Config Op Ret σ → Prop
  | nil {cfg} : Path ok cfg [] cfg
  | cons {cfg l mid ls fin} :
      Step M cfg l mid → ok cfg l → Path ok mid ls fin → Path ok cfg (l :: ls) fin

/-- Run of a list of labels that checks `ok` before each step. -/
def runWhere (ok : Config Op Ret σ → Label Reply Request → Bool) :
    Config Op Ret σ → List (Label Reply Request) → Option (Config Op Ret σ)
  | cfg, [] => some cfg
  | cfg, l :: ls => if ok cfg l then (step M cfg l).bind fun mid => runWhere ok mid ls else none

variable {M}

theorem Step.of_step {cfg cfg' : Config Op Ret σ} {l : Label Reply Request}
    (h : step M cfg l = some cfg') : Step M cfg l cfg' := by
  cases l with
  | arrive req =>
    obtain ⟨⟨s, p⟩, hx, rfl⟩ := Option.map_eq_some_iff.mp h
    exact .arrive hx
  | run t reply =>
    unfold step at h
    dsimp only at h
    split at h
    · rename_i o k w t htask
      split at h
      · rename_i r s hexec
        obtain rfl := Option.some.inj h
        exact .answer htask hexec
      · rename_i hexec
        obtain rfl := Option.some.inj h
        exact .wait htask hexec
    · rename_i a w htask
      obtain ⟨p, hp, rfl⟩ := Option.map_eq_some_iff.mp h
      exact .serve (Option.some.inj htask) hp
    · exact absurd h (by simp)

theorem Path.of_runWhere {ok : Config Op Ret σ → Label Reply Request → Bool}
    {P : Config Op Ret σ → Label Reply Request → Prop} (hok : ∀ cfg l, ok cfg l = true → P cfg l)
    {cfg cfg' : Config Op Ret σ} {ls : List (Label Reply Request)}
    (h : runWhere M ok cfg ls = some cfg') : Path M P cfg ls cfg' := by
  induction ls generalizing cfg with
  | nil =>
    obtain rfl := Option.some.inj h
    exact .nil
  | cons l ls ih =>
    unfold runWhere at h
    split at h
    · rename_i hl
      obtain ⟨mid, hmid, hrest⟩ := Option.bind_eq_some_iff.mp h
      exact .cons (.of_step hmid) (hok _ _ hl) (ih hrest)
    · exact absurd h (by simp)

theorem runWhere_append {ok : Config Op Ret σ → Label Reply Request → Bool}
    {cfg cfg' : Config Op Ret σ} {ls ls' : List (Label Reply Request)} :
    runWhere M ok cfg (ls ++ ls') = some cfg' ↔
      ∃ mid, runWhere M ok cfg ls = some mid ∧ runWhere M ok mid ls' = some cfg' := by
  induction ls generalizing cfg with
  | nil => simp [runWhere]
  | cons l ls ih =>
    simp only [List.cons_append, runWhere]
    split
    · cases step M cfg l with
      | none => simp
      | some next =>
        simp only [Option.bind_some]
        exact ih
    · simp

theorem runWhere_cons {ok : Config Op Ret σ → Label Reply Request → Bool}
    {cfg cfg' : Config Op Ret σ} {l : Label Reply Request} {ls : List (Label Reply Request)}
    (h : runWhere M ok cfg (l :: ls) = some cfg') :
    ∃ mid, Step M cfg l mid ∧ runWhere M ok mid ls = some cfg' := by
  unfold runWhere at h
  split at h
  · obtain ⟨mid, hmid, hrest⟩ := Option.bind_eq_some_iff.mp h
    exact ⟨mid, .of_step hmid, hrest⟩
  · exact absurd h (by simp)

theorem Path.mono {P Q : Config Op Ret σ → Label Reply Request → Prop}
    (h : ∀ cfg l, P cfg l → Q cfg l) {cfg cfg' : Config Op Ret σ} {ls : List (Label Reply Request)}
    (hp : Path M P cfg ls cfg') : Path M Q cfg ls cfg' := by
  induction hp with
  | nil => exact .nil
  | cons hs hl _ ih => exact .cons hs (h _ _ hl) ih

theorem Path.append {P : Config Op Ret σ → Label Reply Request → Prop}
    {cfg mid fin : Config Op Ret σ} {ls ls' : List (Label Reply Request)} (hp : Path M P cfg ls mid)
    (hq : Path M P mid ls' fin) : Path M P cfg (ls ++ ls') fin := by
  induction hp with
  | nil => exact hq
  | cons hs hl _ ih => exact .cons hs hl (ih hq)

theorem Step.server_call {cfg cfg' : Config Op Ret σ} {c : Reply} {o : Op}
    {k : Ret o → Prog Op Ret Unit} (hs : Step M cfg (.run .server c) cfg')
    (hprog : cfg.server.prog = .call o k) :
    (∃ r s, M.exec .server o c cfg.shared = some (r, s) ∧
      cfg' = (cfg.setShared s).setTask ⟨k r, false⟩ .server) ∨
      M.exec .server o c cfg.shared = none ∧ cfg' = cfg.setTask ⟨.call o k, true⟩ .server := by
  cases hs with
  | @answer t o' k' w reply r s htask he =>
    have hserver : cfg.server = ⟨.call o' k', w⟩ := Option.some.inj htask
    rw [hserver] at hprog
    obtain ⟨rfl, hk⟩ := Prog.call.inj hprog
    obtain rfl := eq_of_heq hk
    exact .inl ⟨r, s, he, rfl⟩
  | @wait t o' k' w reply htask he =>
    have hserver : cfg.server = ⟨.call o' k', w⟩ := Option.some.inj htask
    rw [hserver] at hprog
    obtain ⟨rfl, hk⟩ := Prog.call.inj hprog
    obtain rfl := eq_of_heq hk
    exact .inr ⟨he, rfl⟩
  | @serve a w reply p hserver hp =>
    rw [hserver] at hprog
    exact absurd hprog (by simp)

/-- A step of another task leaves a task where it is. -/
theorem Step.task_other {cfg cfg' : Config Op Ret σ} {l : Label Reply Request} {t : TaskId}
    {x : Task Op Ret} (hs : Step M cfg l cfg') (hl : ∀ c, l ≠ .run t c)
    (hx : cfg.task t = some x) : cfg'.task t = some x := by
  cases hs with
  | @answer u o k w reply r s htask he =>
    have hne : t ≠ u := fun h => hl reply (by rw [h])
    rw [Config.setTask_other hne, Config.setShared_task]
    exact hx
  | @wait u o k w reply htask he =>
    have hne : t ≠ u := fun h => hl reply (by rw [h])
    rw [Config.setTask_other hne]
    exact hx
  | @serve a w reply p hserver hp =>
    have hne : t ≠ .server := fun h => hl reply (by rw [h])
    rw [Config.setTask_other hne]
    exact hx
  | arrive ha => exact Config.enter_old hx

/-- What every step keeps, every run keeps. -/
theorem Path.invariant {P : Config Op Ret σ → Label Reply Request → Prop}
    {Inv : Config Op Ret σ → Prop}
    (hstep : ∀ {cfg l cfg'}, Inv cfg → P cfg l → Step M cfg l cfg' → Inv cfg')
    {cfg cfg' : Config Op Ret σ} {ls : List (Label Reply Request)}
    (hp : Path M P cfg ls cfg') (hinv : Inv cfg) : Inv cfg' := by
  induction hp with
  | nil => exact hinv
  | cons hs hl _ ih => exact ih (hstep hinv hl hs)

/-- The steps of a run start in states that have the invariant. -/
theorem Path.with_invariant {P : Config Op Ret σ → Label Reply Request → Prop}
    {Inv : Config Op Ret σ → Prop}
    (hstep : ∀ {cfg l cfg'}, Inv cfg → P cfg l → Step M cfg l cfg' → Inv cfg')
    {cfg cfg' : Config Op Ret σ} {ls : List (Label Reply Request)}
    (hp : Path M P cfg ls cfg') (hinv : Inv cfg) :
    Path M (fun cfg l => P cfg l ∧ Inv cfg) cfg ls cfg' := by
  induction hp with
  | nil => exact .nil
  | cons hs hl _ ih => exact .cons hs ⟨hl, hinv⟩ (ih (hstep hinv hl hs))

/-- The server goes on with the same program until it takes up the next one. -/
theorem Path.server_all {P : Op → Prop} {cfg cfg' : Config Op Ret σ} {ls : List (Label Reply Request)}
    (hp : Path M (fun cfg _ => cfg.server.prog.next.isSome) cfg ls cfg')
    (h : cfg.server.prog.All P) : cfg'.server.prog.All P := by
  induction hp with
  | nil => exact h
  | @cons cfg l mid ls fin hs hnext _ ih =>
    apply ih
    cases hs with
    | @answer t o k w reply r s htask he =>
      cases t with
      | server =>
        have hserver : cfg.server = ⟨.call o k, w⟩ := Option.some.inj htask
        rw [hserver] at h
        exact h.2 r
      | client i => exact h
    | @wait t o k w reply htask he =>
      cases t with
      | server =>
        have hserver : cfg.server = ⟨.call o k, w⟩ := Option.some.inj htask
        rw [hserver] at h
        exact h
      | client i => exact h
    | serve hserver hp =>
      rw [hserver] at hnext
      exact absurd hnext (by simp [Prog.next])
    | arrive ha => exact h

/-- The calls that clients may still make all satisfy `P`. -/
def ClientsAll (P : Op → Prop) (cfg : Config Op Ret σ) : Prop :=
  ∀ {i x}, cfg.task (.client i) = some x → x.prog.All P

/-- Every client has come to its end. -/
def clientsDone (cfg : Config Op Ret σ) : Bool := cfg.clients.all fun x => x.prog.next.isNone

theorem ClientsAll.of_done {P : Op → Prop} {cfg : Config Op Ret σ} (h : clientsDone cfg = true) :
    ClientsAll P cfg := by
  intro i x hx
  have hdone := List.all_eq_true.mp h x (List.mem_of_getElem? hx)
  cases hprog : x.prog with
  | pure a => exact Prog.all_pure a
  | call o k =>
    rw [hprog] at hdone
    exact absurd hdone (by simp [Prog.next])

theorem ClientsAll.step {P : Op → Prop}
    (harrive : ∀ {req s s' p}, M.arrive req s = some (s', p) → p.All P) {cfg cfg' : Config Op Ret σ}
    {l : Label Reply Request} (h : ClientsAll P cfg) (hs : Step M cfg l cfg') :
    ClientsAll P cfg' := by
  intro i x hx
  cases hs with
  | @answer t o k w reply r s htask he =>
    have htask' : (cfg.setShared s).task t = some ⟨.call o k, w⟩ := by simpa using htask
    rcases Config.setTask_cases htask' hx with ⟨rfl, rfl⟩ | ⟨-, hold⟩
    · exact (h htask).2 r
    · rw [Config.setShared_task] at hold
      exact h hold
  | @wait t o k w reply htask he =>
    rcases Config.setTask_cases htask hx with ⟨rfl, rfl⟩ | ⟨-, hold⟩
    · have hall := h htask
      exact hall
    · exact h hold
  | serve hserver hp => exact h hx
  | arrive ha =>
    rcases Config.enter_task hx with hold | rfl
    · exact h hold
    · exact harrive ha

theorem ClientsAll.path {P : Op → Prop}
    (harrive : ∀ {req s s' p}, M.arrive req s = some (s', p) → p.All P)
    {ok : Config Op Ret σ → Label Reply Request → Prop} {cfg cfg' : Config Op Ret σ}
    {ls : List (Label Reply Request)} (hp : Path M ok cfg ls cfg') (h : ClientsAll P cfg) :
    ClientsAll P cfg' := by
  induction hp with
  | nil => exact h
  | cons hs _ _ ih => exact ih (h.step harrive hs)

end System

end TaskSystem
