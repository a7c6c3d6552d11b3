import Esp32WifiManager.Lib.TaskSystem
import Mathlib.Tactic.Basic

/-!
# A server with a bounded mailbox behind a recursive mutex

Every task that puts a message into the mailbox of the server does so while it
holds one recursive mutex, and only the server takes messages out. When the
mailbox is full the sender waits with the mutex in its hands, so the server is
stuck if it needs the mutex, or sends to itself, before it receives again.
-/

namespace TaskSystem

/-- A recursive mutex: free, or taken `n + 1` times by task `t`. -/
inductive RecMutex
  | free
  | taken (t : TaskId) (n : ℕ)
  deriving DecidableEq

namespace RecMutex

/-- How often task `t` holds the mutex. -/
def held (t : TaskId) : RecMutex → ℕ
  | .free => 0
  | .taken u n => if u = t then n + 1 else 0

/-- The mutex after task `t` has taken it, or nothing when `t` has to wait. -/
def lock (t : TaskId) : RecMutex → Option RecMutex
  | .free => some (.taken t 0)
  | .taken u n => if u = t then some (.taken u (n + 1)) else none

def unlock (t : TaskId) : RecMutex → RecMutex
  | .free => .free
  | .taken u 0 => if u = t then .free else .taken u 0
  | .taken u (n + 1) => if u = t then .taken u n else .taken u (n + 1)

variable {t u : TaskId} {m m' : RecMutex}

@[simp] theorem held_free : free.held t = 0 := rfl

theorem held_lock (h : m.lock t = some m') : m'.held t = m.held t + 1 := by
  cases m with
  | free =>
    obtain rfl := Option.some.inj h
    simp [held]
  | taken v n =>
    by_cases hv : v = t
    · obtain rfl : RecMutex.taken v (n + 1) = m' := by simpa [lock, hv] using h
      simp [held, hv]
    · simp [lock, hv] at h

theorem held_lock_other (h : m.lock t = some m') (hu : u ≠ t) : m'.held u = m.held u := by
  cases m with
  | free =>
    obtain rfl := Option.some.inj h
    simp [held, Ne.symm hu]
  | taken v n =>
    by_cases hv : v = t
    · obtain rfl : RecMutex.taken v (n + 1) = m' := by simpa [lock, hv] using h
      simp [held, hv, Ne.symm hu]
    · simp [lock, hv] at h

theorem held_unlock {n : ℕ} (h : m.held t = n + 1) : (m.unlock t).held t = n := by
  match m with
  | .free => simp [held] at h
  | .taken v k =>
    by_cases hv : v = t
    · have hk : k = n := by simpa [held, hv] using h
      cases k with
      | zero => simp [unlock, hv, ← hk]
      | succ k => simp [unlock, hv, held, ← hk]
    · simp [held, hv] at h

theorem held_unlock_other (hu : u ≠ t) : (m.unlock t).held u = m.held u := by
  match m with
  | .free => rfl
  | .taken v 0 =>
    by_cases hv : v = t
    · simp [unlock, held, hv, Ne.symm hu]
    · simp [unlock, hv]
  | .taken v (k + 1) =>
    by_cases hv : v = t
    · simp [unlock, held, hv, Ne.symm hu]
    · simp [unlock, hv]

/-- Two tasks never hold the mutex together. -/
theorem held_unique (ht : 0 < m.held t) (hu : 0 < m.held u) : u = t := by
  cases m with
  | free => simp [held] at ht
  | taken v k =>
    have hvt : v = t := by
      by_contra hv
      simp [held, hv] at ht
    have hvu : v = u := by
      by_contra hv
      simp [held, hv] at hu
    rw [← hvt, ← hvu]

theorem lock_eq_none_of_held (hu : 0 < m.held u) (h : u ≠ t) : m.lock t = none := by
  cases m with
  | free => simp [held] at hu
  | taken v k =>
    have hvu : v = u := by
      by_contra hv
      simp [held, hv] at hu
    simp [lock, hvu, h]

end RecMutex

/-- What a call does to the mutex and the mailbox: `send` waits for room, `trySend` gives up when
there is none, `receive` and `drain` leave room behind them. -/
inductive Kind
  | lock
  | unlock
  | send
  | trySend
  | receive
  | drain
  | other
  deriving DecidableEq

variable {Op : Type} {Ret : Op → Type} {Reply Request σ : Type}

namespace Kind

variable {ρ : Type}

/-- What a call needs of the task that holds the mutex `d` times, when `X` is needed of what
follows. -/
def balanced (t : TaskId) (X : ρ → ℕ → Prop) (d : ℕ) : Kind → Prop
  | .lock => ∀ r, X r (d + 1)
  | .unlock => 0 < d ∧ ∀ r, X r (d - 1)
  | .send => 0 < d ∧ ∀ r, X r d
  | .trySend => 0 < d ∧ ∀ r, X r d
  | .receive => t = .server ∧ ∀ r, X r d
  | .drain => t = .server ∧ ∀ r, X r d
  | .other => ∀ r, X r d

def calm (X : ρ → Prop) : Kind → Prop
  | .lock => False
  | .unlock => ∀ r, X r
  | .send => False
  | .trySend => False
  | .receive => True
  | .drain => True
  | .other => ∀ r, X r

end Kind

/-- A mailbox and its mutex in the state of a machine. -/
structure Mailbox (M : Machine Op Ret Reply Request σ) where
  kind : Op → Kind
  mutex : σ → RecMutex
  Full : σ → Prop
  exec_lock : ∀ {t o c s r s'}, kind o = .lock → M.exec t o c s = some (r, s') →
    (mutex s).lock t = some (mutex s') ∧ (Full s' ↔ Full s)
  lock_waits : ∀ {t o c s}, kind o = .lock → (mutex s).lock t = none → M.exec t o c s = none
  exec_unlock : ∀ {t o c s r s'}, kind o = .unlock → M.exec t o c s = some (r, s') →
    mutex s' = (mutex s).unlock t ∧ (Full s' ↔ Full s)
  exec_send : ∀ {t o c s r s'}, kind o = .send → M.exec t o c s = some (r, s') →
    mutex s' = mutex s ∧ ¬ Full s
  send_waits : ∀ {t o c s}, kind o = .send → M.exec t o c s = none → Full s
  exec_trySend : ∀ {t o c s r s'}, kind o = .trySend → M.exec t o c s = some (r, s') →
    mutex s' = mutex s ∧ (Full s → Full s')
  exec_receive : ∀ {t o c s r s'}, kind o = .receive → M.exec t o c s = some (r, s') →
    mutex s' = mutex s ∧ ¬ Full s'
  exec_drain : ∀ {t o c s r s'}, kind o = .drain → M.exec t o c s = some (r, s') →
    mutex s' = mutex s ∧ ¬ Full s'
  exec_other : ∀ {t o c s r s'}, kind o = .other → M.exec t o c s = some (r, s') →
    mutex s' = mutex s ∧ (Full s' ↔ Full s)
  arrive : ∀ {req s s' p}, M.arrive req s = some (s', p) →
    mutex s' = mutex s ∧ (Full s' ↔ Full s)

namespace Mailbox

variable {M : Machine Op Ret Reply Request σ} (B : Mailbox M)

/-- A program of task `t` that is left with the mutex held `d` times: it puts messages into the
mailbox only while it holds the mutex, releases what it takes, and only the server takes messages
out. -/
def Balanced {α : Type} (t : TaskId) (p : Prog Op Ret α) : ℕ → Prop :=
  p.fold (fun o X d => (B.kind o).balanced t X d) (fun _ d => d = 0)

/-- The server neither takes the mutex nor sends before it receives again. -/
def Calm {α : Type} (p : Prog Op Ret α) : Prop :=
  p.fold (fun o X => (B.kind o).calm X) (fun _ => True)

/-- Task `t` waits in a call of kind `k`. -/
def Waits (cfg : Config Op Ret σ) (t : TaskId) (k : Kind) : Prop :=
  ∃ o p, cfg.task t = some ⟨.call o p, true⟩ ∧ B.kind o = k

/-- `Waits`, as a test. -/
def waits (cfg : Config Op Ret σ) (t : TaskId) (k : Kind) : Bool :=
  match cfg.task t with
  | some ⟨.call o _, true⟩ => B.kind o = k
  | _ => false

/-- The server waits for the mutex while its holder waits for room in the mailbox, or it waits for
room in its own mailbox. -/
def Deadlocked (cfg : Config Op Ret σ) : Prop :=
  B.Full cfg.shared ∧
    (B.Waits cfg .server .send ∨
      B.Waits cfg .server .lock ∧
        ∃ t, t ≠ .server ∧ 0 < (B.mutex cfg.shared).held t ∧ B.Waits cfg t .send)

/-- When a task finds the mailbox full, the server is on its way to the next message. -/
def Roomy (cfg : Config Op Ret σ) : Label Reply Request → Prop
  | .arrive _ => True
  | .run t _ => ∀ o k w, cfg.task t = some ⟨.call o k, w⟩ → B.kind o = .send →
      B.Full cfg.shared → B.Calm cfg.server.prog

/-- Each task holds the mutex as often as its program says. -/
structure Guarded (cfg : Config Op Ret σ) : Prop where
  balanced : ∀ {t x}, cfg.task t = some x →
    B.Balanced t x.prog ((B.mutex cfg.shared).held t)
  absent : ∀ {t}, cfg.task t = none → (B.mutex cfg.shared).held t = 0

/-- What the environment starts, and what the server takes up, is balanced. -/
structure Lawful : Prop where
  arrive : ∀ {req s s' p i}, M.arrive req s = some (s', p) → B.Balanced (.client i) p 0
  serve : ∀ {s p}, M.serve s = some p → B.Balanced .server p 0 ∧ B.Calm p

/-- A task that waits for room has found the server on its way to the next message. -/
structure Safe (cfg : Config Op Ret σ) : Prop extends B.Guarded cfg where
  calm : ∀ {t o k}, cfg.task t = some ⟨.call o k, true⟩ → B.kind o = .send →
    B.Full cfg.shared → B.Calm cfg.server.prog

variable {B}

theorem waits_of_test {cfg : Config Op Ret σ} {t : TaskId} {k : Kind} (h : B.waits cfg t k = true) :
    B.Waits cfg t k := by
  unfold waits at h
  split at h
  · rename_i o p htask
    exact ⟨o, p, htask, of_decide_eq_true h⟩
  · exact absurd h (by simp)

section Call

variable {t : TaskId} {o : Op} {k : Ret o → Prog Op Ret Unit} {c : Reply} {r : Ret o} {s s' : σ}

/-- The answered task goes on balanced, and no other task gains or loses the mutex. -/
theorem balanced_answer (hb : B.Balanced t (.call o k) ((B.mutex s).held t))
    (he : M.exec t o c s = some (r, s')) :
    B.Balanced t (k r) ((B.mutex s').held t) ∧
      ∀ u ≠ t, (B.mutex s').held u = (B.mutex s).held u := by
  unfold Balanced Prog.fold Kind.balanced at hb
  cases hk : B.kind o <;> simp only [hk] at hb
  case lock =>
    obtain ⟨hm, -⟩ := B.exec_lock hk he
    rw [RecMutex.held_lock hm]
    exact ⟨hb r, fun u hu => RecMutex.held_lock_other hm hu⟩
  case unlock =>
    obtain ⟨hm, -⟩ := B.exec_unlock hk he
    obtain ⟨hd, hX⟩ := hb
    rw [hm, RecMutex.held_unlock (Nat.sub_add_cancel hd).symm]
    exact ⟨hX r, fun u hu => RecMutex.held_unlock_other hu⟩
  case send =>
    rw [(B.exec_send hk he).1]
    exact ⟨hb.2 r, fun _ _ => rfl⟩
  case trySend =>
    rw [(B.exec_trySend hk he).1]
    exact ⟨hb.2 r, fun _ _ => rfl⟩
  case receive =>
    rw [(B.exec_receive hk he).1]
    exact ⟨hb.2 r, fun _ _ => rfl⟩
  case drain =>
    rw [(B.exec_drain hk he).1]
    exact ⟨hb.2 r, fun _ _ => rfl⟩
  case other =>
    rw [(B.exec_other hk he).1]
    exact ⟨hb r, fun _ _ => rfl⟩

theorem balanced_send {d : ℕ} (hb : B.Balanced t (.call o k) d) (hk : B.kind o = .send) : 0 < d := by
  unfold Balanced Prog.fold Kind.balanced at hb
  simp only [hk] at hb
  exact hb.1

theorem balanced_trySend {d : ℕ} (hb : B.Balanced t (.call o k) d) (hk : B.kind o = .trySend) :
    0 < d := by
  unfold Balanced Prog.fold Kind.balanced at hb
  simp only [hk] at hb
  exact hb.1

/-- Only the holder of the mutex fills the mailbox. -/
theorem full_answer (hb : B.Balanced t (.call o k) ((B.mutex s).held t))
    (he : M.exec t o c s = some (r, s')) (hf : B.Full s') :
    B.Full s ∨ 0 < (B.mutex s).held t := by
  unfold Balanced Prog.fold Kind.balanced at hb
  cases hk : B.kind o <;> simp only [hk] at hb
  case lock => exact .inl ((B.exec_lock hk he).2.mp hf)
  case unlock => exact .inl ((B.exec_unlock hk he).2.mp hf)
  case send => exact .inr hb.1
  case trySend => exact .inr hb.1
  case receive => exact absurd hf (B.exec_receive hk he).2
  case drain => exact absurd hf (B.exec_drain hk he).2
  case other => exact .inl ((B.exec_other hk he).2.mp hf)

/-- Only the server empties it. -/
theorem full_kept (hb : B.Balanced t (.call o k) ((B.mutex s).held t)) (ht : t ≠ .server)
    (he : M.exec t o c s = some (r, s')) (hf : B.Full s) : B.Full s' := by
  unfold Balanced Prog.fold Kind.balanced at hb
  cases hk : B.kind o <;> simp only [hk] at hb
  case lock => exact (B.exec_lock hk he).2.mpr hf
  case unlock => exact (B.exec_unlock hk he).2.mpr hf
  case send => exact absurd hf (B.exec_send hk he).2
  case trySend => exact (B.exec_trySend hk he).2 hf
  case receive => exact absurd hb.1 ht
  case drain => exact absurd hb.1 ht
  case other => exact (B.exec_other hk he).2.mpr hf

/-- A calm server that is answered stays calm until it has made room. -/
theorem calm_answer (hc : B.Calm (.call o k)) (he : M.exec t o c s = some (r, s'))
    (hf : B.Full s') : B.Calm (k r) := by
  unfold Calm Prog.fold Kind.calm at hc
  cases hk : B.kind o <;> simp only [hk] at hc
  case unlock => exact hc r
  case receive => exact absurd hf (B.exec_receive hk he).2
  case drain => exact absurd hf (B.exec_drain hk he).2
  case other => exact hc r

theorem not_calm_lock (hk : B.kind o = .lock) : ¬ B.Calm (.call o k) := by
  unfold Calm Prog.fold Kind.calm
  simp only [hk]
  exact not_false

theorem not_calm_send (hk : B.kind o = .send) : ¬ B.Calm (.call o k) := by
  unfold Calm Prog.fold Kind.calm
  simp only [hk]
  exact not_false

end Call

section Run

variable {cfg cfg' : Config Op Ret σ} {l : Label Reply Request}

theorem Guarded.step (hL : B.Lawful) (hg : B.Guarded cfg) (hs : Step M cfg l cfg') :
    B.Guarded cfg' := by
  cases hs with
  | @answer t o k w reply r s htask he =>
    obtain ⟨hown, hother⟩ := balanced_answer (hg.balanced htask) he
    have htask' : (cfg.setShared s).task t = some ⟨.call o k, w⟩ := by simpa using htask
    constructor
    · intro u x hu
      rw [Config.setTask_shared]
      rcases Config.setTask_cases htask' hu with ⟨rfl, rfl⟩ | ⟨hut, hold⟩
      · exact hown
      · rw [Config.setShared_task] at hold
        simpa [hother u hut] using hg.balanced hold
    · intro u hu
      obtain ⟨hut, hold⟩ := Config.setTask_none htask' hu
      rw [Config.setShared_task] at hold
      simpa [hother u hut] using hg.absent hold
  | @wait t o k w reply htask he =>
    constructor
    · intro u x hu
      rw [Config.setTask_shared]
      rcases Config.setTask_cases htask hu with ⟨rfl, rfl⟩ | ⟨-, hold⟩
      · have hb := hg.balanced htask
        exact hb
      · exact hg.balanced hold
    · intro u hu
      rw [Config.setTask_shared]
      exact hg.absent (Config.setTask_none htask hu).2
  | @serve a w reply p hserver hp =>
    have htask : cfg.task .server = some ⟨.pure a, w⟩ := congrArg some hserver
    have hfree : (B.mutex cfg.shared).held .server = 0 := hg.balanced htask
    constructor
    · intro u x hu
      rw [Config.setTask_shared]
      rcases Config.setTask_cases htask hu with ⟨rfl, rfl⟩ | ⟨-, hold⟩
      · rw [hfree]
        exact (hL.serve hp).1
      · exact hg.balanced hold
    · intro u hu
      rw [Config.setTask_shared]
      exact hg.absent (Config.setTask_none htask hu).2
  | @arrive req s p ha =>
    obtain ⟨hm, -⟩ := B.arrive ha
    constructor
    · intro u x hu
      change B.Balanced u x.prog ((B.mutex s).held u)
      rw [hm]
      cases hold : cfg.task u with
      | some y =>
        obtain rfl := Option.some.inj ((Config.enter_old hold).symm.trans hu)
        exact hg.balanced hold
      | none =>
        rcases Config.enter_task hu with h | rfl
        · exact absurd (hold.symm.trans h) (by simp)
        · rw [hg.absent hold]
          cases u with
          | server => exact absurd hold (by simp [Config.task])
          | client i => exact hL.arrive ha
    · intro u hu
      change (B.mutex s).held u = 0
      rw [hm]
      cases hold : cfg.task u with
      | some y => exact absurd ((Config.enter_old hold).symm.trans hu) (by simp)
      | none => exact hg.absent hold

theorem Safe.step (hL : B.Lawful) (hsafe : B.Safe cfg) (hr : B.Roomy cfg l)
    (hs : Step M cfg l cfg') : B.Safe cfg' := by
  refine ⟨hsafe.toGuarded.step hL hs, ?_⟩
  cases hs with
  | @answer t o k w reply r s htask he =>
    intro u o' k' hu hsend hfull
    rw [Config.setTask_shared] at hfull
    have htask' : (cfg.setShared s).task t = some ⟨.call o k, w⟩ := by simpa using htask
    rcases Config.setTask_cases htask' hu with ⟨-, h⟩ | ⟨hut, hold⟩
    · exact absurd h (by simp)
    rw [Config.setShared_task] at hold
    have hholds := balanced_send (hsafe.balanced hold) hsend
    -- the waiting sender holds the mutex, so the answered task has not filled the mailbox
    have hbefore : B.Full cfg.shared := by
      rcases full_answer (hsafe.balanced htask) he hfull with h | h
      · exact h
      · exact absurd (RecMutex.held_unique h hholds) hut
    have hcalm := hsafe.calm hold hsend hbefore
    cases t with
    | server =>
      have hserver : cfg.server = ⟨.call o k, w⟩ := Option.some.inj htask
      rw [hserver] at hcalm
      exact calm_answer hcalm he hfull
    | client i => exact hcalm
  | @wait t o k w reply htask he =>
    intro u o' k' hu hsend hfull
    rw [Config.setTask_shared] at hfull
    have hcalm : B.Calm cfg.server.prog := by
      rcases Config.setTask_cases htask hu with ⟨rfl, h⟩ | ⟨-, hold⟩
      · obtain ⟨rfl, -⟩ : o' = o ∧ HEq k' k := by simpa using h
        exact hr _ k w htask hsend hfull
      · exact hsafe.calm hold hsend hfull
    cases t with
    | server =>
      have hserver : cfg.server = ⟨.call o k, w⟩ := Option.some.inj htask
      rw [hserver] at hcalm
      exact hcalm
    | client i => exact hcalm
  | @serve a w reply p hserver hp =>
    intro u o' k' hu hsend hfull
    exact (hL.serve hp).2
  | @arrive req s p ha =>
    intro u o' k' hu hsend hfull
    rcases Config.enter_task hu with h | h
    · exact hsafe.calm h hsend ((B.arrive ha).2.mp hfull)
    · exact absurd h (by simp)

theorem Safe.not_deadlocked (hsafe : B.Safe cfg) : ¬ B.Deadlocked cfg := by
  rintro ⟨hfull, ⟨o, k, htask, hk⟩ | ⟨⟨o, k, htask, hk⟩, t, -, -, o', k', htask', hk'⟩⟩
  · have hserver : cfg.server = ⟨.call o k, true⟩ := Option.some.inj htask
    have hcalm := hsafe.calm htask hk hfull
    rw [hserver] at hcalm
    exact not_calm_send hk hcalm
  · have hserver : cfg.server = ⟨.call o k, true⟩ := Option.some.inj htask
    have hcalm := hsafe.calm htask' hk' hfull
    rw [hserver] at hcalm
    exact not_calm_lock hk hcalm

/-- From a start in which nobody waits or holds the mutex, a run in which the mailbox is full only
when the server is about to receive never deadlocks. -/
theorem not_deadlocked_of_path (hL : B.Lawful) (hsafe : B.Safe cfg)
    {ls : List (Label Reply Request)} (hp : Path M B.Roomy cfg ls cfg') : ¬ B.Deadlocked cfg' :=
  (hp.invariant (fun hs hr hstep => Safe.step hL hs hr hstep) hsafe).not_deadlocked

/-- No answer is possible to the next call of task `t`. -/
def Stuck (cfg : Config Op Ret σ) (M : Machine Op Ret Reply Request σ) (t : TaskId) : Prop :=
  ∀ {o k w c r s}, cfg.task t = some ⟨.call o k, w⟩ → M.exec t o c cfg.shared ≠ some (r, s)

theorem Waits.stuck {t : TaskId} {kd : Kind} (hw : B.Waits cfg t kd)
    (hno : ∀ {o c r s}, B.kind o = kd → M.exec t o c cfg.shared ≠ some (r, s)) :
    Stuck cfg M t := by
  obtain ⟨o, k, htask, hk⟩ := hw
  intro o' k' w c r s htask'
  obtain ⟨⟨rfl, -⟩, -⟩ : (o = o' ∧ HEq k k') ∧ true = w := by
    simpa using htask.symm.trans htask'
  exact hno hk

/-- A waiting task that is stuck keeps its place. -/
theorem Waits.step {t : TaskId} {kd : Kind} (hw : B.Waits cfg t kd) (hstuck : Stuck cfg M t)
    (hs : Step M cfg l cfg') : B.Waits cfg' t kd ∧ cfg'.task t = cfg.task t := by
  obtain ⟨o, k, htask, hk⟩ := hw
  suffices h : cfg'.task t = some ⟨.call o k, true⟩ from ⟨⟨o, k, h, hk⟩, h.trans htask.symm⟩
  cases hs with
  | @answer u o' k' w reply r s hu he =>
    have hut : t ≠ u := by
      rintro rfl
      exact hstuck hu he
    rw [Config.setTask_other hut, Config.setShared_task]
    exact htask
  | @wait u o' k' w reply hu he =>
    by_cases hut : t = u
    · subst hut
      rw [Config.setTask_self hu]
      obtain ⟨⟨rfl, hk'⟩, -⟩ : (o = o' ∧ HEq k k') ∧ true = w := by
        simpa using htask.symm.trans hu
      rw [eq_of_heq hk']
    · rw [Config.setTask_other hut]
      exact htask
  | @serve a w reply p hserver hp =>
    have hut : t ≠ .server := by
      rintro rfl
      have := (congrArg some hserver).symm.trans htask
      simp at this
    rw [Config.setTask_other hut]
    exact htask
  | arrive ha => exact Config.enter_old htask

/-- While the server and the holder of the mutex are stuck, the mailbox stays full and the mutex
taken. -/
theorem Guarded.step_full (hg : B.Guarded cfg) (hfull : B.Full cfg.shared) {t : TaskId}
    (ht : 0 < (B.mutex cfg.shared).held t) (hserver : Stuck cfg M .server) (hstuck : Stuck cfg M t)
    (hs : Step M cfg l cfg') : B.Full cfg'.shared ∧ 0 < (B.mutex cfg'.shared).held t := by
  cases hs with
  | @answer u o k w reply r s hu he =>
    rw [Config.setTask_shared, Config.setShared_shared]
    have hus : u ≠ .server := by
      rintro rfl
      exact hserver hu he
    have hut : t ≠ u := by
      rintro rfl
      exact hstuck hu he
    have hb := hg.balanced hu
    constructor
    · exact full_kept hb hus he hfull
    · rw [(balanced_answer hb he).2 t hut]
      exact ht
  | wait hu he =>
    rw [Config.setTask_shared]
    exact ⟨hfull, ht⟩
  | serve hpure hp =>
    rw [Config.setTask_shared]
    exact ⟨hfull, ht⟩
  | arrive ha =>
    obtain ⟨hm, hf⟩ := B.arrive ha
    constructor
    · exact hf.mpr hfull
    · exact hm ▸ ht

/-- A deadlock is for ever: the server stays in the same call. -/
theorem Deadlocked.step (hg : B.Guarded cfg) (hd : B.Deadlocked cfg) (hs : Step M cfg l cfg') :
    B.Deadlocked cfg' ∧ cfg'.server = cfg.server := by
  obtain ⟨hfull, hwho⟩ := hd
  have hsend : ∀ {t o c r s}, B.kind o = .send → M.exec t o c cfg.shared ≠ some (r, s) :=
    fun hk he => (B.exec_send hk he).2 hfull
  rcases hwho with hserver | ⟨hserver, t, ht, hholds, hwaits⟩
  · have hstuck : Stuck cfg M .server := hserver.stuck hsend
    obtain ⟨hserver', hsame⟩ := hserver.step hstuck hs
    have hholds : 0 < (B.mutex cfg.shared).held .server := by
      obtain ⟨o, k, htask, hk⟩ := hserver
      exact balanced_send (hg.balanced htask) hk
    have hfull' := (hg.step_full hfull hholds hstuck hstuck hs).1
    exact ⟨⟨hfull', .inl hserver'⟩, Option.some.inj hsame⟩
  · have hlock : ∀ {o c r s}, B.kind o = .lock → M.exec .server o c cfg.shared ≠ some (r, s) := by
      intro o c r s hk he
      have hnone := B.lock_waits (c := c) hk (RecMutex.lock_eq_none_of_held hholds ht)
      rw [hnone] at he
      exact absurd he (by simp)
    have hstuck : Stuck cfg M .server := hserver.stuck hlock
    have hstuck' : Stuck cfg M t := hwaits.stuck hsend
    obtain ⟨hserver', hsame⟩ := hserver.step hstuck hs
    obtain ⟨hwaits', -⟩ := hwaits.step hstuck' hs
    obtain ⟨hfull', hholds'⟩ := hg.step_full hfull hholds hstuck hstuck' hs
    exact ⟨⟨hfull', .inr ⟨hserver', t, ht, hholds', hwaits'⟩⟩, Option.some.inj hsame⟩

/-- Whatever the tasks and the environment do after a deadlock, the server has not moved. -/
theorem Deadlocked.forever (hL : B.Lawful) (hg : B.Guarded cfg) (hd : B.Deadlocked cfg)
    {ok : Config Op Ret σ → Label Reply Request → Prop} {ls : List (Label Reply Request)}
    (hp : Path M ok cfg ls cfg') : cfg'.server = cfg.server := by
  induction hp with
  | nil => rfl
  | cons hs _ _ ih =>
    obtain ⟨hd', hsame⟩ := hd.step hg hs
    exact (ih (hg.step hL hs) hd').trans hsame

end Run

end Mailbox

end TaskSystem
