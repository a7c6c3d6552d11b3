import Esp32WifiManager.Lib.TaskSystem
import Mathlib.Tactic.Common

/-!
# A flag that announces a message

A sender raises the flag and puts its message into the queue; the server takes
the message out and lowers the flag. The flag is up exactly while a message is
on its way, as long as no message is lost and no second one is on its way when
the flag is lowered.
-/

namespace TaskSystem

/-- Where a task is with an announced message: it is about to put it into the queue, or it has
taken it out and is about to lower the flag. -/
inductive Stage
  | idle
  | sending
  | handling
  deriving DecidableEq

/-- What a call means to the flag. `inside go` may stand between raising and posting, and between
receiving and lowering: the task gives up when the answer is not `go`. No orderly program makes a
call that is `never` made. -/
inductive Role (ρ : Type)
  | raise
  | inside (go : ρ)
  | post
  | receive (isMsg : ρ → Bool)
  | lower
  | drain
  | other
  | never

variable {Op : Type} {Ret : Op → Type} {Reply Request σ : Type}

namespace Role

variable {ρ : Type}

def stage (X : ρ → Stage) : Role ρ → Stage
  | .post => .sending
  | .lower => .handling
  | .inside go => X go
  | .raise | .receive _ | .drain | .other | .never => .idle

/-- What a call needs of the stage of its task, when `X` is needed of what follows. -/
def orderly (t : TaskId) (X : ρ → Stage → Prop) (st : Stage) : Role ρ → Prop
  | .raise => st = .idle ∧ ∀ r, X r .sending
  | .inside go => X go st ∧ ∀ r, r ≠ go → X r .idle
  | .post => st = .sending ∧ ∀ r, X r .idle
  | .receive isMsg =>
    t = .server ∧ st = .idle ∧ ∀ r, X r (if isMsg r then .handling else .idle)
  | .lower => t = .server ∧ st = .handling ∧ ∀ r, X r .idle
  | .drain => t = .server ∧ st = .idle ∧ ∀ r, X r .idle
  | .other => st = .idle ∧ ∀ r, X r .idle
  | .never => False

theorem orderly_mono {t : TaskId} {X Y : ρ → Stage → Prop} {st : Stage} {role : Role ρ}
    (h : ∀ r st, X r st → Y r st) (hrole : role.orderly t X st) : role.orderly t Y st := by
  cases role with
  | inside go => exact ⟨h _ _ hrole.1, fun r hr => h _ _ (hrole.2 r hr)⟩
  | raise | post | other => exact ⟨hrole.1, fun r => h _ _ (hrole.2 r)⟩
  | receive | lower | drain => exact ⟨hrole.1, hrole.2.1, fun r => h _ _ (hrole.2.2 r)⟩
  | never => exact absurd hrole not_false

end Role

/-- A flag, the messages that it announces, and the queue they go through. -/
structure Announcement (M : Machine Op Ret Reply Request σ) where
  role : (o : Op) → Role (Ret o)
  flag : σ → Bool
  count : σ → ℕ
  Missing : σ → Prop
  Room : Op → σ → Prop
  exec_raise : ∀ {t o c s r s'}, role o = .raise → M.exec t o c s = some (r, s') →
    flag s' = true ∧ count s' = count s ∧ (Missing s' ↔ Missing s)
  exec_inside : ∀ {t o c s r s' go}, role o = .inside go → M.exec t o c s = some (r, s') →
    flag s' = flag s ∧ count s' = count s ∧ (Missing s' ↔ Missing s) ∧ (r ≠ go → Missing s)
  exec_post : ∀ {t o c s r s'}, role o = .post → M.exec t o c s = some (r, s') →
    flag s' = flag s ∧ (Missing s' ↔ Missing s) ∧ count s' ≤ count s + 1 ∧
      (¬ Missing s → Room o s → count s' = count s + 1)
  exec_receive : ∀ {t o c s r s' isMsg}, role o = .receive isMsg → M.exec t o c s = some (r, s') →
    flag s' = flag s ∧ (Missing s' ↔ Missing s) ∧
      count s = count s' + if isMsg r then 1 else 0
  exec_lower : ∀ {t o c s r s'}, role o = .lower → M.exec t o c s = some (r, s') →
    flag s' = false ∧ count s' = count s ∧ (Missing s' ↔ Missing s)
  exec_drain : ∀ {t o c s r s'}, role o = .drain → M.exec t o c s = some (r, s') →
    flag s' = flag s ∧ count s' = 0
  exec_other : ∀ {t o c s r s'}, role o = .other → M.exec t o c s = some (r, s') →
    flag s' = flag s ∧ count s' = count s ∧ (Missing s' ↔ Missing s)
  arrive : ∀ {req s s' p}, M.arrive req s = some (s', p) →
    flag s' = flag s ∧ count s' = count s ∧ (Missing s' ↔ Missing s)

namespace Announcement

variable {M : Machine Op Ret Reply Request σ} (A : Announcement M)

/-- Where a task is that is left with this program. -/
def stage {α : Type} (p : Prog Op Ret α) : Stage :=
  p.fold (fun o X => (A.role o).stage X) (fun _ => .idle)

/-- A program of task `t` that raises the flag before it posts a message, and lowers it when it
has received one. -/
def Orderly {α : Type} (t : TaskId) (p : Prog Op Ret α) : Stage → Prop :=
  p.fold (fun o X st => (A.role o).orderly t X st) (fun _ st => st = .idle)

/-- Task `t` has raised the flag and not posted yet, or received and not lowered yet. -/
def Busy (cfg : Config Op Ret σ) (t : TaskId) : Prop :=
  ∃ x, cfg.task t = some x ∧ A.stage x.prog ≠ .idle

/-- A message is in the queue, on its way to it, or in the hands of the server. -/
def Pending (cfg : Config Op Ret σ) : Prop := 0 < A.count cfg.shared ∨ ∃ t, A.Busy cfg t

/-- The flag tells whether a message is pending. -/
structure Announced (cfg : Config Op Ret σ) : Prop where
  orderly : ∀ {t x}, cfg.task t = some x → A.Orderly t x.prog (A.stage x.prog)
  flag : A.flag cfg.shared = true ↔ A.Pending cfg
  missing : A.Missing cfg.shared → ¬ A.Pending cfg

/-- Before task `t` makes the call `o`: no message is sent where there is no queue or no room for
it, the queue is not deleted with a message, and no other message is pending when the flag is
lowered. -/
def Timely (cfg : Config Op Ret σ) (t : TaskId) (o : Op) : Prop :=
  (A.role o = .raise → ¬ A.Missing cfg.shared) ∧ (A.role o = .post → A.Room o cfg.shared) ∧
    (A.role o = .drain → A.flag cfg.shared = false) ∧
    (A.role o = .lower → A.count cfg.shared = 0 ∧ ∀ u ≠ t, ¬ A.Busy cfg u)

/-- What the environment starts, and what the server takes up, is orderly. -/
structure Lawful : Prop where
  arrive : ∀ {req s s' p i}, M.arrive req s = some (s', p) → A.Orderly (.client i) p .idle
  serve : ∀ {s p}, M.serve s = some p → A.Orderly .server p .idle

section Programs

variable {A} {α β : Type} {t : TaskId} {p : Prog Op Ret α} {st : Stage}

theorem stage_eq (h : A.Orderly t p st) : A.stage p = st := by
  induction p generalizing st with
  | pure a => exact h.symm
  | call o k ih =>
    unfold Orderly Prog.fold Role.orderly at h
    unfold stage Prog.fold Role.stage
    cases hrole : A.role o <;> simp only [hrole] at h ⊢
    case raise => exact h.1.symm
    case inside go => exact ih go h.1
    case post => exact h.1.symm
    case receive => exact h.2.1.symm
    case lower => exact h.2.1.symm
    case drain => exact h.2.1.symm
    case other => exact h.1.symm

theorem orderly_bind {f : α → Prog Op Ret β} (hp : A.Orderly t p st)
    (hf : ∀ a, A.Orderly t (f a) .idle) : A.Orderly t (p >>= f) st := by
  induction p generalizing st with
  | pure a =>
    obtain rfl : st = .idle := hp
    exact hf a
  | call o k ih => exact Role.orderly_mono (fun r st hr => ih r hr) hp

/-- Calls that have no part in it, and the first calls of a send. -/
def Neutral (A : Announcement M) (o : Op) : Prop := A.role o = .other ∨ ∃ go, A.role o = .inside go

theorem orderly_of_neutral (hp : p.All A.Neutral) : A.Orderly t p .idle := by
  induction p with
  | pure a => exact rfl
  | call o k ih =>
    obtain ⟨ho, hk⟩ := hp
    unfold Orderly Prog.fold Role.orderly
    rcases ho with hrole | ⟨go, hrole⟩
    · simp only [hrole]
      exact ⟨trivial, fun r => ih r (hk r)⟩
    · simp only [hrole]
      exact ⟨ih go (hk go), fun r _ => ih r (hk r)⟩

end Programs

section Steps

variable {A} {cfg cfg' : Config Op Ret σ} {l : Label Reply Request} {t u : TaskId}
  {old x : Task Op Ret}

theorem busy_iff (h : cfg.task t = some x) : A.Busy cfg t ↔ A.stage x.prog ≠ .idle := by
  constructor
  · rintro ⟨y, hy, hstage⟩
    obtain rfl := Option.some.inj (h.symm.trans hy)
    exact hstage
  · intro hstage
    exact ⟨x, h, hstage⟩

/-- A task that lowers the flag has received the message. -/
theorem busy_of_lower {o : Op} {k : Ret o → Prog Op Ret Unit} {w : Bool}
    (h : cfg.task t = some ⟨.call o k, w⟩) (hrole : A.role o = .lower) : A.Busy cfg t := by
  refine ⟨_, h, ?_⟩
  simp [stage, Prog.fold, Role.stage, hrole]

theorem busy_setTask_other (h : u ≠ t) : A.Busy (cfg.setTask x t) u ↔ A.Busy cfg u := by
  unfold Busy
  rw [Config.setTask_other h]

/-- A message is pending with task `t` or without it. -/
theorem pending_iff (h : cfg.task t = some x) :
    A.Pending cfg ↔ 0 < A.count cfg.shared ∨ A.stage x.prog ≠ .idle ∨ ∃ u ≠ t, A.Busy cfg u := by
  rw [← busy_iff h]
  unfold Pending
  constructor
  · rintro (hcount | ⟨u, hu⟩)
    · exact .inl hcount
    · by_cases hut : u = t
      · exact .inr (.inl (hut ▸ hu))
      · exact .inr (.inr ⟨u, hut, hu⟩)
  · rintro (hcount | ht | ⟨u, -, hu⟩)
    · exact .inl hcount
    · exact .inr ⟨t, ht⟩
    · exact .inr ⟨u, hu⟩

/-- The same after a step of task `t`. -/
theorem pending_setTask (h : cfg.task t = some old) :
    A.Pending (cfg.setTask x t) ↔
      0 < A.count cfg.shared ∨ A.stage x.prog ≠ .idle ∨ ∃ u ≠ t, A.Busy cfg u := by
  rw [pending_iff (Config.setTask_self h x), Config.setTask_shared]
  constructor
  · rintro (hcount | ht | ⟨u, hut, hu⟩)
    · exact .inl hcount
    · exact .inr (.inl ht)
    · exact .inr (.inr ⟨u, hut, (busy_setTask_other hut).mp hu⟩)
  · rintro (hcount | ht | ⟨u, hut, hu⟩)
    · exact .inl hcount
    · exact .inr (.inl ht)
    · exact .inr (.inr ⟨u, hut, (busy_setTask_other hut).mpr hu⟩)

/-- A task has been answered, and the flag is right again. -/
theorem Announced.setTask {s : σ} {p : Prog Op Ret Unit} {w : Bool} {st : Stage}
    (h : A.Announced cfg) (htask : cfg.task t = some old) (hown : A.Orderly t p st)
    (hflag : A.flag s = true ↔ 0 < A.count s ∨ st ≠ .idle ∨ ∃ u ≠ t, A.Busy cfg u)
    (hmissing : A.Missing s → ¬ (0 < A.count s ∨ st ≠ .idle ∨ ∃ u ≠ t, A.Busy cfg u)) :
    A.Announced ((cfg.setShared s).setTask ⟨p, w⟩ t) := by
  have htask' : (cfg.setShared s).task t = some old := by simpa using htask
  have hbusy : ∀ u, A.Busy (cfg.setShared s) u ↔ A.Busy cfg u := by
    intro u
    unfold Busy
    rw [Config.setShared_task]
  have hpending : A.Pending ((cfg.setShared s).setTask ⟨p, w⟩ t) ↔
      0 < A.count s ∨ st ≠ .idle ∨ ∃ u ≠ t, A.Busy cfg u := by
    rw [pending_setTask htask', stage_eq hown]
    simp only [hbusy, Config.setShared_shared]
  constructor
  · intro u x hu
    rcases Config.setTask_cases htask' hu with ⟨rfl, rfl⟩ | ⟨-, hold⟩
    · rw [stage_eq hown]
      exact hown
    · rw [Config.setShared_task] at hold
      exact h.orderly hold
  · rw [hpending, Config.setTask_shared]
    exact hflag
  · rw [hpending, Config.setTask_shared]
    exact hmissing

/-- A task has been answered, and nothing is pending any more. -/
theorem Announced.clear {s : σ} {p : Prog Op Ret Unit} {w : Bool} (h : A.Announced cfg)
    (htask : cfg.task t = some old) (hown : A.Orderly t p .idle) (hdown : A.flag s = false)
    (hcount : A.count s = 0) (hothers : ∀ u ≠ t, ¬ A.Busy cfg u) :
    A.Announced ((cfg.setShared s).setTask ⟨p, w⟩ t) := by
  have hnone : ¬ (0 < A.count s ∨ Stage.idle ≠ .idle ∨ ∃ u ≠ t, A.Busy cfg u) := by
    rintro (hpos | hne | ⟨u, hut, hu⟩)
    · omega
    · exact hne rfl
    · exact hothers u hut hu
  apply h.setTask htask hown
  · simp only [hdown, hnone, Bool.false_eq_true]
  · exact fun _ => hnone

/-- A call keeps the flag in step with the messages. -/
theorem Announced.answer {o : Op} {k : Ret o → Prog Op Ret Unit} {w : Bool} {c : Reply} {r : Ret o}
    {s : σ} (h : A.Announced cfg) (htimely : A.Timely cfg t o)
    (htask : cfg.task t = some ⟨.call o k, w⟩) (he : M.exec t o c cfg.shared = some (r, s)) :
    A.Announced ((cfg.setShared s).setTask ⟨k r, false⟩ t) := by
  obtain ⟨hraise, hpost, hdrain, hlower⟩ := htimely
  have hord := h.orderly htask
  have hflag := h.flag
  have hmissing := h.missing
  rw [pending_iff htask] at hflag hmissing
  dsimp only at hord hflag hmissing
  generalize A.stage (.call o k) = st at hord hflag hmissing
  unfold Orderly Prog.fold Role.orderly at hord
  cases hrole : A.role o <;> simp only [hrole] at hord
  case raise =>
    obtain ⟨rfl, hk⟩ := hord
    obtain ⟨hup, -, hm⟩ := A.exec_raise hrole he
    apply h.setTask htask (hk r)
    · simp [hup]
    · intro hs
      exact absurd (hm.mp hs) (hraise hrole)
  case inside go =>
    obtain ⟨hf, hc, hm, hgo⟩ := A.exec_inside hrole he
    by_cases hr : r = go
    · subst hr
      apply h.setTask htask hord.1
      · rw [hf, hc]
        exact hflag
      · rw [hm, hc]
        exact hmissing
    · have hnone := hmissing (hgo hr)
      apply h.clear htask (hord.2 r hr)
      · rw [hf]
        exact Bool.eq_false_iff.mpr fun hup => hnone (hflag.mp hup)
      · have hcount : ¬ 0 < A.count cfg.shared := fun hpos => hnone (.inl hpos)
        omega
      · exact fun u hut hu => hnone (.inr (.inr ⟨u, hut, hu⟩))
  case post =>
    obtain ⟨rfl, hk⟩ := hord
    obtain ⟨hf, hm, -, hroom⟩ := A.exec_post hrole he
    have hthere : ¬ A.Missing cfg.shared := fun hs => hmissing hs (.inr (.inl (by simp)))
    have hc := hroom hthere (hpost hrole)
    apply h.setTask htask (hk r)
    · rw [hf, hflag, hc]
      simp
    · rw [hm]
      exact fun hs => absurd hs hthere
  case receive isMsg =>
    obtain ⟨-, rfl, hk⟩ := hord
    obtain ⟨hf, hm, hc⟩ := A.exec_receive hrole he
    have hk := hk r
    rw [hc] at hflag hmissing
    apply h.setTask htask hk
    · rw [hf, hflag]
      cases isMsg r <;> simp
    · rw [hm]
      intro hs
      have hnone := hmissing hs
      cases hmsg : isMsg r <;> simp [hmsg] at hnone ⊢
      exact hnone
  case lower =>
    obtain ⟨-, rfl, hk⟩ := hord
    obtain ⟨hdown, hc, -⟩ := A.exec_lower hrole he
    obtain ⟨hcount, hothers⟩ := hlower hrole
    exact h.clear htask (hk r) hdown (hc.trans hcount) hothers
  case drain =>
    obtain ⟨-, rfl, hk⟩ := hord
    obtain ⟨hf, hc⟩ := A.exec_drain hrole he
    have hdown := hdrain hrole
    apply h.clear htask (hk r) (hf.trans hdown) hc
    intro u hut hu
    have hup := hflag.mpr (.inr (.inr ⟨u, hut, hu⟩))
    exact absurd hup (by simp [hdown])
  case other =>
    obtain ⟨rfl, hk⟩ := hord
    obtain ⟨hf, hc, hm⟩ := A.exec_other hrole he
    apply h.setTask htask (hk r)
    · rw [hf, hc]
      exact hflag
    · rw [hm, hc]
      exact hmissing

/-- The call of a step. -/
def Meets (A : Announcement M) (cfg : Config Op Ret σ) : Label Reply Request → Prop
  | .arrive _ => True
  | .run t _ => ∀ o k w, cfg.task t = some ⟨.call o k, w⟩ → A.Timely cfg t o

theorem Announced.step (hA : A.Lawful) (h : A.Announced cfg) (hm : A.Meets cfg l)
    (hs : Step M cfg l cfg') : A.Announced cfg' := by
  cases hs with
  | answer htask he => exact h.answer (hm _ _ _ htask) htask he
  | @wait t o k w reply htask he =>
    have hown := h.orderly htask
    have hflag := h.flag
    have hmissing := h.missing
    rw [pending_iff htask] at hflag hmissing
    exact h.setTask (s := cfg.shared) htask hown hflag hmissing
  | @serve a w reply p hserver hp =>
    have htask : cfg.task .server = some ⟨.pure a, w⟩ := congrArg some hserver
    have hflag := h.flag
    have hmissing := h.missing
    rw [pending_iff htask] at hflag hmissing
    exact h.setTask (s := cfg.shared) htask (hA.serve hp) hflag hmissing
  | @arrive req s p ha =>
    obtain ⟨hf, hc, hmiss⟩ := A.arrive ha
    have hclient : ∀ i, A.Orderly (.client i) p .idle := fun i => hA.arrive ha
    have hpending : A.Pending (cfg.enter s p) ↔ A.Pending cfg := by
      unfold Pending
      rw [show A.count (cfg.enter s p).shared = A.count cfg.shared from hc]
      apply or_congr Iff.rfl
      constructor
      · rintro ⟨u, x, hx, hstage⟩
        rcases Config.enter_task hx with hold | rfl
        · exact ⟨u, x, hold, hstage⟩
        · exact absurd (stage_eq (hclient 0)) hstage
      · rintro ⟨u, x, hx, hstage⟩
        exact ⟨u, x, Config.enter_old hx, hstage⟩
    constructor
    · intro u x hu
      cases hold : cfg.task u with
      | some y =>
        obtain rfl := Option.some.inj ((Config.enter_old hold).symm.trans hu)
        exact h.orderly hold
      | none =>
        rcases Config.enter_task hu with hx | rfl
        · exact absurd (hold.symm.trans hx) (by simp)
        · cases u with
          | server => exact absurd hold (by simp [Config.task])
          | client i =>
            rw [stage_eq (hclient i)]
            exact hclient i
    · rw [hpending, ← h.flag, show A.flag (cfg.enter s p).shared = A.flag cfg.shared from hf]
    · rw [hpending]
      exact fun hs => h.missing (hmiss.mp hs)

theorem Announced.path (hA : A.Lawful) {ls : List (Label Reply Request)} (h : A.Announced cfg)
    (hp : Path M A.Meets cfg ls cfg') : A.Announced cfg' := by
  induction hp with
  | nil => exact h
  | cons hs hl _ ih => exact ih (h.step hA hl hs)

/-! ### One message at a time -/

/-- At most one message is pending. -/
structure Single (A : Announcement M) (cfg : Config Op Ret σ) : Prop where
  count : A.count cfg.shared ≤ 1
  queued : 0 < A.count cfg.shared → ∀ t, ¬ A.Busy cfg t
  unique : ∀ {t u}, A.Busy cfg t → A.Busy cfg u → u = t

/-- A busy task has the only message. -/
theorem Single.alone (h : A.Single cfg) (ht : A.Busy cfg t) :
    A.count cfg.shared = 0 ∧ ∀ u ≠ t, ¬ A.Busy cfg u := by
  constructor
  · by_contra hne
    exact h.queued (Nat.pos_of_ne_zero hne) t ht
  · intro u hut hu
    exact hut (h.unique ht hu)

theorem Single.setTask {s : σ} {p : Prog Op Ret Unit} {w : Bool} {st : Stage} (h : A.Single cfg)
    (htask : cfg.task t = some old) (hown : A.Orderly t p st) (hcount : A.count s ≤ 1)
    (hqueued : 0 < A.count s → st = .idle ∧ ∀ u ≠ t, ¬ A.Busy cfg u)
    (hbusy : st ≠ .idle → ∀ u ≠ t, ¬ A.Busy cfg u) :
    A.Single ((cfg.setShared s).setTask ⟨p, w⟩ t) := by
  have htask' : (cfg.setShared s).task t = some old := by simpa using htask
  have hself : A.Busy ((cfg.setShared s).setTask ⟨p, w⟩ t) t ↔ st ≠ .idle := by
    rw [busy_iff (Config.setTask_self htask' _), stage_eq hown]
  have hother : ∀ u ≠ t, A.Busy ((cfg.setShared s).setTask ⟨p, w⟩ t) u ↔ A.Busy cfg u := by
    intro u hut
    rw [busy_setTask_other hut]
    unfold Busy
    rw [Config.setShared_task]
  constructor
  · rw [Config.setTask_shared]
    exact hcount
  · rw [Config.setTask_shared]
    intro hpos u hu
    obtain ⟨hst, hothers⟩ := hqueued hpos
    by_cases hut : u = t
    · subst hut
      exact hself.mp hu hst
    · exact hothers u hut ((hother u hut).mp hu)
  · intro u v hu hv
    by_cases hut : u = t <;> by_cases hvt : v = t
    · rw [hut, hvt]
    · subst hut
      exact absurd ((hother v hvt).mp hv) (hbusy (hself.mp hu) v hvt)
    · subst hvt
      exact absurd ((hother u hut).mp hu) (hbusy (hself.mp hv) u hut)
    · exact h.unique ((hother u hut).mp hu) ((hother v hvt).mp hv)

/-- One message stays one when the flag is raised only while it is down. -/
theorem Single.answer {o : Op} {k : Ret o → Prog Op Ret Unit} {w : Bool} {c : Reply} {r : Ret o}
    {s : σ} (hs : A.Single cfg) (h : A.Announced cfg)
    (hraise : A.role o = .raise → A.flag cfg.shared = false)
    (htask : cfg.task t = some ⟨.call o k, w⟩) (he : M.exec t o c cfg.shared = some (r, s)) :
    A.Single ((cfg.setShared s).setTask ⟨k r, false⟩ t) := by
  have hord := h.orderly htask
  have hbusy := busy_iff (A := A) htask
  dsimp only at hord hbusy
  generalize A.stage (.call o k) = st at hord hbusy
  have hbefore : 0 < A.count cfg.shared → st = .idle ∧ ∀ u ≠ t, ¬ A.Busy cfg u := by
    intro hpos
    refine ⟨?_, fun u _ => hs.queued hpos u⟩
    by_contra hne
    exact hs.queued hpos t (hbusy.mpr hne)
  have halone : st ≠ .idle → A.count cfg.shared = 0 ∧ ∀ u ≠ t, ¬ A.Busy cfg u :=
    fun hne => hs.alone (hbusy.mpr hne)
  unfold Orderly Prog.fold Role.orderly at hord
  cases hrole : A.role o <;> simp only [hrole] at hord
  case raise =>
    obtain ⟨-, hc, -⟩ := A.exec_raise hrole he
    have hnone : ¬ A.Pending cfg := fun hp => absurd (h.flag.mpr hp) (by simp [hraise hrole])
    apply hs.setTask htask (hord.2 r)
    · exact hc.le.trans hs.count
    · intro hpos
      exact absurd (.inl (hc ▸ hpos)) hnone
    · exact fun _ u _ hu => hnone (.inr ⟨u, hu⟩)
  case inside go =>
    obtain ⟨-, hc, -, -⟩ := A.exec_inside hrole he
    by_cases hr : r = go
    · subst hr
      apply hs.setTask htask hord.1
      · exact hc.le.trans hs.count
      · exact fun hpos => hbefore (hc ▸ hpos)
      · exact fun hne => (halone hne).2
    · apply hs.setTask htask (hord.2 r hr)
      · exact hc.le.trans hs.count
      · exact fun hpos => ⟨rfl, (hbefore (hc ▸ hpos)).2⟩
      · exact fun hne => absurd rfl hne
  case post =>
    obtain ⟨rfl, hk⟩ := hord
    obtain ⟨-, -, hle, -⟩ := A.exec_post hrole he
    obtain ⟨hzero, hothers⟩ := halone (by simp)
    apply hs.setTask htask (hk r)
    · omega
    · exact fun _ => ⟨rfl, hothers⟩
    · exact fun hne => absurd rfl hne
  case receive isMsg =>
    obtain ⟨-, rfl, hk⟩ := hord
    obtain ⟨-, -, hc⟩ := A.exec_receive hrole he
    have hone := hs.count
    apply hs.setTask htask (hk r)
    · omega
    · intro hpos
      refine ⟨?_, (hbefore (by omega)).2⟩
      cases hmsg : isMsg r
      · rfl
      · simp only [hmsg, if_true] at hc
        omega
    · intro hne
      cases hmsg : isMsg r
      · exact absurd (by simp [hmsg]) hne
      · simp only [hmsg, if_true] at hc
        exact (hbefore (by omega)).2
  case lower =>
    obtain ⟨-, rfl, hk⟩ := hord
    obtain ⟨-, hc, -⟩ := A.exec_lower hrole he
    obtain ⟨hzero, -⟩ := halone (by simp)
    apply hs.setTask htask (hk r)
    · omega
    · omega
    · exact fun hne => absurd rfl hne
  case drain =>
    obtain ⟨-, hc⟩ := A.exec_drain hrole he
    apply hs.setTask htask (hord.2.2 r)
    · omega
    · omega
    · exact fun hne => absurd rfl hne
  case other =>
    obtain ⟨-, hc, -⟩ := A.exec_other hrole he
    apply hs.setTask htask (hord.2 r)
    · exact hc.le.trans hs.count
    · exact fun hpos => ⟨rfl, (hbefore (hc ▸ hpos)).2⟩
    · exact fun hne => absurd rfl hne

theorem Single.step (hA : A.Lawful) (hs : A.Single cfg) (h : A.Announced cfg)
    (hraise : ∀ t c o k w, l = .run t c → cfg.task t = some ⟨.call o k, w⟩ → A.role o = .raise →
      A.flag cfg.shared = false)
    (hstep : Step M cfg l cfg') : A.Single cfg' := by
  cases hstep with
  | answer htask he => exact hs.answer h (hraise _ _ _ _ _ rfl htask) htask he
  | @wait t o k w reply htask he =>
    have hbusy := busy_iff (A := A) htask
    apply hs.setTask (s := cfg.shared) htask (h.orderly htask) hs.count
    · intro hpos
      refine ⟨?_, fun u _ => hs.queued hpos u⟩
      by_contra hne
      exact hs.queued hpos t (hbusy.mpr hne)
    · exact fun hne => (hs.alone (hbusy.mpr hne)).2
  | @serve a w reply p hserver hp =>
    have htask : cfg.task .server = some ⟨.pure a, w⟩ := congrArg some hserver
    apply hs.setTask (s := cfg.shared) htask (hA.serve hp) hs.count
    · exact fun hpos => ⟨rfl, fun u _ => hs.queued hpos u⟩
    · exact fun hne => absurd rfl hne
  | @arrive req s p ha =>
    obtain ⟨-, hc, -⟩ := A.arrive ha
    have hold : ∀ {u}, A.Busy (cfg.enter s p) u → A.Busy cfg u := by
      rintro u ⟨x, hx, hstage⟩
      rcases Config.enter_task hx with hold | rfl
      · exact ⟨x, hold, hstage⟩
      · have hclient : A.Orderly (.client 0) p .idle := hA.arrive ha
        exact absurd (stage_eq hclient) hstage
    have hcount : A.count (cfg.enter s p).shared = A.count cfg.shared := hc
    constructor
    · rw [hcount]
      exact hs.count
    · rw [hcount]
      exact fun hpos t ht => hs.queued hpos t (hold ht)
    · exact fun ht hu => hs.unique (hold ht) (hold hu)

end Steps

end Announcement

end TaskSystem
