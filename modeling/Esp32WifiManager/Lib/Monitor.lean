import Esp32WifiManager.Lib.Ghost
import Esp32WifiManager.Lib.Mailbox

/-!
# Data behind the mutex of a mailbox

Part of the state is touched by nobody but the holder of the mutex, and has its
invariant whenever the mutex is free. A program is fine when each of its calls
finds what it needs, whatever the other tasks have done before the call of what
they may do.
-/

namespace TaskSystem

variable {Op : Type} {Ret : Op → Type} {Reply Request σ : Type}

/-! ### The mailbox of a machine with a record -/

namespace Mailbox

variable {M : Machine Op Ret Reply Request σ} (B : Mailbox M) {γ : Type}
  {note : TaskId → (o : Op) → Reply → Ret o → γ → γ}

def withGhost (note : TaskId → (o : Op) → Reply → Ret o → γ → γ) :
    Mailbox (M.withGhost note) where
  kind := B.kind
  mutex x := B.mutex x.1
  Full x := B.Full x.1
  exec_lock hk h := B.exec_lock hk (exec_withGhost h).1
  lock_waits hk h := Option.map_eq_none_iff.mpr (B.lock_waits hk h)
  exec_unlock hk h := B.exec_unlock hk (exec_withGhost h).1
  exec_send hk h := B.exec_send hk (exec_withGhost h).1
  send_waits hk h := B.send_waits hk (Option.map_eq_none_iff.mp h)
  exec_trySend hk h := B.exec_trySend hk (exec_withGhost h).1
  exec_receive hk h := B.exec_receive hk (exec_withGhost h).1
  exec_drain hk h := B.exec_drain hk (exec_withGhost h).1
  exec_other hk h := B.exec_other hk (exec_withGhost h).1
  arrive h := by
    obtain ⟨⟨s', p'⟩, hs, heq⟩ := Option.map_eq_some_iff.mp h
    obtain ⟨rfl, rfl⟩ := Prod.mk.inj heq
    exact B.arrive hs

variable {B}

theorem Lawful.withGhost (hL : B.Lawful) : (B.withGhost note).Lawful where
  arrive h := by
    obtain ⟨⟨s', p'⟩, hs, heq⟩ := Option.map_eq_some_iff.mp h
    obtain ⟨rfl, rfl⟩ := Prod.mk.inj heq
    exact hL.arrive hs
  serve h := hL.serve h

theorem Guarded.withGhost {cfg : Config Op Ret σ} (hg : B.Guarded cfg) (g : γ) :
    (B.withGhost note).Guarded (cfg.withGhost g) where
  balanced {t} _ h := hg.balanced (t := t) (by cases t <;> exact h)
  absent {t} h := hg.absent (t := t) (by cases t <;> exact h)

/-- Calls that neither take nor release the mutex leave it alone. -/
theorem mutex_exec {t : TaskId} {o : Op} {c : Reply} {r : Ret o} {s s' : σ}
    (hlock : B.kind o ≠ .lock) (hunlock : B.kind o ≠ .unlock)
    (he : M.exec t o c s = some (r, s')) : B.mutex s' = B.mutex s := by
  cases hk : B.kind o with
  | lock => exact absurd hk hlock
  | unlock => exact absurd hk hunlock
  | send => exact (B.exec_send hk he).1
  | trySend => exact (B.exec_trySend hk he).1
  | receive => exact (B.exec_receive hk he).1
  | drain => exact (B.exec_drain hk he).1
  | other => exact (B.exec_other hk he).1

end Mailbox

/-- A task that does not hold the mutex takes it only when it is free. -/
theorem RecMutex.free_of_lock {t : TaskId} {m m' : RecMutex} (h : m.lock t = some m')
    (hheld : m.held t = 0) : m = .free := by
  cases m with
  | free => rfl
  | taken u n =>
    by_cases hu : u = t
    · simp [held, hu] at hheld
    · simp [lock, hu] at h

/-- The call that task `t` is about to make. -/
def Config.nextCall (cfg : Config Op Ret σ) (t : TaskId) : Option Op :=
  (cfg.task t).bind fun x => x.prog.next

theorem Config.of_nextCall {cfg : Config Op Ret σ} {t : TaskId} {o : Op}
    (h : cfg.nextCall t = some o) : ∃ k w, cfg.task t = some ⟨.call o k, w⟩ := by
  obtain ⟨⟨p, w⟩, htask, hnext⟩ := Option.bind_eq_some_iff.mp h
  obtain ⟨k, rfl⟩ := Prog.of_next hnext
  exact ⟨k, w, htask⟩

/-! ### Monitors -/

/-- `view` is what the monitor looks at. The calls that `guarded` holds of need the mutex, the
others leave `kept` what they find. `needs` is what a call of a task has to find, `moves` what it
does and answers then, and `rely` what a task can rely on while others run. -/
structure Monitor {M : Machine Op Ret Reply Request σ} (B : Mailbox M) (β : Type) where
  view : σ → β
  inv : β → Prop
  guarded : Op → Prop
  needs : TaskId → Op → β → Prop
  moves : TaskId → (o : Op) → β → Ret o → β → Prop
  kept : β → β → Prop
  rely : TaskId → β → β → Prop
  done : TaskId → β → Prop
  kept_refl : ∀ v, kept v v
  kept_trans : ∀ {v v' v''}, kept v v' → kept v' v'' → kept v v''
  rely_refl : ∀ t v, rely t v v
  rely_trans : ∀ {t v v' v''}, rely t v v' → rely t v' v'' → rely t v v''
  inv_kept : ∀ {v v'}, kept v v' → inv v → inv v'
  view_lock : ∀ {t o c s r s'}, B.kind o = .lock → M.exec t o c s = some (r, s') → view s' = view s
  view_unlock : ∀ {t o c s r s'}, B.kind o = .unlock → M.exec t o c s = some (r, s') →
    view s' = view s
  exec_moves : ∀ {t o c s r s'}, M.exec t o c s = some (r, s') → moves t o (view s) r (view s')
  exec_kept : ∀ {t o c s r s'}, ¬ guarded o → M.exec t o c s = some (r, s') →
    kept (view s) (view s')
  moves_rely : ∀ {t o v r v' u}, needs t o v → moves t o v r v' → u ≠ t → rely u v v'

namespace Monitor

variable {M : Machine Op Ret Reply Request σ} {B : Mailbox M} {β : Type} (V : Monitor B β)
  {α α' : Type}

/-- What can become of `v` before the next call of a task that holds the mutex `d` times. -/
def Between (t : TaskId) (d : ℕ) (v v' : β) : Prop := V.rely t v v' ∧ (0 < d → V.kept v v')

/-- A call of a task that holds the mutex `d` times and finds `v`, when `X` is needed of what
follows. -/
def allows (t : TaskId) (o : Op) (X : Ret o → ℕ → β → Prop) (d : ℕ) (v : β) : Prop :=
  match B.kind o with
  | .lock => (d = 0 → V.inv v) → ∀ r, X r (d + 1) v
  | .unlock => 0 < d ∧ (d = 1 → V.inv v) ∧ ∀ r, X r (d - 1) v
  | _ => (V.guarded o → 0 < d) ∧ V.needs t o v ∧ ∀ r v', V.moves t o v r v' → X r d v'

/-- Program `p` of task `t` finds what it needs and ends in `post`. -/
def Fine (t : TaskId) (p : Prog Op Ret α) (post : α → ℕ → β → Prop) : ℕ → β → Prop :=
  p.fold (fun o X d v => ∀ v', V.Between t d v v' → V.allows t o X d v') post

/-- What is left of a task that has come to its end. -/
def Ended (t : TaskId) (_ : Unit) (d : ℕ) (v : β) : Prop :=
  d = 0 ∧ ∀ v', V.rely t v v' → V.done t v'

variable {V}

theorem between_refl {t : TaskId} {d : ℕ} {v : β} : V.Between t d v v :=
  ⟨V.rely_refl t v, fun _ => V.kept_refl v⟩

theorem Between.trans {t : TaskId} {d : ℕ} {v v' v'' : β} (h : V.Between t d v v')
    (h' : V.Between t d v' v'') : V.Between t d v v'' :=
  ⟨V.rely_trans h.1 h'.1, fun hd => V.kept_trans (h.2 hd) (h'.2 hd)⟩

@[simp] theorem fine_pure {t : TaskId} {post : α → ℕ → β → Prop} {a : α} {d : ℕ} {v : β} :
    V.Fine t (Pure.pure a : Prog Op Ret α) post d v ↔ post a d v := Iff.rfl

@[simp] theorem fine_bind {t : TaskId} {post : α' → ℕ → β → Prop} {p : Prog Op Ret α}
    {f : α → Prog Op Ret α'} {d : ℕ} {v : β} :
    V.Fine t (p >>= f) post d v ↔ V.Fine t p (fun a => V.Fine t (f a) post) d v := by
  unfold Fine
  rw [Prog.fold_bind]

@[simp] theorem fine_perform {t : TaskId} {o : Op} {post : Ret o → ℕ → β → Prop} {d : ℕ} {v : β} :
    V.Fine t (Prog.perform o) post d v ↔
      ∀ v', V.Between t d v v' → V.allows t o post d v' := Iff.rfl

theorem allows_lock {t : TaskId} {o : Op} {X : Ret o → ℕ → β → Prop} {d : ℕ} {v : β}
    (hk : B.kind o = .lock) : V.allows t o X d v ↔ ((d = 0 → V.inv v) → ∀ r, X r (d + 1) v) := by
  unfold allows
  rw [hk]

theorem allows_unlock {t : TaskId} {o : Op} {X : Ret o → ℕ → β → Prop} {d : ℕ} {v : β}
    (hk : B.kind o = .unlock) :
    V.allows t o X d v ↔ 0 < d ∧ (d = 1 → V.inv v) ∧ ∀ r, X r (d - 1) v := by
  unfold allows
  rw [hk]

/-- A call that neither takes nor releases the mutex. -/
theorem allows_call {t : TaskId} {o : Op} {X : Ret o → ℕ → β → Prop} {d : ℕ} {v : β}
    (hlock : B.kind o ≠ .lock) (hunlock : B.kind o ≠ .unlock) :
    V.allows t o X d v ↔
      (V.guarded o → 0 < d) ∧ V.needs t o v ∧ ∀ r v', V.moves t o v r v' → X r d v' := by
  unfold allows
  cases hk : B.kind o
  case lock => exact absurd hk hlock
  case unlock => exact absurd hk hunlock
  all_goals exact Iff.rfl

/-- What others do before the next call does no harm. -/
theorem Fine.between {t : TaskId} {p : Prog Op Ret Unit} {d : ℕ} {v v' : β}
    (h : V.Fine t p (V.Ended t) d v) (hv : V.Between t d v v') : V.Fine t p (V.Ended t) d v' := by
  cases p with
  | pure a => exact ⟨h.1, fun v'' hv' => h.2 v'' (V.rely_trans hv.1 hv')⟩
  | call o k => exact fun v'' hv' => h v'' (hv.trans hv')

section Call

variable {t : TaskId} {o : Op} {k : Ret o → Prog Op Ret Unit} {c : Reply} {r : Ret o} {s s' : σ}

/-- An answered call: its task is fine with what follows, the others find what they can rely on,
and the invariant holds when the mutex is free. -/
theorem fine_answer (h : V.Fine t (.call o k) (V.Ended t) ((B.mutex s).held t) (V.view s))
    (hinv : B.mutex s = .free → V.inv (V.view s)) (he : M.exec t o c s = some (r, s')) :
    V.Fine t (k r) (V.Ended t) ((B.mutex s').held t) (V.view s') ∧
      (∀ u ≠ t, V.Between u ((B.mutex s).held u) (V.view s) (V.view s')) ∧
      (B.mutex s' = .free → V.inv (V.view s')) := by
  by_cases hlock : B.kind o = .lock
  · obtain ⟨hm, -⟩ := B.exec_lock hlock he
    have hview := V.view_lock hlock he
    have hcall := (allows_lock hlock).mp (h _ between_refl)
    rw [hview, RecMutex.held_lock hm]
    refine ⟨hcall (fun hheld => hinv (RecMutex.free_of_lock hm hheld)) r,
      fun u _ => between_refl, fun hfree => ?_⟩
    have hheld := RecMutex.held_lock hm
    rw [hfree, RecMutex.held_free] at hheld
    exact absurd hheld (by simp)
  by_cases hunlock : B.kind o = .unlock
  · obtain ⟨hm, -⟩ := B.exec_unlock hunlock he
    have hview := V.view_unlock hunlock he
    obtain ⟨hd, hlast, hnext⟩ := (allows_unlock hunlock).mp (h _ between_refl)
    have hheld : (B.mutex s').held t = (B.mutex s).held t - 1 := by
      rw [hm]
      exact RecMutex.held_unlock (Nat.sub_add_cancel hd).symm
    rw [hview, hheld]
    refine ⟨hnext r, fun u _ => between_refl, fun hfree => hlast ?_⟩
    rw [hfree, RecMutex.held_free] at hheld
    omega
  obtain ⟨hguard, hneeds, hnext⟩ := (allows_call hlock hunlock).mp (h _ between_refl)
  have hm := Mailbox.mutex_exec hlock hunlock he
  have hmoves := V.exec_moves he
  rw [hm]
  -- a task outside the mutex does not touch what is behind it
  have hkept : (B.mutex s).held t = 0 → V.kept (V.view s) (V.view s') := by
    intro hheld
    refine V.exec_kept (fun hg => ?_) he
    exact absurd (hguard hg) (by omega)
  refine ⟨hnext r _ hmoves, fun u hu => ⟨V.moves_rely hneeds hmoves hu, fun hheld => ?_⟩,
    fun hfree => ?_⟩
  · apply hkept
    by_contra hne
    exact hu (RecMutex.held_unique (Nat.pos_of_ne_zero hne) hheld)
  · exact V.inv_kept (hkept (by rw [hfree]; rfl)) (hinv hfree)

end Call

/-! ### Runs -/

variable (V) in
/-- Every task is fine, and the invariant holds while the mutex is free. -/
structure Monitored (cfg : Config Op Ret σ) : Prop extends B.Guarded cfg where
  fine : ∀ {t x}, cfg.task t = some x →
    V.Fine t x.prog (V.Ended t) ((B.mutex cfg.shared).held t) (V.view cfg.shared)
  inv : B.mutex cfg.shared = .free → V.inv (V.view cfg.shared)

variable (V) in
/-- What the environment starts, and what the server takes up, is fine. -/
structure Lawful : Prop where
  view_arrive : ∀ {req s s' p}, M.arrive req s = some (s', p) → V.view s' = V.view s
  arrive : ∀ {req s s' p i v}, M.arrive req s = some (s', p) →
    V.Fine (.client i) p (V.Ended (.client i)) 0 v
  serve : ∀ {s p}, M.serve s = some p → V.done .server (V.view s) →
    V.Fine .server p (V.Ended .server) 0 (V.view s)

variable {cfg cfg' : Config Op Ret σ} {l : Label Reply Request}

theorem Monitored.step (hB : B.Lawful) (hV : V.Lawful) (hm : V.Monitored cfg)
    (hs : Step M cfg l cfg') : V.Monitored cfg' := by
  refine ⟨hm.toGuarded.step hB hs, ?_, ?_⟩
  · intro u x hu
    cases hs with
    | @answer t o k w reply r s htask he =>
      obtain ⟨hown, hothers, -⟩ := fine_answer (hm.fine htask) hm.inv he
      have htask' : (cfg.setShared s).task t = some ⟨.call o k, w⟩ := by simpa using htask
      rw [Config.setTask_shared, Config.setShared_shared]
      rcases Config.setTask_cases htask' hu with ⟨rfl, rfl⟩ | ⟨hut, hold⟩
      · exact hown
      · rw [Config.setShared_task] at hold
        rw [(Mailbox.balanced_answer (hm.balanced htask) he).2 u hut]
        exact (hm.fine hold).between (hothers u hut)
    | @wait t o k w reply htask he =>
      rw [Config.setTask_shared]
      rcases Config.setTask_cases htask hu with ⟨rfl, rfl⟩ | ⟨-, hold⟩
      · have hfine := hm.fine htask
        exact hfine
      · exact hm.fine hold
    | @serve a w reply p hserver hp =>
      have htask : cfg.task .server = some ⟨.pure a, w⟩ := congrArg some hserver
      rw [Config.setTask_shared]
      rcases Config.setTask_cases htask hu with ⟨rfl, rfl⟩ | ⟨-, hold⟩
      · obtain ⟨hheld, hdone⟩ := hm.fine htask
        rw [hheld]
        exact hV.serve hp (hdone _ (V.rely_refl _ _))
      · exact hm.fine hold
    | @arrive req s p ha =>
      change V.Fine u x.prog (V.Ended u) ((B.mutex s).held u) (V.view s)
      rw [(B.arrive ha).1, hV.view_arrive ha]
      cases hold : cfg.task u with
      | some y =>
        obtain rfl := Option.some.inj ((Config.enter_old hold).symm.trans hu)
        exact hm.fine hold
      | none =>
        rcases Config.enter_task hu with h | rfl
        · exact absurd (hold.symm.trans h) (by simp)
        · rw [hm.absent hold]
          cases u with
          | server => exact absurd hold (by simp [Config.task])
          | client i => exact hV.arrive ha
  · intro hfree
    cases hs with
    | @answer t o k w reply r s htask he =>
      rw [Config.setTask_shared, Config.setShared_shared] at hfree ⊢
      exact (fine_answer (hm.fine htask) hm.inv he).2.2 hfree
    | wait htask he =>
      rw [Config.setTask_shared] at hfree ⊢
      exact hm.inv hfree
    | serve hserver hp =>
      rw [Config.setTask_shared] at hfree ⊢
      exact hm.inv hfree
    | @arrive req s p ha =>
      change V.inv (V.view s)
      rw [hV.view_arrive ha]
      exact hm.inv ((B.arrive ha).1.symm.trans hfree)

theorem Monitored.path (hB : B.Lawful) (hV : V.Lawful)
    {P : Config Op Ret σ → Label Reply Request → Prop} {ls : List (Label Reply Request)}
    (hm : V.Monitored cfg) (hp : Path M P cfg ls cfg') : V.Monitored cfg' :=
  hp.invariant (fun hm _ hs => hm.step hB hV hs) hm

/-- What a call needs is there when a task is about to make it. -/
theorem Monitored.needs (hm : V.Monitored cfg) {t : TaskId} {o : Op}
    (ht : cfg.nextCall t = some o) (hlock : B.kind o ≠ .lock) (hunlock : B.kind o ≠ .unlock) :
    V.needs t o (V.view cfg.shared) := by
  obtain ⟨k, w, htask⟩ := Config.of_nextCall ht
  exact ((allows_call hlock hunlock).mp (hm.fine htask _ between_refl)).2.1

/-- Two tasks are never about to make guarded calls. -/
theorem Monitored.guarded_unique (hm : V.Monitored cfg) {t u : TaskId} {o o' : Op}
    (ht : cfg.nextCall t = some o) (hu : cfg.nextCall u = some o') (ho : V.guarded o)
    (ho' : V.guarded o') (hkind : ∀ {o}, V.guarded o → B.kind o ≠ .lock ∧ B.kind o ≠ .unlock) :
    u = t := by
  obtain ⟨k, w, ht⟩ := Config.of_nextCall ht
  obtain ⟨k', w', hu⟩ := Config.of_nextCall hu
  have htheld := ((allows_call (hkind ho).1 (hkind ho).2).mp (hm.fine ht _ between_refl)).1 ho
  have huheld := ((allows_call (hkind ho').1 (hkind ho').2).mp (hm.fine hu _ between_refl)).1 ho'
  exact RecMutex.held_unique htheld huheld

end Monitor

end TaskSystem
