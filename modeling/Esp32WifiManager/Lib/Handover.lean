import Mathlib.Logic.Function.Basic
import Mathlib.Data.Nat.Notation

/-!
# A seat that is taken and given up on request

A manager wants the seat to be taken, and creates a worker, or wants it to be
free, and tells the worker who has it to leave. A worker begins some time after
it has been created; it takes the seat if that is free, and otherwise it goes.
When everything has come to rest, the seat is taken exactly if the manager has
wanted it last, as long as no worker takes a seat that is not wanted any more,
and none is turned away by one who has been told to leave while it is wanted.
-/

namespace Handover

/-- The stages of a worker, and those of the manager: about to create a worker, to ask who has the
seat, and to tell that worker to leave. -/
inductive Stage
  | before
  | serving
  | stopping
  | done
  | idle
  | starting
  | asking
  | telling
  deriving DecidableEq, Repr

namespace Stage

/-- A worker who has the seat. -/
def own : Stage → Bool
  | serving | stopping => true
  | _ => false

def isManager : Stage → Bool
  | idle | starting | asking | telling => true
  | _ => false

theorem own_eq_false {st : Stage} (h : st.isManager = true) : st.own = false := by
  cases st <;> first | rfl | exact absurd h (by simp [isManager])

end Stage

/-- `owner` has the seat, with whether it has been told to leave and does not know yet. `told` are
the workers that the manager has found; `spare` counts those that have not begun. -/
@[ext] structure State (ι : Type*) where
  stage : ι → Stage
  present : ι → Prop
  told : ι → Prop
  wanted : Bool
  owner : Option (ι × Bool)
  spare : ℕ

variable {ι : Type*}

namespace State

/-- The manager has done what the request needs, but for telling. -/
def Settled (boss : ι) (s : State ι) : Prop := s.stage boss ≠ .starting ∧ s.stage boss ≠ .asking

/-- A worker who has begun and has not asked for the seat yet. -/
def Waiting (s : State ι) (v : ι) : Prop := s.present v ∧ s.stage v = .before

end State

variable {boss : ι} {s s' : State ι}

/-- The moves of manager and workers, each in time. -/
inductive Move [DecidableEq ι] (boss : ι) (s : State ι) : State ι → Prop
  | request (wanted : Bool) :
      s.stage boss = .idle →
      Move boss s { s with
        stage := Function.update s.stage boss (if wanted then .starting else .asking), wanted }
  | create :
      s.stage boss = .starting →
      Move boss s { s with stage := Function.update s.stage boss .idle, spare := s.spare + 1 }
  | ask :
      s.stage boss = .asking →
      Move boss s { s with
        stage := Function.update s.stage boss (if s.owner.isSome then .telling else .idle)
        told := fun u => s.told u ∨ ∃ b, s.owner = some (u, b) }
  | tell :
      s.stage boss = .telling →
      Move boss s { s with
        stage := Function.update s.stage boss .idle
        owner := s.owner.map fun x => (x.1, true) }
  | enter {v n present} :
      s.spare = n + 1 → s.stage v = .before → (∀ u, s.present u → present u) → present v →
      Move boss s { s with spare := n, present }
  | register {v} :
      s.stage v = .before → s.owner = none → ¬ (s.Settled boss ∧ s.wanted = false) →
      Move boss s { s with
        stage := Function.update s.stage v .serving, owner := some (v, false) }
  | refuse {v u b} :
      s.stage v = .before → s.owner = some (u, b) →
      (s.told u → s.Settled boss → s.wanted = true → 0 < s.spare ∨ ∃ x ≠ v, s.Waiting x) →
      Move boss s { s with stage := Function.update s.stage v .done }
  | leave {v} :
      s.stage v = .serving → s.owner = some (v, true) →
      Move boss s { s with
        stage := Function.update s.stage v .stopping, owner := some (v, false) }
  | unregister {v b} :
      s.stage v = .stopping → s.owner = some (v, b) →
      Move boss s { s with stage := Function.update s.stage v .done, owner := none }

/-- Who has the seat, who has been told, and who will take it. -/
structure Sound (boss : ι) (s : State ι) : Prop where
  manager : ∀ v, (s.stage v).isManager = true ↔ v = boss
  owner : ∀ v, (s.stage v).own = true ↔ ∃ b, s.owner = some (v, b)
  pending : ∀ v, s.owner = some (v, true) → s.told v
  stopping : ∀ v, s.stage v = .stopping → s.told v
  told : ∀ v, s.told v → s.stage v ≠ .before
  serving : ∀ v, s.told v → s.stage v = .serving →
    s.owner = some (v, true) ∨ s.stage boss = .telling
  starting : s.stage boss = .starting → s.wanted = true
  asking : s.stage boss = .asking ∨ s.stage boss = .telling → s.wanted = false
  unwanted : s.Settled boss → s.wanted = false → ∀ v b, s.owner = some (v, b) → s.told v
  wanted : s.Settled boss → s.wanted = true →
    0 < s.spare ∨ (∃ v, s.Waiting v) ∨ ∃ v b, s.owner = some (v, b) ∧ ¬ s.told v

namespace Sound

theorem unique (h : Sound boss s) {u v : ι} (hu : (s.stage u).own = true)
    (hv : (s.stage v).own = true) : u = v := by
  obtain ⟨b, hb⟩ := (h.owner u).mp hu
  obtain ⟨b', hb'⟩ := (h.owner v).mp hv
  exact congrArg Prod.fst (Option.some.inj (hb.symm.trans hb'))

/-- At rest, the seat is taken exactly if it is wanted. -/
theorem atRest (h : Sound boss s) (hidle : s.stage boss = .idle) (hspare : s.spare = 0)
    (hnone : ∀ v, ¬ s.Waiting v) (hstopping : ∀ v, s.stage v ≠ .stopping)
    (hserving : ∀ v, s.stage v = .serving → s.owner ≠ some (v, true)) :
    (∃ v, s.stage v = .serving) ↔ s.wanted = true := by
  have hsettled : s.Settled boss := by
    unfold State.Settled
    rw [hidle]
    exact ⟨by simp, by simp⟩
  constructor
  · rintro ⟨v, hv⟩
    by_contra hwanted
    obtain ⟨b, hb⟩ := (h.owner v).mp (by rw [hv]; rfl)
    have htold := h.unwanted hsettled (by simpa using hwanted) v b hb
    rcases h.serving v htold hv with hpending | htelling
    · exact hserving v hv hpending
    · exact absurd (hidle.symm.trans htelling) (by simp)
  · intro hwanted
    rcases h.wanted hsettled hwanted with hpos | ⟨v, hv⟩ | ⟨v, b, hb, -⟩
    · omega
    · exact absurd hv (hnone v)
    · have hown := (h.owner v).mpr ⟨b, hb⟩
      refine ⟨v, ?_⟩
      cases hstage : s.stage v <;> simp [hstage, Stage.own] at hown
      · rfl
      · exact absurd hstage (hstopping v)

theorem ne_boss (h : Sound boss s) {v : ι} (hv : (s.stage v).isManager = false) : v ≠ boss := by
  rintro rfl
  exact absurd ((h.manager v).mpr rfl) (by simp [hv])

section Moves

variable [DecidableEq ι] {v : ι} {st : Stage}

/-- A move of the manager changes no stage of a worker. -/
theorem worker_iff (h : Sound boss s) (hst : st.isManager = true) {st' : Stage}
    (hst' : st'.isManager = false) :
    Function.update s.stage boss st v = st' ↔ s.stage v = st' := by
  by_cases hv : v = boss
  · subst hv
    have hboss := (h.manager v).mpr rfl
    rw [Function.update_self]
    constructor
    · rintro rfl
      exact absurd hst (by simp [hst'])
    · intro hstage
      exact absurd hboss (by simp [hstage, hst'])
  · rw [Function.update_of_ne hv]

theorem manager_boss (h : Sound boss s) (hst : st.isManager = true) :
    (Function.update s.stage boss st v).isManager = true ↔ v = boss := by
  by_cases hv : v = boss
  · subst hv
    rw [Function.update_self]
    exact iff_of_true hst rfl
  · rw [Function.update_of_ne hv]
    exact h.manager v

theorem owner_boss (h : Sound boss s) (hst : st.isManager = true) :
    (Function.update s.stage boss st v).own = true ↔ ∃ b, s.owner = some (v, b) := by
  rw [← h.owner v]
  by_cases hv : v = boss
  · subst hv
    rw [Function.update_self, Stage.own_eq_false hst, Stage.own_eq_false ((h.manager v).mpr rfl)]
  · rw [Function.update_of_ne hv]

/-- A move of a worker leaves the manager where it is. -/
theorem manager_worker (h : Sound boss s) (hv : v ≠ boss) (hst : st.isManager = false) (u : ι) :
    (Function.update s.stage v st u).isManager = true ↔ u = boss := by
  by_cases hu : u = v
  · subst hu
    rw [Function.update_self]
    exact iff_of_false (by simp [hst]) hv
  · rw [Function.update_of_ne hu]
    exact h.manager u

theorem request (h : Sound boss s) (wanted : Bool) (hidle : s.stage boss = .idle) :
    Sound boss { s with
      stage := Function.update s.stage boss (if wanted then .starting else .asking), wanted } := by
  have hst : (if wanted then Stage.starting else Stage.asking).isManager = true := by
    cases wanted <;> rfl
  have hunsettled : ¬ State.Settled boss { s with
      stage := Function.update s.stage boss (if wanted then .starting else .asking), wanted } := by
    intro hsettled
    simp only [State.Settled, Function.update_self] at hsettled
    cases wanted
    · exact hsettled.2 rfl
    · exact hsettled.1 rfl
  constructor
  case manager => exact fun _ => h.manager_boss hst
  case owner => exact fun _ => h.owner_boss hst
  case pending => exact h.pending
  case stopping => exact fun u hu => h.stopping u ((h.worker_iff hst rfl).mp hu)
  case told => exact fun u hu hb => h.told u hu ((h.worker_iff hst rfl).mp hb)
  case serving =>
    intro u hu hserving
    rcases h.serving u hu ((h.worker_iff hst rfl).mp hserving) with hpending | htelling
    · exact .inl hpending
    · exact absurd (hidle.symm.trans htelling) (by simp)
  case starting => cases wanted <;> simp
  case asking => cases wanted <;> simp
  case unwanted => exact fun hsettled => absurd hsettled hunsettled
  case wanted => exact fun hsettled => absurd hsettled hunsettled

theorem create (h : Sound boss s) (hstarting : s.stage boss = .starting) :
    Sound boss { s with
      stage := Function.update s.stage boss .idle, spare := s.spare + 1 } := by
  have hwanted := h.starting hstarting
  constructor
  case manager => exact fun _ => h.manager_boss rfl
  case owner => exact fun _ => h.owner_boss rfl
  case pending => exact h.pending
  case stopping => exact fun u hu => h.stopping u ((h.worker_iff rfl rfl).mp hu)
  case told => exact fun u hu hb => h.told u hu ((h.worker_iff rfl rfl).mp hb)
  case serving =>
    intro u hu hserving
    rcases h.serving u hu ((h.worker_iff rfl rfl).mp hserving) with hpending | htelling
    · exact .inl hpending
    · exact absurd (hstarting.symm.trans htelling) (by simp)
  case starting => simp
  case asking => simp
  case unwanted => exact fun _ hfalse => absurd (hwanted.symm.trans hfalse) (by simp)
  case wanted => exact fun _ _ => .inl (Nat.succ_pos _)

theorem ask (h : Sound boss s) (hasking : s.stage boss = .asking) :
    Sound boss { s with
      stage := Function.update s.stage boss (if s.owner.isSome then .telling else .idle)
      told := fun u => s.told u ∨ ∃ b, s.owner = some (u, b) } := by
  have hunwanted := h.asking (.inl hasking)
  have hst : (if s.owner.isSome then Stage.telling else Stage.idle).isManager = true := by
    cases s.owner <;> rfl
  constructor
  case manager => exact fun _ => h.manager_boss hst
  case owner => exact fun _ => h.owner_boss hst
  case pending => exact fun u hu => .inl (h.pending u hu)
  case stopping => exact fun u hu => .inl (h.stopping u ((h.worker_iff hst rfl).mp hu))
  case told =>
    rintro u (hu | hu) hbefore
    · exact h.told u hu ((h.worker_iff hst rfl).mp hbefore)
    · have hown := (h.owner u).mpr hu
      rw [(h.worker_iff hst rfl).mp hbefore] at hown
      exact absurd hown (by simp [Stage.own])
  case serving =>
    intro u _ hserving
    have hu := (h.worker_iff hst rfl).mp hserving
    obtain ⟨b, hb⟩ := (h.owner u).mp (by rw [hu]; rfl)
    exact .inr (by simp [hb])
  case starting =>
    intro hstarting
    dsimp only at hstarting
    rw [Function.update_self] at hstarting
    cases howner : s.owner <;> simp [howner] at hstarting
  case asking => exact fun _ => hunwanted
  case unwanted => exact fun _ _ u b hb => .inr ⟨b, hb⟩
  case wanted => exact fun _ htrue => absurd (hunwanted.symm.trans htrue) (by simp)

theorem tell (h : Sound boss s) (htelling : s.stage boss = .telling) :
    Sound boss { s with
      stage := Function.update s.stage boss .idle
      owner := s.owner.map fun x => (x.1, true) } := by
  have hunwanted := h.asking (.inr htelling)
  have hfound := h.unwanted ⟨by simp [htelling], by simp [htelling]⟩ hunwanted
  have howner : ∀ {u b}, s.owner.map (fun x => (x.1, true)) = some (u, b) →
      ∃ b', s.owner = some (u, b') := by
    intro u b hu
    obtain ⟨x, hx, heq⟩ := Option.map_eq_some_iff.mp hu
    obtain ⟨rfl, -⟩ := Prod.mk.inj heq
    exact ⟨x.2, hx⟩
  have htell : ∀ {u b}, s.owner = some (u, b) →
      s.owner.map (fun x => (x.1, true)) = some (u, true) := by
    intro u b hu
    rw [hu]
    rfl
  constructor
  case manager => exact fun _ => h.manager_boss rfl
  case owner =>
    intro u
    rw [h.owner_boss rfl]
    constructor
    · rintro ⟨b, hb⟩
      exact ⟨true, htell hb⟩
    · rintro ⟨b, hb⟩
      exact howner hb
  case pending =>
    intro u hu
    obtain ⟨b, hb⟩ := howner hu
    exact hfound u b hb
  case stopping => exact fun u hu => h.stopping u ((h.worker_iff rfl rfl).mp hu)
  case told => exact fun u hu hb => h.told u hu ((h.worker_iff rfl rfl).mp hb)
  case serving =>
    intro u _ hserving
    have hu := (h.worker_iff rfl rfl).mp hserving
    obtain ⟨b, hb⟩ := (h.owner u).mp (by rw [hu]; rfl)
    exact .inl (htell hb)
  case starting => simp
  case asking => simp
  case unwanted =>
    intro _ _ u b hu
    obtain ⟨b', hb'⟩ := howner hu
    exact hfound u b' hb'
  case wanted => exact fun _ htrue => absurd (hunwanted.symm.trans htrue) (by simp)

omit [DecidableEq ι] in
theorem enter {n : ℕ} {present : ι → Prop} (h : Sound boss s) (hbefore : s.stage v = .before)
    (hv : present v) :
    Sound boss { s with spare := n, present } where
  manager := h.manager
  owner := h.owner
  pending := h.pending
  stopping := h.stopping
  told := h.told
  serving := h.serving
  starting := h.starting
  asking := h.asking
  unwanted := h.unwanted
  wanted _ _ := .inr (.inl ⟨v, hv, hbefore⟩)

/-- A worker has moved on; who is told and who has the seat is left to the case. -/
theorem worker {owner : Option (ι × Bool)} (h : Sound boss s) (hv : (s.stage v).isManager = false)
    (hst : st.isManager = false) (hbefore : st ≠ .before)
    (howner : ∀ u, (Function.update s.stage v st u).own = true ↔ ∃ b, owner = some (u, b))
    (hpending : ∀ u, owner = some (u, true) → s.told u)
    (hstopping : st = .stopping → s.told v)
    (hserving : ∀ u, s.told u → Function.update s.stage v st u = .serving →
      owner = some (u, true) ∨ s.stage boss = .telling)
    (hunwanted : s.Settled boss → s.wanted = false → ∀ u b, owner = some (u, b) → s.told u)
    (hwanted : s.Settled boss → s.wanted = true →
      0 < s.spare ∨ (∃ u ≠ v, s.Waiting u) ∨ ∃ u b, owner = some (u, b) ∧ ¬ s.told u) :
    Sound boss { s with stage := Function.update s.stage v st, owner } := by
  have hne := h.ne_boss hv
  have hboss : Function.update s.stage v st boss = s.stage boss := Function.update_of_ne hne.symm _ _
  have hsettled : State.Settled boss { s with stage := Function.update s.stage v st, owner } ↔
      s.Settled boss := by
    simp only [State.Settled, hboss]
  constructor
  case manager => exact h.manager_worker hne hst
  case owner => exact howner
  case pending => exact hpending
  case stopping =>
    intro u hu
    by_cases huv : u = v
    · subst huv
      exact hstopping (by simpa using hu)
    · exact h.stopping u (by simpa [huv] using hu)
  case told =>
    intro u hu hstage
    by_cases huv : u = v
    · subst huv
      exact hbefore (by simpa using hstage)
    · exact h.told u hu (by simpa [huv] using hstage)
  case serving =>
    intro u hu hstage
    dsimp only
    rw [hboss]
    exact hserving u hu hstage
  case starting =>
    dsimp only
    rw [hboss]
    exact h.starting
  case asking =>
    dsimp only
    rw [hboss]
    exact h.asking
  case unwanted => exact fun hs => hunwanted (hsettled.mp hs)
  case wanted =>
    intro hs htrue
    rcases hwanted (hsettled.mp hs) htrue with hpos | ⟨u, huv, hpresent, hstage⟩ | hseat
    · exact .inl hpos
    · exact .inr (.inl ⟨u, hpresent, by simpa [huv] using hstage⟩)
    · exact .inr (.inr hseat)

theorem owner_worker {owner : Option (ι × Bool)} (h : Sound boss s)
    (hown : st.own = true ↔ ∃ b, owner = some (v, b))
    (hothers : ∀ u ≠ v, ∀ b, owner = some (u, b) ↔ s.owner = some (u, b)) (u : ι) :
    (Function.update s.stage v st u).own = true ↔ ∃ b, owner = some (u, b) := by
  by_cases hu : u = v
  · subst hu
    rw [Function.update_self]
    exact hown
  · rw [Function.update_of_ne hu, h.owner u]
    simp only [hothers u hu]

theorem register (h : Sound boss s) (hbefore : s.stage v = .before) (hfree : s.owner = none)
    (htime : ¬ (s.Settled boss ∧ s.wanted = false)) :
    Sound boss { s with
      stage := Function.update s.stage v .serving, owner := some (v, false) } := by
  have hnew : ¬ s.told v := fun hv => h.told v hv hbefore
  apply h.worker (by simp [hbefore, Stage.isManager]) rfl (by simp)
  · apply h.owner_worker
    · exact iff_of_true rfl ⟨false, rfl⟩
    · intro u hu b
      simp [hfree, hu.symm]
  · simp
  · simp
  · intro u hu hserving
    by_cases huv : u = v
    · exact absurd (huv ▸ hu) hnew
    · have hold := h.serving u hu (by simpa [huv] using hserving)
      exact .inr (by simpa [hfree] using hold)
  · exact fun hsettled hfalse => absurd ⟨hsettled, hfalse⟩ htime
  · exact fun _ _ => .inr (.inr ⟨v, false, rfl, hnew⟩)

theorem refuse {u : ι} {b : Bool} (h : Sound boss s) (hbefore : s.stage v = .before)
    (hseat : s.owner = some (u, b))
    (htime : s.told u → s.Settled boss → s.wanted = true → 0 < s.spare ∨ ∃ x ≠ v, s.Waiting x) :
    Sound boss { s with stage := Function.update s.stage v .done } := by
  have hnot : ∀ b, s.owner ≠ some (v, b) := by
    intro b hb
    have hown := (h.owner v).mpr ⟨b, hb⟩
    exact absurd hown (by simp [hbefore, Stage.own])
  apply h.worker (by simp [hbefore, Stage.isManager]) rfl (by simp)
  · apply h.owner_worker
    · simp [Stage.own, hnot]
    · exact fun _ _ _ => Iff.rfl
  · exact h.pending
  · simp
  · intro x hx hserving
    by_cases hxv : x = v
    · subst hxv
      exact absurd hserving (by simp)
    · exact h.serving x hx (by simpa [hxv] using hserving)
  · exact h.unwanted
  · intro hsettled htrue
    by_cases htold : s.told u
    · rcases htime htold hsettled htrue with hpos | hother
      · exact .inl hpos
      · exact .inr (.inl hother)
    · exact .inr (.inr ⟨u, b, hseat, htold⟩)

omit [DecidableEq ι] in
theorem owner_ne {u : ι} {b b' : Bool} (hseat : s.owner = some (v, b)) (hu : u ≠ v) :
    s.owner ≠ some (u, b') := by
  intro hb
  exact hu (congrArg Prod.fst (Option.some.inj (hb.symm.trans hseat)))

omit [DecidableEq ι] in
theorem telling_of_other {u : ι} {b : Bool} (h : Sound boss s) (hseat : s.owner = some (v, b))
    (huv : u ≠ v) (hu : s.told u) (hserving : s.stage u = .serving) :
    s.stage boss = .telling := by
  rcases h.serving u hu hserving with hpending | htelling
  · exact absurd hpending (owner_ne hseat huv)
  · exact htelling

omit [DecidableEq ι] in
/-- When the one who has the seat has been told, somebody else will take it if it is wanted. -/
theorem next_of_told {b : Bool} (h : Sound boss s) (hseat : s.owner = some (v, b))
    (htold : s.told v) (hsettled : s.Settled boss) (hwanted : s.wanted = true) :
    0 < s.spare ∨ ∃ u ≠ v, s.Waiting u := by
  rcases h.wanted hsettled hwanted with hpos | ⟨u, hu⟩ | ⟨u, b', hb, hnot⟩
  · exact .inl hpos
  · have huv : u ≠ v := by
      rintro rfl
      exact h.told u htold hu.2
    exact .inr ⟨u, huv, hu⟩
  · have huv : u ≠ v := by
      rintro rfl
      exact hnot htold
    exact absurd hb (owner_ne hseat huv)

theorem leave (h : Sound boss s) (hserving : s.stage v = .serving)
    (hseat : s.owner = some (v, true)) :
    Sound boss { s with
      stage := Function.update s.stage v .stopping, owner := some (v, false) } := by
  have htold := h.pending v hseat
  apply h.worker (by simp [hserving, Stage.isManager]) rfl (by simp)
  · apply h.owner_worker
    · exact iff_of_true rfl ⟨false, rfl⟩
    · intro u hu b
      exact iff_of_false (by simp [hu.symm]) (owner_ne hseat hu)
  · simp
  · exact fun _ => htold
  · intro u hu hstage
    by_cases huv : u = v
    · subst huv
      exact absurd hstage (by simp)
    · have htelling := h.telling_of_other hseat huv hu (by simpa [huv] using hstage)
      exact .inr htelling
  · intro _ _ u b hu
    obtain ⟨rfl, -⟩ := Prod.mk.inj (Option.some.inj hu)
    exact htold
  · intro hsettled htrue
    have hnext := h.next_of_told hseat htold hsettled htrue
    exact hnext.imp_right .inl

theorem unregister {b : Bool} (h : Sound boss s) (hstopping : s.stage v = .stopping)
    (hseat : s.owner = some (v, b)) :
    Sound boss { s with stage := Function.update s.stage v .done, owner := none } := by
  have htold := h.stopping v hstopping
  apply h.worker (by simp [hstopping, Stage.isManager]) rfl (by simp)
  · apply h.owner_worker
    · simp [Stage.own]
    · intro u hu b
      exact iff_of_false (by simp) (owner_ne hseat hu)
  · simp
  · simp
  · intro u hu hstage
    by_cases huv : u = v
    · subst huv
      exact absurd hstage (by simp)
    · have htelling := h.telling_of_other hseat huv hu (by simpa [huv] using hstage)
      exact .inr htelling
  · simp
  · intro hsettled htrue
    have hnext := h.next_of_told hseat htold hsettled htrue
    exact hnext.imp_right .inl

/-- Every move in time keeps it. -/
theorem move (h : Sound boss s) (hm : Move boss s s') : Sound boss s' := by
  cases hm with
  | request wanted hidle => exact h.request wanted hidle
  | create hstarting => exact h.create hstarting
  | ask hasking => exact h.ask hasking
  | tell htelling => exact h.tell htelling
  | enter hspare hbefore hkeep hv => exact h.enter hbefore hv
  | register hbefore hfree htime => exact h.register hbefore hfree htime
  | refuse hbefore hseat htime => exact h.refuse hbefore hseat htime
  | leave hserving hseat => exact h.leave hserving hseat
  | unregister hstopping hseat => exact h.unregister hstopping hseat

end Moves

end Sound

end Handover
