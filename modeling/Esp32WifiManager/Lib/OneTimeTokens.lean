import Mathlib.Data.List.Infix
import Mathlib.Data.List.Nodup
import Mathlib.Logic.Relation

/-!
# One-time tokens

A token is drawn, may then be redeemed once, is active from then on and ends by
being dropped. As long as no drawn token repeats, a token only moves forward:
what has been redeemed is never redeemed again, and what has been dropped is
never active again.
-/

namespace OneTimeTokens

variable {α : Type*}

/-- All tokens drawn so far, the one that may be redeemed, and the active ones. -/
structure State (α : Type*) where
  drawn : List α
  pending : Option α
  active : List α

/-- `grant` draws a token that is active at once; active tokens may be dropped in every step. -/
inductive Step (s s' : State α) : Prop
  | draw (x : α) (hd : s'.drawn = s.drawn ++ [x]) (hp : s'.pending = some x ∨ s'.pending = none)
      (ha : s'.active.Sublist s.active)
  | grant (x : α) (hd : s'.drawn = s.drawn ++ [x]) (hp : s'.pending = none)
      (ha : s'.active.Sublist (x :: s.active))
  | redeem (x : α) (hx : s.pending = some x) (hd : s'.drawn = s.drawn) (hp : s'.pending = none)
      (ha : s'.active.Sublist (x :: s.active))
  | drop (hd : s'.drawn = s.drawn) (hp : s'.pending = s.pending ∨ s'.pending = none)
      (ha : s'.active.Sublist s.active)

structure Wf (s : State α) : Prop where
  nodup : s.active.Nodup
  active_drawn : ∀ x ∈ s.active, x ∈ s.drawn
  pending_drawn : ∀ x, s.pending = some x → x ∈ s.drawn
  pending_inactive : ∀ x, s.pending = some x → x ∉ s.active

/-- `x` can no longer be redeemed. -/
def Spent (x : α) (s : State α) : Prop := x ∈ s.drawn ∧ s.pending ≠ some x

/-- `x` can neither be redeemed nor is it active. -/
def Retired (x : α) (s : State α) : Prop := Spent x s ∧ x ∉ s.active

section Step

variable {s s' : State α} {x : α}

theorem Step.drawn_isPrefix (h : Step s s') : s.drawn <+: s'.drawn := by
  cases h with
  | draw x hd _ _ =>
    rw [hd]
    exact List.prefix_append _ _
  | grant x hd _ _ =>
    rw [hd]
    exact List.prefix_append _ _
  | redeem x _ hd _ _ => rw [hd]
  | drop hd _ _ => rw [hd]

/-- A token drawn anew has not been drawn before. -/
theorem notMem_of_nodup_concat {l : List α} (h : (l ++ [x]).Nodup) : x ∉ l := by
  have := List.disjoint_of_nodup_append h
  intro hx
  exact this hx (List.mem_singleton_self x)

/-- Where a pending token comes from. -/
theorem Step.pending_cases (h : Step s s') (hx : s'.pending = some x) :
    s'.drawn = s.drawn ++ [x] ∧ s'.active.Sublist s.active ∨
      s.pending = some x ∧ s'.active.Sublist s.active := by
  cases h with
  | draw y hd hp ha =>
    rcases hp with hp | hp
    · obtain rfl : y = x := Option.some.inj (hp.symm.trans hx)
      exact .inl ⟨hd, ha⟩
    · rw [hp] at hx
      cases hx
  | grant y hd hp ha =>
    rw [hp] at hx
    cases hx
  | redeem y hy hd hp ha =>
    rw [hp] at hx
    cases hx
  | drop hd hp ha =>
    rcases hp with hp | hp
    · exact .inr ⟨hp.symm.trans hx, ha⟩
    · rw [hp] at hx
      cases hx

/-- Where an active token comes from. -/
theorem Step.active_cases (h : Step s s') (hx : x ∈ s'.active) :
    x ∈ s.active ∨ s'.drawn = s.drawn ++ [x] ∨ s.pending = some x := by
  cases h with
  | draw y hd hp ha => exact .inl (ha.subset hx)
  | grant y hd hp ha =>
    rcases List.mem_cons.mp (ha.subset hx) with rfl | hx
    · exact .inr (.inl hd)
    · exact .inl hx
  | redeem y hy hd hp ha =>
    rcases List.mem_cons.mp (ha.subset hx) with rfl | hx
    · exact .inr (.inr hy)
    · exact .inl hx
  | drop hd hp ha => exact .inl (ha.subset hx)

theorem Step.nodup (h : Step s s') (hnd : s'.drawn.Nodup) (hs : Wf s) : s'.active.Nodup := by
  cases h with
  | draw y hd hp ha => exact hs.nodup.sublist ha
  | grant y hd hp ha =>
    rw [hd] at hnd
    have hy : y ∉ s.active := fun hmem => notMem_of_nodup_concat hnd (hs.active_drawn y hmem)
    exact (List.nodup_cons.mpr ⟨hy, hs.nodup⟩).sublist ha
  | redeem y hy hd hp ha =>
    exact (List.nodup_cons.mpr ⟨hs.pending_inactive y hy, hs.nodup⟩).sublist ha
  | drop hd hp ha => exact hs.nodup.sublist ha

theorem Step.wf (h : Step s s') (hnd : s'.drawn.Nodup) (hs : Wf s) : Wf s' := by
  have hsub := h.drawn_isPrefix.subset
  have hnew {x : α} (hd : s'.drawn = s.drawn ++ [x]) : x ∈ s'.drawn := by
    rw [hd]
    exact List.mem_append_right _ (List.mem_singleton_self x)
  refine ⟨h.nodup hnd hs, ?_, ?_, ?_⟩
  · intro x hx
    rcases h.active_cases hx with hx | hd | hx
    · exact hsub (hs.active_drawn x hx)
    · exact hnew hd
    · exact hsub (hs.pending_drawn x hx)
  · intro x hx
    rcases h.pending_cases hx with ⟨hd, -⟩ | ⟨hx, -⟩
    · exact hnew hd
    · exact hsub (hs.pending_drawn x hx)
  · intro x hx hact
    rcases h.pending_cases hx with ⟨hd, ha⟩ | ⟨hx, ha⟩
    · rw [hd] at hnd
      exact notMem_of_nodup_concat hnd (hs.active_drawn x (ha.subset hact))
    · exact hs.pending_inactive x hx (ha.subset hact)

theorem Step.spent (h : Step s s') (hnd : s'.drawn.Nodup) (hx : Spent x s) : Spent x s' := by
  obtain ⟨hdrawn, hpend⟩ := hx
  refine ⟨h.drawn_isPrefix.subset hdrawn, ?_⟩
  intro hx
  rcases h.pending_cases hx with ⟨hd, -⟩ | ⟨hx, -⟩
  · rw [hd] at hnd
    exact notMem_of_nodup_concat hnd hdrawn
  · exact hpend hx

theorem Step.retired (h : Step s s') (hnd : s'.drawn.Nodup) (hx : Retired x s) :
    Retired x s' := by
  obtain ⟨hspent, hact⟩ := hx
  refine ⟨h.spent hnd hspent, ?_⟩
  intro hx
  rcases h.active_cases hx with hx | hd | hx
  · exact hact hx
  · rw [hd] at hnd
    exact notMem_of_nodup_concat hnd hspent.1
  · exact hspent.2 hx

/-- The redeemed token is spent. -/
theorem spent_of_redeem (hs : Wf s) (hx : s.pending = some x) (hd : s'.drawn = s.drawn)
    (hp : s'.pending = none) : Spent x s' := by
  refine ⟨?_, by simp [hp]⟩
  rw [hd]
  exact hs.pending_drawn x hx

/-- An active token that has been dropped is retired. -/
theorem retired_of_drop (hs : Wf s) (hx : x ∈ s.active) (hd : s'.drawn = s.drawn)
    (hp : s'.pending = s.pending) (ha : x ∉ s'.active) : Retired x s' := by
  refine ⟨⟨?_, ?_⟩, ha⟩
  · rw [hd]
    exact hs.active_drawn x hx
  · rw [hp]
    exact fun hpend => hs.pending_inactive x hpend hx

end Step

/-! ### Runs -/

/-- Any number of steps. -/
abbrev Steps : State α → State α → Prop := Relation.ReflTransGen Step

section Steps

variable {s s' : State α} {x : α}

theorem Steps.drawn_isPrefix (h : Steps s s') : s.drawn <+: s'.drawn := by
  induction h with
  | refl => exact List.prefix_refl _
  | tail _ hstep ih => exact ih.trans hstep.drawn_isPrefix

/-- A property that fresh steps keep is kept by a run whose drawn tokens do not repeat. -/
theorem Steps.preserves {P : State α → Prop}
    (hP : ∀ {s s'}, Step s s' → s'.drawn.Nodup → P s → P s') (h : Steps s s')
    (hnd : s'.drawn.Nodup) (hs : P s) : P s' := by
  induction h with
  | refl => exact hs
  | tail _ hstep ih => exact hP hstep hnd (ih (hnd.sublist hstep.drawn_isPrefix.sublist))

theorem Steps.wf (h : Steps s s') (hnd : s'.drawn.Nodup) (hs : Wf s) : Wf s' :=
  h.preserves Step.wf hnd hs

theorem Steps.spent (h : Steps s s') (hnd : s'.drawn.Nodup) (hx : Spent x s) : Spent x s' :=
  h.preserves Step.spent hnd hx

theorem Steps.retired (h : Steps s s') (hnd : s'.drawn.Nodup) (hx : Retired x s) : Retired x s' :=
  h.preserves Step.retired hnd hx

end Steps

end OneTimeTokens
