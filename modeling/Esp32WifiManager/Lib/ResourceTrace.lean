import Mathlib.Data.Finset.Basic
import Mathlib.Data.Finset.Image

/-!
# Resources of a routine

What a routine does with resources such as blocks of memory or open files is a
list of events. A list is possible when a resource is acquired while it is not
live, and used and released while it is.
-/

namespace ResourceTrace

inductive Event (ρ : Type*)
  | acquire (r : ρ)
  | use (r : ρ)
  | release (r : ρ)
  deriving DecidableEq

variable {ρ τ : Type*}

def Event.map (f : ρ → τ) : Event ρ → Event τ
  | .acquire r => .acquire (f r)
  | .use r => .use (f r)
  | .release r => .release (f r)

variable [DecidableEq ρ] [DecidableEq τ]

/-- The live resources after an event, when it is possible. -/
def Event.apply (live : Finset ρ) : Event ρ → Option (Finset ρ)
  | .acquire r => if r ∈ live then none else some (insert r live)
  | .use r => if r ∈ live then some live else none
  | .release r => if r ∈ live then some (live.erase r) else none

def liveAfter : Finset ρ → List (Event ρ) → Option (Finset ρ)
  | live, [] => some live
  | live, e :: trace => (e.apply live).bind fun live => liveAfter live trace

variable {live live' : Finset ρ} {r : ρ} {trace : List (Event ρ)}

@[simp] theorem liveAfter_nil : liveAfter live [] = some live := rfl

theorem liveAfter_cons (e : Event ρ) :
    liveAfter live (e :: trace) = (e.apply live).bind fun live => liveAfter live trace := rfl

theorem liveAfter_append (more : List (Event ρ)) :
    liveAfter live (trace ++ more) =
      (liveAfter live trace).bind fun live => liveAfter live more := by
  induction trace generalizing live with
  | nil => rfl
  | cons e trace ih =>
    rw [List.cons_append, liveAfter_cons, liveAfter_cons, Option.bind_assoc]
    exact Option.bind_congr fun next _ => ih

/-- Uses of a live resource leave everything as it is. -/
theorem liveAfter_uses (hr : r ∈ live) (h : ∀ e ∈ trace, e = .use r) :
    liveAfter live trace = some live := by
  induction trace with
  | nil => rfl
  | cons e trace ih =>
    obtain rfl := h e (by simp)
    rw [liveAfter_cons, Event.apply, if_pos hr]
    exact ih fun e he => h e (List.mem_cons_of_mem _ he)

theorem apply_acquire : (Event.acquire r).apply live = some live' ↔ r ∉ live ∧ live' = insert r live := by
  simp only [Event.apply]
  split <;> simp_all [eq_comm]

theorem apply_use : (Event.use r).apply live = some live' ↔ r ∈ live ∧ live' = live := by
  simp only [Event.apply]
  split <;> simp_all [eq_comm]

theorem apply_release : (Event.release r).apply live = some live' ↔ r ∈ live ∧ live' = live.erase r := by
  simp only [Event.apply]
  split <;> simp_all [eq_comm]

/-- A resource that is not live in the beginning has been released as often as it has been acquired,
or once less while it is live. -/
theorem count_release (h : liveAfter live trace = some live') (r : ρ) :
    trace.count (.release r) + (if r ∈ live' then 1 else 0) =
      trace.count (.acquire r) + (if r ∈ live then 1 else 0) := by
  induction trace generalizing live with
  | nil =>
    obtain rfl := Option.some.inj h
    rfl
  | cons e trace ih =>
    obtain ⟨next, he, hrest⟩ := Option.bind_eq_some_iff.mp h
    have hcount := ih hrest
    cases e with
    | acquire q =>
      obtain ⟨hq, rfl⟩ := apply_acquire.mp he
      by_cases hqr : q = r
      · subst hqr
        simpa [hq] using hcount
      · simpa [hqr, Ne.symm hqr] using hcount
    | use q =>
      obtain ⟨-, rfl⟩ := apply_use.mp he
      simpa using hcount
    | release q =>
      obtain ⟨hq, rfl⟩ := apply_release.mp he
      by_cases hqr : q = r
      · subst hqr
        simp only [Finset.mem_erase, ne_eq, not_true, false_and, if_false] at hcount
        simp [hq]
        omega
      · simpa [hqr, Ne.symm hqr] using hcount

/-- What is acquired is released exactly once, and used in between only. -/
structure FreedOnce (trace : List (Event ρ)) : Prop where
  ends : liveAfter ∅ trace = some ∅
  once : ∀ r, .acquire r ∈ trace → trace.count (.release r) = 1

/-- It is enough that nothing is acquired twice. -/
theorem freedOnce_of_ends (hends : liveAfter ∅ trace = some ∅)
    (h : ∀ r, trace.count (.acquire r) ≤ 1) : FreedOnce trace where
  ends := hends
  once r hr := by
    have hcount := count_release hends r
    have hpos := List.count_pos_iff.mpr hr
    have hle := h r
    simp only [Finset.notMem_empty, if_false, Nat.add_zero] at hcount
    omega

theorem freedOnce_nil : FreedOnce ([] : List (Event ρ)) :=
  freedOnce_of_ends rfl fun _ => Nat.zero_le 1

/-- A resource that is acquired, only used, and released. -/
theorem freedOnce_lifetime (h : ∀ e ∈ trace, e = .use r) :
    FreedOnce (.acquire r :: (trace ++ [.release r])) := by
  have hacquire (q : ρ) : Event.acquire q ∉ trace := fun hmem => by simpa using h _ hmem
  apply freedOnce_of_ends
  · have hsingle : liveAfter ∅ (.acquire r :: (trace ++ [.release r])) =
        liveAfter {r} (trace ++ [.release r]) := rfl
    rw [hsingle, liveAfter_append, liveAfter_uses (Finset.mem_singleton_self r) h, Option.bind_some,
      liveAfter_cons, apply_release.mpr ⟨Finset.mem_singleton_self r, rfl⟩]
    simp
  · intro q
    rw [List.count_cons, List.count_append, List.count_eq_zero.mpr (hacquire q)]
    split <;> simp

/-! ### Resources under other names, beside others -/

theorem Event.apply_map {f : ρ → τ} (hf : Function.Injective f) {others : Finset τ}
    (hothers : ∀ r, f r ∉ others) (live : Finset ρ) (e : Event ρ) :
    (e.map f).apply (others ∪ live.image f) = (e.apply live).map fun live => others ∪ live.image f := by
  have hmem (r : ρ) : f r ∈ others ∪ live.image f ↔ r ∈ live := by
    simp [hothers r, hf.eq_iff]
  cases e with
  | acquire r =>
    simp only [Event.map, Event.apply, hmem]
    split
    · rfl
    · simp [Finset.image_insert]
  | use r =>
    simp only [Event.map, Event.apply, hmem]
    split <;> rfl
  | release r =>
    simp only [Event.map, Event.apply, hmem]
    split
    · rw [Option.map_some, Finset.image_erase hf, Finset.erase_union_distrib,
        Finset.erase_eq_of_notMem (hothers r)]
    · rfl

/-- Other resources do not matter. -/
theorem liveAfter_map {f : ρ → τ} (hf : Function.Injective f) {others : Finset τ}
    (hothers : ∀ r, f r ∉ others) (live : Finset ρ) (trace : List (Event ρ)) :
    liveAfter (others ∪ live.image f) (trace.map (Event.map f)) =
      (liveAfter live trace).map fun live => others ∪ live.image f := by
  induction trace generalizing live with
  | nil => rfl
  | cons e trace ih =>
    rw [List.map_cons, liveAfter_cons, liveAfter_cons, Event.apply_map hf hothers]
    cases e.apply live with
    | none => rfl
    | some next => exact ih next

end ResourceTrace
