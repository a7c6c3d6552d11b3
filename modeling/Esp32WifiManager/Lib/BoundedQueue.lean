import Mathlib.Data.List.Basic

/-!
# A queue of bounded length

The queue carries the proof that it is no longer than its bound, so that taking
an element out always leaves room.
-/

/-- At most `n` elements, the oldest one first. -/
structure BoundedQueue (α : Type) (n : ℕ) where
  items : List α
  bound : items.length ≤ n

namespace BoundedQueue

variable {α : Type} {n : ℕ}

def empty : BoundedQueue α n := ⟨[], Nat.zero_le n⟩

/-- The queue with one more element, when there is room. -/
def push (q : BoundedQueue α n) (a : α) : Option (BoundedQueue α n) :=
  if h : q.items.length < n then some ⟨q.items ++ [a], by simpa using Nat.succ_le_of_lt h⟩ else none

/-- The oldest element and the others. -/
def pop : BoundedQueue α n → Option (α × BoundedQueue α n)
  | ⟨[], _⟩ => none
  | ⟨a :: rest, h⟩ => some (a, ⟨rest, Nat.le_of_succ_le h⟩)

def IsFull (q : BoundedQueue α n) : Prop := q.items.length = n

instance (q : BoundedQueue α n) : Decidable q.IsFull := inferInstanceAs (Decidable (_ = n))

variable {q q' : BoundedQueue α n} {a : α}

@[simp] theorem items_empty : (empty : BoundedQueue α n).items = [] := rfl

theorem items_push (h : q.push a = some q') : q'.items = q.items ++ [a] := by
  unfold push at h
  split at h
  · obtain rfl := Option.some.inj h
    rfl
  · exact absurd h (by simp)

theorem push_eq_none : q.push a = none ↔ q.IsFull := by
  have hbound := q.bound
  unfold push IsFull
  split
  · constructor
    · intro h
      exact absurd h (by simp)
    · omega
  · constructor
    · omega
    · intro _
      rfl

theorem not_isFull_of_push (h : q.push a = some q') : ¬ q.IsFull := by
  intro hfull
  rw [push_eq_none.mpr hfull] at h
  exact absurd h (by simp)

theorem items_pop (h : q.pop = some (a, q')) : q.items = a :: q'.items := by
  obtain ⟨items, hbound⟩ := q
  cases items with
  | nil => exact absurd h (by simp [pop])
  | cons b rest =>
    obtain ⟨rfl, rfl⟩ := Prod.mk.inj (Option.some.inj h)
    rfl

/-- What is left after one element has been taken out has room. -/
theorem not_isFull_of_pop (h : q.pop = some (a, q')) : ¬ q'.IsFull := by
  have hbound := q.bound
  rw [items_pop h, List.length_cons] at hbound
  unfold IsFull
  omega

theorem pop_eq_none : q.pop = none ↔ q.items = [] := by
  obtain ⟨items, hbound⟩ := q
  cases items <;> simp [pop]

end BoundedQueue
