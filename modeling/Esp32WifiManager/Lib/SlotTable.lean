import Mathlib.Data.List.ReduceOption
import Mathlib.Data.List.Infix

/-!
# Tables of slots

A table of fixed size whose slots hold an entry or are free. Insertion moves all
slots up by one and drops the last, deletion frees one slot and leaves a hole.
The entries, which `reduceOption` reads off in order, behave as a bounded list as long as an
insertion finds the last slot free or no slot free.
-/

namespace SlotTable

variable {α : Type*}

def insert (x : α) (t : List (Option α)) : List (Option α) := (some x :: t).dropLast

def free (t : List (Option α)) (i : ℕ) : List (Option α) := t.set i none

/-- An insertion into `t` loses no entry, or there is no free slot to be had. -/
def Roomy (t : List (Option α)) : Prop := t.getLast? = some none ∨ ∀ o ∈ t, o.isSome

theorem reduceOption_insert_sublist (x : α) (t : List (Option α)) :
    (insert x t).reduceOption.Sublist (x :: t.reduceOption) := by
  have h := List.dropLast_sublist (some x :: t)
  have := h.filterMap id
  rwa [← List.reduceOption_cons_of_some]

theorem reduceOption_free_sublist (t : List (Option α)) (i : ℕ) :
    (free t i).reduceOption.Sublist t.reduceOption := by
  unfold free
  induction t generalizing i with
  | nil => simp
  | cons o t ih =>
    cases i with
    | zero =>
      cases o with
      | none => simp
      | some x => simp
    | succ i =>
      cases o with
      | none => simpa using ih i
      | some x => simpa using ih i

theorem reduceOption_dropLast_of_full {t : List (Option α)} (h : ∀ o ∈ t, o.isSome) :
    t.dropLast.reduceOption = t.reduceOption.dropLast := by
  induction t with
  | nil => rfl
  | cons o t ih =>
    obtain ⟨x, rfl⟩ := Option.isSome_iff_exists.mp (h o List.mem_cons_self)
    have ih := ih fun o ho => h o (List.mem_cons_of_mem _ ho)
    cases t with
    | nil => simp
    | cons o' t =>
      obtain ⟨y, rfl⟩ := Option.isSome_iff_exists.mp (h o' (by simp))
      simpa using ih

/-- Where no free slot is passed over, insertion is insertion into a list bounded by the size. -/
theorem reduceOption_insert_of_roomy {t : List (Option α)} (h : Roomy t) (x : α) :
    (insert x t).reduceOption = (x :: t.reduceOption).take t.length := by
  rcases h with hlast | hfull
  · obtain ⟨u, rfl⟩ := List.getLast?_eq_some_iff.mp hlast
    have hins : insert x (u ++ [none]) = some x :: u := by
      rw [insert, ← List.cons_append, List.dropLast_concat]
    have hle := List.reduceOption_length_le u
    rw [hins, List.reduceOption_cons_of_some, List.reduceOption_append,
      List.reduceOption_cons_of_none, List.reduceOption_nil, List.append_nil,
      List.take_of_length_le (by simpa using hle)]
  · have hlen : t.reduceOption.length = t.length := List.reduceOption_length_eq_iff.mpr hfull
    have hall : ∀ o ∈ some x :: t, o.isSome := by
      intro o ho
      rcases List.mem_cons.mp ho with rfl | ho
      · rfl
      · exact hfull o ho
    rw [insert, reduceOption_dropLast_of_full hall, List.reduceOption_cons_of_some,
      List.dropLast_eq_take, List.length_cons, Nat.add_sub_cancel, hlen]

/-- Freeing the first slot that holds `x` takes the first `x` out of the entries. -/
theorem reduceOption_free_first [BEq α] [LawfulBEq α] {t : List (Option α)} {i : ℕ} {x : α}
    (hi : t[i]? = some (some x)) (hfirst : ∀ j < i, t[j]? ≠ some (some x)) :
    (free t i).reduceOption = t.reduceOption.erase x := by
  unfold free
  induction t generalizing i with
  | nil => simp at hi
  | cons o t ih =>
    cases i with
    | zero =>
      obtain rfl : o = some x := by simpa using hi
      simp
    | succ i =>
      have ho : o ≠ some x := by simpa using hfirst 0 (Nat.succ_pos i)
      have ih := ih (by simpa using hi) fun j hj => by simpa using hfirst (j + 1) (by omega)
      cases o with
      | none => simpa using ih
      | some y =>
        have hy : y ≠ x := fun he => ho (by rw [he])
        simp [List.erase_cons_tail, hy, ih]

/-- An insertion moves a slot by one, unless it is the last. -/
theorem getElem?_insert_succ {t : List (Option α)} (x : α) {i : ℕ} (hi : i + 1 < t.length) :
    (insert x t)[i + 1]? = t[i]? := by
  rw [insert, List.getElem?_dropLast, List.length_cons, Nat.add_sub_cancel, if_pos hi,
    List.getElem?_cons_succ]

theorem getElem?_insert_zero {t : List (Option α)} (x : α) (h : 0 < t.length) :
    (insert x t)[0]? = some (some x) := by
  rw [insert, List.getElem?_dropLast, List.length_cons, Nat.add_sub_cancel, if_pos h,
    List.getElem?_cons_zero]

theorem getElem?_free_of_ne {t : List (Option α)} {i j : ℕ} (h : i ≠ j) :
    (free t i)[j]? = t[j]? := List.getElem?_set_ne h

end SlotTable
