import Mathlib.Data.List.Infix
import Mathlib.Logic.Function.Basic

/-!
# Memory that is lent without a copy

Data in a buffer may be lent: whoever borrows it reads it from the buffer as
often as he likes, until he has returned it. What he reads is what was lent to
him as long as nobody writes to a buffer from which something is out.
-/

namespace BorrowedMemory

variable {ι α : Type*}

/-- The first `back` items of `data` have been returned. -/
structure Loan (ι α : Type*) where
  buf : ι
  data : List α
  back : ℕ
  deriving DecidableEq

structure Memory (ι α : Type*) where
  cells : ι → List α
  loans : List (Loan ι α)

namespace Memory

variable (M : Memory ι α)

def write [DecidableEq ι] (b : ι) (m : List α) : Memory ι α :=
  { M with cells := Function.update M.cells b m }

def lend (b : ι) (data : List α) : Memory ι α :=
  { M with loans := M.loans ++ [⟨b, data, 0⟩] }

/-- `n` more items of a loan are returned. -/
def giveBack (i n : ℕ) : Memory ι α :=
  { M with loans := M.loans.modify i fun l => { l with back := l.back + n } }

/-- Up to `n` items of a loan as its buffer now has them, starting at `start`. -/
def read (l : Loan ι α) (start n : ℕ) : List α :=
  ((M.cells l.buf).drop start).take (min n (l.data.length - start))

/-- Nothing from the buffer is out. -/
def Free (b : ι) : Prop := ∀ l ∈ M.loans, l.buf = b → l.data.length ≤ l.back

/-- What is out still stands at the start of its buffer. -/
def Intact : Prop := ∀ l ∈ M.loans, l.back < l.data.length → l.data <+: M.cells l.buf

instance [DecidableEq ι] (b : ι) : Decidable (M.Free b) :=
  inferInstanceAs (Decidable (∀ l ∈ M.loans, l.buf = b → l.data.length ≤ l.back))

end Memory

section Rules

variable {M : Memory ι α} {b : ι} {m data : List α}

/-- A buffer from which nothing is out may be written. -/
theorem intact_write [DecidableEq ι] (h : M.Intact) (hfree : M.Free b) : (M.write b m).Intact := by
  intro l hl hout
  have hbuf : l.buf ≠ b := by
    intro hb
    have := hfree l hl hb
    omega
  have hcell : (M.write b m).cells l.buf = M.cells l.buf := Function.update_of_ne hbuf _ _
  rw [hcell]
  exact h l hl hout

/-- What stands at the start of a buffer may be lent. -/
theorem intact_lend (h : M.Intact) (hdata : data <+: M.cells b) : (M.lend b data).Intact := by
  intro l hl hout
  rcases List.mem_append.mp hl with hold | hnew
  · exact h l hold hout
  · obtain rfl := List.mem_singleton.mp hnew
    exact hdata

theorem intact_giveBack (h : M.Intact) (i n : ℕ) : (M.giveBack i n).Intact := by
  intro l hl hout
  obtain ⟨j, hj, rfl⟩ := List.mem_iff_getElem.mp hl
  simp only [Memory.giveBack, List.length_modify] at hj
  have hmem : M.loans[j] ∈ M.loans := List.getElem_mem hj
  simp only [Memory.giveBack, List.getElem_modify] at hout ⊢
  split_ifs at hout ⊢ with hij
  · have hstill : M.loans[j].back < M.loans[j].data.length := by
      simp only at hout
      omega
    exact h M.loans[j] hmem hstill
  · exact h M.loans[j] hmem hout

/-- What is out is read as it was lent. -/
theorem read_eq (h : M.Intact) {l : Loan ι α} (hl : l ∈ M.loans) {start : ℕ} (hback : l.back ≤ start)
    (n : ℕ) : M.read l start n = (l.data.drop start).take n := by
  unfold Memory.read
  rcases Nat.lt_or_ge start l.data.length with hlt | hge
  · obtain ⟨tail, htail⟩ := h l hl (by omega)
    rw [← htail, List.drop_append_of_le_length hlt.le, List.take_append_of_le_length]
    · rw [← List.length_drop]
      exact List.take_eq_take_iff.mpr (by omega)
    · rw [List.length_drop]
      omega
  · have hzero : l.data.length - start = 0 := by omega
    rw [hzero, Nat.min_zero, List.take_zero, List.drop_eq_nil_of_le hge, List.take_nil]

end Rules

end BorrowedMemory
