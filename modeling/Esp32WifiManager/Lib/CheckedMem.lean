import Esp32WifiManager.Lib.CString

/-!
# Blocks of memory

A block has a fixed number of bytes, and an access names the bytes it is about.
An access that leaves its block ends the program with a fault, and so do a size
that is passed with a block of another size and a size that falls below zero. A
program that never ends with a fault has kept to its blocks.
-/

namespace CheckedMem

open CString

inductive Fault
  | read
  | write
  | size
  | underflow
  deriving DecidableEq

abbrev Checked := Except Fault

abbrev Block (n : ℕ) := {b : Bytes // b.length = n}

/-- The difference of two sizes. -/
def sub (a b : ℕ) : Checked ℕ := if b ≤ a then .ok (a - b) else .error .underflow

namespace Block

variable {n : ℕ}

def zero (n : ℕ) : Block n := ⟨List.replicate n 0, List.length_replicate⟩

/-- A number of bytes from an offset on. -/
def read (b : Block n) (i k : ℕ) : Checked Bytes :=
  if i + k ≤ n then .ok ((b.1.drop i).take k) else .error .read

/-- One byte; an index of C may be negative. -/
def get (b : Block n) (i : ℤ) : Checked UInt8 :=
  if 0 ≤ i ∧ i < n then .ok (b.1.getD i.toNat 0) else .error .read

/-- Bytes are written from an offset on. -/
def write (b : Block n) (i : ℕ) (d : Bytes) : Checked (Block n) :=
  if h : i + d.length ≤ n then
    .ok ⟨b.1.take i ++ d ++ b.1.drop (i + d.length), by
      simp only [List.length_append, List.length_take, List.length_drop, b.2]
      omega⟩
  else .error .write

/-- The size that is passed on with a block. -/
def sized (_ : Block n) (size : ℕ) : Checked Unit := if size = n then .ok () else .error .size

section Access

variable {i k : ℕ} {b : Block n} {d w t : Bytes}

theorem read_eq (h : i + k ≤ n) : b.read i k = .ok ((b.1.drop i).take k) := if_pos h

/-- What stands behind a prefix. -/
theorem read_behind (h : b.1 = w ++ (d ++ t)) : b.read w.length d.length = .ok d := by
  have hlen := congrArg List.length h
  simp only [b.2, List.length_append] at hlen
  rw [read_eq (by omega), h, List.drop_left, List.take_left]

theorem get_eq (h : i < n) : b.get i = .ok (b.1.getD i 0) := by
  simp [get, h]

theorem get_ok {i : ℤ} {c : UInt8} (h : b.get i = .ok c) : 0 ≤ i ∧ i < n := by
  rw [get] at h
  split at h
  · assumption
  · exact absurd h (by simp)

theorem exists_write (h : i + d.length ≤ n) :
    ∃ b', b.write i d = .ok b' ∧ b'.1 = b.1.take i ++ d ++ b.1.drop (i + d.length) :=
  ⟨_, dif_pos h, rfl⟩

/-- A write behind a prefix keeps the prefix and replaces what follows it. -/
theorem write_behind (h : b.1 = w ++ t) (hd : d.length ≤ t.length) :
    ∃ b', b.write w.length d = .ok b' ∧ b'.1 = w ++ (d ++ t.drop d.length) := by
  have hlen := congrArg List.length h
  rw [b.2, List.length_append] at hlen
  obtain ⟨b', hwrite, hb'⟩ := exists_write (b := b) (i := w.length) (d := d) (by omega)
  refine ⟨b', hwrite, ?_⟩
  simp [hb', h, List.drop_append]

/-- A byte is replaced. -/
theorem write_byte (h : i < n) (c : UInt8) :
    ∃ b', b.write i [c] = .ok b' ∧ b'.1.getD i 0 = c ∧ ∀ j ≠ i, b'.1.getD j 0 = b.1.getD j 0 := by
  obtain ⟨b', hwrite, hb'⟩ := exists_write (b := b) (i := i) (d := [c]) h
  have hset : b'.1 = b.1.set i c := by
    rw [hb', List.set_eq_take_append_cons_drop, if_pos (by rw [b.2]; exact h)]
    simp
  refine ⟨b', hwrite, ?_, ?_⟩
  · rw [hset, List.getD_eq_getElem?_getD, List.getElem?_set_self (by rw [b.2]; exact h)]
    rfl
  · intro j hj
    rw [hset, List.getD_eq_getElem?_getD, List.getElem?_set_ne hj.symm, List.getD_eq_getElem?_getD]

end Access

end Block

end CheckedMem
