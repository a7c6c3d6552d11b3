import Esp32WifiManager.Lib.CString

/-!
# Accesses to a text

A routine that walks through a text with pointers leaves a trace: the offsets of
the bytes it has examined, those of the bytes it has taken for something else,
and the sizes it has subtracted. The trace is safe for a slice of the text when
no byte behind the terminator is examined, nothing is taken from outside the
slice and no size falls below zero.
-/

namespace AccessTrace

open CString

inductive Access
  | examine (offset : ℕ)
  | take (offset : ℕ)
  | subtract (a b : ℕ)
  deriving DecidableEq, Repr

/-- `ptr` and `len` are the slice; the terminator stands at `textLen`. -/
def Access.Safe (textLen ptr len : ℕ) : Access → Prop
  | .examine offset => offset ≤ textLen
  | .take offset => ptr ≤ offset ∧ offset < ptr + len
  | .subtract a b => b ≤ a

def Safe (textLen ptr len : ℕ) (trace : List Access) : Prop := ∀ a ∈ trace, a.Safe textLen ptr len

/-- A number of bytes from an offset on. -/
def examined (offset count : ℕ) : List Access := (List.range' offset count).map .examine

def taken (offset count : ℕ) : List Access := (List.range' offset count).map .take

/-- The bytes that a comparison of a text with `b` looks at: the terminator is the last one. -/
def strncmpReads : Bytes → Bytes → ℕ → ℕ
  | _, _, 0 => 0
  | [], _, _ + 1 => 1
  | _ :: _, [], _ + 1 => 1
  | a :: as, b :: bs, n + 1 => if a = b then 1 + strncmpReads as bs n else 1

/-- A search for characters, which ends at the terminator at the latest. -/
def scanText (text : Bytes) (offset : ℕ) : List Access :=
  examined offset ((text.drop offset).length + 1)

def strncmpTrace (text : Bytes) (offset : ℕ) (b : Bytes) (n : ℕ) : List Access :=
  examined offset (strncmpReads (text.drop offset) b n)

section Safe

variable {textLen ptr len : ℕ} {s t : List Access}

@[simp] theorem safe_nil : Safe textLen ptr len [] := by simp [Safe]

@[simp] theorem safe_append :
    Safe textLen ptr len (s ++ t) ↔ Safe textLen ptr len s ∧ Safe textLen ptr len t :=
  List.forall_mem_append

@[simp] theorem safe_subtract {a b : ℕ} :
    Safe textLen ptr len (.subtract a b :: t) ↔ b ≤ a ∧ Safe textLen ptr len t :=
  List.forall_mem_cons

theorem safe_examined {offset count : ℕ} (h : offset + count ≤ textLen + 1) :
    Safe textLen ptr len (examined offset count) := by
  intro a ha
  obtain ⟨o, ho, rfl⟩ := List.mem_map.mp ha
  rw [List.mem_range'_1] at ho
  show o ≤ textLen
  omega

theorem safe_taken {offset count : ℕ} (hptr : ptr ≤ offset) (hend : offset + count ≤ ptr + len) :
    Safe textLen ptr len (taken offset count) := by
  intro a ha
  obtain ⟨o, ho, rfl⟩ := List.mem_map.mp ha
  rw [List.mem_range'_1] at ho
  exact ⟨by omega, by omega⟩

end Safe

section Text

variable {ptr len offset : ℕ}

/-- The comparison ends at its bound, and it does not pass the terminator. -/
theorem strncmpReads_le (a b : Bytes) (n : ℕ) : strncmpReads a b n ≤ min n (a.length + 1) := by
  induction n generalizing a b with
  | zero => simp [strncmpReads]
  | succ n ih =>
    cases a with
    | nil => simp [strncmpReads]
    | cons x as =>
      cases b with
      | nil => simp [strncmpReads]
      | cons y bs =>
        rw [strncmpReads, List.length_cons]
        have := ih as bs
        split_ifs <;> omega

theorem safe_strncmpTrace {text : Bytes} (h : offset ≤ text.length) (b : Bytes) (n : ℕ) :
    Safe text.length ptr len (strncmpTrace text offset b n) := by
  have hle := strncmpReads_le (text.drop offset) b n
  rw [List.length_drop] at hle
  exact safe_examined (by omega)

theorem safe_scanText {text : Bytes} (h : offset ≤ text.length) :
    Safe text.length ptr len (scanText text offset) := by
  refine safe_examined ?_
  rw [List.length_drop]
  omega

end Text

end AccessTrace
