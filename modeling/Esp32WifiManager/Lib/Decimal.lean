import Esp32WifiManager.Lib.CString
import Mathlib.Algebra.Ring.Nat

/-!
# Numbers in decimal

`%u` and `%d` print a number in decimal: digits without a leading zero, after a
minus sign where the number is negative.
-/

namespace CString

def printNat (n : ℕ) : Bytes := (Nat.toDigits 10 n).map fun c => c.toNat.toUInt8

def printInt : ℤ → Bytes
  | .ofNat n => printNat n
  | .negSucc n => 45 :: printNat (n + 1)

section Decimal

variable {n : ℕ}

/-- A digit character and its byte. -/
theorem digit_byte {d : Char} (hd : d.isDigit = true) :
    48 ≤ d.toNat ∧ d.toNat ≤ 57 ∧ d.toNat.toUInt8.toNat = d.toNat := by
  have hrange : 48 ≤ d.toNat ∧ d.toNat ≤ 57 := by
    simpa [Char.isDigit, UInt32.le_iff_toNat_le] using hd
  exact ⟨hrange.1, hrange.2, Nat.mod_eq_of_lt (by omega)⟩

theorem isdigit_of_mem_printNat {c : UInt8} (hc : c ∈ printNat n) : isdigit c = true := by
  obtain ⟨d, hd, rfl⟩ := List.mem_map.mp hc
  obtain ⟨hlo, hhi, hbyte⟩ := digit_byte (Nat.isDigit_of_mem_toDigits (by decide) (by decide) hd)
  simp only [isdigit, decide_eq_true_eq, UInt8.le_iff_toNat_le, hbyte, UInt8.reduceToNat]
  exact ⟨hlo, hhi⟩

theorem printNat_ne_nil : printNat n ≠ [] := by
  simp [printNat]

theorem decimalValue_map {ds : List Char} (hds : ∀ d ∈ ds, d.isDigit = true) (a : ℕ) :
    (ds.map fun c => c.toNat.toUInt8).foldl (fun a d => 10 * a + (d.toNat - 48)) a =
      Nat.ofDigitChars 10 ds a := by
  induction ds generalizing a with
  | nil => rfl
  | cons d ds ih =>
    obtain ⟨-, -, hbyte⟩ := digit_byte (hds d List.mem_cons_self)
    rw [List.map_cons, List.foldl_cons, Nat.ofDigitChars_cons, hbyte]
    exact ih (fun x hx => hds x (List.mem_cons_of_mem _ hx)) _

@[simp] theorem decimalValue_printNat : decimalValue (printNat n) = n := by
  unfold decimalValue printNat
  rw [decimalValue_map]
  · exact Nat.ofDigitChars_ten_toDigits
  · exact fun d hd => Nat.isDigit_of_mem_toDigits (by decide) (by decide) hd

/-- A number of one digit, or a number before its last digit. -/
theorem printNat_cases : n < 10 ∧ (printNat n).length = 1 ∨
    10 ≤ n ∧ ∃ c, printNat n = printNat (n / 10) ++ [c] := by
  rcases Nat.lt_or_ge n 10 with hlt | hge
  · exact .inl ⟨hlt, by rw [printNat, Nat.toDigits_of_lt_base hlt]; rfl⟩
  · refine .inr ⟨hge, (n % 10).digitChar.toNat.toUInt8, ?_⟩
    rw [printNat, Nat.toDigits_of_base_le (by decide) hge, List.map_append]
    rfl

/-- Only zero starts with a zero. -/
theorem printNat_head (h : (printNat n).head? = some 48) : n = 0 := by
  induction n using Nat.strong_induction_on with
  | _ n ih =>
    rcases printNat_cases (n := n) with ⟨hlt, -⟩ | ⟨hge, c, hc⟩
    · have hdigits : ∀ n < 10, (printNat n).head? = some 48 → n = 0 := by decide
      exact hdigits n hlt h
    · rw [hc, List.head?_append_of_ne_nil _ printNat_ne_nil] at h
      have := ih (n / 10) (by omega) h
      omega

theorem printNat_length_of_head (h : (printNat n).head? = some 48) : (printNat n).length = 1 := by
  rw [printNat_head h]
  rfl

theorem length_printNat_le_iff {k : ℕ} (hk : 0 < k) : (printNat n).length ≤ k ↔ n < 10 ^ k := by
  rw [printNat, List.length_map]
  exact Nat.length_toDigits_le_iff (by decide) hk

end Decimal

end CString
