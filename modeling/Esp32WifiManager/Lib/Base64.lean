import Esp32WifiManager.Lib.CString

/-!
# Base64

Three bytes are written as four digits of six bits each, and what is left over
at the end is filled up to four characters with `=`.
-/

namespace Base64

open CString

def alphabet : Bytes := ascii "ABCDEFGHIJKLMNOPQRSTUVWXYZabcdefghijklmnopqrstuvwxyz0123456789+/"

def digit (i : ℕ) : UInt8 := alphabet.getD i 61

def value (c : UInt8) : Option ℕ := if c ∈ alphabet then some (alphabet.idxOf c) else none

def encode : Bytes → Bytes
  | a :: b :: c :: t =>
    digit (a.toNat / 4) :: digit (a.toNat % 4 * 16 + b.toNat / 16) ::
      digit (b.toNat % 16 * 4 + c.toNat / 64) :: digit (c.toNat % 64) :: encode t
  | [a, b] =>
    [digit (a.toNat / 4), digit (a.toNat % 4 * 16 + b.toNat / 16), digit (b.toNat % 16 * 4), 61]
  | [a] => [digit (a.toNat / 4), digit (a.toNat % 4 * 16), 61, 61]
  | [] => []

/-- The bytes of a text that is filled up as it should be. -/
def decode : Bytes → Option Bytes
  | w :: x :: y :: z :: t =>
    match value w, value x, value y, value z with
    | some w, some x, some y, some z =>
      (decode t).map fun b =>
        (w * 4 + x / 16).toUInt8 :: (x % 16 * 16 + y / 4).toUInt8 :: (y % 4 * 64 + z).toUInt8 :: b
    | some w, some x, some y, none =>
      if z = 61 ∧ t = [] then some [(w * 4 + x / 16).toUInt8, (x % 16 * 16 + y / 4).toUInt8]
      else none
    | some w, some x, none, none =>
      if y = 61 ∧ z = 61 ∧ t = [] then some [(w * 4 + x / 16).toUInt8] else none
    | _, _, _, _ => none
  | [] => some []
  | _ => none

theorem value_digit {i : ℕ} (h : i < 64) : value (digit i) = some i := by
  revert i
  decide

theorem digit_mem {i : ℕ} (h : i < 64) : digit i ∈ alphabet := by
  revert i
  decide

section Bytes

variable (a b c : UInt8)

/-- The three bytes of a group come back from its four digits. -/
theorem first_byte (x : ℕ) (hx : x < 16) :
    (a.toNat / 4 * 4 + (a.toNat % 4 * 16 + x) / 16).toUInt8 = a := by
  rw [← UInt8.toNat_inj, UInt8.toNat_ofNat']
  have := a.toNat_lt
  omega

theorem second_byte (x y : ℕ) (hy : y < 4) :
    ((x * 16 + b.toNat / 16) % 16 * 16 + (b.toNat % 16 * 4 + y) / 4).toUInt8 = b := by
  rw [← UInt8.toNat_inj, UInt8.toNat_ofNat']
  have := b.toNat_lt
  omega

theorem third_byte (x : ℕ) : ((x * 4 + c.toNat / 64) % 4 * 64 + c.toNat % 64).toUInt8 = c := by
  rw [← UInt8.toNat_inj, UInt8.toNat_ofNat']
  have := c.toNat_lt
  omega

end Bytes

theorem value_fill : value 61 = none := by decide

theorem decode_encode (m : Bytes) : decode (encode m) = some m := by
  induction m using encode.induct with
  | case1 a b c t ih =>
    have ha := a.toNat_lt
    have hb := b.toNat_lt
    have hc := c.toNat_lt
    rw [encode, decode, value_digit (by omega), value_digit (by omega), value_digit (by omega),
      value_digit (by omega)]
    simp only [ih, Option.map_some, first_byte a (b.toNat / 16) (by omega),
      second_byte b (a.toNat % 4) (c.toNat / 64) (by omega), third_byte c (b.toNat % 16)]
  | case2 a b =>
    have ha := a.toNat_lt
    have hb := b.toNat_lt
    rw [encode, decode, value_digit (by omega), value_digit (by omega), value_digit (by omega),
      value_fill]
    have hsecond := second_byte b (a.toNat % 4) 0 (by omega)
    rw [Nat.add_zero] at hsecond
    simp only [first_byte a (b.toNat / 16) (by omega), hsecond, and_self, if_true]
  | case3 a =>
    have ha := a.toNat_lt
    rw [encode, decode, value_digit (by omega), value_digit (by omega), value_fill]
    have hfirst := first_byte a 0 (by omega)
    rw [Nat.add_zero] at hfirst
    simp only [hfirst, and_self, if_true]
  | case4 => rfl

theorem length_encode (m : Bytes) : (encode m).length = (m.length + 2) / 3 * 4 := by
  induction m using encode.induct with
  | case1 a b c t ih =>
    simp only [encode, List.length_cons, ih]
    omega
  | case2 a b => simp [encode]
  | case3 a => simp [encode]
  | case4 => rfl

/-- What is written are digits and fill characters. -/
theorem mem_encode {m : Bytes} {x : UInt8} (hx : x ∈ encode m) : x ∈ alphabet ∨ x = 61 := by
  induction m using encode.induct with
  | case1 a b c t ih =>
    have ha := a.toNat_lt
    have hb := b.toNat_lt
    have hc := c.toNat_lt
    simp only [encode, List.mem_cons] at hx
    rcases hx with rfl | rfl | rfl | rfl | hx
    · exact .inl (digit_mem (by omega))
    · exact .inl (digit_mem (by omega))
    · exact .inl (digit_mem (by omega))
    · exact .inl (digit_mem (by omega))
    · exact ih hx
  | case2 a b =>
    have ha := a.toNat_lt
    have hb := b.toNat_lt
    simp only [encode, List.mem_cons, List.not_mem_nil, or_false] at hx
    rcases hx with rfl | rfl | rfl | rfl
    · exact .inl (digit_mem (by omega))
    · exact .inl (digit_mem (by omega))
    · exact .inl (digit_mem (by omega))
    · exact .inr rfl
  | case3 a =>
    have ha := a.toNat_lt
    simp only [encode, List.mem_cons, List.not_mem_nil, or_false] at hx
    rcases hx with rfl | rfl | rfl | rfl
    · exact .inl (digit_mem (by omega))
    · exact .inl (digit_mem (by omega))
    · exact .inr rfl
    · exact .inr rfl
  | case4 => exact absurd hx (by simp [encode])

end Base64
