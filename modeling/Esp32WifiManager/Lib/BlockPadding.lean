import Esp32WifiManager.Lib.CString

/-!
# Padding to whole blocks

A message is filled up to whole blocks of `k` bytes with between one and `k`
bytes, each of which is the number of these bytes, so that the last byte of the
filled up message says how much is to be removed.
-/

namespace BlockPadding

open CString

variable {k : ℕ} (p : Bytes)

def padLen (k : ℕ) (p : Bytes) : ℕ := k - p.length % k

def pad (k : ℕ) (p : Bytes) : Bytes := p ++ List.replicate (padLen k p) (padLen k p).toUInt8

theorem padLen_le : padLen k p ≤ k := Nat.sub_le _ _

theorem padLen_pos (hk : 0 < k) : 0 < padLen k p := Nat.sub_pos_of_lt (Nat.mod_lt _ hk)

theorem length_pad : (pad k p).length = p.length + padLen k p := by simp [pad]

/-- The whole blocks of the message and one more. -/
theorem length_pad_eq (hk : 0 < k) : (pad k p).length = (p.length / k + 1) * k := by
  have hmod := Nat.mod_lt p.length hk
  have hdiv := Nat.div_add_mod p.length k
  rw [length_pad, padLen, Nat.add_mul, Nat.one_mul, Nat.mul_comm]
  omega

theorem length_pad_mod (hk : 0 < k) : (pad k p).length % k = 0 := by
  rw [length_pad_eq p hk, Nat.mul_mod_left]

/-- The last byte is the number of the bytes that were added. -/
theorem getD_last_pad (hk : 0 < k) (hsmall : k < 256) :
    ((pad k p).getD ((pad k p).length - 1) 0).toNat = padLen k p := by
  have hpos := padLen_pos p hk
  have hle := padLen_le (k := k) p
  have hlast : (pad k p).getD ((pad k p).length - 1) 0 = (padLen k p).toUInt8 := by
    rw [length_pad, pad, List.getD_eq_getElem?_getD, List.getElem?_append_right (by omega),
      List.getElem?_replicate, if_pos (by omega)]
    rfl
  rw [hlast, UInt8.toNat_ofNat']
  omega

theorem take_pad : (pad k p).take ((pad k p).length - padLen k p) = p := by
  rw [length_pad, Nat.add_sub_cancel, pad, List.take_left]

end BlockPadding
