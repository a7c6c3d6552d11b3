import Mathlib.Data.List.Basic
import Mathlib.Data.List.TakeWhile
import Mathlib.Data.List.Infix

/-!
# Byte strings of a C program

A block of memory is a list of bytes and the C string that starts a block is
what stands before its first NUL. The searching functions of `string.h` are
instances of one search for the first suffix with a property; they return an
offset where C returns a pointer. `strtoul` is the one of a 32-bit target.
-/

namespace CString

abbrev Bytes := List UInt8

/-- A property of the bytes of a block is decided along the block, never over all bytes. -/
instance (priority := 2000) decidableForallMem {p : UInt8 → Prop} [DecidablePred p] (b : Bytes) :
    Decidable (∀ c ∈ b, p c) :=
  List.decidableBAll p b

/-- The bytes of an ASCII literal, without the terminator. -/
def ascii (s : String) : Bytes := s.toList.map fun c => c.toNat.toUInt8

/-! ### The first suffix with a property -/

section FirstSuffix

variable {α : Type*} {p : List α → Bool}

/-- Offset of the first suffix that satisfies `p`; the empty suffix is the last one tried. -/
def firstSuffix (p : List α → Bool) : List α → Option ℕ
  | [] => if p [] then some 0 else none
  | x :: xs => if p (x :: xs) then some 0 else (firstSuffix p xs).map (· + 1)

theorem firstSuffix_eq_some {l : List α} {i : ℕ} :
    firstSuffix p l = some i ↔
      i ≤ l.length ∧ p (l.drop i) = true ∧ ∀ j < i, p (l.drop j) = false := by
  induction l generalizing i with
  | nil =>
    by_cases h : p [] = true
    · simp only [firstSuffix, h, if_true, Option.some.injEq, List.length_nil, List.drop_nil]
      constructor
      · rintro rfl
        simp
      · rintro ⟨hi, -, -⟩
        omega
    · simp [firstSuffix, h]
  | cons x xs ih =>
    by_cases h : p (x :: xs) = true
    · simp only [firstSuffix, h, if_true, Option.some.injEq]
      constructor
      · rintro rfl
        simp [h]
      · rintro ⟨-, -, hj⟩
        by_contra hi
        have := hj 0 (by omega)
        simp [h] at this
    · simp only [firstSuffix, h, Bool.false_eq_true, if_false, Option.map_eq_some_iff, ih]
      constructor
      · rintro ⟨k, ⟨hk, hp, hj⟩, rfl⟩
        refine ⟨by simp only [List.length_cons]; omega, by simpa using hp, ?_⟩
        intro j hlt
        cases j with
        | zero => simpa using h
        | succ j => simpa using hj j (by omega)
      · rintro ⟨hi, hp, hj⟩
        cases i with
        | zero => simp [h] at hp
        | succ k =>
          refine ⟨k, ⟨by simp only [List.length_cons] at hi; omega, by simpa using hp, ?_⟩, rfl⟩
          intro j hlt
          simpa using hj (j + 1) (by omega)

theorem firstSuffix_eq_none {l : List α} :
    firstSuffix p l = none ↔ ∀ i ≤ l.length, p (l.drop i) = false := by
  induction l with
  | nil =>
    cases h : p [] <;> simp [firstSuffix, h]
  | cons x xs ih =>
    cases h : p (x :: xs) with
    | true =>
      simp only [firstSuffix, h, if_true, reduceCtorEq, false_iff, not_forall]
      exact ⟨0, by simp, by simp [h]⟩
    | false =>
      simp only [firstSuffix, h, Bool.false_eq_true, if_false, Option.map_eq_none_iff, ih]
      constructor
      · intro hs i hi
        cases i with
        | zero => simpa using h
        | succ i => simpa using hs i (by simp only [List.length_cons] at hi; omega)
      · intro hs i hi
        simpa using hs (i + 1) (by simp only [List.length_cons]; omega)

end FirstSuffix

/-! ### The string that starts a block of memory -/

/-- The C string at the start of a block. -/
def text (m : Bytes) : Bytes := m.takeWhile (· ≠ 0)

@[simp] theorem text_nil : text [] = [] := rfl

theorem text_append_nul (w t : Bytes) : text (w ++ 0 :: t) = text w := by
  induction w with
  | nil => simp [text]
  | cons c w ih =>
    by_cases h : c = 0
    · simp [text, h]
    · simpa [text, h] using ih

theorem nul_notMem_text (m : Bytes) : (0 : UInt8) ∉ text m := by
  intro h
  have := List.mem_takeWhile_imp h
  simp at this

theorem text_eq_self {s : Bytes} (h : (0 : UInt8) ∉ s) : text s = s := by
  refine List.takeWhile_eq_self_iff.mpr ?_
  intro c hc
  have : c ≠ 0 := fun he => h (he ▸ hc)
  simpa using this

@[simp] theorem text_text (m : Bytes) : text (text m) = text m :=
  text_eq_self (nul_notMem_text m)

theorem text_isPrefix (m : Bytes) : text m <+: m := List.takeWhile_prefix _

theorem text_length_le (m : Bytes) : (text m).length ≤ m.length := (text_isPrefix m).length_le

theorem text_append {s : Bytes} (h : (0 : UInt8) ∉ s) (t : Bytes) : text (s ++ t) = s ++ text t := by
  induction s with
  | nil => rfl
  | cons c s ih =>
    simp only [List.mem_cons, not_or] at h
    have hc : c ≠ 0 := fun he => h.1 he.symm
    simpa [text, hc] using ih h.2

theorem text_append_of_mem {s : Bytes} (h : (0 : UInt8) ∈ s) (t : Bytes) :
    text (s ++ t) = text s := by
  obtain ⟨w, u, rfl⟩ := List.append_of_mem h
  rw [List.append_assoc, List.cons_append, text_append_nul, text_append_nul]

/-- More bytes behind a string can only lengthen it. -/
theorem text_prefix_append (s t : Bytes) : text s <+: text (s ++ t) := by
  by_cases h : (0 : UInt8) ∈ s
  · rw [text_append_of_mem h]
  · rw [text_append h, text_eq_self h]
    exact List.prefix_append s (text t)

/-- The string at an offset. -/
def strAt (m : Bytes) (i : ℕ) : Bytes := text (m.drop i)

theorem strAt_append {s : Bytes} {i : ℕ} (h : s.length = i) (w t : Bytes) (hw : (0 : UInt8) ∉ w) :
    strAt (s ++ (w ++ 0 :: t)) i = w := by
  rw [strAt, List.drop_left' h, text_append_nul, text_eq_self hw]

/-- A byte is overwritten by a terminator. -/
theorem set_append_cons {s : Bytes} {i : ℕ} (h : s.length = i) (c : UInt8) (t : Bytes) :
    (s ++ c :: t).set i 0 = s ++ 0 :: t := by
  subst h
  simp

/-- `strncmp (a, b, n) == 0` on two strings. -/
def strncmpEq (a b : Bytes) (n : ℕ) : Bool := a.take n = b.take n

theorem strncmpEq_iff {a b : Bytes} {n : ℕ} : strncmpEq a b n = true ↔ a.take n = b.take n := by
  simp [strncmpEq]

/-- The difference of two `size_t` of a 32-bit target. -/
def sizeSub (a b : ℕ) : ℕ := if b ≤ a then a - b else a + 4294967296 - b

/-- The string that `snprintf` leaves in a buffer of `size` bytes. -/
def snprintf (size : ℕ) (s : Bytes) : Bytes := s.take (size - 1)

/-! ### Character arrays -/

/-- A `char` array of fixed size; every byte of it counts, also behind the terminator. -/
abbrev CharBuf (n : ℕ) := Vector UInt8 n

namespace CharBuf

variable {n : ℕ}

def zero (n : ℕ) : CharBuf n := Vector.replicate n 0

/-- The string in the array. -/
def str (b : CharBuf n) : Bytes := text b.toList

/-- A zeroed array after `snprintf` of `s` into it. -/
def ofStr (n : ℕ) (s : Bytes) : CharBuf n := Vector.ofFn fun i => (snprintf n s).getD i 0

/-- The array with a terminator at its start; the other bytes stay. -/
def clear (b : CharBuf (n + 1)) : CharBuf (n + 1) := b.set 0 0

def isEmpty (b : CharBuf (n + 1)) : Bool := b[0] = 0

/-- The `n` bytes at `offset`, seen as an array. -/
def ofBytes (n : ℕ) (m : Bytes) (offset : ℕ) : CharBuf n := Vector.ofFn fun i => m.getD (offset + i) 0

theorem isEmpty_iff {b : CharBuf (n + 1)} : b.isEmpty = true ↔ b.str = [] := by
  obtain ⟨c, l, hl⟩ : ∃ c l, b.toList = c :: l :=
    List.exists_cons_of_length_eq_add_one (Vector.length_toList)
  have hget : b[0] = c := by
    rw [← Vector.getElem_toList (by simp [hl])]
    simp [hl]
  by_cases hc : c = 0
  · simp [isEmpty, str, text, hl, hget, hc]
  · simp [isEmpty, str, text, hl, hget, hc]

@[simp] theorem str_zero : (zero n).str = [] := by
  cases n with
  | zero => rfl
  | succ n => exact isEmpty_iff.mp (by simp [isEmpty, zero])

@[simp] theorem str_clear (b : CharBuf (n + 1)) : b.clear.str = [] :=
  isEmpty_iff.mp (by simp [isEmpty, clear])

/-- A string that stands at the start of the array, with its terminator. -/
theorem str_eq_of_get {b : CharBuf n} {v : Bytes} (hnul : 0 ∉ v) (hlt : v.length < n)
    (hget : ∀ i (hi : i < v.length), b[i] = v[i]) (hend : b[v.length] = 0) : b.str = v := by
  have hlist : b.toList = v ++ 0 :: b.toList.drop (v.length + 1) := by
    apply List.ext_getElem (by simp; omega)
    intro i hi₁ hi₂
    rw [Vector.getElem_toList]
    rcases Nat.lt_trichotomy i v.length with hi | rfl | hi
    · rw [List.getElem_append_left hi, hget i hi]
    · rw [List.getElem_append_right le_rfl, hend]
      simp
    · obtain ⟨j, rfl⟩ : ∃ j, i = v.length + 1 + j := ⟨i - v.length - 1, by omega⟩
      rw [List.getElem_append_right (by omega)]
      simp only [Nat.add_assoc, Nat.add_sub_cancel_left]
      simp [Nat.add_comm 1 j, Nat.add_assoc]
  rw [str, hlist, text_append_nul, text_eq_self hnul]

theorem str_ofStr {v : Bytes} (hnul : 0 ∉ v) (hlt : v.length < n) : (ofStr n v).str = v := by
  have hprint : snprintf n v = v := List.take_of_length_le (by omega)
  apply str_eq_of_get hnul hlt
  · intro i hi
    simp [ofStr, hprint, hi]
  · simp [ofStr, hprint]

/-- Nothing but the printed bytes is in the string. -/
theorem mem_str_ofStr {m : Bytes} {c : UInt8} (h : c ∈ (ofStr n m).str) : c ∈ m := by
  have hne : c ≠ 0 := by
    rintro rfl
    exact nul_notMem_text _ h
  have hlist : c ∈ (ofStr n m).toList := (text_isPrefix _).subset h
  rw [ofStr, Vector.toList_ofFn, List.mem_ofFn] at hlist
  obtain ⟨i, rfl⟩ := hlist
  rw [List.getD_eq_getElem?_getD] at hne ⊢
  cases hget : (snprintf n m)[i.1]? with
  | none => simp [hget] at hne
  | some d => exact List.mem_of_mem_take (List.mem_of_getElem? hget)

theorem str_length_le (b : CharBuf n) : b.str.length ≤ n := by
  have := text_length_le b.toList
  rwa [Vector.length_toList] at this

end CharBuf

/-! ### Searching -/

def strstr (hay needle : Bytes) : Option ℕ := firstSuffix (needle.isPrefixOf ·) hay

/-- `needle` stands at offset `i` of `hay`. -/
def Occurs (needle hay : Bytes) (i : ℕ) : Prop := needle <+: hay.drop i

theorem strstr_eq_some {hay needle : Bytes} {i : ℕ} :
    strstr hay needle = some i ↔
      i ≤ hay.length ∧ Occurs needle hay i ∧ ∀ j < i, ¬ Occurs needle hay j := by
  rw [strstr, firstSuffix_eq_some]
  simp only [Occurs, ← List.isPrefixOf_iff_prefix, Bool.not_eq_true]

theorem strstr_eq_none {hay needle : Bytes} :
    strstr hay needle = none ↔ ∀ i ≤ hay.length, ¬ Occurs needle hay i := by
  rw [strstr, firstSuffix_eq_none]
  simp only [Occurs, ← List.isPrefixOf_iff_prefix, Bool.not_eq_true]

theorem Occurs.length_le {needle hay : Bytes} {i : ℕ} (h : Occurs needle hay i)
    (hi : i ≤ hay.length) : i + needle.length ≤ hay.length := by
  have := List.IsPrefix.length_le h
  rw [List.length_drop] at this
  omega

theorem Occurs.lt_length {needle hay : Bytes} {i : ℕ} (h : Occurs needle hay i)
    (hne : needle ≠ []) : i < hay.length := by
  by_contra hle
  rw [Occurs, List.drop_of_length_le (Nat.not_lt.mp hle)] at h
  exact hne (List.prefix_nil.mp h)

theorem Occurs.append {needle hay : Bytes} {i : ℕ} (h : Occurs needle hay i)
    (hi : i ≤ hay.length) (t : Bytes) : Occurs needle (hay ++ t) i := by
  unfold Occurs
  rw [List.drop_append_of_le_length hi]
  exact h.trans (List.prefix_append _ _)

theorem Occurs.of_append {needle hay t : Bytes} {i : ℕ} (h : Occurs needle (hay ++ t) i)
    (hi : i + needle.length ≤ hay.length) : Occurs needle hay i := by
  unfold Occurs at h
  rw [List.drop_append_of_le_length (by omega)] at h
  exact List.prefix_of_prefix_length_le h (List.prefix_append _ _)
    (by rw [List.length_drop]; omega)

/-- What is found in a prefix is found at the same place in the whole. -/
theorem strstr_append {hay needle : Bytes} {i : ℕ} (h : strstr hay needle = some i) (t : Bytes) :
    strstr (hay ++ t) needle = some i := by
  obtain ⟨hi, ho, hj⟩ := strstr_eq_some.mp h
  have hle := ho.length_le hi
  refine strstr_eq_some.mpr ⟨by rw [List.length_append]; omega, ho.append hi t, ?_⟩
  intro j hlt hocc
  exact hj j hlt (hocc.of_append (by omega))

theorem strstr_of_append {hay t needle : Bytes} {i : ℕ} (h : strstr (hay ++ t) needle = some i)
    (hi : i + needle.length ≤ hay.length) : strstr hay needle = some i := by
  obtain ⟨-, ho, hj⟩ := strstr_eq_some.mp h
  refine strstr_eq_some.mpr ⟨by omega, ho.of_append hi, ?_⟩
  intro j hlt hocc
  exact hj j hlt (hocc.append (by omega) t)

theorem strstr_length_le {hay needle : Bytes} {i : ℕ} (h : strstr hay needle = some i) :
    i + needle.length ≤ hay.length := by
  obtain ⟨hi, ho, -⟩ := strstr_eq_some.mp h
  exact ho.length_le hi

def tolower (c : UInt8) : UInt8 := if 65 ≤ c ∧ c ≤ 90 then c + 32 else c

/-- The first offset at which `needle` stands, letter case ignored. -/
def strcasestr (hay needle : Bytes) : Option ℕ := strstr (hay.map tolower) (needle.map tolower)

/-- The last offset at which `c` stands. -/
def strrchr : Bytes → UInt8 → Option ℕ
  | [], _ => none
  | x :: xs, c =>
    match strrchr xs c with
    | some i => some (i + 1)
    | none => if x = c then some 0 else none

def strpbrk (hay accept : Bytes) : Option ℕ :=
  firstSuffix (fun s => s.head?.any (accept.contains ·)) hay

theorem strpbrk_append_cons {accept : Bytes} {c : UInt8} (hc : c ∈ accept) :
    ∀ {s : Bytes} (t : Bytes), (∀ x ∈ s, x ∉ accept) → strpbrk (s ++ c :: t) accept = some s.length
  | [], t, _ => by simp [strpbrk, firstSuffix, hc]
  | x :: s, t, h => by
    have ih := strpbrk_append_cons hc t (fun y hy => h y (List.mem_cons_of_mem x hy))
    have hx : x ∉ accept := h x List.mem_cons_self
    have hhead : (x :: (s ++ c :: t)).head?.any (accept.contains ·) = false := by simp [hx]
    unfold strpbrk at ih ⊢
    rw [List.cons_append, firstSuffix, hhead, ih]
    rfl

/-- The first offset at which the byte stands. -/
def strchr (hay : Bytes) (c : UInt8) : Option ℕ := hay.idxOf? c

theorem strchr_append_cons {s : Bytes} {c : UInt8} (hc : c ∉ s) (t : Bytes) :
    strchr (s ++ c :: t) c = some s.length := by
  induction s with
  | nil => simp [strchr, List.idxOf?_cons]
  | cons x s ih =>
    have hx : x ≠ c := fun he => hc (by simp [he])
    have hs := ih fun h => hc (by simp [h])
    unfold strchr at hs ⊢
    simp [List.idxOf?_cons, hx, hs]

theorem strchr_eq_none {s : Bytes} {c : UInt8} (hc : c ∉ s) : strchr s c = none := by
  rw [strchr, List.idxOf?_eq_none_iff]
  exact hc

theorem strstr_of_isPrefix {hay needle : Bytes} (h : needle <+: hay) : strstr hay needle = some 0 :=
  strstr_eq_some.mpr ⟨by omega, by simpa [Occurs] using h, by omega⟩

theorem strstr_eq_none_of_notMem {hay needle : Bytes} {c : UInt8} (hc : c ∈ needle)
    (hhay : c ∉ hay) : strstr hay needle = none := by
  rw [strstr_eq_none]
  intro i _ hocc
  exact hhay (List.drop_subset i hay (hocc.subset hc))

/-- The search passes a byte at which the needle does not start. -/
theorem strstr_cons {needle : Bytes} {x : UInt8} {t : Bytes} (h : ¬ needle <+: x :: t) :
    strstr (x :: t) needle = (strstr t needle).map (· + 1) := by
  have hfalse : needle.isPrefixOf (x :: t) = false := by
    rw [← Bool.not_eq_true, List.isPrefixOf_iff_prefix]
    exact h
  rw [strstr, firstSuffix, hfalse]
  rfl

/-- The search passes the bytes before the first one of the needle. -/
theorem strstr_append_of_notMem {s : Bytes} {c : UInt8} (hc : c ∉ s) (needle t : Bytes) :
    strstr (s ++ t) (c :: needle) = (strstr t (c :: needle)).map (s.length + ·) := by
  induction s with
  | nil => simp
  | cons x s ih =>
    have hx : ¬ c :: needle <+: x :: (s ++ t) := by
      intro h
      exact hc (by simp [(List.cons_prefix_cons.mp h).1])
    rw [List.cons_append, strstr_cons hx, ih fun h => hc (by simp [h]), Option.map_map]
    congr 1
    funext i
    simp only [Function.comp_apply, List.length_cons]
    omega

/-! ### Searching behind a separator -/

section Separator

variable {needle : Bytes} {c : UInt8}

theorem prefix_append_cons_iff (hc : c ∉ needle) (s t : Bytes) :
    needle <+: s ++ c :: t ↔ needle <+: s := by
  constructor
  · intro h
    rcases Nat.lt_or_ge s.length needle.length with hlt | hle
    · have hpre : s ++ [c] <+: needle := by
        apply List.prefix_of_prefix_length_le _ h (by simpa [Nat.succ_le_iff] using hlt)
        exact ⟨t, by simp⟩
      exact absurd (hpre.subset (by simp)) hc
    · exact List.prefix_of_prefix_length_le h (List.prefix_append s (c :: t)) hle
  · intro h
    exact h.trans (List.prefix_append _ _)

/-- What does not contain the separator is found before it or behind it. -/
theorem strstr_append_cons (hc : c ∉ needle) (hne : needle ≠ []) (s t : Bytes) :
    strstr (s ++ c :: t) needle =
      (strstr s needle).or ((strstr t needle).map (s.length + 1 + ·)) := by
  induction s with
  | nil =>
    have hnone : strstr [] needle = none := by
      rw [strstr_eq_none]
      intro i _ hocc
      exact hne (List.prefix_nil.mp (by simpa [Occurs] using hocc))
    have hnot : ¬ needle <+: c :: t := fun h =>
      hne (List.prefix_nil.mp ((prefix_append_cons_iff hc [] t).mp h))
    rw [List.nil_append, strstr_cons hnot, hnone, Option.none_or]
    congr 1
    funext i
    exact Nat.add_comm i 1
  | cons x s ih =>
    by_cases hx : needle <+: x :: s
    · have hlong : needle <+: x :: s ++ c :: t := (prefix_append_cons_iff hc (x :: s) t).mpr hx
      rw [strstr_of_isPrefix hx, strstr_of_isPrefix hlong]
      rfl
    · have hlong : ¬ needle <+: x :: (s ++ c :: t) := fun h =>
        hx ((prefix_append_cons_iff hc (x :: s) t).mp h)
      rw [List.cons_append, strstr_cons hlong, strstr_cons hx, ih]
      cases strstr s needle with
      | some i => rfl
      | none =>
        simp only [Option.none_or, Option.map_none, Option.map_map]
        congr 1
        funext i
        simp only [Function.comp_apply, List.length_cons]
        omega

end Separator

/-- A single byte is found where it stands first. -/
theorem strstr_singleton (s : Bytes) (c : UInt8) : strstr s [c] = strchr s c := by
  induction s with
  | nil => rfl
  | cons x s ih =>
    by_cases hx : x = c
    · subst hx
      rw [strstr_of_isPrefix (by simp), strchr, List.idxOf?_cons]
      simp
    · have hnot : ¬ [c] <+: x :: s := by
        rw [List.cons_prefix_cons]
        exact fun h => hx h.1.symm
      rw [strstr_cons hnot, ih, strchr, strchr, List.idxOf?_cons]
      simp [hx]

/-- What stands before the first place of a byte. -/
theorem strchr_prefix_iff {s v : Bytes} {c : UInt8} (hv : c ∉ v) :
    (∃ k, strchr s c = some k ∧ s.take k = v) ↔ v ++ [c] <+: s := by
  constructor
  · rintro ⟨k, hk, rfl⟩
    rw [← strstr_singleton] at hk
    obtain ⟨t, ht⟩ := (strstr_eq_some.mp hk).2.1
    exact ⟨t, by rw [List.append_assoc, ht, List.take_append_drop]⟩
  · rintro ⟨t, rfl⟩
    rw [List.append_assoc]
    exact ⟨v.length, strchr_append_cons hv t, List.take_left⟩

theorem strchr_getD (s : Bytes) (c : UInt8) :
    (strchr s c).getD s.length = (s.takeWhile (· ≠ c)).length := by
  induction s with
  | nil => rfl
  | cons x s ih =>
    unfold strchr at ih ⊢
    by_cases hx : x = c
    · simp [List.idxOf?_cons, hx]
    · rw [List.idxOf?_cons, List.takeWhile_cons_of_pos (by simpa using hx), List.length_cons,
        List.length_cons, ← ih]
      cases s.idxOf? c <;> simp [hx]

theorem lt_of_strchr {s : Bytes} {c : UInt8} {i : ℕ} (h : strchr s c = some i) : i < s.length := by
  have := strstr_length_le (strstr_singleton s c ▸ h)
  rw [List.length_singleton] at this
  omega

/-! ### Numbers -/

def isspace (c : UInt8) : Bool := c = 32 ∨ (9 ≤ c ∧ c ≤ 13)

def isdigit (c : UInt8) : Bool := 48 ≤ c ∧ c ≤ 57

/-- The number written by a list of decimal digits. -/
def decimalValue (ds : Bytes) : ℕ := ds.foldl (fun a d => 10 * a + (d.toNat - 48)) 0

/-- `ULONG_MAX` of a 32-bit target. -/
def ulongMax : ℕ := 4294967295

/-- `strtoul (s, NULL, 10)`: white space, a sign, digits; a too large value saturates and a
minus sign negates within `unsigned long`. -/
def strtoul (s : Bytes) : ℕ :=
  let s := s.dropWhile isspace
  let negative := s.head? = some 45
  let s := if negative ∨ s.head? = some 43 then s.tail else s
  let value := decimalValue (s.takeWhile isdigit)
  if ulongMax < value then ulongMax
  else if negative then (ulongMax + 1 - value) % (ulongMax + 1)
  else value

theorem isdigit_not_isspace {c : UInt8} (h : isdigit c = true) : isspace c = false := by
  simp only [isdigit, isspace, decide_eq_true_eq, decide_eq_false_iff_not, UInt8.le_iff_toNat_le,
    ← UInt8.toNat_inj] at h ⊢
  simp only [UInt8.toNat_ofNat] at h ⊢
  omega

/-- Digits followed by something that is not a digit are read as the number they write. -/
theorem strtoul_digits {ds : Bytes} (hds : ∀ d ∈ ds, isdigit d = true) (hne : ds ≠ []) {c : UInt8}
    (hc : isdigit c = false) (t : Bytes) (hv : decimalValue ds ≤ ulongMax) :
    strtoul (ds ++ c :: t) = decimalValue ds := by
  obtain ⟨d, rest, rfl⟩ := List.exists_cons_of_ne_nil hne
  have hd := hds d List.mem_cons_self
  have htake : ((d :: rest) ++ c :: t).takeWhile isdigit = d :: rest := by
    rw [List.takeWhile_append_of_pos hds]
    simp [hc]
  have h45 : d ≠ 45 := by rintro rfl; exact absurd hd (by decide)
  have h43 : d ≠ 43 := by rintro rfl; exact absurd hd (by decide)
  have hdrop : ((d :: rest) ++ c :: t).dropWhile isspace = (d :: rest) ++ c :: t := by
    simp [isdigit_not_isspace hd]
  have hsign : ¬ (((d :: rest) ++ c :: t).head? = some 45 ∨
      ((d :: rest) ++ c :: t).head? = some 43) := by simp [h45, h43]
  simp only [strtoul, hdrop, if_neg hsign, htake]
  rw [if_neg (by omega), if_neg (by simp [h45])]

end CString
