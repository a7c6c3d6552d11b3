import Esp32WifiManager.Lib.CString

/-!
# Texts of header fields

A text of header fields is a sequence of lines `Name: value`, each of which ends
with CRLF. Every line ends at the first CR or LF of what is left, so that the
lines of a text are known from the text.
-/

namespace FieldLines

open CString

variable {l m q rest t x : Bytes} {c : UInt8}

def eol : Bytes := [13, 10]

/-- There is neither CR nor LF in the text. -/
def Clean (t : Bytes) : Prop := ∀ c ∈ t, c ≠ 13 ∧ c ≠ 10

/-- A header field without its line end. -/
def IsField (l : Bytes) : Prop :=
  ∃ name value, l = name ++ 58 :: 32 :: value ∧ name ≠ [] ∧ 58 ∉ name ∧ Clean name ∧ Clean value

/-- The text is the sequence of the lines. -/
def joinLines (ls : List Bytes) : Bytes := ls.flatMap (· ++ eol)

/-- The field is one of the lines of a text that consists of fields. -/
def HasLine (t l : Bytes) : Prop := ∃ ls, (∀ m ∈ ls, IsField m) ∧ t = joinLines ls ∧ l ∈ ls

/-- A sequence of complete header fields. -/
def IsFields (t : Bytes) : Prop := ∃ ls, (∀ l ∈ ls, IsField l) ∧ t = joinLines ls

instance : Decidable (Clean t) := inferInstanceAs (Decidable (∀ c ∈ t, c ≠ 13 ∧ c ≠ 10))

/-! ### Clean texts -/

@[simp] theorem clean_nil : Clean [] := by simp [Clean]

@[simp] theorem clean_append : Clean (x ++ t) ↔ Clean x ∧ Clean t := by
  simp only [Clean, List.mem_append]
  constructor
  · intro h
    exact ⟨fun c hc => h c (Or.inl hc), fun c hc => h c (Or.inr hc)⟩
  · rintro ⟨hx, ht⟩ c (hc | hc)
    · exact hx c hc
    · exact ht c hc

theorem clean_cons : Clean (c :: t) ↔ (c ≠ 13 ∧ c ≠ 10) ∧ Clean t := List.forall_mem_cons

theorem Clean.of_subset (h : Clean t) (hsub : x ⊆ t) : Clean x := fun c hc => h c (hsub hc)

/-- A text that is not clean has a first CR or LF. -/
theorem exists_of_not_clean (h : ¬ Clean t) :
    ∃ x c rest, t = x ++ c :: rest ∧ Clean x ∧ (c = 13 ∨ c = 10) := by
  induction t with
  | nil => exact absurd clean_nil h
  | cons d t ih =>
    by_cases hd : d = 13 ∨ d = 10
    · exact ⟨[], d, t, rfl, clean_nil, hd⟩
    · have hne : d ≠ 13 ∧ d ≠ 10 := not_or.mp hd
      have ht : ¬ Clean t := fun ht => h (clean_cons.mpr ⟨hne, ht⟩)
      obtain ⟨x, c, rest, rfl, hx, hc⟩ := ih ht
      exact ⟨d :: x, c, rest, rfl, clean_cons.mpr ⟨hne, hx⟩, hc⟩

/-- The first CR or LF of a text is where it is. -/
theorem clean_split {a b : Bytes} {d : UInt8} (hx : Clean x) (hc : c = 13 ∨ c = 10) (ha : Clean a)
    (hd : d = 13 ∨ d = 10) (h : x ++ c :: t = a ++ d :: b) : x = a ∧ c = d ∧ t = b := by
  induction x generalizing a with
  | nil =>
    cases a with
    | nil => simpa using h
    | cons e a =>
      obtain ⟨rfl, -⟩ := List.cons.inj h
      have he := ha c List.mem_cons_self
      simp only [ne_eq] at he
      tauto
  | cons e x ih =>
    cases a with
    | nil =>
      obtain ⟨rfl, -⟩ := List.cons.inj h
      have he := hx e List.mem_cons_self
      simp only [ne_eq] at he
      tauto
    | cons f a =>
      obtain ⟨rfl, htail⟩ := List.cons.inj h
      obtain ⟨rfl, hcd, htb⟩ := ih (clean_cons.mp hx).2 (clean_cons.mp ha).2 htail
      exact ⟨rfl, hcd, htb⟩

/-! ### Fields -/

theorem IsField.clean (h : IsField l) : Clean l := by
  obtain ⟨name, value, rfl, -, -, hname, hvalue⟩ := h
  rw [clean_append]
  refine ⟨hname, ?_⟩
  rw [clean_cons, clean_cons]
  exact ⟨by decide, by decide, hvalue⟩

theorem IsField.ne_nil (h : IsField l) : l ≠ [] := by
  obtain ⟨name, value, rfl, -⟩ := h
  simp

/-- More of the value. -/
theorem IsField.append (h : IsField l) (hq : Clean q) : IsField (l ++ q) := by
  obtain ⟨name, value, rfl, hne, hcolon, hname, hvalue⟩ := h
  exact ⟨name, value ++ q, by simp, hne, hcolon, hname, clean_append.mpr ⟨hvalue, hq⟩⟩

/-- A text that has no colon and does not start with a blank adds nothing but value. -/
theorem isField_append (hq : Clean q) (hcolon : 58 ∉ q) (hblank : q.head? ≠ some 32) :
    IsField (l ++ q) ↔ IsField l := by
  constructor
  · rintro ⟨name, value, hl, hne, hname, hcn, hcv⟩
    rcases List.append_eq_append_iff.mp hl with ⟨a, rfl, ha⟩ | ⟨a, rfl, ha⟩
    · -- the colon would be in `q`
      have : (58 : UInt8) ∈ q := by
        rw [ha]
        simp
      exact absurd this hcolon
    · cases a with
      | nil =>
        have : (58 : UInt8) ∈ q := by
          rw [List.nil_append] at ha
          rw [← ha]
          simp
        exact absurd this hcolon
      | cons d a =>
        obtain ⟨rfl, hblanks⟩ := List.cons.inj ha
        cases a with
        | nil =>
          have hq32 : q = 32 :: value := hblanks.symm
          rw [hq32] at hblank
          simp at hblank
        | cons e a =>
          obtain ⟨rfl, rfl⟩ := List.cons.inj hblanks
          exact ⟨name, a, rfl, hne, hname, hcn, (clean_append.mp hcv).1⟩
  · intro h
    exact h.append hq

theorem isField_mk (name value : Bytes) (hne : name ≠ []) (hcolon : 58 ∉ name)
    (hname : Clean name) (hvalue : Clean value) : IsField (name ++ 58 :: 32 :: value) :=
  ⟨name, value, rfl, hne, hcolon, hname, hvalue⟩

/-! ### Sequences of fields -/

theorem isFields_nil : IsFields [] := ⟨[], by simp, rfl⟩

theorem isFields_cons (hl : IsField l) (ht : IsFields t) : IsFields (l ++ eol ++ t) := by
  obtain ⟨ls, hls, rfl⟩ := ht
  exact ⟨l :: ls, List.forall_mem_cons.mpr ⟨hl, hls⟩, rfl⟩

theorem isFields_append (hx : IsFields x) (ht : IsFields t) : IsFields (x ++ t) := by
  obtain ⟨ls, hls, rfl⟩ := hx
  obtain ⟨ms, hms, rfl⟩ := ht
  refine ⟨ls ++ ms, ?_, List.flatMap_append.symm⟩
  intro l hl
  rcases List.mem_append.mp hl with h | h
  · exact hls l h
  · exact hms l h

theorem isFields_one (hl : IsField l) : IsFields (l ++ eol) := by
  have := isFields_cons hl isFields_nil
  rwa [List.append_nil] at this

/-- The first line of a sequence of fields ends at the first CR or LF, which is a CRLF. -/
theorem isFields_split (hl : Clean l) (hc : c = 13 ∨ c = 10) :
    IsFields (l ++ c :: t) ↔ c = 13 ∧ IsField l ∧ ∃ rest, t = 10 :: rest ∧ IsFields rest := by
  constructor
  · rintro ⟨ls, hls, ht⟩
    cases ls with
    | nil => simp [joinLines] at ht
    | cons m ls =>
      obtain ⟨hm, htail⟩ := List.forall_mem_cons.mp hls
      have hjoin : l ++ c :: t = m ++ 13 :: (10 :: joinLines ls) := by
        rw [ht]
        simp [joinLines, eol]
      obtain ⟨rfl, rfl, rfl⟩ := clean_split hl hc hm.clean (Or.inl rfl) hjoin
      exact ⟨rfl, hm, joinLines ls, rfl, ls, htail, rfl⟩
  · rintro ⟨rfl, hfield, rest, rfl, hrest⟩
    have := isFields_cons hfield hrest
    rwa [List.append_assoc] at this

theorem isFields_one_iff (hl : Clean l) : IsFields (l ++ eol) ↔ IsField l := by
  rw [eol, isFields_split hl (Or.inl rfl)]
  constructor
  · rintro ⟨-, hfield, -⟩
    exact hfield
  · intro hfield
    exact ⟨rfl, hfield, [], rfl, isFields_nil⟩

/-- A clean text is no sequence of fields unless it is empty. -/
theorem not_isFields_of_clean (hl : Clean l) (hne : l ≠ []) : ¬ IsFields l := by
  rintro ⟨ls, hls, rfl⟩
  cases ls with
  | nil => exact hne rfl
  | cons m ls =>
    have hcr : (13 : UInt8) ∈ joinLines (m :: ls) := by simp [joinLines, eol]
    exact (hl 13 hcr).1 rfl

/-! ### A text inside a line -/

/-- What stands behind `x` up to the end of its last line does not matter, as long as it is value. -/
theorem isFields_insert (hq : Clean q) (hcolon : 58 ∉ q) (hblank : q.head? ≠ some 32)
    (hne : q ≠ []) (hrest : IsFields rest) (x : Bytes) :
    IsFields (x ++ q ++ eol ++ rest) ↔ IsFields (x ++ eol) := by
  induction hn : x.length using Nat.strong_induction_on generalizing x with
  | _ n ih =>
    by_cases hx : Clean x
    · have hxq : Clean (x ++ q) := clean_append.mpr ⟨hx, hq⟩
      have hform : x ++ q ++ eol ++ rest = (x ++ q) ++ 13 :: (10 :: rest) := by simp [eol]
      rw [isFields_one_iff hx, hform, isFields_split hxq (Or.inl rfl),
        isField_append hq hcolon hblank]
      constructor
      · rintro ⟨-, hfield, -⟩
        exact hfield
      · intro hfield
        exact ⟨rfl, hfield, rest, rfl, hrest⟩
    · obtain ⟨y, c, z, rfl, hy, hc⟩ := exists_of_not_clean hx
      have hleft : y ++ c :: z ++ q ++ eol ++ rest = y ++ c :: (z ++ q ++ eol ++ rest) := by simp
      have hright : y ++ c :: z ++ eol = y ++ c :: (z ++ eol) := by simp
      rw [hleft, hright, isFields_split hy hc, isFields_split hy hc]
      refine and_congr_right fun _ => and_congr_right fun _ => ?_
      cases z with
      | nil =>
        obtain ⟨d, q', rfl⟩ := List.exists_cons_of_ne_nil hne
        have hd : d ≠ 10 := (hq d List.mem_cons_self).2
        simp [eol, hd]
      | cons d z =>
        have hshort : z.length < n := by
          rw [← hn]
          simp
          omega
        simp only [List.cons_append, List.cons.injEq]
        constructor
        · rintro ⟨r, ⟨rfl, rfl⟩, hr⟩
          exact ⟨_, ⟨rfl, rfl⟩, (ih z.length hshort z rfl).mp hr⟩
        · rintro ⟨r, ⟨rfl, rfl⟩, hr⟩
          exact ⟨_, ⟨rfl, rfl⟩, (ih z.length hshort z rfl).mpr hr⟩

/-- Nor does it matter which field the text continues. -/
theorem isFields_start (hl : IsField l) (hm : IsField m) (x : Bytes) :
    IsFields (l ++ x ++ eol) ↔ IsFields (m ++ x ++ eol) := by
  by_cases hx : Clean x
  · exact iff_of_true (isFields_one (hl.append hx)) (isFields_one (hm.append hx))
  · obtain ⟨y, c, z, rfl, hy, hc⟩ := exists_of_not_clean hx
    have hform : ∀ k : Bytes, k ++ (y ++ c :: z) ++ eol = (k ++ y) ++ c :: (z ++ eol) := by
      intro k
      simp
    rw [hform l, hform m, isFields_split (clean_append.mpr ⟨hl.clean, hy⟩) hc,
      isFields_split (clean_append.mpr ⟨hm.clean, hy⟩) hc]
    simp [hl.append hy, hm.append hy]

/-! ### A line of the text -/

theorem HasLine.isFields (h : HasLine t l) : IsFields t := by
  obtain ⟨ls, hls, ht, -⟩ := h
  exact ⟨ls, hls, ht⟩

theorem joinLines_append (ls ms : List Bytes) :
    joinLines (ls ++ ms) = joinLines ls ++ joinLines ms := List.flatMap_append

theorem joinLines_cons (m : Bytes) (ls : List Bytes) :
    joinLines (m :: ls) = m ++ eol ++ joinLines ls := rfl

theorem hasLine_append (ht : IsFields t) (hl : IsField l) : HasLine (t ++ (l ++ eol)) l := by
  obtain ⟨ls, hls, rfl⟩ := ht
  refine ⟨ls ++ [l], ?_, ?_, by simp⟩
  · intro m hm
    rcases List.mem_append.mp hm with h | h
    · exact hls m h
    · rwa [List.mem_singleton.mp h]
  · rw [joinLines_append, joinLines_cons]
    simp [joinLines]

/-- There is a line end in every text of fields that is not empty. -/
theorem eol_isInfix (h : IsFields t) (hne : t ≠ []) : eol <:+: t := by
  obtain ⟨ls, -, rfl⟩ := h
  cases ls with
  | nil => exact absurd rfl hne
  | cons m ls => exact ⟨m, joinLines ls, (joinLines_cons m ls).symm⟩

/-- A clean text in front holds no part of a line end. -/
theorem eol_isInfix_of_append (hx : Clean x) (h : eol <:+: x ++ t) : eol <:+: t := by
  obtain ⟨a, b, hab⟩ := h
  rw [List.append_assoc] at hab
  rcases List.append_eq_append_iff.mp hab with ⟨c, rfl, hc⟩ | ⟨c, rfl, rfl⟩
  · cases c with
    | nil => exact ⟨[], b, hc⟩
    | cons d c =>
      obtain ⟨hd, -⟩ := List.cons.inj hc
      have := hx d (by simp)
      exact absurd hd.symm this.1
  · exact ⟨c, b, List.append_assoc _ _ _⟩

/-- A line that is printed behind an unfinished one is no line of the text. -/
theorem not_hasLine {u : Bytes} (hx : ¬ eol <:+: x) (hhead : x.head? ≠ l.head?) (hne : x ≠ [])
    (hl : l ≠ []) (hu : u.length ≤ l.length + eol.length) : ¬ HasLine (x ++ u) l := by
  rintro ⟨ls, -, ht, hmem⟩
  obtain ⟨before, behind, rfl⟩ := List.append_of_mem hmem
  rw [joinLines_append, joinLines_cons] at ht
  have hlen := congrArg List.length ht
  simp only [List.length_append] at hlen
  cases before with
  | nil =>
    obtain ⟨c, x, rfl⟩ := List.exists_cons_of_ne_nil hne
    obtain ⟨d, l, rfl⟩ := List.exists_cons_of_ne_nil hl
    refine hhead (congrArg some ?_)
    exact (List.cons.inj ht).1
  | cons m before =>
    -- the line end of the first line would be in `x`
    have hprefix : joinLines (m :: before) <+: x :=
      List.prefix_of_prefix_length_le ⟨_, ht.symm⟩ (List.prefix_append x u) (by omega)
    have heol : eol <:+: joinLines (m :: before) := ⟨m, joinLines before, rfl⟩
    exact hx (heol.trans hprefix.isInfix)

end FieldLines
