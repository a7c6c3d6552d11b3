import Esp32WifiManager.Lib.CString

/-!
# String buffers that are printed into

A buffer is a state of an arbitrary type. In the sizing mode printing only
counts; a buffer over an array of fixed size has room for so many more bytes,
and a text that is longer than the room does not get in as a whole. The laws
say no more than that: what a refused text leaves behind in the buffer is open.
-/

namespace StrBuf

open CString

/-- Printing into the buffers `σ`, and what of a buffer can be observed. -/
structure Ops (σ : Type) where
  null : σ
  arr : ℕ → σ
  initWithAlloc : σ → Option σ
  printf : σ → Bytes → Bool × σ
  sizing : σ → Bool
  counted : σ → ℕ
  text : σ → Bytes
  room : σ → ℕ

variable {σ : Type}

namespace Ops

variable (B : Ops σ)

/-- The buffer `s'` is `s` with `t` appended. -/
structure Appended (s s' : σ) (t : Bytes) : Prop where
  fixed : B.sizing s' = false
  text : B.text s' = B.text s ++ t
  room : B.room s' + t.length = B.room s

/-- Printing counts exactly in the sizing mode, and over an array it appends what fits. -/
structure Lawful : Prop where
  sizing_null : B.sizing B.null = true
  counted_null : B.counted B.null = 0
  sizing_printf : ∀ {s t}, B.sizing s = true →
    (B.printf s t).1 = true ∧ B.sizing (B.printf s t).2 = true ∧
      B.counted (B.printf s t).2 = B.counted s + t.length
  fixed_arr : ∀ {n}, B.sizing (B.arr n) = false ∧ B.text (B.arr n) = [] ∧
    B.room (B.arr n) = n - 1
  alloc : ∀ {s s'}, B.sizing s = true → B.initWithAlloc s = some s' →
    B.sizing s' = false ∧ B.text s' = [] ∧ B.room s' = B.counted s
  fits : ∀ {s t}, B.sizing s = false → t.length ≤ B.room s →
    (B.printf s t).1 = true ∧ B.Appended s (B.printf s t).2 t
  overflows : ∀ {s t}, B.sizing s = false → B.room s < t.length →
    (B.printf s t).1 = false ∧ B.sizing (B.printf s t).2 = false ∧
      B.room (B.printf s t).2 < t.length ∧
      (B.text (B.printf s t).2).length + B.room (B.printf s t).2 ≤
        (B.text s).length + B.room s

end Ops

section Appended

variable {B : Ops σ} {s s' s'' : σ} {t t' : Bytes}

theorem Ops.Appended.trans (h : B.Appended s s' t) (h' : B.Appended s' s'' t') :
    B.Appended s s'' (t ++ t') := by
  refine ⟨h'.fixed, ?_, ?_⟩
  · rw [h'.text, h.text, List.append_assoc]
  · have hlen : (t ++ t').length = t.length + t'.length := List.length_append
    have := h.room
    have := h'.room
    omega

end Appended

/-! ### Printing a list of texts, one after the other -/

section PrintAll

variable (B : Ops σ)

/-- Printing several texts with every result ignored. -/
def printAll : List Bytes → σ → σ
  | [], s => s
  | t :: ts, s => printAll ts (B.printf s t).2

variable {B} {s : σ} {ts : List Bytes}

@[simp] theorem printAll_nil : printAll B [] s = s := rfl

@[simp] theorem printAll_cons {t : Bytes} :
    printAll B (t :: ts) s = printAll B ts (B.printf s t).2 := rfl

theorem printAll_append {ts' : List Bytes} :
    printAll B (ts ++ ts') s = printAll B ts' (printAll B ts s) := by
  induction ts generalizing s with
  | nil => rfl
  | cons t ts ih => exact ih

/-- In the sizing mode the lengths add up. -/
theorem printAll_counted (hB : B.Lawful) (hs : B.sizing s = true) (ts : List Bytes) :
    B.sizing (printAll B ts s) = true ∧
      B.counted (printAll B ts s) = B.counted s + ts.flatten.length := by
  induction ts generalizing s with
  | nil => exact ⟨hs, rfl⟩
  | cons t ts ih =>
    obtain ⟨-, hsizing, hcounted⟩ := hB.sizing_printf (t := t) hs
    have hrest := ih hsizing
    refine ⟨hrest.1, ?_⟩
    rw [printAll_cons, hrest.2, hcounted, List.flatten_cons, List.length_append]
    omega

/-- A buffer with room for all the texts takes all of them. -/
theorem printAll_fits (hB : B.Lawful) (hs : B.sizing s = false) (ts : List Bytes)
    (hroom : ts.flatten.length ≤ B.room s) :
    B.Appended s (printAll B ts s) ts.flatten := by
  induction ts generalizing s with
  | nil => exact ⟨hs, by simp, by simp⟩
  | cons t ts ih =>
    have hlen : (t :: ts).flatten.length = t.length + ts.flatten.length := by simp
    obtain ⟨-, happ⟩ := hB.fits hs (t := t) (by omega)
    have hmore := happ.room
    have hrest := ih happ.fixed (by omega)
    exact happ.trans hrest

/-- The text of a buffer never outgrows what its array holds. -/
theorem printAll_bounded (hB : B.Lawful) (hs : B.sizing s = false) (ts : List Bytes) :
    (B.text (printAll B ts s)).length ≤ (B.text s).length + B.room s := by
  induction ts generalizing s with
  | nil => exact Nat.le_add_right ..
  | cons t ts ih =>
    rcases Nat.lt_or_ge (B.room s) t.length with hlong | hfits
    · obtain ⟨-, hfixed, -, hbound⟩ := hB.overflows hs hlong
      exact (ih hfixed).trans hbound
    · obtain ⟨-, happ⟩ := hB.fits hs hfits
      have hlen : (B.text (B.printf s t).2).length + B.room (B.printf s t).2 =
          (B.text s).length + B.room s := by
        have := happ.room
        rw [happ.text, List.length_append]
        omega
      exact (ih happ.fixed).trans hlen.le

end PrintAll

/-! ### Both modes at once -/

section Takes

/-- A buffer that only counts, or one with room for `n` more bytes. -/
def Ops.Takes (B : Ops σ) (s : σ) (n : ℕ) : Prop :=
  B.sizing s = true ∨ B.sizing s = false ∧ n ≤ B.room s

variable {B : Ops σ} {s : σ} {n : ℕ}

theorem Ops.Takes.mono {k : ℕ} (h : B.Takes s n) (hk : k ≤ n) : B.Takes s k :=
  h.imp_right fun ⟨hs, hn⟩ => ⟨hs, hk.trans hn⟩

/-- What is printed first leaves room for the rest. -/
theorem printAll_takes (ts : List Bytes) (hB : B.Lawful) (h : B.Takes s (ts.flatten.length + n)) :
    B.Takes (printAll B ts s) n := by
  rcases h with hs | ⟨hs, hroom⟩
  · exact .inl (printAll_counted hB hs ts).1
  · have happ := printAll_fits hB hs ts (by omega)
    have := happ.room
    exact .inr ⟨happ.fixed, by omega⟩

/-- A loop that prints some texts in each round prints them all, one after the other. -/
theorem foldl_printAll {ι : Type} {f : σ → ι → σ} {texts : ι → List Bytes} (hB : B.Lawful)
    (hf : ∀ i {s}, B.Takes s (texts i).flatten.length → f s i = printAll B (texts i) s)
    (l : List ι) (h : B.Takes s (l.flatMap texts).flatten.length) :
    l.foldl f s = printAll B (l.flatMap texts) s := by
  induction l generalizing s with
  | nil => rfl
  | cons i l ih =>
    have hlen : ((i :: l).flatMap texts).flatten.length =
        (texts i).flatten.length + (l.flatMap texts).flatten.length := by simp
    rw [hlen] at h
    rw [List.foldl_cons, hf i (h.mono (Nat.le_add_right ..)), List.flatMap_cons, printAll_append]
    exact ih (printAll_takes _ hB h)

end Takes

/-! ### A buffer that keeps the beginning of a text that does not fit -/

inductive Buffer
  | sizing (counted : ℕ)
  | fixed (room : ℕ) (text : Bytes)
  deriving DecidableEq

def buffer : Ops Buffer where
  null := .sizing 0
  arr n := .fixed (n - 1) []
  initWithAlloc s :=
    match s with
    | .sizing counted => some (.fixed counted [])
    | .fixed .. => none
  printf s t :=
    match s with
    | .sizing counted => (true, .sizing (counted + t.length))
    | .fixed room text =>
      if t.length ≤ room then (true, .fixed (room - t.length) (text ++ t))
      else (false, .fixed 0 (text ++ t.take room))
  sizing s :=
    match s with
    | .sizing _ => true
    | .fixed .. => false
  counted s :=
    match s with
    | .sizing counted => counted
    | .fixed .. => 0
  text s :=
    match s with
    | .sizing _ => []
    | .fixed _ text => text
  room s :=
    match s with
    | .sizing _ => 0
    | .fixed room _ => room

theorem buffer_lawful : buffer.Lawful where
  sizing_null := rfl
  counted_null := rfl
  sizing_printf {s t} hs := by
    cases s with
    | sizing counted => exact ⟨rfl, rfl, rfl⟩
    | fixed room text => cases hs
  fixed_arr := ⟨rfl, rfl, rfl⟩
  alloc {s s'} hs halloc := by
    cases s with
    | sizing counted =>
      obtain rfl := Option.some.inj halloc
      exact ⟨rfl, rfl, rfl⟩
    | fixed room text => cases hs
  fits {s t} hs hroom := by
    cases s with
    | sizing counted => cases hs
    | fixed room text =>
      have hprintf : buffer.printf (.fixed room text) t =
          (true, .fixed (room - t.length) (text ++ t)) := if_pos hroom
      rw [hprintf]
      exact ⟨rfl, rfl, rfl, Nat.sub_add_cancel hroom⟩
  overflows {s t} hs hroom := by
    cases s with
    | sizing counted => cases hs
    | fixed room text =>
      have hprintf : buffer.printf (.fixed room text) t =
          (false, .fixed 0 (text ++ t.take room)) := if_neg (Nat.not_le.mpr hroom)
      rw [hprintf]
      refine ⟨rfl, rfl, Nat.zero_lt_of_lt hroom, ?_⟩
      change (text ++ t.take room).length + 0 ≤ text.length + room
      rw [List.length_append, List.length_take]
      omega

end StrBuf
