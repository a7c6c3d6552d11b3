import Esp32WifiManager.HttpReq

/-!
# The lines of a header

What a lookup by header lines returns, and when the search of
`http_req_header_get_field` in the text as a whole comes to the same field. The
text may start with the request line, as it does while a request is put
together.
-/

namespace Esp32WifiManager
namespace HttpReq

open CString

/-- A name, a colon, and what stands behind it on the line. -/
structure HeaderLine where
  name : Bytes
  rest : Bytes
  name_bytes : ∀ c ∈ name, c ≠ 58 ∧ c ∉ lineEnd
  rest_bytes : ∀ c ∈ rest, c ∉ lineEnd

def HeaderLine.bytes (l : HeaderLine) : Bytes := l.name ++ 58 :: (l.rest ++ lineEnd)

/-- The name is this one, letter case ignored. -/
def HeaderLine.IsNamed (field : Bytes) (l : HeaderLine) : Prop :=
  l.name.map tolower = field.map tolower

instance (field : Bytes) (l : HeaderLine) : Decidable (l.IsNamed field) :=
  inferInstanceAs (Decidable (_ = _))

structure HeaderText where
  requestLine : Option Bytes
  lines : List HeaderLine
  requestLine_bytes : ∀ s ∈ requestLine, ∀ c ∈ s, c ∉ lineEnd

namespace HeaderText

def start (h : HeaderText) : Bytes :=
  match h.requestLine with
  | none => []
  | some s => s ++ lineEnd

def text (h : HeaderText) : Bytes := h.start ++ h.lines.flatMap HeaderLine.bytes

end HeaderText

/-! ### The value of a line -/

/-- The text is enclosed in a pair of quotes. -/
def Quoted (v : Bytes) : Prop := 2 ≤ v.length ∧ v.head? = some 34 ∧ v.getLast? = some 34

instance (v : Bytes) : Decidable (Quoted v) := inferInstanceAs (Decidable (_ ∧ _ ∧ _))

/-- The value behind the spaces opens a quote that the line does not close. -/
def OpensQuote (s : Bytes) : Prop :=
  (s.dropWhile (· = 32)).head? = some 34 ∧ ¬ Quoted (s.dropWhile (· = 32))

instance (s : Bytes) : Decidable (OpensQuote s) := inferInstanceAs (Decidable (_ ∧ _))

/-- The value of a line whose part behind the colon is `s`, at offset `ptr` of the text. -/
def valueField (ptr : ℕ) (s : Bytes) : HttpReqField :=
  if Quoted (s.dropWhile (· = 32)) then
    ⟨ptr + (s.takeWhile (· = 32)).length + 1, (s.dropWhile (· = 32)).length - 2⟩
  else ⟨ptr + (s.takeWhile (· = 32)).length, (s.dropWhile (· = 32)).length⟩

/-- The value of the first line with this name. -/
def lookupLine (field : Bytes) : ℕ → List HeaderLine → Option HttpReqField
  | _, [] => none
  | offset, l :: lines =>
    if l.IsNamed field then some (valueField (offset + l.name.length + 1) l.rest)
    else lookupLine field (offset + l.bytes.length) lines

def HeaderText.lookup (h : HeaderText) (field : Bytes) : Option HttpReqField :=
  lookupLine field h.start.length h.lines

theorem le_valueField (ptr : ℕ) (s : Bytes) : ptr ≤ (valueField ptr s).ptr := by
  unfold valueField
  split <;> simp only <;> omega

theorem length_spaces (s : Bytes) :
    (s.takeWhile (· = 32)).length + (s.dropWhile (· = 32)).length = s.length := by
  rw [← List.length_append, List.takeWhile_append_dropWhile]

theorem valueField_le (ptr : ℕ) (s : Bytes) : (valueField ptr s).ptr ≤ ptr + s.length := by
  have := length_spaces s
  unfold valueField
  split
  · rename_i hquoted
    have := hquoted.1
    simp only
    omega
  · simp only
    omega

section Found

variable {header field s t : Bytes} {c : UInt8} {val : ℕ}

theorem lineEnd_ne {c : UInt8} (hc : c ∈ lineEnd) : c ≠ 32 ∧ c ≠ 34 ∧ c ≠ 58 := by
  revert c
  decide

/-- What is read where the value starts. -/
theorem httpReqHeaderGetFieldAt_value {v : Bytes} (hv : header.drop val = v ++ c :: t)
    (hline : ∀ x ∈ v, x ∉ lineEnd) (hc : c ∈ lineEnd) :
    httpReqHeaderGetFieldAt header val =
      if v.head? = some 34 ∧ ¬ Quoted v then none
      else some (if Quoted v then ⟨val + 1, v.length - 2⟩ else ⟨val, v.length⟩) := by
  have hend : strpbrk (v ++ c :: t) lineEnd = some v.length := strpbrk_append_cons hc t hline
  by_cases hquote : v.head? = some 34
  · obtain ⟨w, rfl⟩ : ∃ w, v = 34 :: w := List.head?_eq_some_iff.mp hquote
    have hnext : header.drop (val + 1) = w ++ c :: t := by
      rw [← List.drop_drop, hv]
      rfl
    have hendNext : strpbrk (w ++ c :: t) lineEnd = some w.length :=
      strpbrk_append_cons hc t fun x hx => hline x (by simp [hx])
    rw [httpReqHeaderGetFieldAt, hv, if_pos (by simp)]
    simp only [hnext, hendNext]
    cases hw : w.getLast? with
    | none =>
      have hnil : w = [] := List.getLast?_eq_none_iff.mp hw
      subst hnil
      simp [Quoted]
    | some x =>
      obtain ⟨u, rfl⟩ := List.getLast?_eq_some_iff.mp hw
      have hlast : header[val + 1 + (u ++ [x]).length - 1]? = some x := by
        have hidx : val + 1 + (u ++ [x]).length - 1 = val + 1 + u.length := by
          rw [List.length_append, List.length_singleton]
          omega
        rw [hidx, ← List.getElem?_drop, hnext]
        simp
      have hgetLast : (34 :: (u ++ [x])).getLast? = some x := by
        rw [← List.cons_append, List.getLast?_concat]
      rw [if_neg (by simp), hlast]
      have hquoted : Quoted (34 :: (u ++ [x])) ↔ x = 34 := by
        rw [Quoted, hgetLast]
        simp
      simp only [List.head?_cons, true_and, hquoted, List.length_append, List.length_cons]
      by_cases hx : x = 34
      · simp [hx]
      · simp [hx]
  · have hhead : (v ++ c :: t).head? ≠ some 34 := by
      cases v with
      | nil => simpa using (lineEnd_ne hc).2.1
      | cons x v => simpa using hquote
    rw [httpReqHeaderGetFieldAt, hv, if_neg hhead, hend]
    simp [Quoted, hquote]

/-- What is read at a place behind which the line goes on with `s`. -/
theorem httpReqHeaderGetFieldAt_line (hline : header.drop val = s ++ c :: t)
    (hs : ∀ x ∈ s, x ∉ lineEnd) (hc : c ∈ lineEnd) :
    httpReqHeaderGetFieldAt header (val + ((header.drop val).takeWhile (· = 32)).length) =
      if OpensQuote s then none else some (valueField val s) := by
  have hsplit : s ++ c :: t = s.takeWhile (· = 32) ++ (s.dropWhile (· = 32) ++ c :: t) := by
    rw [← List.append_assoc, List.takeWhile_append_dropWhile]
  have hall : ∀ x ∈ s.takeWhile (· = 32), decide (x = 32) = true := fun x hx =>
    List.mem_takeWhile_imp (p := fun x => decide (x = 32)) hx
  have hspaces : (header.drop val).takeWhile (· = 32) = s.takeWhile (· = 32) := by
    rw [hline, hsplit, List.takeWhile_append_of_pos hall]
    cases hv : s.dropWhile (· = 32) with
    | nil => simp [(lineEnd_ne hc).1]
    | cons x v =>
      have hx := List.head_dropWhile_not (fun x : UInt8 => decide (x = 32)) (l := s) (by simp [hv])
      simp only [hv, List.head_cons] at hx
      simp [hx]
  have hrest : header.drop (val + (s.takeWhile (· = 32)).length) =
      s.dropWhile (· = 32) ++ c :: t := by
    rw [← List.drop_drop, hline, hsplit, List.drop_left]
  have hv : ∀ x ∈ s.dropWhile (· = 32), x ∉ lineEnd := fun x hx =>
    hs x ((List.dropWhile_sublist _).subset hx)
  rw [hspaces, httpReqHeaderGetFieldAt_value hrest hv hc]
  rfl

end Found

/-! ### The lines of a text -/

theorem tolower_eq_iff {c d : UInt8} (hd : d < 65) : tolower c = d ↔ c = d := by
  unfold tolower
  split
  · rename_i hc
    simp only [UInt8.le_iff_toNat_le, UInt8.lt_iff_toNat_lt, ← UInt8.toNat_inj, UInt8.toNat_add,
      UInt8.toNat_ofNat] at hc hd ⊢
    omega
  · rfl

section Lines

variable {field : Bytes}

theorem lookupLine_cases (field : Bytes) (offset : ℕ) (lines : List HeaderLine) :
    (lookupLine field offset lines = none ∧ ∀ l ∈ lines, ¬ l.IsNamed field) ∨
      ∃ before l behind, lines = before ++ l :: behind ∧ (∀ x ∈ before, ¬ x.IsNamed field) ∧
        l.IsNamed field ∧ lookupLine field offset lines =
          some (valueField (offset + (before.flatMap HeaderLine.bytes).length +
            l.name.length + 1) l.rest) := by
  induction lines generalizing offset with
  | nil => exact .inl ⟨rfl, by simp⟩
  | cons x lines ih =>
    by_cases hx : x.IsNamed field
    · exact .inr ⟨[], x, lines, rfl, by simp, hx, by simp [lookupLine, hx]⟩
    · rcases ih (offset + x.bytes.length) with
        ⟨hnone, hall⟩ | ⟨before, l, behind, heq, hbefore, hl, hsome⟩
      · exact .inl ⟨by rw [lookupLine, if_neg hx, hnone], by simpa [hx] using hall⟩
      · refine .inr ⟨x :: before, l, behind, by simp [heq], by simpa [hx] using hbefore, hl, ?_⟩
        rw [lookupLine, if_neg hx, hsome]
        simp [Nat.add_assoc]

variable {h : HeaderText} {before behind : List HeaderLine} {l : HeaderLine}

/-- The offset of the line that stands behind these lines. -/
def HeaderText.offset (h : HeaderText) (before : List HeaderLine) : ℕ :=
  h.start.length + (before.flatMap HeaderLine.bytes).length

theorem drop_offset (hlines : h.lines = before ++ l :: behind) :
    h.text.drop (h.offset before) = l.bytes ++ behind.flatMap HeaderLine.bytes := by
  have hsplit : h.text = (h.start ++ before.flatMap HeaderLine.bytes) ++
      (l.bytes ++ behind.flatMap HeaderLine.bytes) := by
    simp [HeaderText.text, hlines]
  rw [hsplit, List.drop_left' (by simp [HeaderText.offset])]

theorem colon_notMem_map {s : Bytes} (hs : (58 : UInt8) ∉ s) : (58 : UInt8) ∉ s.map tolower := by
  intro hmem
  obtain ⟨c, hc, heq⟩ := List.mem_map.mp hmem
  rw [tolower_eq_iff (by decide)] at heq
  exact hs (heq ▸ hc)

theorem takeWhile_colon {s : Bytes} (hs : (58 : UInt8) ∉ s) (t : Bytes) :
    (s ++ 58 :: t).takeWhile (· ≠ 58) = s := by
  rw [List.takeWhile_append_of_pos]
  · simp
  · intro c hc
    exact decide_eq_true fun heq => hs (heq ▸ hc)

/-- The field stands at the start of a line just when the line has its name. -/
theorem occurs_offset_iff (hlines : h.lines = before ++ l :: behind) (hfield : 58 ∉ field) :
    Occurs ((field ++ [58]).map tolower) (h.text.map tolower) (h.offset before) ↔
      l.IsNamed field := by
  have hname : (58 : UInt8) ∉ l.name := fun hmem => (l.name_bytes 58 hmem).1 rfl
  have hcolon : tolower 58 = 58 := by decide
  rw [Occurs, ← List.map_drop, drop_offset hlines, HeaderLine.bytes, HeaderLine.IsNamed]
  simp only [List.map_append, List.map_cons, List.map_nil, hcolon, List.append_assoc,
    List.cons_append]
  constructor
  · rintro ⟨t, ht⟩
    have hcut := congrArg (List.takeWhile (· ≠ 58)) ht
    rw [List.append_assoc, List.singleton_append, takeWhile_colon (colon_notMem_map hfield),
      takeWhile_colon (colon_notMem_map hname)] at hcut
    exact hcut.symm
  · intro heq
    rw [heq, List.prefix_append_right_inj]
    simp

theorem lineEnd_suffix_lines (lines : List HeaderLine) (hne : lines ≠ []) :
    lineEnd <:+ lines.flatMap HeaderLine.bytes := by
  obtain ⟨before, l, rfl⟩ : ∃ before l, lines = before ++ [l] :=
    ⟨_, _, (List.dropLast_append_getLast hne).symm⟩
  rw [List.flatMap_append, List.flatMap_singleton, HeaderLine.bytes]
  exact ⟨before.flatMap HeaderLine.bytes ++ (l.name ++ 58 :: l.rest), by simp⟩

/-- What stands before a line ends with a line end. -/
theorem lineEnd_suffix (h : HeaderText) (before : List HeaderLine)
    (hne : h.start ++ before.flatMap HeaderLine.bytes ≠ []) :
    lineEnd <:+ h.start ++ before.flatMap HeaderLine.bytes := by
  by_cases hbefore : before = []
  · subst hbefore
    rw [List.flatMap_nil, List.append_nil] at hne ⊢
    cases hstart : h.requestLine with
    | none => simp [HeaderText.start, hstart] at hne
    | some s =>
      rw [HeaderText.start, hstart]
      exact List.suffix_append _ _
  · exact (lineEnd_suffix_lines before hbefore).trans (List.suffix_append _ _)

/-- The rest of the line that stands at an offset. -/
def lineBehind (text : Bytes) (offset : ℕ) : Bytes :=
  (text.drop offset).takeWhile (· ∉ lineEnd)

theorem lineBehind_append {text s t : Bytes} {c : UInt8} {offset : ℕ}
    (h : text.drop offset = s ++ c :: t) (hs : ∀ x ∈ s, x ∉ lineEnd) (hc : c ∈ lineEnd) :
    lineBehind text offset = s := by
  rw [lineBehind, h, List.takeWhile_append_of_pos fun x hx => decide_eq_true (hs x hx)]
  simp [hc]

theorem exists_lineEnd (w post : Bytes) : ∃ s c t, w ++ 10 :: post = s ++ c :: t ∧
    (∀ x ∈ s, x ∉ lineEnd) ∧ c ∈ lineEnd ∧ s.length ≤ w.length := by
  induction w with
  | nil => exact ⟨[], 10, post, rfl, by simp, by decide, le_rfl⟩
  | cons x w ih =>
    by_cases hx : x ∈ lineEnd
    · exact ⟨[], x, w ++ 10 :: post, rfl, by simp, hx, Nat.zero_le _⟩
    · obtain ⟨s, c, t, heq, hs, hc, hlen⟩ := ih
      exact ⟨x :: s, c, t, by simp [heq], by simpa [hx] using hs, hc, by simpa using hlen⟩

/-- An occurrence that starts before a line end that it does not contain ends before it. -/
theorem occurs_before_lineEnd {pre post needle : Bytes} {i : ℕ}
    (hocc : Occurs (needle.map tolower) ((pre ++ 10 :: post).map tolower) i)
    (hneedle : 10 ∉ needle) (hi : i ≤ pre.length) : i + needle.length ≤ pre.length := by
  by_contra hlt
  obtain ⟨t, ht⟩ := hocc
  have hget := congrArg (·[pre.length - i]?) ht
  have hidx : i + (pre.length - i) = pre.length := by omega
  have hten : tolower 10 = 10 := by decide
  simp only [List.getElem?_drop, hidx, List.map_append, List.map_cons] at hget
  rw [List.getElem?_append_left (by rw [List.length_map]; omega), List.getElem?_map,
    List.getElem?_append_right (by simp)] at hget
  simp only [List.length_map, Nat.sub_self, List.getElem?_cons_zero, hten,
    Option.map_eq_some_iff] at hget
  obtain ⟨c, hc, heq⟩ := hget
  rw [tolower_eq_iff (by decide)] at heq
  exact hneedle (heq ▸ List.mem_of_getElem? hc)

theorem lineBehind_before (pre post : Bytes) {j : ℕ} (hj : j ≤ pre.length) :
    j + (lineBehind (pre ++ 10 :: post) j).length ≤ pre.length ∧
      ∃ c t, c ∈ lineEnd ∧
        (pre ++ 10 :: post).drop j = lineBehind (pre ++ 10 :: post) j ++ c :: t := by
  obtain ⟨s, c, t, heq, hs, hc, hlen⟩ := exists_lineEnd (pre.drop j) post
  have hdrop : (pre ++ 10 :: post).drop j = s ++ c :: t := by
    rw [List.drop_append_of_le_length hj, heq]
  rw [lineBehind_append hdrop hs hc]
  rw [List.length_drop] at hlen
  exact ⟨by omega, c, t, hc, hdrop⟩

/-! ### The first place where the field stands -/

variable {i : ℕ}

theorem split_of_lt (h : HeaderText) (before behind : List HeaderLine)
    (hlines : h.lines = before ++ behind) (hi : i < h.offset before) : ∃ pre post, h.text = pre ++ 10 :: post ∧
      pre.length + 1 = h.offset before := by
  have hne : h.start ++ before.flatMap HeaderLine.bytes ≠ [] := by
    intro hnil
    have := congrArg List.length hnil
    simp only [List.length_append, List.length_nil] at this
    simp only [HeaderText.offset] at hi
    omega
  obtain ⟨pre, hpre⟩ := lineEnd_suffix h before hne
  refine ⟨pre ++ [13], behind.flatMap HeaderLine.bytes, ?_, ?_⟩
  · have hend : lineEnd = [13, 10] := by decide
    rw [HeaderText.text, hlines, List.flatMap_append, ← List.append_assoc, ← hpre, hend]
    simp
  · rw [HeaderText.offset, ← List.length_append, ← hpre]
    have hend : lineEnd = [13, 10] := by decide
    rw [hend]
    simp

theorem occurs_behind {a b hay : Bytes} (h : Occurs (a ++ b) hay i) :
    Occurs b hay (i + a.length) := by
  obtain ⟨t, ht⟩ := h
  refine ⟨t, ?_⟩
  rw [← List.drop_drop, ← ht, List.append_assoc, List.drop_left]

theorem occurs_of_strcasestr {hay needle : Bytes} (h : strcasestr hay needle = some i) :
    Occurs (needle.map tolower) (hay.map tolower) i :=
  (strstr_eq_some.mp h).2.1

/-- The line that is read when the field is found at `i`. -/
theorem httpReqHeaderGetField_found
    (hfind : strcasestr h.text (field ++ [58]) = some i) :
    let val := i + (field ++ [58]).length
    httpReqHeaderGetField h.text (field ++ [58]) =
      if OpensQuote (lineBehind h.text val) then none
      else some (valueField val (lineBehind h.text val)) := by
  have hocc := occurs_of_strcasestr hfind
  have hlen := strstr_length_le hfind
  simp only [List.length_map] at hlen
  have hi : i < h.offset h.lines := by
    have htotal : h.offset h.lines = h.text.length := by simp [HeaderText.offset, HeaderText.text]
    rw [htotal]
    simp only [List.length_append, List.length_singleton] at hlen
    omega
  obtain ⟨pre, post, htext, hpre⟩ := split_of_lt h h.lines [] (by simp) hi
  have hpost : post = [] := by
    have := congrArg List.length htext
    simp only [HeaderText.text, HeaderText.offset, List.length_append, List.length_cons] at this hpre
    exact List.length_eq_zero_iff.mp (by omega)
  subst hpost
  have hcolon : i + field.length + 1 ≤ pre.length := by
    have hbehind := occurs_behind (a := field.map tolower) (b := [58].map tolower)
      (by rw [← List.map_append]; exact hocc)
    rw [List.length_map, htext] at hbehind
    rw [htext] at hlen
    simp only [List.length_append, List.length_singleton] at hlen
    exact occurs_before_lineEnd hbehind (by decide) (by omega)
  obtain ⟨-, c, t, hc, hdrop⟩ := lineBehind_before pre [] (j := i + (field ++ [58]).length)
    (by simpa [Nat.add_assoc] using hcolon)
  rw [← htext] at hdrop
  have hs : ∀ x ∈ lineBehind h.text (i + (field ++ [58]).length), x ∉ lineEnd := by
    intro x hx
    simpa using List.mem_takeWhile_imp hx
  rw [httpReqHeaderGetField, hfind]
  exact httpReqHeaderGetFieldAt_line hdrop hs hc

/-- The rest of a line behind its name. -/
theorem lineBehind_offset (hlines : h.lines = before ++ l :: behind) :
    lineBehind h.text (h.offset before + l.name.length + 1) = l.rest := by
  have hend : lineEnd = 13 :: [10] := by decide
  apply lineBehind_append (c := 13) (t := 10 :: behind.flatMap HeaderLine.bytes) _ l.rest_bytes
    (by decide)
  have hsplit : l.bytes ++ behind.flatMap HeaderLine.bytes =
      (l.name ++ [58]) ++ (l.rest ++ 13 :: (10 :: behind.flatMap HeaderLine.bytes)) := by
    simp [HeaderLine.bytes, hend]
  rw [Nat.add_assoc, ← List.drop_drop, drop_offset hlines, hsplit, List.drop_left' (by simp)]

/-- The first place where the field stands is the start of a line. -/
def HeaderText.StartsLine (h : HeaderText) (i : ℕ) : Prop :=
  ∃ before l behind, h.lines = before ++ l :: behind ∧ i = h.offset before

/-- The search in the whole text comes to the field of the header lines: the place that is found
starts a line whose value closes the quote it opens, or no line has the name and a quote that is
not closed hides what is found. -/
def HeaderText.Found (h : HeaderText) (field : Bytes) : Prop :=
  ∀ i, strcasestr h.text (field ++ [58]) = some i →
    let rest := lineBehind h.text (i + (field ++ [58]).length)
    (h.StartsLine i ∧ ¬ OpensQuote rest) ∨ ((∀ l ∈ h.lines, ¬ l.IsNamed field) ∧ OpensQuote rest)

theorem isNamed_of_startsLine (hfield : 58 ∉ field)
    (hfind : strcasestr h.text (field ++ [58]) = some i) (hline : h.StartsLine i) :
    ∃ l ∈ h.lines, l.IsNamed field := by
  obtain ⟨before, l, behind, hlines, rfl⟩ := hline
  have hnamed := (occurs_offset_iff hlines hfield).mp (occurs_of_strcasestr hfind)
  exact ⟨l, by simp [hlines], hnamed⟩

/-- A line that starts before another one stands before it. -/
theorem mem_of_offset_lt {before' behind' : List HeaderLine} {l' : HeaderLine}
    (hlines : h.lines = before ++ l :: behind) (hlines' : h.lines = before' ++ l' :: behind')
    (hlt : h.offset before' < h.offset before) : l' ∈ before := by
  rw [hlines] at hlines'
  rcases List.append_eq_append_iff.mp hlines' with ⟨u, rfl, -⟩ | ⟨u, rfl, hu⟩
  · simp only [HeaderText.offset, List.flatMap_append, List.length_append] at hlt
    omega
  · cases u with
    | nil => simp at hlt
    | cons x u =>
      simp only [List.cons_append, List.cons.injEq] at hu
      simp [hu.1]

/-- Nothing that is found before the line with the name is the value of that line. -/
theorem httpReqHeaderGetField_lt (hlines : h.lines = before ++ l :: behind)
    (hl : l.IsNamed field) (hfind : strcasestr h.text (field ++ [58]) = some i)
    (hi : i < h.offset before) :
    httpReqHeaderGetField h.text (field ++ [58]) ≠
      some (valueField (h.offset before + l.name.length + 1) l.rest) := by
  obtain ⟨pre, post, htext, hpre⟩ := split_of_lt h before (l :: behind) hlines hi
  have hneedle : (10 : UInt8) ∉ field ++ [58] := by
    intro hmem
    have hfield : (10 : UInt8) ∈ field := by simpa using hmem
    have hlower : (10 : UInt8) ∈ l.name.map tolower := by
      rw [hl]
      exact List.mem_map.mpr ⟨10, hfield, by decide⟩
    obtain ⟨c, hc, heq⟩ := List.mem_map.mp hlower
    rw [tolower_eq_iff (by decide)] at heq
    exact (l.name_bytes c hc).2 (heq ▸ by decide)
  have hocc := occurs_of_strcasestr hfind
  rw [htext] at hocc
  have hend := occurs_before_lineEnd hocc hneedle (by omega)
  have hrest := (lineBehind_before pre post hend).1
  rw [← htext] at hrest
  rw [httpReqHeaderGetField_found hfind]
  intro heq
  split at heq
  · exact absurd heq (by simp)
  · have hptr := congrArg HttpReqField.ptr (Option.some.inj heq)
    have hle := valueField_le (i + (field ++ [58]).length)
      (lineBehind h.text (i + (field ++ [58]).length))
    have hge := le_valueField (h.offset before + l.name.length + 1) l.rest
    omega

/-- The lookup returns the value of the first line with the name just when the first place where
the field stands is such a line. -/
theorem header_field_lookup (h : HeaderText) {field : Bytes} (hfield : 58 ∉ field) :
    httpReqHeaderGetField h.text (field ++ [58]) = h.lookup field ↔ h.Found field := by
  cases hfind : strcasestr h.text (field ++ [58]) with
  | none =>
    have hlookup : h.lookup field = none := by
      rcases lookupLine_cases field h.start.length h.lines with
        ⟨hnone, -⟩ | ⟨before, l, behind, hlines, -, hl, -⟩
      · exact hnone
      · have hocc := (occurs_offset_iff hlines hfield).mpr hl
        have hle : h.offset before ≤ (h.text.map tolower).length := by
          simp [HeaderText.text, HeaderText.offset, hlines]
        exact absurd hocc (strstr_eq_none.mp hfind _ hle)
    simp [httpReqHeaderGetField_eq_none hfind, hlookup, HeaderText.Found, hfind]
  | some i =>
    rw [HeaderText.Found, hfind]
    simp only [Option.some.injEq, forall_eq']
    rcases lookupLine_cases field h.start.length h.lines with
      ⟨hnone, hall⟩ | ⟨before, l, behind, hlines, hbefore, hl, hsome⟩
    · have hstart : ¬ h.StartsLine i := by
        intro hline
        obtain ⟨l, hl, hnamed⟩ := isNamed_of_startsLine hfield hfind hline
        exact hall l hl hnamed
      rw [httpReqHeaderGetField_found hfind, HeaderText.lookup, hnone]
      simp only [hstart, false_and, false_or, ite_eq_left_iff, reduceCtorEq, imp_false, not_not]
      exact ⟨fun hopen => ⟨hall, hopen⟩, And.right⟩
    · have hnamed : ¬ ∀ l ∈ h.lines, ¬ l.IsNamed field := fun hall => hall l (by simp [hlines]) hl
      have hle : i ≤ h.offset before := by
        by_contra hlt
        exact (strstr_eq_some.mp hfind).2.2 _ (Nat.lt_of_not_le hlt)
          ((occurs_offset_iff hlines hfield).mpr hl)
      have hlookup : h.lookup field =
          some (valueField (h.offset before + l.name.length + 1) l.rest) := hsome
      rcases hle.lt_or_eq with hlt | rfl
      · have hstart : ¬ h.StartsLine i := by
          rintro ⟨before', l', behind', hlines', rfl⟩
          have hl' := (occurs_offset_iff hlines' hfield).mp (occurs_of_strcasestr hfind)
          exact hbefore l' (mem_of_offset_lt hlines hlines' hlt) hl'
        simp [hlookup, httpReqHeaderGetField_lt hlines hl hfind hlt, hstart, hnamed]
      · have hstart : h.StartsLine (h.offset before) := ⟨before, l, behind, hlines, rfl⟩
        have hlength : (field ++ [58]).length = l.name.length + 1 := by
          have := congrArg List.length hl
          simp only [List.length_map] at this
          simp [this]
        rw [httpReqHeaderGetField_found hfind, hlookup, hlength, ← Nat.add_assoc,
          lineBehind_offset hlines]
        by_cases hopen : OpensQuote l.rest
        · simp [hopen, hnamed]
        · simp [hopen, hstart]

end Lines

/-- `Host:` also stands inside the name of the first line. -/
def forwarded : HeaderText where
  requestLine := none
  lines := [
    { name := ascii "X-Forwarded-Host", rest := ascii " a", name_bytes := by decide,
      rest_bytes := by decide },
    { name := ascii "Host", rest := ascii " b", name_bytes := by decide, rest_bytes := by decide }]
  requestLine_bytes := by simp

theorem header_field_lookup_host :
    httpReqHeaderGetField forwarded.text (ascii "Host" ++ [58]) =
      forwarded.lookup (ascii "Host") ↔ forwarded.Found (ascii "Host") :=
  header_field_lookup forwarded (by decide)

theorem header_field_forwarded :
    (httpReqHeaderGetField forwarded.text (ascii "Host" ++ [58])).map (·.value forwarded.text) =
      some (ascii "a") ∧
    (forwarded.lookup (ascii "Host")).map (·.value forwarded.text) = some (ascii "b") ∧
    ¬ ∀ (h : HeaderText) (field : Bytes), 58 ∉ field →
      httpReqHeaderGetField h.text (field ++ [58]) = h.lookup field := by
  have hfound : (httpReqHeaderGetField forwarded.text (ascii "Host" ++ [58])).map
      (·.value forwarded.text) = some (ascii "a") := by decide +kernel
  have hline : (forwarded.lookup (ascii "Host")).map (·.value forwarded.text) =
      some (ascii "b") := by decide +kernel
  refine ⟨hfound, hline, ?_⟩
  intro h
  rw [h forwarded (ascii "Host") (by decide), hline] at hfound
  exact absurd hfound (by decide)

end HttpReq
end Esp32WifiManager
