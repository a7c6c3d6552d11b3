import Esp32WifiManager.Lib.Decimal

/-!
# JSON texts

A JSON text is a list of bytes in UTF-8 and the reader follows the grammar of
the format: values with white space around them, string literals whose escapes
are decoded, surrogate pairs included. Of the numbers only the integers are
read, so that a text with another number is rejected, never misread. The first
argument of a reader that loops bounds its rounds; a text is read with its own
length.
-/

namespace JsonText

open CString

/-- What a JSON text says. -/
inductive Json
  | null
  | bool (b : Bool)
  | num (i : ℤ)
  | str (s : Bytes)
  | arr (l : List Json)
  | obj (l : List (Bytes × Json))

/-! ### String literals -/

/-- The value of a hexadecimal digit. -/
def hexValue (c : UInt8) : Option ℕ :=
  if 48 ≤ c ∧ c ≤ 57 then some (c.toNat - 48)
  else if 65 ≤ c ∧ c ≤ 70 then some (c.toNat - 55)
  else if 97 ≤ c ∧ c ≤ 102 then some (c.toNat - 87)
  else none

/-- The four hexadecimal digits after `\u`. -/
def readHex4 : Bytes → Option (ℕ × Bytes)
  | a :: b :: c :: d :: t => do
    let a ← hexValue a
    let b ← hexValue b
    let c ← hexValue c
    let d ← hexValue d
    return (((a * 16 + b) * 16 + c) * 16 + d, t)
  | _ => none

/-- A code point in UTF-8. -/
def utf8 (n : ℕ) : Bytes := String.utf8EncodeChar (Char.ofNat n)

/-- What stands after `\u`: a code point of its own, or the two halves of one. -/
def readUnicode (t : Bytes) : Option (Bytes × Bytes) := do
  let (u, t) ← readHex4 t
  if 0xD800 ≤ u ∧ u < 0xDC00 then
    match t with
    | 92 :: 117 :: t => do
      let (v, t) ← readHex4 t
      if 0xDC00 ≤ v ∧ v < 0xE000 then
        return (utf8 (0x10000 + (u - 0xD800) * 0x400 + (v - 0xDC00)), t)
      else none
    | _ => none
  else if 0xDC00 ≤ u ∧ u < 0xE000 then none
  else return (utf8 u, t)

/-- The byte that a two-character escape stands for. -/
def shortEscape (e : UInt8) : Option UInt8 :=
  if e = 34 ∨ e = 92 ∨ e = 47 then some e
  else if e = 98 then some 8
  else if e = 102 then some 12
  else if e = 110 then some 10
  else if e = 114 then some 13
  else if e = 116 then some 9
  else none

/-- One character of a string literal. -/
def readChar : Bytes → Option (Bytes × Bytes)
  | [] => none
  | c :: t =>
    if c = 92 then
      match t with
      | [] => none
      | e :: t => if e = 117 then readUnicode t else (shortEscape e).map fun x => ([x], t)
    else if c = 34 ∨ c < 32 then none
    else some ([c], t)

/-- The characters of a string literal up to the closing quote. -/
def readChars : ℕ → Bytes → Option (Bytes × Bytes)
  | 0, _ => none
  | n + 1, t =>
    match t with
    | [] => none
    | c :: t =>
      if c = 34 then some ([], t)
      else do
        let (x, t) ← readChar (c :: t)
        let (s, t) ← readChars n t
        return (x ++ s, t)

def readString : Bytes → Option (Bytes × Bytes)
  | [] => none
  | c :: t => if c = 34 then readChars t.length t else none

/-- What a text that is one string literal stands for. -/
def decodeString (t : Bytes) : Option Bytes :=
  match readString t with
  | some (s, []) => some s
  | _ => none

/-- One character of a string literal as it is written. -/
inductive IsStringChar : Bytes → Prop
  | raw {c : UInt8} (hc : c ≠ 34 ∧ c ≠ 92 ∧ 32 ≤ c) : IsStringChar [c]
  | short {e x : UInt8} (he : shortEscape e = some x) : IsStringChar [92, e]
  | unicode {h : Bytes} {n : ℕ} (hh : readHex4 h = some (n, [])) : IsStringChar (92 :: 117 :: h)

/-- Written characters between two quotes. -/
def IsStringLiteral (t : Bytes) : Prop :=
  ∃ chars : List Bytes, (∀ w ∈ chars, IsStringChar w) ∧ t = 34 :: chars.flatten ++ [34]

/-! ### Values -/

def isSpace (c : UInt8) : Bool := c == 32 || c == 9 || c == 10 || c == 13

def skipSpaces (t : Bytes) : Bytes := t.dropWhile isSpace

/-- A number without a sign; no zero stands before another digit. -/
def readNat (t : Bytes) : Option (ℕ × Bytes) :=
  let digits := t.takeWhile isdigit
  if digits = [] ∨ digits.head? = some 48 ∧ digits.length ≠ 1 then none
  else some (decimalValue digits, t.dropWhile isdigit)

def readInt : Bytes → Option (ℤ × Bytes)
  | [] => none
  | c :: t =>
    if c = 45 then (readNat t).map fun (n, t) => (-n, t)
    else (readNat (c :: t)).map fun (n, t) => (n, t)

/-- Items with commas between them, up to the closing character; there is at least one. -/
def readItems {α : Type} (item : Bytes → Option (α × Bytes)) (close : UInt8) :
    ℕ → Bytes → Option (List α × Bytes)
  | 0, _ => none
  | n + 1, t => do
    let (v, t) ← item t
    match skipSpaces t with
    | [] => none
    | c :: t =>
      if c = close then return ([v], t)
      else if c = 44 then do
        let (l, t) ← readItems item close n t
        return (v :: l, t)
      else none

/-- An array or an object after its opening character. -/
def readList {α : Type} (item : Bytes → Option (α × Bytes)) (close : UInt8) (t : Bytes) :
    Option (List α × Bytes) :=
  match skipSpaces t with
  | [] => none
  | c :: t' => if c = close then some ([], t') else readItems item close t.length t

/-- A member of an object. -/
def readMember {α : Type} (value : Bytes → Option (α × Bytes)) (t : Bytes) :
    Option ((Bytes × α) × Bytes) := do
  let (name, t) ← readString (skipSpaces t)
  match skipSpaces t with
  | [] => none
  | c :: t =>
    if c = 58 then do
      let (v, t) ← value t
      return ((name, v), t)
    else none

/-- The rest of a text that starts with a given word. -/
def readWord (w : Bytes) (t : Bytes) : Option Bytes :=
  if w.isPrefixOf t then some (t.drop w.length) else none

/-- A value; the first argument bounds how deep values stand in one another. -/
def readValue : ℕ → Bytes → Option (Json × Bytes)
  | 0, _ => none
  | n + 1, t =>
    match skipSpaces t with
    | [] => none
    | c :: t =>
      if c = 34 then (readString (c :: t)).map fun (s, t) => (.str s, t)
      else if c = 91 then (readList (readValue n) 93 t).map fun (l, t) => (.arr l, t)
      else if c = 123 then
        (readList (readMember (readValue n)) 125 t).map fun (l, t) => (.obj l, t)
      else if c = 116 then (readWord (ascii "true") (c :: t)).map fun t => (.bool true, t)
      else if c = 102 then (readWord (ascii "false") (c :: t)).map fun t => (.bool false, t)
      else if c = 110 then (readWord (ascii "null") (c :: t)).map fun t => (.null, t)
      else (readInt (c :: t)).map fun (i, t) => (.num i, t)

/-- What a whole text says. -/
def parse (t : Bytes) : Option Json :=
  match readValue t.length t with
  | some (v, rest) => if skipSpaces rest = [] then some v else none
  | none => none

example : parse (ascii "[1, -20 ,\"a\\u00e9\\n\"]\n") =
    some (.arr [.num 1, .num (-20), .str [97, 0xc3, 0xa9, 10]]) := by rfl

/-! ### Reading what stands in a text -/

section Reading

variable {c : UInt8} {t rest : Bytes}

theorem readChar_raw (hc : c ≠ 34 ∧ c ≠ 92 ∧ 32 ≤ c) : readChar (c :: t) = some ([c], t) := by
  have hge : ¬ c < 32 := UInt8.not_lt.mpr hc.2.2
  simp [readChar, hc.1, hc.2.1, hge]

theorem readChar_short {e x : UInt8} (he : shortEscape e = some x) :
    readChar (92 :: e :: t) = some ([x], t) := by
  have hu : e ≠ 117 := by
    rintro rfl
    simp [shortEscape] at he
  simp [readChar, hu, he]

theorem readChar_unicode {n : ℕ} (hn : n < 0x80) (ht : readHex4 t = some (n, rest)) :
    readChar (92 :: 117 :: t) = some ([n.toUInt8], rest) := by
  have hhigh : ¬ (0xD800 ≤ n ∧ n < 0xDC00) := by omega
  have hlow : ¬ (0xDC00 ≤ n ∧ n < 0xE000) := by omega
  have hutf8 : ∀ n < 0x80, utf8 n = [n.toUInt8] := by decide
  simp [readChar, readUnicode, ht, hhigh, hlow, hutf8 n hn]

/-- A literal is read character by character. -/
theorem readChars_cons {n : ℕ} {x s : Bytes} (hc : c ≠ 34)
    (hchar : readChar (c :: t) = some (x, rest)) {rest' : Bytes}
    (hchars : readChars n rest = some (s, rest')) :
    readChars (n + 1) (c :: t) = some (x ++ s, rest') := by
  simp [readChars, hc, hchar, hchars]

theorem skipSpaces_cons (hc : isSpace c = false) : skipSpaces (c :: t) = c :: t := by
  simp [skipSpaces, hc]

theorem skipSpaces_space (hc : isSpace c = true) : skipSpaces (c :: t) = skipSpaces t := by
  simp [skipSpaces, hc]

variable {α : Type} {item : Bytes → Option (α × Bytes)} {close : UInt8} {n : ℕ} {v : α}
  {l : List α}

theorem readItems_last {t' : Bytes} (hitem : item t = some (v, t'))
    (hclose : skipSpaces t' = close :: rest) :
    readItems item close (n + 1) t = some ([v], rest) := by
  simp [readItems, hitem, hclose]

theorem readItems_more {t' t'' : Bytes} (hitem : item t = some (v, t'))
    (hcomma : skipSpaces t' = 44 :: t'') (hclose : close ≠ 44)
    (hmore : readItems item close n t'' = some (l, rest)) :
    readItems item close (n + 1) t = some (v :: l, rest) := by
  simp [readItems, hitem, hcomma, hclose.symm, hmore]

/-- The first item alone decides how a list begins. -/
theorem readItems_congr {t' : Bytes} (h : item t = item t') :
    readItems item close n t = readItems item close n t' := by
  cases n <;> simp [readItems, h]

theorem readValue_space (hc : isSpace c = true) : readValue n (c :: t) = readValue n t := by
  cases n <;> simp [readValue, skipSpaces_space hc]

theorem readNat_digits {ds : Bytes} (hds : ∀ d ∈ ds, isdigit d = true) (hne : ds ≠ [])
    (hzero : ds.head? = some 48 → ds.length = 1) (hc : isdigit c = false) :
    readNat (ds ++ c :: t) = some (decimalValue ds, c :: t) := by
  have htake : (ds ++ c :: t).takeWhile isdigit = ds := by
    rw [List.takeWhile_append_of_pos hds]
    simp [hc]
  have hdrop : (ds ++ c :: t).dropWhile isdigit = c :: t := by
    rw [List.dropWhile_append_of_pos hds]
    simp [hc]
  have hread : ¬ (ds = [] ∨ ds.head? = some 48 ∧ ds.length ≠ 1) := by
    rintro (h | ⟨h, hlen⟩)
    · exact hne h
    · exact hlen (hzero h)
  simp only [readNat, htake, hdrop, if_neg hread]

theorem readInt_printInt {i : ℤ} (hc : isdigit c = false) :
    readInt (printInt i ++ c :: t) = some (i, c :: t) := by
  have hnat (n : ℕ) : readNat (printNat n ++ c :: t) = some (n, c :: t) := by
    have hread := readNat_digits (t := t) (fun _ => isdigit_of_mem_printNat)
      (printNat_ne_nil (n := n)) printNat_length_of_head hc
    rwa [decimalValue_printNat] at hread
  cases i with
  | ofNat n =>
    obtain ⟨d, ds, hds⟩ := List.exists_cons_of_ne_nil (printNat_ne_nil (n := n))
    have hd : isdigit d = true := isdigit_of_mem_printNat (n := n) (by simp [hds])
    have hsign : d ≠ 45 := by
      rintro rfl
      exact absurd hd (by decide)
    have hread := hnat n
    rw [hds] at hread
    rw [printInt, hds, List.cons_append, readInt, if_neg hsign, ← List.cons_append, hread]
    rfl
  | negSucc n =>
    rw [printInt, List.cons_append, readInt, if_pos rfl, hnat]
    rfl

/-- A member with no white space before its colon. -/
theorem readMember_string {name : Bytes} {value : Bytes → Option (α × Bytes)}
    (hname : readString (34 :: t) = some (name, 58 :: rest)) {rest' : Bytes}
    (hvalue : value rest = some (v, rest')) :
    readMember value (34 :: t) = some ((name, v), rest') := by
  have hquote : skipSpaces (34 :: t) = 34 :: t := skipSpaces_cons (by decide)
  have hcolon : skipSpaces (58 :: rest) = 58 :: rest := skipSpaces_cons (by decide)
  simp [readMember, hquote, hname, hcolon, hvalue]

theorem readValue_string {s : Bytes} (h : readString (34 :: t) = some (s, rest)) :
    readValue (n + 1) (34 :: t) = some (.str s, rest) := by
  have hquote : skipSpaces (34 :: t) = 34 :: t := skipSpaces_cons (by decide)
  simp [readValue, hquote, h]

theorem readValue_int {i : ℤ} (hc : isdigit c = false) :
    readValue (n + 1) (printInt i ++ c :: t) = some (.num i, c :: t) := by
  have hread := readInt_printInt (t := t) (i := i) hc
  have hfirst : ∃ d ds, printInt i = d :: ds ∧ (d = 45 ∨ isdigit d = true) := by
    cases i with
    | ofNat n =>
      obtain ⟨d, ds, hds⟩ := List.exists_cons_of_ne_nil (printNat_ne_nil (n := n))
      exact ⟨d, ds, hds, .inr (isdigit_of_mem_printNat (n := n) (by simp [hds]))⟩
    | negSucc n => exact ⟨45, _, rfl, .inl rfl⟩
  obtain ⟨d, ds, hds, hd⟩ := hfirst
  rw [hds, List.cons_append] at hread ⊢
  have hspace : isSpace d = false := by
    rcases hd with rfl | hd
    · decide
    · have hnot := isdigit_not_isspace hd
      simp only [isspace, isSpace, decide_eq_false_iff_not, not_or, not_and] at hnot ⊢
      simp [hnot.1]
      refine ⟨⟨?_, ?_⟩, ?_⟩ <;>
      · rintro rfl
        exact absurd hd (by decide)
  have hword : ∀ c ∈ [34, 91, 123, 116, 102, 110], d ≠ c := by
    rcases hd with rfl | hd
    · decide
    · rintro c hc rfl
      simp only [List.mem_cons, List.not_mem_nil, or_false] at hc
      rcases hc with rfl | rfl | rfl | rfl | rfl | rfl <;> exact absurd hd (by decide)
  simp only [List.forall_mem_cons, List.not_mem_nil] at hword
  obtain ⟨h34, h91, h123, h116, h102, h110, -⟩ := hword
  simp [readValue, skipSpaces_cons hspace, h34, h91, h123, h116, h102, h110, hread]

theorem readValue_array_nil :
    readValue (n + 1) (91 :: 93 :: t) = some (.arr [], t) := by
  have hopen : skipSpaces (91 :: 93 :: t) = 91 :: 93 :: t := skipSpaces_cons (by decide)
  have hclose : skipSpaces (93 :: t) = 93 :: t := skipSpaces_cons (by decide)
  simp [readValue, hopen, readList, hclose]

theorem readValue_array {l : List Json} (hc : isSpace c = false) (hne : c ≠ 93)
    (h : readItems (readValue n) 93 (c :: t).length (c :: t) = some (l, rest)) :
    readValue (n + 1) (91 :: c :: t) = some (.arr l, rest) := by
  have hopen : skipSpaces (91 :: c :: t) = 91 :: c :: t := skipSpaces_cons (by decide)
  have hfirst : skipSpaces (c :: t) = c :: t := skipSpaces_cons hc
  rw [List.length_cons] at h
  simp [readValue, hopen, readList, hfirst, hne, h]

theorem readValue_object {l : List (Bytes × Json)}
    (h : readItems (readMember (readValue n)) 125 (34 :: t).length (34 :: t) = some (l, rest)) :
    readValue (n + 1) (123 :: 34 :: t) = some (.obj l, rest) := by
  have hopen : skipSpaces (123 :: 34 :: t) = 123 :: 34 :: t := skipSpaces_cons (by decide)
  have hfirst : skipSpaces (34 :: t) = 34 :: t := skipSpaces_cons (by decide)
  rw [List.length_cons] at h
  simp [readValue, hopen, readList, hfirst, h]

end Reading

end JsonText
