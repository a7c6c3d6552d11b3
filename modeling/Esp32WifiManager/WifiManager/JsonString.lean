import Esp32WifiManager.Lib.JsonText
import Esp32WifiManager.Lib.StrBuf

/-!
# String literals that are printed

`json_print_escaped_string` prints a C string as a JSON string literal, one
character at a time, into a string buffer. Where the buffer comes to its end
the function stops; the literal as a whole is then longer than the room.
-/

namespace Esp32WifiManager
namespace WifiManager

open CString StrBuf JsonText

/-! ### json.c -/

section Code

variable {σ : Type} (B : StrBuf.Ops σ)

/-- `%04x` of a number below `2 ^ 16`. -/
def printHex04 (n : ℕ) : Bytes :=
  let digits := (Nat.toDigits 16 n).map fun c => c.toNat.toUInt8
  List.replicate (4 - digits.length) 48 ++ digits

/-- A character is unsigned on the target. -/
def jsonPrintCharEscaped (pStrBuf : σ) (inChr : UInt8) : Bool × σ :=
  if inChr ≥ 32 then B.printf pStrBuf [inChr]
  else B.printf pStrBuf (ascii "\\u" ++ printHex04 inChr.toNat)

/-- The `switch` of the loop. -/
def jsonPrintChar (pStrBuf : σ) (inChr : UInt8) : Bool × σ :=
  if inChr = 92 ∨ inChr = 34 then B.printf pStrBuf (ascii "\\" ++ [inChr])
  else if inChr = 8 then B.printf pStrBuf (ascii "\\b")
  else if inChr = 12 then B.printf pStrBuf (ascii "\\f")
  else if inChr = 10 then B.printf pStrBuf (ascii "\\n")
  else if inChr = 13 then B.printf pStrBuf (ascii "\\r")
  else if inChr = 9 then B.printf pStrBuf (ascii "\\t")
  else jsonPrintCharEscaped B pStrBuf inChr

/-- The loop over the characters before the NUL; `false` where it returns early. -/
def jsonPrintChars (pStrBuf : σ) : Bytes → Bool × σ
  | [] => (true, pStrBuf)
  | inChr :: inPtr =>
    if inChr = 0 then (true, pStrBuf)
    else
      match jsonPrintChar B pStrBuf inChr with
      | (false, pStrBuf) => (false, pStrBuf)
      | (true, pStrBuf) => jsonPrintChars pStrBuf inPtr

/-- The string is the memory that its pointer points to, `none` for a null pointer. The buffer is
one the caller has; without one nothing is printed. -/
def jsonPrintEscapedString (pStrBuf : σ) (pInputStr : Option Bytes) : Bool × σ :=
  match pInputStr with
  | none => B.printf pStrBuf (ascii "\"\"")
  | some inputStr =>
    -- the result of the opening quote is not looked at
    match jsonPrintChars B (B.printf pStrBuf (ascii "\"")).2 inputStr with
    | (false, pStrBuf) => (false, pStrBuf)
    | (true, pStrBuf) => B.printf pStrBuf (ascii "\"")

end Code

/-! ### The literal -/

/-- What is printed for one character. -/
def jsonEscape (c : UInt8) : Bytes :=
  if c = 92 ∨ c = 34 then [92, c]
  else if c = 8 then [92, 98]
  else if c = 12 then [92, 102]
  else if c = 10 then [92, 110]
  else if c = 13 then [92, 114]
  else if c = 9 then [92, 116]
  else if c ≥ 32 then [c]
  else 92 :: 117 :: printHex04 c.toNat

/-- The literal of a string, one text for each call that prints it. -/
def jsonStringTexts (s : Bytes) : List Bytes := [34] :: (s.map jsonEscape ++ [[34]])

def jsonStringLiteral (s : Bytes) : Bytes := (jsonStringTexts s).flatten

theorem jsonStringLiteral_eq {s : Bytes} :
    jsonStringLiteral s = 34 :: (s.flatMap jsonEscape ++ [34]) := by
  simp [jsonStringLiteral, jsonStringTexts, List.flatMap]

namespace JsonString

section Literal

variable {c : UInt8} {s t : Bytes}

theorem readHex4_printHex04 : ∀ n < 32, readHex4 (printHex04 n) = some (n, []) := by
  decide

theorem printHex04_length : ∀ n < 32, (printHex04 n).length = 4 := by
  decide

theorem readHex4_append {h : Bytes} {n : ℕ} (hh : readHex4 h = some (n, [])) (t : Bytes) :
    readHex4 (h ++ t) = some (n, t) := by
  match h, hh with
  | [], hh => simp [readHex4] at hh
  | [_], hh => simp [readHex4] at hh
  | [_, _], hh => simp [readHex4] at hh
  | [_, _, _], hh => simp [readHex4] at hh
  | a :: b :: c :: d :: t', hh =>
    cases ha : hexValue a <;> cases hb : hexValue b <;> cases hc : hexValue c <;>
      cases hd : hexValue d <;> simp_all [readHex4]

/-- Every character is written as one character of a literal, and read back. -/
theorem isStringChar_jsonEscape (c : UInt8) : IsStringChar (jsonEscape c) := by
  unfold jsonEscape
  split_ifs with hquoted hb hf hn hr ht hraw
  · rcases hquoted with rfl | rfl
    · exact .short rfl
    · exact .short rfl
  · exact .short rfl
  · exact .short rfl
  · exact .short rfl
  · exact .short rfl
  · exact .short rfl
  · exact .raw ⟨fun h => hquoted (.inr h), fun h => hquoted (.inl h), hraw⟩
  · exact .unicode (readHex4_printHex04 _ (UInt8.lt_iff_toNat_lt.mp (UInt8.not_le.mp hraw)))

theorem readChar_jsonEscape (c : UInt8) (t : Bytes) :
    readChar (jsonEscape c ++ t) = some ([c], t) := by
  unfold jsonEscape
  split_ifs with hquoted hb hf hn hr ht hraw
  · rcases hquoted with rfl | rfl
    · exact readChar_short rfl
    · exact readChar_short rfl
  · exact hb ▸ readChar_short rfl
  · exact hf ▸ readChar_short rfl
  · exact hn ▸ readChar_short rfl
  · exact hr ▸ readChar_short rfl
  · exact ht ▸ readChar_short rfl
  · exact readChar_raw ⟨fun h => hquoted (.inr h), fun h => hquoted (.inl h), hraw⟩
  · have hlt : c.toNat < 32 := UInt8.lt_iff_toNat_lt.mp (UInt8.not_le.mp hraw)
    have hread := readChar_unicode (by omega) (readHex4_append (readHex4_printHex04 _ hlt) t)
    simpa using hread

theorem jsonEscape_ne_quote (c : UInt8) (t : Bytes) :
    ∃ e t', jsonEscape c ++ t = e :: t' ∧ e ≠ 34 := by
  unfold jsonEscape
  split_ifs with hquoted
  case pos => exact ⟨92, c :: t, rfl, by decide⟩
  all_goals exact ⟨_, _, rfl, by first | decide | exact fun h => hquoted (.inr h)⟩

theorem jsonEscape_length_pos (c : UInt8) : 0 < (jsonEscape c).length := by
  unfold jsonEscape
  split_ifs <;> simp

theorem readChars_escaped {n : ℕ} (hn : s.length < n) (rest : Bytes) :
    readChars n (s.flatMap jsonEscape ++ 34 :: rest) = some (s, rest) := by
  induction s generalizing n with
  | nil =>
    obtain ⟨n, rfl⟩ := Nat.exists_eq_add_of_lt hn
    simp [readChars]
  | cons c s ih =>
    obtain ⟨n, rfl⟩ := Nat.exists_eq_add_of_lt hn
    rw [List.flatMap_cons, List.append_assoc]
    have hchar := readChar_jsonEscape c (s.flatMap jsonEscape ++ 34 :: rest)
    obtain ⟨e, t', ht, he⟩ := jsonEscape_ne_quote c (s.flatMap jsonEscape ++ 34 :: rest)
    rw [ht] at hchar ⊢
    exact readChars_cons he hchar (ih (by simp only [List.length_cons]; omega))

theorem length_le_flatMap_jsonEscape : s.length ≤ (s.flatMap jsonEscape).length := by
  induction s with
  | nil => simp
  | cons c s ih =>
    have := jsonEscape_length_pos c
    rw [List.flatMap_cons, List.length_append, List.length_cons]
    omega

/-- The literal is read back, whatever stands after it. -/
theorem readString_jsonStringLiteral (s rest : Bytes) :
    readString (jsonStringLiteral s ++ rest) = some (s, rest) := by
  rw [jsonStringLiteral_eq]
  have hread := readChars_escaped (s := s)
    (n := (s.flatMap jsonEscape ++ 34 :: rest).length) ?_ rest
  · simpa [readString] using hread
  · have := length_le_flatMap_jsonEscape (s := s)
    rw [List.length_append, List.length_cons]
    omega

theorem isStringLiteral (s : Bytes) : IsStringLiteral (jsonStringLiteral s) := by
  refine ⟨s.map jsonEscape, ?_, ?_⟩
  · intro w hw
    obtain ⟨c, -, rfl⟩ := List.mem_map.mp hw
    exact isStringChar_jsonEscape c
  · rw [jsonStringLiteral_eq, List.flatMap_def, List.cons_append]

theorem decodeString_jsonStringLiteral (s : Bytes) :
    decodeString (jsonStringLiteral s) = some s := by
  have hread := readString_jsonStringLiteral s []
  rw [List.append_nil] at hread
  simp [decodeString, hread]

end Literal

/-! ### What is printed -/

section Print

variable {σ : Type} {B : StrBuf.Ops σ} {p : σ} {c : UInt8} {m : Bytes}

theorem jsonPrintChar_eq : jsonPrintChar B p c = B.printf p (jsonEscape c) := by
  unfold jsonPrintChar jsonEscape jsonPrintCharEscaped
  split_ifs <;> rfl

/-- One round of the loop. -/
theorem jsonPrintChars_cons (hc : c ≠ 0) :
    jsonPrintChars B p (c :: m) =
      if (B.printf p (jsonEscape c)).1 then jsonPrintChars B (B.printf p (jsonEscape c)).2 m
      else (false, (B.printf p (jsonEscape c)).2) := by
  rw [jsonPrintChars, if_neg hc, jsonPrintChar_eq]
  rcases B.printf p (jsonEscape c) with ⟨_ | _, p'⟩ <;> rfl

/-- The loop prints the first characters, and all of them when it does not return early. -/
theorem jsonPrintChars_prefix :
    ∃ ts, ts <+: (text m).map jsonEscape ∧ (jsonPrintChars B p m).2 = printAll B ts p ∧
      ((jsonPrintChars B p m).1 = true → ts = (text m).map jsonEscape) := by
  induction m generalizing p with
  | nil => exact ⟨[], List.nil_prefix, rfl, fun _ => rfl⟩
  | cons c m ih =>
    by_cases hc : c = 0
    · subst hc
      exact ⟨[], List.nil_prefix, rfl, fun _ => rfl⟩
    · have htext : text (c :: m) = c :: text m := by simp [text, hc]
      rw [htext, List.map_cons, jsonPrintChars_cons hc]
      split
      · obtain ⟨ts, hpre, hstate, hall⟩ := ih (p := (B.printf p (jsonEscape c)).2)
        refine ⟨jsonEscape c :: ts, ?_, hstate, fun h => by rw [hall h]⟩
        exact (List.prefix_cons_inj _).mpr hpre
      · exact ⟨[jsonEscape c], by simp, rfl, by simp⟩

theorem jsonPrintChars_sizing (hB : B.Lawful) (hp : B.sizing p = true) :
    (jsonPrintChars B p m).1 = true := by
  induction m generalizing p with
  | nil => rfl
  | cons c m ih =>
    by_cases hc : c = 0
    · simp [jsonPrintChars, hc]
    · obtain ⟨hok, hsizing, -⟩ := hB.sizing_printf (t := jsonEscape c) hp
      rw [jsonPrintChars_cons hc, if_pos hok]
      exact ih hsizing

theorem jsonPrintChars_fits (hB : B.Lawful) (hp : B.sizing p = false)
    (hroom : ((text m).flatMap jsonEscape).length ≤ B.room p) :
    (jsonPrintChars B p m).1 = true := by
  induction m generalizing p with
  | nil => rfl
  | cons c m ih =>
    by_cases hc : c = 0
    · simp [jsonPrintChars, hc]
    · have htext : text (c :: m) = c :: text m := by simp [text, hc]
      rw [htext, List.flatMap_cons, List.length_append] at hroom
      obtain ⟨hok, happ⟩ := hB.fits hp (t := jsonEscape c) (by omega)
      have := happ.room
      rw [jsonPrintChars_cons hc, if_pos hok]
      exact ih happ.fixed (by omega)

/-- The loop returns early, or else it leaves no room for the closing quote. -/
theorem jsonPrintChars_overflows (hB : B.Lawful) (hp : B.sizing p = false)
    (hroom : B.room p < ((text m).flatMap jsonEscape).length + 1)
    (hok : (jsonPrintChars B p m).1 = true) :
    B.sizing (jsonPrintChars B p m).2 = false ∧ B.room (jsonPrintChars B p m).2 < 1 := by
  induction m generalizing p with
  | nil => exact ⟨hp, hroom⟩
  | cons c m ih =>
    by_cases hc : c = 0
    · subst hc
      exact ⟨hp, hroom⟩
    · have htext : text (c :: m) = c :: text m := by simp [text, hc]
      rw [htext, List.flatMap_cons, List.length_append] at hroom
      rw [jsonPrintChars_cons hc] at hok ⊢
      rcases Nat.lt_or_ge (B.room p) (jsonEscape c).length with hlong | hfits
      · obtain ⟨hfail, -⟩ := hB.overflows hp hlong
        simp [hfail] at hok
      · obtain ⟨hprinted, happ⟩ := hB.fits hp hfits
        have := happ.room
        rw [if_pos hprinted] at hok ⊢
        exact ih happ.fixed (by omega) hok

/-- The opening quote, the loop, and the closing quote where the loop comes to its end. -/
theorem jsonPrintEscapedString_some :
    jsonPrintEscapedString B p (some m) =
      if (jsonPrintChars B (B.printf p [34]).2 m).1 then
        B.printf (jsonPrintChars B (B.printf p [34]).2 m).2 [34]
      else (false, (jsonPrintChars B (B.printf p [34]).2 m).2) := by
  have hquote : ascii "\"" = [34] := by decide
  simp only [jsonPrintEscapedString, hquote]
  rcases jsonPrintChars B (B.printf p [34]).2 m with ⟨_ | _, p'⟩ <;> rfl

/-- The function prints the first texts of the literal, and all of them if it returns `true`. -/
theorem jsonPrintEscapedString_prefix :
    ∃ ts, ts <+: jsonStringTexts (text m) ∧
      (jsonPrintEscapedString B p (some m)).2 = printAll B ts p ∧
      ((jsonPrintEscapedString B p (some m)).1 = true → ts = jsonStringTexts (text m)) := by
  obtain ⟨ts, hpre, hstate, hall⟩ :=
    jsonPrintChars_prefix (B := B) (p := (B.printf p [34]).2) (m := m)
  rw [jsonPrintEscapedString_some]
  split
  · next hchars =>
    obtain rfl := hall hchars
    refine ⟨jsonStringTexts (text m), List.prefix_refl _, ?_, fun _ => rfl⟩
    rw [jsonStringTexts, printAll_cons, printAll_append, ← hstate]
    rfl
  · refine ⟨[34] :: ts, ?_, hstate, by simp⟩
    exact (List.prefix_cons_inj _).mpr (hpre.trans (List.prefix_append _ _))

theorem jsonPrintEscapedString_sizing (hB : B.Lawful) (hp : B.sizing p = true) :
    (jsonPrintEscapedString B p (some m)).1 = true := by
  obtain ⟨-, hsizing, -⟩ := hB.sizing_printf (t := [34]) hp
  obtain ⟨ts, -, hstate, -⟩ :=
    jsonPrintChars_prefix (B := B) (p := (B.printf p [34]).2) (m := m)
  have hstill := (printAll_counted hB hsizing ts).1
  rw [← hstate] at hstill
  rw [jsonPrintEscapedString_some, if_pos (jsonPrintChars_sizing hB hsizing)]
  exact (hB.sizing_printf hstill).1

theorem jsonPrintEscapedString_fits (hB : B.Lawful) (hp : B.sizing p = false)
    (hroom : (jsonStringLiteral (text m)).length ≤ B.room p) :
    (jsonPrintEscapedString B p (some m)).1 = true := by
  rw [jsonStringLiteral_eq, List.length_cons, List.length_append, List.length_singleton] at hroom
  obtain ⟨-, happ⟩ := hB.fits (t := [34]) hp (by simp; omega)
  have hquote : B.room (B.printf p [34]).2 + 1 = B.room p := happ.room
  have hchars := jsonPrintChars_fits (m := m) hB happ.fixed (by omega)
  obtain ⟨ts, -, hstate, hall⟩ :=
    jsonPrintChars_prefix (B := B) (p := (B.printf p [34]).2) (m := m)
  have hprinted := printAll_fits hB happ.fixed
    ((text m).map jsonEscape) (by rw [← List.flatMap_def]; omega)
  rw [hall hchars] at hstate
  rw [← hstate, ← List.flatMap_def] at hprinted
  have hleft := hprinted.room
  rw [jsonPrintEscapedString_some, if_pos hchars]
  exact (hB.fits hprinted.fixed (by simp; omega)).1

theorem jsonPrintEscapedString_overflows (hB : B.Lawful) (hp : B.sizing p = false)
    (hroom : B.room p < (jsonStringLiteral (text m)).length) :
    (jsonPrintEscapedString B p (some m)).1 = false := by
  rw [jsonStringLiteral_eq, List.length_cons, List.length_append, List.length_singleton] at hroom
  have hquote : B.sizing (B.printf p [34]).2 = false ∧
      B.room (B.printf p [34]).2 < ((text m).flatMap jsonEscape).length + 1 := by
    rcases Nat.lt_or_ge (B.room p) 1 with hnone | hsome
    · obtain ⟨-, hfixed, hleft, -⟩ := hB.overflows (t := [34]) hp hnone
      rw [List.length_singleton] at hleft
      exact ⟨hfixed, by omega⟩
    · obtain ⟨-, happ⟩ := hB.fits (t := [34]) hp hsome
      have hleft : B.room (B.printf p [34]).2 + 1 = B.room p := happ.room
      exact ⟨happ.fixed, by omega⟩
  rw [jsonPrintEscapedString_some]
  split
  · next hchars =>
    obtain ⟨hfixed, hleft⟩ := jsonPrintChars_overflows hB hquote.1 hquote.2 hchars
    exact (hB.overflows (t := [34]) hfixed hleft).1
  · rfl

end Print

end JsonString

open JsonString

/-- Where `true` is returned, what was appended is a literal that is read back as the string; where
`false` is returned, the literal is longer than the room that the buffer had. -/
theorem json_escaped_string_round_trip {σ : Type} (B : StrBuf.Ops σ) (hB : B.Lawful) (p : σ)
    (hp : B.sizing p = false) (m : Bytes) :
    ((jsonPrintEscapedString B p (some m)).1 = true →
      ∃ lit, B.text (jsonPrintEscapedString B p (some m)).2 = B.text p ++ lit ∧
        IsStringLiteral lit ∧ decodeString lit = some (text m)) ∧
    ((jsonPrintEscapedString B p (some m)).1 = false →
      B.room p < (jsonStringLiteral (text m)).length) := by
  constructor
  · intro hok
    refine ⟨jsonStringLiteral (text m), ?_, isStringLiteral _,
      decodeString_jsonStringLiteral _⟩
    have hroom : (jsonStringLiteral (text m)).length ≤ B.room p := by
      by_contra hlong
      rw [jsonPrintEscapedString_overflows hB hp (Nat.not_le.mp hlong)] at hok
      cases hok
    obtain ⟨ts, -, hstate, hall⟩ := jsonPrintEscapedString_prefix (B := B) (p := p) (m := m)
    obtain rfl := hall hok
    rw [hstate]
    exact (printAll_fits hB hp _ hroom).text
  · intro hfail
    by_contra hfits
    rw [jsonPrintEscapedString_fits hB hp (Nat.not_lt.mp hfits)] at hfail
    cases hfail

/-- A quote in seven bytes: the literal takes the whole room. -/
theorem json_escaped_string_round_trip_quote :
    ((jsonPrintEscapedString buffer (buffer.arr 7) (some (ascii "a\"b" ++ [0]))).1 = true →
      ∃ lit, buffer.text (jsonPrintEscapedString buffer (buffer.arr 7)
          (some (ascii "a\"b" ++ [0]))).2 = buffer.text (buffer.arr 7) ++ lit ∧
        IsStringLiteral lit ∧ decodeString lit = some (text (ascii "a\"b" ++ [0]))) ∧
    ((jsonPrintEscapedString buffer (buffer.arr 7) (some (ascii "a\"b" ++ [0]))).1 = false →
      buffer.room (buffer.arr 7) < (jsonStringLiteral (text (ascii "a\"b" ++ [0]))).length) :=
  json_escaped_string_round_trip buffer buffer_lawful (buffer.arr 7) rfl (ascii "a\"b" ++ [0])

end WifiManager
end Esp32WifiManager
