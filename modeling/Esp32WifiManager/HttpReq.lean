import Esp32WifiManager.Lib.CString

/-!
# Header field lookup

`http_req_header_get_field` looks a field name up in the header text as a whole,
letter case ignored, and returns the value as a pointer into that text together
with a length. The pointer is an offset here; the length excludes the line end
and one pair of enclosing quotes.
-/

namespace Esp32WifiManager
namespace HttpReq

open CString

/-- The returned pointer, as an offset into the header, and `*p_len`. -/
structure HttpReqField where
  ptr : ℕ
  len : ℕ
  deriving DecidableEq, Repr

def HttpReqField.value (f : HttpReqField) (header : Bytes) : Bytes :=
  (header.drop f.ptr).take f.len

def lineEnd : Bytes := ascii "\r\n"

/-- The two branches of `http_req_header_get_field` behind the skipped spaces: `val` is the
offset of the value. -/
def httpReqHeaderGetFieldAt (header : Bytes) (val : ℕ) : Option HttpReqField :=
  if (header.drop val).head? = some 34 then
    let val := val + 1
    match strpbrk (header.drop val) lineEnd with
    | none => none
    | some len =>
      if len = 0 then none
      else if header[val + len - 1]? ≠ some 34 then none
      else some ⟨val, len - 1⟩
  else
    match strpbrk (header.drop val) lineEnd with
    | none => none
    | some len => some ⟨val, len⟩

/-- `NULL` is `none`; `*p_len` is 0 then. -/
def httpReqHeaderGetField (header field : Bytes) : Option HttpReqField :=
  match strcasestr header field with
  | none => none
  | some start =>
    let val := start + field.length
    httpReqHeaderGetFieldAt header (val + ((header.drop val).takeWhile (· = 32)).length)

theorem httpReqHeaderGetField_eq_none {header field : Bytes} (h : strcasestr header field = none) :
    httpReqHeaderGetField header field = none := by
  simp [httpReqHeaderGetField, h]

/-- An unquoted value reaches to the end of its line. -/
theorem httpReqHeaderGetField_line {pre name spaces value post field : Bytes}
    (hname : strcasestr (pre ++ name ++ spaces ++ value ++ lineEnd ++ post) field = some pre.length)
    (hlen : name.length = field.length) (hspaces : ∀ c ∈ spaces, c = 32)
    (hvalue : ∀ c ∈ value, c ∉ lineEnd) (hne : value.head?.all (fun c => c ≠ 32 ∧ c ≠ 34) = true) :
    httpReqHeaderGetField (pre ++ name ++ spaces ++ value ++ lineEnd ++ post) field =
      some ⟨pre.length + name.length + spaces.length, value.length⟩ := by
  set header := pre ++ name ++ spaces ++ value ++ lineEnd ++ post with hh
  have hend : lineEnd = 13 :: [10] := by decide
  have hdrop : header.drop (pre.length + field.length) =
      spaces ++ (value ++ lineEnd ++ post) := by
    have : header = (pre ++ name) ++ (spaces ++ (value ++ lineEnd ++ post)) := by simp [hh]
    rw [this, List.drop_left' (by simp [hlen])]
  have hrest : header.drop (pre.length + name.length + spaces.length) =
      value ++ 13 :: (10 :: post) := by
    have : header = (pre ++ name ++ spaces) ++ (value ++ 13 :: (10 :: post)) := by simp [hh, hend]
    rw [this, List.drop_left' (by simp [Nat.add_assoc])]
  have hhead : ∀ c, (value ++ lineEnd ++ post).head? = some c → c ≠ 32 ∧ c ≠ 34 := by
    intro c hc
    cases value with
    | nil =>
      rw [hend] at hc
      simp only [List.nil_append, List.cons_append, List.head?_cons, Option.some.injEq] at hc
      subst hc
      decide
    | cons v vs =>
      simp only [List.cons_append, List.head?_cons, Option.some.injEq] at hc
      subst hc
      simpa using hne
  have hskip : (spaces ++ (value ++ lineEnd ++ post)).takeWhile (fun c => decide (c = 32)) =
      spaces := by
    rw [List.takeWhile_append_of_pos (by simpa using hspaces)]
    cases hv : value ++ lineEnd ++ post with
    | nil => simp
    | cons c t =>
      have := hhead c (by simp [hv])
      simp [this.1]
  have hfind : strpbrk (value ++ 13 :: (10 :: post)) lineEnd = some value.length :=
    strpbrk_append_cons (by decide) _ hvalue
  have hquote : (value ++ 13 :: (10 :: post)).head? ≠ some 34 := by
    intro hq
    have := hhead 34 (by rw [hend]; simpa using hq)
    exact this.2 rfl
  rw [httpReqHeaderGetField, hname]
  simp only [hdrop, hskip]
  rw [← hlen, httpReqHeaderGetFieldAt, hrest, if_neg hquote, hfind]

end HttpReq
end Esp32WifiManager
