import Esp32WifiManager.HttpServer.ServeHandleReq
import Esp32WifiManager.Lib.FieldLines

/-!
# Texts of the client

What a client can put into a header field of the response: the value of one of
its own header fields ends before the first CR or LF, and the request line ends
before the first CRLF.
-/

namespace Esp32WifiManager
namespace Auth
namespace ClientText

open CString HttpReq FieldLines

/-! ### Values of header fields -/

theorem strpbrk_take {t accept : Bytes} {i : ℕ} (h : strpbrk t accept = some i) :
    ∀ c ∈ t.take i, c ∉ accept := by
  obtain ⟨-, -, hbefore⟩ := firstSuffix_eq_some.mp h
  intro c hc
  obtain ⟨j, hj, rfl⟩ := List.mem_take_iff_getElem.mp hc
  have hnone := hbefore j (by omega)
  rw [List.head?_drop, List.getElem?_eq_getElem (by omega)] at hnone
  simpa using hnone

theorem clean_of_lineEnd {t : Bytes} (h : ∀ c ∈ t, c ∉ lineEnd) : Clean t := by
  intro c hc
  have hline : lineEnd = [13, 10] := by decide
  have := h c hc
  rw [hline] at this
  simpa using this

theorem headerField_clean {header field : Bytes} {f : HttpReqField}
    (h : httpReqHeaderGetField header field = some f) : Clean (f.value header) := by
  unfold httpReqHeaderGetField at h
  split at h
  · cases h
  · next start _ =>
    dsimp only at h
    generalize start + field.length +
      ((header.drop (start + field.length)).takeWhile (· = 32)).length = val at h
    unfold httpReqHeaderGetFieldAt at h
    split at h
    · dsimp only at h
      split at h
      · cases h
      · next len hlen =>
        split_ifs at h
        obtain rfl := Option.some.inj h
        have hclean : Clean ((header.drop (val + 1)).take len) :=
          clean_of_lineEnd (strpbrk_take hlen)
        refine hclean.of_subset ?_
        exact (List.take_prefix_take_left (Nat.sub_le len 1)).subset
    · split at h
      · cases h
      · next len hlen =>
        obtain rfl := Option.some.inj h
        exact clean_of_lineEnd (strpbrk_take hlen)

/-! ### Cookies -/

theorem strnstr_le {hay needle : Bytes} {len i : ℕ} (h : httpServerStrnstr hay needle len = some i) :
    i ≤ len := by
  unfold httpServerStrnstr at h
  dsimp only at h
  split_ifs at h
  · simp only [Option.some.injEq] at h
    omega
  · have hmem := List.mem_of_find?_eq_some h
    rw [List.mem_range] at hmem
    omega

/-- The value of a cookie is cut out of the cookies. -/
theorem getCookie_subset {cookies cookieName : Bytes} {lenCookies bufSize : ℕ}
    (hsize : bufSize < 4294967296) :
    (httpServerAuthRuuviGetCookie cookies lenCookies cookieName bufSize).2.str ⊆
      cookies.take lenCookies := by
  have hfailed : (CharBuf.zero bufSize).str ⊆ cookies.take lenCookies := by
    rw [CharBuf.str_zero]
    exact List.nil_subset _
  unfold httpServerAuthRuuviGetCookie
  split
  · exact hfailed
  · next begin hbegin =>
    have hbegin := strnstr_le hbegin
    dsimp only
    set pair := (httpServerStrnstr (cookies.drop begin) (ascii ";") (lenCookies - begin)).getD
      (lenCookies - begin) with hpair
    have hpairLe : pair ≤ lenCookies - begin := by
      rw [hpair]
      cases hsemi : httpServerStrnstr (cookies.drop begin) (ascii ";") (lenCookies - begin) with
      | none => simp
      | some i => simpa using strnstr_le hsemi
    split
    · exact hfailed
    · next delimiter hdelimiter =>
      split_ifs with hgt hzero hlong
      · exact hfailed
      · exact hfailed
      · exact hfailed
      · have hlen : delimiter + 1 + sizeSub pair (delimiter + 1) = pair := by
          unfold sizeSub at hlong ⊢
          split_ifs at hlong ⊢ with hle
          · omega
          · omega
        intro c hc
        have hc := CharBuf.mem_str_ofStr hc
        rw [List.drop_drop, List.take_drop] at hc
        exact (List.take_prefix_take_left (by omega)).subset (List.mem_of_mem_drop hc)

/-- The previous url has no line end, whatever the client sends. -/
theorem prevUrl_clean (header : Bytes) :
    Clean (httpServerAuthRuuviGetPrevUrlFromCookies header).str := by
  unfold httpServerAuthRuuviGetPrevUrlFromCookies httpServerAuthRuuviGetCookieFromHeader
  split
  · rw [CharBuf.str_zero]
    exact clean_nil
  · next field hfield =>
    have hvalue := headerField_clean hfield
    exact hvalue.of_subset (getCookie_subset (by decide))

/-! ### The request line -/

/-- There is no CRLF in the text. -/
def NoCrlf (t : Bytes) : Prop := ¬ crlf <:+: t

theorem NoCrlf.of_isInfix {s t : Bytes} (h : NoCrlf t) (hs : s <:+: t) : NoCrlf s :=
  fun hcrlf => h (hcrlf.trans hs)

theorem occurs_of_append {a b t needle : Bytes} (h : a ++ needle ++ b = t) :
    Occurs needle t a.length := by
  rw [Occurs, ← h, List.append_assoc, List.drop_left]
  exact List.prefix_append _ _

@[simp] theorem text_cons {c : UInt8} (hc : c ≠ 0) (m : Bytes) : text (c :: m) = c :: text m := by
  simp [text, hc]

@[simp] theorem text_cons_nul (m : Bytes) : text (0 :: m) = [] := by simp [text]

theorem strAt_eq_drop {m : Bytes} {i : ℕ} (hi : i ≤ (text m).length) :
    strAt m i = (text m).drop i := by
  unfold strAt
  induction m generalizing i with
  | nil => simp [text]
  | cons c m ih =>
    by_cases hc : c = 0
    · subst hc
      rw [text_cons_nul, List.length_nil, Nat.le_zero] at hi
      subst hi
      simp
    · rw [text_cons hc] at hi ⊢
      cases i with
      | zero => simp [hc]
      | succ i => exact ih (Nat.le_of_succ_le_succ hi)

theorem text_set {m : Bytes} {i : ℕ} (hi : i < (text m).length) :
    text (m.set i 0) = (text m).take i := by
  induction m generalizing i with
  | nil => simp [text] at hi
  | cons c m ih =>
    by_cases hc : c = 0
    · subst hc
      simp at hi
    · rw [text_cons hc] at hi ⊢
      cases i with
      | zero => simp
      | succ i =>
        rw [List.set_cons_succ, text_cons hc, List.take_succ_cons, ih (Nat.lt_of_succ_lt_succ hi)]

/-- The text before the first CRLF, or else before the first LF, has no CRLF. -/
theorem findHeader_noCrlf (m : Bytes) : NoCrlf (text (httpReqFindHeader m).1) := by
  unfold httpReqFindHeader
  split
  · next i hi =>
    obtain ⟨hle, hocc, hfirst⟩ := strstr_eq_some.mp hi
    rw [text_set (hocc.lt_length (by decide))]
    rintro ⟨a, b, hab⟩
    have hlen := congrArg List.length hab
    simp only [List.length_append, List.length_take] at hlen
    have htwo : crlf.length = 2 := rfl
    have hwhole : a ++ crlf ++ (b ++ (text m).drop i) = text m := by
      rw [← List.append_assoc, hab, List.take_append_drop]
    exact hfirst a.length (by omega) (occurs_of_append hwhole)
  · next hnone =>
    have hno : NoCrlf (text m) := by
      rintro ⟨a, b, hab⟩
      have hlen := congrArg List.length hab
      simp only [List.length_append] at hlen
      exact strstr_eq_none.mp hnone a.length (by omega) (occurs_of_append hab)
    split
    · next i hi =>
      obtain ⟨-, hocc, -⟩ := strstr_eq_some.mp hi
      rw [text_set (hocc.lt_length (by decide))]
      exact hno.of_isInfix (List.take_prefix i _).isInfix
    · exact hno

theorem strAt_isInfix {m : Bytes} {i : ℕ} (hi : i ≤ (text m).length) : strAt m i <:+: text m := by
  rw [strAt_eq_drop hi]
  exact (List.drop_suffix i _).isInfix

/-- A terminator behind the start of a string cuts it. -/
theorem strAt_set {m : Bytes} {i j : ℕ} (hj : j < (strAt m i).length) :
    strAt (m.set (i + j) 0) i = (strAt m i).take j := by
  have hdrop : (m.set (i + j) 0).drop i = (m.drop i).set j 0 := by
    rw [List.drop_set, if_neg (by omega), Nat.add_sub_cancel_left]
  rw [strAt, hdrop]
  exact text_set hj

theorem strAt_set_before {m : Bytes} {i j : ℕ} (hj : j < i) : strAt (m.set j 0) i = strAt m i := by
  rw [strAt, List.drop_set_of_lt hj, strAt]

/-- The uri is a part of the request line. -/
theorem parseLine_uri {m : Bytes} {header body : ℕ}
    (h : (httpReqParseLine m header body).2.isSuccess = true) :
    (HttpReqInfo.ofPtrs (httpReqParseLine m header body).1
      (httpReqParseLine m header body).2).httpUri <:+: text m := by
  unfold httpReqParseLine at h ⊢
  split at h
  · simp at h
  · next i hi =>
    have hlt := lt_of_strchr hi
    have hstart : strAt (m.set i 0) (i + 1) <:+: text m := by
      rw [strAt_set_before (Nat.lt_succ_self i)]
      exact strAt_isInfix hlt
    dsimp only at h ⊢
    split at h
    · simp at h
    · next j hj =>
      have hcut := strAt_set (lt_of_strchr hj)
      have huri : strAt ((m.set i 0).set (i + 1 + j) 0) (i + 1) <:+: text m := by
        rw [hcut]
        exact (List.take_prefix j _).isInfix.trans hstart
      split
      · exact huri
      · next k hk =>
        have hquery := strAt_set (lt_of_strchr hk)
        simp only [HttpReqInfo.ofPtrs, Option.map_some, Option.getD_some]
        rw [hquery]
        exact (List.take_prefix k _).isInfix.trans huri

/-- No request has a CRLF in its uri. -/
theorem uri_noCrlf {m : Bytes} (h : (httpReqParse m).2.isSuccess = true) :
    NoCrlf (HttpReqInfo.ofPtrs (httpReqParse m).1 (httpReqParse m).2).httpUri := by
  unfold httpReqParse at h ⊢
  split at h
  · simp at h
  · next m' body hbody =>
    exact (findHeader_noCrlf m').of_isInfix (parseLine_uri h)

end ClientText
end Auth
end Esp32WifiManager
