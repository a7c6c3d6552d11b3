import Esp32WifiManager.HttpServer.BoundedSearch
import Esp32WifiManager.HttpServer.ClientText
import Esp32WifiManager.HttpServer.BearerLaw
import Esp32WifiManager.Lib.AccessTrace

/-!
# Slices of the header

The value of a header field is a pointer into the header with a length, and what
the handlers do with it is pointer arithmetic on the whole text. Each routine is
run here together with the accesses that it makes.
-/

namespace Esp32WifiManager
namespace Auth
namespace HeaderSlices

open CString HttpReq AccessTrace

variable (header : Bytes)

/-! ### Looking a field up -/

/-- The returned pointer and `*p_len`. -/
def httpReqHeaderGetFieldAtTraced (val : ℕ) : (Option ℕ × ℕ) × List Access :=
  if (header.drop val).head? = some 34 then
    let val := val + 1
    let reads := scanText header val
    match strpbrk (header.drop val) lineEnd with
    | none => ((none, 0), reads)
    | some len =>
      if len = 0 then ((none, 0), reads)
      else
        let reads := reads ++ examined (val + len - 1) 1
        if header[val + len - 1]? ≠ some 34 then ((none, 0), reads)
        else ((some val, len - 1), reads)
  else
    let reads := scanText header val
    match strpbrk (header.drop val) lineEnd with
    | none => ((none, 0), reads)
    | some len => ((some val, len), reads)

def httpReqHeaderGetFieldTraced (field : Bytes) : (Option ℕ × ℕ) × List Access :=
  let reads := scanText header 0
  match strcasestr header field with
  | none => ((none, 0), reads)
  | some start =>
    let val := start + field.length
    let spaces := ((header.drop val).takeWhile (· = 32)).length
    -- the byte behind the spaces ends the loop and is compared with a quote
    let reads := reads ++ examined val (spaces + 1)
    let (out, more) := httpReqHeaderGetFieldAtTraced header (val + spaces)
    (out, reads ++ more)

/-- `NULL` with the length 0, or a slice of the header that stays in its line. -/
def IsSlice : Option ℕ × ℕ → Prop
  | (none, len) => len = 0
  | (some ptr, len) => ptr + len ≤ header.length ∧
      ∀ c ∈ (header.drop ptr).take len, c ≠ 13 ∧ c ≠ 10

/-! ### Bounded searches -/

/-- The loop of `http_server_strnstr` over the offsets that are left. -/
def strnstrScan (needle : Bytes) (needleLen haystack : ℕ) : List ℕ → Option ℕ × List Access
  | [] => (none, [])
  | i :: is =>
    let reads := strncmpTrace header (haystack + i) needle needleLen
    if strncmpEq (header.drop (haystack + i)) needle needleLen then (some i, reads)
    else
      let (res, more) := strnstrScan needle needleLen haystack is
      (res, reads ++ more)

/-- The haystack is an offset of the header. -/
def httpServerStrnstrTraced (haystack : ℕ) (needle : Bytes) (len : ℕ) : Option ℕ × List Access :=
  let needleLen := min needle.length len
  if needleLen = 0 then (some 0, [])
  else
    let maxOffset := len - needleLen
    strnstrScan header needle needleLen haystack (List.range (maxOffset + 1))

/-! ### Tokens that are compared with a secret -/

def httpServerAuthTokenIsTraced (authToken authTokenLen : ℕ) (key : Bytes) : Bool × List Access :=
  if key ≠ [] ∧ authTokenLen = key.length then
    (strncmpEq (header.drop authToken) key authTokenLen,
      taken authToken (strncmpReads (header.drop authToken) key authTokenLen))
  else (false, [])

def httpServerHandleReqCheckAuthBearerTraced (flagCheckRwAccess : Bool)
    (authInfo : HttpServerAuthInfo) : HttpServerAuthApiKey × List Access :=
  match httpReqHeaderGetFieldTraced header (ascii "Authorization:") with
  | ((none, _), reads) => (.notUsed, reads)
  | ((some ptr, len), reads) =>
    let authPrefix := ascii "Bearer "
    let reads := reads ++ strncmpTrace header ptr authPrefix authPrefix.length
    if !strncmpEq (header.drop ptr) authPrefix authPrefix.length then (.notUsed, reads)
    else
      let authToken := ptr + authPrefix.length
      let authTokenLen := sizeSub len authPrefix.length
      let reads := reads ++ [.subtract len authPrefix.length]
      let (isRw, readsRw) :=
        httpServerAuthTokenIsTraced header authToken authTokenLen authInfo.authApiKeyRw
      if isRw then (.allowed, reads ++ readsRw)
      else if flagCheckRwAccess then (.prohibited, reads ++ readsRw)
      else
        let (isRo, readsRo) :=
          httpServerAuthTokenIsTraced header authToken authTokenLen authInfo.authApiKey
        (if isRo then .allowed else .prohibited, reads ++ readsRw ++ readsRo)

/-- Whether the token of `Basic` is the password. -/
def httpServerHandleReqGetAuthBasicTraced (authPass : Bytes) : Bool × List Access :=
  match httpReqHeaderGetFieldTraced header (ascii "Authorization:") with
  | ((none, _), reads) => (false, reads)
  | ((some ptr, len), reads) =>
    let authPrefix := ascii "Basic "
    let reads := reads ++ strncmpTrace header ptr authPrefix authPrefix.length
    if !strncmpEq (header.drop ptr) authPrefix authPrefix.length then (false, reads)
    else
      let authToken := ptr + authPrefix.length
      let authTokenLen := sizeSub len authPrefix.length
      let reads := reads ++ [.subtract len authPrefix.length]
      if authTokenLen ≠ authPass.length then (false, reads)
      else
        (strncmpEq (header.drop authToken) authPass authTokenLen,
          reads ++ taken authToken (strncmpReads (header.drop authToken) authPass authTokenLen))

/-! ### Directives -/

/-- The offset of the token from `str` on and its length. -/
def httpServerParseTokenTraced (str len : ℕ) (tokenPrefix tokenSuffix : Bytes) (bufSize : ℕ) :
    Option (ℕ × ℕ) × List Access :=
  match httpServerStrnstrTraced header str tokenPrefix len with
  | (none, reads) => (none, reads)
  | (some at₁, reads) =>
    let idx1 := at₁ + tokenPrefix.length
    let reads := reads ++ [.subtract len idx1]
    match httpServerStrnstrTraced header (str + idx1) tokenSuffix (sizeSub len idx1) with
    | (none, more) => (none, reads ++ more)
    | (some tokenLen, more) =>
      if tokenLen ≥ bufSize then (none, reads ++ more)
      else (some (idx1, tokenLen), reads ++ more ++ taken (str + idx1) tokenLen)

/-- The directives in the order in which they are read. -/
def parseTokensTraced (str len : ℕ) : List (Bytes × Bytes × ℕ) → Bool × List Access
  | [] => (true, [])
  | (tokenPrefix, tokenSuffix, bufSize) :: tokens =>
    match httpServerParseTokenTraced header str len tokenPrefix tokenSuffix bufSize with
    | (none, reads) => (false, reads)
    | (some _, reads) =>
      let (res, more) := parseTokensTraced str len tokens
      (res, reads ++ more)

def digestTokens : List (Bytes × Bytes × ℕ) := [
  (ascii "username=\"", ascii "\"", 65),
  (ascii "realm=\"", ascii "\"", 65),
  (ascii "nonce=\"", ascii "\"", 81),
  (ascii "uri=\"", ascii "\"", 65),
  (ascii "qop=", ascii ",", 33),
  (ascii "nc=", ascii ",", 17),
  (ascii "cnonce=\"", ascii "\"", 33),
  (ascii "response=\"", ascii "\"", 65),
  (ascii "opaque=\"", ascii "\"", 81)]

def httpServerParseDigestAuthorizationStrTraced (authorization len : ℕ) : Bool × List Access :=
  let authPrefix := ascii "Digest "
  let reads := strncmpTrace header authorization authPrefix authPrefix.length
  if !strncmpEq (header.drop authorization) authPrefix authPrefix.length then (false, reads)
  else
    let (res, more) := parseTokensTraced header authorization len digestTokens
    (res, reads ++ more)

/-- The directives of the `Authorization` field. -/
def digestOfHeaderTraced : Bool × List Access :=
  match httpReqHeaderGetFieldTraced header (ascii "Authorization:") with
  | ((none, _), reads) => (false, reads)
  | ((some ptr, len), reads) =>
    let (res, more) := httpServerParseDigestAuthorizationStrTraced header ptr len
    (res, reads ++ more)

/-! ### Cookies -/

/-- The offset of the value from `cookies` on and its length. -/
def httpServerAuthRuuviGetCookieTraced (cookies lenCookies : ℕ) (cookieName : Bytes)
    (bufSize : ℕ) : Option (ℕ × ℕ) × List Access :=
  match httpServerStrnstrTraced header cookies cookieName lenCookies with
  | (none, reads) => (none, reads)
  | (some cookieBegin, reads) =>
    let reads := reads ++ [.subtract lenCookies cookieBegin]
    let lenTillEol := lenCookies - cookieBegin
    let cookie := cookies + cookieBegin
    let (endOfCookie, readsEnd) := httpServerStrnstrTraced header cookie (ascii ";") lenTillEol
    let lenOfCookiePair := endOfCookie.getD lenTillEol
    let reads := reads ++ readsEnd
    match httpServerStrnstrTraced header cookie (ascii "=") lenOfCookiePair with
    | (none, more) => (none, reads ++ more)
    | (some delimiter, more) =>
      if delimiter > lenOfCookiePair then (none, reads ++ more)
      else
        -- the pair is empty when the slice is: the length wraps, and is then too long
        let cookieLen := sizeSub lenOfCookiePair (delimiter + 1)
        if cookieLen = 0 then (none, reads ++ more)
        else if cookieLen ≥ bufSize then (none, reads ++ more)
        else
          (some (cookieBegin + (delimiter + 1), cookieLen),
            reads ++ more ++ taken (cookie + (delimiter + 1)) cookieLen)

def httpServerAuthRuuviGetCookieFromHeaderTraced (cookieName : Bytes) (bufSize : ℕ) :
    Option (ℕ × ℕ) × List Access :=
  match httpReqHeaderGetFieldTraced header (ascii "Cookie:") with
  | ((none, _), reads) => (none, reads)
  | ((some ptr, len), reads) =>
    let (res, more) := httpServerAuthRuuviGetCookieTraced header ptr len cookieName bufSize
    (res, reads ++ more)

/-! ### The traced routines compute the same -/

section Value

variable {header : Bytes}

theorem httpReqHeaderGetFieldAtTraced_value (header : Bytes) (val : ℕ) :
    (httpReqHeaderGetFieldAtTraced header val).1 =
      ((httpReqHeaderGetFieldAt header val).map HttpReqField.ptr,
        ((httpReqHeaderGetFieldAt header val).map HttpReqField.len).getD 0) := by
  unfold httpReqHeaderGetFieldAtTraced httpReqHeaderGetFieldAt
  split_ifs with hquote
  · cases hend : strpbrk (header.drop (val + 1)) lineEnd with
    | none => simp [hend]
    | some len =>
      simp only [hend]
      split_ifs <;> rfl
  · cases strpbrk (header.drop val) lineEnd <;> simp

theorem httpReqHeaderGetFieldTraced_value (header field : Bytes) :
    (httpReqHeaderGetFieldTraced header field).1 =
      ((httpReqHeaderGetField header field).map HttpReqField.ptr,
        ((httpReqHeaderGetField header field).map HttpReqField.len).getD 0) := by
  unfold httpReqHeaderGetFieldTraced httpReqHeaderGetField
  cases hfind : strcasestr header field with
  | none => rfl
  | some start => exact httpReqHeaderGetFieldAtTraced_value header _

/-- The two outcomes of the lookup, with the trace. -/
theorem httpReqHeaderGetFieldTraced_cases (header field : Bytes) :
    (httpReqHeaderGetField header field = none ∧ ∃ reads,
      httpReqHeaderGetFieldTraced header field = ((none, 0), reads)) ∨
    ∃ f reads, httpReqHeaderGetField header field = some f ∧
      httpReqHeaderGetFieldTraced header field = ((some f.ptr, f.len), reads) := by
  have hvalue := httpReqHeaderGetFieldTraced_value header field
  cases hfield : httpReqHeaderGetField header field with
  | none =>
    rw [hfield] at hvalue
    exact .inl ⟨rfl, _, Prod.ext hvalue rfl⟩
  | some f =>
    rw [hfield] at hvalue
    exact .inr ⟨f, _, rfl, Prod.ext hvalue rfl⟩

theorem strnstrScan_value (header needle : Bytes) (needleLen haystack : ℕ) (is : List ℕ) :
    (strnstrScan header needle needleLen haystack is).1 =
      is.find? fun i => strncmpEq ((header.drop haystack).drop i) needle needleLen := by
  induction is with
  | nil => rfl
  | cons i is ih =>
    rw [strnstrScan, List.find?_cons, List.drop_drop]
    cases strncmpEq (header.drop (haystack + i)) needle needleLen with
    | true => rfl
    | false => exact ih

theorem httpServerStrnstrTraced_value (header : Bytes) (haystack : ℕ) (needle : Bytes) (len : ℕ) :
    (httpServerStrnstrTraced header haystack needle len).1 =
      httpServerStrnstr (header.drop haystack) needle len := by
  unfold httpServerStrnstrTraced httpServerStrnstr
  dsimp only
  split_ifs
  · rfl
  · exact strnstrScan_value header needle _ haystack _

theorem httpServerAuthTokenIsTraced_value (header : Bytes) (authToken authTokenLen : ℕ)
    (key : Bytes) : (httpServerAuthTokenIsTraced header authToken authTokenLen key).1 =
      httpServerAuthTokenIs (header.drop authToken) authTokenLen key := by
  unfold httpServerAuthTokenIsTraced httpServerAuthTokenIs
  split_ifs with h
  · simp [h.1, h.2]
  · rcases not_and_or.mp h with hkey | hlen
    · simp [hkey]
    · simp [hlen]

theorem httpServerHandleReqCheckAuthBearerTraced_value (header : Bytes) (flagCheckRwAccess : Bool)
    (authInfo : HttpServerAuthInfo) :
    (httpServerHandleReqCheckAuthBearerTraced header flagCheckRwAccess authInfo).1 =
      httpServerHandleReqCheckAuthBearer header flagCheckRwAccess authInfo := by
  unfold httpServerHandleReqCheckAuthBearerTraced httpServerHandleReqCheckAuthBearer
  rcases httpReqHeaderGetFieldTraced_cases header (ascii "Authorization:") with
    ⟨hfield, reads, htraced⟩ | ⟨f, reads, hfield, htraced⟩
  · rw [hfield, htraced]
  · rw [hfield, htraced]
    dsimp only
    rw [List.drop_drop, ← httpServerAuthTokenIsTraced_value, ← httpServerAuthTokenIsTraced_value]
    cases strncmpEq (header.drop f.ptr) (ascii "Bearer ") (ascii "Bearer ").length with
    | false => rfl
    | true =>
      rcases httpServerAuthTokenIsTraced header (f.ptr + (ascii "Bearer ").length)
        (sizeSub f.len (ascii "Bearer ").length) authInfo.authApiKeyRw with ⟨_ | _, readsRw⟩
      · rcases httpServerAuthTokenIsTraced header (f.ptr + (ascii "Bearer ").length)
          (sizeSub f.len (ascii "Bearer ").length) authInfo.authApiKey with ⟨_ | _, readsRo⟩ <;>
        cases flagCheckRwAccess <;> rfl
      · rfl

theorem httpServerHandleReqGetAuthBasicTraced_value (plat : Platform)
    (param : HttpServerHandleReqAuthParam) (s : HttpServerState) :
    httpServerHandleReqGetAuthBasic plat param s =
      if (httpServerHandleReqGetAuthBasicTraced param.httpHeader s.authInfo.authPass).1 then
        (httpServerResp200Json
          (httpServerFillAuthJson plat s.hostinfo .basic param.flagAccessFromLan none true), s)
      else httpServerResp401AuthBasic plat s := by
  unfold httpServerHandleReqGetAuthBasicTraced httpServerHandleReqGetAuthBasic
  rcases httpReqHeaderGetFieldTraced_cases param.httpHeader (ascii "Authorization:") with
    ⟨hfield, reads, htraced⟩ | ⟨f, reads, hfield, htraced⟩
  · rw [hfield, htraced]
    rfl
  · rw [hfield, htraced]
    dsimp only
    rw [List.drop_drop]
    split_ifs <;> simp_all

/-- The bytes that the token leaves in its buffer. -/
def tokenBuf {n : ℕ} (m : Bytes) (k : ℕ) (buf : CharBuf n) : CharBuf n :=
  Vector.ofFn fun i =>
    if i.1 < k then (m.take k).getD i 0 else if i.1 = k then 0 else buf.get i

theorem httpServerParseTokenTraced_value (header : Bytes) (str len : ℕ)
    (tokenPrefix tokenSuffix : Bytes) {n : ℕ} (buf : CharBuf n) :
    httpServerParseToken (header.drop str) len tokenPrefix tokenSuffix buf =
      (httpServerParseTokenTraced header str len tokenPrefix tokenSuffix n).1.map fun r =>
        tokenBuf (header.drop (str + r.1)) r.2 buf := by
  unfold httpServerParseToken httpServerParseTokenTraced
  rw [← httpServerStrnstrTraced_value]
  rcases httpServerStrnstrTraced header str tokenPrefix len with ⟨_ | at₁, reads⟩
  · rfl
  · dsimp only
    rw [List.drop_drop, ← httpServerStrnstrTraced_value]
    rcases httpServerStrnstrTraced header (str + (at₁ + tokenPrefix.length)) tokenSuffix
      (sizeSub len (at₁ + tokenPrefix.length)) with ⟨_ | tokenLen, more⟩
    · rfl
    · dsimp only
      split_ifs <;> rfl

/-- All directives are read just when they are all found. -/
theorem httpServerParseDigestAuthorizationStrTraced_value (header : Bytes)
    (authorization len : ℕ) (req : HttpServerAuthDigestReq) :
    (httpServerParseDigestAuthorizationStrTraced header authorization len).1 =
      (httpServerParseDigestAuthorizationStr (header.drop authorization) len req).1 := by
  unfold httpServerParseDigestAuthorizationStrTraced httpServerParseDigestAuthorizationStr
  dsimp only
  cases strncmpEq (header.drop authorization) (ascii "Digest ") (ascii "Digest ").length with
  | false => rfl
  | true =>
    simp only [Bool.not_true, Bool.false_eq_true, if_false, httpServerParseTokenTraced_value,
      parseTokensTraced, digestTokens]
    iterate 9
      generalize httpServerParseTokenTraced header authorization len _ _ _ = res
      rcases res with ⟨_ | res, reads⟩
      · rfl
      simp only [Option.map_some]

theorem httpServerAuthRuuviGetCookieTraced_value (header : Bytes) (cookies lenCookies : ℕ)
    (cookieName : Bytes) (n : ℕ) :
    httpServerAuthRuuviGetCookie (header.drop cookies) lenCookies cookieName n =
      match (httpServerAuthRuuviGetCookieTraced header cookies lenCookies cookieName n).1 with
      | none => (false, .zero n)
      | some r => (true, .ofStr n ((header.drop (cookies + r.1)).take r.2)) := by
  unfold httpServerAuthRuuviGetCookie httpServerAuthRuuviGetCookieTraced
  rw [← httpServerStrnstrTraced_value]
  rcases httpServerStrnstrTraced header cookies cookieName lenCookies with ⟨_ | cookieBegin, reads⟩
  · rfl
  · dsimp only
    rw [List.drop_drop, ← httpServerStrnstrTraced_value, ← httpServerStrnstrTraced_value]
    rcases httpServerStrnstrTraced header (cookies + cookieBegin) (ascii "=")
      ((httpServerStrnstrTraced header (cookies + cookieBegin) (ascii ";")
        (lenCookies - cookieBegin)).1.getD (lenCookies - cookieBegin)) with ⟨_ | delimiter, more⟩
    · rfl
    · dsimp only
      split_ifs
      · rfl
      · rfl
      · rfl
      · simp only [List.drop_drop, Nat.add_assoc]

end Value

/-! ### The slice -/

section Slice

variable {header field : Bytes} {f : HttpReqField}

theorem strpbrk_split {hay accept : Bytes} {k : ℕ} (h : strpbrk hay accept = some k) :
    ∃ c t, hay = hay.take k ++ c :: t ∧ c ∈ accept ∧ (hay.take k).length = k := by
  obtain ⟨hle, hc, -⟩ := firstSuffix_eq_some.mp h
  cases hrest : hay.drop k with
  | nil => simp [hrest] at hc
  | cons c t =>
    rw [hrest] at hc
    refine ⟨c, t, ?_, by simpa using hc, List.length_take_of_le hle⟩
    rw [← hrest, List.take_append_drop]

/-- What ends a slice: the end of the line, or the quote before it. -/
theorem exists_slice (h : httpReqHeaderGetField header field = some f) :
    ∃ slice c t, header.drop f.ptr = slice ++ c :: t ∧ slice.length = f.len ∧
      (∀ x ∈ slice, x ∉ lineEnd) ∧ (c ∈ lineEnd ∨ c = 34) := by
  unfold httpReqHeaderGetField at h
  split at h
  · cases h
  · next start _ =>
    dsimp only at h
    generalize start + field.length +
      ((header.drop (start + field.length)).takeWhile (· = 32)).length = val at h
    unfold httpReqHeaderGetFieldAt at h
    split at h
    · dsimp only at h
      split at h
      · cases h
      · next len hlen =>
        split_ifs at h with hzero hquote
        obtain rfl := Option.some.inj h
        obtain ⟨c, t, hsplit, -, htake⟩ := strpbrk_split hlen
        -- the quote is the last byte before the end of the line
        have hlast : (header.drop (val + 1))[len - 1]? = some 34 := by
          rw [List.getElem?_drop, ← Nat.add_sub_assoc (by omega)]
          exact not_not.mp hquote
        obtain ⟨hlt, hbyte⟩ := List.getElem?_eq_some_iff.mp hlast
        refine ⟨(header.drop (val + 1)).take (len - 1), 34,
          (header.drop (val + 1)).drop (len - 1 + 1), ?_, ?_, ?_, .inr rfl⟩
        · rw [← hbyte, ← List.drop_eq_getElem_cons hlt, List.take_append_drop]
        · exact List.length_take_of_le hlt.le
        · intro x hx
          exact ClientText.strpbrk_take hlen x
            ((List.take_prefix_take_left (Nat.sub_le len 1)).subset hx)
    · split at h
      · cases h
      · next len hlen =>
        obtain rfl := Option.some.inj h
        obtain ⟨c, t, hsplit, hc, htake⟩ := strpbrk_split hlen
        exact ⟨_, c, t, hsplit, htake, ClientText.strpbrk_take hlen, .inl hc⟩

theorem slice_lt_length (h : httpReqHeaderGetField header field = some f) :
    f.ptr + f.len < header.length := by
  obtain ⟨slice, c, t, hdrop, hlen, -, -⟩ := exists_slice h
  have hlength := congrArg List.length hdrop
  rw [List.length_drop, List.length_append, List.length_cons, hlen] at hlength
  omega

/-- A scheme that the text starts with at the slice fits into the slice. -/
theorem scheme_isPrefix {scheme : Bytes} (h : httpReqHeaderGetField header field = some f)
    (hline : ∀ x ∈ scheme, x ∉ lineEnd ∧ x ≠ 34)
    (hstart : strncmpEq (header.drop f.ptr) scheme scheme.length = true) :
    scheme <+: (header.drop f.ptr).take f.len := by
  obtain ⟨slice, c, t, hdrop, hlen, -, hc⟩ := exists_slice h
  rw [strncmpEq_iff, List.take_length, hdrop] at hstart
  have hscheme : scheme <+: slice ++ c :: t := by
    rw [List.prefix_iff_eq_take, hstart]
  have hnot : c ∉ scheme := by
    intro hmem
    obtain ⟨hend, hquote⟩ := hline c hmem
    rcases hc with hc | hc
    · exact hend hc
    · exact hquote hc
  rw [hdrop, ← hlen, List.take_left]
  exact (prefix_append_cons_iff hnot slice t).mp hscheme

theorem length_slice (h : httpReqHeaderGetField header field = some f) :
    ((header.drop f.ptr).take f.len).length = f.len :=
  httpReqHeaderGetField_value_length h

end Slice

/-! ### The accesses -/

section Accesses

variable {header field : Bytes} {f : HttpReqField} {ptr len : ℕ}

theorem safe_httpReqHeaderGetFieldAtTraced {val : ℕ} (hval : val ≤ header.length) :
    Safe header.length ptr len (httpReqHeaderGetFieldAtTraced header val).2 := by
  unfold httpReqHeaderGetFieldAtTraced
  split_ifs with hquote
  · have hlt : val < header.length := by
      by_contra hle
      rw [List.drop_eq_nil_of_le (Nat.not_lt.mp hle)] at hquote
      exact absurd hquote (by simp)
    have hscan : Safe header.length ptr len (scanText header (val + 1)) := safe_scanText hlt
    dsimp only
    cases hend : strpbrk (header.drop (val + 1)) lineEnd with
    | none => exact hscan
    | some k =>
      have hk := strpbrk_le_length hend
      rw [List.length_drop] at hk
      dsimp only
      split_ifs
      · exact hscan
      · exact safe_append.mpr ⟨hscan, safe_examined (by omega)⟩
      · exact safe_append.mpr ⟨hscan, safe_examined (by omega)⟩
  · cases strpbrk (header.drop val) lineEnd <;> exact safe_scanText hval

theorem safe_httpReqHeaderGetFieldTraced (header field : Bytes) :
    Safe header.length ptr len (httpReqHeaderGetFieldTraced header field).2 := by
  unfold httpReqHeaderGetFieldTraced
  have hscan : Safe header.length ptr len (scanText header 0) := safe_scanText (Nat.zero_le _)
  cases hfind : strcasestr header field with
  | none => exact hscan
  | some start =>
    have hstart := strstr_length_le hfind
    rw [List.length_map, List.length_map] at hstart
    have hspaces := (List.takeWhile_prefix (l := header.drop (start + field.length))
      (· = (32 : UInt8))).length_le
    rw [List.length_drop] at hspaces
    refine safe_append.mpr ⟨safe_append.mpr ⟨hscan, safe_examined (by omega)⟩, ?_⟩
    exact safe_httpReqHeaderGetFieldAtTraced (by omega)

theorem isSlice_httpReqHeaderGetFieldTraced (header field : Bytes) :
    IsSlice header (httpReqHeaderGetFieldTraced header field).1 := by
  rcases httpReqHeaderGetFieldTraced_cases header field with
    ⟨-, reads, htraced⟩ | ⟨f, reads, hfield, htraced⟩
  · rw [htraced]
    exact rfl
  · rw [htraced]
    exact ⟨(slice_lt_length hfield).le, ClientText.headerField_clean hfield⟩

theorem safe_strnstrScan (needle : Bytes) (needleLen : ℕ) {haystack : ℕ} (is : List ℕ)
    (h : ∀ i ∈ is, haystack + i ≤ header.length) :
    Safe header.length ptr len (strnstrScan header needle needleLen haystack is).2 := by
  induction is with
  | nil => exact safe_nil
  | cons i is ih =>
    obtain ⟨hi, his⟩ := List.forall_mem_cons.mp h
    rw [strnstrScan]
    split_ifs
    · exact safe_strncmpTrace hi needle needleLen
    · exact safe_append.mpr ⟨safe_strncmpTrace hi needle needleLen, ih his⟩

theorem safe_httpServerStrnstrTraced {haystack n : ℕ} (needle : Bytes)
    (h : haystack + n ≤ header.length) :
    Safe header.length ptr len (httpServerStrnstrTraced header haystack needle n).2 := by
  unfold httpServerStrnstrTraced
  dsimp only
  split_ifs
  · exact safe_nil
  · refine safe_strnstrScan needle _ _ ?_
    intro i hi
    rw [List.mem_range] at hi
    omega

theorem safe_httpServerAuthTokenIsTraced {authToken authTokenLen : ℕ} (key : Bytes)
    (hptr : ptr ≤ authToken) (hend : authToken + authTokenLen ≤ ptr + len) :
    Safe header.length ptr len
      (httpServerAuthTokenIsTraced header authToken authTokenLen key).2 := by
  unfold httpServerAuthTokenIsTraced
  split_ifs
  · have hle := strncmpReads_le (header.drop authToken) key authTokenLen
    exact safe_taken hptr (by omega)
  · exact safe_nil

end Accesses

/-! ### The handlers -/

/-- The accesses of a handler are safe for the slice of the field that it looks at. -/
def SafeFor (field : Bytes) (trace : List Access) : Prop :=
  let slice := (httpReqHeaderGetFieldTraced header field).1
  Safe header.length (slice.1.getD 0) slice.2 trace

section Handlers

variable {header field : Bytes} {f : HttpReqField} {reads trace : List Access}

theorem safeFor_some (h : httpReqHeaderGetFieldTraced header field = ((some f.ptr, f.len), reads)) :
    SafeFor header field trace ↔ Safe header.length f.ptr f.len trace := by
  rw [SafeFor, h]
  rfl

theorem safeFor_reads {out : Option ℕ × ℕ}
    (h : httpReqHeaderGetFieldTraced header field = (out, reads)) : SafeFor header field reads := by
  have hreads := congrArg Prod.snd h
  dsimp only at hreads
  rw [← hreads]
  exact safe_httpReqHeaderGetFieldTraced header field

/-- The bytes of the prefix are examined in the text, and the prefix fits into the slice. -/
theorem safe_scheme (scheme : Bytes) (h : httpReqHeaderGetField header field = some f)
    (hline : ∀ x ∈ scheme, x ∉ lineEnd ∧ x ≠ 34) :
    Safe header.length f.ptr f.len (strncmpTrace header f.ptr scheme scheme.length) ∧
      (strncmpEq (header.drop f.ptr) scheme scheme.length = true → scheme.length ≤ f.len) := by
  have hlt := slice_lt_length h
  refine ⟨safe_strncmpTrace (by omega) scheme _, ?_⟩
  intro hstart
  have hle := (scheme_isPrefix h hline hstart).length_le
  rwa [length_slice h] at hle

theorem safeFor_bearer (header : Bytes) (flagCheckRwAccess : Bool) (authInfo : HttpServerAuthInfo) :
    SafeFor header (ascii "Authorization:")
      (httpServerHandleReqCheckAuthBearerTraced header flagCheckRwAccess authInfo).2 := by
  unfold httpServerHandleReqCheckAuthBearerTraced
  rcases httpReqHeaderGetFieldTraced_cases header (ascii "Authorization:") with
    ⟨-, reads, htraced⟩ | ⟨f, reads, hfield, htraced⟩
  · rw [htraced]
    exact safeFor_reads htraced
  · have hreads := (safeFor_some htraced).mp (safeFor_reads htraced)
    obtain ⟨hscheme, hfits⟩ := safe_scheme (ascii "Bearer ") hfield (by decide)
    rw [safeFor_some htraced, htraced]
    dsimp only
    cases hstart : strncmpEq (header.drop f.ptr) (ascii "Bearer ") (ascii "Bearer ").length with
    | false => exact safe_append.mpr ⟨hreads, hscheme⟩
    | true =>
      have hlen := hfits hstart
      have hsub : sizeSub f.len (ascii "Bearer ").length = f.len - (ascii "Bearer ").length :=
        if_pos hlen
      have htoken (key : Bytes) : Safe header.length f.ptr f.len
          (httpServerAuthTokenIsTraced header (f.ptr + (ascii "Bearer ").length)
            (sizeSub f.len (ascii "Bearer ").length) key).2 :=
        safe_httpServerAuthTokenIsTraced key (by omega) (by omega)
      simp only [Bool.not_true, Bool.false_eq_true, if_false]
      split_ifs <;> simp [hreads, hscheme, hlen, htoken]

theorem safeFor_basic (header authPass : Bytes) :
    SafeFor header (ascii "Authorization:")
      (httpServerHandleReqGetAuthBasicTraced header authPass).2 := by
  unfold httpServerHandleReqGetAuthBasicTraced
  rcases httpReqHeaderGetFieldTraced_cases header (ascii "Authorization:") with
    ⟨-, reads, htraced⟩ | ⟨f, reads, hfield, htraced⟩
  · rw [htraced]
    exact safeFor_reads htraced
  · have hreads := (safeFor_some htraced).mp (safeFor_reads htraced)
    obtain ⟨hscheme, hfits⟩ := safe_scheme (ascii "Basic ") hfield (by decide)
    rw [safeFor_some htraced, htraced]
    dsimp only
    cases hstart : strncmpEq (header.drop f.ptr) (ascii "Basic ") (ascii "Basic ").length with
    | false => exact safe_append.mpr ⟨hreads, hscheme⟩
    | true =>
      have hlen := hfits hstart
      have hsub : sizeSub f.len (ascii "Basic ").length = f.len - (ascii "Basic ").length :=
        if_pos hlen
      have hle := strncmpReads_le (header.drop (f.ptr + (ascii "Basic ").length)) authPass
        (sizeSub f.len (ascii "Basic ").length)
      have htoken : Safe header.length f.ptr f.len (taken (f.ptr + (ascii "Basic ").length)
          (strncmpReads (header.drop (f.ptr + (ascii "Basic ").length)) authPass
            (sizeSub f.len (ascii "Basic ").length))) :=
        safe_taken (by omega) (by omega)
      simp only [Bool.not_true, Bool.false_eq_true, if_false]
      split_ifs <;> simp [hreads, hscheme, hlen, htoken]

/-! ### Directives and cookies -/

section Token

variable {str len : ℕ} {tokenPrefix : Bytes}

/-- A directive is found inside a slice that is not the beginning of its search text. -/
theorem strnstr_fits (hslice : str + len ≤ header.length) (hne : tokenPrefix ≠ [])
    (hnot : ¬ (header.drop str).take len <+: tokenPrefix) {i : ℕ}
    (h : (httpServerStrnstrTraced header str tokenPrefix len).1 = some i) :
    i + tokenPrefix.length ≤ len := by
  have hlen : ((header.drop str).take len).length = len := by
    rw [List.length_take, List.length_drop]
    omega
  have hfirst := (findsFirst_httpServerStrnstr ((header.drop str).drop len) hne).mpr (.inr hnot)
  rw [List.take_append_drop, hlen, ← httpServerStrnstrTraced_value, h] at hfirst
  exact hlen ▸ hfirst.1

theorem safe_httpServerParseTokenTraced (hslice : str + len ≤ header.length)
    (hne : tokenPrefix ≠ []) (hnot : ¬ (header.drop str).take len <+: tokenPrefix)
    (tokenSuffix : Bytes) (bufSize : ℕ) :
    Safe header.length str len
      (httpServerParseTokenTraced header str len tokenPrefix tokenSuffix bufSize).2 := by
  have hreads : Safe header.length str len
      (httpServerStrnstrTraced header str tokenPrefix len).2 :=
    safe_httpServerStrnstrTraced tokenPrefix hslice
  have hfits : ∀ i, (httpServerStrnstrTraced header str tokenPrefix len).1 = some i →
      i + tokenPrefix.length ≤ len := fun i => strnstr_fits hslice hne hnot
  unfold httpServerParseTokenTraced
  rcases hfind : httpServerStrnstrTraced header str tokenPrefix len with ⟨_ | at₁, reads⟩
  · rw [hfind] at hreads
    exact hreads
  · rw [hfind] at hreads hfits
    have hidx : at₁ + tokenPrefix.length ≤ len := hfits at₁ rfl
    have hsub : sizeSub len (at₁ + tokenPrefix.length) = len - (at₁ + tokenPrefix.length) :=
      if_pos hidx
    dsimp only
    rw [hsub]
    have hmore : Safe header.length str len
        (httpServerStrnstrTraced header (str + (at₁ + tokenPrefix.length)) tokenSuffix
          (len - (at₁ + tokenPrefix.length))).2 :=
      safe_httpServerStrnstrTraced tokenSuffix (by omega)
    have hend := httpServerStrnstrTraced_value header (str + (at₁ + tokenPrefix.length)) tokenSuffix
      (len - (at₁ + tokenPrefix.length))
    rcases hfindEnd : httpServerStrnstrTraced header (str + (at₁ + tokenPrefix.length)) tokenSuffix
      (len - (at₁ + tokenPrefix.length)) with ⟨_ | tokenLen, more⟩
    · rw [hfindEnd] at hmore
      simp [hreads, hidx, hmore]
    · rw [hfindEnd] at hmore hend
      have htokenLen := ClientText.strnstr_le hend.symm
      have htaken : Safe header.length str len (taken (str + (at₁ + tokenPrefix.length)) tokenLen) :=
        safe_taken (by omega) (by omega)
      dsimp only
      split_ifs <;> simp [hreads, hidx, hmore, htaken]

theorem safe_parseTokensTraced (hslice : str + len ≤ header.length)
    (tokens : List (Bytes × Bytes × ℕ))
    (h : ∀ token ∈ tokens, token.1 ≠ [] ∧ ¬ (header.drop str).take len <+: token.1) :
    Safe header.length str len (parseTokensTraced header str len tokens).2 := by
  induction tokens with
  | nil => exact safe_nil
  | cons token tokens ih =>
    obtain ⟨⟨hne, hnot⟩, htokens⟩ := List.forall_mem_cons.mp h
    obtain ⟨tokenPrefix, tokenSuffix, bufSize⟩ := token
    have hreads := safe_httpServerParseTokenTraced hslice hne hnot tokenSuffix bufSize
    rw [parseTokensTraced]
    rcases hread : httpServerParseTokenTraced header str len tokenPrefix tokenSuffix bufSize with
      ⟨_ | r, reads⟩
    · rw [hread] at hreads
      exact hreads
    · rw [hread] at hreads
      exact safe_append.mpr ⟨hreads, ih htokens⟩

/-- The length of a value may wrap, but then nothing is taken. -/
theorem safe_httpServerAuthRuuviGetCookieTraced (hslice : str + len ≤ header.length)
    (cookieName : Bytes) {bufSize : ℕ} (hsize : bufSize < 4294967296) :
    Safe header.length str len
      (httpServerAuthRuuviGetCookieTraced header str len cookieName bufSize).2 := by
  have hreads : Safe header.length str len
      (httpServerStrnstrTraced header str cookieName len).2 :=
    safe_httpServerStrnstrTraced cookieName hslice
  have hbegin := httpServerStrnstrTraced_value header str cookieName len
  unfold httpServerAuthRuuviGetCookieTraced
  rcases hfind : httpServerStrnstrTraced header str cookieName len with ⟨_ | cookieBegin, reads⟩
  · rw [hfind] at hreads
    exact hreads
  · rw [hfind] at hreads hbegin
    have hle := ClientText.strnstr_le hbegin.symm
    have hreadsEnd : Safe header.length str len
        (httpServerStrnstrTraced header (str + cookieBegin) (ascii ";") (len - cookieBegin)).2 :=
      safe_httpServerStrnstrTraced _ (by omega)
    have hendValue := httpServerStrnstrTraced_value header (str + cookieBegin) (ascii ";")
      (len - cookieBegin)
    dsimp only
    generalize httpServerStrnstrTraced header (str + cookieBegin) (ascii ";") (len - cookieBegin) =
      res at hreadsEnd hendValue ⊢
    obtain ⟨endOfCookie, readsEnd⟩ := res
    have hpair : endOfCookie.getD (len - cookieBegin) ≤ len - cookieBegin := by
      cases endOfCookie with
      | none => exact le_rfl
      | some e => exact ClientText.strnstr_le hendValue.symm
    dsimp only at hreadsEnd ⊢
    set pair := endOfCookie.getD (len - cookieBegin)
    have hmore : Safe header.length str len
        (httpServerStrnstrTraced header (str + cookieBegin) (ascii "=") pair).2 :=
      safe_httpServerStrnstrTraced _ (by omega)
    generalize httpServerStrnstrTraced header (str + cookieBegin) (ascii "=") pair = res at hmore ⊢
    obtain ⟨_ | delimiter, more⟩ := res
    · simp [hreads, hle, hreadsEnd, hmore]
    · dsimp only
      split_ifs with hdelimiter hzero hlong
      · simp [hreads, hle, hreadsEnd, hmore]
      · simp [hreads, hle, hreadsEnd, hmore]
      · simp [hreads, hle, hreadsEnd, hmore]
      · have hfits : delimiter + 1 ≤ pair := by
          by_contra hwrap
          rw [sizeSub, if_neg hwrap] at hlong
          omega
        have hvalue : sizeSub pair (delimiter + 1) = pair - (delimiter + 1) := if_pos hfits
        have htaken : Safe header.length str len
            (taken (str + cookieBegin + (delimiter + 1)) (sizeSub pair (delimiter + 1))) :=
          safe_taken (by omega) (by omega)
        simp [hreads, hle, hreadsEnd, hmore, htaken]

end Token

/-- The search text of no directive starts like the scheme. -/
theorem digestTokens_scheme :
    ∀ token ∈ digestTokens, token.1 ≠ [] ∧ ¬ ascii "Digest " <+: token.1 := by
  decide

theorem safeFor_digest (header : Bytes) :
    SafeFor header (ascii "Authorization:") (digestOfHeaderTraced header).2 := by
  unfold digestOfHeaderTraced
  rcases httpReqHeaderGetFieldTraced_cases header (ascii "Authorization:") with
    ⟨-, reads, htraced⟩ | ⟨f, reads, hfield, htraced⟩
  · rw [htraced]
    exact safeFor_reads htraced
  · have hreads := (safeFor_some htraced).mp (safeFor_reads htraced)
    have hline : ∀ x ∈ ascii "Digest ", x ∉ lineEnd ∧ x ≠ 34 := by decide
    obtain ⟨hscheme, -⟩ := safe_scheme (ascii "Digest ") hfield hline
    rw [safeFor_some htraced, htraced]
    refine safe_append.mpr ⟨hreads, ?_⟩
    unfold httpServerParseDigestAuthorizationStrTraced
    dsimp only
    cases hstart : strncmpEq (header.drop f.ptr) (ascii "Digest ") (ascii "Digest ").length with
    | false => exact hscheme
    | true =>
      refine safe_append.mpr ⟨hscheme, safe_parseTokensTraced (slice_lt_length hfield).le _ ?_⟩
      intro token htoken
      obtain ⟨hne, hnot⟩ := digestTokens_scheme token htoken
      exact ⟨hne, fun h => hnot ((scheme_isPrefix hfield hline hstart).trans h)⟩

theorem safeFor_cookie (header cookieName : Bytes) {bufSize : ℕ} (hsize : bufSize < 4294967296) :
    SafeFor header (ascii "Cookie:")
      (httpServerAuthRuuviGetCookieFromHeaderTraced header cookieName bufSize).2 := by
  unfold httpServerAuthRuuviGetCookieFromHeaderTraced
  rcases httpReqHeaderGetFieldTraced_cases header (ascii "Cookie:") with
    ⟨-, reads, htraced⟩ | ⟨f, reads, hfield, htraced⟩
  · rw [htraced]
    exact safeFor_reads htraced
  · have hreads := (safeFor_some htraced).mp (safeFor_reads htraced)
    rw [safeFor_some htraced, htraced]
    refine safe_append.mpr ⟨hreads, ?_⟩
    exact safe_httpServerAuthRuuviGetCookieTraced (slice_lt_length hfield).le cookieName hsize

end Handlers

/-- The lookup returns `NULL` or a slice of one line and examines only the header; and whatever the
handlers of a bearer token, of a password, of digest directives and of the two cookies do with the
slice, they examine only the header, no length falls below zero, and what they compare with a secret
or take out stands in the slice. -/
theorem header_slices_safe (header : Bytes) :
    (∀ field, IsSlice header (httpReqHeaderGetFieldTraced header field).1 ∧
      SafeFor header field (httpReqHeaderGetFieldTraced header field).2) ∧
    (∀ flagCheckRwAccess authInfo, SafeFor header (ascii "Authorization:")
      (httpServerHandleReqCheckAuthBearerTraced header flagCheckRwAccess authInfo).2) ∧
    (∀ authPass, SafeFor header (ascii "Authorization:")
      (httpServerHandleReqGetAuthBasicTraced header authPass).2) ∧
    SafeFor header (ascii "Authorization:") (digestOfHeaderTraced header).2 ∧
    SafeFor header (ascii "Cookie:")
      (httpServerAuthRuuviGetCookieFromHeaderTraced header httpServerAuthRuuviCookieSession 17).2 ∧
    SafeFor header (ascii "Cookie:")
      (httpServerAuthRuuviGetCookieFromHeaderTraced header httpServerAuthRuuviCookiePrevUrl 65).2 := by
  refine ⟨?_, safeFor_bearer header, safeFor_basic header, safeFor_digest header, ?_, ?_⟩
  · intro field
    exact ⟨isSlice_httpReqHeaderGetFieldTraced header field,
      safe_httpReqHeaderGetFieldTraced header field⟩
  · exact safeFor_cookie header _ (by decide)
  · exact safeFor_cookie header _ (by decide)

end HeaderSlices
end Auth
end Esp32WifiManager
