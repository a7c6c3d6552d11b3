import Esp32WifiManager.HttpServer.ClientText
import Esp32WifiManager.HttpServer.Sessions

/-!
# The extra header fields

Which handlers print into the extra header fields. A challenge stands around the
configured host name; the other texts are fixed but for the name of a page and
for a cookie of the client.
-/

namespace Esp32WifiManager
namespace Auth

open CString HttpReq FieldLines

/-- A text that is printed around the host name in a header field. It leaves room in the buffer
for another field of 110 bytes. -/
structure Challenge (hostname t : Bytes) : Prop where
  shape : ∃ p q rest, t = p ++ hostname ++ q ++ eol ++ rest ∧ IsField p ∧ Clean q ∧ 58 ∉ q ∧
    q.head? = some 34 ∧ IsFields rest
  fits : t.length + 110 < httpServerExtraHeaderFieldsSize

/-- The hex printer prints hex digits. -/
def PrintsHex (plat : Platform) : Prop :=
  ∀ m, ∀ c ∈ plat.strBufBinToHex m, c ∈ ascii "0123456789abcdefABCDEF"

/-- The handler that makes `r` from `s` prints a challenge if it `asks` for a login, and otherwise
leaves the fields alone. -/
structure Announces (s : HttpServerState) (r : HttpServerResp × HttpServerState) (asks : Prop) :
    Prop where
  challenge : asks → Challenge s.hostinfo.hostname r.2.extraHeaderFields
  silent : ¬ asks → r.2.extraHeaderFields = s.extraHeaderFields

theorem Announces.of_eq {s t : HttpServerState} {r : HttpServerResp × HttpServerState} {asks : Prop}
    (h : Announces t r asks) (hhostinfo : t.hostinfo = s.hostinfo)
    (hfields : t.extraHeaderFields = s.extraHeaderFields) : Announces s r asks := by
  refine ⟨fun hasks => ?_, fun hasks => ?_⟩
  · rw [← hhostinfo]
    exact h.challenge hasks
  · rw [← hfields]
    exact h.silent hasks

/-- A challenge comes with code 401 and with no other. -/
def AnnouncesBy401 (s : HttpServerState) (r : HttpServerResp × HttpServerState) : Prop :=
  Announces s r (r.1.httpRespCode = .c401)

/-- There is no authorized session for the cookies of the request. -/
def NotLoggedIn (httpHeader : Bytes) (remoteIp : CharBuf 17) (s : HttpServerState) : Prop :=
  match httpServerAuthRuuviGetSessionIdFromCookies httpHeader with
  | (false, _) => True
  | (true, sessionId) =>
    httpServerAuthRuuviFindAuthorizedSession sessionId remoteIp s.ruuvi = none

section Asks

variable (plat : Platform) (out : Outcomes) (param : HttpServerHandleReqAuthParam)
  (s : HttpServerState)

/-- The check for another page asks the browser for the credentials. -/
def CheckAuthAsks : Prop :=
  let res := httpServerHandleReqCheckAuth plat out param (some false) s
  res.1.httpRespCode = .c401 ∧ res.2.1 = some false ∧
    (s.authInfo.authType = .basic ∨ s.authInfo.authType = .digest)

/-- `GET /auth` asks for a login, or starts a session where everybody is let in. -/
def GetAuthAsks : Prop :=
  let res := httpServerHandleReqGetAuth plat out param s
  res.1.httpRespCode = .c401 ∨
    (param.flagAccessFromLan = true ∧ s.authInfo.authType = .allow ∧
      NotLoggedIn param.httpHeader param.remoteIp s ∧ res.1.httpRespCode = .c200)

end Asks

/-- After the handler there is a challenge in the fields, or nothing but header fields. -/
structure Printed (s : HttpServerState) (r : HttpServerResp × HttpServerState) (asks : Prop) :
    Prop where
  challenge : asks → Challenge s.hostinfo.hostname r.2.extraHeaderFields
  other : ¬ asks → IsFields r.2.extraHeaderFields

def PrintedBy401 (s : HttpServerState) (r : HttpServerResp × HttpServerState) : Prop :=
  Printed s r (r.1.httpRespCode = .c401)

theorem Announces.printed {s : HttpServerState} {r : HttpServerResp × HttpServerState} {asks : Prop}
    (h : Announces s r asks) (hempty : s.extraHeaderFields = []) : Printed s r asks := by
  refine ⟨h.challenge, fun hasks => ?_⟩
  rw [h.silent hasks, hempty]
  exact isFields_nil

namespace ExtraFields

variable {plat : Platform} {out : Outcomes} {s : HttpServerState}

/-- Whether a text with a challenge consists of fields depends on the host name alone. -/
theorem isFields_iff {hostname t u : Bytes} (h : Challenge hostname t) (hu : IsFields u) :
    IsFields (t ++ u) ↔ IsFields (ascii "realm: " ++ hostname ++ eol) := by
  obtain ⟨p, q, rest, rfl, hp, hq, hcolon, hhead, hrest⟩ := h.shape
  have hrealm : IsField (ascii "realm: ") :=
    isField_mk (ascii "realm") [] (by decide) (by decide) (by decide) (by decide)
  have hblank : q.head? ≠ some 32 := by
    rw [hhead]
    decide
  have hne : q ≠ [] := by
    rintro rfl
    simp at hhead
  have happend : p ++ hostname ++ q ++ eol ++ rest ++ u = p ++ hostname ++ q ++ eol ++ (rest ++ u) :=
    List.append_assoc _ _ _
  rw [happend, isFields_insert hq hcolon hblank hne (isFields_append hrest hu),
    isFields_start hp hrealm]

/-- A text that fits is printed as it is. -/
theorem challenge_snprintf {hostname t : Bytes} (p q rest : Bytes)
    (ht : t = p ++ hostname ++ q ++ eol ++ rest) (hhost : hostname.length < 30) (hp : IsField p)
    (hq : Clean q) (hcolon : 58 ∉ q) (hhead : q.head? = some 34) (hrest : IsFields rest)
    (hlen : p.length + q.length + rest.length < 239) :
    Challenge hostname (snprintf httpServerExtraHeaderFieldsSize t) := by
  have hfits : t.length + 110 < httpServerExtraHeaderFieldsSize := by
    rw [ht]
    simp only [List.length_append, httpServerExtraHeaderFieldsSize]
    have : eol.length = 2 := rfl
    omega
  have hfull : snprintf httpServerExtraHeaderFieldsSize t = t := List.take_of_length_le (by omega)
  rw [hfull]
  exact ⟨⟨p, q, rest, ht, hp, hq, hcolon, hhead, hrest⟩, hfits⟩

/-! ### Texts of a session -/

/-- Letters and digits. -/
def Plain (t : Bytes) : Prop := ∀ c ∈ t, c ∈ ascii "0123456789abcdefABCDEF" ++ asciiUpper

theorem plain_bytes : ∀ c ∈ ascii "0123456789abcdefABCDEF" ++ asciiUpper,
    (c ≠ 13 ∧ c ≠ 10) ∧ c ≠ 58 := by
  decide +kernel

theorem Plain.clean {t : Bytes} (h : Plain t) : Clean t := fun c hc => (plain_bytes c (h c hc)).1

theorem Plain.colon {t : Bytes} (h : Plain t) : 58 ∉ t :=
  fun hc => (plain_bytes 58 (h 58 hc)).2 rfl

theorem plain_hex (hplat : PrintsHex plat) (n : ℕ) (m : Bytes) :
    Plain (CharBuf.ofStr n (plat.strBufBinToHex m)).str := by
  intro c hc
  exact List.mem_append_left _ (hplat m c (CharBuf.mem_str_ofStr hc))

theorem plain_sha256 (hplat : PrintsHex plat) (ok : Bool) (m : Bytes) :
    Plain (wifimanSha256CalcHexStr plat ok m).str := by
  cases ok with
  | true => exact plain_hex hplat 65 _
  | false =>
    have hzero : (wifimanSha256CalcHexStr plat false m).str = [] := CharBuf.str_zero
    rw [hzero]
    intro c hc
    simp at hc

theorem plain_sessionId (remoteIp : CharBuf 17) :
    Plain (drawLoginSession plat out remoteIp s).sessionId.str := by
  intro c hc
  have hne : c ≠ 0 := by
    rintro rfl
    exact nul_notMem_text _ hc
  have hlist : c ∈ (drawLoginSession plat out remoteIp s).sessionId.toList :=
    (text_isPrefix _).subset hc
  rw [drawLoginSession, Vector.toList_ofFn, List.mem_ofFn] at hlist
  obtain ⟨i, hi⟩ := hlist
  split_ifs at hi with h16
  · have hlt : (s.random (sha256DigestSize + i)).toNat % asciiUpper.length < asciiUpper.length :=
      Nat.mod_lt _ (by decide)
    rw [List.getD_eq_getElem?_getD, List.getElem?_eq_getElem hlt, Option.getD_some] at hi
    rw [← hi]
    exact List.mem_append_right _ (List.getElem_mem hlt)
  · exact absurd hi.symm hne

/-! ### Responses -/

section Rules

variable {p q : HttpServerResp × HttpServerState} {resp : HttpServerResp}

theorem announces_ite {c : Prop} [Decidable c] (hp : c → AnnouncesBy401 s p)
    (hq : ¬ c → AnnouncesBy401 s q) : AnnouncesBy401 s (if c then p else q) := by
  split_ifs with h
  · exact hp h
  · exact hq h

/-- Any other code comes without a challenge. -/
theorem announces_quiet (hcode : p.1.httpRespCode ≠ .c401)
    (hfields : p.2.extraHeaderFields = s.extraHeaderFields) : AnnouncesBy401 s p :=
  ⟨fun h => absurd h hcode, fun _ => hfields⟩

theorem announces_same (hcode : resp.httpRespCode ≠ .c401) : AnnouncesBy401 s (resp, s) :=
  announces_quiet hcode rfl

theorem printed_ite {c : Prop} [Decidable c] (hp : c → PrintedBy401 s p)
    (hq : ¬ c → PrintedBy401 s q) : PrintedBy401 s (if c then p else q) := by
  split_ifs with h
  · exact hp h
  · exact hq h

theorem announces_challenge (hcode : p.1.httpRespCode = .c401)
    (hfields : Challenge s.hostinfo.hostname p.2.extraHeaderFields) : AnnouncesBy401 s p :=
  ⟨fun _ => hfields, fun h => absurd hcode h⟩

end Rules

section Print

theorem hostinfo_skipRandom (n : ℕ) : (s.skipRandom n).hostinfo = s.hostinfo := rfl

theorem fields_setRuuvi (ruuvi : HttpServerAuthRuuvi) :
    (s.setRuuvi ruuvi).extraHeaderFields = s.extraHeaderFields := rfl

theorem fields_loginSessionInit (plat : Platform) (out : Outcomes) (s : HttpServerState)
    (remoteIp : CharBuf 17) :
    (httpServerLoginSessionInit plat out remoteIp s).extraHeaderFields = s.extraHeaderFields := by
  simp only [httpServerLoginSessionInit, HttpServerState.setRuuvi, HttpServerState.skipRandom]

theorem loginSession_loginSessionInit (plat : Platform) (out : Outcomes) (s : HttpServerState)
    (remoteIp : CharBuf 17) :
    (httpServerLoginSessionInit plat out remoteIp s).ruuvi.loginSession =
      drawLoginSession plat out remoteIp s := by
  unfold httpServerLoginSessionInit
  generalize drawLoginSession plat out remoteIp s = session
  rfl

theorem quote_eol : ascii "\"\r\n" = ascii "\"" ++ eol := by decide

variable (hhost : s.hostinfo.hostname.length < 30)

include hhost

theorem resp401AuthBasic_announces : AnnouncesBy401 s (httpServerResp401AuthBasic plat s) := by
  have hfield : IsField (ascii "WWW-Authenticate: Basic realm=\"") :=
    isField_mk (ascii "WWW-Authenticate") (ascii "Basic realm=\"") (by decide) (by decide)
      (by decide) (by decide)
  have hend : ascii "\", charset=\"UTF-8\"\r\n" = ascii "\", charset=\"UTF-8\"" ++ eol := by decide
  refine announces_challenge rfl (challenge_snprintf (ascii "WWW-Authenticate: Basic realm=\"")
    (ascii "\", charset=\"UTF-8\"") [] ?_ hhost hfield (by decide) (by decide) (by decide)
    isFields_nil (by decide))
  rw [hend]
  simp only [List.append_assoc, List.append_nil]

theorem resp401AuthDigest_announces (hplat : PrintsHex plat) :
    AnnouncesBy401 s (httpServerResp401AuthDigest plat out s) := by
  unfold httpServerResp401AuthDigest
  refine announces_ite (fun _ => announces_quiet (by simp [httpServerResp503, httpServerRespErr]) rfl)
    fun _ => ?_
  set nonce := wifimanSha256CalcHexStr plat out.nonceSha256
    (s.randomU8 httpServerAuthDigestRandomSize)
  set opaqueStr := wifimanSha256CalcHexStr plat out.opaqueSha256 s.hostinfo.hostname with hopaque
  have hn : Plain nonce.str := plain_sha256 hplat _ _
  have ho : Plain opaqueStr.str := plain_sha256 hplat _ _
  have hnlen := CharBuf.str_length_le nonce
  have holen := CharBuf.str_length_le opaqueStr
  set qop := ascii "\" qop=\"auth\" nonce=\"" with hqop
  set opq := ascii "\" opaque=\"" with hopq
  have hconst : Clean qop ∧ Clean opq ∧ Clean (ascii "\"") := by decide
  have hcolon : (58 : UInt8) ∉ qop ∧ (58 : UInt8) ∉ opq ∧ (58 : UInt8) ∉ ascii "\"" := by decide
  have hlength : qop.length = 20 ∧ opq.length = 10 ∧ (ascii "\"").length = 1 ∧
      (ascii "WWW-Authenticate: Digest realm=\"").length = 32 := by decide
  have hfield : IsField (ascii "WWW-Authenticate: Digest realm=\"") :=
    isField_mk (ascii "WWW-Authenticate") (ascii "Digest realm=\"") (by decide) (by decide)
      (by decide) (by decide)
  refine announces_challenge rfl (challenge_snprintf (ascii "WWW-Authenticate: Digest realm=\"")
    (qop ++ nonce.str ++ opq ++ opaqueStr.str ++ ascii "\"") [] ?_ hhost hfield ?_ ?_ ?_ isFields_nil ?_)
  · rw [quote_eol, hostinfo_skipRandom]
    simp only [List.append_assoc, List.append_nil, hopaque]
  · simp only [clean_append, hn.clean, ho.clean, hconst, and_self]
  · simp only [List.mem_append, hn.colon, ho.colon, hcolon, or_self, not_false_eq_true]
  · simp [hqop, ascii]
  · simp only [List.length_append, hlength, List.length_nil]
    omega

/-- The challenge of a session of letters and digits. -/
theorem prepWwwAuthenticate_challenge (hchallenge : Plain s.ruuvi.loginSession.challenge.str)
    (hid : Plain s.ruuvi.loginSession.sessionId.str) :
    Challenge s.hostinfo.hostname
      (httpServerRespAuthRuuviPrepWwwAuthenticateHeader s).extraHeaderFields := by
  set challenge := s.ruuvi.loginSession.challenge with hch
  set sessionId := s.ruuvi.loginSession.sessionId with hsid
  have hchlen := CharBuf.str_length_le challenge
  have hidlen := CharBuf.str_length_le sessionId
  set cookie := ascii "\" session_cookie=\"" ++ httpServerAuthRuuviCookieSession ++ ascii "\" " ++
    ascii "session_id=\"" with hcookie
  set setCookie := ascii "Set-Cookie: " ++ httpServerAuthRuuviCookieSession ++ ascii "=" with hset
  have hconst : Clean (ascii "\" challenge=\"") ∧ Clean cookie ∧ Clean (ascii "\"") := by decide
  have hcolon : (58 : UInt8) ∉ ascii "\" challenge=\"" ∧ (58 : UInt8) ∉ cookie ∧
      (58 : UInt8) ∉ ascii "\"" := by decide
  have hlength : (ascii "\" challenge=\"").length = 13 ∧ cookie.length = 44 ∧
      (ascii "\"").length = 1 ∧ setCookie.length = 25 ∧ eol.length = 2 ∧
      (ascii "WWW-Authenticate: x-ruuvi-interactive realm=\"").length = 45 := by decide
  have hfield : IsField (ascii "WWW-Authenticate: x-ruuvi-interactive realm=\"") :=
    isField_mk (ascii "WWW-Authenticate") (ascii "x-ruuvi-interactive realm=\"") (by decide)
      (by decide) (by decide) (by decide)
  have hsetField : IsField setCookie :=
    isField_mk (ascii "Set-Cookie") (httpServerAuthRuuviCookieSession ++ ascii "=") (by decide)
      (by decide) (by decide) (by decide)
  refine challenge_snprintf (ascii "WWW-Authenticate: x-ruuvi-interactive realm=\"")
    (ascii "\" challenge=\"" ++ challenge.str ++ cookie ++ sessionId.str ++ ascii "\"")
    (setCookie ++ sessionId.str ++ eol) ?_ hhost hfield ?_ ?_ ?_
    (isFields_one (hsetField.append hid.clean)) ?_
  · have heol : ascii "\r\n" = eol := by decide
    rw [quote_eol, heol, hcookie, hset]
    simp only [List.append_assoc, hch, hsid]
  · simp only [clean_append, hchallenge.clean, hid.clean, hconst, and_self]
  · simp only [List.mem_append, hchallenge.colon, hid.colon, hcolon, or_self, not_false_eq_true]
  · simp [ascii]
  · simp only [List.length_append, hlength]
    omega

/-- The challenge of a session that has just been drawn. -/
theorem newSession_challenge (hplat : PrintsHex plat) (out : Outcomes) (remoteIp : CharBuf 17) :
    Challenge s.hostinfo.hostname (httpServerRespAuthRuuviPrepWwwAuthenticateHeader
      (httpServerLoginSessionInit plat out remoteIp s)).extraHeaderFields := by
  have hsession := loginSession_loginSessionInit plat out s remoteIp
  have hname : (httpServerLoginSessionInit plat out remoteIp s).hostinfo = s.hostinfo := by
    simp only [httpServerLoginSessionInit, HttpServerState.setRuuvi, HttpServerState.skipRandom]
  have hchallenge : Plain (drawLoginSession plat out remoteIp s).challenge.str :=
    plain_hex hplat 65 _
  have hid : Plain (drawLoginSession plat out remoteIp s).sessionId.str := plain_sessionId remoteIp
  generalize httpServerLoginSessionInit plat out remoteIp s = t at hsession hname ⊢
  rw [← hsession] at hchallenge hid
  rw [← hname] at hhost ⊢
  exact prepWwwAuthenticate_challenge hhost hchallenge hid

theorem resp401WithNewSessionId_announces (hplat : PrintsHex plat) (out : Outcomes)
    (remoteIp : CharBuf 17) (lanAuthType : HttpServerAuthType) (errMessage : Option Bytes) :
    AnnouncesBy401 s
      (httpServerResp401AuthRuuviWithNewSessionId plat out remoteIp lanAuthType errMessage s) := by
  have hnew := newSession_challenge hhost hplat out remoteIp
  have hfields := fields_loginSessionInit plat out s remoteIp
  unfold httpServerResp401AuthRuuviWithNewSessionId
  generalize httpServerLoginSessionInit plat out remoteIp s = t at hnew hfields ⊢
  exact announces_ite
    (fun _ => announces_quiet (by simp [httpServerResp503, httpServerRespErr]) hfields)
    fun _ => announces_challenge rfl hnew

/-- A challenge comes with code 200 where everybody is let in. -/
theorem resp200AuthAllow_announces (hplat : PrintsHex plat) (out : Outcomes) (remoteIp : CharBuf 17) :
    Announces s (httpServerResp200AuthAllowWithNewSessionId plat out remoteIp s)
      ((httpServerResp200AuthAllowWithNewSessionId plat out remoteIp s).1.httpRespCode = .c200) := by
  have hnew := newSession_challenge hhost hplat out remoteIp
  have hfields := fields_loginSessionInit plat out s remoteIp
  unfold httpServerResp200AuthAllowWithNewSessionId
  generalize httpServerLoginSessionInit plat out remoteIp s = t at hnew hfields ⊢
  dsimp only
  split_ifs with hempty
  · exact ⟨fun h => by simp [httpServerResp503, httpServerRespErr] at h, fun _ => hfields⟩
  · refine ⟨fun _ => ?_, fun h => absurd (httpServerResp200Json_code _) h⟩
    rw [fields_setRuuvi]
    exact hnew

end Print

/-! ### The authentication -/

/-- Where everybody is let in there is no 401. -/
theorem getAuthAllow_code (plat : Platform) (out : Outcomes) (param : HttpServerHandleReqAuthParam)
    (s : HttpServerState) :
    (httpServerHandleReqGetAuthRuuvi plat out param false .allow s).1.httpRespCode ≠ .c401 := by
  have hnew : (httpServerResp200AuthAllowWithNewSessionId plat out param.remoteIp s).1.httpRespCode ≠
      .c401 := by
    unfold httpServerResp200AuthAllowWithNewSessionId
    generalize httpServerLoginSessionInit plat out param.remoteIp s = t
    dsimp only
    split_ifs
    · simp [httpServerResp503]
    · simp
  unfold httpServerHandleReqGetAuthRuuvi
  simp only [Bool.false_and, Bool.false_eq_true, if_false, if_true]
  rcases httpServerAuthRuuviGetSessionIdFromCookies param.httpHeader with ⟨_ | _, sessionId⟩
  · dsimp only
    exact hnew
  · dsimp only
    cases httpServerAuthRuuviFindAuthorizedSession sessionId param.remoteIp s.ruuvi with
    | none =>
      dsimp only
      exact hnew
    | some _ => simp

section Check

variable (hhost : s.hostinfo.hostname.length < 30) (param : HttpServerHandleReqAuthParam)

include hhost

theorem getAuthBasic_announces (plat : Platform) :
    AnnouncesBy401 s (httpServerHandleReqGetAuthBasic plat param s) := by
  unfold httpServerHandleReqGetAuthBasic
  cases httpReqHeaderGetField param.httpHeader (ascii "Authorization:") with
  | none => exact resp401AuthBasic_announces hhost
  | some field =>
    refine announces_ite (fun _ => resp401AuthBasic_announces hhost) fun _ => ?_
    refine announces_ite (fun _ => resp401AuthBasic_announces hhost) fun _ => ?_
    exact announces_ite (fun _ => resp401AuthBasic_announces hhost) fun _ =>
      announces_same (by simp)

variable (hplat : PrintsHex plat)

include hplat

theorem getAuthDigest_announces (out : Outcomes) :
    AnnouncesBy401 s (httpServerHandleReqGetAuthDigest plat out param s) := by
  unfold httpServerHandleReqGetAuthDigest
  cases httpReqHeaderGetField param.httpHeader (ascii "Authorization:") with
  | none => exact resp401AuthDigest_announces hhost hplat
  | some field =>
    dsimp only
    generalize httpServerParseDigestAuthorizationStr (param.httpHeader.drop field.ptr) field.len
      s.auth.digest = parsed
    set t : HttpServerState := { s with auth := .ofDigest parsed.2 } with ht
    have hasks : AnnouncesBy401 s (httpServerResp401AuthDigest plat out t) :=
      (resp401AuthDigest_announces (s := t) hhost hplat).of_eq rfl rfl
    have hquiet {resp : HttpServerResp} (hcode : resp.httpRespCode ≠ .c401) :
        AnnouncesBy401 s (resp, t) := announces_quiet hcode rfl
    refine announces_ite (fun _ => hasks) fun _ => ?_
    refine announces_ite (fun _ => hasks) fun _ => ?_
    refine announces_ite (fun _ => hquiet (by simp [httpServerResp503])) fun _ => ?_
    refine announces_ite (fun _ => hquiet (by simp [httpServerResp503])) fun _ => ?_
    exact announces_ite (fun _ => hasks) fun _ => hquiet (by simp)

theorem getAuthRuuvi_announces (out : Outcomes) {authType : HttpServerAuthType}
    (htype : authType ≠ .allow) :
    AnnouncesBy401 s (httpServerHandleReqGetAuthRuuvi plat out param false authType s) := by
  have hnew := resp401WithNewSessionId_announces hhost hplat out param.remoteIp authType none
  unfold httpServerHandleReqGetAuthRuuvi
  simp only [Bool.false_and, Bool.false_eq_true, if_false, htype]
  rcases httpServerAuthRuuviGetSessionIdFromCookies param.httpHeader with ⟨_ | _, sessionId⟩
  · exact hnew
  · dsimp only
    cases httpServerAuthRuuviFindAuthorizedSession sessionId param.remoteIp s.ruuvi with
    | none => exact hnew
    | some _ => exact announces_same (by simp)

theorem getAuthAllow_announces (out : Outcomes) :
    Announces s (httpServerHandleReqGetAuthRuuvi plat out param false .allow s)
      (NotLoggedIn param.httpHeader param.remoteIp s ∧
        (httpServerHandleReqGetAuthRuuvi plat out param false .allow s).1.httpRespCode = .c200) := by
  have hnew := resp200AuthAllow_announces hhost hplat out param.remoteIp
  unfold httpServerHandleReqGetAuthRuuvi NotLoggedIn
  simp only [Bool.false_and, Bool.false_eq_true, if_false, if_true]
  rcases httpServerAuthRuuviGetSessionIdFromCookies param.httpHeader with ⟨_ | _, sessionId⟩
  · simpa only [true_and] using hnew
  · dsimp only
    cases httpServerAuthRuuviFindAuthorizedSession sessionId param.remoteIp s.ruuvi with
    | none => simpa only [true_and] using hnew
    | some _ => exact ⟨by simp, fun _ => rfl⟩

/-- With the check only `Basic` and `Digest` print. -/
theorem authByType_check_announces (out : Outcomes) :
    Announces s (httpServerHandleReqAuthByType plat out param true s)
      ((httpServerHandleReqAuthByType plat out param true s).1.httpRespCode = .c401 ∧
        (s.authInfo.authType = .basic ∨ s.authInfo.authType = .digest)) := by
  have hbasic := getAuthBasic_announces hhost param plat
  have hdigest := getAuthDigest_announces hhost param hplat out
  unfold httpServerHandleReqAuthByType
  cases s.authInfo.authType with
  | basic => simpa only [AnnouncesBy401, true_or, and_true] using hbasic
  | digest => simpa only [AnnouncesBy401, or_true, and_true] using hdigest
  | allow | ruuvi | default =>
    refine ⟨fun h => by simp at h, fun _ => ?_⟩
    rw [getAuthRuuvi_check]
  | deny | bearer => exact ⟨fun h => by simp at h, fun _ => rfl⟩

/-- Without it every type but `deny` and `bearer` does. -/
theorem authByType_announces (out : Outcomes) :
    Announces s (httpServerHandleReqAuthByType plat out param false s)
      ((httpServerHandleReqAuthByType plat out param false s).1.httpRespCode = .c401 ∨
        (s.authInfo.authType = .allow ∧ NotLoggedIn param.httpHeader param.remoteIp s ∧
          (httpServerHandleReqAuthByType plat out param false s).1.httpRespCode = .c200)) := by
  have hbasic := getAuthBasic_announces hhost param plat
  have hdigest := getAuthDigest_announces hhost param hplat out
  have hallow := getAuthAllow_announces hhost param hplat out
  have hruuvi {authType : HttpServerAuthType} (htype : authType ≠ .allow) :=
    getAuthRuuvi_announces hhost param hplat out htype
  unfold httpServerHandleReqAuthByType
  cases s.authInfo.authType with
  | basic => simpa only [AnnouncesBy401, reduceCtorEq, false_and, or_false] using hbasic
  | digest => simpa only [AnnouncesBy401, reduceCtorEq, false_and, or_false] using hdigest
  | ruuvi => simpa only [AnnouncesBy401, reduceCtorEq, false_and, or_false] using hruuvi (by simp)
  | default => simpa only [AnnouncesBy401, reduceCtorEq, false_and, or_false] using hruuvi (by simp)
  | deny | bearer =>
    refine ⟨fun h => ?_, fun _ => rfl⟩
    simp [httpServerHandleReqGetAuthDeny, httpServerResp403AuthDeny, httpServerResp500] at h
  | allow =>
    have hcode := getAuthAllow_code plat out param s
    simpa only [true_and, hcode, false_or] using hallow

theorem checkAuth_announces (out : Outcomes) :
    Announces s ((httpServerHandleReqCheckAuth plat out param (some false) s).1,
      (httpServerHandleReqCheckAuth plat out param (some false) s).2.2)
      (CheckAuthAsks plat out param s) := by
  have htype := authByType_check_announces hhost param hplat out
  unfold CheckAuthAsks httpServerHandleReqCheckAuth
  split_ifs with hlan
  · exact ⟨fun h => by simp [httpServerHandleReqGetAuthAllow] at h, fun _ => rfl⟩
  · unfold httpServerHandleReqGetOrCheckAuth
    dsimp only
    split
    · simpa only [true_and] using htype
    · exact ⟨fun h => by simp at h, fun _ => rfl⟩
    · exact ⟨fun h => by simp at h, fun _ => rfl⟩

theorem getAuth_announces (out : Outcomes) :
    Announces s (httpServerHandleReqGetAuth plat out param s) (GetAuthAsks plat out param s) := by
  have htype := authByType_announces hhost param hplat out
  unfold GetAuthAsks httpServerHandleReqGetAuth
  split_ifs with hlan
  · refine ⟨fun h => ?_, fun _ => rfl⟩
    simp_all [httpServerHandleReqGetAuthAllow]
  · have hlan' : param.flagAccessFromLan = true := by simpa using hlan
    unfold httpServerHandleReqGetOrCheckAuth
    dsimp only
    simpa only [hlan', true_and] using htype

end Check

/-! ### Login and logout -/

theorem postAuthCheckAuth_announces (hhost : s.hostinfo.hostname.length < 30)
    (hplat : PrintsHex plat) (out : Outcomes) (authType : HttpServerAuthType)
    (remoteIp : CharBuf 17) (httpBody : Bytes) :
    AnnouncesBy401 s
      (httpServerHandleReqPostAuthCheckAuth plat out authType remoteIp httpBody s) := by
  have hnew (errMessage : Option Bytes) :=
    resp401WithNewSessionId_announces hhost hplat out remoteIp authType errMessage
  unfold httpServerHandleReqPostAuthCheckAuth
  dsimp only
  cases jsonRuuviAuthParseHttpBody plat out httpBody with
  | none => exact hnew _
  | some authReq =>
    refine announces_ite (fun _ => hnew _) fun _ => ?_
    refine announces_ite (fun _ => hnew _) fun _ => ?_
    refine announces_ite (fun _ => announces_same (by simp [httpServerResp500])) fun _ => ?_
    cases httpServerAuthRuuviGenHashedPassword plat out s.ruuvi.loginSession.challenge.str
      s.authInfo.authPass with
    | none => exact hnew _
    | some hash =>
      exact announces_ite (fun _ => hnew _) fun _ => announces_same (by simp)

/-- The fields that send the browser back to the page it came from. -/
theorem isFields_prevUrl {prevUrl : CharBuf 65} (hclean : Clean prevUrl.str) :
    IsFields (snprintf httpServerExtraHeaderFieldsSize
      (ascii "Ruuvi-prev-url: " ++ prevUrl.str ++ ascii "\r\n" ++ ascii "Set-Cookie: " ++
        httpServerAuthRuuviCookiePrevUrl ++
        ascii "=; Max-Age=-1; Expires=Thu, 01 Jan 1970 00:00:00 GMT\r\n")) := by
  set clear := ascii "Set-Cookie: " ++ httpServerAuthRuuviCookiePrevUrl ++
    ascii "=; Max-Age=-1; Expires=Thu, 01 Jan 1970 00:00:00 GMT\r\n" with hclear
  have hclearFields : IsFields clear := by
    have hline : clear = (ascii "Set-Cookie" ++ 58 :: 32 :: (httpServerAuthRuuviCookiePrevUrl ++
        ascii "=; Max-Age=-1; Expires=Thu, 01 Jan 1970 00:00:00 GMT")) ++ eol := by decide +kernel
    rw [hline]
    exact isFields_one (isField_mk _ _ (by decide) (by decide) (by decide) (by decide +kernel))
  have hlen := CharBuf.str_length_le prevUrl
  have hlength : (ascii "Ruuvi-prev-url: ").length = 16 ∧ clear.length = 80 ∧ eol.length = 2 := by
    decide +kernel
  have htext : ascii "Ruuvi-prev-url: " ++ prevUrl.str ++ ascii "\r\n" ++ ascii "Set-Cookie: " ++
      httpServerAuthRuuviCookiePrevUrl ++
      ascii "=; Max-Age=-1; Expires=Thu, 01 Jan 1970 00:00:00 GMT\r\n" =
      ascii "Ruuvi-prev-url: " ++ prevUrl.str ++ eol ++ clear := by
    have heol : ascii "\r\n" = eol := by decide
    rw [heol, hclear]
    simp only [List.append_assoc]
  have hfull : snprintf httpServerExtraHeaderFieldsSize
      (ascii "Ruuvi-prev-url: " ++ prevUrl.str ++ eol ++ clear) =
      ascii "Ruuvi-prev-url: " ++ prevUrl.str ++ eol ++ clear := by
    refine List.take_of_length_le ?_
    simp only [List.length_append, hlength, httpServerExtraHeaderFieldsSize]
    omega
  have hname : IsField (ascii "Ruuvi-prev-url: ") :=
    isField_mk (ascii "Ruuvi-prev-url") [] (by decide) (by decide) (by decide) (by decide)
  rw [htext, hfull]
  exact isFields_cons (hname.append hclean) hclearFields

theorem postAuth_printed (hhost : s.hostinfo.hostname.length < 30) (hplat : PrintsHex plat)
    (out : Outcomes) (hempty : s.extraHeaderFields = []) (flagAccessFromLan : Bool)
    (httpHeader : Bytes) (remoteIp : CharBuf 17) (httpBody : Bytes) :
    PrintedBy401 s
      (httpServerHandleReqPostAuth plat out flagAccessFromLan httpHeader remoteIp httpBody s) := by
  have hnew : PrintedBy401 s (httpServerResp401AuthRuuviWithNewSessionId plat out remoteIp
      s.authInfo.authType none s) :=
    (resp401WithNewSessionId_announces hhost hplat out remoteIp _ none).printed hempty
  have hsame {resp : HttpServerResp} (hcode : resp.httpRespCode ≠ .c401) :
      PrintedBy401 s (resp, s) := (announces_same hcode).printed hempty
  unfold httpServerHandleReqPostAuth
  refine printed_ite (fun _ => hsame (by simp)) fun _ => ?_
  refine printed_ite (fun _ => hsame (by simp [httpServerResp503])) fun _ => ?_
  rcases httpServerAuthRuuviGetSessionIdFromCookies httpHeader with ⟨_ | _, sessionId⟩
  · exact hnew
  · unfold httpServerHandleReqPostAuthCheckLoginSession
    dsimp only
    by_cases hmatches : s.ruuvi.loginSession.matches sessionId remoteIp = true
    · rw [if_pos hmatches]
      have hchecked : PrintedBy401 s (httpServerHandleReqPostAuthCheckAuth plat out
          s.authInfo.authType remoteIp httpBody s) :=
        (postAuthCheckAuth_announces hhost hplat out _ remoteIp httpBody).printed hempty
      refine printed_ite (fun _ => hsame (by simp [httpServerResp500])) fun _ => ?_
      refine printed_ite (fun _ => hchecked) fun hcode => ?_
      refine ⟨fun h => by simp at h, fun _ => ?_⟩
      dsimp only
      split_ifs
      · refine hchecked.other ?_
        rw [not_not.mp hcode]
        simp
      · exact isFields_prevUrl (ClientText.prevUrl_clean httpHeader)
    · rw [if_neg hmatches]
      exact hnew

/-- A logout prints nothing. -/
theorem deleteAuth_fields (httpHeader : Bytes) (remoteIp : CharBuf 17) :
    (httpServerHandleReqDeleteAuth plat httpHeader remoteIp s).2.extraHeaderFields =
      s.extraHeaderFields := by
  unfold httpServerHandleReqDeleteAuth
  dsimp only
  generalize (if s.authInfo.authType = .default then HttpServerAuthType.default else .ruuvi) = shown
  split_ifs
  · rfl
  · rcases httpServerAuthRuuviGetSessionIdFromCookies httpHeader with ⟨_ | _, sessionId⟩
    · rfl
    · dsimp only
      cases httpServerAuthRuuviFindAuthorizedSession sessionId remoteIp s.ruuvi with
      | none => rfl
      | some i => rfl

end ExtraFields

end Auth
end Esp32WifiManager
