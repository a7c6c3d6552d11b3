import Esp32WifiManager.HttpServer.EmptySecret

/-!
# What a digest is bound to

A `Digest` header is taken on its own: its response is compared with the digest
over the configured password, its own nonce and counters and its own `uri`. The
target of the request and the nonces that have been issued are not looked at.
-/

namespace Esp32WifiManager
namespace Auth

open CString HttpReq

variable (plat : Platform) (out : Outcomes)

/-- The response for a request with this method and target, with the directives of the header. -/
def digestResponseFor (authReq : HttpServerAuthDigestReq) (authPass method target : Bytes) :
    CharBuf 33 :=
  wifimanMd5CalcHexStr plat out.responseMd5
    (authPass ++ ascii ":" ++ authReq.nonce.str ++ ascii ":" ++ authReq.nc.str ++ ascii ":" ++
      authReq.cnonce.str ++ ascii ":" ++ authReq.qop.str ++ ascii ":" ++
      (wifimanMd5CalcHexStr plat out.ha2Md5 (method ++ ascii ":" ++ target)).str)

/-- A response of the run has asked for a digest with this nonce, and the credentials have not been
changed since. -/
def IssuedNonce (s : HttpServerState) (events : List Event) (nonce : Bytes) : Prop :=
  ∃ before param out later, events = before ++ .request param out :: later ∧
    NoChange plat ((s.run plat before).step plat (.request param out)) later ∧
    ∃ i, Occurs (ascii "nonce=\"" ++ nonce ++ ascii "\"")
      ((s.run plat before).step plat (.request param out)).extraHeaderFields i

/-- The directives belong to the request: its target, its method and a nonce that has been issued. -/
structure BoundTo (s : HttpServerState) (events : List Event) (info : HttpReqInfo)
    (authPass : Bytes) (authReq : HttpServerAuthDigestReq) : Prop where
  uri : authReq.uri.str = info.httpUri
  response : authReq.response.str =
    (digestResponseFor plat out authReq authPass info.httpCmd info.httpUri).str
  nonce : IssuedNonce plat s events authReq.nonce.str

/-- The directives of the `Authorization` header as the server reads them. -/
def ParsedDigest (header : Bytes) (s : HttpServerState) (authReq : HttpServerAuthDigestReq) : Prop :=
  ∃ field, httpReqHeaderGetField header (ascii "Authorization:") = some field ∧
    httpServerParseDigestAuthorizationStr (header.drop field.ptr) field.len s.auth.digest =
      (true, authReq)

/-- The authentication check of a request, without a token. -/
def PassesCheck (param : HttpServerHandleReqAuthParam) (s : HttpServerState) : Prop :=
  httpServerHandleReqCheckAuthBearer param.httpHeader param.flagCheckRwAccessWithBearerToken
      s.authInfo = .notUsed ∧
    (httpServerHandleReqCheckAuth plat out param (some false) s).1.httpRespCode = .c200

/-- A `GET` request passes if and only if its header has all directives, the configured user and the
response over `GET:` with its own `uri`. -/
theorem passesCheck_iff {param : HttpServerHandleReqParam} {flagRw : Bool} {s : HttpServerState}
    (hget : param.reqInfo.httpCmd = ascii "GET") (hlan : param.flagAccessFromLan = true)
    (htype : s.authInfo.authType = .digest)
    (hbearer : httpServerHandleReqCheckAuthBearer param.reqInfo.httpHeader flagRw s.authInfo =
      .notUsed) :
    PassesCheck plat out (param.authParam flagRw) s ↔
      ∃ authReq, ParsedDigest param.reqInfo.httpHeader s authReq ∧
        authReq.username.str = s.authInfo.authUser ∧ out.ha2Str = true ∧ out.responseStr = true ∧
        authReq.response.str = (digestResponseFor plat out authReq s.authInfo.authPass
          param.reqInfo.httpCmd authReq.uri.str).str := by
  have hcheck : (httpServerHandleReqCheckAuth plat out (param.authParam flagRw) (some false) s).1 =
      (httpServerHandleReqGetAuthDigest plat out (param.authParam flagRw) s).1 := by
    rw [EmptySecret.checkAuth_byType hlan]
    · unfold httpServerHandleReqAuthByType
      rw [htype]
    · unfold httpServerHandleReqCheckAuth httpServerHandleReqGetOrCheckAuth
      simp only [HttpServerHandleReqParam.authParam, hlan, hbearer, Bool.not_true,
        Bool.false_eq_true, if_false]
      simp
  have hresponse (authReq : HttpServerAuthDigestReq) :
      httpServerDigestResponse plat out authReq s.authInfo.authPass =
        digestResponseFor plat out authReq s.authInfo.authPass param.reqInfo.httpCmd
          authReq.uri.str := by
    have hmethod : ascii "GET:" = ascii "GET" ++ ascii ":" := by decide
    unfold httpServerDigestResponse digestResponseFor
    rw [hget, hmethod]
  unfold PassesCheck
  rw [hcheck, EmptySecret.getAuthDigest_iff]
  constructor
  · rintro ⟨-, field, hfield, authReq, hparsed, huser, hha2, hstr, hdigest⟩
    rw [hresponse] at hdigest
    exact ⟨authReq, ⟨field, hfield, hparsed⟩, huser, hha2, hstr, hdigest⟩
  · rintro ⟨authReq, ⟨field, hfield, hparsed⟩, huser, hha2, hstr, hdigest⟩
    rw [← hresponse] at hdigest
    exact ⟨hbearer, field, hfield, authReq, hparsed, huser, hha2, hstr, hdigest⟩

/-- In a run in which `DIGEST` is configured a `GET` request from LAN passes if and only if its
header has all directives, the configured user and the response over `GET:` with its own `uri`. -/
theorem digest_passes_iff (hostinfo : WifimanHostinfo) (random : ℕ → UInt32) (events : List Event)
    (param : HttpServerHandleReqParam) (flagRw : Bool)
    (hget : param.reqInfo.httpCmd = ascii "GET") (hlan : param.flagAccessFromLan = true)
    (htype : ((HttpServerState.start hostinfo random).run plat events).authInfo.authType = .digest)
    (hbearer : httpServerHandleReqCheckAuthBearer param.reqInfo.httpHeader flagRw
      ((HttpServerState.start hostinfo random).run plat events).authInfo = .notUsed) :
    PassesCheck plat out (param.authParam flagRw)
        ((HttpServerState.start hostinfo random).run plat events) ↔
      ∃ authReq, ParsedDigest param.reqInfo.httpHeader
          ((HttpServerState.start hostinfo random).run plat events) authReq ∧
        authReq.username.str =
          ((HttpServerState.start hostinfo random).run plat events).authInfo.authUser ∧
        out.ha2Str = true ∧ out.responseStr = true ∧
        authReq.response.str = (digestResponseFor plat out authReq
          ((HttpServerState.start hostinfo random).run plat events).authInfo.authPass
          param.reqInfo.httpCmd authReq.uri.str).str :=
  passesCheck_iff plat out hget hlan htype hbearer

/-! ### A header that comes from elsewhere -/

/-- A header for the target `/a` with a nonce of the client's own. -/
def capturedHeader : Bytes :=
  ascii "Authorization: Digest username=\"u\",realm=\"g\",nonce=\"n\",uri=\"/a\",qop=auth,nc=1," ++
    ascii "cnonce=\"c\",response=\"" ++ List.replicate 32 48 ++ ascii "\",opaque=\"o\"\r\n"

def historyParam : HttpServerHandleReqParam :=
  ⟨⟨ascii "GET", ascii "/b", none, capturedHeader, []⟩, sampleIp, true⟩

/-- The server after `DIGEST` has been configured. -/
def digestRun : HttpServerState :=
  (HttpServerState.start sampleHostinfo sampleRandom).run (samplePlatform [])
    [sampleSetAuth .digest (ascii "u")]

/-- The directives of the header. -/
def capturedReq : HttpServerAuthDigestReq :=
  (httpServerParseDigestAuthorizationStr (capturedHeader.drop 15) 128 digestRun.auth.digest).2

theorem captured_found :
    httpReqHeaderGetField capturedHeader (ascii "Authorization:") = some ⟨15, 128⟩ := by
  decide +kernel

theorem captured_facts :
    (httpServerParseDigestAuthorizationStr (capturedHeader.drop 15) 128
        digestRun.auth.digest).1 = true ∧
      capturedReq.username.str = digestRun.authInfo.authUser ∧
      capturedReq.response.str = (digestResponseFor (samplePlatform []) sampleOutcomes capturedReq
        digestRun.authInfo.authPass (ascii "GET") capturedReq.uri.str).str ∧
      capturedReq.uri.str ≠ ascii "/b" := by
  decide +kernel

theorem captured_parsed : ParsedDigest capturedHeader digestRun capturedReq :=
  ⟨⟨15, 128⟩, captured_found, Prod.ext captured_facts.1 rfl⟩

theorem captured_notUsed :
    httpServerHandleReqCheckAuthBearer capturedHeader false digestRun.authInfo = .notUsed := by
  have hno : strncmpEq (capturedHeader.drop 15) (ascii "Bearer ") 7 = false := by decide +kernel
  unfold httpServerHandleReqCheckAuthBearer
  rw [captured_found]
  exact if_pos (by rw [show (ascii "Bearer ").length = 7 from rfl, hno]; rfl)

theorem digestRun_type : digestRun.authInfo.authType = .digest := by decide +kernel

theorem digest_passes_history :
    PassesCheck (samplePlatform []) sampleOutcomes (historyParam.authParam false) digestRun := by
  apply (digest_passes_iff (samplePlatform []) sampleOutcomes sampleHostinfo sampleRandom _
    historyParam false rfl rfl digestRun_type captured_notUsed).mpr
  exact ⟨capturedReq, captured_parsed, captured_facts.2.1, rfl, rfl, captured_facts.2.2.1⟩

theorem captured_passes :
    PassesCheck (samplePlatform []) sampleOutcomes (historyParam.authParam false) digestRun := by
  apply (@passesCheck_iff (samplePlatform []) sampleOutcomes historyParam false digestRun rfl rfl
    digestRun_type captured_notUsed).mpr
  exact ⟨capturedReq, captured_parsed, captured_facts.2.1, rfl, rfl, captured_facts.2.2.1⟩

/-- A header for another target is accepted. -/
theorem digest_not_bound : ¬ ∀ (plat : Platform) (out : Outcomes) (hostinfo : WifimanHostinfo)
    (random : ℕ → UInt32) (events : List Event) (param : HttpServerHandleReqParam) (flagRw : Bool),
    param.flagAccessFromLan = true →
      ((HttpServerState.start hostinfo random).run plat events).authInfo.authType = .digest →
      PassesCheck plat out (param.authParam flagRw)
        ((HttpServerState.start hostinfo random).run plat events) →
      ∀ authReq, ParsedDigest param.reqInfo.httpHeader
          ((HttpServerState.start hostinfo random).run plat events) authReq →
        BoundTo plat out (.start hostinfo random) events param.reqInfo
          ((HttpServerState.start hostinfo random).run plat events).authInfo.authPass authReq := by
  intro hclaim
  have hbound := hclaim (samplePlatform []) sampleOutcomes sampleHostinfo sampleRandom
    [sampleSetAuth .digest (ascii "u")] historyParam false rfl digestRun_type captured_passes
    capturedReq captured_parsed
  exact captured_facts.2.2.2 hbound.uri

end Auth
end Esp32WifiManager
