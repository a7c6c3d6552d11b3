import Mathlib.Data.PNat.Basic
import Esp32WifiManager.HttpServer.SoundLogin

/-!
# The delay of a refused request

A response with the status 401 or 403 is sent after a delay, in steps that leave
time to feed the task watchdog. Which refused requests have another status in
the end, and are answered at once, is up to the handlers.
-/

namespace Esp32WifiManager
namespace Auth
namespace AuthDelay

open CString HttpReq

/-! ### The delay -/

def httpServerBruteForceProtectionTimeoutMs : ℕ := 1000

/-- What `http_server_netconn_serve_handle_req` does with a request that it has handled; the time of
a delay is the one that `pdMS_TO_TICKS` is given. -/
inductive ServeEvent
  | taskWdtReset
  | vTaskDelay (ms : ℕ)
  | netconnResp (resp : HttpServerResp)

def bruteForceLoop (wdogPeriodMs : ℕ+) (remainingMs : ℕ) : List ServeEvent :=
  if 0 < remainingMs then
    let stepMs : ℕ := if remainingMs > wdogPeriodMs then wdogPeriodMs else remainingMs
    .vTaskDelay stepMs :: .taskWdtReset :: bruteForceLoop wdogPeriodMs (remainingMs - stepMs)
  else []
termination_by remainingMs
decreasing_by
  have hperiod := wdogPeriodMs.pos
  split <;> omega

def bruteForceProtection (wdogPeriodMs : ℕ+) (resp : HttpServerResp) : List ServeEvent :=
  if resp.httpRespCode = .c401 ∨ resp.httpRespCode = .c403 then
    .taskWdtReset :: bruteForceLoop wdogPeriodMs httpServerBruteForceProtectionTimeoutMs
  else []

section Serve

variable (plat : Platform) (out : Outcomes) (wdogPeriodMs : ℕ+)

def serveHandledReq (param : HttpServerHandleReqParam) (s : HttpServerState) : List ServeEvent :=
  let resp := (httpServerHandleReq plat out param s).1
  bruteForceProtection wdogPeriodMs resp ++ [.netconnResp resp]

end Serve

def ServeEvent.delay : ServeEvent → Option ℕ
  | .taskWdtReset => none
  | .vTaskDelay ms => some ms
  | .netconnResp _ => none

def delays (events : List ServeEvent) : List ℕ := events.filterMap ServeEvent.delay

/-- The delays take exactly the time of the protection, none of them longer than the watchdog waits,
and only then the response is sent. -/
structure Delayed (wdogPeriodMs : ℕ+) (events : List ServeEvent) : Prop where
  sum : (delays events).sum = httpServerBruteForceProtectionTimeoutMs
  le : ∀ ms ∈ delays events, ms ≤ wdogPeriodMs
  last : ∃ waiting resp, events = waiting ++ [.netconnResp resp] ∧
    ∀ other, .netconnResp other ∉ waiting

section Delays

variable (wdogPeriodMs : ℕ+) (resp : HttpServerResp)

theorem delays_cons_step (ms : ℕ) (events : List ServeEvent) :
    delays (.vTaskDelay ms :: .taskWdtReset :: events) = ms :: delays events := rfl

theorem bruteForceLoop_sum (remainingMs : ℕ) :
    (delays (bruteForceLoop wdogPeriodMs remainingMs)).sum = remainingMs := by
  fun_induction bruteForceLoop wdogPeriodMs remainingMs with
  | case1 remainingMs hpos stepMs ih =>
    have hstep : stepMs ≤ remainingMs := by
      unfold stepMs
      split <;> omega
    rw [delays_cons_step, List.sum_cons, ih]
    omega
  | case2 remainingMs hzero =>
    change 0 = remainingMs
    omega

theorem bruteForceLoop_le (remainingMs : ℕ) :
    ∀ ms ∈ delays (bruteForceLoop wdogPeriodMs remainingMs), ms ≤ wdogPeriodMs := by
  fun_induction bruteForceLoop wdogPeriodMs remainingMs with
  | case1 remainingMs hpos stepMs ih =>
    have hstep : stepMs ≤ wdogPeriodMs := by
      unfold stepMs
      split <;> omega
    rw [delays_cons_step]
    exact List.forall_mem_cons.mpr ⟨hstep, ih⟩
  | case2 remainingMs hzero =>
    change ∀ ms ∈ [], ms ≤ _
    simp

theorem netconnResp_notMem_loop (remainingMs : ℕ) (other : HttpServerResp) :
    .netconnResp other ∉ bruteForceLoop wdogPeriodMs remainingMs := by
  fun_induction bruteForceLoop wdogPeriodMs remainingMs with
  | case1 remainingMs hpos stepMs ih => simpa using ih
  | case2 remainingMs hzero => simp

/-- A response is delayed just when its status says so. -/
theorem delayed_iff :
    Delayed wdogPeriodMs (bruteForceProtection wdogPeriodMs resp ++ [.netconnResp resp]) ↔
      resp.httpRespCode = .c401 ∨ resp.httpRespCode = .c403 := by
  have hdelays : delays (bruteForceProtection wdogPeriodMs resp ++ [.netconnResp resp]) =
      delays (bruteForceProtection wdogPeriodMs resp) := by
    simp [delays, ServeEvent.delay]
  unfold bruteForceProtection at hdelays ⊢
  split_ifs at hdelays ⊢ with hcode
  · refine iff_of_true ⟨?_, ?_, _, resp, rfl, ?_⟩ hcode
    · rw [hdelays]
      exact bruteForceLoop_sum _ _
    · rw [hdelays]
      exact bruteForceLoop_le _ _
    · intro other hmem
      rcases List.mem_cons.mp hmem with hreset | hloop
      · cases hreset
      · exact netconnResp_notMem_loop _ _ _ hloop
  · refine iff_of_false (fun h => ?_) hcode
    have hsum := h.sum
    rw [hdelays] at hsum
    cases hsum

end Delays

/-! ### The authentication inside the handler -/

section Step

variable (plat : Platform) (out : Outcomes) (param : HttpServerHandleReqParam)
  (s : HttpServerState)

def getFileName (info : HttpReqInfo) : Bytes :=
  if info.path = [] then ascii "index.html" else info.path

/-- The response of the authentication that `http_server_handle_req` asks for, if it does: not for
the files of the pages, nor for a body that cannot be decrypted. -/
def authStep : Option HttpServerResp :=
  let s := { s with extraHeaderFields := [] }
  let checkAuth (flagCheckRwAccess : Bool) : HttpServerResp :=
    (httpServerHandleReqCheckAuth plat out (param.authParam flagCheckRwAccess) (some false) s).1
  if param.reqInfo.httpCmd = ascii "GET" then
    if getFileName param.reqInfo = ascii "auth" then
      some (httpServerHandleReqGetAuth plat out (param.authParam false) s).1
    else if fileNameNeedsAuth (getFileName param.reqInfo) then
      some (checkAuth (getFileName param.reqInfo = ascii "ap.json"))
    else none
  else if param.reqInfo.httpCmd = ascii "DELETE" then some (checkAuth true)
  else if param.reqInfo.httpCmd = ascii "POST" then
    match httpServerPostBody plat out param.reqInfo with
    | none => none
    | some httpBody =>
      if param.reqInfo.path = ascii "auth" then
        some (httpServerHandleReqPostAuth plat out param.flagAccessFromLan param.reqInfo.httpHeader
          param.remoteIp httpBody s).1
      else some (checkAuth true)
  else none

/-- No token is sent along. -/
def NoToken (param : HttpServerHandleReqAuthParam) (authInfo : HttpServerAuthInfo) : Prop :=
  httpServerHandleReqCheckAuthBearer param.httpHeader param.flagCheckRwAccessWithBearerToken
    authInfo = .notUsed

/-- A page is asked for without a session, where there are sessions: its place is taken by the login
page. -/
structure RedirectsToLogin : Prop where
  get : param.reqInfo.httpCmd = ascii "GET"
  page : getFileName param.reqInfo ≠ ascii "auth"
  noToken : NoToken (param.authParam (getFileName param.reqInfo = ascii "ap.json")) s.authInfo
  isRuuvi : s.authInfo.authType.isRuuvi

/-- A public key is sent along that is not taken. -/
structure KeyExchangeFails : Prop where
  get : param.reqInfo.httpCmd = ascii "GET"
  refused : ∃ field ∈ httpReqHeaderGetField param.reqInfo.httpHeader (ascii "Ruuvi-Ecdh-Pub-Key:"),
    httpServerHandleRuuviEcdhPubKey out (field.value param.reqInfo.httpHeader) = none

end Step

section Codes

variable (plat : Platform) (out : Outcomes) (param : HttpServerHandleReqAuthParam)
  (s : HttpServerState)

theorem getAuthRuuvi_check_code {authType : HttpServerAuthType} (htype : authType ≠ .allow) :
    (httpServerHandleReqGetAuthRuuvi plat out param true authType s).1.httpRespCode = .c200 ∨
      (httpServerHandleReqGetAuthRuuvi plat out param true authType s).1.httpRespCode = .c401 := by
  unfold httpServerHandleReqGetAuthRuuvi
  simp only [htype, decide_false, Bool.and_false, Bool.false_eq_true, if_false, if_true]
  rcases httpServerAuthRuuviGetSessionIdFromCookies param.httpHeader with ⟨_ | _, sessionId⟩
  · exact .inr rfl
  · dsimp only
    cases httpServerAuthRuuviFindAuthorizedSession sessionId param.remoteIp s.ruuvi with
    | none => exact .inr rfl
    | some i => exact .inl rfl

/-- What the handler of a page is told by the check: without a token the flag stays as it is, and
where there are sessions such a request is passed or refused with 401. -/
structure PageCheck (param : HttpServerHandleReqAuthParam) (s : HttpServerState)
    (step : HttpServerResp × Option Bool × HttpServerState) : Prop where
  flag : step.2.1 = some false ↔ NoToken param s.authInfo
  authInfo : step.2.2.authInfo = s.authInfo
  code : NoToken param s.authInfo → s.authInfo.authType.isRuuvi →
    step.1.httpRespCode = .c200 ∨ step.1.httpRespCode = .c401

theorem pageCheck (hlan : param.flagAccessFromLan = true) :
    PageCheck param s (httpServerHandleReqCheckAuth plat out param (some false) s) where
  flag := by
    unfold httpServerHandleReqCheckAuth httpServerHandleReqGetOrCheckAuth NoToken
    rw [hlan]
    dsimp only
    cases httpServerHandleReqCheckAuthBearer param.httpHeader
      param.flagCheckRwAccessWithBearerToken s.authInfo <;> simp
  authInfo := (checkAuth_effect plat out param s (some false)).authInfo
  code := by
    intro htoken hruuvi
    unfold httpServerHandleReqCheckAuth httpServerHandleReqGetOrCheckAuth
      httpServerHandleReqAuthByType
    rw [hlan, htoken]
    rcases hruuvi with htype | htype
    · rw [htype]
      exact getAuthRuuvi_check_code plat out param s (by simp)
    · rw [htype]
      exact getAuthRuuvi_check_code plat out param s (by simp)

end Codes

section Handlers

variable {plat : Platform} {out : Outcomes} {param : HttpServerHandleReqParam} {s : HttpServerState}
  {respAuth : HttpServerResp}

/-- The login page takes the place of a refused page, and of nothing else. -/
structure GetAnswers (param : HttpServerHandleReqParam) (s : HttpServerState)
    (respAuth : HttpServerResp) (code : HttpRespCode) : Prop where
  redirected : RedirectsToLogin param s → code = .c302
  refused : ¬ RedirectsToLogin param s → code = respAuth.httpRespCode

theorem PageCheck.answers {step : HttpServerResp × Option Bool × HttpServerState}
    {t : HttpServerState}
    (h : PageCheck (param.authParam (getFileName param.reqInfo = ascii "ap.json")) t step)
    (hinfo : t.authInfo = s.authInfo)
    (hget : param.reqInfo.httpCmd = ascii "GET") (hpage : getFileName param.reqInfo ≠ ascii "auth")
    (hfail : step.1.httpRespCode ≠ .c200) {login served : HttpServerResp × HttpServerState}
    (hlogin : login.1.httpRespCode = .c302) :
    GetAnswers param s step.1
      (if step.2.1 = some false ∧ step.1.httpRespCode = .c401 ∧
          (step.2.2.authInfo.authType = .ruuvi ∨ step.2.2.authInfo.authType = .default) then login
        else if step.1.httpRespCode ≠ .c200 then (step.1, step.2.2)
        else served).1.httpRespCode := by
  have hiff : (step.2.1 = some false ∧ step.1.httpRespCode = .c401 ∧
      (step.2.2.authInfo.authType = .ruuvi ∨ step.2.2.authInfo.authType = .default)) ↔
        RedirectsToLogin param s := by
    rw [h.flag, h.authInfo, hinfo]
    constructor
    · rintro ⟨htoken, -, hruuvi⟩
      exact ⟨hget, hpage, hinfo ▸ htoken, hruuvi⟩
    · intro hredirect
      have htoken := hredirect.noToken
      rw [← hinfo] at htoken
      have hcode := h.code htoken (hinfo ▸ hredirect.isRuuvi)
      exact ⟨hinfo ▸ htoken, hcode.resolve_left hfail, hredirect.isRuuvi⟩
  by_cases hredirect : RedirectsToLogin param s
  · rw [if_pos (hiff.mpr hredirect)]
    exact ⟨fun _ => hlogin, fun hnot => absurd hredirect hnot⟩
  · rw [if_neg (mt hiff.mp hredirect), if_pos hfail]
    exact ⟨fun h => absurd h hredirect, fun _ => rfl⟩

theorem get_answers (hlan : param.flagAccessFromLan = true)
    (hget : param.reqInfo.httpCmd = ascii "GET") (hauth : authStep plat out param s = some respAuth)
    (hfail : respAuth.httpRespCode ≠ .c200) :
    GetAnswers param s respAuth (httpServerHandleReqGet plat out param.reqInfo.path param
      { s with extraHeaderFields := [] }).1.httpRespCode := by
  have hname : (if param.reqInfo.path = [] then ascii "index.html" else param.reqInfo.path) =
      getFileName param.reqInfo := rfl
  unfold authStep at hauth
  unfold httpServerHandleReqGet
  dsimp only at hauth ⊢
  rw [if_pos hget] at hauth
  rw [hname]
  by_cases hpage : getFileName param.reqInfo = ascii "auth"
  · rw [if_pos hpage] at hauth ⊢
    obtain rfl := Option.some.inj hauth
    exact ⟨fun h => absurd hpage h.page, fun _ => rfl⟩
  · rw [if_neg hpage] at hauth ⊢
    by_cases hneeds : fileNameNeedsAuth (getFileName param.reqInfo) = true
    · rw [if_pos hneeds] at hauth ⊢
      obtain rfl := Option.some.inj hauth
      have hcheck := pageCheck plat out
        (param.authParam (getFileName param.reqInfo = ascii "ap.json"))
        { s with extraHeaderFields := [] } hlan
      generalize httpServerHandleReqCheckAuth plat out _ _ _ = step at hcheck hfail ⊢
      refine hcheck.answers (s := s) rfl hget hpage hfail ?_
      split_ifs <;> rfl
    · rw [if_neg hneeds] at hauth
      cases hauth

/-- The status of the response to a request that is refused. -/
structure RefusedAnswers (out : Outcomes) (param : HttpServerHandleReqParam) (s : HttpServerState)
    (respAuth : HttpServerResp) (code : HttpRespCode) : Prop where
  replaced : KeyExchangeFails out param → code = .c500
  answered : ¬ KeyExchangeFails out param → GetAnswers param s respAuth code

theorem refused_answers (hlan : param.flagAccessFromLan = true)
    (hauth : authStep plat out param s = some respAuth)
    (hfail : respAuth.httpRespCode ≠ .c200) :
    RefusedAnswers out param s respAuth (httpServerHandleReq plat out param s).1.httpRespCode := by
  by_cases hget : param.reqInfo.httpCmd = ascii "GET"
  · have hanswers := get_answers hlan hget hauth hfail
    unfold httpServerHandleReq httpServerHandleReqGetWithEcdhKey
    dsimp only
    rw [if_pos hget]
    cases hfield : httpReqHeaderGetField param.reqInfo.httpHeader
        (ascii "Ruuvi-Ecdh-Pub-Key:") with
    | none =>
      refine ⟨fun h => ?_, fun _ => hanswers⟩
      obtain ⟨field, hmem, -⟩ := h.refused
      rw [hfield] at hmem
      cases hmem
    | some field =>
      dsimp only
      cases hkey : httpServerHandleRuuviEcdhPubKey out (field.value param.reqInfo.httpHeader) with
      | none => exact ⟨fun _ => rfl, fun hnot => absurd ⟨hget, field, hfield, hkey⟩ hnot⟩
      | some pubKeySrv =>
        refine ⟨fun h => ?_, fun _ => hanswers⟩
        obtain ⟨other, hmem, hrefused⟩ := h.refused
        obtain rfl := Option.some.inj (hfield.symm.trans hmem)
        rw [hkey] at hrefused
        cases hrefused
  · refine ⟨fun h => absurd h.get hget, fun _ => ⟨fun h => absurd h.get hget, fun _ => ?_⟩⟩
    unfold authStep at hauth
    unfold httpServerHandleReq
    dsimp only at hauth ⊢
    rw [if_neg hget] at hauth ⊢
    by_cases hdelete : param.reqInfo.httpCmd = ascii "DELETE"
    · rw [if_pos hdelete] at hauth ⊢
      obtain rfl := Option.some.inj hauth
      unfold httpServerHandleReqDelete
      dsimp only
      rw [if_pos hfail]
    · rw [if_neg hdelete] at hauth ⊢
      by_cases hpost : param.reqInfo.httpCmd = ascii "POST"
      · rw [if_pos hpost] at hauth ⊢
        unfold httpServerHandleReqPostWithEcdhKey
        cases hbody : httpServerPostBody plat out param.reqInfo with
        | none =>
          rw [hbody] at hauth
          cases hauth
        | some httpBody =>
          rw [hbody] at hauth
          unfold httpServerHandleReqPost
          dsimp only at hauth ⊢
          split_ifs at hauth ⊢
          · obtain rfl := Option.some.inj hauth
            rfl
          · obtain rfl := Option.some.inj hauth
            rfl
          · obtain rfl := Option.some.inj hauth
            contradiction
      · rw [if_neg hpost] at hauth
        cases hauth

/-- A request from LAN that is refused with 401 or 403 is delayed, unless the login page or the
failure of the key exchange is sent in place of the refusal; nothing else that is refused is
delayed. -/
theorem failed_auth_delayed (wdogPeriodMs : ℕ+) (hlan : param.flagAccessFromLan = true)
    (hauth : authStep plat out param s = some respAuth)
    (hfail : respAuth.httpRespCode ≠ .c200) :
    (Delayed wdogPeriodMs (serveHandledReq plat out wdogPeriodMs param s) ↔
      (respAuth.httpRespCode = .c401 ∨ respAuth.httpRespCode = .c403) ∧
        ¬ RedirectsToLogin param s ∧ ¬ KeyExchangeFails out param) ∧
    RefusedAnswers out param s respAuth (httpServerHandleReq plat out param s).1.httpRespCode := by
  have hanswers := refused_answers hlan hauth hfail
  refine ⟨?_, hanswers⟩
  unfold serveHandledReq
  rw [delayed_iff]
  by_cases hkey : KeyExchangeFails out param
  · rw [hanswers.replaced hkey]
    simp [hkey]
  · have hget := hanswers.answered hkey
    by_cases hredirect : RedirectsToLogin param s
    · rw [hget.redirected hredirect]
      simp [hredirect]
    · rw [hget.refused hredirect]
      simp [hkey, hredirect]

end Handlers

/-! ### Refused requests of a sample run -/

/-- A request from LAN, with the server as it is configured. -/
def lanReq (cmd uri : String) (header : Bytes) : HttpServerHandleReqParam :=
  ⟨⟨ascii cmd, ascii uri, none, header, []⟩, sampleIp, true⟩

def configured (authType : HttpServerAuthType) : HttpServerState :=
  sampleRun (ascii "admin") [sampleSetAuth authType (ascii "admin")]

def sampleStep (authType : HttpServerAuthType) (param : HttpServerHandleReqParam) :
    Option HttpServerResp :=
  authStep (samplePlatform (ascii "admin")) sampleOutcomes param (configured authType)

def sampleServe (authType : HttpServerAuthType) (param : HttpServerHandleReqParam) :
    List ServeEvent :=
  serveHandledReq (samplePlatform (ascii "admin")) sampleOutcomes 333 param (configured authType)

def deleteMetrics : HttpServerHandleReqParam := lanReq "DELETE" "/metrics" []

/-- A request without a session is delayed in steps of 333 ms at most. -/
theorem failed_auth_delayed_metrics : Delayed 333 (sampleServe .ruuvi deleteMetrics) := by
  have hstep : (sampleStep .ruuvi deleteMetrics).map (·.httpRespCode) = some .c401 := by
    decide +kernel
  obtain ⟨respAuth, hauth, hcode⟩ := Option.map_eq_some_iff.mp hstep
  refine (failed_auth_delayed 333 rfl hauth (by simp [hcode])).1.mpr ?_
  exact ⟨.inl hcode, fun h => absurd h.get (by decide), fun h => absurd h.get (by decide)⟩

/-- The status of the authentication, of the response, and whether the request is delayed. -/
def Undelayed (authType : HttpServerAuthType) (param : HttpServerHandleReqParam)
    (refusal answer : HttpRespCode) : Prop :=
  ((sampleStep authType param).map (·.httpRespCode) = some refusal ∧ refusal ≠ .c200) ∧
    (httpServerHandleReq (samplePlatform (ascii "admin")) sampleOutcomes param
      (configured authType)).1.httpRespCode = answer ∧
    ¬ Delayed 333 (sampleServe authType param)

theorem undelayed_of_code {authType : HttpServerAuthType} {param : HttpServerHandleReqParam}
    {refusal answer : HttpRespCode}
    (hstep : (sampleStep authType param).map (·.httpRespCode) = some refusal ∧ refusal ≠ .c200)
    (hanswer : (httpServerHandleReq (samplePlatform (ascii "admin")) sampleOutcomes param
      (configured authType)).1.httpRespCode = answer)
    (hcode : answer ≠ .c401 ∧ answer ≠ .c403) : Undelayed authType param refusal answer := by
  refine ⟨hstep, hanswer, fun hdelayed => ?_⟩
  have hcodes := (delayed_iff 333 _).mp hdelayed
  rw [hanswer] at hcodes
  exact hcodes.elim hcode.1 hcode.2

/-- A page without a session, a login session with a public key that is not taken, and a login where
there are no sessions. -/
theorem failed_auth_not_delayed :
    Undelayed .ruuvi (lanReq "GET" "/metrics" []) .c401 .c302 ∧
    Undelayed .ruuvi (lanReq "GET" "/auth" (ascii "Ruuvi-Ecdh-Pub-Key: A\r\n")) .c401 .c500 ∧
    Undelayed .basic (lanReq "POST" "/auth" []) .c503 .c503 ∧
    ¬ ∀ (plat : Platform) (out : Outcomes) (param : HttpServerHandleReqParam) (s : HttpServerState)
      (respAuth : HttpServerResp) (wdogPeriodMs : ℕ+), param.flagAccessFromLan = true →
      authStep plat out param s = some respAuth → respAuth.httpRespCode ≠ .c200 →
      Delayed wdogPeriodMs (serveHandledReq plat out wdogPeriodMs param s) := by
  have hpage : Undelayed .ruuvi (lanReq "GET" "/metrics" []) .c401 .c302 :=
    undelayed_of_code (by decide +kernel) (by decide +kernel) (by decide)
  refine ⟨hpage, ?_, ?_, ?_⟩
  · exact undelayed_of_code (by decide +kernel) (by decide +kernel) (by decide)
  · exact undelayed_of_code (by decide +kernel) (by decide +kernel) (by decide)
  · intro h
    obtain ⟨⟨hstep, hcode⟩, -, hnot⟩ := hpage
    obtain ⟨respAuth, hauth, hrespCode⟩ := Option.map_eq_some_iff.mp hstep
    exact hnot (h _ _ _ _ _ 333 rfl hauth (hrespCode ▸ hcode))

end AuthDelay
end Auth
end Esp32WifiManager
