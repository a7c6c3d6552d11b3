import Esp32WifiManager.HttpServer.HandleReq

/-!
# What a request does to the sessions

Every handler either leaves the sessions alone, draws a new login session,
writes the directives of a `Digest` header over them, moves the pending session
into the table or frees a slot. `request_effect` says which, and under which
condition; the invariants of the runs are derived from it.
-/

namespace Esp32WifiManager
namespace Auth

open CString HttpReq

/-- The part of the state that decides who is authorized. -/
structure SessionState where
  auth : HttpServerAuth
  authInfo : HttpServerAuthInfo
  loginSessions : List HttpServerAuthRuuviLoginSession

def HttpServerState.sessions (s : HttpServerState) : SessionState :=
  ⟨s.auth, s.authInfo, s.loginSessions⟩

def SessionState.setRuuvi (s : SessionState) (ruuvi : HttpServerAuthRuuvi) : SessionState :=
  { s with auth := { s.auth with ruuvi := ruuvi } }

/-- `session` has been drawn and is the pending one. -/
def SessionState.draw (session : HttpServerAuthRuuviLoginSession) (s : SessionState) :
    SessionState :=
  { s.setRuuvi { s.auth.ruuvi with loginSession := session } with
    loginSessions := s.loginSessions ++ [session] }

/-- `session` has been drawn and is in the table at once. -/
def SessionState.grant (session : HttpServerAuthRuuviLoginSession) (remoteIp : CharBuf 17)
    (s : SessionState) : SessionState :=
  let s := s.draw session
  s.setRuuvi (httpServerAuthRuuviAddAuthorizedSession session.sessionId remoteIp s.auth.ruuvi)

def SessionState.authorize (sessionId remoteIp : CharBuf 17) (s : SessionState) : SessionState :=
  let ruuvi := httpServerAuthRuuviAddAuthorizedSession sessionId remoteIp s.auth.ruuvi
  s.setRuuvi
    { ruuvi with loginSession := httpServerAuthRuuviLoginSessionClear ruuvi.loginSession }

def SessionState.deleteSlot (i : Fin httpServerAuthRuuviMaxNumSessions) (s : SessionState) :
    SessionState :=
  s.setRuuvi (s.auth.ruuvi.deleteSlot i)

section SessionFrames

variable (s : SessionState) (session : HttpServerAuthRuuviLoginSession)
  (sessionId remoteIp : CharBuf 17) (i : Fin httpServerAuthRuuviMaxNumSessions)

@[simp] theorem draw_authInfo : (s.draw session).authInfo = s.authInfo := rfl

@[simp] theorem draw_loginSessions :
    (s.draw session).loginSessions = s.loginSessions ++ [session] := rfl

@[simp] theorem grant_authInfo : (s.grant session remoteIp).authInfo = s.authInfo := rfl

@[simp] theorem grant_loginSessions :
    (s.grant session remoteIp).loginSessions = s.loginSessions ++ [session] := rfl

@[simp] theorem authorize_authInfo : (s.authorize sessionId remoteIp).authInfo = s.authInfo := rfl

@[simp] theorem authorize_loginSessions :
    (s.authorize sessionId remoteIp).loginSessions = s.loginSessions := rfl

@[simp] theorem deleteSlot_authInfo : (s.deleteSlot i).authInfo = s.authInfo := rfl

@[simp] theorem deleteSlot_loginSessions :
    (s.deleteSlot i).loginSessions = s.loginSessions := rfl

end SessionFrames

section Frames

variable (s : HttpServerState)

@[simp] theorem sessions_printExtraHeaderFields (fields : Bytes) :
    (s.printExtraHeaderFields fields).sessions = s.sessions := rfl

@[simp] theorem sessions_skipRandom (n : ℕ) : (s.skipRandom n).sessions = s.sessions := rfl

@[simp] theorem sessions_extraHeaderFields (fields : Bytes) :
    HttpServerState.sessions { s with extraHeaderFields := fields } = s.sessions := rfl

@[simp] theorem sessions_authorize (sessionId remoteIp : CharBuf 17) :
    (s.authorize sessionId remoteIp).sessions = s.sessions.authorize sessionId remoteIp := rfl

@[simp] theorem sessions_deleteSlot (i : Fin httpServerAuthRuuviMaxNumSessions) :
    (s.setRuuvi (s.ruuvi.deleteSlot i)).sessions = s.sessions.deleteSlot i := rfl

theorem sessions_loginSessionInit (plat : Platform) (out : Outcomes) (remoteIp : CharBuf 17) :
    (httpServerLoginSessionInit plat out remoteIp s).sessions =
      s.sessions.draw (drawLoginSession plat out remoteIp s) := by
  unfold httpServerLoginSessionInit
  generalize drawLoginSession plat out remoteIp s = session
  rfl

theorem sessions_ext {s t : HttpServerState} (h : t.sessions = s.sessions) :
    t.auth = s.auth ∧ t.authInfo = s.authInfo ∧ t.loginSessions = s.loginSessions := by
  simpa [HttpServerState.sessions] using h

end Frames

/-! ### The kinds of requests -/

/-- A `POST /auth` from LAN. -/
def HttpServerHandleReqParam.isPostAuth (param : HttpServerHandleReqParam) : Prop :=
  param.reqInfo.httpCmd = ascii "POST" ∧ param.reqInfo.path = ascii "auth" ∧
    param.flagAccessFromLan = true

instance (param : HttpServerHandleReqParam) : Decidable param.isPostAuth :=
  inferInstanceAs (Decidable (_ ∧ _ ∧ _))

def HttpServerHandleReqParam.isDeleteAuth (param : HttpServerHandleReqParam) : Prop :=
  param.reqInfo.httpCmd = ascii "DELETE" ∧ param.reqInfo.path = ascii "auth"

instance (param : HttpServerHandleReqParam) : Decidable param.isDeleteAuth :=
  inferInstanceAs (Decidable (_ ∧ _))

/-- The request has the session cookie. -/
def HttpServerHandleReqParam.HasSessionId (param : HttpServerHandleReqParam)
    (sessionId : CharBuf 17) : Prop :=
  httpServerAuthRuuviGetSessionIdFromCookies param.reqInfo.httpHeader = (true, sessionId)

/-- Session authentication is in use. -/
def HttpServerAuthType.isRuuvi (authType : HttpServerAuthType) : Prop :=
  authType = .ruuvi ∨ authType = .default

instance (authType : HttpServerAuthType) : Decidable authType.isRuuvi :=
  inferInstanceAs (Decidable (_ ∨ _))

/-- The credentials in `body` are the configured ones, hashed with the pending challenge. -/
structure GoodCredentials (plat : Platform) (s : SessionState) (body : Bytes) : Prop where
  user : s.authInfo.authUser ≠ []
  parsed : ∃ root login password, plat.cJsonParse body = some root ∧
    root (ascii "login") = some (some login) ∧ root (ascii "password") = some (some password) ∧
    snprintf httpServerAuthUserLen (text login) = s.authInfo.authUser ∧
    snprintf httpServerAuthPassLen (text password) =
      (hashedPassword plat s.auth.ruuvi.loginSession.challenge.str s.authInfo.authPass).str

/-- No allocation of a login fails, nor does the digest. -/
structure Outcomes.LoginMemory (out : Outcomes) : Prop where
  authReq : out.callocAuthReq = true
  json : out.jsonMem = true
  passwordHash : out.callocPasswordHash = true
  digest : out.hashedPassword = true

/-- What has been checked when a login succeeds. -/
structure LoginChecked (plat : Platform) (out : Outcomes) (param : HttpServerHandleReqParam)
    (sessionId : CharBuf 17) (s : SessionState) : Prop where
  isPostAuth : param.isPostAuth
  authType : s.authInfo.authType.isRuuvi
  cookie : param.HasSessionId sessionId
  pending : s.auth.ruuvi.loginSession.matches sessionId param.remoteIp = true
  body : ∃ body, httpServerPostBody plat out param.reqInfo = some body ∧ GoodCredentials plat s body
  memory : out.LoginMemory

/-- What has been found when a logout succeeds. -/
structure LogoutFound (param : HttpServerHandleReqParam) (sessionId : CharBuf 17)
    (i : Fin httpServerAuthRuuviMaxNumSessions) (s : SessionState) : Prop where
  isDeleteAuth : param.isDeleteAuth
  authType : s.authInfo.authType.isRuuvi
  cookie : param.HasSessionId sessionId
  found : httpServerAuthRuuviFindAuthorizedSession sessionId param.remoteIp s.auth.ruuvi = some i

/-! ### Effects -/

/-- The effects that no login and no logout has. -/
inductive QuietEffect (remoteIp : CharBuf 17) (s s' : SessionState) : Prop
  | keep (h : s' = s)
  | draw (session : HttpServerAuthRuuviLoginSession) (h : s' = s.draw session)
  | grant (session : HttpServerAuthRuuviLoginSession) (ht : s.authInfo.authType = .allow)
      (h : s' = s.grant session remoteIp)
  | digest (req : HttpServerAuthDigestReq) (ht : s.authInfo.authType = .digest)
      (h : s' = { s with auth := .ofDigest req })

/-- All effects of a request that is answered with `code`. -/
inductive RequestEffect (plat : Platform) (out : Outcomes) (param : HttpServerHandleReqParam)
    (code : HttpRespCode) (s s' : SessionState) : Prop
  | quiet (hq : code = .c200 → ¬ param.isPostAuth ∧ ¬ param.isDeleteAuth)
      (h : QuietEffect param.remoteIp s s')
  | login (sessionId : CharBuf 17) (hcode : code = .c200)
      (hl : LoginChecked plat out param sessionId s)
      (h : s' = s.authorize sessionId param.remoteIp)
  | logout (sessionId : CharBuf 17) (i : Fin httpServerAuthRuuviMaxNumSessions)
      (hcode : code = .c200) (hl : LogoutFound param sessionId i s) (h : s' = s.deleteSlot i)

/-- The effect of a handler that answers and goes on with `r`. -/
abbrev HandlerEffect (plat : Platform) (out : Outcomes) (param : HttpServerHandleReqParam)
    (s : HttpServerState) (r : HttpServerResp × HttpServerState) : Prop :=
  RequestEffect plat out param r.1.httpRespCode s.sessions r.2.sessions

/-! ### Response codes -/

section Codes

variable (json : Bytes)

@[simp] theorem httpServerResp200Json_code :
    (httpServerResp200Json json).httpRespCode = .c200 := rfl

@[simp] theorem httpServerResp401Json_code :
    (httpServerResp401Json json).httpRespCode = .c401 := rfl

@[simp] theorem httpServerResp403Json_code :
    (httpServerResp403Json json).httpRespCode = .c403 := rfl

@[simp] theorem httpServerRespErr_code (code : HttpRespCode) :
    (httpServerRespErr code).httpRespCode = code := rfl

end Codes

section Effects

variable (plat : Platform) (out : Outcomes)

theorem respWithNewSessionId_code (remoteIp : CharBuf 17) (lanAuthType : HttpServerAuthType)
    (errMessage : Option Bytes) (s : HttpServerState) :
    (httpServerResp401AuthRuuviWithNewSessionId plat out remoteIp lanAuthType errMessage
      s).1.httpRespCode ≠ .c200 := by
  unfold httpServerResp401AuthRuuviWithNewSessionId
  dsimp only
  split
  · simp [httpServerResp503]
  · simp

theorem respWithNewSessionId_sessions (remoteIp : CharBuf 17) (lanAuthType : HttpServerAuthType)
    (errMessage : Option Bytes) (s : HttpServerState) :
    (httpServerResp401AuthRuuviWithNewSessionId plat out remoteIp lanAuthType errMessage
      s).2.sessions = s.sessions.draw (drawLoginSession plat out remoteIp s) := by
  rw [← sessions_loginSessionInit]
  unfold httpServerResp401AuthRuuviWithNewSessionId
  generalize httpServerLoginSessionInit plat out remoteIp s = s₁
  dsimp only
  split
  · rfl
  · rfl

theorem respAuthAllow_effect (remoteIp : CharBuf 17) {s : HttpServerState}
    (ht : s.authInfo.authType = .allow) :
    QuietEffect remoteIp s.sessions
      (httpServerResp200AuthAllowWithNewSessionId plat out remoteIp s).2.sessions := by
  have hdraw := sessions_loginSessionInit s plat out remoteIp
  have hid : (httpServerLoginSessionInit plat out remoteIp s).ruuvi.loginSession =
      drawLoginSession plat out remoteIp s := by
    unfold httpServerLoginSessionInit
    generalize drawLoginSession plat out remoteIp s = session
    rfl
  unfold httpServerResp200AuthAllowWithNewSessionId
  generalize drawLoginSession plat out remoteIp s = session at hdraw hid
  generalize httpServerLoginSessionInit plat out remoteIp s = s₁ at hdraw hid ⊢
  dsimp only
  split
  · exact .draw session hdraw
  · refine .grant session ht ?_
    rw [SessionState.grant, ← hdraw, ← hid]
    rfl

/-! ### The check -/

/-- A check leaves the sessions alone, unless it parses the directives of a `Digest` header. -/
inductive CheckEffect (s s' : SessionState) : Prop
  | keep (h : s' = s)
  | digest (req : HttpServerAuthDigestReq) (ht : s.authInfo.authType = .digest)
      (h : s' = { s with auth := .ofDigest req })

theorem CheckEffect.quiet {s s' : SessionState} (h : CheckEffect s s') (remoteIp : CharBuf 17) :
    QuietEffect remoteIp s s' := by
  cases h with
  | keep h => exact .keep h
  | digest req ht h => exact .digest req ht h

theorem CheckEffect.authInfo {s s' : SessionState} (h : CheckEffect s s') :
    s'.authInfo = s.authInfo := by
  cases h with
  | keep h => rw [h]
  | digest req ht h => rw [h]

theorem CheckEffect.eq_of_isRuuvi {s s' : SessionState} (h : CheckEffect s s')
    (ht : s.authInfo.authType.isRuuvi) : s' = s := by
  cases h with
  | keep h => exact h
  | digest req ht' h =>
    rw [ht'] at ht
    rcases ht with ht | ht <;> cases ht

variable (param : HttpServerHandleReqAuthParam) (s : HttpServerState)

theorem respAuthBasic_sessions :
    (httpServerResp401AuthBasic plat s).2.sessions = s.sessions := rfl

theorem respAuthDigest_sessions :
    (httpServerResp401AuthDigest plat out s).2.sessions = s.sessions := by
  unfold httpServerResp401AuthDigest
  dsimp only
  split
  · rfl
  · rfl

theorem getAuthBasic_sessions :
    (httpServerHandleReqGetAuthBasic plat param s).2.sessions = s.sessions := by
  unfold httpServerHandleReqGetAuthBasic
  split
  · exact respAuthBasic_sessions plat s
  · dsimp only
    split_ifs
    · exact respAuthBasic_sessions plat s
    · exact respAuthBasic_sessions plat s
    · exact respAuthBasic_sessions plat s
    · rfl

theorem getAuthDigest_effect (ht : s.authInfo.authType = .digest) :
    CheckEffect s.sessions (httpServerHandleReqGetAuthDigest plat out param s).2.sessions := by
  unfold httpServerHandleReqGetAuthDigest
  split
  · exact .keep (respAuthDigest_sessions plat out s)
  · next field _ =>
    dsimp only
    set req := (httpServerParseDigestAuthorizationStr (param.httpHeader.drop field.ptr) field.len
      s.auth.digest).2
    refine .digest req ht ?_
    split_ifs
    · exact respAuthDigest_sessions plat out _
    · exact respAuthDigest_sessions plat out _
    · rfl
    · rfl
    · exact respAuthDigest_sessions plat out _
    · rfl

/-- With `flag_check` the table is only read. -/
theorem getAuthRuuvi_check (authType : HttpServerAuthType) :
    (httpServerHandleReqGetAuthRuuvi plat out param true authType s).2 = s := by
  unfold httpServerHandleReqGetAuthRuuvi
  by_cases ht : authType = .allow
  · simp [ht]
  · simp only [ht, decide_false, Bool.and_false, Bool.false_eq_true, if_false, if_true]
    split
    · rfl
    · split
      · rfl
      · rfl

theorem getAuthRuuvi_effect :
    QuietEffect param.remoteIp s.sessions
      (httpServerHandleReqGetAuthRuuvi plat out param false s.authInfo.authType s).2.sessions := by
  have hnew (errMessage : Option Bytes) :
      QuietEffect param.remoteIp s.sessions
        (httpServerResp401AuthRuuviWithNewSessionId plat out param.remoteIp s.authInfo.authType
          errMessage s).2.sessions :=
    .draw _ (respWithNewSessionId_sessions plat out _ _ _ _)
  unfold httpServerHandleReqGetAuthRuuvi
  simp only [Bool.false_and, Bool.false_eq_true, if_false]
  split
  · split_ifs with ht
    · exact respAuthAllow_effect plat out param.remoteIp ht
    · exact hnew none
  · split
    · split_ifs with ht
      · exact respAuthAllow_effect plat out param.remoteIp ht
      · exact hnew none
    · exact .keep rfl

theorem authByType_check :
    CheckEffect s.sessions (httpServerHandleReqAuthByType plat out param true s).2.sessions := by
  unfold httpServerHandleReqAuthByType
  split
  · exact .keep (by rw [getAuthRuuvi_check])
  · exact .keep (getAuthBasic_sessions plat param s)
  · next ht => exact getAuthDigest_effect plat out param s ht
  · exact .keep (by rw [getAuthRuuvi_check])
  · exact .keep rfl
  · exact .keep (by rw [getAuthRuuvi_check])
  · exact .keep rfl

theorem authByType_effect :
    QuietEffect param.remoteIp s.sessions
      (httpServerHandleReqAuthByType plat out param false s).2.sessions := by
  have hruuvi := getAuthRuuvi_effect plat out param s
  unfold httpServerHandleReqAuthByType
  split
  · next ht => simpa only [ht] using hruuvi
  · exact .keep (getAuthBasic_sessions plat param s)
  · next ht => exact (getAuthDigest_effect plat out param s ht).quiet _
  · next ht => simpa only [ht] using hruuvi
  · exact .keep rfl
  · next ht => simpa only [ht] using hruuvi
  · exact .keep rfl

theorem checkAuth_effect (flag : Option Bool) :
    CheckEffect s.sessions (httpServerHandleReqCheckAuth plat out param flag s).2.2.sessions := by
  unfold httpServerHandleReqCheckAuth
  split
  · exact .keep rfl
  · unfold httpServerHandleReqGetOrCheckAuth
    split
    · exact authByType_check plat out param s
    · split
      · exact authByType_check plat out param s
      · exact .keep rfl
      · exact .keep rfl

theorem getAuth_effect :
    QuietEffect param.remoteIp s.sessions
      (httpServerHandleReqGetAuth plat out param s).2.sessions := by
  unfold httpServerHandleReqGetAuth
  split
  · exact .keep rfl
  · exact authByType_effect plat out param s

/-! ### Login and logout -/

theorem jsonGetStringVal_eq_some {root : Bytes → Option (Option Bytes)} {attrName str : Bytes}
    {bufLen : ℕ} (h : httpServerJsonGetStringVal root attrName bufLen = some str) :
    ∃ val, root attrName = some (some val) ∧ snprintf bufLen (text val) = str := by
  unfold httpServerJsonGetStringVal at h
  split at h
  · cases h
  · cases h
  · next val hval =>
    cases h
    exact ⟨val, hval, rfl⟩

theorem jsonRuuviAuthParse_eq_some {root : Bytes → Option (Option Bytes)}
    {req : HttpServerAuthRuuviReq} (h : jsonRuuviAuthParse root = some req) :
    ∃ login password, root (ascii "login") = some (some login) ∧
      root (ascii "password") = some (some password) ∧
      snprintf httpServerAuthUserLen (text login) = req.username ∧
      snprintf httpServerAuthPassLen (text password) = req.password := by
  unfold jsonRuuviAuthParse at h
  split at h
  · cases h
  · next username huser =>
    split at h
    · cases h
    · next password hpass =>
      cases h
      obtain ⟨login, hlogin, hlen⟩ := jsonGetStringVal_eq_some huser
      obtain ⟨val, hval, hlen'⟩ := jsonGetStringVal_eq_some hpass
      exact ⟨login, val, hlogin, hval, hlen, hlen'⟩

theorem jsonRuuviAuthParseHttpBody_eq_some {body : Bytes} {req : HttpServerAuthRuuviReq}
    (h : jsonRuuviAuthParseHttpBody plat out body = some req) :
    out.jsonMem = true ∧
      ∃ root, plat.cJsonParse body = some root ∧ jsonRuuviAuthParse root = some req := by
  unfold jsonRuuviAuthParseHttpBody cJsonParse at h
  split at h
  · cases h
  · next root hroot =>
    split_ifs at hroot with hmem
    exact ⟨hmem, root, hroot, h⟩

/-- The credential check: it accepts and changes nothing, gives up for lack of memory, or draws a
new login session. -/
inductive CredentialCheck (plat : Platform) (out : Outcomes) (remoteIp : CharBuf 17) (body : Bytes)
    (s : HttpServerState) (r : HttpServerResp × HttpServerState) : Prop
  | accepted (hcode : r.1.httpRespCode = .c200) (hg : GoodCredentials plat s.sessions body)
      (hmem : out.callocAuthReq = true → out.LoginMemory) (h : r.2 = s)
  | noMemory (hcode : r.1.httpRespCode = .c500) (hmem : out.callocPasswordHash = false)
      (h : r.2 = s)
  | rejected (hcode : r.1.httpRespCode ≠ .c200)
      (h : r.2.sessions = s.sessions.draw (drawLoginSession plat out remoteIp s))

theorem postAuthCheckAuth_cases (authType : HttpServerAuthType) (remoteIp : CharBuf 17)
    (body : Bytes) (s : HttpServerState) :
    CredentialCheck plat out remoteIp body s
      (httpServerHandleReqPostAuthCheckAuth plat out authType remoteIp body s) := by
  have hrej (errMessage : Option Bytes) : CredentialCheck plat out remoteIp body s
      (httpServerResp401AuthRuuviWithNewSessionId plat out remoteIp authType errMessage s) :=
    .rejected (respWithNewSessionId_code plat out _ _ _ _)
      (respWithNewSessionId_sessions plat out _ _ _ _)
  unfold httpServerHandleReqPostAuthCheckAuth
  dsimp only
  split
  · exact hrej none
  · next req hreq =>
    split_ifs with hempty huser hcalloc
    · exact hrej _
    · exact hrej _
    · exact .noMemory rfl (by simpa using hcalloc) rfl
    · split
      · exact hrej none
      · next hash hhash =>
        split_ifs with hpass
        · exact hrej _
        · obtain ⟨hjson, root, hroot, hparse⟩ := jsonRuuviAuthParseHttpBody_eq_some plat out hreq
          obtain ⟨login, password, hlogin, hpassword, hu, hp⟩ := jsonRuuviAuthParse_eq_some hparse
          have huser := not_not.mp huser
          obtain ⟨hdigest, hhash⟩ : out.hashedPassword = true ∧
              hash = hashedPassword plat s.ruuvi.loginSession.challenge.str s.authInfo.authPass := by
            unfold httpServerAuthRuuviGenHashedPassword at hhash
            split_ifs at hhash with hdigest
            exact ⟨hdigest, (Option.some.inj hhash).symm⟩
          have hne : s.authInfo.authUser ≠ [] := huser.trans_ne hempty
          have hp : snprintf httpServerAuthPassLen (text password) =
              (hashedPassword plat s.ruuvi.loginSession.challenge.str s.authInfo.authPass).str := by
            rw [hp, ← hhash]
            exact (not_not.mp hpass).symm
          exact .accepted rfl
            ⟨hne, root, login, password, hroot, hlogin, hpassword, hu.trans huser.symm, hp⟩
            (fun hreq => ⟨hreq, hjson, by simpa using hcalloc, hdigest⟩) rfl

theorem postAuthCheckLoginSession_eq_none {sessionId remoteIp : CharBuf 17}
    {authType : HttpServerAuthType} {s : HttpServerState}
    (h : s.ruuvi.loginSession.matches sessionId remoteIp = true) :
    httpServerHandleReqPostAuthCheckLoginSession plat out sessionId remoteIp authType s = none :=
  if_pos h

theorem postAuthCheckLoginSession_eq_some {sessionId remoteIp : CharBuf 17}
    {authType : HttpServerAuthType} {s : HttpServerState}
    (h : ¬ s.ruuvi.loginSession.matches sessionId remoteIp = true) :
    httpServerHandleReqPostAuthCheckLoginSession plat out sessionId remoteIp authType s =
      some (httpServerResp401AuthRuuviWithNewSessionId plat out remoteIp authType none s) :=
  if_neg h

/-- The end of a login whose credentials are looked at: it moves the pending session into the
table, gives up for lack of memory, or draws a new login session. -/
inductive LoginOutcome (plat : Platform) (out : Outcomes) (sessionId remoteIp : CharBuf 17)
    (body : Bytes) (s : HttpServerState) (r : HttpServerResp × HttpServerState) : Prop
  | accepted (hcode : r.1.httpRespCode = .c200) (hg : GoodCredentials plat s.sessions body)
      (hmem : out.LoginMemory) (h : r.2.sessions = s.sessions.authorize sessionId remoteIp)
  | noMemory (hcode : r.1.httpRespCode = .c500) (hmem : out.callocPasswordHash = false)
      (h : r.2.sessions = s.sessions)
  | rejected (hcode : r.1.httpRespCode ≠ .c200) (session : HttpServerAuthRuuviLoginSession)
      (h : r.2.sessions = s.sessions.draw session)

/-- What a login has to pass before its credentials are looked at. -/
structure ReachesCheck (plat : Platform) (out : Outcomes) (param : HttpServerHandleReqParam)
    (sessionId : CharBuf 17) (body : Bytes) (s : SessionState) : Prop where
  isPostAuth : param.isPostAuth
  postBody : httpServerPostBody plat out param.reqInfo = some body
  authType : s.authInfo.authType.isRuuvi
  cookie : param.HasSessionId sessionId
  pending : s.auth.ruuvi.loginSession.matches sessionId param.remoteIp = true
  memory : out.callocAuthReq = true

theorem not_isRuuvi_iff {authType : HttpServerAuthType} :
    ¬ authType.isRuuvi ↔ authType ≠ .ruuvi ∧ authType ≠ .default := by
  unfold HttpServerAuthType.isRuuvi
  exact not_or

theorem postAuth_reached {param : HttpServerHandleReqParam} {sessionId : CharBuf 17} {body : Bytes}
    {s : HttpServerState} (h : ReachesCheck plat out param sessionId body s.sessions) :
    LoginOutcome plat out sessionId param.remoteIp body s
      (httpServerHandleReqPostAuth plat out param.flagAccessFromLan param.reqInfo.httpHeader
        param.remoteIp body s) := by
  have htype : ¬ (s.authInfo.authType ≠ .ruuvi ∧ s.authInfo.authType ≠ .default) := by
    rw [← not_isRuuvi_iff]
    exact not_not.mpr h.authType
  have hcookie : httpServerAuthRuuviGetSessionIdFromCookies param.reqInfo.httpHeader =
      (true, sessionId) := h.cookie
  have hpending : s.ruuvi.loginSession.matches sessionId param.remoteIp = true := h.pending
  unfold httpServerHandleReqPostAuth
  simp only [h.isPostAuth.2.2, h.memory, Bool.not_true, Bool.false_eq_true, if_false]
  rw [if_neg htype, hcookie]
  dsimp only
  rw [postAuthCheckLoginSession_eq_none plat out hpending]
  dsimp only
  cases postAuthCheckAuth_cases plat out s.authInfo.authType param.remoteIp body s with
  | noMemory hcode hmem heq =>
    rw [if_pos (hcode.trans_ne (by decide))]
    exact .noMemory hcode hmem (by rw [heq])
  | rejected hne heq =>
    rw [if_pos hne]
    exact .rejected hne _ heq
  | accepted hcode hg hmem heq =>
    rw [if_neg (not_not.mpr hcode), heq]
    refine .accepted rfl hg (hmem h.memory) ?_
    dsimp only
    split
    · rw [sessions_authorize]
    · rw [sessions_printExtraHeaderFields, sessions_authorize]

theorem postAuth_cases {param : HttpServerHandleReqParam} {body : Bytes} (s : HttpServerState)
    (hpost : param.isPostAuth) (hbody : httpServerPostBody plat out param.reqInfo = some body) :
    HandlerEffect plat out param s
      (httpServerHandleReqPostAuth plat out param.flagAccessFromLan param.reqInfo.httpHeader
        param.remoteIp body s) := by
  have hquiet {r : HttpServerResp × HttpServerState} (hcode : r.1.httpRespCode ≠ .c200)
      (h : QuietEffect param.remoteIp s.sessions r.2.sessions) :
      HandlerEffect plat out param s r := .quiet (fun h => absurd h hcode) h
  have hnew : HandlerEffect plat out param s
      (httpServerResp401AuthRuuviWithNewSessionId plat out param.remoteIp s.authInfo.authType none
        s) :=
    hquiet (respWithNewSessionId_code plat out _ _ _ _)
      (.draw _ (respWithNewSessionId_sessions plat out _ _ _ _))
  by_cases hreach : ∃ sessionId, ReachesCheck plat out param sessionId body s.sessions
  · obtain ⟨sessionId, hreach⟩ := hreach
    cases postAuth_reached plat out hreach with
    | accepted hcode hg hmem h =>
      exact .login sessionId hcode
        ⟨hpost, hreach.authType, hreach.cookie, hreach.pending, ⟨body, hbody, hg⟩, hmem⟩ h
    | noMemory hcode hmem h => exact hquiet (hcode.trans_ne (by decide)) (.keep h)
    | rejected hcode session h => exact hquiet hcode (.draw session h)
  -- the credentials are not looked at
  unfold httpServerHandleReqPostAuth
  simp only [hpost.2.2, Bool.not_true, Bool.false_eq_true, if_false]
  by_cases htype : s.authInfo.authType ≠ .ruuvi ∧ s.authInfo.authType ≠ .default
  · rw [if_pos htype]
    exact hquiet (by simp [httpServerResp503]) (.keep rfl)
  rw [if_neg htype]
  split
  · exact hnew
  next sessionId hcookie =>
  by_cases hpending : s.ruuvi.loginSession.matches sessionId param.remoteIp = true
  · have hcalloc : out.callocAuthReq = false := by
      by_contra hne
      refine hreach ⟨sessionId, hpost, hbody, ?_, hcookie, hpending, by simpa using hne⟩
      by_contra hnot
      exact htype (not_isRuuvi_iff.mp hnot)
    rw [postAuthCheckLoginSession_eq_none plat out hpending]
    simp only [hcalloc, Bool.not_false, if_true]
    exact hquiet (by simp [httpServerResp500]) (.keep rfl)
  · rw [postAuthCheckLoginSession_eq_some plat out hpending]
    dsimp only
    exact hnew

theorem deleteAuth_cases {param : HttpServerHandleReqParam} {s s' : HttpServerState}
    (hdelete : param.isDeleteAuth) (hs : CheckEffect s.sessions s'.sessions) :
    HandlerEffect plat out param s
      (httpServerHandleReqDeleteAuth plat param.reqInfo.httpHeader param.remoteIp s') := by
  have hquiet {r : HttpServerResp × HttpServerState} (hcode : r.1.httpRespCode ≠ .c200)
      (h : r.2 = s') : HandlerEffect plat out param s r := by
    refine .quiet (fun h => absurd h hcode) ?_
    rw [h]
    exact hs.quiet _
  unfold httpServerHandleReqDeleteAuth
  dsimp only
  split_ifs with htype
  · exact hquiet (by simp [httpServerResp503]) rfl
  all_goals
    have hinfo : s'.authInfo = s.authInfo := hs.authInfo
    rw [hinfo] at htype
    have htype : s.authInfo.authType.isRuuvi := by
      by_contra hnot
      exact htype (not_isRuuvi_iff.mp hnot)
    have heq := hs.eq_of_isRuuvi htype
    have hauth : s'.auth = s.auth := (sessions_ext heq).1
    split
    · exact hquiet (by simp [httpServerResp401AuthRuuvi]) rfl
    · next sessionId hcookie =>
      split
      · exact hquiet (by simp [httpServerResp401AuthRuuvi]) rfl
      · next i hfind =>
        refine .logout sessionId i rfl ⟨hdelete, htype, hcookie, ?_⟩ ?_
        · unfold HttpServerState.ruuvi at hfind
          rw [hauth] at hfind
          exact hfind
        · rw [sessions_deleteSlot, heq]

/-! ### Requests -/

variable (param : HttpServerHandleReqParam) (s : HttpServerState)

theorem httpServerHandleReqGet_effect (path : Bytes) :
    QuietEffect param.remoteIp s.sessions
      (httpServerHandleReqGet plat out path param s).2.sessions := by
  unfold httpServerHandleReqGet
  generalize (if path = [] then ascii "index.html" else path) = fileName
  dsimp only
  split_ifs
  · exact getAuth_effect plat out (param.authParam false) s
  all_goals
    first
    | exact .keep rfl
    | exact (checkAuth_effect plat out (param.authParam _) s _).quiet param.remoteIp

theorem getWithEcdhKey_effect (path : Bytes) :
    QuietEffect param.remoteIp s.sessions
      (httpServerHandleReqGetWithEcdhKey plat out path param s).2.sessions := by
  have hget := httpServerHandleReqGet_effect plat out param s path
  unfold httpServerHandleReqGetWithEcdhKey
  dsimp only
  split
  · exact hget
  · split
    · exact hget
    · exact hget

theorem httpServerHandleReqPost_effect {body : Bytes} (hcmd : param.reqInfo.httpCmd = ascii "POST")
    (hbody : httpServerPostBody plat out param.reqInfo = some body) :
    HandlerEffect plat out param s
      (httpServerHandleReqPost plat out param.reqInfo.path param body s) := by
  have hdel : ¬ param.isDeleteAuth := by
    rintro ⟨h, -⟩
    rw [hcmd] at h
    exact absurd h (by decide)
  unfold httpServerHandleReqPost
  split_ifs with hpath
  · by_cases hlan : param.flagAccessFromLan = true
    · exact postAuth_cases plat out s ⟨hcmd, hpath, hlan⟩ hbody
    · refine .quiet (fun _ => ⟨fun h => hlan h.2.2, hdel⟩) ?_
      unfold httpServerHandleReqPostAuth
      simp only [hlan, Bool.not_false, if_true]
      exact .keep rfl
  · have hcheck := checkAuth_effect plat out (param.authParam true) s (some false)
    refine .quiet (fun _ => ⟨fun h => hpath h.2.1, hdel⟩) ?_
    dsimp only
    split_ifs
    · exact hcheck.quiet _
    · exact hcheck.quiet _

theorem httpServerHandleReqDelete_effect (hcmd : param.reqInfo.httpCmd = ascii "DELETE") :
    HandlerEffect plat out param s
      (httpServerHandleReqDelete plat out param.reqInfo.path param s) := by
  have hpost : ¬ param.isPostAuth := by
    rintro ⟨h, -⟩
    rw [hcmd] at h
    exact absurd h (by decide)
  have hcheck := checkAuth_effect plat out (param.authParam true) s (some false)
  unfold httpServerHandleReqDelete
  dsimp only
  split_ifs with hcode
  · exact .quiet (fun h => absurd h hcode) (hcheck.quiet _)
  · unfold httpServerHandleReqDeleteServe
    split_ifs with hpath
    · exact deleteAuth_cases plat out ⟨hcmd, hpath⟩ hcheck
    all_goals exact .quiet (fun _ => ⟨hpost, fun h => hpath h.2⟩) (hcheck.quiet _)

theorem httpServerHandleReq_postAuth {body : Bytes} (hpost : param.isPostAuth)
    (hbody : httpServerPostBody plat out param.reqInfo = some body) :
    httpServerHandleReq plat out param s =
      httpServerHandleReqPostAuth plat out param.flagAccessFromLan param.reqInfo.httpHeader
        param.remoteIp body { s with extraHeaderFields := [] } := by
  have hget : ascii "POST" ≠ ascii "GET" := by decide
  have hdelete : ascii "POST" ≠ ascii "DELETE" := by decide
  unfold httpServerHandleReq httpServerHandleReqPostWithEcdhKey httpServerHandleReqPost
  simp only [hpost.1, hpost.2.1, hget, hdelete, hbody, if_false, if_true]

/-- What a request can do to the sessions. -/
theorem request_effect :
    HandlerEffect plat out param s (httpServerHandleReq plat out param s) := by
  unfold httpServerHandleReq
  dsimp only
  split_ifs with hget hdelete hpost
  · refine .quiet (fun _ => ⟨?_, ?_⟩)
      (getWithEcdhKey_effect plat out param { s with extraHeaderFields := [] } _)
    · rintro ⟨h, -⟩
      rw [hget] at h
      exact absurd h (by decide)
    · rintro ⟨h, -⟩
      rw [hget] at h
      exact absurd h (by decide)
  · exact httpServerHandleReqDelete_effect plat out param { s with extraHeaderFields := [] } hdelete
  · unfold httpServerHandleReqPostWithEcdhKey
    split
    · exact .quiet (fun h => absurd h (by simp [httpServerResp400])) (.keep rfl)
    · next body hbody =>
      exact httpServerHandleReqPost_effect plat out param { s with extraHeaderFields := [] } hpost
        hbody
  · exact .quiet (fun h => absurd h (by simp [httpServerResp400])) (.keep rfl)

end Effects

end Auth
end Esp32WifiManager
