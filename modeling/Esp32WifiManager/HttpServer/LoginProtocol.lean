import Esp32WifiManager.HttpServer.EmptySecret
import Esp32WifiManager.HttpServer.ExtraFields
import Esp32WifiManager.HttpServer.LiveSessions

/-!
# A login from the challenge to the session

The client's side of the interactive login. `GET /auth` is answered 401 with a
challenge in the header fields; a client that knows the credentials answers it
with one `POST /auth`. The pending session waits as long as nobody else starts a
login, and an authorized one moves towards the end of the table with each later
login.
-/

namespace Esp32WifiManager
namespace Auth

open CString HttpReq

/-- A `GET /auth` from LAN. -/
def HttpServerHandleReqParam.isGetAuth (param : HttpServerHandleReqParam) : Prop :=
  param.reqInfo.httpCmd = ascii "GET" ∧ param.reqInfo.path = ascii "auth" ∧
    param.flagAccessFromLan = true

instance (param : HttpServerHandleReqParam) : Decidable param.isGetAuth :=
  inferInstanceAs (Decidable (_ ∧ _ ∧ _))

/-- The header fields that show a challenge and a session id to the client. -/
def challengeText (hostname challenge sessionId : Bytes) : Bytes :=
  ascii "WWW-Authenticate: x-ruuvi-interactive realm=\"" ++ hostname ++
    ascii "\" challenge=\"" ++ challenge ++ ascii "\" session_cookie=\"" ++
    httpServerAuthRuuviCookieSession ++ ascii "\" " ++
    ascii "session_id=\"" ++ sessionId ++ ascii "\"\r\n" ++
    ascii "Set-Cookie: " ++ httpServerAuthRuuviCookieSession ++ ascii "=" ++
    sessionId ++ ascii "\r\n"

/-- The login of a client that was shown `challenge` and `sessionId` and knows the credentials: it
sends the session id back as a cookie, and the hash as hex digits. -/
structure HonestLogin (plat : Platform) (out : Outcomes) (param : HttpServerHandleReqParam)
    (info : HttpServerAuthInfo) (challenge sessionId : Bytes) : Prop where
  isPostAuth : param.isPostAuth
  cookie : ∃ id, param.HasSessionId id ∧ id.str = sessionId
  body : ∃ body root, httpServerPostBody plat out param.reqInfo = some body ∧
    plat.cJsonParse body = some root ∧ root (ascii "login") = some (some info.authUser) ∧
    root (ascii "password") =
      some (some (plat.strBufBinToHex (plat.sha256 (challenge ++ ascii ":" ++ info.authPass))))
  memory : out.LoginMemory

/-- The event neither starts a login nor finishes one, and keeps the credentials. -/
def Event.Undisturbing (plat : Platform) (s : HttpServerState) : Event → Prop
  | .request param out => ¬ param.isPostAuth ∧
      (param.isGetAuth → (httpServerHandleReq plat out param s).1.httpRespCode = .c200)
  | .setAuth args => args.changes s.authInfo = false

def Undisturbed (plat : Platform) : HttpServerState → List Event → Prop
  | _, [] => True
  | s, e :: events => e.Undisturbing plat s ∧ Undisturbed plat (s.step plat e) events

/-- The logins of the run that are accepted. -/
def acceptedLogins (plat : Platform) : HttpServerState → List Event → ℕ
  | _, [] => 0
  | s, .request param out :: events =>
    (if param.isPostAuth ∧ (httpServerHandleReq plat out param s).1.httpRespCode = .c200 then 1
      else 0) + acceptedLogins plat (s.step plat (.request param out)) events
  | s, .setAuth args :: events => acceptedLogins plat (s.step plat (.setAuth args)) events

/-- No logout of the run is accepted for the session. -/
def NotLoggedOut (plat : Platform) (key : SessionKey) : HttpServerState → List Event → Prop
  | _, [] => True
  | s, .request param out :: events =>
    (param.isDeleteAuth → (httpServerHandleReq plat out param s).1.httpRespCode = .c200 →
      param.key ≠ key) ∧ NotLoggedOut plat key (s.step plat (.request param out)) events
  | s, .setAuth args :: events => NotLoggedOut plat key (s.step plat (.setAuth args)) events

/-! ### The challenge -/

section Challenge

variable (plat : Platform) (out : Outcomes) {param : HttpServerHandleReqParam}
  {s : HttpServerState}

theorem challengeText_length (hostname : Bytes) {challenge sessionId : Bytes}
    (hhost : hostname.length < 30) (hchallenge : challenge.length ≤ 65)
    (hid : sessionId.length ≤ 17) :
    (challengeText hostname challenge sessionId).length < httpServerExtraHeaderFieldsSize := by
  have hconst : (ascii "WWW-Authenticate: x-ruuvi-interactive realm=\"").length = 45 ∧
      (ascii "\" challenge=\"").length = 13 ∧ (ascii "\" session_cookie=\"").length = 18 ∧
      httpServerAuthRuuviCookieSession.length = 12 ∧ (ascii "\" ").length = 2 ∧
      (ascii "session_id=\"").length = 12 ∧ (ascii "\"\r\n").length = 3 ∧
      (ascii "Set-Cookie: ").length = 12 ∧ (ascii "=").length = 1 ∧ (ascii "\r\n").length = 2 := by
    decide
  simp only [challengeText, List.length_append, hconst, httpServerExtraHeaderFieldsSize]
  omega

/-- A new session that is answered 401 has been printed in full. -/
theorem respWithNewSessionId_prints {remoteIp : CharBuf 17} {lanAuthType : HttpServerAuthType}
    {errMessage : Option Bytes} (hhost : s.hostinfo.hostname.length < 30)
    (hcode : (httpServerResp401AuthRuuviWithNewSessionId plat out remoteIp lanAuthType errMessage
      s).1.httpRespCode = .c401) :
    (httpServerResp401AuthRuuviWithNewSessionId plat out remoteIp lanAuthType errMessage
        s).2.extraHeaderFields =
      challengeText s.hostinfo.hostname (drawLoginSession plat out remoteIp s).challenge.str
        (drawLoginSession plat out remoteIp s).sessionId.str := by
  have hsession := ExtraFields.loginSession_loginSessionInit plat out s remoteIp
  have hname : (httpServerLoginSessionInit plat out remoteIp s).hostinfo = s.hostinfo := by
    simp only [httpServerLoginSessionInit, HttpServerState.setRuuvi, HttpServerState.skipRandom]
  have hlen := challengeText_length s.hostinfo.hostname hhost
    (CharBuf.str_length_le (drawLoginSession plat out remoteIp s).challenge)
    (CharBuf.str_length_le (drawLoginSession plat out remoteIp s).sessionId)
  unfold httpServerResp401AuthRuuviWithNewSessionId at hcode ⊢
  generalize httpServerLoginSessionInit plat out remoteIp s = t at hsession hname hcode ⊢
  dsimp only at hcode ⊢
  split_ifs at hcode ⊢
  · cases hcode
  · rw [← hsession, ← hname] at hlen ⊢
    exact List.take_of_length_le (Nat.le_sub_one_of_lt hlen)

theorem getAuth_isRuuvi {authParam : HttpServerHandleReqAuthParam}
    (ht : s.authInfo.authType.isRuuvi) (hlan : authParam.flagAccessFromLan = true) :
    httpServerHandleReqGetAuth plat out authParam s =
      httpServerHandleReqGetAuthRuuvi plat out authParam false s.authInfo.authType s := by
  unfold httpServerHandleReqGetAuth httpServerHandleReqGetOrCheckAuth httpServerHandleReqAuthByType
  simp only [hlan, Bool.not_true, Bool.false_eq_true, if_false]
  rcases ht with ht | ht <;> rw [ht]

/-- `GET /auth` finds the session of the client or draws a new one. -/
theorem getAuthRuuvi_cases (authParam : HttpServerHandleReqAuthParam)
    {authType : HttpServerAuthType} (hne : authType ≠ .allow) :
    httpServerHandleReqGetAuthRuuvi plat out authParam false authType s =
        httpServerResp401AuthRuuviWithNewSessionId plat out authParam.remoteIp authType none s ∨
      (httpServerHandleReqGetAuthRuuvi plat out authParam false authType s).1.httpRespCode =
          .c200 ∧ (httpServerHandleReqGetAuthRuuvi plat out authParam false authType s).2 = s := by
  unfold httpServerHandleReqGetAuthRuuvi
  simp only [hne, Bool.false_and, Bool.false_eq_true, if_false]
  split
  · exact .inl rfl
  · split
    · exact .inl rfl
    · exact .inr ⟨rfl, rfl⟩

theorem drawLoginSession_sessionId_ne_nil (remoteIp : CharBuf 17) :
    (drawLoginSession plat out remoteIp s).sessionId.str ≠ [] := by
  intro hnil
  have hletters : ∀ i < asciiUpper.length, asciiUpper.getD i 0 ≠ 0 := by decide
  have hempty := CharBuf.isEmpty_iff.mpr hnil
  simp only [CharBuf.isEmpty, drawLoginSession, Vector.getElem_ofFn, decide_eq_true_eq] at hempty
  exact hletters _ (Nat.mod_lt _ (by decide)) hempty

/-- An offered key of the client is answered behind the fields, or the response is replaced. -/
theorem getWithEcdhKey_cases (param : HttpServerHandleReqParam) (path : Bytes) :
    (httpServerHandleReqGetWithEcdhKey plat out path param s).2.sessions =
        (httpServerHandleReqGet plat out path param s).2.sessions ∧
      ((httpServerHandleReqGetWithEcdhKey plat out path param s).1.httpRespCode = .c500 ∨
        (httpServerHandleReqGetWithEcdhKey plat out path param s).1 =
            (httpServerHandleReqGet plat out path param s).1 ∧
          (httpServerHandleReqGet plat out path param s).2.extraHeaderFields <+:
            (httpServerHandleReqGetWithEcdhKey plat out path param s).2.extraHeaderFields) := by
  unfold httpServerHandleReqGetWithEcdhKey
  dsimp only
  split
  · exact ⟨rfl, .inr ⟨rfl, List.prefix_refl _⟩⟩
  · split
    · exact ⟨rfl, .inl rfl⟩
    · exact ⟨rfl, .inr ⟨rfl, List.prefix_append _ _⟩⟩

theorem httpServerHandleReq_get (hcmd : param.reqInfo.httpCmd = ascii "GET") :
    httpServerHandleReq plat out param s = httpServerHandleReqGetWithEcdhKey plat out
      param.reqInfo.path param { s with extraHeaderFields := [] } := by
  unfold httpServerHandleReq
  simp only [hcmd, if_true]

theorem httpServerHandleReqGet_auth (hget : param.isGetAuth) :
    httpServerHandleReqGet plat out param.reqInfo.path param s =
      httpServerHandleReqGetAuth plat out (param.authParam false) s := by
  have hne : ascii "auth" ≠ [] := by decide
  unfold httpServerHandleReqGet
  simp only [hget.2.1, hne, if_false, if_true]

/-- What `GET /auth` leaves behind: a session that was drawn for the client and is shown to it, or
the sessions as they were. -/
theorem getAuth_cases (ht : s.authInfo.authType.isRuuvi) (hget : param.isGetAuth) :
    (∃ session, (httpServerHandleReq plat out param s).2.sessions = s.sessions.draw session ∧
        session.remoteIp = param.remoteIp ∧ session.sessionId.str ≠ [] ∧
        (httpServerHandleReq plat out param s).1.httpRespCode ≠ .c200 ∧
        ((httpServerHandleReq plat out param s).1.httpRespCode = .c401 →
          s.hostinfo.hostname.length < 30 →
          challengeText s.hostinfo.hostname session.challenge.str session.sessionId.str <+:
            (httpServerHandleReq plat out param s).2.extraHeaderFields)) ∨
      (httpServerHandleReq plat out param s).2.sessions = s.sessions ∧
        (httpServerHandleReq plat out param s).1.httpRespCode ≠ .c401 := by
  have hne := isRuuvi_ne_allow ht
  set t : HttpServerState := { s with extraHeaderFields := [] }
  have hreq : httpServerHandleReqGet plat out param.reqInfo.path param t =
      httpServerHandleReqGetAuthRuuvi plat out (param.authParam false) false s.authInfo.authType t :=
    (httpServerHandleReqGet_auth plat out hget).trans (getAuth_isRuuvi plat out ht hget.2.2)
  obtain ⟨hsessions, hresp⟩ :=
    getWithEcdhKey_cases (s := t) plat out param param.reqInfo.path
  rw [httpServerHandleReq_get plat out hget.1]
  rw [hreq] at hsessions hresp
  rcases getAuthRuuvi_cases (s := t) plat out (param.authParam false) hne with
    hnew | ⟨hcode, hkeep⟩
  · rw [hnew] at hsessions hresp
    refine .inl ⟨drawLoginSession plat out param.remoteIp t, ?_, rfl,
      drawLoginSession_sessionId_ne_nil plat out param.remoteIp, ?_, ?_⟩
    · rw [hsessions, respWithNewSessionId_sessions]
      rfl
    · rcases hresp with h500 | ⟨hsame, -⟩
      · rw [h500]
        decide
      · rw [hsame]
        exact respWithNewSessionId_code plat out _ _ _ _
    · intro h401 hhost
      rcases hresp with h500 | ⟨hsame, hfields⟩
      · rw [h500] at h401
        cases h401
      · rw [hsame] at h401
        rwa [respWithNewSessionId_prints (s := t) plat out hhost h401] at hfields
  · refine .inr ⟨by rw [hsessions, hkeep]; rfl, ?_⟩
    rcases hresp with h500 | ⟨hsame, -⟩
    · rw [h500]
      decide
    · rw [hsame, hcode]
      decide

end Challenge

/-! ### The pending session -/

section Pending

variable (plat : Platform) (out : Outcomes) {param : HttpServerHandleReqParam}
  {s : HttpServerState}

theorem checkAuth_sessions (ht : s.authInfo.authType.isRuuvi)
    (authParam : HttpServerHandleReqAuthParam) (flag : Option Bool) :
    (httpServerHandleReqCheckAuth plat out authParam flag s).2.2.sessions = s.sessions :=
  (checkAuth_effect plat out authParam s flag).eq_of_isRuuvi ht

/-- A `GET` of anything but `/auth` from LAN only looks at the sessions. -/
theorem httpServerHandleReqGet_sessions (ht : s.authInfo.authType.isRuuvi)
    (hcmd : param.reqInfo.httpCmd = ascii "GET") (hget : ¬ param.isGetAuth) :
    (httpServerHandleReqGet plat out param.reqInfo.path param s).2.sessions = s.sessions := by
  have hempty : ascii "index.html" ≠ ascii "auth" := by decide
  unfold httpServerHandleReqGet
  by_cases hpath : param.reqInfo.path = ascii "auth"
  · have hlan : (param.authParam false).flagAccessFromLan = false := by
      by_contra hlan
      exact hget ⟨hcmd, hpath, by simpa [HttpServerHandleReqParam.authParam] using hlan⟩
    have hne : ascii "auth" ≠ [] := by decide
    simp only [hpath, hne, if_false, if_true]
    unfold httpServerHandleReqGetAuth
    simp only [hlan, Bool.not_false, if_true]
  · have hname : (if param.reqInfo.path = [] then ascii "index.html" else param.reqInfo.path) ≠
        ascii "auth" := by
      split_ifs
      · exact hempty
      · exact hpath
    generalize (if param.reqInfo.path = [] then ascii "index.html" else param.reqInfo.path) =
      fileName at hname
    dsimp only
    rw [if_neg hname]
    split_ifs
    all_goals
      first
      | rfl
      | exact checkAuth_sessions plat out ht _ _

theorem deleteAuth_loginSession (httpHeader : Bytes) (remoteIp : CharBuf 17) :
    (httpServerHandleReqDeleteAuth plat httpHeader remoteIp s).2.ruuvi.loginSession =
      s.ruuvi.loginSession := by
  unfold httpServerHandleReqDeleteAuth
  dsimp only
  split_ifs
  · rfl
  all_goals
    split
    · rfl
    · split
      · rfl
      · rfl

/-- Only `GET /auth` and `POST /auth` from LAN touch the pending session. -/
theorem request_loginSession (ht : s.authInfo.authType.isRuuvi) (hpost : ¬ param.isPostAuth)
    (hget : param.isGetAuth → (httpServerHandleReq plat out param s).1.httpRespCode = .c200) :
    (s.step plat (.request param out)).ruuvi.loginSession = s.ruuvi.loginSession := by
  have hkeep {t : HttpServerState} (h : t.sessions = s.sessions) :
      t.ruuvi.loginSession = s.ruuvi.loginSession :=
    congrArg (fun u => u.auth.ruuvi.loginSession) h
  unfold HttpServerState.step
  dsimp only
  by_cases hauth : param.isGetAuth
  · rcases getAuth_cases plat out ht hauth with ⟨session, -, -, -, hcode, -⟩ | ⟨h, -⟩
    · exact absurd (hget hauth) hcode
    · exact hkeep h
  unfold httpServerHandleReq
  dsimp only
  split_ifs with hcmd hdelete hpostCmd
  · obtain ⟨hsessions, -⟩ := getWithEcdhKey_cases (s := { s with extraHeaderFields := [] }) plat out
      param param.reqInfo.path
    refine hkeep (hsessions.trans ?_)
    exact httpServerHandleReqGet_sessions plat out ht hcmd hauth
  · have hcheck := hkeep (checkAuth_sessions (s := { s with extraHeaderFields := [] }) plat out ht
      (param.authParam true) (some false))
    unfold httpServerHandleReqDelete httpServerHandleReqDeleteServe
    dsimp only
    split_ifs
    · exact hcheck
    · exact (deleteAuth_loginSession plat _ _).trans hcheck
    all_goals exact hcheck
  · have hcheck := hkeep (checkAuth_sessions (s := { s with extraHeaderFields := [] }) plat out ht
      (param.authParam true) (some false))
    unfold httpServerHandleReqPostWithEcdhKey
    split
    · rfl
    unfold httpServerHandleReqPost
    dsimp only
    split_ifs with hpath
    · have hlan : param.flagAccessFromLan = false := by
        by_contra hlan
        exact hpost ⟨hpostCmd, hpath, by simpa using hlan⟩
      unfold httpServerHandleReqPostAuth
      simp only [hlan, Bool.not_false, if_true]
      rfl
    all_goals exact hcheck
  · exact hkeep rfl

theorem Undisturbed.unchanging {events : List Event} (h : Undisturbed plat s events) :
    NoChange plat s events := by
  induction events generalizing s with
  | nil => trivial
  | cons e events ih =>
    refine ⟨?_, ih h.2⟩
    rintro args rfl
    exact h.1

/-- The pending session waits through undisturbing events. -/
theorem run_loginSession {events : List Event} (ht : s.authInfo.authType.isRuuvi)
    (h : Undisturbed plat s events) :
    (s.run plat events).ruuvi.loginSession = s.ruuvi.loginSession := by
  induction events generalizing s with
  | nil => rfl
  | cons e events ih =>
    have hno : NoChange plat s (e :: events) := h.unchanging
    have hsame : SameCredentials (s.step plat e).authInfo s.authInfo := step_sameCredentials hno.1
    have htype : (s.step plat e).authInfo.authType.isRuuvi := by
      rw [hsame.authType]
      exact ht
    rw [HttpServerState.run_cons, ih htype h.2]
    cases e with
    | request param out => exact request_loginSession plat out ht h.1.1 h.1.2
    | setAuth args =>
      obtain ⟨hauth, -⟩ := setAuth_of_not_changes (s := s) h.1
      exact congrArg (fun auth => auth.ruuvi.loginSession) hauth

end Pending

/-! ### The login -/

section Accepted

variable {plat : Platform} {out : Outcomes} {param : HttpServerHandleReqParam}
  {s : HttpServerState}

/-- Printing cuts a text where it cuts the bytes. -/
theorem str_ofStr_text {n : ℕ} (m : Bytes) :
    (CharBuf.ofStr (n + 1) m).str = snprintf (n + 1) (text m) := by
  have hlen : (snprintf (n + 1) m).length ≤ n := List.length_take_le n m
  have hlist : (CharBuf.ofStr (n + 1) m).toList =
      snprintf (n + 1) m ++ List.replicate (n - (snprintf (n + 1) m).length + 1) 0 := by
    apply List.ext_getElem
    · simp
      omega
    · intro i hi₁ hi₂
      simp only [CharBuf.ofStr, Vector.getElem_toList, Vector.getElem_ofFn,
        List.getD_eq_getElem?_getD]
      rcases Nat.lt_or_ge i (snprintf (n + 1) m).length with hi | hi
      · rw [List.getElem_append_left hi, List.getElem?_eq_getElem hi, Option.getD_some]
      · rw [List.getElem_append_right hi, List.getElem?_eq_none hi, Option.getD_none,
          List.getElem_replicate]
  rw [CharBuf.str, hlist, List.replicate_succ, text_append_nul]
  exact List.take_takeWhile.symm

/-- The user is a string of the buffer it is kept in. -/
def UserStored (info : HttpServerAuthInfo) : Prop :=
  snprintf httpServerAuthUserLen (text info.authUser) = info.authUser

theorem userStored_snprintf {user : Bytes} (h : (0 : UInt8) ∉ user) :
    snprintf httpServerAuthUserLen (text (snprintf httpServerAuthUserLen user)) =
      snprintf httpServerAuthUserLen user := by
  have hnul : (0 : UInt8) ∉ snprintf httpServerAuthUserLen user :=
    fun hmem => h (List.mem_of_mem_take hmem)
  rw [text_eq_self hnul, snprintf, snprintf, List.take_take, min_self]

theorem step_userStored (h : UserStored s.authInfo) (e : Event) :
    UserStored (s.step plat e).authInfo := by
  cases e with
  | request param out =>
    have := request_authInfo plat out param s
    unfold HttpServerState.step
    rwa [this]
  | setAuth args =>
    have hnul : (0 : UInt8) ∉ safeStr args.authUser := by
      unfold safeStr
      cases args.authUser with
      | none => exact List.not_mem_nil
      | some user => exact nul_notMem_text user
    unfold HttpServerState.step httpServerSetAuth UserStored
    dsimp only
    split_ifs
    · exact userStored_snprintf hnul
    · exact h

theorem run_userStored (h : UserStored s.authInfo) (events : List Event) :
    UserStored (s.run plat events).authInfo := by
  induction events generalizing s with
  | nil => exact h
  | cons e events ih => exact ih (step_userStored h e)

theorem HonestLogin.loginOver {info : HttpServerAuthInfo} {challenge sessionId body : Bytes}
    (h : HonestLogin plat out param info challenge sessionId)
    (hbody : httpServerPostBody plat out param.reqInfo = some body)
    (hstored : UserStored info) (huser : info.authUser ≠ [])
    (hsame : SameCredentials s.authInfo info)
    (hchallenge : s.ruuvi.loginSession.challenge.str = challenge) :
    LoginOver plat out body s.authInfo.authPass s := by
  obtain ⟨body', root, hbody', hroot, hlogin, hpassword⟩ := h.body
  obtain rfl : body' = body := Option.some.inj (hbody'.symm.trans hbody)
  have hhash : snprintf httpServerAuthPassLen
      (text (plat.strBufBinToHex (plat.sha256 (challenge ++ ascii ":" ++ info.authPass)))) =
      (hashedPassword plat challenge info.authPass).str := (str_ofStr_text _).symm
  refine ⟨⟨info.authUser, (hashedPassword plat challenge info.authPass).str⟩, ?_, huser,
    hsame.authUser.symm, h.memory.passwordHash, h.memory.digest, ?_⟩
  · have hget : httpServerJsonGetStringVal root (ascii "login") httpServerAuthUserLen =
        some info.authUser := by
      rw [httpServerJsonGetStringVal, hlogin]
      exact congrArg some hstored
    have hget' : httpServerJsonGetStringVal root (ascii "password") httpServerAuthPassLen =
        some (hashedPassword plat challenge info.authPass).str := by
      rw [httpServerJsonGetStringVal, hpassword]
      exact congrArg some hhash
    rw [jsonRuuviAuthParseHttpBody, cJsonParse, h.memory.json, if_pos rfl, hroot]
    dsimp only
    rw [jsonRuuviAuthParse, hget, hget']
  · rw [hchallenge, hsame.authPass]

/-- An honest login for the pending session is accepted. -/
theorem HonestLogin.accepted {info : HttpServerAuthInfo} {challenge sessionId : Bytes}
    (h : HonestLogin plat out param info challenge sessionId)
    (hstored : UserStored info) (huser : info.authUser ≠ []) (ht : info.authType.isRuuvi)
    (hsame : SameCredentials s.authInfo info)
    (hchallenge : s.ruuvi.loginSession.challenge.str = challenge)
    (hid : s.ruuvi.loginSession.sessionId.str = sessionId) (hne : sessionId ≠ [])
    (hip : s.ruuvi.loginSession.remoteIp.str = param.remoteIp.str) :
    (httpServerHandleReq plat out param s).1.httpRespCode = .c200 ∧
      ∃ id : CharBuf 17, id.str = sessionId ∧
        (httpServerHandleReq plat out param s).2.sessions =
          s.sessions.authorize id param.remoteIp := by
  obtain ⟨id, hcookie, hidstr⟩ := h.cookie
  obtain ⟨body, -, hbody, -⟩ := h.body
  have ht' : s.authInfo.authType.isRuuvi := by
    rw [hsame.authType]
    exact ht
  set t : HttpServerState := { s with extraHeaderFields := [] }
  have hmatches : t.ruuvi.loginSession.matches id param.remoteIp = true :=
    matches_iff.mpr ⟨by rw [← hid] at hne; exact hne, hid.trans hidstr.symm, hip⟩
  have hover : LoginOver plat out body t.authInfo.authPass t :=
    h.loginOver (s := t) hbody hstored huser hsame hchallenge
  have hgood : (httpServerHandleReqPostAuthCheckAuth plat out t.authInfo.authType param.remoteIp
      body t).1.httpRespCode = .c200 := EmptySecret.postAuthCheckAuth_iff.mpr hover
  have hreach : ReachesCheck plat out param id body t.sessions :=
    ⟨h.isPostAuth, hbody, ht', hcookie, hmatches, h.memory.authReq⟩
  have hcode : (httpServerHandleReqPostAuth plat out param.flagAccessFromLan
      param.reqInfo.httpHeader param.remoteIp body t).1.httpRespCode = .c200 := by
    have htype : ¬ (t.authInfo.authType ≠ .ruuvi ∧ t.authInfo.authType ≠ .default) :=
      not_isRuuvi_iff.not.mp (not_not.mpr ht')
    have hid' : httpServerAuthRuuviGetSessionIdFromCookies param.reqInfo.httpHeader = (true, id) :=
      hcookie
    unfold httpServerHandleReqPostAuth
    simp only [h.isPostAuth.2.2, h.memory.authReq, Bool.not_true, Bool.false_eq_true, if_false]
    rw [if_neg htype, hid']
    dsimp only
    rw [postAuthCheckLoginSession_eq_none plat out hmatches]
    dsimp only
    rw [if_neg (not_not.mpr hgood)]
    rfl
  rw [httpServerHandleReq_postAuth plat out param s h.isPostAuth hbody]
  refine ⟨hcode, id, hidstr, ?_⟩
  cases postAuth_reached plat out hreach with
  | accepted _ _ _ hauth => exact hauth
  | noMemory h500 _ _ =>
    rw [hcode] at h500
    cases h500
  | rejected hother _ _ => exact absurd hcode hother

end Accepted

/-! ### The session in the table -/

/-- The session stands in the slot `k` of the table, or in front of it. -/
def HttpServerAuthRuuvi.HeldWithin (ruuvi : HttpServerAuthRuuvi) (key : SessionKey) (k : ℕ) :
    Prop :=
  ∃ i ≤ k, ruuvi.table[i]? = some (some key)

section Held

variable {plat : Platform} {out : Outcomes} {param : HttpServerHandleReqParam}
  {s : HttpServerState} {key : SessionKey} {k : ℕ}

theorem HttpServerAuthRuuvi.HeldWithin.mem_entries {ruuvi : HttpServerAuthRuuvi}
    (h : ruuvi.HeldWithin key k) : key ∈ ruuvi.entries := by
  obtain ⟨i, -, hi⟩ := h
  exact List.reduceOption_mem_iff.mpr (List.mem_of_getElem? hi)

theorem heldWithin_authorize (s : HttpServerState) {sessionId : CharBuf 17}
    (remoteIp : CharBuf 17) (hne : sessionId.str ≠ []) :
    (s.sessions.authorize sessionId remoteIp).auth.ruuvi.HeldWithin
      (sessionId.str, remoteIp.str) 0 := by
  have htable : (s.sessions.authorize sessionId remoteIp).auth.ruuvi.table =
      SlotTable.insert (sessionId.str, remoteIp.str) s.ruuvi.table :=
    table_insert s.ruuvi sessionId remoteIp hne
  have hpos : 0 < s.ruuvi.table.length := by
    rw [table_length]
    decide
  exact ⟨0, le_rfl, by rw [htable, SlotTable.getElem?_insert_zero _ hpos]⟩

theorem QuietEffect.table_of_isRuuvi {remoteIp : CharBuf 17} {u u' : SessionState}
    (h : QuietEffect remoteIp u u') (ht : u.authInfo.authType.isRuuvi) :
    u'.auth.ruuvi.table = u.auth.ruuvi.table := by
  cases h with
  | keep h => rw [h]
  | draw session h => rw [h]; rfl
  | grant session hallow h => exact absurd hallow (isRuuvi_ne_allow ht)
  | digest req hdigest h => exact absurd hdigest (isRuuvi_ne_digest ht)

/-- What one request does to a session that it does not log out: a login moves it by one slot. -/
theorem request_held (ht : s.authInfo.authType.isRuuvi) (h : s.ruuvi.HeldWithin key k)
    (hlogout : param.isDeleteAuth →
      (httpServerHandleReq plat out param s).1.httpRespCode = .c200 → param.key ≠ key)
    (hroom : k + 1 < httpServerAuthRuuviMaxNumSessions ∨
      ¬ (param.isPostAuth ∧ (httpServerHandleReq plat out param s).1.httpRespCode = .c200)) :
    (s.step plat (.request param out)).ruuvi.HeldWithin key
      (k + if param.isPostAuth ∧
        (httpServerHandleReq plat out param s).1.httpRespCode = .c200 then 1 else 0) := by
  obtain ⟨i, hi, hslot⟩ := h
  cases request_effect plat out param s with
  | quiet hq heffect =>
    have htable : (s.step plat (.request param out)).ruuvi.table = s.ruuvi.table :=
      heffect.table_of_isRuuvi ht
    exact ⟨i, Nat.le_add_right_of_le hi, by rw [htable, hslot]⟩
  | login sessionId hcode hl heffect =>
    have haccepted := And.intro hl.isPostAuth hcode
    have htable : (s.step plat (.request param out)).ruuvi.table =
        SlotTable.insert (sessionId.str, param.remoteIp.str) s.ruuvi.table :=
      (congrArg (fun u => u.auth.ruuvi.table) heffect).trans
        (table_insert s.ruuvi sessionId param.remoteIp (matches_str_ne_nil hl.pending))
    have hlt : i + 1 < s.ruuvi.table.length := by
      rw [table_length]
      have := hroom.resolve_right (not_not.mpr haccepted)
      omega
    rw [if_pos haccepted]
    refine ⟨i + 1, by omega, ?_⟩
    rw [htable, SlotTable.getElem?_insert_succ _ hlt, hslot]
  | logout sessionId j hcode hl heffect =>
    have htable : (s.step plat (.request param out)).ruuvi.table =
        SlotTable.free s.ruuvi.table j :=
      (congrArg (fun u => u.auth.ruuvi.table) heffect).trans (table_deleteSlot s.ruuvi j)
    have hother := hlogout hl.isDeleteAuth hcode
    rw [key_eq hl.cookie] at hother
    have hne : j.1 ≠ i := by
      rintro rfl
      have hfound := (findAuthorizedSession_eq_some hl.found).1
      exact hother (Option.some.inj (Option.some.inj (hfound.symm.trans hslot)))
    refine ⟨i, Nat.le_add_right_of_le hi, ?_⟩
    rw [htable, SlotTable.getElem?_free_of_ne hne, hslot]

/-- A session outlives a run with at most as many logins as there are slots behind it. -/
theorem run_held {events : List Event} (ht : s.authInfo.authType.isRuuvi)
    (h : s.ruuvi.HeldWithin key k) (hno : NoChange plat s events)
    (hkept : NotLoggedOut plat key s events)
    (hfew : k + acceptedLogins plat s events < httpServerAuthRuuviMaxNumSessions) :
    (s.run plat events).ruuvi.HeldWithin key (k + acceptedLogins plat s events) := by
  induction events generalizing s k with
  | nil => exact h
  | cons e events ih =>
    have hsame : SameCredentials (s.step plat e).authInfo s.authInfo := step_sameCredentials hno.1
    have htype : (s.step plat e).authInfo.authType.isRuuvi := by
      rw [hsame.authType]
      exact ht
    rw [HttpServerState.run_cons]
    cases e with
    | request param out =>
      unfold acceptedLogins at hfew ⊢
      rw [← Nat.add_assoc] at hfew ⊢
      refine ih htype (request_held ht h hkept.1 ?_) hno.2 hkept.2 hfew
      by_cases haccepted : param.isPostAuth ∧
          (httpServerHandleReq plat out param s).1.httpRespCode = .c200
      · rw [if_pos haccepted] at hfew
        exact .inl (by omega)
      · exact .inr haccepted
    | setAuth args =>
      obtain ⟨hauth, -⟩ := setAuth_of_not_changes (s := s) (hno.1 args rfl)
      have hheld : (s.step plat (.setAuth args)).ruuvi.HeldWithin key k := by
        obtain ⟨i, hi, hslot⟩ := h
        exact ⟨i, hi, (congrArg (fun auth => auth.ruuvi.table[i]?) hauth).trans hslot⟩
      exact ih htype hheld hno.2 hkept hfew

/-- A session of the table passes the check. -/
theorem checkAuth_of_mem_entries {authParam : HttpServerHandleReqAuthParam} {flag : Option Bool}
    {sessionId : CharBuf 17} (ht : s.authInfo.authType.isRuuvi)
    (hbearer : httpServerHandleReqCheckAuthBearer authParam.httpHeader
      authParam.flagCheckRwAccessWithBearerToken s.authInfo = .notUsed)
    (hcookie : httpServerAuthRuuviGetSessionIdFromCookies authParam.httpHeader = (true, sessionId))
    (hmem : (sessionId.str, authParam.remoteIp.str) ∈ s.ruuvi.entries) :
    (httpServerHandleReqCheckAuth plat out authParam flag s).1.httpRespCode = .c200 := by
  obtain ⟨i, hi⟩ := Option.isSome_iff_exists.mp (findAuthorizedSession_isSome_iff.mpr hmem)
  have htype : (httpServerHandleReqAuthByType plat out authParam true s).1.httpRespCode = .c200 := by
    unfold httpServerHandleReqAuthByType httpServerHandleReqGetAuthRuuvi
    rcases ht with ht | ht
    · simp [ht, hcookie, hi]
    · simp [ht, hcookie, hi]
  unfold httpServerHandleReqCheckAuth httpServerHandleReqGetOrCheckAuth
  split_ifs with hlan
  · rfl
  · simp only [hbearer]
    split
    · exact htype
    · exact htype

end Held

/-- In the types with sessions a 401 to `GET /auth` shows the client the pending challenge and
session id. If nobody else logs in meanwhile, the login of a client that knows the credentials is
accepted, and its session passes the check until it is logged out, the credentials change or four
other logins have followed. -/
theorem honest_login_completes (plat : Platform) (hostinfo : WifimanHostinfo)
    (random : ℕ → UInt32) (events : List Event) {s : HttpServerState}
    (hs : (HttpServerState.start hostinfo random).run plat events = s)
    (ht : s.authInfo.authType.isRuuvi) (huser : s.authInfo.authUser ≠ [])
    (hhost : s.hostinfo.hostname.length < 30)
    {get : HttpServerHandleReqParam} {getOut : Outcomes} (hget : get.isGetAuth)
    (hcode : (httpServerHandleReq plat getOut get s).1.httpRespCode = .c401)
    {shown : HttpServerState} (hshown : s.step plat (.request get getOut) = shown) :
    challengeText s.hostinfo.hostname shown.ruuvi.loginSession.challenge.str
        shown.ruuvi.loginSession.sessionId.str <+: shown.extraHeaderFields ∧
    ∀ waiting login loginOut, Undisturbed plat shown waiting →
      HonestLogin plat loginOut login s.authInfo shown.ruuvi.loginSession.challenge.str
        shown.ruuvi.loginSession.sessionId.str →
      login.remoteIp.str = get.remoteIp.str →
      (httpServerHandleReq plat loginOut login (shown.run plat waiting)).1.httpRespCode = .c200 ∧
      ∀ later,
        NoChange plat ((shown.run plat waiting).step plat (.request login loginOut)) later →
        NotLoggedOut plat (shown.ruuvi.loginSession.sessionId.str, get.remoteIp.str)
          ((shown.run plat waiting).step plat (.request login loginOut)) later →
        acceptedLogins plat ((shown.run plat waiting).step plat (.request login loginOut)) later <
          httpServerAuthRuuviMaxNumSessions →
        ∀ out flag (authParam : HttpServerHandleReqAuthParam) sessionId,
          httpServerHandleReqCheckAuthBearer authParam.httpHeader
            authParam.flagCheckRwAccessWithBearerToken
            (((shown.run plat waiting).step plat (.request login loginOut)).run plat
              later).authInfo = .notUsed →
          httpServerAuthRuuviGetSessionIdFromCookies authParam.httpHeader = (true, sessionId) →
          sessionId.str = shown.ruuvi.loginSession.sessionId.str →
          authParam.remoteIp.str = get.remoteIp.str →
          (httpServerHandleReqCheckAuth plat out authParam flag
            (((shown.run plat waiting).step plat (.request login loginOut)).run plat
              later)).1.httpRespCode = .c200 := by
  have hstart : UserStored (HttpServerState.start hostinfo random).authInfo := rfl
  have hstored : UserStored s.authInfo := by
    rw [← hs]
    exact run_userStored hstart events
  obtain ⟨session, hdraw, hip, hne, -, hprint⟩ :=
    (getAuth_cases plat getOut ht hget).resolve_right fun h => h.2 hcode
  have hprint := hprint hcode hhost
  have hpending : shown.ruuvi.loginSession = session := by
    rw [← hshown]
    exact congrArg (fun u => u.auth.ruuvi.loginSession) hdraw
  have hinfo : shown.authInfo = s.authInfo := by
    rw [← hshown]
    exact request_authInfo plat getOut get s
  have hshown' : (httpServerHandleReq plat getOut get s).2 = shown := hshown
  rw [hpending]
  rw [hshown'] at hprint
  refine ⟨hprint, ?_⟩
  intro waiting login loginOut hwaiting hlogin hloginIp
  have hsame : SameCredentials (shown.run plat waiting).authInfo s.authInfo := by
    rw [← hinfo]
    exact run_sameCredentials hwaiting.unchanging
  have hkept : (shown.run plat waiting).ruuvi.loginSession = session := by
    have htype : shown.authInfo.authType.isRuuvi := by
      rw [hinfo]
      exact ht
    rw [run_loginSession plat htype hwaiting, hpending]
  obtain ⟨haccepted, id, hid, hauth⟩ := hlogin.accepted hstored huser ht hsame
    (by rw [hkept]) (by rw [hkept]) hne (by rw [hkept, hip, hloginIp])
  refine ⟨haccepted, ?_⟩
  intro later hno hnot hfew out flag authParam sessionId hbearer hcookie hsid hparamIp
  have htype : ((shown.run plat waiting).step plat
      (.request login loginOut)).authInfo.authType.isRuuvi := by
    have := request_authInfo plat loginOut login (shown.run plat waiting)
    unfold HttpServerState.step
    rw [this, hsame.authType]
    exact ht
  have hheld : ((shown.run plat waiting).step plat (.request login loginOut)).ruuvi.HeldWithin
      (session.sessionId.str, get.remoteIp.str) 0 := by
    have hfirst := heldWithin_authorize (shown.run plat waiting) login.remoteIp
      (hid.trans_ne hne)
    rw [hid, hloginIp, ← hauth] at hfirst
    exact hfirst
  have hmem := (run_held htype hheld hno hnot (by rwa [Nat.zero_add])).mem_entries
  refine checkAuth_of_mem_entries ?_ hbearer hcookie (by rwa [hsid, hparamIp])
  rw [(run_sameCredentials hno).authType]
  exact htype

/-- The device after `GET /auth`. -/
def challengedState : HttpServerState :=
  ruuviStart.step (samplePlatform (ascii "admin")) (sampleEvent "GET" [] [])

theorem honestLogin_admin : HonestLogin (samplePlatform (ascii "admin")) sampleOutcomes
    (sampleParam "POST" (sampleCookie "AAAAAAAAAAAAAAAA") (sampleBody (ascii "admin")))
    ruuviStart.authInfo challengedState.ruuvi.loginSession.challenge.str
    challengedState.ruuvi.loginSession.sessionId.str := by
  have hcookie : (sampleParam "POST" (sampleCookie "AAAAAAAAAAAAAAAA")
      (sampleBody (ascii "admin"))).HasSessionId (.ofStr 17 (ascii "AAAAAAAAAAAAAAAA")) := by
    unfold HttpServerHandleReqParam.HasSessionId
    decide +kernel
  have hroot : (samplePlatform (ascii "admin")).cJsonParse (sampleBody (ascii "admin")) =
      some fun attr =>
        if attr = ascii "login" then some (some (ascii "admin"))
        else if attr = ascii "password" then some (some samplePasswordHash)
        else none := by
    unfold samplePlatform
    dsimp only
    rw [if_pos rfl]
  refine ⟨by decide, ⟨_, hcookie, by decide +kernel⟩, ?_, ⟨rfl, rfl, rfl, rfl⟩⟩
  exact ⟨_, _, by decide +kernel, hroot, by decide +kernel, by decide +kernel⟩

/-- The user of `adminRun` goes through the protocol. -/
theorem honest_login_completes_admin :
    (httpServerHandleReq (samplePlatform (ascii "admin")) sampleOutcomes
        (sampleParam "POST" (sampleCookie "AAAAAAAAAAAAAAAA") (sampleBody (ascii "admin")))
        challengedState).1.httpRespCode = .c200 := by
  have hget : (sampleParam "GET" [] []).isGetAuth := by decide
  have hcode : (httpServerHandleReq (samplePlatform (ascii "admin")) sampleOutcomes
      (sampleParam "GET" [] []) ruuviStart).1.httpRespCode = .c401 := by decide +kernel
  have hshown : ruuviStart.step (samplePlatform (ascii "admin"))
      (.request (sampleParam "GET" [] []) sampleOutcomes) = challengedState := rfl
  have hlogin := honest_login_completes (samplePlatform (ascii "admin")) sampleHostinfo sampleRandom
    [sampleSetAuth .ruuvi (ascii "admin")] rfl (by decide +kernel) (by decide +kernel)
    (by decide +kernel) hget hcode hshown
  exact (hlogin.2 [] _ _ trivial honestLogin_admin rfl).1

end Auth
end Esp32WifiManager
