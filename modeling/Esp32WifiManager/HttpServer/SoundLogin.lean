import Esp32WifiManager.HttpServer.Table

/-!
# Authorized sessions come from logins

In a run that starts with the server, every session in the table of the types
`RUUVI` and `DEFAULT` has been put there by a login with good credentials, and
the credentials have not been changed since.
-/

namespace Esp32WifiManager
namespace Auth

open CString HttpReq

/-! ### The configuration along a run -/

structure SameCredentials (a b : HttpServerAuthInfo) : Prop where
  authType : a.authType = b.authType
  authUser : a.authUser = b.authUser
  authPass : a.authPass = b.authPass

/-- The event does not change type, user or password. -/
def Event.Unchanging (s : HttpServerState) (e : Event) : Prop :=
  ∀ args, e = .setAuth args → args.changes s.authInfo = false

/-- No event of the run changes type, user or password. -/
def NoChange (plat : Platform) : HttpServerState → List Event → Prop
  | _, [] => True
  | s, e :: events => e.Unchanging s ∧ NoChange plat (s.step plat e) events

section Configuration

variable {plat : Platform} {s : HttpServerState} {args : SetAuthArgs}

theorem SameCredentials.refl (a : HttpServerAuthInfo) : SameCredentials a a := ⟨rfl, rfl, rfl⟩

theorem SameCredentials.trans {a b c : HttpServerAuthInfo} (h : SameCredentials a b)
    (h' : SameCredentials b c) : SameCredentials a c :=
  ⟨h.1.trans h'.1, h.2.trans h'.2, h.3.trans h'.3⟩

theorem request_unchanging (param : HttpServerHandleReqParam) (out : Outcomes) :
    (Event.request param out).Unchanging s := by
  intro args h
  cases h

theorem noChange_append {events later : List Event} :
    NoChange plat s (events ++ later) ↔
      NoChange plat s events ∧ NoChange plat (s.run plat events) later := by
  induction events generalizing s with
  | nil => simp [NoChange]
  | cons e events ih => simp only [List.cons_append, NoChange, ih, HttpServerState.run_cons, and_assoc]

theorem noChange_concat {events : List Event} {e : Event} :
    NoChange plat s (events ++ [e]) ↔
      NoChange plat s events ∧ e.Unchanging (s.run plat events) := by
  simp [noChange_append, NoChange]

theorem noChange_of_requests {events : List Event}
    (h : ∀ e ∈ events, ∃ param out, e = .request param out) : NoChange plat s events := by
  induction events generalizing s with
  | nil => trivial
  | cons e events ih =>
    obtain ⟨param, out, rfl⟩ := h e List.mem_cons_self
    exact ⟨request_unchanging param out, ih fun e he => h e (List.mem_cons_of_mem _ he)⟩

theorem QuietEffect.authInfo {remoteIp : CharBuf 17} {s s' : SessionState}
    (h : QuietEffect remoteIp s s') : s'.authInfo = s.authInfo := by
  cases h with
  | keep h => rw [h]
  | draw session h => rw [h, draw_authInfo]
  | grant session ht h => rw [h, grant_authInfo]
  | digest req ht h => rw [h]

/-- A request does not touch the configuration. -/
theorem request_authInfo (plat : Platform) (out : Outcomes) (param : HttpServerHandleReqParam)
    (s : HttpServerState) : (httpServerHandleReq plat out param s).2.authInfo = s.authInfo := by
  cases request_effect plat out param s with
  | quiet hq h => exact h.authInfo
  | login sessionId hcode hl h => exact congrArg SessionState.authInfo h
  | logout sessionId i hcode hl h => exact congrArg SessionState.authInfo h

theorem not_changes_iff {info : HttpServerAuthInfo} :
    args.changes info = false ↔ args.authType = info.authType ∧
      info.authUser = safeStr args.authUser ∧ info.authPass = safeStr args.authPass := by
  simp [SetAuthArgs.changes, and_assoc]

theorem setAuth_of_not_changes (h : args.changes s.authInfo = false) :
    (httpServerSetAuth args s).auth = s.auth ∧
      SameCredentials (httpServerSetAuth args s).authInfo s.authInfo := by
  obtain ⟨ht, hu, hp⟩ := not_changes_iff.mp h
  unfold httpServerSetAuth
  simp only [h, Bool.false_eq_true, if_false]
  exact ⟨trivial, ht, by simp [hu], by simp [hp]⟩

theorem setAuth_of_changes (h : args.changes s.authInfo = true) :
    (httpServerSetAuth args s).auth = .zero := by
  unfold httpServerSetAuth
  simp only [h, if_true]
  rfl

theorem setAuth_loginSessions :
    (httpServerSetAuth args s).loginSessions = s.loginSessions := by
  unfold httpServerSetAuth
  dsimp only
  split
  · rfl
  · rfl

theorem step_sameCredentials {e : Event} (h : e.Unchanging s) :
    SameCredentials (s.step plat e).authInfo s.authInfo := by
  cases e with
  | request param out =>
    have := request_authInfo plat out param s
    unfold HttpServerState.step
    rw [this]
    exact .refl _
  | setAuth args => exact (setAuth_of_not_changes (h args rfl)).2

theorem run_sameCredentials {events : List Event} (h : NoChange plat s events) :
    SameCredentials (s.run plat events).authInfo s.authInfo := by
  induction events generalizing s with
  | nil => exact .refl _
  | cons e events ih => exact (ih h.2).trans (step_sameCredentials h.1)

end Configuration

/-! ### Past logins -/

/-- `param` logs in to the session `key` in the state `s`. -/
structure Login (plat : Platform) (out : Outcomes) (param : HttpServerHandleReqParam)
    (s : HttpServerState) (key : SessionKey) : Prop where
  isPostAuth : param.isPostAuth
  answered : (httpServerHandleReq plat out param s).1.httpRespCode = .c200
  cookie : ∃ sessionId, param.HasSessionId sessionId ∧ sessionId.str = key.1
  remoteIp : param.remoteIp.str = key.2
  pendingId : s.ruuvi.loginSession.sessionId.str = key.1
  pendingIp : s.ruuvi.loginSession.remoteIp.str = key.2
  body : ∃ body, httpServerPostBody plat out param.reqInfo = some body ∧
    GoodCredentials plat s.sessions body

/-- The run from `s` has a login to `key`, and no change of the credentials behind it. -/
def LoggedIn (plat : Platform) (s : HttpServerState) (events : List Event) (key : SessionKey) :
    Prop :=
  ∃ before param out after, events = before ++ .request param out :: after ∧
    Login plat out param (s.run plat before) key ∧
    NoChange plat ((s.run plat before).step plat (.request param out)) after

section LoggedIn

variable {plat : Platform} {s : HttpServerState} {events : List Event} {key : SessionKey}

theorem LoggedIn.concat (h : LoggedIn plat s events key) {e : Event}
    (he : e.Unchanging (s.run plat events)) : LoggedIn plat s (events ++ [e]) key := by
  obtain ⟨before, param, out, after, rfl, hlogin, hafter⟩ := h
  refine ⟨before, param, out, after ++ [e], by simp, hlogin, ?_⟩
  rw [noChange_concat]
  refine ⟨hafter, ?_⟩
  simpa [HttpServerState.run_append] using he

theorem LoggedIn.of_login {param : HttpServerHandleReqParam} {out : Outcomes}
    (h : Login plat out param (s.run plat events) key) :
    LoggedIn plat s (events ++ [.request param out]) key :=
  ⟨events, param, out, [], rfl, h, trivial⟩

end LoggedIn

/-- In the types with sessions, every session of the table has a login. -/
def TableSound (plat : Platform) (s₀ : HttpServerState) (events : List Event) : Prop :=
  (s₀.run plat events).authInfo.authType.isRuuvi →
    ∀ key ∈ (s₀.run plat events).ruuvi.entries, LoggedIn plat s₀ events key

section Soundness

variable {plat : Platform} {s₀ : HttpServerState} {events : List Event}

theorem entries_zero : HttpServerAuthRuuvi.zero.entries = [] := by
  unfold HttpServerAuthRuuvi.entries
  rw [table_zero]
  rfl

theorem QuietEffect.entries_of_isRuuvi {remoteIp : CharBuf 17} {s s' : SessionState}
    (h : QuietEffect remoteIp s s') (ht : s.authInfo.authType.isRuuvi) :
    s'.auth.ruuvi.entries = s.auth.ruuvi.entries := by
  cases h with
  | keep h => rw [h]
  | draw session h => rw [h]; rfl
  | grant session ht' h =>
    rw [ht'] at ht
    rcases ht with ht | ht <;> cases ht
  | digest req ht' h =>
    rw [ht'] at ht
    rcases ht with ht | ht <;> cases ht

theorem login_of_checked {out : Outcomes} {param : HttpServerHandleReqParam}
    {s : HttpServerState} {sessionId : CharBuf 17}
    (hcode : (httpServerHandleReq plat out param s).1.httpRespCode = .c200)
    (h : LoginChecked plat out param sessionId s.sessions) :
    Login plat out param s (sessionId.str, param.remoteIp.str) := by
  obtain ⟨-, hid, hip⟩ := matches_iff.mp h.pending
  exact ⟨h.isPostAuth, hcode, ⟨sessionId, h.cookie, rfl⟩, rfl, hid, hip, h.body⟩

theorem entries_authorize (s : SessionState) {sessionId : CharBuf 17} (h : sessionId.str ≠ [])
    (remoteIp : CharBuf 17) :
    (s.authorize sessionId remoteIp).auth.ruuvi.entries.Sublist
      ((sessionId.str, remoteIp.str) :: s.auth.ruuvi.entries) := by
  have htable : (s.authorize sessionId remoteIp).auth.ruuvi.table =
      SlotTable.insert (sessionId.str, remoteIp.str) s.auth.ruuvi.table :=
    table_insert s.auth.ruuvi sessionId remoteIp h
  unfold HttpServerAuthRuuvi.entries
  rw [htable]
  exact SlotTable.reduceOption_insert_sublist _ _

theorem entries_deleteSlot (s : SessionState) (i : Fin httpServerAuthRuuviMaxNumSessions) :
    (s.deleteSlot i).auth.ruuvi.entries.Sublist s.auth.ruuvi.entries := by
  have htable : (s.deleteSlot i).auth.ruuvi.table = SlotTable.free s.auth.ruuvi.table i :=
    table_deleteSlot s.auth.ruuvi i
  unfold HttpServerAuthRuuvi.entries
  rw [htable]
  exact SlotTable.reduceOption_free_sublist _ _

theorem TableSound.request (h : TableSound plat s₀ events) (param : HttpServerHandleReqParam)
    (out : Outcomes) : TableSound plat s₀ (events ++ [.request param out]) := by
  unfold TableSound at h ⊢
  rw [HttpServerState.run_append]
  set s := s₀.run plat events
  intro ht key hkey
  have hinfo : (s.step plat (.request param out)).authInfo = s.authInfo :=
    request_authInfo plat out param s
  simp only [HttpServerState.run_cons, HttpServerState.run_nil] at ht hkey
  rw [hinfo] at ht
  have hold (hmem : key ∈ s.ruuvi.entries) :
      LoggedIn plat s₀ (events ++ [.request param out]) key :=
    (h ht key hmem).concat (request_unchanging param out)
  cases request_effect plat out param s with
  | quiet hq hquiet =>
    have heq := hquiet.entries_of_isRuuvi ht
    exact hold (heq ▸ hkey)
  | login sessionId hcode hl heq =>
    have hsub := entries_authorize s.sessions (matches_str_ne_nil hl.pending) param.remoteIp
    have hmem : key ∈ (s.sessions.authorize sessionId param.remoteIp).auth.ruuvi.entries :=
      heq ▸ hkey
    rcases List.mem_cons.mp (hsub.subset hmem) with rfl | hmem
    · exact LoggedIn.of_login (login_of_checked hcode hl)
    · exact hold hmem
  | logout sessionId i hcode hl heq =>
    have hmem : key ∈ (s.sessions.deleteSlot i).auth.ruuvi.entries := heq ▸ hkey
    exact hold ((entries_deleteSlot s.sessions i).subset hmem)

theorem TableSound.setAuth (h : TableSound plat s₀ events) (args : SetAuthArgs) :
    TableSound plat s₀ (events ++ [.setAuth args]) := by
  unfold TableSound at h ⊢
  rw [HttpServerState.run_append]
  set s := s₀.run plat events
  simp only [HttpServerState.run_cons, HttpServerState.run_nil, HttpServerState.step]
  intro ht key hkey
  cases hch : args.changes s.authInfo with
  | true =>
    have hzero : (httpServerSetAuth args s).ruuvi = .zero :=
      congrArg HttpServerAuth.ruuvi (setAuth_of_changes hch)
    rw [hzero, entries_zero] at hkey
    cases hkey
  | false =>
    obtain ⟨hauth, hsame⟩ := setAuth_of_not_changes hch
    rw [hsame.authType] at ht
    have hkey : key ∈ s.ruuvi.entries := by
      unfold HttpServerState.ruuvi at hkey ⊢
      rwa [hauth] at hkey
    refine (h ht key hkey).concat ?_
    intro args' he
    cases he
    exact hch

/-- The invariant of a run that starts with an empty table. -/
theorem tableSound_run (h₀ : s₀.ruuvi.entries = []) (events : List Event) :
    TableSound plat s₀ events := by
  induction events using List.reverseRecOn with
  | nil =>
    intro _ key hkey
    rw [HttpServerState.run_nil, h₀] at hkey
    cases hkey
  | append_singleton events e ih =>
    cases e with
    | request param out => exact ih.request param out
    | setAuth args => exact ih.setAuth args

end Soundness

/-- Who passes the check by a session cookie has its session in the table. -/
theorem checkAuth_session {plat : Platform} {out : Outcomes} {param : HttpServerHandleReqAuthParam}
    {flag : Option Bool} {s : HttpServerState} {sessionId : CharBuf 17}
    (ht : s.authInfo.authType.isRuuvi) (hlan : param.flagAccessFromLan = true)
    (hbearer : httpServerHandleReqCheckAuthBearer param.httpHeader
      param.flagCheckRwAccessWithBearerToken s.authInfo = .notUsed)
    (hcookie : httpServerAuthRuuviGetSessionIdFromCookies param.httpHeader = (true, sessionId))
    (hcode : (httpServerHandleReqCheckAuth plat out param flag s).1.httpRespCode = .c200) :
    (sessionId.str, param.remoteIp.str) ∈ s.ruuvi.entries := by
  rw [← findAuthorizedSession_isSome_iff]
  have hruuvi (authType : HttpServerAuthType) (hne : authType ≠ .allow)
      (h : (httpServerHandleReqGetAuthRuuvi plat out param true authType s).1.httpRespCode = .c200) :
      (httpServerAuthRuuviFindAuthorizedSession sessionId param.remoteIp s.ruuvi).isSome = true := by
    unfold httpServerHandleReqGetAuthRuuvi at h
    simp only [hne, decide_false, Bool.and_false, Bool.false_eq_true, if_false, hcookie,
      if_true] at h
    split at h
    · simp [httpServerResp401AuthRuuvi] at h
    · next i hi => simp [hi]
  have htype (h : (httpServerHandleReqAuthByType plat out param true s).1.httpRespCode = .c200) :
      (httpServerAuthRuuviFindAuthorizedSession sessionId param.remoteIp s.ruuvi).isSome = true := by
    unfold httpServerHandleReqAuthByType at h
    rcases ht with ht | ht
    · rw [ht] at h
      exact hruuvi .ruuvi (by decide) h
    · rw [ht] at h
      exact hruuvi .default (by decide) h
  unfold httpServerHandleReqCheckAuth httpServerHandleReqGetOrCheckAuth at hcode
  simp only [hlan, Bool.not_true, Bool.false_eq_true, if_false, hbearer] at hcode
  split at hcode
  · exact htype hcode
  · exact htype hcode

/-- A session that passes the check has logged in with good credentials, and the credentials are
still the configured ones. -/
theorem checkAuth_loggedIn (plat : Platform) (hostinfo : WifimanHostinfo) (random : ℕ → UInt32)
    (events : List Event) (out : Outcomes) (param : HttpServerHandleReqAuthParam)
    (flag : Option Bool) (sessionId : CharBuf 17)
    (ht : ((HttpServerState.start hostinfo random).run plat events).authInfo.authType.isRuuvi)
    (hlan : param.flagAccessFromLan = true)
    (hbearer : httpServerHandleReqCheckAuthBearer param.httpHeader
      param.flagCheckRwAccessWithBearerToken
      ((HttpServerState.start hostinfo random).run plat events).authInfo = .notUsed)
    (hcookie : httpServerAuthRuuviGetSessionIdFromCookies param.httpHeader = (true, sessionId))
    (hcode : (httpServerHandleReqCheckAuth plat out param flag
      ((HttpServerState.start hostinfo random).run plat events)).1.httpRespCode = .c200) :
    ∃ before login loginOut after, events = before ++ .request login loginOut :: after ∧
      Login plat loginOut login ((HttpServerState.start hostinfo random).run plat before)
        (sessionId.str, param.remoteIp.str) ∧
      NoChange plat (((HttpServerState.start hostinfo random).run plat before).step plat
        (.request login loginOut)) after ∧
      SameCredentials ((HttpServerState.start hostinfo random).run plat events).authInfo
        ((HttpServerState.start hostinfo random).run plat before).authInfo := by
  have hstart : (HttpServerState.start hostinfo random).ruuvi.entries = [] := entries_zero
  have hkey := checkAuth_session ht hlan hbearer hcookie hcode
  obtain ⟨before, login, loginOut, after, rfl, hlogin, hafter⟩ :=
    tableSound_run hstart events ht _ hkey
  refine ⟨before, login, loginOut, after, rfl, hlogin, hafter, ?_⟩
  rw [HttpServerState.run_append, HttpServerState.run_cons]
  exact (run_sameCredentials hafter).trans
    (step_sameCredentials (request_unchanging login loginOut))

/-! ### A sample device -/

def hexDigit (n : ℕ) : UInt8 := if n < 10 then (48 + n).toUInt8 else (87 + n).toUInt8

def binToHex (bin : Bytes) : Bytes :=
  (bin.map fun b => [hexDigit (b.toNat / 16), hexDigit (b.toNat % 16)]).flatten

def hexValue (c : UInt8) : UInt8 := if c ≤ 57 then c - 48 else c - 87

def hexToBin : Bytes → Bytes
  | hi :: lo :: rest => (16 * hexValue hi + hexValue lo) :: hexToBin rest
  | _ => []

/-- The SHA-256 of 32 zero bytes. -/
def sampleChallenge : Bytes :=
  ascii "66687aadf862bd776c8fc18b8e9f8e20089714856ee233b3902a591d0d5f2925"

/-- The SHA-256 of `sampleChallenge`, a colon and `secret`. -/
def samplePasswordHash : Bytes :=
  ascii "7ee0eb7209ded7f082ece855dc9a32b9b89dde4fd0af7c15b05086fc5bb8df83"

def sampleBody (login : Bytes) : Bytes :=
  ascii "\x7b\"login\":\"" ++ login ++ ascii "\",\"password\":\"" ++ samplePasswordHash ++
    ascii "\"\x7d"

/-- The digests of the two texts above, and the JSON tree of `sampleBody login`. -/
def samplePlatform (login : Bytes) : Platform where
  sha256 m :=
    if m = List.replicate 32 0 then hexToBin sampleChallenge
    else if m = sampleChallenge ++ ascii ":secret" then hexToBin samplePasswordHash
    else List.replicate 32 0
  md5 _ := List.replicate 16 0
  strBufBinToHex := binToHex
  strBufPrintf size buf part :=
    if buf.length + part.length < size then (true, buf ++ part)
    else (false, (buf ++ part).take (size - 1))
  cJsonParse m :=
    if m = sampleBody login then
      some fun attr =>
        if attr = ascii "login" then some (some login)
        else if attr = ascii "password" then some (some samplePasswordHash)
        else none
    else none

/-- Nothing fails; there are no callbacks. -/
def sampleOutcomes : Outcomes where
  challengeSha256 := none
  nonceSha256 := true
  opaqueSha256 := true
  ha2Str := true
  ha2Md5 := true
  responseStr := true
  responseMd5 := true
  callocAuthReq := true
  callocPasswordHash := true
  hashedPassword := true
  jsonMem := true
  ecdhDecrypt _ _ _ := none
  ecdhHandshake _ := none
  scanSync := none
  statusJson := none
  cbOnHttpGet _ _ _ := httpServerRespErr .c404
  cbOnHttpPost _ _ _ _ := httpServerRespErr .c404
  cbOnHttpDelete _ _ _ := httpServerRespErr .c404

/-- The session ids will be 16 times `A`, 16 times `B` and so on, with one challenge. -/
def sampleRandom (n : ℕ) : UInt32 := if n % 48 < 32 then 0 else (n / 48).toUInt32

def sampleHostinfo : WifimanHostinfo := ⟨ascii "RuuviGateway", ascii "v1.15.0", ascii "v1.0.0"⟩

def sampleIp : CharBuf 17 := .ofStr 17 (ascii "192.168.1.7")

def sampleCookie (sessionId : String) : Bytes :=
  ascii "Cookie: RUUVISESSION=" ++ ascii sessionId ++ ascii "\r\n"

/-- A request to `/auth` from LAN. -/
def sampleParam (cmd : String) (header body : Bytes) : HttpServerHandleReqParam :=
  ⟨⟨ascii cmd, ascii "/auth", none, header, body⟩, sampleIp, true⟩

def sampleEvent (cmd : String) (header body : Bytes) : Event :=
  .request (sampleParam cmd header body) sampleOutcomes

def sampleSetAuth (authType : HttpServerAuthType) (user : Bytes) : Event :=
  .setAuth ⟨authType, some user, some (ascii "secret"), none, none⟩

/-- A session is drawn by `GET /auth` and logged in. -/
def sampleLogin (login : Bytes) (sessionId : String) : List Event :=
  [sampleEvent "GET" [] [],
    sampleEvent "POST" (sampleCookie sessionId) (sampleBody login)]

abbrev sampleRun (login : Bytes) (events : List Event) : HttpServerState :=
  (HttpServerState.start sampleHostinfo sampleRandom).run (samplePlatform login) events

def adminRun : List Event :=
  sampleSetAuth .ruuvi (ascii "admin") :: sampleLogin (ascii "admin") "AAAAAAAAAAAAAAAA"

theorem checkAuth_loggedIn_admin :
    ∃ before login loginOut after,
      adminRun = before ++ .request login loginOut :: after ∧
      Login (samplePlatform (ascii "admin")) loginOut login (sampleRun (ascii "admin") before)
        ((CharBuf.ofStr 17 (ascii "AAAAAAAAAAAAAAAA")).str, sampleIp.str) ∧
      NoChange (samplePlatform (ascii "admin")) ((sampleRun (ascii "admin") before).step
        (samplePlatform (ascii "admin")) (.request login loginOut)) after ∧
      SameCredentials (sampleRun (ascii "admin") adminRun).authInfo
        (sampleRun (ascii "admin") before).authInfo := by
  have h : (sampleRun (ascii "admin") adminRun).authInfo.authType.isRuuvi ∧
      httpServerHandleReqCheckAuthBearer (sampleCookie "AAAAAAAAAAAAAAAA") false
        (sampleRun (ascii "admin") adminRun).authInfo = .notUsed ∧
      (httpServerHandleReqCheckAuth (samplePlatform (ascii "admin")) sampleOutcomes
        ⟨true, false, sampleCookie "AAAAAAAAAAAAAAAA", sampleIp⟩ (some false)
        (sampleRun (ascii "admin") adminRun)).1.httpRespCode = .c200 := by
    decide +kernel
  exact checkAuth_loggedIn (samplePlatform (ascii "admin")) sampleHostinfo sampleRandom adminRun
    sampleOutcomes ⟨true, false, sampleCookie "AAAAAAAAAAAAAAAA", sampleIp⟩ (some false)
    (.ofStr 17 (ascii "AAAAAAAAAAAAAAAA")) h.1 rfl h.2.1 (by decide +kernel) h.2.2

/-- A login of 60 characters, cut to the 50 of the configured user. -/
def longLogin : Bytes := List.replicate 60 117

def longLoginRun : List Event :=
  sampleSetAuth .ruuvi (longLogin.take 50) :: sampleLogin longLogin "AAAAAAAAAAAAAAAA"

/-- The check is passed, and no request of the run has a `login` that, cut to 64 characters, is
the configured user. -/
theorem long_login_accepted :
    ((httpServerHandleReqCheckAuth (samplePlatform longLogin) sampleOutcomes
        ⟨true, false, sampleCookie "AAAAAAAAAAAAAAAA", sampleIp⟩ (some false)
        (sampleRun longLogin longLoginRun)).1.httpRespCode = .c200 ∧
      (sampleRun longLogin longLoginRun).authInfo.authType = .ruuvi ∧
      httpServerHandleReqCheckAuthBearer (sampleCookie "AAAAAAAAAAAAAAAA") false
        (sampleRun longLogin longLoginRun).authInfo = .notUsed) ∧
    ¬ ∃ before param out after body root login,
      longLoginRun = before ++ .request param out :: after ∧ param.isPostAuth ∧
      httpServerPostBody (samplePlatform longLogin) out param.reqInfo = some body ∧
      (samplePlatform longLogin).cJsonParse body = some root ∧
      root (ascii "login") = some (some login) ∧
      snprintf 65 (text login) = (sampleRun longLogin longLoginRun).authInfo.authUser := by
  refine ⟨by decide +kernel, ?_⟩
  rintro ⟨before, param, out, after, body, root, login, -, -, -, hroot, hlogin, huser⟩
  have hlong : login = longLogin := by
    unfold samplePlatform at hroot
    dsimp only at hroot
    split_ifs at hroot
    obtain rfl := Option.some.inj hroot
    dsimp only at hlogin
    rw [if_pos rfl] at hlogin
    exact (Option.some.inj (Option.some.inj hlogin)).symm
  rw [hlong] at huser
  exact absurd huser (by decide +kernel)

end Auth
end Esp32WifiManager
