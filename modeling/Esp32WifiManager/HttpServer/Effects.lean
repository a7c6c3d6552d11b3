import Esp32WifiManager.HttpServer.BearerLaw
import Esp32WifiManager.HttpServer.ServeHandleReq
import Esp32WifiManager.WifiManager.System

/-!
# What a request does beside its response

The orders of a request to the Wi-Fi manager and the callbacks of the
application that it reaches, in the order of `http_server_handle_req.c`. A
client from LAN reaches them on grounds of a token or of a login only, but for
the files that need no authentication, and never an order to connect.
-/

namespace Esp32WifiManager
namespace Auth

open CString HttpReq

inductive Effect
  | wifi (req : WifiManager.Request)
  | cbOnRequestStatusJson
  | cbOnHttpGet (fileName : Bytes) (uriParams : Option Bytes) (flagAccessFromLan : Bool)
  | cbOnHttpPost (fileName : Bytes) (uriParams : Option Bytes) (httpBody : Bytes)
      (flagAccessFromLan : Bool)
  | cbOnHttpDelete (fileName : Bytes) (uriParams : Option Bytes) (flagAccessFromLan : Bool)
  deriving DecidableEq

section Effects

variable (plat : Platform) (out : Outcomes) (param : HttpServerHandleReqParam)

def httpServerHandleReqGetServeEffects (fileName : Bytes) : List Effect :=
  if fileName = ascii "ap.json" then [.wifi .scanSync]
  else if fileName = ascii "status.json" then [.cbOnRequestStatusJson]
  else [.cbOnHttpGet fileName param.reqInfo.httpUriParams param.flagAccessFromLan]

def httpServerHandleReqGetEffects (fileNameUnchecked : Bytes) (s : HttpServerState) :
    List Effect :=
  let fileName := if fileNameUnchecked = [] then ascii "index.html" else fileNameUnchecked
  if fileName = ascii "auth" then []
  else if fileNameNeedsAuth fileName then
    let authParam := param.authParam (fileName = ascii "ap.json")
    let (respAuthCheck, _, _) := httpServerHandleReqCheckAuth plat out authParam (some false) s
    if respAuthCheck.httpRespCode ≠ .c200 then []
    else httpServerHandleReqGetServeEffects param fileName
  else httpServerHandleReqGetServeEffects param fileName

def httpServerHandleReqDeleteServeEffects (fileName : Bytes) : List Effect :=
  if fileName = ascii "auth" then []
  else if fileName = ascii "connect.json" then
    if param.flagAccessFromLan then [] else [.wifi .deleteConnectJson]
  else [.cbOnHttpDelete fileName param.reqInfo.httpUriParams param.flagAccessFromLan]

def httpServerHandleReqDeleteEffects (fileName : Bytes) (s : HttpServerState) : List Effect :=
  let (respAuthCheck, _, _) :=
    httpServerHandleReqCheckAuth plat out (param.authParam true) (some false) s
  if respAuthCheck.httpRespCode ≠ .c200 then []
  else httpServerHandleReqDeleteServeEffects param fileName

/-- The handler of the Wi-Fi manager's side decides by the two attributes. -/
def httpServerHandleReqPostConnectJsonEffects (httpBody : Bytes) : List Effect :=
  match httpServerParseJsonWifiSsidPassword plat out httpBody with
  | none => []
  | some attrs => [.wifi (.postConnectJson (WifiManager.wifiSsidPassword attrs))]

def httpServerHandleReqPostServeEffects (fileName httpBody : Bytes) : List Effect :=
  if fileName = ascii "connect.json" then
    if param.flagAccessFromLan then []
    else httpServerHandleReqPostConnectJsonEffects plat out httpBody
  else if fileName = ascii "connect_wps" then
    if param.flagAccessFromLan then [] else [.wifi .postConnectWps]
  else [.cbOnHttpPost fileName param.reqInfo.httpUriParams httpBody param.flagAccessFromLan]

def httpServerHandleReqPostEffects (fileName httpBody : Bytes) (s : HttpServerState) :
    List Effect :=
  if fileName = ascii "auth" then []
  else
    let (respAuthCheck, _, _) :=
      httpServerHandleReqCheckAuth plat out (param.authParam true) (some false) s
    if respAuthCheck.httpRespCode ≠ .c200 then []
    else httpServerHandleReqPostServeEffects plat out param fileName httpBody

def httpServerHandleReqPostWithEcdhKeyEffects (path : Bytes) (s : HttpServerState) :
    List Effect :=
  match httpServerPostBody plat out param.reqInfo with
  | none => []
  | some httpBody => httpServerHandleReqPostEffects plat out param path httpBody s

def httpServerHandleReqEffects (s : HttpServerState) : List Effect :=
  let s := { s with extraHeaderFields := [] }
  let path := param.reqInfo.path
  if param.reqInfo.httpCmd = ascii "GET" then httpServerHandleReqGetEffects plat out param path s
  else if param.reqInfo.httpCmd = ascii "DELETE" then
    httpServerHandleReqDeleteEffects plat out param path s
  else if param.reqInfo.httpCmd = ascii "POST" then
    httpServerHandleReqPostWithEcdhKeyEffects plat out param path s
  else []

end Effects

/-- The effects of a request that has been taken from the connection. -/
def ServedReq.effects (plat : Platform) (out : Outcomes) (s : HttpServerState) :
    ServedReq → List Effect
  | .handleReq param => httpServerHandleReqEffects plat out param s
  | _ => []

/-! ### Responses without effects -/

/-- What the Wi-Fi manager and the application may answer. -/
structure Answers where
  scanSync : Option Bytes
  statusJson : Option Bytes
  cbOnHttpGet : Bytes → Option Bytes → Bool → HttpServerResp
  cbOnHttpPost : Bytes → Option Bytes → Bytes → Bool → HttpServerResp
  cbOnHttpDelete : Bytes → Option Bytes → Bool → HttpServerResp

def Outcomes.answered (out : Outcomes) (answers : Answers) : Outcomes :=
  { out with
    scanSync := answers.scanSync
    statusJson := answers.statusJson
    cbOnHttpGet := answers.cbOnHttpGet
    cbOnHttpPost := answers.cbOnHttpPost
    cbOnHttpDelete := answers.cbOnHttpDelete }

section NoEffects

variable {plat : Platform} {out : Outcomes} {param : HttpServerHandleReqParam}
  {s : HttpServerState} {path : Bytes} (answers : Answers)

theorem checkAuth_answered (authParam : HttpServerHandleReqAuthParam) (flag : Option Bool) :
    httpServerHandleReqCheckAuth plat (out.answered answers) authParam flag s =
      httpServerHandleReqCheckAuth plat out authParam flag s := rfl

theorem getServeEffects_ne_nil : httpServerHandleReqGetServeEffects param path ≠ [] := by
  unfold httpServerHandleReqGetServeEffects
  split_ifs <;> simp

theorem get_answered (h : httpServerHandleReqGetEffects plat out param path s = []) :
    httpServerHandleReqGet plat (out.answered answers) path param s =
      httpServerHandleReqGet plat out path param s := by
  unfold httpServerHandleReqGetEffects at h
  unfold httpServerHandleReqGet
  dsimp only at h ⊢
  generalize (if path = [] then ascii "index.html" else path) = fileName at h ⊢
  by_cases hname : fileName = ascii "auth"
  · rw [if_pos hname, if_pos hname]
    rfl
  rw [if_neg hname] at h
  rw [if_neg hname, if_neg hname]
  by_cases hneeds : fileNameNeedsAuth fileName = true
  · rw [if_pos hneeds] at h
    rw [if_pos hneeds, if_pos hneeds, checkAuth_answered]
    split_ifs at h with hcode
    · simp only [if_pos hcode]
    · exact absurd h getServeEffects_ne_nil
  · rw [if_neg hneeds] at h
    exact absurd h getServeEffects_ne_nil

theorem delete_answered (h : httpServerHandleReqDeleteEffects plat out param path s = []) :
    httpServerHandleReqDelete plat (out.answered answers) path param s =
      httpServerHandleReqDelete plat out path param s := by
  unfold httpServerHandleReqDeleteEffects at h
  unfold httpServerHandleReqDelete
  dsimp only at h ⊢
  rw [checkAuth_answered]
  split_ifs at h with hcode
  · rw [if_pos hcode, if_pos hcode]
  · rw [if_neg hcode, if_neg hcode]
    unfold httpServerHandleReqDeleteServeEffects at h
    unfold httpServerHandleReqDeleteServe
    split_ifs at h ⊢
    all_goals rfl

theorem post_answered {body : Bytes}
    (h : httpServerHandleReqPostEffects plat out param path body s = []) :
    httpServerHandleReqPost plat (out.answered answers) path param body s =
      httpServerHandleReqPost plat out path param body s := by
  unfold httpServerHandleReqPostEffects at h
  unfold httpServerHandleReqPost
  dsimp only at h ⊢
  by_cases hname : path = ascii "auth"
  · rw [if_pos hname, if_pos hname]
    rfl
  rw [if_neg hname] at h
  rw [if_neg hname, if_neg hname, checkAuth_answered]
  split_ifs at h with hcode
  · rw [if_pos hcode, if_pos hcode]
  · rw [if_neg hcode, if_neg hcode]
    unfold httpServerHandleReqPostServeEffects at h
    unfold httpServerHandleReqPostServe
    split_ifs at h ⊢
    all_goals rfl

/-- The response to a request without effects is the server's own: whatever the Wi-Fi manager and
the application would have answered, it is the same. -/
theorem request_answered (h : httpServerHandleReqEffects plat out param s = []) :
    httpServerHandleReq plat (out.answered answers) param s =
      httpServerHandleReq plat out param s := by
  unfold httpServerHandleReqEffects at h
  unfold httpServerHandleReq
  dsimp only at h ⊢
  by_cases hget : param.reqInfo.httpCmd = ascii "GET"
  · rw [if_pos hget] at h
    rw [if_pos hget, if_pos hget]
    unfold httpServerHandleReqGetWithEcdhKey
    rw [get_answered answers h]
    rfl
  rw [if_neg hget] at h
  rw [if_neg hget, if_neg hget]
  by_cases hdelete : param.reqInfo.httpCmd = ascii "DELETE"
  · rw [if_pos hdelete] at h
    rw [if_pos hdelete, if_pos hdelete]
    exact delete_answered answers h
  rw [if_neg hdelete] at h
  rw [if_neg hdelete, if_neg hdelete]
  by_cases hpost : param.reqInfo.httpCmd = ascii "POST"
  · rw [if_pos hpost] at h
    rw [if_pos hpost, if_pos hpost]
    unfold httpServerHandleReqPostWithEcdhKeyEffects at h
    unfold httpServerHandleReqPostWithEcdhKey
    have hbody : httpServerPostBody plat (out.answered answers) param.reqInfo =
        httpServerPostBody plat out param.reqInfo := rfl
    rw [hbody]
    cases hpostBody : httpServerPostBody plat out param.reqInfo with
    | none => rfl
    | some body =>
      rw [hpostBody] at h
      exact post_answered answers h
  · rw [if_neg hpost, if_neg hpost]

end NoEffects

/-! ### Effects from LAN -/

/-- The server reads for the effect and changes nothing. -/
def Effect.ReadOnly : Effect → Prop
  | .cbOnRequestStatusJson | .cbOnHttpGet _ _ _ => True
  | _ => False

/-- The request has a token that is a key of the configuration, or the cookie of a session that was
logged in with the credentials that are still configured. -/
def OnGrounds (plat : Platform) (s₀ : HttpServerState) (events : List Event)
    (header : Bytes) (remoteIp : CharBuf 17) (readOnly : Prop) : Prop :=
  (∃ token, BearerToken header token ∧
    KeyGrants (s₀.run plat events).authInfo token readOnly) ∨
  ∃ sessionId, httpServerAuthRuuviGetSessionIdFromCookies header = (true, sessionId) ∧
    LoggedIn plat s₀ events (sessionId.str, remoteIp.str)

/-- An effect of a request from LAN: it is not an order to connect, and it has its grounds or
concerns a file that needs none. -/
structure Justified (plat : Platform) (s₀ : HttpServerState) (events : List Event)
    (param : HttpServerHandleReqParam) (e : Effect) : Prop where
  wifi : ∀ req, e = .wifi req → req = .scanSync
  grounds : (∃ fileName, e = .cbOnHttpGet fileName param.reqInfo.httpUriParams true ∧
      fileNameNeedsAuth fileName = false) ∨
    OnGrounds plat s₀ events param.reqInfo.httpHeader param.remoteIp e.ReadOnly

section Lan

variable {plat : Platform} {out : Outcomes} {s₀ : HttpServerState} {events : List Event}

/-- The keys fit into their buffers. -/
structure KeysFit (info : HttpServerAuthInfo) : Prop where
  apiKey : info.authApiKey.length < httpServerAuthApiKeyLen
  apiKeyRw : info.authApiKeyRw.length < httpServerAuthApiKeyLen

theorem keysFit_run (plat : Platform) (hostinfo : WifimanHostinfo) (random : ℕ → UInt32)
    (events : List Event) :
    KeysFit ((HttpServerState.start hostinfo random).run plat events).authInfo := by
  induction events using List.reverseRecOn with
  | nil => exact ⟨Nat.succ_pos 256, Nat.succ_pos 256⟩
  | append_singleton events e ih =>
    rw [HttpServerState.run_append, HttpServerState.run_cons, HttpServerState.run_nil]
    cases e with
    | request param out =>
      change KeysFit (httpServerHandleReq plat out param _).2.authInfo
      rw [request_authInfo]
      exact ih
    | setAuth args =>
      have hfits : ∀ key : Bytes, (snprintf httpServerAuthApiKeyLen key).length <
          httpServerAuthApiKeyLen := by
        intro key
        have hle := List.length_take_le (httpServerAuthApiKeyLen - 1) key
        exact lt_of_le_of_lt hle (by decide)
      exact ⟨hfits _, hfits _⟩

/-- The token that is compared with a key is what stands behind `Bearer `; the length of a shorter
value would be that of no key. -/
theorem value_of_tokenIs {header key : Bytes} {field : HttpReqField}
    (hbearer : strncmpEq (header.drop field.ptr) (ascii "Bearer ") 7 = true)
    (h : httpServerAuthTokenIs ((header.drop field.ptr).drop 7) (sizeSub field.len 7) key = true)
    (hkey : key.length < httpServerAuthApiKeyLen) :
    key ≠ [] ∧ field.value header = ascii "Bearer " ++ key := by
  unfold httpServerAuthTokenIs at h
  simp only [Bool.and_eq_true, decide_eq_true_eq] at h
  obtain ⟨⟨hne, hlen⟩, heq⟩ := h
  have hseven : 7 ≤ field.len := by
    by_contra hshort
    have hsub : sizeSub field.len 7 = field.len + 4294967296 - 7 := if_neg hshort
    have hbound : key.length < 257 := hkey
    omega
  have hsub : sizeSub field.len 7 = field.len - 7 := if_pos hseven
  rw [hsub] at hlen heq
  rw [strncmpEq_iff] at hbearer heq
  refine ⟨hne, ?_⟩
  have hsplit : field.len = 7 + (field.len - 7) := by omega
  calc field.value header
      = (header.drop field.ptr).take (7 + (field.len - 7)) := by
        rw [← hsplit]
        rfl
    _ = (header.drop field.ptr).take 7 ++ ((header.drop field.ptr).drop 7).take (field.len - 7) :=
        List.take_add
    _ = ascii "Bearer " ++ key := by
        rw [hbearer, heq, hlen, List.take_length]
        rfl

/-- A token that is let through stands in the header. -/
theorem bearerToken_of_allowed {header : Bytes} {flagRw : Bool} {info : HttpServerAuthInfo}
    (hfit : KeysFit info)
    (h : httpServerHandleReqCheckAuthBearer header flagRw info = .allowed) :
    ∃ token, BearerToken header token ∧ KeyGrants info token (flagRw = false) := by
  have hseven : (ascii "Bearer ").length = 7 := by decide
  unfold httpServerHandleReqCheckAuthBearer at h
  split at h
  · exact absurd h (by simp)
  · rename_i field hfield
    dsimp only at h
    rw [hseven] at h
    split_ifs at h with hnot hrw hro
    · obtain ⟨hne, hvalue⟩ := value_of_tokenIs (by simpa using hnot) hrw hfit.apiKeyRw
      exact ⟨_, ⟨field, hfield, hvalue⟩, .inl ⟨hne, rfl⟩⟩
    · simp only [Bool.and_eq_true, Bool.not_eq_true'] at hro
      obtain ⟨hread, hkey⟩ := hro
      obtain ⟨hne, hvalue⟩ := value_of_tokenIs (by simpa using hnot) hkey hfit.apiKey
      exact ⟨_, ⟨field, hfield, hvalue⟩, .inr ⟨hread, hne, rfl⟩⟩

theorem checkAuth_without_cookie {authParam : HttpServerHandleReqAuthParam} {s : HttpServerState}
    {sessionId : CharBuf 17} (ht : s.authInfo.authType.isRuuvi)
    (hlan : authParam.flagAccessFromLan = true)
    (hbearer : httpServerHandleReqCheckAuthBearer authParam.httpHeader
      authParam.flagCheckRwAccessWithBearerToken s.authInfo = .notUsed)
    (hcookie : httpServerAuthRuuviGetSessionIdFromCookies authParam.httpHeader =
      (false, sessionId)) :
    (httpServerHandleReqCheckAuth plat out authParam (some false) s).1.httpRespCode ≠ .c200 := by
  unfold httpServerHandleReqCheckAuth httpServerHandleReqGetOrCheckAuth
    httpServerHandleReqAuthByType httpServerHandleReqGetAuthRuuvi
  simp only [hlan, Bool.not_true, Bool.false_eq_true, if_false, hbearer, hcookie]
  rcases ht with ht | ht <;> simp [ht, httpServerResp401AuthRuuvi]

/-- Who passes the check from LAN has grounds. -/
theorem checkAuth_grounds (authParam : HttpServerHandleReqAuthParam) {s : HttpServerState}
    (hinfo : s.authInfo = (s₀.run plat events).authInfo)
    (hruuvi : s.ruuvi = (s₀.run plat events).ruuvi) (h₀ : s₀.ruuvi.entries = [])
    (hfit : KeysFit (s₀.run plat events).authInfo)
    (ht : (s₀.run plat events).authInfo.authType.isRuuvi)
    (hlan : authParam.flagAccessFromLan = true)
    (hcode : (httpServerHandleReqCheckAuth plat out authParam (some false) s).1.httpRespCode =
      .c200) :
    OnGrounds plat s₀ events authParam.httpHeader authParam.remoteIp
      (authParam.flagCheckRwAccessWithBearerToken = false) := by
  cases hbearer : httpServerHandleReqCheckAuthBearer authParam.httpHeader
      authParam.flagCheckRwAccessWithBearerToken s.authInfo with
  | notUsed =>
    cases hcookie : httpServerAuthRuuviGetSessionIdFromCookies authParam.httpHeader with
    | mk found sessionId =>
      cases found with
      | false => exact absurd hcode (checkAuth_without_cookie (hinfo ▸ ht) hlan hbearer hcookie)
      | true =>
        have hkey := checkAuth_session (hinfo ▸ ht) hlan hbearer hcookie hcode
        rw [hruuvi] at hkey
        exact .inr ⟨sessionId, hcookie, tableSound_run h₀ events ht _ hkey⟩
  | allowed =>
    rw [hinfo] at hbearer
    exact .inl (bearerToken_of_allowed hfit hbearer)
  | prohibited =>
    unfold httpServerHandleReqCheckAuth httpServerHandleReqGetOrCheckAuth at hcode
    simp only [hlan, Bool.not_true, Bool.false_eq_true, if_false, hbearer] at hcode
    simp [httpServerHandleReqAuthBearer] at hcode

section Handlers

variable {param : HttpServerHandleReqParam} {s : HttpServerState} {path : Bytes}

/-- What the handlers use of the check: who passes it has grounds. -/
def CheckGrounds (plat : Platform) (out : Outcomes) (s₀ : HttpServerState) (events : List Event)
    (param : HttpServerHandleReqParam) (s : HttpServerState) : Prop :=
  ∀ flagRw, (httpServerHandleReqCheckAuth plat out (param.authParam flagRw) (some false)
      s).1.httpRespCode = .c200 →
    OnGrounds plat s₀ events param.reqInfo.httpHeader param.remoteIp (flagRw = false)

theorem OnGrounds.mono {header : Bytes} {remoteIp : CharBuf 17} {P Q : Prop} (hPQ : P → Q)
    (h : OnGrounds plat s₀ events header remoteIp P) :
    OnGrounds plat s₀ events header remoteIp Q := by
  rcases h with ⟨token, htoken, hrw | ⟨hP, hkey⟩⟩ | hsession
  · exact .inl ⟨token, htoken, .inl hrw⟩
  · exact .inl ⟨token, htoken, .inr ⟨hPQ hP, hkey⟩⟩
  · exact .inr hsession

theorem get_justified (hlan : param.flagAccessFromLan = true)
    (hcheck : CheckGrounds plat out s₀ events param s) :
    ∀ e ∈ httpServerHandleReqGetEffects plat out param path s,
      Justified plat s₀ events param e := by
  intro e he
  unfold httpServerHandleReqGetEffects at he
  dsimp only at he
  generalize (if path = [] then ascii "index.html" else path) = fileName at he
  split_ifs at he with hname hneeds hcode
  · exact absurd he List.not_mem_nil
  · exact absurd he List.not_mem_nil
  · have hgrounds := hcheck _ (not_not.mp hcode)
    unfold httpServerHandleReqGetServeEffects at he
    split_ifs at he with hap hstatus
    · obtain rfl := List.mem_singleton.mp he
      refine ⟨fun req hreq => (Effect.wifi.inj hreq).symm, .inr (hgrounds.mono ?_)⟩
      simp [hap]
    · obtain rfl := List.mem_singleton.mp he
      exact ⟨fun req hreq => absurd hreq (by simp), .inr (hgrounds.mono fun _ => trivial)⟩
    · obtain rfl := List.mem_singleton.mp he
      exact ⟨fun req hreq => absurd hreq (by simp), .inr (hgrounds.mono fun _ => trivial)⟩
  · -- `ap.json` and `status.json` need the authentication, so this is a file of the application
    have hjson : fileName ≠ ascii "ap.json" ∧ fileName ≠ ascii "status.json" := by
      constructor
      · rintro rfl
        exact hneeds (by decide)
      · rintro rfl
        exact hneeds (by decide)
    unfold httpServerHandleReqGetServeEffects at he
    rw [if_neg hjson.1, if_neg hjson.2, hlan] at he
    obtain rfl := List.mem_singleton.mp he
    exact ⟨fun req hreq => absurd hreq (by simp), .inl ⟨fileName, rfl, by simpa using hneeds⟩⟩

theorem delete_justified (hlan : param.flagAccessFromLan = true)
    (hcheck : CheckGrounds plat out s₀ events param s) :
    ∀ e ∈ httpServerHandleReqDeleteEffects plat out param path s,
      Justified plat s₀ events param e := by
  intro e he
  unfold httpServerHandleReqDeleteEffects httpServerHandleReqDeleteServeEffects at he
  dsimp only at he
  split_ifs at he with hcode hauth hconnect
  · exact absurd he List.not_mem_nil
  · exact absurd he List.not_mem_nil
  · exact absurd he List.not_mem_nil
  · have hgrounds := hcheck _ (not_not.mp hcode)
    obtain rfl := List.mem_singleton.mp he
    exact ⟨fun req hreq => absurd hreq (by simp), .inr (hgrounds.mono (by simp))⟩

theorem post_justified {body : Bytes} (hlan : param.flagAccessFromLan = true)
    (hcheck : CheckGrounds plat out s₀ events param s) :
    ∀ e ∈ httpServerHandleReqPostEffects plat out param path body s,
      Justified plat s₀ events param e := by
  intro e he
  unfold httpServerHandleReqPostEffects httpServerHandleReqPostServeEffects at he
  dsimp only at he
  split_ifs at he with hauth hcode hconnect hwps
  · exact absurd he List.not_mem_nil
  · exact absurd he List.not_mem_nil
  · exact absurd he List.not_mem_nil
  · exact absurd he List.not_mem_nil
  · have hgrounds := hcheck _ (not_not.mp hcode)
    obtain rfl := List.mem_singleton.mp he
    exact ⟨fun req hreq => absurd hreq (by simp), .inr (hgrounds.mono (by simp))⟩

theorem request_justified (h₀ : s₀.ruuvi.entries = [])
    (hfit : KeysFit (s₀.run plat events).authInfo)
    (ht : (s₀.run plat events).authInfo.authType.isRuuvi)
    (hlan : param.flagAccessFromLan = true) :
    ∀ e ∈ httpServerHandleReqEffects plat out param (s₀.run plat events),
      Justified plat s₀ events param e := by
  intro e he
  unfold httpServerHandleReqEffects at he
  dsimp only at he
  have hcheck : CheckGrounds plat out s₀ events param
      { s₀.run plat events with extraHeaderFields := [] } := by
    intro flagRw hcode
    exact checkAuth_grounds (s := { s₀.run plat events with extraHeaderFields := [] })
      (param.authParam flagRw) rfl rfl h₀ hfit ht hlan hcode
  split_ifs at he with hget hdelete hpost
  · exact get_justified hlan hcheck e he
  · exact delete_justified hlan hcheck e he
  · unfold httpServerHandleReqPostWithEcdhKeyEffects at he
    split at he
    · exact absurd he List.not_mem_nil
    · exact post_justified hlan hcheck e he
  · exact absurd he List.not_mem_nil

end Handlers

end Lan

/-- Over any run in the types with sessions: a request that does not come in on the hotspot has no
effect while LAN is blocked, every effect it has is justified, and without an effect its response
tells nothing of what the Wi-Fi manager and the application would answer. -/
theorem lan_effects_justified (plat : Platform) (hostinfo : WifimanHostinfo)
    (random : ℕ → UInt32) (events : List Event) (out : Outcomes) (m : Bytes)
    (localIp remoteIp : CharBuf 17) (apIp : Bytes) (hostnameMem lanBlocked : Bool)
    (hlan : localIp.str ≠ apIp)
    (ht : ((HttpServerState.start hostinfo random).run plat events).authInfo.authType.isRuuvi) :
    let s := (HttpServerState.start hostinfo random).run plat events
    let served := httpServerNetconnServeHandleReq m localIp remoteIp apIp hostnameMem lanBlocked
    (∀ e ∈ served.effects plat out s, lanBlocked = false ∧ ∃ param, served = .handleReq param ∧
      Justified plat (.start hostinfo random) events param e) ∧
    ∀ param, served = .handleReq param → served.effects plat out s = [] → ∀ answers,
      httpServerHandleReq plat (out.answered answers) param s =
        httpServerHandleReq plat out param s := by
  have hstart : (HttpServerState.start hostinfo random).ruuvi.entries = [] := entries_zero
  have hserved : ∀ param, httpServerNetconnServeHandleReq m localIp remoteIp apIp hostnameMem
      lanBlocked = .handleReq param → lanBlocked = false ∧ param.flagAccessFromLan = true := by
    intro param h
    unfold httpServerNetconnServeHandleReq at h
    simp only [hlan, ne_eq, not_false_eq_true, decide_true, if_true] at h
    split_ifs at h with hparse hmem hblocked
    obtain rfl := ServedReq.handleReq.inj h
    exact ⟨by simpa using hblocked, rfl⟩
  constructor
  · intro e he
    cases hreq : httpServerNetconnServeHandleReq m localIp remoteIp apIp hostnameMem
        lanBlocked with
    | handleReq param =>
      rw [hreq] at he
      obtain ⟨hblocked, hparam⟩ := hserved param hreq
      exact ⟨hblocked, param, rfl, request_justified hstart
        (keysFit_run plat hostinfo random events) ht hparam e he⟩
    | resp400 | resp500 | resp503 | resp302 =>
      rw [hreq] at he
      exact absurd he List.not_mem_nil
  · intro param hreq hnone answers
    rw [hreq] at hnone
    exact request_answered answers hnone

/-- Two keys are configured beside the user. -/
def keysRun : List Event :=
  [.setAuth ⟨.ruuvi, some (ascii "admin"), some (ascii "secret"), some (ascii "reader"),
    some (ascii "writer")⟩]

def statusRequest : Bytes :=
  ascii "GET /status.json HTTP/1.1\r\nAuthorization: Bearer reader\r\n\r\n" ++ [0]

theorem lan_effects_justified_status :
    let served := httpServerNetconnServeHandleReq statusRequest (.ofStr 17 (ascii "192.168.1.2"))
      sampleIp (ascii "10.10.0.1") true false
    served.effects (samplePlatform (ascii "admin")) sampleOutcomes
        (sampleRun (ascii "admin") keysRun) = [.cbOnRequestStatusJson] ∧
      ∃ param, served = .handleReq param ∧
        Justified (samplePlatform (ascii "admin")) (.start sampleHostinfo sampleRandom) keysRun
          param .cbOnRequestStatusJson := by
  have heffects : (httpServerNetconnServeHandleReq statusRequest
      (.ofStr 17 (ascii "192.168.1.2")) sampleIp (ascii "10.10.0.1") true false).effects
        (samplePlatform (ascii "admin")) sampleOutcomes (sampleRun (ascii "admin") keysRun) =
      [.cbOnRequestStatusJson] := by
    decide +kernel
  have hlan : (CharBuf.ofStr 17 (ascii "192.168.1.2")).str ≠ ascii "10.10.0.1" := by decide +kernel
  have ht : (sampleRun (ascii "admin") keysRun).authInfo.authType.isRuuvi := .inl rfl
  have h := (lan_effects_justified (samplePlatform (ascii "admin")) sampleHostinfo sampleRandom
    keysRun sampleOutcomes statusRequest _ sampleIp _ true false hlan ht).1
  exact ⟨heffects, (h .cbOnRequestStatusJson (by rw [heffects]; exact List.mem_singleton_self _)).2⟩

end Auth
end Esp32WifiManager
