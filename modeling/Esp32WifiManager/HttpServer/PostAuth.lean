import Esp32WifiManager.HttpServer.GetAuth

/-!
# Login and logout

`POST /auth` compares the credentials in a JSON body with the configured ones,
for the pending login session only, and moves this session into the table.
`DELETE /auth` takes a session out of it.
-/

namespace Esp32WifiManager
namespace Auth

open CString HttpReq

/-- The strings in the two buffers of the parsed request. -/
structure HttpServerAuthRuuviReq where
  username : Bytes
  password : Bytes

section PostAuth

variable (plat : Platform) (out : Outcomes)

def httpServerJsonGetStringVal (jsonRoot : Bytes → Option (Option Bytes)) (attrName : Bytes)
    (bufLen : ℕ) : Option Bytes :=
  match jsonRoot attrName with
  | none => none
  | some none => none
  | some (some str) => some (snprintf bufLen (text str))

def jsonRuuviAuthParse (jsonRoot : Bytes → Option (Option Bytes)) :
    Option HttpServerAuthRuuviReq :=
  match httpServerJsonGetStringVal jsonRoot (ascii "login") httpServerAuthUserLen with
  | none => none
  | some username =>
    match httpServerJsonGetStringVal jsonRoot (ascii "password") httpServerAuthPassLen with
    | none => none
    | some password => some ⟨username, password⟩

/-- `cJSON_Parse` fails on text that is not JSON and for lack of memory. -/
def cJsonParse (text : Bytes) : Option (Bytes → Option (Option Bytes)) :=
  if out.jsonMem then plat.cJsonParse text else none

def jsonRuuviAuthParseHttpBody (body : Bytes) : Option HttpServerAuthRuuviReq :=
  match cJsonParse plat out body with
  | none => none
  | some jsonRoot => jsonRuuviAuthParse jsonRoot

/-- The hash the client has to send, as hex digits. -/
def hashedPassword (challenge password : Bytes) : CharBuf 65 :=
  .ofStr 65 (plat.strBufBinToHex (plat.sha256 (challenge ++ ascii ":" ++ password)))

def httpServerAuthRuuviGenHashedPassword (challenge password : Bytes) : Option (CharBuf 65) :=
  if out.hashedPassword then some (hashedPassword plat challenge password) else none

/-- `p_login_session` is the session the cookie and the address belong to. -/
def HttpServerAuthRuuviLoginSession.matches (loginSession : HttpServerAuthRuuviLoginSession)
    (sessionId remoteIp : CharBuf 17) : Bool :=
  if loginSession.sessionId.isEmpty then false
  else if loginSession.sessionId.str ≠ sessionId.str then false
  else staIpCmp loginSession.remoteIp remoteIp

/-- `none` when the session is the pending one; the three failures give one response. -/
def httpServerHandleReqPostAuthCheckLoginSession (sessionId remoteIp : CharBuf 17)
    (authType : HttpServerAuthType) (s : HttpServerState) :
    Option (HttpServerResp × HttpServerState) :=
  if s.ruuvi.loginSession.matches sessionId remoteIp then none
  else some (httpServerResp401AuthRuuviWithNewSessionId plat out remoteIp authType none s)

def httpServerHandleReqPostAuthCheckAuth (authType : HttpServerAuthType) (remoteIp : CharBuf 17)
    (httpBody : Bytes) (s : HttpServerState) : HttpServerResp × HttpServerState :=
  let rejected (errMessage : Option Bytes) : HttpServerResp × HttpServerState :=
    httpServerResp401AuthRuuviWithNewSessionId plat out remoteIp authType errMessage s
  match jsonRuuviAuthParseHttpBody plat out httpBody with
  | none => rejected none
  | some authReq =>
    if authReq.username = [] then rejected (some (ascii "The username is empty"))
    else if s.authInfo.authUser ≠ authReq.username then
      rejected (some (ascii "Incorrect username"))
    else if !out.callocPasswordHash then (httpServerResp500, s)
    else
      match httpServerAuthRuuviGenHashedPassword plat out s.ruuvi.loginSession.challenge.str
          s.authInfo.authPass with
      | none => rejected none
      | some passwordHash =>
        if passwordHash.str ≠ authReq.password then rejected (some (ascii "Incorrect password"))
        else (httpServerResp200Json (ascii "\x7b\x7d"), s)

/-- The session enters the table and is no longer the pending one. -/
def HttpServerState.authorize (sessionId remoteIp : CharBuf 17) (s : HttpServerState) :
    HttpServerState :=
  let ruuvi := httpServerAuthRuuviAddAuthorizedSession sessionId remoteIp s.ruuvi
  s.setRuuvi
    { ruuvi with loginSession := httpServerAuthRuuviLoginSessionClear ruuvi.loginSession }

def httpServerHandleReqPostAuth (flagAccessFromLan : Bool) (httpHeader : Bytes)
    (remoteIp : CharBuf 17) (httpBody : Bytes) (s : HttpServerState) :
    HttpServerResp × HttpServerState :=
  let authType := s.authInfo.authType
  let authJson :=
    httpServerFillAuthJson plat s.hostinfo authType flagAccessFromLan none true
  if !flagAccessFromLan then (httpServerResp200Json authJson, s)
  else if authType ≠ .ruuvi ∧ authType ≠ .default then (httpServerResp503, s)
  else
    match httpServerAuthRuuviGetSessionIdFromCookies httpHeader with
    | (false, _) =>
      httpServerResp401AuthRuuviWithNewSessionId plat out remoteIp authType none s
    | (true, sessionId) =>
      let prevUrl := httpServerAuthRuuviGetPrevUrlFromCookies httpHeader
      match httpServerHandleReqPostAuthCheckLoginSession plat out sessionId remoteIp authType s with
      | some res => res
      | none =>
        if !out.callocAuthReq then (httpServerResp500, s)
        else
          let checked := httpServerHandleReqPostAuthCheckAuth plat out authType remoteIp httpBody s
          if checked.1.httpRespCode ≠ .c200 then checked
          else
            let s := checked.2.authorize sessionId remoteIp
            let s :=
              if prevUrl.isEmpty then s
              else s.printExtraHeaderFields
                (ascii "Ruuvi-prev-url: " ++ prevUrl.str ++ ascii "\r\n" ++ ascii "Set-Cookie: " ++
                  httpServerAuthRuuviCookiePrevUrl ++
                  ascii "=; Max-Age=-1; Expires=Thu, 01 Jan 1970 00:00:00 GMT\r\n")
            (httpServerResp200Json authJson, s)

/-! ### Logout -/

/-- `session_id[0] = 0` in one slot. -/
def HttpServerAuthRuuvi.deleteSlot (ruuvi : HttpServerAuthRuuvi)
    (i : Fin httpServerAuthRuuviMaxNumSessions) : HttpServerAuthRuuvi :=
  let slot := ruuvi.authorizedSessions.get i
  { ruuvi with
    authorizedSessions :=
      ruuvi.authorizedSessions.set i.1 { slot with sessionId := slot.sessionId.clear } i.2 }

def httpServerHandleReqDeleteAuth (httpHeader : Bytes) (remoteIp : CharBuf 17)
    (s : HttpServerState) : HttpServerResp × HttpServerState :=
  let authType := s.authInfo.authType
  let shownType : HttpServerAuthType := if authType = .default then .default else .ruuvi
  if authType ≠ .ruuvi ∧ authType ≠ .default then (httpServerResp503, s)
  else
    match httpServerAuthRuuviGetSessionIdFromCookies httpHeader with
    | (false, _) => (httpServerResp401AuthRuuvi plat shownType s, s)
    | (true, sessionId) =>
      match httpServerAuthRuuviFindAuthorizedSession sessionId remoteIp s.ruuvi with
      | none => (httpServerResp401AuthRuuvi plat shownType s, s)
      | some i => (httpServerResp200Json (ascii "\x7b\x7d"), s.setRuuvi (s.ruuvi.deleteSlot i))

end PostAuth

end Auth
end Esp32WifiManager
