import Esp32WifiManager.HttpServer.Resp

/-!
# The authentication check

`http_server_handle_req_get_auth.c`: a `Bearer` token is looked at first, then
the configured type decides. With `flag_check` the handlers only look; without
it, which is `GET /auth`, they also start a login session.
-/

namespace Esp32WifiManager
namespace Auth

open CString HttpReq

inductive HttpServerAuthApiKey
  | notUsed
  | allowed
  | prohibited
  deriving DecidableEq, Repr

/-- The configuration and the host information are read from the state. -/
structure HttpServerHandleReqAuthParam where
  flagAccessFromLan : Bool
  flagCheckRwAccessWithBearerToken : Bool
  httpHeader : Bytes
  remoteIp : CharBuf 17

/-- `'\0' != key[0]`, and the token is the key. -/
def httpServerAuthTokenIs (authToken : Bytes) (authTokenLen : ℕ) (key : Bytes) : Bool :=
  key ≠ [] && authTokenLen = key.length && strncmpEq authToken key authTokenLen

def httpServerHandleReqCheckAuthBearer (httpHeader : Bytes) (flagCheckRwAccess : Bool)
    (authInfo : HttpServerAuthInfo) : HttpServerAuthApiKey :=
  match httpReqHeaderGetField httpHeader (ascii "Authorization:") with
  | none => .notUsed
  | some field =>
    let authorization := httpHeader.drop field.ptr
    let authPrefix := ascii "Bearer "
    if !strncmpEq authorization authPrefix authPrefix.length then .notUsed
    else
      let authToken := authorization.drop authPrefix.length
      let authTokenLen := sizeSub field.len authPrefix.length
      if httpServerAuthTokenIs authToken authTokenLen authInfo.authApiKeyRw then .allowed
      else if !flagCheckRwAccess &&
          httpServerAuthTokenIs authToken authTokenLen authInfo.authApiKey then .allowed
      else .prohibited

section GetAuth

variable (plat : Platform) (out : Outcomes)

def httpServerHandleReqGetAuthAllow (flagAccessFromLan : Bool) (s : HttpServerState) :
    HttpServerResp :=
  httpServerResp200Json (httpServerFillAuthJson plat s.hostinfo .allow flagAccessFromLan none true)

def httpServerHandleReqGetAuthBasic (param : HttpServerHandleReqAuthParam) (s : HttpServerState) :
    HttpServerResp × HttpServerState :=
  match httpReqHeaderGetField param.httpHeader (ascii "Authorization:") with
  | none => httpServerResp401AuthBasic plat s
  | some field =>
    let authorization := param.httpHeader.drop field.ptr
    let authPrefix := ascii "Basic "
    if !strncmpEq authorization authPrefix authPrefix.length then httpServerResp401AuthBasic plat s
    else
      let authToken := authorization.drop authPrefix.length
      let authTokenLen := sizeSub field.len authPrefix.length
      if authTokenLen ≠ s.authInfo.authPass.length then httpServerResp401AuthBasic plat s
      else if !strncmpEq authToken s.authInfo.authPass authTokenLen then
        httpServerResp401AuthBasic plat s
      else
        (httpServerResp200Json
          (httpServerFillAuthJson plat s.hostinfo .basic param.flagAccessFromLan none true), s)

/-- The MD5 that the client has to send: over the password, its own directives and its `uri`. -/
def httpServerDigestResponse (authReq : HttpServerAuthDigestReq) (authPass : Bytes) : CharBuf 33 :=
  let ha2 := wifimanMd5CalcHexStr plat out.ha2Md5 (ascii "GET:" ++ authReq.uri.str)
  wifimanMd5CalcHexStr plat out.responseMd5
    (authPass ++ ascii ":" ++ authReq.nonce.str ++ ascii ":" ++ authReq.nc.str ++ ascii ":" ++
      authReq.cnonce.str ++ ascii ":" ++ authReq.qop.str ++ ascii ":" ++ ha2.str)

def httpServerHandleReqGetAuthDigest (param : HttpServerHandleReqAuthParam) (s : HttpServerState) :
    HttpServerResp × HttpServerState :=
  match httpReqHeaderGetField param.httpHeader (ascii "Authorization:") with
  | none => httpServerResp401AuthDigest plat out s
  | some field =>
    let parsed := httpServerParseDigestAuthorizationStr (param.httpHeader.drop field.ptr) field.len
      s.auth.digest
    let authReq := parsed.2
    -- the directives stay in the union whatever comes next
    let s := { s with auth := .ofDigest authReq }
    if !parsed.1 then httpServerResp401AuthDigest plat out s
    else if authReq.username.str ≠ s.authInfo.authUser then httpServerResp401AuthDigest plat out s
    else if !out.ha2Str then (httpServerResp503, s)
    else if !out.responseStr then (httpServerResp503, s)
    else if authReq.response.str ≠
        (httpServerDigestResponse plat out authReq s.authInfo.authPass).str then
      httpServerResp401AuthDigest plat out s
    else
      (httpServerResp200Json
        (httpServerFillAuthJson plat s.hostinfo .digest param.flagAccessFromLan none true), s)

def httpServerHandleReqGetAuthRuuvi (param : HttpServerHandleReqAuthParam) (flagCheck : Bool)
    (authType : HttpServerAuthType) (s : HttpServerState) : HttpServerResp × HttpServerState :=
  if flagCheck && authType = .allow then
    (httpServerHandleReqGetAuthAllow plat param.flagAccessFromLan s, s)
  else
    match httpServerAuthRuuviGetSessionIdFromCookies param.httpHeader with
    | (false, _) =>
      if authType = .allow then
        httpServerResp200AuthAllowWithNewSessionId plat out param.remoteIp s
      else if flagCheck then (httpServerResp401AuthRuuvi plat authType s, s)
      else httpServerResp401AuthRuuviWithNewSessionId plat out param.remoteIp authType none s
    | (true, sessionId) =>
      match httpServerAuthRuuviFindAuthorizedSession sessionId param.remoteIp s.ruuvi with
      | none =>
        if flagCheck then (httpServerResp401AuthRuuvi plat authType s, s)
        else if authType = .allow then
          httpServerResp200AuthAllowWithNewSessionId plat out param.remoteIp s
        else httpServerResp401AuthRuuviWithNewSessionId plat out param.remoteIp authType none s
      | some _ =>
        (httpServerResp200Json
          (httpServerFillAuthJson plat s.hostinfo authType param.flagAccessFromLan none true), s)

def httpServerHandleReqGetAuthDeny (s : HttpServerState) : HttpServerResp :=
  httpServerResp403AuthDeny plat s

def httpServerHandleReqAuthBearer (param : HttpServerHandleReqAuthParam)
    (flagAllowed flagExposeVerInfo : Bool) (s : HttpServerState) : HttpServerResp :=
  let authJson :=
    httpServerFillAuthJson plat s.hostinfo .bearer param.flagAccessFromLan none flagExposeVerInfo
  if flagAllowed then httpServerResp200Json authJson else httpServerResp401Json authJson

/-- The `switch` over the configured type. -/
def httpServerHandleReqAuthByType (param : HttpServerHandleReqAuthParam) (flagCheck : Bool)
    (s : HttpServerState) : HttpServerResp × HttpServerState :=
  match s.authInfo.authType with
  | .allow => httpServerHandleReqGetAuthRuuvi plat out param flagCheck .allow s
  | .basic => httpServerHandleReqGetAuthBasic plat param s
  | .digest => httpServerHandleReqGetAuthDigest plat out param s
  | .ruuvi => httpServerHandleReqGetAuthRuuvi plat out param flagCheck .ruuvi s
  | .deny => (httpServerHandleReqGetAuthDeny plat s, s)
  | .default => httpServerHandleReqGetAuthRuuvi plat out param flagCheck .default s
  | .bearer => (httpServerResp500, s)

/-- What `p_flag_access_by_bearer_token` points to, `none` for `NULL`, is passed in and returned. -/
def httpServerHandleReqGetOrCheckAuth (param : HttpServerHandleReqAuthParam) (flagCheck : Bool)
    (flagAccessByBearerToken : Option Bool) (s : HttpServerState) :
    HttpServerResp × Option Bool × HttpServerState :=
  let byType (flag : Option Bool) : HttpServerResp × Option Bool × HttpServerState :=
    let res := httpServerHandleReqAuthByType plat out param flagCheck s
    (res.1, flag, res.2)
  match flagAccessByBearerToken with
  | none => byType none
  | some _ =>
    match httpServerHandleReqCheckAuthBearer param.httpHeader
        param.flagCheckRwAccessWithBearerToken s.authInfo with
    | .notUsed => byType (some false)
    | .allowed => (httpServerHandleReqAuthBearer plat param true true s, some true, s)
    | .prohibited => (httpServerHandleReqAuthBearer plat param false false s, some true, s)

def httpServerHandleReqCheckAuth (param : HttpServerHandleReqAuthParam)
    (flagAccessByBearerToken : Option Bool) (s : HttpServerState) :
    HttpServerResp × Option Bool × HttpServerState :=
  if !param.flagAccessFromLan then
    (httpServerHandleReqGetAuthAllow plat param.flagAccessFromLan s, flagAccessByBearerToken, s)
  else httpServerHandleReqGetOrCheckAuth plat out param true flagAccessByBearerToken s

def httpServerHandleReqGetAuth (param : HttpServerHandleReqAuthParam) (s : HttpServerState) :
    HttpServerResp × HttpServerState :=
  if !param.flagAccessFromLan then
    (httpServerHandleReqGetAuthAllow plat param.flagAccessFromLan s, s)
  else
    let res := httpServerHandleReqGetOrCheckAuth plat out param false none s
    (res.1, res.2.2)

end GetAuth

end Auth
end Esp32WifiManager
