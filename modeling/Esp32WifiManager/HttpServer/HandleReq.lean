import Esp32WifiManager.HttpServer.PostAuth

/-!
# Requests and runs

`http_server_handle_req` and the handlers of its three methods, each of which
asks for the authentication in its own way, and the runs of a server that
handles requests while `http_server_set_auth` is called from time to time.
-/

namespace Esp32WifiManager
namespace Auth

open CString HttpReq

structure HttpReqInfo where
  httpCmd : Bytes
  httpUri : Bytes
  httpUriParams : Option Bytes
  httpHeader : Bytes
  httpBody : Bytes

structure HttpServerHandleReqParam where
  reqInfo : HttpReqInfo
  remoteIp : CharBuf 17
  flagAccessFromLan : Bool

def httpServerMaxUnencryptedContentSize : ℕ := 8 * 1024

def HttpServerHandleReqParam.authParam (param : HttpServerHandleReqParam)
    (flagCheckRwAccessWithBearerToken : Bool) : HttpServerHandleReqAuthParam where
  flagAccessFromLan := param.flagAccessFromLan
  flagCheckRwAccessWithBearerToken := flagCheckRwAccessWithBearerToken
  httpHeader := param.reqInfo.httpHeader
  remoteIp := param.remoteIp

section HandleReq

variable (plat : Platform) (out : Outcomes)

/-! ### GET -/

/-- What `http_server_handle_req_get` serves once the authentication is through. -/
def httpServerHandleReqGetServe (fileName : Bytes) (param : HttpServerHandleReqParam) :
    HttpServerResp :=
  if fileName = ascii "ap.json" then
    match out.scanSync with
    | none => httpServerResp503
    | some json => httpServerResp200JsonInHeap json
  else if fileName = ascii "status.json" then
    match out.statusJson with
    | none => httpServerResp503
    | some json => httpServerResp200Json json
  else out.cbOnHttpGet fileName param.reqInfo.httpUriParams param.flagAccessFromLan

/-- `.json` and files without an extension are served to authenticated clients only. -/
def fileNameNeedsAuth (fileName : Bytes) : Bool :=
  match strrchr fileName 46 with
  | none => true
  | some i => fileName.drop i = ascii ".json"

def httpServerHandleReqGet (fileNameUnchecked : Bytes) (param : HttpServerHandleReqParam)
    (s : HttpServerState) : HttpServerResp × HttpServerState :=
  let fileName := if fileNameUnchecked = [] then ascii "index.html" else fileNameUnchecked
  if fileName = ascii "auth" then httpServerHandleReqGetAuth plat out (param.authParam false) s
  else if fileNameNeedsAuth fileName then
    let authParam := param.authParam (fileName = ascii "ap.json")
    let (respAuthCheck, flagAccessByBearerToken, s) :=
      httpServerHandleReqCheckAuth plat out authParam (some false) s
    let authType := s.authInfo.authType
    if flagAccessByBearerToken = some false ∧ respAuthCheck.httpRespCode = .c401 ∧
        (authType = .ruuvi ∨ authType = .default) then
      if fileName ≠ ascii "ap.json" ∧ fileName ≠ ascii "status.json" then
        (httpServerResp302, s.printExtraHeaderFields
          (ascii "Set-Cookie: " ++ httpServerAuthRuuviCookiePrevUrl ++ ascii "=/" ++ fileName))
      else (httpServerResp302, s)
    else if respAuthCheck.httpRespCode ≠ .c200 then (respAuthCheck, s)
    else (httpServerHandleReqGetServe out fileName param, s)
  else (httpServerHandleReqGetServe out fileName param, s)

/-! ### DELETE -/

/-- What `http_server_handle_req_delete` does once the authentication is through. -/
def httpServerHandleReqDeleteServe (fileName : Bytes) (param : HttpServerHandleReqParam)
    (s : HttpServerState) : HttpServerResp × HttpServerState :=
  if fileName = ascii "auth" then
    httpServerHandleReqDeleteAuth plat param.reqInfo.httpHeader param.remoteIp s
  else if fileName = ascii "connect.json" then
    if param.flagAccessFromLan then (httpServerResp403Forbidden, s)
    else (httpServerResp200Json (ascii "\x7b\x7d"), s)
  else (out.cbOnHttpDelete fileName param.reqInfo.httpUriParams param.flagAccessFromLan, s)

def httpServerHandleReqDelete (fileName : Bytes) (param : HttpServerHandleReqParam)
    (s : HttpServerState) : HttpServerResp × HttpServerState :=
  let (respAuthCheck, _, s) :=
    httpServerHandleReqCheckAuth plat out (param.authParam true) (some false) s
  if respAuthCheck.httpRespCode ≠ .c200 then (respAuthCheck, s)
  else httpServerHandleReqDeleteServe plat out fileName param s

/-! ### POST -/

def maxSsidSize : ℕ := 32
def maxPasswordSize : ℕ := 64

/-- The attributes `ssid` and `password`; inside, `none` is `NULL`. -/
def httpServerParseJsonWifiSsidPassword (json : Bytes) : Option (Option Bytes × Option Bytes) :=
  match cJsonParse plat out json with
  | none => none
  | some jsonRoot =>
    match jsonRoot (ascii "ssid"), jsonRoot (ascii "password") with
    | some ssid, some password =>
      if ssid.any fun str => maxSsidSize ≤ (text str).length then none
      else if password.any fun str => maxPasswordSize ≤ (text str).length then none
      else some (ssid, password)
    | _, _ => none

/-- The response; the orders to the Wi-Fi manager are not part of this state. -/
def httpServerHandleReqPostConnectJson (httpBody : Bytes) : HttpServerResp :=
  match httpServerParseJsonWifiSsidPassword plat out httpBody with
  | none => httpServerResp400
  | some (none, none) => httpServerResp200Json (ascii "\x7b\x7d")
  | some (none, some _) => httpServerResp400
  | some (some _, _) => httpServerResp200Json (ascii "\x7b\x7d")

def httpServerHandleReqPostConnectWps : HttpServerResp := httpServerResp200Json (ascii "\x7b\x7d")

/-- What `http_server_handle_req_post` serves once the authentication is through. -/
def httpServerHandleReqPostServe (fileName : Bytes) (param : HttpServerHandleReqParam)
    (httpBody : Bytes) : HttpServerResp :=
  if fileName = ascii "connect.json" then
    if param.flagAccessFromLan then httpServerResp403Forbidden
    else httpServerHandleReqPostConnectJson plat out httpBody
  else if fileName = ascii "connect_wps" then
    if param.flagAccessFromLan then httpServerResp403Forbidden
    else httpServerHandleReqPostConnectWps
  else out.cbOnHttpPost fileName param.reqInfo.httpUriParams httpBody param.flagAccessFromLan

def httpServerHandleReqPost (fileName : Bytes) (param : HttpServerHandleReqParam)
    (httpBody : Bytes) (s : HttpServerState) : HttpServerResp × HttpServerState :=
  if fileName = ascii "auth" then
    httpServerHandleReqPostAuth plat out param.flagAccessFromLan param.reqInfo.httpHeader
      param.remoteIp httpBody s
  else
    let (respAuthCheck, _, s) :=
      httpServerHandleReqCheckAuth plat out (param.authParam true) (some false) s
    if respAuthCheck.httpRespCode ≠ .c200 then (respAuthCheck, s)
    else (httpServerHandleReqPostServe plat out fileName param httpBody, s)

/-! ### Encrypted requests -/

def httpServerEcdhPubKeyB64Size : ℕ := 89

def httpServerHandleRuuviEcdhPubKey (pubKey : Bytes) : Option Bytes :=
  if pubKey.length ≥ httpServerEcdhPubKeyB64Size then none else out.ecdhHandshake pubKey

def httpServerHandleReqGetWithEcdhKey (path : Bytes) (param : HttpServerHandleReqParam)
    (s : HttpServerState) : HttpServerResp × HttpServerState :=
  let (resp, s) := httpServerHandleReqGet plat out path param s
  let header := param.reqInfo.httpHeader
  match httpReqHeaderGetField header (ascii "Ruuvi-Ecdh-Pub-Key:") with
  | none => (resp, s)
  | some field =>
    match httpServerHandleRuuviEcdhPubKey out (field.value header) with
    | none => (httpServerResp500, s)
    | some pubKeySrv =>
      let offset := s.extraHeaderFields.length
      (resp,
        { s with
          extraHeaderFields := s.extraHeaderFields ++
            snprintf (httpServerExtraHeaderFieldsSize - offset)
              (ascii "Ruuvi-Ecdh-Pub-Key: " ++ pubKeySrv ++ ascii "\r\n") })

def httpServerDecrypt (httpBody : Bytes) : Option (Option Bytes) :=
  match cJsonParse plat out httpBody with
  | none => none
  | some jsonRoot =>
    match (jsonRoot (ascii "encrypted")).join, (jsonRoot (ascii "iv")).join,
        (jsonRoot (ascii "hash")).join with
    | some encrypted, some iv, some hash => out.ecdhDecrypt (text encrypted) (text iv) (text hash)
    | _, _, _ => none

def flagEncrypted (header : Bytes) : Bool :=
  match httpReqHeaderGetField header (ascii "Ruuvi-Ecdh-Encrypted:") with
  | none => false
  | some field => strncmpEq (header.drop field.ptr) (ascii "true") field.len

/-- The body that reaches `http_server_handle_req_post`; `none` is answered with 400. -/
def httpServerPostBody (info : HttpReqInfo) : Option Bytes :=
  let checkSize (body : Bytes) : Option Bytes :=
    if body.length > httpServerMaxUnencryptedContentSize then none else some body
  if flagEncrypted info.httpHeader then
    match httpServerDecrypt plat out info.httpBody with
    | none => none
    | some none => none
    | some (some decrypted) => checkSize (text decrypted)
  else checkSize info.httpBody

def httpServerHandleReqPostWithEcdhKey (path : Bytes) (param : HttpServerHandleReqParam)
    (s : HttpServerState) : HttpServerResp × HttpServerState :=
  match httpServerPostBody plat out param.reqInfo with
  | none => (httpServerResp400, s)
  | some httpBody => httpServerHandleReqPost plat out path param httpBody s

/-! ### All requests -/

/-- The path without its leading slash. -/
def HttpReqInfo.path (info : HttpReqInfo) : Bytes :=
  if info.httpUri.head? = some 47 then info.httpUri.drop 1 else info.httpUri

def httpServerHandleReq (param : HttpServerHandleReqParam) (s : HttpServerState) :
    HttpServerResp × HttpServerState :=
  let s := { s with extraHeaderFields := [] }
  let path := param.reqInfo.path
  if param.reqInfo.httpCmd = ascii "GET" then
    httpServerHandleReqGetWithEcdhKey plat out path param s
  else if param.reqInfo.httpCmd = ascii "DELETE" then
    httpServerHandleReqDelete plat out path param s
  else if param.reqInfo.httpCmd = ascii "POST" then
    httpServerHandleReqPostWithEcdhKey plat out path param s
  else (httpServerResp400, s)

end HandleReq

/-! ### Runs -/

inductive Event
  | request (param : HttpServerHandleReqParam) (out : Outcomes)
  | setAuth (args : SetAuthArgs)

def HttpServerState.step (plat : Platform) (s : HttpServerState) : Event → HttpServerState
  | .request param out => (httpServerHandleReq plat out param s).2
  | .setAuth args => httpServerSetAuth args s

def HttpServerState.run (plat : Platform) (s : HttpServerState) (events : List Event) :
    HttpServerState :=
  events.foldl (HttpServerState.step plat) s

@[simp] theorem HttpServerState.run_nil (plat : Platform) (s : HttpServerState) :
    s.run plat [] = s := rfl

@[simp] theorem HttpServerState.run_cons (plat : Platform) (s : HttpServerState) (e : Event)
    (events : List Event) : s.run plat (e :: events) = (s.step plat e).run plat events := rfl

theorem HttpServerState.run_append (plat : Platform) (s : HttpServerState)
    (events later : List Event) :
    s.run plat (events ++ later) = (s.run plat events).run plat later :=
  List.foldl_append

end Auth
end Esp32WifiManager
