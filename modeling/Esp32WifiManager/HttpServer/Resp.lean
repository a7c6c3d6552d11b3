import Esp32WifiManager.HttpServer.AuthRuuvi

/-!
# Responses

The responses of the authentication handlers and what they do to the pending
login session. Code that is not part of the repository is collected in
`Platform`; the answers of the allocator and of mbedtls, which may differ from
one request to the next, in `Outcomes`.
-/

namespace Esp32WifiManager
namespace Auth

open CString HttpReq

inductive HttpRespCode
  | c200
  | c206
  | c299
  | c301
  | c302
  | c400
  | c401
  | c403
  | c404
  | c409
  | c429
  | c500
  | c502
  | c503
  | c504
  deriving DecidableEq, Repr

inductive HttpContentType
  | textHtml
  | textPlain
  | textCss
  | textJavascript
  | imagePng
  | imageSvgXml
  | applicationJson
  | applicationOctetStream
  deriving DecidableEq, Repr

inductive HttpContentEncoding
  | none
  | gzip
  deriving DecidableEq, Repr

inductive HttpContentLocation
  | noContent
  | flashMem
  | staticMem
  | heap
  | fatfs
  | jsonGenerator
  deriving DecidableEq, Repr

/-- `content` is what the selected location delivers. -/
structure HttpServerResp where
  httpRespCode : HttpRespCode
  contentLocation : HttpContentLocation
  flagNoCache : Bool
  flagAddHeaderDate : Bool
  contentType : HttpContentType
  contentTypeParam : Option Bytes
  contentLen : ℕ
  contentEncoding : HttpContentEncoding
  content : Bytes
  deriving DecidableEq

/-- Code outside the repository: the digests, the hex printer and the appending printer of
`str_buf` (size of the buffer, its text, the text to append), and the JSON parser, which yields
for an attribute whether it is there and whether it is a string. -/
structure Platform where
  sha256 : Bytes → Bytes
  md5 : Bytes → Bytes
  strBufBinToHex : Bytes → Bytes
  strBufPrintf : ℕ → Bytes → Bytes → Bool × Bytes
  cJsonParse : Bytes → Option (Bytes → Option (Option Bytes))

/-- What happens to one request apart from its bytes. A failed digest is `false`, or the contents
of the stack where the source does not look at the failure. The fields from `ecdhDecrypt` on
answer for other components: the key exchange, the scan, `status.json` and the callbacks of the
application. -/
structure Outcomes where
  challengeSha256 : Option Bytes
  nonceSha256 : Bool
  opaqueSha256 : Bool
  ha2Str : Bool
  ha2Md5 : Bool
  responseStr : Bool
  responseMd5 : Bool
  callocAuthReq : Bool
  callocPasswordHash : Bool
  hashedPassword : Bool
  jsonMem : Bool
  ecdhDecrypt : Bytes → Bytes → Bytes → Option (Option Bytes)
  ecdhHandshake : Bytes → Option Bytes
  scanSync : Option Bytes
  statusJson : Option Bytes
  cbOnHttpGet : Bytes → Option Bytes → Bool → HttpServerResp
  cbOnHttpPost : Bytes → Option Bytes → Bytes → Bool → HttpServerResp
  cbOnHttpDelete : Bytes → Option Bytes → Bool → HttpServerResp

/-! ### Responses without content and with JSON -/

def httpServerResp200Json (json : Bytes) : HttpServerResp where
  httpRespCode := .c200
  contentLocation := .staticMem
  flagNoCache := true
  flagAddHeaderDate := true
  contentType := .applicationJson
  contentTypeParam := none
  contentLen := json.length
  contentEncoding := .none
  content := json

def httpServerResp200JsonInHeap (json : Bytes) : HttpServerResp :=
  { httpServerResp200Json json with contentLocation := .heap }

def httpServerRespErr (code : HttpRespCode) : HttpServerResp where
  httpRespCode := code
  contentLocation := .noContent
  flagNoCache := true
  flagAddHeaderDate := true
  contentType := .textHtml
  contentTypeParam := none
  contentLen := 0
  contentEncoding := .none
  content := []

def httpServerRespErrJsonInStaticMem (code : HttpRespCode) (json : Bytes) : HttpServerResp :=
  { httpServerResp200Json json with httpRespCode := code }

def httpServerResp302 : HttpServerResp := httpServerRespErr .c302
def httpServerResp400 : HttpServerResp := httpServerRespErr .c400
def httpServerResp401Json (json : Bytes) : HttpServerResp :=
  httpServerRespErrJsonInStaticMem .c401 json
def httpServerResp403Json (json : Bytes) : HttpServerResp :=
  httpServerRespErrJsonInStaticMem .c403 json
def httpServerResp403Forbidden : HttpServerResp := httpServerRespErr .c403
def httpServerResp500 : HttpServerResp := httpServerRespErr .c500
def httpServerResp503 : HttpServerResp := httpServerRespErr .c503

def httpServerRespJsonAuthBufSize : ℕ := 210
def httpServerExtraHeaderFieldsSize : ℕ := 380

/-- Parts appended to the buffer as long as every one of them fits. -/
def strBufPrintfAll (plat : Platform) (size : ℕ) : Bytes → List Bytes → Option Bytes
  | buf, [] => some buf
  | buf, part :: parts =>
    match plat.strBufPrintf size buf part with
    | (true, buf) => strBufPrintfAll plat size buf parts
    | (false, _) => none

def httpServerFillAuthJson (plat : Platform) (hostinfo : WifimanHostinfo)
    (lanAuthType : HttpServerAuthType) (flagAccessFromLan : Bool) (errMessage : Option Bytes)
    (flagExposeVerInfo : Bool) : Bytes :=
  let parts :=
    [ascii "\x7b\"gateway_name\": \"" ++ hostinfo.hostname ++ ascii "\""] ++
    (if flagExposeVerInfo then
      [ascii ", \"fw_ver\": \"" ++ hostinfo.fwVer ++ ascii "\"" ++
        ascii ", \"nrf52_fw_ver\": \"" ++ hostinfo.nrf52FwVer ++ ascii "\""] else []) ++
    [ascii ", \"lan_auth_type\": \"" ++ httpServerAuthTypeToStr lanAuthType ++ ascii "\"" ++
      ascii ", \"lan\": " ++ (if flagAccessFromLan then ascii "true" else ascii "false")] ++
    (errMessage.map fun m => ascii ", \"message\": \"" ++ m ++ ascii "\"").toList ++
    [ascii "\x7d"]
  (strBufPrintfAll plat httpServerRespJsonAuthBufSize [] parts).getD (ascii "\x7b\x7d")

/-! ### The login session -/

def sha256DigestSize : ℕ := 32

/-- `esp_random` values that have been used are gone. -/
def HttpServerState.skipRandom (n : ℕ) (s : HttpServerState) : HttpServerState :=
  { s with random := fun i => s.random (n + i) }

/-- The bytes of `http_server_fill_buf_with_random_u8`. -/
def HttpServerState.randomU8 (n : ℕ) (s : HttpServerState) : Bytes :=
  (List.range n).map fun i => (s.random i).toUInt8

def asciiUpper : Bytes := ascii "ABCDEFGHIJKLMNOPQRSTUVWXYZ"

/-- The session that `http_server_login_session_init` draws. -/
def drawLoginSession (plat : Platform) (out : Outcomes) (remoteIp : CharBuf 17)
    (s : HttpServerState) : HttpServerAuthRuuviLoginSession where
  challenge :=
    let digest := out.challengeSha256.getD (plat.sha256 (s.randomU8 sha256DigestSize))
    .ofStr 65 (plat.strBufBinToHex digest)
  remoteIp := remoteIp
  sessionId := Vector.ofFn fun i =>
    if i.1 < 16 then
      asciiUpper.getD ((s.random (sha256DigestSize + i)).toNat % asciiUpper.length) 0
    else 0

def httpServerLoginSessionInit (plat : Platform) (out : Outcomes) (remoteIp : CharBuf 17)
    (s : HttpServerState) : HttpServerState :=
  let session := drawLoginSession plat out remoteIp s
  let s := s.setRuuvi { s.ruuvi with loginSession := session }
  { s.skipRandom (sha256DigestSize + 16) with loginSessions := s.loginSessions ++ [session] }

/-- `snprintf` into the extra header fields, which replaces them. -/
def HttpServerState.printExtraHeaderFields (fields : Bytes) (s : HttpServerState) :
    HttpServerState :=
  { s with extraHeaderFields := snprintf httpServerExtraHeaderFieldsSize fields }

def httpServerRespAuthRuuviPrepWwwAuthenticateHeader (s : HttpServerState) : HttpServerState :=
  let session := s.ruuvi.loginSession
  s.printExtraHeaderFields
    (ascii "WWW-Authenticate: x-ruuvi-interactive realm=\"" ++ s.hostinfo.hostname ++
      ascii "\" challenge=\"" ++ session.challenge.str ++ ascii "\" session_cookie=\"" ++
      httpServerAuthRuuviCookieSession ++ ascii "\" " ++
      ascii "session_id=\"" ++ session.sessionId.str ++ ascii "\"\r\n" ++
      ascii "Set-Cookie: " ++ httpServerAuthRuuviCookieSession ++ ascii "=" ++
      session.sessionId.str ++ ascii "\r\n")

/-! ### Responses of the authentication -/

section AuthResp

variable (plat : Platform) (out : Outcomes)

def httpServerResp401AuthRuuvi (lanAuthType : HttpServerAuthType) (s : HttpServerState) :
    HttpServerResp :=
  httpServerResp401Json (httpServerFillAuthJson plat s.hostinfo lanAuthType true none false)

def httpServerResp401AuthRuuviWithNewSessionId (remoteIp : CharBuf 17)
    (lanAuthType : HttpServerAuthType) (errMessage : Option Bytes) (s : HttpServerState) :
    HttpServerResp × HttpServerState :=
  let s := httpServerLoginSessionInit plat out remoteIp s
  if s.ruuvi.loginSession.challenge.isEmpty then (httpServerResp503, s)
  else
    let s := httpServerRespAuthRuuviPrepWwwAuthenticateHeader s
    (httpServerResp401Json
      (httpServerFillAuthJson plat s.hostinfo lanAuthType true errMessage false), s)

def httpServerResp200AuthAllowWithNewSessionId (remoteIp : CharBuf 17) (s : HttpServerState) :
    HttpServerResp × HttpServerState :=
  let s := httpServerLoginSessionInit plat out remoteIp s
  if s.ruuvi.loginSession.challenge.isEmpty then (httpServerResp503, s)
  else
    let s := httpServerRespAuthRuuviPrepWwwAuthenticateHeader s
    let s := s.setRuuvi
      (httpServerAuthRuuviAddAuthorizedSession s.ruuvi.loginSession.sessionId remoteIp s.ruuvi)
    (httpServerResp200Json
      (httpServerFillAuthJson plat s.hostinfo .allow true none true), s)

def httpServerResp403AuthDeny (s : HttpServerState) : HttpServerResp :=
  httpServerResp403Json (httpServerFillAuthJson plat s.hostinfo .deny true none false)

def wifimanSha256CalcHexStr (ok : Bool) (buf : Bytes) : CharBuf 65 :=
  if ok then .ofStr 65 (plat.strBufBinToHex (plat.sha256 buf)) else .zero 65

def wifimanMd5CalcHexStr (ok : Bool) (buf : Bytes) : CharBuf 33 :=
  if ok then .ofStr 33 (plat.strBufBinToHex (plat.md5 buf)) else .zero 33

def httpServerAuthDigestRandomSize : ℕ := 32

def httpServerResp401AuthDigest (s : HttpServerState) : HttpServerResp × HttpServerState :=
  let nonce := wifimanSha256CalcHexStr plat out.nonceSha256
    (s.randomU8 httpServerAuthDigestRandomSize)
  let s := s.skipRandom httpServerAuthDigestRandomSize
  if nonce.isEmpty then (httpServerResp503, s)
  else
    let opaqueStr := wifimanSha256CalcHexStr plat out.opaqueSha256 s.hostinfo.hostname
    let s := s.printExtraHeaderFields
      (ascii "WWW-Authenticate: Digest realm=\"" ++ s.hostinfo.hostname ++
        ascii "\" qop=\"auth\" nonce=\"" ++ nonce.str ++ ascii "\" opaque=\"" ++ opaqueStr.str ++
        ascii "\"\r\n")
    (httpServerResp401Json (httpServerFillAuthJson plat s.hostinfo .digest true none false), s)

def httpServerResp401AuthBasic (s : HttpServerState) : HttpServerResp × HttpServerState :=
  let s := s.printExtraHeaderFields
    (ascii "WWW-Authenticate: Basic realm=\"" ++ s.hostinfo.hostname ++
      ascii "\", charset=\"UTF-8\"\r\n")
  (httpServerResp401Json (httpServerFillAuthJson plat s.hostinfo .basic true none false), s)

end AuthResp

end Auth
end Esp32WifiManager
