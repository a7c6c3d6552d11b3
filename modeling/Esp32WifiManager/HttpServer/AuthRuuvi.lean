import Esp32WifiManager.HttpServer.AuthInfo

/-!
# Cookies, sessions and directives

What a request says about its session: the `RUUVISESSION` and `RUUVI_PREV_URL`
cookies, the slot of the table that belongs to a session, and the directives of
a `Digest` header.
-/

namespace Esp32WifiManager
namespace Auth

open CString HttpReq

/-! ### Cookies -/

def httpServerAuthRuuviCookieSession : Bytes := ascii "RUUVISESSION"
def httpServerAuthRuuviCookiePrevUrl : Bytes := ascii "RUUVI_PREV_URL"

/-- `p_buf` of `bufSize` bytes holds the value on `true` and the empty string on `false`. -/
def httpServerAuthRuuviGetCookie (cookies : Bytes) (lenCookies : ℕ) (cookieName : Bytes)
    (bufSize : ℕ) : Bool × CharBuf bufSize :=
  let failed : Bool × CharBuf bufSize := (false, .zero bufSize)
  match httpServerStrnstr cookies cookieName lenCookies with
  | none => failed
  | some cookieBegin =>
    let lenTillEol := lenCookies - cookieBegin
    let cookie := cookies.drop cookieBegin
    let lenOfCookiePair := (httpServerStrnstr cookie (ascii ";") lenTillEol).getD lenTillEol
    match httpServerStrnstr cookie (ascii "=") lenOfCookiePair with
    | none => failed
    | some delimiter =>
      if delimiter > lenOfCookiePair then failed
      else
        let cookieLen := sizeSub lenOfCookiePair (delimiter + 1)
        if cookieLen = 0 then failed
        else if cookieLen ≥ bufSize then failed
        else (true, .ofStr bufSize ((cookie.drop (delimiter + 1)).take cookieLen))

def httpServerAuthRuuviGetCookieFromHeader (header cookieName : Bytes) (bufSize : ℕ) :
    Bool × CharBuf bufSize :=
  match httpReqHeaderGetField header (ascii "Cookie:") with
  | none => (false, .zero bufSize)
  | some field => httpServerAuthRuuviGetCookie (header.drop field.ptr) field.len cookieName bufSize

def httpServerAuthRuuviGetSessionIdFromCookies (header : Bytes) : Bool × CharBuf 17 :=
  httpServerAuthRuuviGetCookieFromHeader header httpServerAuthRuuviCookieSession 17

def httpServerAuthRuuviGetPrevUrlFromCookies (header : Bytes) : CharBuf 65 :=
  (httpServerAuthRuuviGetCookieFromHeader header httpServerAuthRuuviCookiePrevUrl 65).2

/-! ### The table of sessions -/

def staIpCmp (ip₁ ip₂ : CharBuf 17) : Bool := ip₁.str = ip₂.str

/-- The slot holds the session `(sessionId, remoteIp)`. -/
def HttpServerAuthRuuviAuthorizedSession.holds (slot : HttpServerAuthRuuviAuthorizedSession)
    (sessionId remoteIp : CharBuf 17) : Bool :=
  if slot.sessionId.isEmpty then false
  else slot.sessionId.str = sessionId.str && staIpCmp slot.remoteIp remoteIp

/-- Index of the slot, in place of the pointer to it. -/
def httpServerAuthRuuviFindAuthorizedSession (sessionId remoteIp : CharBuf 17)
    (ruuvi : HttpServerAuthRuuvi) : Option (Fin httpServerAuthRuuviMaxNumSessions) :=
  (List.finRange httpServerAuthRuuviMaxNumSessions).find? fun i =>
    (ruuvi.authorizedSessions.get i).holds sessionId remoteIp

def httpServerAuthRuuviLoginSessionClear (s : HttpServerAuthRuuviLoginSession) :
    HttpServerAuthRuuviLoginSession where
  sessionId := s.sessionId.clear
  challenge := s.challenge.clear
  remoteIp := s.remoteIp.clear

/-! ### Digest directives -/

/-- The token between `prefix` and `suffix` goes into `p_buf`, which keeps the bytes behind it. -/
def httpServerParseToken {n : ℕ} (str : Bytes) (len : ℕ) (tokenPrefix tokenSuffix : Bytes)
    (buf : CharBuf n) : Option (CharBuf n) :=
  match httpServerStrnstr str tokenPrefix len with
  | none => none
  | some at₁ =>
    let idx1 := at₁ + tokenPrefix.length
    match httpServerStrnstr (str.drop idx1) tokenSuffix (sizeSub len idx1) with
    | none => none
    | some tokenLen =>
      if tokenLen ≥ n then none
      else
        let token := (str.drop idx1).take tokenLen
        some (Vector.ofFn fun i =>
          if i.1 < tokenLen then token.getD i 0 else if i.1 = tokenLen then 0 else buf[i])

/-- The directives are written one after the other, until one is missing or too long. -/
def httpServerParseDigestAuthorizationStr (authorization : Bytes) (len : ℕ)
    (req : HttpServerAuthDigestReq) : Bool × HttpServerAuthDigestReq :=
  let token {n : ℕ} (tokenPrefix tokenSuffix : String) (buf : CharBuf n) : Option (CharBuf n) :=
    httpServerParseToken authorization len (ascii tokenPrefix) (ascii tokenSuffix) buf
  if !strncmpEq authorization (ascii "Digest ") (ascii "Digest ").length then (false, req)
  else match token "username=\"" "\"" req.username with
  | none => (false, req)
  | some username =>
  let req := { req with username := username }
  match token "realm=\"" "\"" req.realm with
  | none => (false, req)
  | some realm =>
  let req := { req with realm := realm }
  match token "nonce=\"" "\"" req.nonce with
  | none => (false, req)
  | some nonce =>
  let req := { req with nonce := nonce }
  match token "uri=\"" "\"" req.uri with
  | none => (false, req)
  | some uri =>
  let req := { req with uri := uri }
  match token "qop=" "," req.qop with
  | none => (false, req)
  | some qop =>
  let req := { req with qop := qop }
  match token "nc=" "," req.nc with
  | none => (false, req)
  | some nc =>
  let req := { req with nc := nc }
  match token "cnonce=\"" "\"" req.cnonce with
  | none => (false, req)
  | some cnonce =>
  let req := { req with cnonce := cnonce }
  match token "response=\"" "\"" req.response with
  | none => (false, req)
  | some response =>
  let req := { req with response := response }
  match token "opaque=\"" "\"" req.opaqueStr with
  | none => (false, req)
  | some opaqueStr => (true, { req with opaqueStr := opaqueStr })

end Auth
end Esp32WifiManager
