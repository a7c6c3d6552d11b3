import Esp32WifiManager.HttpReq

/-!
# The authentication state

`g_auth` is a union: one pending login session and a table of authorized
sessions, or the directives of the last `Digest` header. All members are `char`
arrays, so that each view reads the bytes that the other one wrote. The state is
kept as the first view with the bytes behind it.
-/

namespace Esp32WifiManager
namespace Auth

open CString HttpReq

/-! ### Configuration -/

inductive HttpServerAuthType
  | allow
  | basic
  | digest
  | ruuvi
  | deny
  | default
  | bearer
  deriving DecidableEq, Repr

def httpServerAuthTypeToStr : HttpServerAuthType → Bytes
  | .allow => ascii "lan_auth_allow"
  | .basic => ascii "lan_auth_basic"
  | .digest => ascii "lan_auth_digest"
  | .ruuvi => ascii "lan_auth_ruuvi"
  | .deny => ascii "lan_auth_deny"
  | .default => ascii "lan_auth_default"
  | .bearer => ascii "lan_auth_bearer"

def httpServerAuthUserLen : ℕ := 51
def httpServerAuthPassLen : ℕ := 64 + 1
def httpServerAuthApiKeyLen : ℕ := 256 + 1

/-- `g_auth_info`, with the strings of its buffers. -/
structure HttpServerAuthInfo where
  authType : HttpServerAuthType
  authUser : Bytes
  authPass : Bytes
  authApiKey : Bytes
  authApiKeyRw : Bytes

def HttpServerAuthInfo.zero : HttpServerAuthInfo := ⟨.allow, [], [], [], []⟩

/-! ### The two views of `g_auth` -/

structure HttpServerAuthRuuviLoginSession where
  challenge : CharBuf 65
  sessionId : CharBuf 17
  remoteIp : CharBuf 17

structure HttpServerAuthRuuviAuthorizedSession where
  sessionId : CharBuf 17
  remoteIp : CharBuf 17

def httpServerAuthRuuviMaxNumSessions : ℕ := 4

structure HttpServerAuthRuuvi where
  loginSession : HttpServerAuthRuuviLoginSession
  authorizedSessions :
    Vector HttpServerAuthRuuviAuthorizedSession httpServerAuthRuuviMaxNumSessions

structure HttpServerAuthDigestReq where
  username : CharBuf 65
  realm : CharBuf 65
  nonce : CharBuf 81
  uri : CharBuf 65
  response : CharBuf 65
  opaqueStr : CharBuf 81
  qop : CharBuf 33
  nc : CharBuf 17
  cnonce : CharBuf 33

def HttpServerAuthRuuviLoginSession.zero : HttpServerAuthRuuviLoginSession :=
  ⟨.zero 65, .zero 17, .zero 17⟩

def HttpServerAuthRuuviAuthorizedSession.zero : HttpServerAuthRuuviAuthorizedSession :=
  ⟨.zero 17, .zero 17⟩

def HttpServerAuthRuuvi.zero : HttpServerAuthRuuvi := ⟨.zero, Vector.replicate _ .zero⟩

/-- The union: its view as `ruuvi`, 235 bytes long, and the bytes behind this view. -/
structure HttpServerAuth where
  ruuvi : HttpServerAuthRuuvi
  tail : CharBuf 270

def HttpServerAuth.zero : HttpServerAuth := ⟨.zero, .zero 270⟩

def HttpServerAuthRuuviLoginSession.toBytes (s : HttpServerAuthRuuviLoginSession) : Bytes :=
  s.challenge.toList ++ s.sessionId.toList ++ s.remoteIp.toList

def HttpServerAuthRuuviAuthorizedSession.toBytes (s : HttpServerAuthRuuviAuthorizedSession) :
    Bytes :=
  s.sessionId.toList ++ s.remoteIp.toList

def HttpServerAuth.toBytes (auth : HttpServerAuth) : Bytes :=
  auth.ruuvi.loginSession.toBytes ++
    (auth.ruuvi.authorizedSessions.toList.map
      HttpServerAuthRuuviAuthorizedSession.toBytes).flatten ++
    auth.tail.toList

def HttpServerAuth.ofBytes (mem : Bytes) : HttpServerAuth where
  ruuvi :=
    { loginSession := ⟨.ofBytes 65 mem 0, .ofBytes 17 mem 65, .ofBytes 17 mem 82⟩
      authorizedSessions := Vector.ofFn fun i =>
        ⟨.ofBytes 17 mem (99 + 34 * i), .ofBytes 17 mem (116 + 34 * i)⟩ }
  tail := .ofBytes 270 mem 235

/-- The directives, read from the bytes of the union. -/
def HttpServerAuth.digest (auth : HttpServerAuth) : HttpServerAuthDigestReq :=
  let mem := auth.toBytes
  { username := .ofBytes 65 mem 0
    realm := .ofBytes 65 mem 65
    nonce := .ofBytes 81 mem 130
    uri := .ofBytes 65 mem 211
    response := .ofBytes 65 mem 276
    opaqueStr := .ofBytes 81 mem 341
    qop := .ofBytes 33 mem 422
    nc := .ofBytes 17 mem 455
    cnonce := .ofBytes 33 mem 472 }

def HttpServerAuthDigestReq.toBytes (req : HttpServerAuthDigestReq) : Bytes :=
  req.username.toList ++ req.realm.toList ++ req.nonce.toList ++ req.uri.toList ++
    req.response.toList ++ req.opaqueStr.toList ++ req.qop.toList ++ req.nc.toList ++
    req.cnonce.toList

/-- The union after the directives, which are all of it, have been written. -/
def HttpServerAuth.ofDigest (req : HttpServerAuthDigestReq) : HttpServerAuth :=
  .ofBytes req.toBytes

/-! ### The server's state -/

structure WifimanHostinfo where
  hostname : Bytes
  fwVer : Bytes
  nrf52FwVer : Bytes

/-- What the request handlers read and write. `random` is the stream of values that `esp_random`
will return; `loginSessions` records the sessions initialised so far, for the statements only. -/
structure HttpServerState where
  auth : HttpServerAuth
  authInfo : HttpServerAuthInfo
  hostinfo : WifimanHostinfo
  extraHeaderFields : Bytes
  random : ℕ → UInt32
  loginSessions : List HttpServerAuthRuuviLoginSession

/-- The state at start, where the globals are zero. -/
def HttpServerState.start (hostinfo : WifimanHostinfo) (random : ℕ → UInt32) : HttpServerState where
  auth := .zero
  authInfo := .zero
  hostinfo := hostinfo
  extraHeaderFields := []
  random := random
  loginSessions := []

def HttpServerState.ruuvi (s : HttpServerState) : HttpServerAuthRuuvi := s.auth.ruuvi

def HttpServerState.setRuuvi (s : HttpServerState) (ruuvi : HttpServerAuthRuuvi) : HttpServerState :=
  { s with auth := { s.auth with ruuvi := ruuvi } }

/-! ### `http_server_auth.c` -/

def httpServerAuthClearAuthorizedSessions (s : HttpServerState) : HttpServerState :=
  { s with auth := .zero }

/-- The search in the first `len` bytes of a string; a needle longer than that is cut to it. -/
def httpServerStrnstr (haystack needle : Bytes) (len : ℕ) : Option ℕ :=
  let needleLen := min needle.length len
  if needleLen = 0 then some 0
  else
    let maxOffset := len - needleLen
    (List.range (maxOffset + 1)).find? fun i => strncmpEq (haystack.drop i) needle needleLen

/-- The bounded search looks through the bytes it is given, when the needle fits. -/
theorem httpServerStrnstr_eq_strstr {needle : Bytes} (s t : Bytes) (hne : needle ≠ [])
    (hle : needle.length ≤ s.length) :
    httpServerStrnstr (s ++ t) needle s.length = strstr s needle := by
  have hpos : needle.length ≠ 0 := by simpa using hne
  have hocc : ∀ i ≤ s.length - needle.length,
      (strncmpEq ((s ++ t).drop i) needle needle.length = true ↔ Occurs needle s i) := by
    intro i hi
    rw [strncmpEq_iff, List.take_length, Occurs, List.drop_append_of_le_length (by omega),
      List.take_append_of_le_length (by rw [List.length_drop]; omega), eq_comm,
      List.prefix_iff_eq_take]
  rw [httpServerStrnstr, min_eq_left hle, if_neg hpos]
  ext i
  rw [List.find?_range_eq_some, strstr_eq_some]
  constructor
  · rintro ⟨hi, hmem, hfirst⟩
    have hle' : i ≤ s.length - needle.length := Nat.lt_succ_iff.mp (List.mem_range.mp hmem)
    refine ⟨by omega, (hocc i hle').mp hi, ?_⟩
    intro j hj hoccj
    have := hfirst j hj
    rw [(hocc j (by omega)).mpr hoccj] at this
    exact absurd this (by decide)
  · rintro ⟨hi, hocci, hfirst⟩
    have hlen := hocci.length_le hi
    refine ⟨(hocc i (by omega)).mpr hocci, List.mem_range.mpr (by omega), ?_⟩
    intro j hj
    rw [Bool.not_eq_true', ← Bool.not_eq_true, hocc j (by omega)]
    exact hfirst j hj

/-- `NULL` arguments are `none`. -/
structure SetAuthArgs where
  authType : HttpServerAuthType
  authUser : Option Bytes
  authPass : Option Bytes
  authApiKey : Option Bytes
  authApiKeyRw : Option Bytes

/-- `p->buf`, or the empty string. -/
def safeStr (buf : Option Bytes) : Bytes := (buf.map text).getD []

/-- The branches of `http_server_set_auth` that set `flag_clear_authorized_sessions`. -/
def SetAuthArgs.changes (args : SetAuthArgs) (info : HttpServerAuthInfo) : Bool :=
  args.authType ≠ info.authType || info.authUser ≠ safeStr args.authUser ||
    info.authPass ≠ safeStr args.authPass

def httpServerSetAuth (args : SetAuthArgs) (s : HttpServerState) : HttpServerState :=
  let info := s.authInfo
  let user := safeStr args.authUser
  let pass := safeStr args.authPass
  let s₁ := if args.changes info then httpServerAuthClearAuthorizedSessions s else s
  { s₁ with
    authInfo :=
      { authType := args.authType
        authUser :=
          if info.authUser ≠ user then snprintf httpServerAuthUserLen user else info.authUser
        authPass :=
          if info.authPass ≠ pass then snprintf httpServerAuthPassLen pass else info.authPass
        authApiKey := snprintf httpServerAuthApiKeyLen (safeStr args.authApiKey)
        authApiKeyRw := snprintf httpServerAuthApiKeyLen (safeStr args.authApiKeyRw) } }

/-- All sessions move up by one slot, the last one is dropped, and the new one comes first. -/
def httpServerAuthRuuviAddAuthorizedSession (sessionId remoteIp : CharBuf 17)
    (ruuvi : HttpServerAuthRuuvi) : HttpServerAuthRuuvi :=
  let table := ruuvi.authorizedSessions
  { ruuvi with
    authorizedSessions := #v[⟨sessionId, remoteIp⟩, table[0], table[1], table[2]] }

end Auth
end Esp32WifiManager
