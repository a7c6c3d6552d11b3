import Esp32WifiManager.HttpServer.ExtraFields
import Esp32WifiManager.HttpServer.RespHeader
import Esp32WifiManager.HttpServer.SoundLogin

/-!
# The header block

The header block of a response is a status line, header fields and an empty
line. The extra header fields of a request are among its fields: they are what
the handler of the request prints, and the key of the server behind it.
-/

namespace Esp32WifiManager
namespace Auth

open CString HttpReq FieldLines ClientText

/-! ### Requests -/

/-- The name of the page that is asked for. -/
def pageName (path : Bytes) : Bytes := if path = [] then ascii "index.html" else path

section Asks

variable (plat : Platform) (out : Outcomes) (param : HttpServerHandleReqParam)
  (s : HttpServerState)

def GetAsks (fileName : Bytes) : Prop :=
  if fileName = ascii "auth" then GetAuthAsks plat out (param.authParam false) s
  else fileNameNeedsAuth fileName = true ∧
    CheckAuthAsks plat out (param.authParam (fileName = ascii "ap.json")) s

def PostAsks (fileName httpBody : Bytes) : Prop :=
  if fileName = ascii "auth" then
    (httpServerHandleReqPostAuth plat out param.flagAccessFromLan param.reqInfo.httpHeader
      param.remoteIp httpBody s).1.httpRespCode = .c401
  else CheckAuthAsks plat out (param.authParam true) s

/-- The request is answered with a challenge. -/
def Challenges : Prop :=
  let s := { s with extraHeaderFields := [] }
  if param.reqInfo.httpCmd = ascii "GET" then GetAsks plat out param s (pageName param.reqInfo.path)
  else if param.reqInfo.httpCmd = ascii "DELETE" then
    CheckAuthAsks plat out (param.authParam true) s
  else if param.reqInfo.httpCmd = ascii "POST" then
    ∃ httpBody ∈ httpServerPostBody plat out param.reqInfo,
      PostAsks plat out param s param.reqInfo.path httpBody
  else False

/-- A client from LAN that has no session and sends no token is sent to the login page. -/
structure Unauthorized (flagCheckRwAccess : Bool) : Prop where
  fromLan : param.flagAccessFromLan = true
  authType : s.authInfo.authType.isRuuvi
  noToken : httpServerHandleReqCheckAuthBearer param.reqInfo.httpHeader flagCheckRwAccess
    s.authInfo = .notUsed
  notLoggedIn : NotLoggedIn param.reqInfo.httpHeader param.remoteIp s

/-- The page that such a client has asked for is one to which the browser comes back. -/
structure RedirectsWithPrevUrl : Prop where
  get : param.reqInfo.httpCmd = ascii "GET"
  page : fileNameNeedsAuth (pageName param.reqInfo.path) = true
  names : pageName param.reqInfo.path ∉ [ascii "auth", ascii "ap.json", ascii "status.json"]
  unauthorized : Unauthorized param s false

end Asks

/-! ### The claim -/

/-- The key that the server answers with, where the handshake of the request succeeds. -/
def ecdhPubKey (out : Outcomes) (param : HttpServerHandleReqParam) : Option Bytes :=
  if param.reqInfo.httpCmd = ascii "GET" then
    match httpReqHeaderGetField param.reqInfo.httpHeader (ascii "Ruuvi-Ecdh-Pub-Key:") with
    | none => none
    | some field => httpServerHandleRuuviEcdhPubKey out (field.value param.reqInfo.httpHeader)
  else none

def ecdhPubKeyField (pubKeySrv : Bytes) : Bytes := ascii "Ruuvi-Ecdh-Pub-Key: " ++ pubKeySrv

/-- The host name of the request, or the address where it has none. -/
def reqHostname (header : Bytes) (localIp : CharBuf 17) : Bytes :=
  match httpReqHeaderGetField header (ascii "Host:") with
  | none => localIp.str
  | some host => if host.len ≠ 0 then host.value header else localIp.str

/-- The code outside the repository: the hex printer, the keys of the handshake, the callbacks of
the application, the printed date and the printed address. The host name is in an array of 30
bytes. -/
structure FieldTexts (plat : Platform) (out : Outcomes) (localIp : CharBuf 17) (date : Bytes)
    (s : HttpServerState) : Prop where
  hex : PrintsHex plat
  keys : ∀ pubKey, ∀ pubKeySrv ∈ out.ecdhHandshake pubKey,
    Clean pubKeySrv ∧ pubKeySrv.length < httpServerEcdhPubKeyB64Size
  callbacks : CleanCallbacks out
  date : Clean date
  localIp : Clean localIp.str
  hostname : s.hostinfo.hostname.length < 30

/-- The extra header fields are complete, with the key of the server among them, and the header
block of the response has them among its fields. -/
structure HeaderWellFormed (out : Outcomes) (param : HttpServerHandleReqParam)
    (localIp : CharBuf 17) (date : Bytes) (res : HttpServerResp × HttpServerState) : Prop where
  fields : IsFields res.2.extraHeaderFields
  key : ∀ pubKeySrv ∈ ecdhPubKey out param,
    HasLine res.2.extraHeaderFields (ecdhPubKeyField pubKeySrv)
  block : IsHeaderBlock
    (if res.1.httpRespCode.carriesExtraFields then res.2.extraHeaderFields else [])
    (RespText.ofResp res.1 res.2.extraHeaderFields (reqHostname param.reqInfo.httpHeader localIp)
      date).header

namespace HeaderBlock

variable {plat : Platform} {out : Outcomes} {s : HttpServerState}

/-! ### The three methods -/

/-- A check fails for lack of a session. -/
theorem getAuthRuuvi_code (param : HttpServerHandleReqAuthParam) {authType : HttpServerAuthType}
    (htype : authType ≠ .allow) :
    (httpServerHandleReqGetAuthRuuvi plat out param true authType s).1.httpRespCode = .c401 ↔
      NotLoggedIn param.httpHeader param.remoteIp s := by
  have hnone : (httpServerResp401AuthRuuvi plat authType s).httpRespCode = .c401 := rfl
  unfold httpServerHandleReqGetAuthRuuvi NotLoggedIn
  simp only [htype, decide_false, Bool.and_false, Bool.false_eq_true, if_false, if_true]
  rcases httpServerAuthRuuviGetSessionIdFromCookies param.httpHeader with ⟨_ | _, sessionId⟩
  · simp only [hnone]
  · dsimp only
    cases httpServerAuthRuuviFindAuthorizedSession sessionId param.remoteIp s.ruuvi with
    | none => simp only [hnone]
    | some _ => simp

theorem checkAuth_unauthorized (plat : Platform) (out : Outcomes) (param : HttpServerHandleReqParam) (flagRw : Bool)
    (ht : s.authInfo.authType.isRuuvi) :
    ((httpServerHandleReqCheckAuth plat out (param.authParam flagRw) (some false) s).2.1 =
        some false ∧
      (httpServerHandleReqCheckAuth plat out (param.authParam flagRw) (some false)
        s).1.httpRespCode = .c401) ↔ Unauthorized param s flagRw := by
  have hcode : (httpServerHandleReqAuthByType plat out (param.authParam flagRw) true
      s).1.httpRespCode = .c401 ↔ NotLoggedIn param.reqInfo.httpHeader param.remoteIp s := by
    unfold httpServerHandleReqAuthByType
    rcases ht with ht | ht
    · rw [ht]
      exact getAuthRuuvi_code _ (by decide)
    · rw [ht]
      exact getAuthRuuvi_code _ (by decide)
  have hlan : (param.authParam flagRw).flagAccessFromLan = param.flagAccessFromLan := rfl
  unfold httpServerHandleReqCheckAuth httpServerHandleReqGetOrCheckAuth
  rw [hlan]
  cases hflag : param.flagAccessFromLan with
  | false =>
    refine iff_of_false ?_ fun h => ?_
    · simp [httpServerHandleReqGetAuthAllow]
    · have := h.fromLan
      simp [hflag] at this
  | true =>
    simp only [Bool.not_true, Bool.false_eq_true, if_false]
    have hbearer : httpServerHandleReqCheckAuthBearer (param.authParam flagRw).httpHeader
        (param.authParam flagRw).flagCheckRwAccessWithBearerToken s.authInfo =
        httpServerHandleReqCheckAuthBearer param.reqInfo.httpHeader flagRw s.authInfo := rfl
    rw [hbearer]
    cases htoken : httpServerHandleReqCheckAuthBearer param.reqInfo.httpHeader flagRw
      s.authInfo with
    | notUsed =>
      simp only [true_and, hcode]
      exact ⟨fun h => ⟨hflag, ht, htoken, h⟩, fun h => h.notLoggedIn⟩
    | allowed =>
      refine iff_of_false (by simp) fun h => ?_
      have := h.noToken
      simp [htoken] at this
    | prohibited =>
      refine iff_of_false (by simp) fun h => ?_
      have := h.noToken
      simp [htoken] at this

section Methods

variable (hhost : s.hostinfo.hostname.length < 30) (hplat : PrintsHex plat)
  (param : HttpServerHandleReqParam)

include hhost hplat

theorem delete_printed (out : Outcomes) (hempty : s.extraHeaderFields = []) (fileName : Bytes) :
    Printed s (httpServerHandleReqDelete plat out fileName param s)
      (CheckAuthAsks plat out (param.authParam true) s) := by
  have hcheck := (ExtraFields.checkAuth_announces hhost (param.authParam true) hplat out).printed
    hempty
  have hcode : CheckAuthAsks plat out (param.authParam true) s →
      (httpServerHandleReqCheckAuth plat out (param.authParam true) (some false)
        s).1.httpRespCode = .c401 := fun h => h.1
  generalize CheckAuthAsks plat out (param.authParam true) s = asks at hcheck hcode ⊢
  unfold httpServerHandleReqDelete
  dsimp only
  generalize httpServerHandleReqCheckAuth plat out (param.authParam true) (some false) s = res at *
  split_ifs with h200
  · exact hcheck
  · have hasks : ¬ asks := by
      intro hasks
      rw [hcode hasks] at h200
      simp at h200
    have hfields : (httpServerHandleReqDeleteServe plat out fileName param
        res.2.2).2.extraHeaderFields = res.2.2.extraHeaderFields := by
      unfold httpServerHandleReqDeleteServe
      split_ifs
      · exact ExtraFields.deleteAuth_fields _ _
      · rfl
      · rfl
      · rfl
    refine ⟨fun h => absurd h hasks, fun _ => ?_⟩
    rw [hfields]
    exact hcheck.other hasks

theorem post_printed (out : Outcomes) (hempty : s.extraHeaderFields = [])
    (fileName httpBody : Bytes) :
    Printed s (httpServerHandleReqPost plat out fileName param httpBody s)
      (PostAsks plat out param s fileName httpBody) := by
  unfold httpServerHandleReqPost PostAsks
  by_cases hauth : fileName = ascii "auth"
  · rw [if_pos hauth, if_pos hauth]
    exact ExtraFields.postAuth_printed hhost hplat out hempty _ _ _ _
  · rw [if_neg hauth, if_neg hauth]
    have hcheck := (ExtraFields.checkAuth_announces hhost (param.authParam true) hplat out).printed
      hempty
    have hcode : CheckAuthAsks plat out (param.authParam true) s →
        (httpServerHandleReqCheckAuth plat out (param.authParam true) (some false)
          s).1.httpRespCode = .c401 := fun h => h.1
    dsimp only
    split_ifs with h200
    · exact hcheck
    · refine ⟨fun h => ?_, hcheck.other⟩
      rw [hcode h] at h200
      simp at h200

omit hhost hplat in
/-- The redirection is printed without a line end. -/
theorem get_redirects (out : Outcomes) (hred : RedirectsWithPrevUrl param s) :
    (httpServerHandleReqGet plat out param.reqInfo.path param s).2.extraHeaderFields =
      snprintf httpServerExtraHeaderFieldsSize (ascii "Set-Cookie: " ++
        httpServerAuthRuuviCookiePrevUrl ++ ascii "=/" ++ pageName param.reqInfo.path) := by
  obtain ⟨-, hpage, hnames, hun⟩ := hred
  simp only [List.mem_cons, List.not_mem_nil, or_false, not_or] at hnames
  obtain ⟨hauth, hap, hstatus⟩ := hnames
  obtain ⟨hflag, hcode⟩ := (checkAuth_unauthorized plat out param false
    hun.authType).mpr hun
  have hinfo := (checkAuth_effect plat out (param.authParam false) s (some false)).authInfo
  have hflagRw : decide (pageName param.reqInfo.path = ascii "ap.json") = false := by simpa using hap
  unfold httpServerHandleReqGet
  have hname : (if param.reqInfo.path = [] then ascii "index.html" else param.reqInfo.path) =
      pageName param.reqInfo.path := rfl
  rw [hname]
  simp only [hauth, hpage, hflagRw, if_false, if_true]
  generalize httpServerHandleReqCheckAuth plat out (param.authParam false) (some false) s = res
    at hflag hcode hinfo ⊢
  have htype : res.2.2.authInfo.authType.isRuuvi := by
    have hauthInfo : res.2.2.authInfo = s.authInfo := hinfo
    rw [hauthInfo]
    exact hun.authType
  rw [if_pos ⟨hflag, hcode, htype⟩, if_pos ⟨hap, hstatus⟩]
  rfl

/-- Every other page is announced or served. -/
theorem get_announces (out : Outcomes) (hcmd : param.reqInfo.httpCmd = ascii "GET")
    (hred : ¬ RedirectsWithPrevUrl param s) :
    Announces s (httpServerHandleReqGet plat out param.reqInfo.path param s)
      (GetAsks plat out param s (pageName param.reqInfo.path)) := by
  unfold httpServerHandleReqGet GetAsks
  have hname : (if param.reqInfo.path = [] then ascii "index.html" else param.reqInfo.path) =
      pageName param.reqInfo.path := rfl
  rw [hname]
  have hun : pageName param.reqInfo.path ≠ ascii "auth" → pageName param.reqInfo.path ≠
      ascii "ap.json" → pageName param.reqInfo.path ≠ ascii "status.json" →
      fileNameNeedsAuth (pageName param.reqInfo.path) = true → ¬ Unauthorized param s false := by
    intro hauth hap hstatus hpage hun
    refine hred ⟨hcmd, hpage, ?_, hun⟩
    simp [hauth, hap, hstatus]
  generalize pageName param.reqInfo.path = fileName at hun ⊢
  by_cases hauth : fileName = ascii "auth"
  · rw [if_pos hauth, if_pos hauth]
    exact ExtraFields.getAuth_announces hhost _ hplat out
  rw [if_neg hauth, if_neg hauth]
  by_cases hpage : fileNameNeedsAuth fileName = true
  · simp only [hpage, if_true, true_and]
    have hcheck := ExtraFields.checkAuth_announces hhost (param.authParam (fileName = ascii "ap.json"))
      hplat out
    have hinfo : (httpServerHandleReqCheckAuth plat out (param.authParam (fileName = ascii "ap.json"))
        (some false) s).2.2.authInfo = s.authInfo :=
      (checkAuth_effect plat out _ s (some false)).authInfo
    rw [hinfo]
    split_ifs with hcond hpath hcode
    · -- this is the page to which the browser would come back
      obtain ⟨hflag, h401, htype⟩ := hcond
      have hflagRw : decide (fileName = ascii "ap.json") = false := by simpa using hpath.1
      rw [hflagRw] at hflag h401
      exact absurd ((checkAuth_unauthorized plat out param false htype).mp ⟨hflag, h401⟩)
        (hun hauth hpath.1 hpath.2 hpage)
    · have hasks : ¬ CheckAuthAsks plat out (param.authParam (fileName = ascii "ap.json")) s := by
        rintro ⟨-, -, htype⟩
        have hruuvi := hcond.2.2
        rcases htype with htype | htype
        · simp [htype] at hruuvi
        · simp [htype] at hruuvi
      exact ⟨fun h => absurd h hasks, hcheck.silent⟩
    · exact hcheck
    · have hasks : ¬ CheckAuthAsks plat out (param.authParam (fileName = ascii "ap.json")) s := by
        rintro ⟨h401, -⟩
        rw [h401] at hcode
        simp at hcode
      exact ⟨fun h => absurd h hasks, hcheck.silent⟩
  · rw [if_neg hpage]
    exact ⟨fun h => absurd h.1 hpage, fun _ => rfl⟩

end Methods

/-! ### The key of the server -/

section Key

/-- The fields with the key, if there is one, behind what the handler has printed. -/
def withKey (out : Outcomes) (param : HttpServerHandleReqParam) (t : Bytes) : Bytes :=
  match ecdhPubKey out param with
  | none => t
  | some pubKeySrv =>
    t ++ snprintf (httpServerExtraHeaderFieldsSize - t.length) (ecdhPubKeyField pubKeySrv ++ eol)

/-- The text consists of fields, and the key is one of them. -/
def Complete (out : Outcomes) (param : HttpServerHandleReqParam) (t : Bytes) : Prop :=
  IsFields t ∧ ∀ pubKeySrv ∈ ecdhPubKey out param, HasLine t (ecdhPubKeyField pubKeySrv)

variable {localIp : CharBuf 17} {date : Bytes} (htexts : FieldTexts plat out localIp date s)
  (param : HttpServerHandleReqParam) {t : Bytes}

theorem getWithEcdhKey_fields (plat : Platform) (out : Outcomes) (s : HttpServerState)
    (hcmd : param.reqInfo.httpCmd = ascii "GET") (path : Bytes) :
    (httpServerHandleReqGetWithEcdhKey plat out path param s).2.extraHeaderFields =
      withKey out param (httpServerHandleReqGet plat out path param s).2.extraHeaderFields := by
  unfold httpServerHandleReqGetWithEcdhKey withKey ecdhPubKey
  rw [if_pos hcmd]
  dsimp only
  cases httpReqHeaderGetField param.reqInfo.httpHeader (ascii "Ruuvi-Ecdh-Pub-Key:") with
  | none => rfl
  | some field =>
    dsimp only
    cases httpServerHandleRuuviEcdhPubKey out (field.value param.reqInfo.httpHeader) with
    | none => rfl
    | some pubKeySrv =>
      have heol : ascii "\r\n" = eol := by decide
      simp only [ecdhPubKeyField, heol]

include htexts

theorem key_mem {pubKeySrv : Bytes} (hkey : pubKeySrv ∈ ecdhPubKey out param) :
    Clean pubKeySrv ∧ pubKeySrv.length < httpServerEcdhPubKeyB64Size := by
  unfold ecdhPubKey httpServerHandleRuuviEcdhPubKey at hkey
  split_ifs at hkey
  · cases hfield : httpReqHeaderGetField param.reqInfo.httpHeader (ascii "Ruuvi-Ecdh-Pub-Key:") with
    | none => simp [hfield] at hkey
    | some field =>
      simp only [hfield] at hkey
      split_ifs at hkey
      · simp at hkey
      · exact htexts.keys _ _ hkey
  · simp at hkey

theorem isField_key {pubKeySrv : Bytes} (hkey : pubKeySrv ∈ ecdhPubKey out param) :
    IsField (ecdhPubKeyField pubKeySrv) := by
  have hname : IsField (ascii "Ruuvi-Ecdh-Pub-Key: ") :=
    isField_mk (ascii "Ruuvi-Ecdh-Pub-Key") [] (by decide) (by decide) (by decide) (by decide)
  exact hname.append (key_mem htexts param hkey).1

/-- Where 110 bytes are left the key is printed in full. -/
theorem withKey_eq {pubKeySrv : Bytes} (hkey : ecdhPubKey out param = some pubKeySrv)
    (hroom : t.length + 110 < httpServerExtraHeaderFieldsSize) :
    withKey out param t = t ++ (ecdhPubKeyField pubKeySrv ++ eol) := by
  have hlen := (key_mem htexts param hkey).2
  have hname : (ascii "Ruuvi-Ecdh-Pub-Key: ").length = 20 := by decide
  have heol : eol.length = 2 := rfl
  have hfull : snprintf (httpServerExtraHeaderFieldsSize - t.length)
      (ecdhPubKeyField pubKeySrv ++ eol) = ecdhPubKeyField pubKeySrv ++ eol := by
    refine List.take_of_length_le ?_
    simp only [List.length_append, ecdhPubKeyField, hname, heol, httpServerEcdhPubKeyB64Size] at hlen ⊢
    omega
  rw [withKey, hkey]
  simp only [hfull]

theorem complete_of_isFields (ht : IsFields t)
    (hroom : t.length + 110 < httpServerExtraHeaderFieldsSize) :
    Complete out param (withKey out param t) := by
  cases hkey : ecdhPubKey out param with
  | none =>
    rw [withKey, hkey]
    exact ⟨ht, by simp [hkey]⟩
  | some pubKeySrv =>
    have hline := hasLine_append ht (isField_key htexts param hkey)
    rw [withKey_eq htexts param hkey hroom]
    refine ⟨hline.isFields, fun other hother => ?_⟩
    rw [hkey] at hother
    rwa [← Option.some.inj hother]

/-- A challenge is complete where the host name is. -/
theorem complete_challenge (h : Challenge s.hostinfo.hostname t) :
    Complete out param (withKey out param t) ↔
      IsFields (ascii "realm: " ++ s.hostinfo.hostname ++ eol) := by
  constructor
  · rintro ⟨hfields, -⟩
    cases hkey : ecdhPubKey out param with
    | none =>
      rw [withKey, hkey] at hfields
      refine (ExtraFields.isFields_iff h isFields_nil).mp ?_
      rwa [List.append_nil]
    | some pubKeySrv =>
      rw [withKey_eq htexts param hkey h.fits] at hfields
      exact (ExtraFields.isFields_iff h (isFields_one (isField_key htexts param hkey))).mp hfields
  · intro hname
    have hfields := (ExtraFields.isFields_iff h isFields_nil).mpr hname
    rw [List.append_nil] at hfields
    exact complete_of_isFields htexts param hfields h.fits

omit htexts in
/-- The redirection leaves its line unfinished, so that the key is no line of its own. -/
theorem not_complete_redirect {fileName : Bytes} (hname : NoCrlf fileName) :
    ¬ Complete out param (withKey out param (snprintf httpServerExtraHeaderFieldsSize
      (ascii "Set-Cookie: " ++ httpServerAuthRuuviCookiePrevUrl ++ ascii "=/" ++ fileName))) := by
  set start := ascii "Set-Cookie: " ++ httpServerAuthRuuviCookiePrevUrl ++ ascii "=/" with hstart
  set t := snprintf httpServerExtraHeaderFieldsSize (start ++ fileName) with ht
  have hhead : t.head? = some 83 := by
    rw [ht]
    rfl
  have hne : t ≠ [] := by
    intro hnil
    simp [hnil] at hhead
  have hcrlf : ¬ eol <:+: t := by
    intro heol
    have hwhole : eol <:+: start ++ fileName := heol.trans (List.take_prefix _ _).isInfix
    exact hname (eol_isInfix_of_append (by decide) hwhole)
  rintro ⟨hfields, hkeys⟩
  cases hkey : ecdhPubKey out param with
  | none =>
    rw [withKey, hkey] at hfields
    exact hcrlf (eol_isInfix hfields hne)
  | some pubKeySrv =>
    have hline := hkeys pubKeySrv hkey
    rw [withKey, hkey] at hline
    refine not_hasLine hcrlf ?_ hne ?_ ?_ hline
    · rw [hhead]
      simp [ecdhPubKeyField, ascii]
    · simp [ecdhPubKeyField, ascii]
    · rw [← List.length_append]
      exact List.length_take_le' _ _

theorem complete_iff_of_announces {r : HttpServerResp × HttpServerState} {asks : Prop}
    (h : Announces s r asks) (hempty : s.extraHeaderFields = []) :
    Complete out param (withKey out param r.2.extraHeaderFields) ↔
      (asks → IsFields (ascii "realm: " ++ s.hostinfo.hostname ++ eol)) := by
  by_cases hasks : asks
  · rw [complete_challenge htexts param (h.challenge hasks)]
    exact ⟨fun hname _ => hname, fun hname => hname hasks⟩
  · rw [h.silent hasks, hempty]
    exact iff_of_true (complete_of_isFields htexts param isFields_nil (by decide))
      fun h => absurd h hasks

omit htexts in
theorem complete_iff_of_printed {r : HttpServerResp × HttpServerState} {asks : Prop}
    (h : Printed s r asks) (hcmd : param.reqInfo.httpCmd ≠ ascii "GET") :
    Complete out param r.2.extraHeaderFields ↔
      (asks → IsFields (ascii "realm: " ++ s.hostinfo.hostname ++ eol)) := by
  have hkey : ecdhPubKey out param = none := if_neg hcmd
  have hcomplete : Complete out param r.2.extraHeaderFields ↔ IsFields r.2.extraHeaderFields := by
    simp [Complete, hkey]
  rw [hcomplete]
  by_cases hasks : asks
  · have hchallenge := ExtraFields.isFields_iff (h.challenge hasks) isFields_nil
    rw [List.append_nil] at hchallenge
    rw [hchallenge]
    exact ⟨fun hname _ => hname, fun hname => hname hasks⟩
  · exact iff_of_true (h.other hasks) fun h => absurd h hasks

end Key

/-! ### Every request -/

section Requests

variable {localIp : CharBuf 17} {date : Bytes} {param : HttpServerHandleReqParam}

theorem reqHostname_clean (hip : Clean localIp.str) (header : Bytes) :
    Clean (reqHostname header localIp) := by
  unfold reqHostname
  cases hfield : httpReqHeaderGetField header (ascii "Host:") with
  | none => exact hip
  | some host =>
    dsimp only
    split_ifs
    · exact headerField_clean hfield
    · exact hip

theorem served_uri {m apIp : Bytes} {remoteIp : CharBuf 17} {hostnameMem lanBlocked : Bool}
    (hserved : httpServerNetconnServeHandleReq m localIp remoteIp apIp hostnameMem lanBlocked =
      .handleReq param) : NoCrlf param.reqInfo.httpUri := by
  unfold httpServerNetconnServeHandleReq at hserved
  dsimp only at hserved
  split_ifs at hserved with hsuccess hmem hlan hblocked hap
  · rw [← ServedReq.handleReq.inj hserved]
    exact uri_noCrlf (by simpa using hsuccess)
  · rw [← ServedReq.handleReq.inj hserved]
    exact uri_noCrlf (by simpa using hsuccess)

theorem pageName_noCrlf {info : HttpReqInfo} (h : NoCrlf info.httpUri) :
    NoCrlf (pageName info.path) := by
  have hindex : NoCrlf (ascii "index.html") := by
    unfold NoCrlf
    decide
  unfold pageName HttpReqInfo.path
  split_ifs
  · exact hindex
  · exact h.of_isInfix (List.drop_suffix 1 _).isInfix
  · exact hindex
  · exact h

theorem redirects_cleared :
    RedirectsWithPrevUrl param { s with extraHeaderFields := [] } ↔ RedirectsWithPrevUrl param s := by
  constructor
  · rintro ⟨hget, hpage, hnames, hun⟩
    exact ⟨hget, hpage, hnames, hun.fromLan, hun.authType, hun.noToken, hun.notLoggedIn⟩
  · rintro ⟨hget, hpage, hnames, hun⟩
    exact ⟨hget, hpage, hnames, hun.fromLan, hun.authType, hun.noToken, hun.notLoggedIn⟩

theorem handleReq_complete (htexts : FieldTexts plat out localIp date s)
    (huri : NoCrlf param.reqInfo.httpUri) :
    Complete out param (httpServerHandleReq plat out param s).2.extraHeaderFields ↔
      ¬ RedirectsWithPrevUrl param s ∧ (Challenges plat out param s →
        IsFields (ascii "realm: " ++ s.hostinfo.hostname ++ eol)) := by
  rw [← redirects_cleared]
  unfold httpServerHandleReq Challenges
  have hcleared : FieldTexts plat out localIp date { s with extraHeaderFields := [] } :=
    ⟨htexts.hex, htexts.keys, htexts.callbacks, htexts.date, htexts.localIp, htexts.hostname⟩
  dsimp only
  obtain ⟨t, ht⟩ : ∃ t : HttpServerState, t = { s with extraHeaderFields := [] } := ⟨_, rfl⟩
  have hname : s.hostinfo = t.hostinfo := by rw [ht]
  have hempty : t.extraHeaderFields = [] := by rw [ht]
  rw [← ht] at hcleared
  rw [← ht, hname]
  by_cases hget : param.reqInfo.httpCmd = ascii "GET"
  · rw [if_pos hget, if_pos hget, getWithEcdhKey_fields param plat out t hget]
    by_cases hred : RedirectsWithPrevUrl param t
    · rw [get_redirects param out hred]
      exact iff_of_false (not_complete_redirect param (pageName_noCrlf huri)) fun h => h.1 hred
    · have hann := get_announces hcleared.hostname hcleared.hex param out hget hred
      rw [complete_iff_of_announces hcleared param hann hempty]
      simp only [hred, not_false_eq_true, true_and]
  · have hred : ¬ RedirectsWithPrevUrl param t := fun h => hget h.get
    simp only [hget, hred, if_false, not_false_eq_true, true_and]
    split_ifs with hdelete hpost
    · exact complete_iff_of_printed param
        (delete_printed hcleared.hostname hcleared.hex param out hempty _) hget
    · unfold httpServerHandleReqPostWithEcdhKey
      cases hbody : httpServerPostBody plat out param.reqInfo with
      | none =>
        refine complete_iff_of_printed param ⟨fun h => ?_, fun _ => ?_⟩ hget
        · simp at h
        · rw [hempty]
          exact isFields_nil
      | some httpBody =>
        simp only [Option.mem_def, Option.some.injEq, exists_eq_left']
        exact complete_iff_of_printed param
          (post_printed hcleared.hostname hcleared.hex param out hempty _ httpBody) hget
    · refine complete_iff_of_printed param ⟨fun h => absurd h not_false, fun _ => ?_⟩ hget
      rw [hempty]
      exact isFields_nil

end Requests

end HeaderBlock

/-- The header block is well formed just when the request is not sent to the login page with the
name of a page to come back to, and the host name, where it is printed, leaves its line whole. -/
theorem header_block_well_formed (plat : Platform) (out : Outcomes) (s : HttpServerState)
    (m apIp date : Bytes) (localIp remoteIp : CharBuf 17) (hostnameMem lanBlocked : Bool)
    (param : HttpServerHandleReqParam)
    (hserved : httpServerNetconnServeHandleReq m localIp remoteIp apIp hostnameMem lanBlocked =
      .handleReq param)
    (htexts : FieldTexts plat out localIp date s) :
    HeaderWellFormed out param localIp date (httpServerHandleReq plat out param s) ↔
      ¬ RedirectsWithPrevUrl param s ∧ (Challenges plat out param s →
        IsFields (ascii "realm: " ++ s.hostinfo.hostname ++ eol)) := by
  rw [← HeaderBlock.handleReq_complete htexts (HeaderBlock.served_uri hserved)]
  constructor
  · intro h
    exact ⟨h.fields, h.key⟩
  · rintro ⟨hfields, hkey⟩
    refine ⟨hfields, hkey, ?_⟩
    exact RespHeader.block_ofResp hfields htexts.date
      (HeaderBlock.reqHostname_clean htexts.localIp _)
      (RespHeader.cleanType_handleReq htexts.callbacks param)

/-! ### A page and a login -/

/-- A public key of the curve, in base64. -/
def samplePubKey : Bytes :=
  ascii "BGsX0fLhLEJH+Lzm5WOkQPJ3A32BLeszoPShOUXYmMKWT+NC4v4af5uO5+tKfA+eFivOM1drMV7Oy7ZAaDe/UfU="

def sampleHandshake : Outcomes := { sampleOutcomes with ecdhHandshake := fun _ => some samplePubKey }

def sampleDate : Bytes := ascii "Thu, 01 Jan 2026 00:00:00"

def sampleLocalIp : CharBuf 17 := .ofStr 17 (ascii "192.168.1.10")

def sampleRequest (uri : String) : Bytes :=
  ascii "GET " ++ ascii uri ++ ascii " HTTP/1.1\r\nHost: 192.168.1.10\r\nRuuvi-Ecdh-Pub-Key: " ++
    samplePubKey ++ ascii "\r\n\r\n" ++ [0]

/-- The request that is handled when it comes from LAN. -/
def lanParam (m : Bytes) (remoteIp : CharBuf 17) : HttpServerHandleReqParam :=
  ⟨HttpReqInfo.ofPtrs (httpReqParse m).1 (httpReqParse m).2, remoteIp, true⟩

theorem serve_lan (m apIp : Bytes) (localIp remoteIp : CharBuf 17)
    (hsuccess : (httpReqParse m).2.isSuccess = true) (hlan : localIp.str ≠ apIp) :
    httpServerNetconnServeHandleReq m localIp remoteIp apIp true false =
      .handleReq (lanParam m remoteIp) := by
  unfold httpServerNetconnServeHandleReq lanParam
  simp [hsuccess, hlan]

theorem printsHex_sample (login : Bytes) : PrintsHex (samplePlatform login) := by
  have hdigit : ∀ n < 16, hexDigit n ∈ ascii "0123456789abcdefABCDEF" := by decide +kernel
  intro m c hc
  obtain ⟨l, hl, hcl⟩ := List.mem_flatten.mp hc
  obtain ⟨b, -, rfl⟩ := List.mem_map.mp hl
  have hb := b.toNat_lt
  simp only [List.mem_cons, List.not_mem_nil, or_false] at hcl
  rcases hcl with rfl | rfl
  · exact hdigit _ (by omega)
  · exact hdigit _ (by omega)

theorem fieldTexts_sample {s : HttpServerState} (hhost : s.hostinfo.hostname.length < 30) :
    FieldTexts (samplePlatform []) sampleHandshake sampleLocalIp sampleDate s where
  hex := printsHex_sample []
  keys := by
    intro pubKey pubKeySrv hkey
    obtain rfl : samplePubKey = pubKeySrv := Option.some.inj hkey
    decide +kernel
  callbacks :=
    ⟨fun _ _ _ => RespHeader.cleanType_err _, fun _ _ _ _ => RespHeader.cleanType_err _,
      fun _ _ _ => RespHeader.cleanType_err _⟩
  date := by decide +kernel
  localIp := by decide +kernel
  hostname := hhost

/-- A server that asks for the password, and one that asks for a session. -/
def authStart (authType : HttpServerAuthType) : HttpServerState :=
  httpServerSetAuth ⟨authType, some (ascii "admin"), some (ascii "secret"), none, none⟩
    (.start sampleHostinfo sampleRandom)

theorem header_block_well_formed_auth :
    HeaderWellFormed sampleHandshake (lanParam (sampleRequest "/auth") sampleIp) sampleLocalIp
      sampleDate (httpServerHandleReq (samplePlatform []) sampleHandshake
        (lanParam (sampleRequest "/auth") sampleIp) (authStart .basic)) := by
  have hserved := serve_lan (sampleRequest "/auth") (ascii "10.10.0.1") sampleLocalIp sampleIp
    (by decide +kernel) (by decide +kernel)
  refine (header_block_well_formed _ _ _ _ _ _ _ _ _ _ _ hserved
    (fieldTexts_sample (by decide))).mpr ⟨?_, fun _ => ?_⟩
  · intro hred
    have hname : pageName (lanParam (sampleRequest "/auth") sampleIp).reqInfo.path ∈
        [ascii "auth", ascii "ap.json", ascii "status.json"] := by
      decide +kernel
    exact hred.names hname
  · exact isFields_one (isField_mk (ascii "realm") (ascii "RuuviGateway") (by decide) (by decide)
      (by decide) (by decide))

/-- A page that is asked for without a session: the name of the page and the key of the server are
printed into one line. -/
theorem header_block_redirect :
    (httpServerHandleReq (samplePlatform []) sampleHandshake
        (lanParam (sampleRequest "/gateway") sampleIp) (authStart .ruuvi)).2.extraHeaderFields =
      ascii "Set-Cookie: RUUVI_PREV_URL=/gatewayRuuvi-Ecdh-Pub-Key: " ++ samplePubKey ++
        ascii "\r\n" ∧
    ¬ ∀ (plat : Platform) (out : Outcomes) (s : HttpServerState) (m apIp date : Bytes)
      (localIp remoteIp : CharBuf 17) (hostnameMem lanBlocked : Bool)
      (param : HttpServerHandleReqParam),
      httpServerNetconnServeHandleReq m localIp remoteIp apIp hostnameMem lanBlocked =
        .handleReq param → FieldTexts plat out localIp date s →
      HeaderWellFormed out param localIp date (httpServerHandleReq plat out param s) := by
  have htext : (httpServerHandleReq (samplePlatform []) sampleHandshake
        (lanParam (sampleRequest "/gateway") sampleIp) (authStart .ruuvi)).2.extraHeaderFields =
      ascii "Set-Cookie: RUUVI_PREV_URL=/gateway" ++
        (ecdhPubKeyField samplePubKey ++ ascii "\r\n") := by
    decide +kernel
  have hjoin : ascii "Set-Cookie: RUUVI_PREV_URL=/gateway" ++
        (ecdhPubKeyField samplePubKey ++ ascii "\r\n") =
      ascii "Set-Cookie: RUUVI_PREV_URL=/gatewayRuuvi-Ecdh-Pub-Key: " ++ samplePubKey ++
        ascii "\r\n" := by
    decide +kernel
  refine ⟨htext.trans hjoin, fun h => ?_⟩
  have hserved := serve_lan (sampleRequest "/gateway") (ascii "10.10.0.1") sampleLocalIp sampleIp
    (by decide +kernel) (by decide +kernel)
  have hkey := (h _ _ (authStart .ruuvi) _ _ _ _ _ _ _ _ hserved
    (fieldTexts_sample (by decide))).key samplePubKey (by decide +kernel)
  rw [htext] at hkey
  exact not_hasLine (by decide +kernel) (by decide +kernel) (by decide +kernel) (by decide +kernel)
    (by decide +kernel) hkey

end Auth
end Esp32WifiManager
