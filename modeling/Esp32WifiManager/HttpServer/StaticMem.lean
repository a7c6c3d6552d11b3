import Esp32WifiManager.HttpServer.HandleReq

/-!
# The static response buffers

Responses in static memory stand in `g_auth_json` or in `g_resp_status_json`
until they are sent. Here is which of the two a request fills, in which order
and with which text, and from which of them its response is sent.
-/

namespace Esp32WifiManager
namespace Auth

open CString HttpReq

/-- `g_auth_json` and `g_resp_status_json`. -/
inductive StaticBuf
  | authJson
  | statusJson
  deriving DecidableEq, Repr

/-- The texts that a request fills into the buffers, one after the other, and the buffer in which
its response stands. -/
structure StaticUse where
  fills : List (StaticBuf × Bytes)
  respBuf : Option StaticBuf
  deriving DecidableEq

namespace StaticUse

def nothing : StaticUse := ⟨[], none⟩

/-- The response is replaced by one that is in neither buffer. -/
def discard (use : StaticUse) : StaticUse := ⟨use.fills, none⟩

/-- The response is replaced by the one of `next`. -/
def before (use next : StaticUse) : StaticUse := ⟨use.fills ++ next.fills, next.respBuf⟩

end StaticUse

/-! ### What a request fills -/

/-- The responses of the authentication that are in static memory are made by
`http_server_fill_auth_json` right before they are returned. -/
def authUse (resp : HttpServerResp) : StaticUse :=
  if resp.contentLocation = .staticMem then ⟨[(.authJson, resp.content)], some .authJson⟩
  else .nothing

section Use

variable (plat : Platform) (out : Outcomes)

/-- `status.json` is generated into `g_resp_status_json`. -/
def httpServerHandleReqGetServeUse (fileName : Bytes) : StaticUse :=
  if fileName = ascii "ap.json" then .nothing
  else if fileName = ascii "status.json" then
    match out.statusJson with
    | none => .nothing
    | some json => ⟨[(.statusJson, json)], some .statusJson⟩
  else .nothing

def httpServerHandleReqGetUse (fileNameUnchecked : Bytes) (param : HttpServerHandleReqParam)
    (s : HttpServerState) : StaticUse :=
  let fileName := if fileNameUnchecked = [] then ascii "index.html" else fileNameUnchecked
  if fileName = ascii "auth" then
    authUse (httpServerHandleReqGetAuth plat out (param.authParam false) s).1
  else if fileNameNeedsAuth fileName then
    let authParam := param.authParam (fileName = ascii "ap.json")
    let (respAuthCheck, flagAccessByBearerToken, s) :=
      httpServerHandleReqCheckAuth plat out authParam (some false) s
    let authType := s.authInfo.authType
    if flagAccessByBearerToken = some false ∧ respAuthCheck.httpRespCode = .c401 ∧
        (authType = .ruuvi ∨ authType = .default) then (authUse respAuthCheck).discard
    else if respAuthCheck.httpRespCode ≠ .c200 then authUse respAuthCheck
    else (authUse respAuthCheck).before (httpServerHandleReqGetServeUse out fileName)
  else httpServerHandleReqGetServeUse out fileName

/-- After a logout the response is `{}`, which is in neither buffer. -/
def httpServerHandleReqDeleteServeUse (fileName : Bytes) (param : HttpServerHandleReqParam)
    (s : HttpServerState) : StaticUse :=
  if fileName = ascii "auth" then
    let resp := (httpServerHandleReqDeleteAuth plat param.reqInfo.httpHeader param.remoteIp s).1
    if resp.httpRespCode = .c200 then .nothing else authUse resp
  else .nothing

def httpServerHandleReqDeleteUse (fileName : Bytes) (param : HttpServerHandleReqParam)
    (s : HttpServerState) : StaticUse :=
  let (respAuthCheck, _, s) :=
    httpServerHandleReqCheckAuth plat out (param.authParam true) (some false) s
  if respAuthCheck.httpRespCode ≠ .c200 then authUse respAuthCheck
  else (authUse respAuthCheck).before (httpServerHandleReqDeleteServeUse plat fileName param s)

/-- `connect.json` and `connect_wps` are answered with `{}`. -/
def httpServerHandleReqPostUse (fileName : Bytes) (param : HttpServerHandleReqParam)
    (httpBody : Bytes) (s : HttpServerState) : StaticUse :=
  if fileName = ascii "auth" then
    authUse (httpServerHandleReqPostAuth plat out param.flagAccessFromLan param.reqInfo.httpHeader
      param.remoteIp httpBody s).1
  else
    let (respAuthCheck, _, _) :=
      httpServerHandleReqCheckAuth plat out (param.authParam true) (some false) s
    if respAuthCheck.httpRespCode ≠ .c200 then authUse respAuthCheck
    else (authUse respAuthCheck).discard

def httpServerHandleReqGetWithEcdhKeyUse (path : Bytes) (param : HttpServerHandleReqParam)
    (s : HttpServerState) : StaticUse :=
  let use := httpServerHandleReqGetUse plat out path param s
  let header := param.reqInfo.httpHeader
  match httpReqHeaderGetField header (ascii "Ruuvi-Ecdh-Pub-Key:") with
  | none => use
  | some field =>
    match httpServerHandleRuuviEcdhPubKey out (field.value header) with
    | none => use.discard
    | some _ => use

def httpServerHandleReqPostWithEcdhKeyUse (path : Bytes) (param : HttpServerHandleReqParam)
    (s : HttpServerState) : StaticUse :=
  match httpServerPostBody plat out param.reqInfo with
  | none => .nothing
  | some httpBody => httpServerHandleReqPostUse plat out path param httpBody s

def httpServerHandleReqUse (param : HttpServerHandleReqParam) (s : HttpServerState) : StaticUse :=
  let s := { s with extraHeaderFields := [] }
  let path := param.reqInfo.path
  if param.reqInfo.httpCmd = ascii "GET" then
    httpServerHandleReqGetWithEcdhKeyUse plat out path param s
  else if param.reqInfo.httpCmd = ascii "DELETE" then
    httpServerHandleReqDeleteUse plat out path param s
  else if param.reqInfo.httpCmd = ascii "POST" then
    httpServerHandleReqPostWithEcdhKeyUse plat out path param s
  else .nothing

end Use

/-! ### The response is what has been filled last -/

/-- The last text that is filled into the buffer. -/
def Supplied (fills : List (StaticBuf × Bytes)) (b : StaticBuf) (text : Bytes) : Prop :=
  ∃ earlier later, fills = earlier ++ (b, text) :: later ∧ ∀ f ∈ later, f.1 ≠ b

/-- Where the response stands in a buffer, its content has been filled there last. -/
def StaticUse.Tells (use : StaticUse) (resp : HttpServerResp) : Prop :=
  ∀ b ∈ use.respBuf, Supplied use.fills b resp.content

namespace StaticMem

variable {plat : Platform} {out : Outcomes} {resp : HttpServerResp} {use next : StaticUse}

theorem tells_nothing : StaticUse.nothing.Tells resp := by
  intro b hb
  simp [StaticUse.nothing] at hb

theorem tells_discard : use.discard.Tells resp := by
  intro b hb
  simp [StaticUse.discard] at hb

theorem tells_authUse (resp : HttpServerResp) : (authUse resp).Tells resp := by
  intro b hb
  unfold authUse at hb ⊢
  split_ifs at hb ⊢ with hloc
  · obtain rfl : StaticBuf.authJson = b := Option.some.inj hb
    exact ⟨[], [], rfl, by simp⟩
  · simp [StaticUse.nothing] at hb

/-- What has been filled before does not matter. -/
theorem tells_before (h : next.Tells resp) : (use.before next).Tells resp := by
  intro b hb
  obtain ⟨earlier, later, hfills, hlater⟩ := h b hb
  refine ⟨use.fills ++ earlier, later, ?_, hlater⟩
  rw [StaticUse.before, hfills, List.append_assoc]

theorem tells_getServe (fileName : Bytes) (param : HttpServerHandleReqParam) :
    (httpServerHandleReqGetServeUse out fileName).Tells
      (httpServerHandleReqGetServe out fileName param) := by
  unfold httpServerHandleReqGetServeUse httpServerHandleReqGetServe
  split_ifs with hap hstatus
  · exact tells_nothing
  · cases out.statusJson with
    | none => exact tells_nothing
    | some json =>
      intro b hb
      obtain rfl : StaticBuf.statusJson = b := Option.some.inj hb
      exact ⟨[], [], rfl, by simp⟩
  · exact tells_nothing

theorem tells_get (path : Bytes) (param : HttpServerHandleReqParam) (s : HttpServerState) :
    (httpServerHandleReqGetUse plat out path param s).Tells
      (httpServerHandleReqGet plat out path param s).1 := by
  unfold httpServerHandleReqGetUse httpServerHandleReqGet
  generalize (if path = [] then ascii "index.html" else path) = fileName
  simp only
  split_ifs with hauth hneeds hlogin hurl hcode
  · exact tells_authUse _
  · exact tells_discard
  · exact tells_discard
  · exact tells_authUse _
  · exact tells_before (tells_getServe _ _)
  · exact tells_getServe _ _

theorem tells_delete (path : Bytes) (param : HttpServerHandleReqParam) (s : HttpServerState) :
    (httpServerHandleReqDeleteUse plat out path param s).Tells
      (httpServerHandleReqDelete plat out path param s).1 := by
  unfold httpServerHandleReqDeleteUse httpServerHandleReqDelete
  simp only
  split_ifs with hcode
  · exact tells_authUse _
  · apply tells_before
    unfold httpServerHandleReqDeleteServeUse httpServerHandleReqDeleteServe
    simp only
    split_ifs
    · exact tells_nothing
    · exact tells_authUse _
    · exact tells_nothing
    · exact tells_nothing
    · exact tells_nothing

theorem tells_post (path httpBody : Bytes) (param : HttpServerHandleReqParam)
    (s : HttpServerState) :
    (httpServerHandleReqPostUse plat out path param httpBody s).Tells
      (httpServerHandleReqPost plat out path param httpBody s).1 := by
  unfold httpServerHandleReqPostUse httpServerHandleReqPost
  simp only
  split_ifs with hauth hcode
  · exact tells_authUse _
  · exact tells_authUse _
  · exact tells_discard

theorem tells_getWithEcdhKey (path : Bytes) (param : HttpServerHandleReqParam)
    (s : HttpServerState) :
    (httpServerHandleReqGetWithEcdhKeyUse plat out path param s).Tells
      (httpServerHandleReqGetWithEcdhKey plat out path param s).1 := by
  unfold httpServerHandleReqGetWithEcdhKeyUse httpServerHandleReqGetWithEcdhKey
  cases hfield : httpReqHeaderGetField param.reqInfo.httpHeader (ascii "Ruuvi-Ecdh-Pub-Key:") with
  | none =>
    simp only [hfield]
    exact tells_get _ _ _
  | some field =>
    cases hkey : httpServerHandleRuuviEcdhPubKey out (field.value param.reqInfo.httpHeader) with
    | none =>
      simp only [hfield, hkey]
      exact tells_discard
    | some pubKeySrv =>
      simp only [hfield, hkey]
      exact tells_get _ _ _

theorem tells_postWithEcdhKey (path : Bytes) (param : HttpServerHandleReqParam)
    (s : HttpServerState) :
    (httpServerHandleReqPostWithEcdhKeyUse plat out path param s).Tells
      (httpServerHandleReqPostWithEcdhKey plat out path param s).1 := by
  unfold httpServerHandleReqPostWithEcdhKeyUse httpServerHandleReqPostWithEcdhKey
  cases hbody : httpServerPostBody plat out param.reqInfo with
  | none => exact tells_nothing
  | some httpBody => exact tells_post _ _ _ _

/-- The response of a request that is in a static buffer is what has been filled there last. -/
theorem tells_handleReq (param : HttpServerHandleReqParam) (s : HttpServerState) :
    (httpServerHandleReqUse plat out param s).Tells (httpServerHandleReq plat out param s).1 := by
  unfold httpServerHandleReqUse httpServerHandleReq
  simp only
  split_ifs with hget hdelete hpost
  · exact tells_getWithEcdhKey _ _ _
  · exact tells_delete _ _ _
  · exact tells_postWithEcdhKey _ _ _
  · exact tells_nothing

end StaticMem

end Auth
end Esp32WifiManager
