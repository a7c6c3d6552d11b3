import Esp32WifiManager.HttpServer.HandleReq

/-!
# The firmware versions

Two servers that differ in the versions of their firmware only handle a request
alike: the versions are shown in responses with code 200 and nowhere else.
-/

namespace Esp32WifiManager
namespace Auth

open CString HttpReq

/-- The same server with other firmware versions. -/
def HttpServerState.setVersions (fwVer nrf52FwVer : Bytes) (s : HttpServerState) :
    HttpServerState :=
  { s with hostinfo := ⟨s.hostinfo.hostname, fwVer, nrf52FwVer⟩ }

/-- The second result is that of the server with other versions: the same code and the same next
state, and the same response unless it is a success. -/
structure HidesVersions (fwVer nrf52FwVer : Bytes) (r r' : HttpServerResp × HttpServerState) :
    Prop where
  code : r'.1.httpRespCode = r.1.httpRespCode
  state : r'.2 = r.2.setVersions fwVer nrf52FwVer
  resp : r.1.httpRespCode ≠ .c200 → r'.1 = r.1

namespace HttpServerState

variable (fwVer nrf52FwVer : Bytes) (s : HttpServerState)

@[simp] theorem setVersions_authInfo : (s.setVersions fwVer nrf52FwVer).authInfo = s.authInfo := rfl

@[simp] theorem setVersions_ruuvi : (s.setVersions fwVer nrf52FwVer).ruuvi = s.ruuvi := rfl

end HttpServerState

namespace VersionInfo

variable {fwVer nrf52FwVer : Bytes} {plat : Platform} {out : Outcomes} {s : HttpServerState}

section Rules

variable {resp resp' : HttpServerResp} {p q p' q' : HttpServerResp × HttpServerState}

theorem hides_same : HidesVersions fwVer nrf52FwVer (resp, s) (resp, s.setVersions fwVer nrf52FwVer) :=
  ⟨rfl, rfl, fun _ => rfl⟩

theorem hides_success {json json' : Bytes} :
    HidesVersions fwVer nrf52FwVer (httpServerResp200Json json, s)
      (httpServerResp200Json json', s.setVersions fwVer nrf52FwVer) :=
  ⟨rfl, rfl, fun h => absurd rfl h⟩

theorem hides_ite {c : Prop} [Decidable c] (hp : c → HidesVersions fwVer nrf52FwVer p p')
    (hq : ¬ c → HidesVersions fwVer nrf52FwVer q q') :
    HidesVersions fwVer nrf52FwVer (if c then p else q) (if c then p' else q') := by
  split_ifs with h
  · exact hp h
  · exact hq h

end Rules

/-- Without `flag_expose_ver_info` the versions are not read. -/
theorem fillAuthJson_setVersions (lanAuthType : HttpServerAuthType) (flagAccessFromLan : Bool)
    (errMessage : Option Bytes) :
    httpServerFillAuthJson plat (s.setVersions fwVer nrf52FwVer).hostinfo lanAuthType
        flagAccessFromLan errMessage false =
      httpServerFillAuthJson plat s.hostinfo lanAuthType flagAccessFromLan errMessage false := rfl

/-! ### Responses -/

theorem resp401AuthBasic_hides : HidesVersions fwVer nrf52FwVer (httpServerResp401AuthBasic plat s)
    (httpServerResp401AuthBasic plat (s.setVersions fwVer nrf52FwVer)) :=
  ⟨rfl, rfl, fun _ => rfl⟩

theorem resp401AuthDigest_hides :
    HidesVersions fwVer nrf52FwVer (httpServerResp401AuthDigest plat out s)
      (httpServerResp401AuthDigest plat out (s.setVersions fwVer nrf52FwVer)) :=
  hides_ite (fun _ => hides_same) fun _ => ⟨rfl, rfl, fun _ => rfl⟩

theorem resp401AuthRuuvi_hides (lanAuthType : HttpServerAuthType) :
    HidesVersions fwVer nrf52FwVer (httpServerResp401AuthRuuvi plat lanAuthType s, s)
      (httpServerResp401AuthRuuvi plat lanAuthType (s.setVersions fwVer nrf52FwVer),
        s.setVersions fwVer nrf52FwVer) :=
  ⟨rfl, rfl, fun _ => rfl⟩

theorem loginSessionInit_setVersions (remoteIp : CharBuf 17) :
    httpServerLoginSessionInit plat out remoteIp (s.setVersions fwVer nrf52FwVer) =
      (httpServerLoginSessionInit plat out remoteIp s).setVersions fwVer nrf52FwVer := rfl

theorem resp401WithNewSessionId_hides (remoteIp : CharBuf 17) (lanAuthType : HttpServerAuthType)
    (errMessage : Option Bytes) :
    HidesVersions fwVer nrf52FwVer
      (httpServerResp401AuthRuuviWithNewSessionId plat out remoteIp lanAuthType errMessage s)
      (httpServerResp401AuthRuuviWithNewSessionId plat out remoteIp lanAuthType errMessage
        (s.setVersions fwVer nrf52FwVer)) := by
  unfold httpServerResp401AuthRuuviWithNewSessionId
  rw [loginSessionInit_setVersions]
  generalize httpServerLoginSessionInit plat out remoteIp s = t
  exact hides_ite (fun _ => hides_same) fun _ => ⟨rfl, rfl, fun _ => rfl⟩

theorem resp200AuthAllow_hides (remoteIp : CharBuf 17) :
    HidesVersions fwVer nrf52FwVer (httpServerResp200AuthAllowWithNewSessionId plat out remoteIp s)
      (httpServerResp200AuthAllowWithNewSessionId plat out remoteIp
        (s.setVersions fwVer nrf52FwVer)) := by
  unfold httpServerResp200AuthAllowWithNewSessionId
  rw [loginSessionInit_setVersions]
  generalize httpServerLoginSessionInit plat out remoteIp s = t
  exact hides_ite (fun _ => hides_same) fun _ => hides_success

/-! ### The authentication check -/

section Check

variable (param : HttpServerHandleReqAuthParam)

theorem getAuthBasic_hides : HidesVersions fwVer nrf52FwVer
    (httpServerHandleReqGetAuthBasic plat param s)
    (httpServerHandleReqGetAuthBasic plat param (s.setVersions fwVer nrf52FwVer)) := by
  unfold httpServerHandleReqGetAuthBasic
  cases httpReqHeaderGetField param.httpHeader (ascii "Authorization:") with
  | none => exact resp401AuthBasic_hides
  | some field =>
    refine hides_ite (fun _ => resp401AuthBasic_hides) fun _ => ?_
    refine hides_ite (fun _ => resp401AuthBasic_hides) fun _ => ?_
    exact hides_ite (fun _ => resp401AuthBasic_hides) fun _ => hides_success

theorem getAuthDigest_hides : HidesVersions fwVer nrf52FwVer
    (httpServerHandleReqGetAuthDigest plat out param s)
    (httpServerHandleReqGetAuthDigest plat out param (s.setVersions fwVer nrf52FwVer)) := by
  unfold httpServerHandleReqGetAuthDigest
  cases httpReqHeaderGetField param.httpHeader (ascii "Authorization:") with
  | none => exact resp401AuthDigest_hides
  | some field =>
    refine hides_ite (fun _ => resp401AuthDigest_hides) fun _ => ?_
    refine hides_ite (fun _ => resp401AuthDigest_hides) fun _ => ?_
    refine hides_ite (fun _ => hides_same) fun _ => ?_
    refine hides_ite (fun _ => hides_same) fun _ => ?_
    exact hides_ite (fun _ => resp401AuthDigest_hides) fun _ => hides_success

theorem getAuthRuuvi_hides (flagCheck : Bool) (authType : HttpServerAuthType) :
    HidesVersions fwVer nrf52FwVer
      (httpServerHandleReqGetAuthRuuvi plat out param flagCheck authType s)
      (httpServerHandleReqGetAuthRuuvi plat out param flagCheck authType
        (s.setVersions fwVer nrf52FwVer)) := by
  unfold httpServerHandleReqGetAuthRuuvi
  refine hides_ite (fun _ => hides_success) fun _ => ?_
  rcases httpServerAuthRuuviGetSessionIdFromCookies param.httpHeader with ⟨_ | _, sessionId⟩
  · refine hides_ite (fun _ => resp200AuthAllow_hides _) fun _ => ?_
    exact hides_ite (fun _ => resp401AuthRuuvi_hides _) fun _ => resp401WithNewSessionId_hides _ _ _
  · simp only [HttpServerState.setVersions_ruuvi]
    cases httpServerAuthRuuviFindAuthorizedSession sessionId param.remoteIp s.ruuvi with
    | none =>
      refine hides_ite (fun _ => resp401AuthRuuvi_hides _) fun _ => ?_
      exact hides_ite (fun _ => resp200AuthAllow_hides _) fun _ => resp401WithNewSessionId_hides _ _ _
    | some i => exact hides_success

theorem authByType_hides (flagCheck : Bool) : HidesVersions fwVer nrf52FwVer
    (httpServerHandleReqAuthByType plat out param flagCheck s)
    (httpServerHandleReqAuthByType plat out param flagCheck (s.setVersions fwVer nrf52FwVer)) := by
  unfold httpServerHandleReqAuthByType
  simp only [HttpServerState.setVersions_authInfo]
  cases s.authInfo.authType with
  | allow => exact getAuthRuuvi_hides param _ _
  | basic => exact getAuthBasic_hides param
  | digest => exact getAuthDigest_hides param
  | ruuvi => exact getAuthRuuvi_hides param _ _
  | deny => exact ⟨rfl, rfl, fun _ => rfl⟩
  | default => exact getAuthRuuvi_hides param _ _
  | bearer => exact hides_same

/-- As `HidesVersions`, for a check that also reports whether a token was used. -/
structure HidesVersionsCheck (fwVer nrf52FwVer : Bytes)
    (r r' : HttpServerResp × Option Bool × HttpServerState) : Prop where
  flag : r'.2.1 = r.2.1
  hides : HidesVersions fwVer nrf52FwVer (r.1, r.2.2) (r'.1, r'.2.2)

theorem getOrCheckAuth_hides (flagCheck : Bool) (flag : Option Bool) :
    HidesVersionsCheck fwVer nrf52FwVer
      (httpServerHandleReqGetOrCheckAuth plat out param flagCheck flag s)
      (httpServerHandleReqGetOrCheckAuth plat out param flagCheck flag
        (s.setVersions fwVer nrf52FwVer)) := by
  unfold httpServerHandleReqGetOrCheckAuth
  cases flag with
  | none => exact ⟨rfl, authByType_hides param flagCheck⟩
  | some _ =>
    simp only [HttpServerState.setVersions_authInfo]
    cases httpServerHandleReqCheckAuthBearer param.httpHeader
      param.flagCheckRwAccessWithBearerToken s.authInfo with
    | notUsed => exact ⟨rfl, authByType_hides param flagCheck⟩
    | allowed => exact ⟨rfl, hides_success⟩
    | prohibited => exact ⟨rfl, rfl, rfl, fun _ => rfl⟩

theorem checkAuth_hides (flag : Option Bool) : HidesVersionsCheck fwVer nrf52FwVer
    (httpServerHandleReqCheckAuth plat out param flag s)
    (httpServerHandleReqCheckAuth plat out param flag (s.setVersions fwVer nrf52FwVer)) := by
  unfold httpServerHandleReqCheckAuth
  cases hlan : param.flagAccessFromLan with
  | false => exact ⟨rfl, hides_success⟩
  | true => exact getOrCheckAuth_hides param true flag

theorem getAuth_hides : HidesVersions fwVer nrf52FwVer (httpServerHandleReqGetAuth plat out param s)
    (httpServerHandleReqGetAuth plat out param (s.setVersions fwVer nrf52FwVer)) := by
  unfold httpServerHandleReqGetAuth
  cases hlan : param.flagAccessFromLan with
  | false => exact hides_success
  | true => exact (getOrCheckAuth_hides param false none).hides

end Check

/-! ### Login and logout -/

theorem postAuthCheckAuth_hides (authType : HttpServerAuthType) (remoteIp : CharBuf 17)
    (httpBody : Bytes) : HidesVersions fwVer nrf52FwVer
      (httpServerHandleReqPostAuthCheckAuth plat out authType remoteIp httpBody s)
      (httpServerHandleReqPostAuthCheckAuth plat out authType remoteIp httpBody
        (s.setVersions fwVer nrf52FwVer)) := by
  unfold httpServerHandleReqPostAuthCheckAuth
  dsimp only
  cases jsonRuuviAuthParseHttpBody plat out httpBody with
  | none => exact resp401WithNewSessionId_hides _ _ _
  | some authReq =>
    refine hides_ite (fun _ => resp401WithNewSessionId_hides _ _ _) fun _ => ?_
    refine hides_ite (fun _ => resp401WithNewSessionId_hides _ _ _) fun _ => ?_
    refine hides_ite (fun _ => hides_same) fun _ => ?_
    simp only [HttpServerState.setVersions_authInfo, HttpServerState.setVersions_ruuvi]
    cases httpServerAuthRuuviGenHashedPassword plat out s.ruuvi.loginSession.challenge.str
      s.authInfo.authPass with
    | none => exact resp401WithNewSessionId_hides _ _ _
    | some hash =>
      exact hides_ite (fun _ => resp401WithNewSessionId_hides _ _ _) fun _ => hides_success

theorem postAuth_hides (flagAccessFromLan : Bool) (httpHeader : Bytes) (remoteIp : CharBuf 17)
    (httpBody : Bytes) : HidesVersions fwVer nrf52FwVer
      (httpServerHandleReqPostAuth plat out flagAccessFromLan httpHeader remoteIp httpBody s)
      (httpServerHandleReqPostAuth plat out flagAccessFromLan httpHeader remoteIp httpBody
        (s.setVersions fwVer nrf52FwVer)) := by
  unfold httpServerHandleReqPostAuth
  refine hides_ite (fun _ => hides_success) fun _ => ?_
  refine hides_ite (fun _ => hides_same) fun _ => ?_
  rcases httpServerAuthRuuviGetSessionIdFromCookies httpHeader with ⟨_ | _, sessionId⟩
  · exact resp401WithNewSessionId_hides _ _ _
  · unfold httpServerHandleReqPostAuthCheckLoginSession
    have hruuvi : (s.setVersions fwVer nrf52FwVer).ruuvi = s.ruuvi := rfl
    have hinfo : (s.setVersions fwVer nrf52FwVer).authInfo = s.authInfo := rfl
    dsimp only
    rw [hruuvi, hinfo]
    by_cases hmatches : s.ruuvi.loginSession.matches sessionId remoteIp = true
    · rw [if_pos hmatches, if_pos hmatches]
      refine hides_ite (fun _ => hides_same) fun _ => ?_
      have hchecked := @postAuthCheckAuth_hides fwVer nrf52FwVer plat out s s.authInfo.authType
        remoteIp httpBody
      rw [hchecked.code, hchecked.state]
      refine hides_ite (fun _ => hchecked) fun _ => ?_
      split_ifs
      · exact hides_success
      · exact hides_success
    · rw [if_neg hmatches, if_neg hmatches]
      exact resp401WithNewSessionId_hides _ _ _

theorem deleteAuth_hides (httpHeader : Bytes) (remoteIp : CharBuf 17) :
    HidesVersions fwVer nrf52FwVer (httpServerHandleReqDeleteAuth plat httpHeader remoteIp s)
      (httpServerHandleReqDeleteAuth plat httpHeader remoteIp (s.setVersions fwVer nrf52FwVer)) := by
  unfold httpServerHandleReqDeleteAuth
  refine hides_ite (fun _ => hides_same) fun _ => ?_
  rcases httpServerAuthRuuviGetSessionIdFromCookies httpHeader with ⟨_ | _, sessionId⟩
  · exact resp401AuthRuuvi_hides _
  · simp only [HttpServerState.setVersions_ruuvi]
    cases httpServerAuthRuuviFindAuthorizedSession sessionId remoteIp s.ruuvi with
    | none => exact resp401AuthRuuvi_hides _
    | some i => exact hides_success

/-! ### The three methods -/

section Methods

variable (param : HttpServerHandleReqParam)

theorem httpServerHandleReqGet_hides (fileNameUnchecked : Bytes) :
    HidesVersions fwVer nrf52FwVer (httpServerHandleReqGet plat out fileNameUnchecked param s)
      (httpServerHandleReqGet plat out fileNameUnchecked param
        (s.setVersions fwVer nrf52FwVer)) := by
  unfold httpServerHandleReqGet
  generalize (if fileNameUnchecked = [] then ascii "index.html" else fileNameUnchecked) = fileName
  refine hides_ite (fun _ => getAuth_hides _) fun _ => ?_
  refine hides_ite (fun _ => ?_) fun _ => hides_same
  obtain ⟨hflag, hcheck⟩ := @checkAuth_hides fwVer nrf52FwVer plat out s
    (param.authParam (fileName = ascii "ap.json")) (some false)
  have hinfo (t : HttpServerState) : (t.setVersions fwVer nrf52FwVer).authInfo = t.authInfo := rfl
  dsimp only
  rw [hflag, hcheck.code, hcheck.state]
  dsimp only
  rw [hinfo]
  refine hides_ite (fun _ => hides_ite (fun _ => hides_same) fun _ => hides_same) fun _ => ?_
  exact hides_ite (fun _ => ⟨hcheck.code, rfl, hcheck.resp⟩) fun _ => hides_same

theorem httpServerHandleReqDelete_hides (fileName : Bytes) :
    HidesVersions fwVer nrf52FwVer (httpServerHandleReqDelete plat out fileName param s)
      (httpServerHandleReqDelete plat out fileName param (s.setVersions fwVer nrf52FwVer)) := by
  unfold httpServerHandleReqDelete
  obtain ⟨-, hcheck⟩ := @checkAuth_hides fwVer nrf52FwVer plat out s (param.authParam true)
    (some false)
  dsimp only
  rw [hcheck.code, hcheck.state]
  refine hides_ite (fun _ => ⟨hcheck.code, rfl, hcheck.resp⟩) fun _ => ?_
  unfold httpServerHandleReqDeleteServe
  refine hides_ite (fun _ => deleteAuth_hides _ _) fun _ => ?_
  exact hides_ite (fun _ => hides_ite (fun _ => hides_same) fun _ => hides_same) fun _ => hides_same

theorem httpServerHandleReqPost_hides (fileName httpBody : Bytes) :
    HidesVersions fwVer nrf52FwVer (httpServerHandleReqPost plat out fileName param httpBody s)
      (httpServerHandleReqPost plat out fileName param httpBody
        (s.setVersions fwVer nrf52FwVer)) := by
  unfold httpServerHandleReqPost
  refine hides_ite (fun _ => postAuth_hides _ _ _ _) fun _ => ?_
  obtain ⟨-, hcheck⟩ := @checkAuth_hides fwVer nrf52FwVer plat out s (param.authParam true)
    (some false)
  dsimp only
  rw [hcheck.code, hcheck.state]
  exact hides_ite (fun _ => ⟨hcheck.code, rfl, hcheck.resp⟩) fun _ => hides_same

theorem getWithEcdhKey_hides (path : Bytes) :
    HidesVersions fwVer nrf52FwVer (httpServerHandleReqGetWithEcdhKey plat out path param s)
      (httpServerHandleReqGetWithEcdhKey plat out path param (s.setVersions fwVer nrf52FwVer)) := by
  unfold httpServerHandleReqGetWithEcdhKey
  have hget := @httpServerHandleReqGet_hides fwVer nrf52FwVer plat out s param path
  dsimp only
  rw [hget.state]
  cases httpReqHeaderGetField param.reqInfo.httpHeader (ascii "Ruuvi-Ecdh-Pub-Key:") with
  | none => exact ⟨hget.code, rfl, hget.resp⟩
  | some field =>
    dsimp only
    cases httpServerHandleRuuviEcdhPubKey out (field.value param.reqInfo.httpHeader) with
    | none => exact hides_same
    | some pubKeySrv => exact ⟨hget.code, rfl, hget.resp⟩

theorem postWithEcdhKey_hides (path : Bytes) :
    HidesVersions fwVer nrf52FwVer (httpServerHandleReqPostWithEcdhKey plat out path param s)
      (httpServerHandleReqPostWithEcdhKey plat out path param (s.setVersions fwVer nrf52FwVer)) := by
  unfold httpServerHandleReqPostWithEcdhKey
  cases httpServerPostBody plat out param.reqInfo with
  | none => exact hides_same
  | some httpBody => exact httpServerHandleReqPost_hides param path httpBody

end Methods

end VersionInfo

/-- Whatever the request, the versions of the firmware show in the body of a success only. -/
theorem versions_hidden (plat : Platform) (out : Outcomes) (param : HttpServerHandleReqParam)
    (fwVer nrf52FwVer : Bytes) (s : HttpServerState) :
    HidesVersions fwVer nrf52FwVer (httpServerHandleReq plat out param s)
      (httpServerHandleReq plat out param (s.setVersions fwVer nrf52FwVer)) := by
  unfold httpServerHandleReq
  refine VersionInfo.hides_ite
    (fun _ => VersionInfo.getWithEcdhKey_hides (s := { s with extraHeaderFields := [] }) _ _)
    fun _ => ?_
  refine VersionInfo.hides_ite
    (fun _ => VersionInfo.httpServerHandleReqDelete_hides (s := { s with extraHeaderFields := [] }) _ _)
    fun _ => ?_
  exact VersionInfo.hides_ite
    (fun _ => VersionInfo.postWithEcdhKey_hides (s := { s with extraHeaderFields := [] }) _ _)
    fun _ => VersionInfo.hides_same

end Auth
end Esp32WifiManager
