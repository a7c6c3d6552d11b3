import Esp32WifiManager.HttpServer.HandleReq

/-!
# The responses of the authentication

The handlers of the authentication answer without content or with JSON in static
memory. What holds of such responses holds of all of theirs.
-/

namespace Esp32WifiManager
namespace Auth

open CString HttpReq

/-- `P` holds of the responses without content and of those with JSON in static memory. -/
structure HoldsOfStatic (P : HttpServerResp → Prop) : Prop where
  err : ∀ code, P (httpServerRespErr code)
  json : ∀ code json, P (httpServerRespErrJsonInStaticMem code json)

namespace HoldsOfStatic

variable {P : HttpServerResp → Prop} (h : HoldsOfStatic P) {plat : Platform} {out : Outcomes}
  {s : HttpServerState}

theorem ite_prop {c : Prop} [Decidable c] {p q : HttpServerResp × HttpServerState}
    (hp : P p.1) (hq : P q.1) : P (if c then p else q).1 := by
  split_ifs
  · exact hp
  · exact hq

include h

theorem ok (json : Bytes) : P (httpServerResp200Json json) := h.json .c200 json

theorem resp401WithNewSessionId (remoteIp : CharBuf 17) (lanAuthType : HttpServerAuthType)
    (errMessage : Option Bytes) : P
      (httpServerResp401AuthRuuviWithNewSessionId plat out remoteIp lanAuthType errMessage s).1 := by
  unfold httpServerResp401AuthRuuviWithNewSessionId
  generalize httpServerLoginSessionInit plat out remoteIp s = t
  exact ite_prop (h.err _) (h.json _ _)

theorem resp200AuthAllow (remoteIp : CharBuf 17) :
    P (httpServerResp200AuthAllowWithNewSessionId plat out remoteIp s).1 := by
  unfold httpServerResp200AuthAllowWithNewSessionId
  generalize httpServerLoginSessionInit plat out remoteIp s = t
  exact ite_prop (h.err _) (h.ok _)

theorem resp401AuthDigest : P (httpServerResp401AuthDigest plat out s).1 := by
  unfold httpServerResp401AuthDigest
  exact ite_prop (h.err _) (h.json _ _)

theorem getAuthBasic (param : HttpServerHandleReqAuthParam) :
    P (httpServerHandleReqGetAuthBasic plat param s).1 := by
  unfold httpServerHandleReqGetAuthBasic
  cases httpReqHeaderGetField param.httpHeader (ascii "Authorization:") with
  | none => exact h.json _ _
  | some field =>
    refine ite_prop (h.json _ _) ?_
    refine ite_prop (h.json _ _) ?_
    exact ite_prop (h.json _ _) (h.ok _)

theorem getAuthDigest (param : HttpServerHandleReqAuthParam) :
    P (httpServerHandleReqGetAuthDigest plat out param s).1 := by
  unfold httpServerHandleReqGetAuthDigest
  cases httpReqHeaderGetField param.httpHeader (ascii "Authorization:") with
  | none => exact h.resp401AuthDigest
  | some field =>
    refine ite_prop h.resp401AuthDigest ?_
    refine ite_prop h.resp401AuthDigest ?_
    refine ite_prop (h.err _) ?_
    refine ite_prop (h.err _) ?_
    exact ite_prop h.resp401AuthDigest (h.ok _)

theorem getAuthRuuvi (param : HttpServerHandleReqAuthParam) (flagCheck : Bool)
    (authType : HttpServerAuthType) :
    P (httpServerHandleReqGetAuthRuuvi plat out param flagCheck authType s).1 := by
  have hnew : P (httpServerResp401AuthRuuviWithNewSessionId plat out param.remoteIp authType
      none s).1 := h.resp401WithNewSessionId _ _ _
  unfold httpServerHandleReqGetAuthRuuvi
  refine ite_prop (h.ok _) ?_
  rcases httpServerAuthRuuviGetSessionIdFromCookies param.httpHeader with ⟨_ | _, sessionId⟩
  · refine ite_prop (h.resp200AuthAllow _) ?_
    exact ite_prop (h.json _ _) hnew
  · dsimp only
    cases httpServerAuthRuuviFindAuthorizedSession sessionId param.remoteIp s.ruuvi with
    | none =>
      refine ite_prop (h.json _ _) ?_
      exact ite_prop (h.resp200AuthAllow _) hnew
    | some _ => exact h.ok _

theorem authByType (param : HttpServerHandleReqAuthParam) (flagCheck : Bool) :
    P (httpServerHandleReqAuthByType plat out param flagCheck s).1 := by
  unfold httpServerHandleReqAuthByType
  cases s.authInfo.authType with
  | basic => exact h.getAuthBasic param
  | digest => exact h.getAuthDigest param
  | allow | ruuvi | default => exact h.getAuthRuuvi param flagCheck _
  | deny => exact h.json _ _
  | bearer => exact h.err _

theorem getOrCheckAuth (param : HttpServerHandleReqAuthParam) (flagCheck : Bool)
    (flag : Option Bool) :
    P (httpServerHandleReqGetOrCheckAuth plat out param flagCheck flag s).1 := by
  unfold httpServerHandleReqGetOrCheckAuth
  cases flag with
  | none => exact h.authByType param flagCheck
  | some _ =>
    dsimp only
    cases httpServerHandleReqCheckAuthBearer param.httpHeader
      param.flagCheckRwAccessWithBearerToken s.authInfo with
    | notUsed => exact h.authByType param flagCheck
    | allowed => exact h.ok _
    | prohibited => exact h.json _ _

theorem checkAuth (param : HttpServerHandleReqAuthParam) (flag : Option Bool) :
    P (httpServerHandleReqCheckAuth plat out param flag s).1 := by
  unfold httpServerHandleReqCheckAuth
  split_ifs
  · exact h.ok _
  · exact h.getOrCheckAuth _ _ _

theorem getAuth (param : HttpServerHandleReqAuthParam) :
    P (httpServerHandleReqGetAuth plat out param s).1 := by
  unfold httpServerHandleReqGetAuth
  exact ite_prop (h.ok _) (h.getOrCheckAuth _ _ _)

theorem postAuthCheckAuth (authType : HttpServerAuthType) (remoteIp : CharBuf 17)
    (httpBody : Bytes) :
    P (httpServerHandleReqPostAuthCheckAuth plat out authType remoteIp httpBody s).1 := by
  have hnew (errMessage : Option Bytes) : P (httpServerResp401AuthRuuviWithNewSessionId plat
      out remoteIp authType errMessage s).1 := h.resp401WithNewSessionId _ _ _
  unfold httpServerHandleReqPostAuthCheckAuth
  dsimp only
  cases jsonRuuviAuthParseHttpBody plat out httpBody with
  | none => exact hnew _
  | some authReq =>
    refine ite_prop (hnew _) ?_
    refine ite_prop (hnew _) ?_
    refine ite_prop (h.err _) ?_
    cases httpServerAuthRuuviGenHashedPassword plat out s.ruuvi.loginSession.challenge.str
      s.authInfo.authPass with
    | none => exact hnew _
    | some hash => exact ite_prop (hnew _) (h.ok _)

theorem postAuth (flagAccessFromLan : Bool) (httpHeader : Bytes) (remoteIp : CharBuf 17)
    (httpBody : Bytes) : P (httpServerHandleReqPostAuth plat out flagAccessFromLan
      httpHeader remoteIp httpBody s).1 := by
  have hnew (errMessage : Option Bytes) : P (httpServerResp401AuthRuuviWithNewSessionId plat
      out remoteIp s.authInfo.authType errMessage s).1 := h.resp401WithNewSessionId _ _ _
  unfold httpServerHandleReqPostAuth
  refine ite_prop (h.ok _) ?_
  refine ite_prop (h.err _) ?_
  rcases httpServerAuthRuuviGetSessionIdFromCookies httpHeader with ⟨_ | _, sessionId⟩
  · exact hnew _
  · unfold httpServerHandleReqPostAuthCheckLoginSession
    dsimp only
    by_cases hmatches : s.ruuvi.loginSession.matches sessionId remoteIp = true
    · rw [if_pos hmatches]
      refine ite_prop (h.err _) ?_
      exact ite_prop (h.postAuthCheckAuth _ _ _) (h.ok _)
    · rw [if_neg hmatches]
      exact hnew _

theorem deleteAuth (httpHeader : Bytes) (remoteIp : CharBuf 17) :
    P (httpServerHandleReqDeleteAuth plat httpHeader remoteIp s).1 := by
  unfold httpServerHandleReqDeleteAuth
  refine ite_prop (h.err _) ?_
  rcases httpServerAuthRuuviGetSessionIdFromCookies httpHeader with ⟨_ | _, sessionId⟩
  · exact h.json _ _
  · dsimp only
    cases httpServerAuthRuuviFindAuthorizedSession sessionId remoteIp s.ruuvi with
    | none => exact h.json _ _
    | some i => exact h.ok _

end HoldsOfStatic

end Auth
end Esp32WifiManager
