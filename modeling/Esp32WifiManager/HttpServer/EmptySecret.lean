import Esp32WifiManager.HttpServer.BearerLaw

/-!
# Comparisons with an empty secret

A bearer token is never compared with an empty key. The password is: with an
empty one the comparisons of `BASIC`, `DIGEST` and the login succeed for whoever
sends what belongs to the empty password.
-/

namespace Esp32WifiManager
namespace Auth

open CString HttpReq

section Proofs

variable (plat : Platform) (out : Outcomes)

/-- The header has all directives, the user is the configured one, and the response is the one that
belongs to `password`. -/
def DigestOver (header password : Bytes) (s : HttpServerState) : Prop :=
  ∃ field, httpReqHeaderGetField header (ascii "Authorization:") = some field ∧
    ∃ authReq, httpServerParseDigestAuthorizationStr (header.drop field.ptr) field.len
        s.auth.digest = (true, authReq) ∧
      authReq.username.str = s.authInfo.authUser ∧ out.ha2Str = true ∧ out.responseStr = true ∧
      authReq.response.str = (httpServerDigestResponse plat out authReq password).str

/-- The body has the configured user, which is not empty, and the hash of the pending challenge with
`password`. -/
def LoginOver (httpBody password : Bytes) (s : HttpServerState) : Prop :=
  ∃ authReq, jsonRuuviAuthParseHttpBody plat out httpBody = some authReq ∧
    authReq.username ≠ [] ∧ authReq.username = s.authInfo.authUser ∧
    out.callocPasswordHash = true ∧ out.hashedPassword = true ∧
    authReq.password = (hashedPassword plat s.ruuvi.loginSession.challenge.str password).str

end Proofs

namespace EmptySecret

variable {plat : Platform} {out : Outcomes} {s : HttpServerState}

theorem resp401AuthDigest_code : (httpServerResp401AuthDigest plat out s).1.httpRespCode ≠ .c200 := by
  unfold httpServerResp401AuthDigest
  dsimp only
  split_ifs
  · exact nofun
  · exact nofun

/-- `DIGEST` grants access to the response that belongs to the configured password. -/
theorem getAuthDigest_iff {param : HttpServerHandleReqAuthParam} :
    (httpServerHandleReqGetAuthDigest plat out param s).1.httpRespCode = .c200 ↔
      DigestOver plat out param.httpHeader s.authInfo.authPass s := by
  unfold httpServerHandleReqGetAuthDigest DigestOver
  split
  · rename_i hnone
    refine iff_of_false resp401AuthDigest_code ?_
    rintro ⟨field, hfield, -⟩
    rw [hnone] at hfield
    cases hfield
  · rename_i field hfield
    rcases hparsed : httpServerParseDigestAuthorizationStr (param.httpHeader.drop field.ptr)
      field.len s.auth.digest with ⟨ok, authReq⟩
    dsimp only
    constructor
    · intro h
      split_ifs at h with hok huser hha2 hresponse hdigest
      · exact absurd h resp401AuthDigest_code
      · exact absurd h resp401AuthDigest_code
      · cases h
      · cases h
      · exact absurd h resp401AuthDigest_code
      · obtain rfl : ok = true := by simpa using hok
        refine ⟨field, hfield, authReq, hparsed, not_not.mp huser, ?_, ?_, not_not.mp hdigest⟩
        · simpa using hha2
        · simpa using hresponse
    · rintro ⟨field', hfield', authReq', hparsed', huser, hha2, hresponse, hdigest⟩
      rw [hfield] at hfield'
      obtain rfl := Option.some.inj hfield'
      rw [hparsed] at hparsed'
      obtain ⟨rfl, rfl⟩ := Prod.mk.inj hparsed'
      simp [huser, hha2, hresponse, hdigest]

/-- The login is accepted with the hash that belongs to the configured password. -/
theorem postAuthCheckAuth_iff {authType : HttpServerAuthType} {remoteIp : CharBuf 17}
    {httpBody : Bytes} :
    (httpServerHandleReqPostAuthCheckAuth plat out authType remoteIp httpBody s).1.httpRespCode =
      .c200 ↔ LoginOver plat out httpBody s.authInfo.authPass s := by
  have hrejected (errMessage : Option Bytes) : (httpServerResp401AuthRuuviWithNewSessionId plat out
      remoteIp authType errMessage s).1.httpRespCode ≠ .c200 :=
    respWithNewSessionId_code plat out _ _ _ _
  unfold httpServerHandleReqPostAuthCheckAuth LoginOver
  dsimp only
  cases hparse : jsonRuuviAuthParseHttpBody plat out httpBody with
  | none =>
    dsimp only
    exact iff_of_false (hrejected none) (by rintro ⟨authReq, hreq, -⟩; cases hreq)
  | some authReq =>
    dsimp only
    constructor
    · intro h
      split_ifs at h with hempty huser hcalloc
      · exact absurd h (hrejected _)
      · exact absurd h (hrejected _)
      · cases h
      · cases hgen : httpServerAuthRuuviGenHashedPassword plat out
          s.ruuvi.loginSession.challenge.str s.authInfo.authPass with
        | none =>
          rw [hgen] at h
          dsimp only at h
          exact absurd h (hrejected none)
        | some hash =>
          rw [hgen] at h
          dsimp only at h
          split_ifs at h with hpassword
          · exact absurd h (hrejected _)
          · unfold httpServerAuthRuuviGenHashedPassword at hgen
            split_ifs at hgen with hhash
            obtain rfl := Option.some.inj hgen
            refine ⟨authReq, rfl, hempty, (not_not.mp huser).symm, ?_, hhash, ?_⟩
            · simpa using hcalloc
            · exact (not_not.mp hpassword).symm
    · rintro ⟨authReq', hreq, hempty, huser, hcalloc, hhash, hpassword⟩
      obtain rfl := Option.some.inj hreq
      rw [huser] at hempty
      simp [hempty, huser, hcalloc, hhash, hpassword, httpServerAuthRuuviGenHashedPassword]

/-- A check that no token has decided is the one of the configured type. -/
theorem checkAuth_byType {param : HttpServerHandleReqAuthParam}
    (hlan : param.flagAccessFromLan = true)
    (h : (httpServerHandleReqCheckAuth plat out param (some false) s).2.1 ≠ some true) :
    (httpServerHandleReqCheckAuth plat out param (some false) s).1 =
      (httpServerHandleReqAuthByType plat out param true s).1 := by
  unfold httpServerHandleReqCheckAuth httpServerHandleReqGetOrCheckAuth at h ⊢
  simp only [hlan, Bool.not_true, Bool.false_eq_true, if_false] at h ⊢
  cases hbearer : httpServerHandleReqCheckAuthBearer param.httpHeader
    param.flagCheckRwAccessWithBearerToken s.authInfo with
  | notUsed => rfl
  | allowed =>
    rw [hbearer] at h
    exact absurd rfl h
  | prohibited =>
    rw [hbearer] at h
    exact absurd rfl h

end EmptySecret

end Auth
end Esp32WifiManager
