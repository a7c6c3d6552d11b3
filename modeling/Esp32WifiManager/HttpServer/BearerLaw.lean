import Esp32WifiManager.HttpServer.SoundLogin

/-!
# Bearer tokens

A request from LAN with a `Bearer` token is decided by the token alone: by the
read-write key, and for reading also by the read-only key. Neither the type nor
a session cookie matters.
-/

namespace Esp32WifiManager
namespace Auth

open CString HttpReq

/-- The value of `Authorization:` is `Bearer ` with `token` behind it. -/
def BearerToken (header token : Bytes) : Prop :=
  ∃ field, httpReqHeaderGetField header (ascii "Authorization:") = some field ∧
    field.value header = ascii "Bearer " ++ token

/-- The keys that `token` may be; an empty key is no key. -/
def KeyGrants (info : HttpServerAuthInfo) (token : Bytes) (readOnly : Prop) : Prop :=
  (info.authApiKeyRw ≠ [] ∧ token = info.authApiKeyRw) ∨
    (readOnly ∧ info.authApiKey ≠ [] ∧ token = info.authApiKey)

section Slice

variable {header field : Bytes} {f : HttpReqField}

theorem strpbrk_le_length {hay accept : Bytes} {i : ℕ} (h : strpbrk hay accept = some i) :
    i ≤ hay.length := by
  unfold strpbrk at h
  exact (firstSuffix_eq_some.mp h).1

/-- The slice lies in the header. -/
theorem httpReqHeaderGetField_value_length (h : httpReqHeaderGetField header field = some f) :
    (f.value header).length = f.len := by
  have hat {val : ℕ} (h : httpReqHeaderGetFieldAt header val = some f) :
      (f.value header).length = f.len := by
    unfold httpReqHeaderGetFieldAt at h
    dsimp only at h
    refine List.length_take_of_le ?_
    split_ifs at h
    · split at h
      · cases h
      · next len hlen =>
        have hle := strpbrk_le_length hlen
        split_ifs at h
        cases h
        exact (Nat.sub_le len 1).trans hle
    · split at h
      · cases h
      · next len hlen =>
        cases h
        exact strpbrk_le_length hlen
  unfold httpReqHeaderGetField at h
  split at h
  · cases h
  · exact hat h

theorem httpServerAuthTokenIs_iff {authorization token key : Bytes} {len : ℕ}
    (htoken : authorization.take len = token) (hlen : token.length = len) :
    httpServerAuthTokenIs authorization len key = true ↔ key ≠ [] ∧ token = key := by
  unfold httpServerAuthTokenIs strncmpEq
  simp only [Bool.and_eq_true, decide_eq_true_eq, htoken, and_assoc]
  constructor
  · rintro ⟨hne, hl, heq⟩
    refine ⟨hne, ?_⟩
    rw [heq, hl, List.take_length]
  · rintro ⟨hne, rfl⟩
    exact ⟨hne, hlen.symm, by rw [← hlen, List.take_length]⟩

end Slice

section Check

variable {token : Bytes}

/-- A token is allowed or prohibited, never overlooked. -/
theorem checkAuthBearer_cases {header : Bytes} (h : BearerToken header token) (flagRw : Bool)
    (info : HttpServerAuthInfo) :
    KeyGrants info token (flagRw = false) ∧
        httpServerHandleReqCheckAuthBearer header flagRw info = .allowed ∨
      ¬ KeyGrants info token (flagRw = false) ∧
        httpServerHandleReqCheckAuthBearer header flagRw info = .prohibited := by
  obtain ⟨field, hfield, hvalue⟩ := h
  have hlen := httpReqHeaderGetField_value_length hfield
  have hseven : (ascii "Bearer ").length = 7 := by decide
  rw [hvalue, List.length_append, hseven] at hlen
  have hsub : sizeSub field.len 7 = token.length := by
    unfold sizeSub
    rw [if_pos (by omega)]
    omega
  have hslice : (header.drop field.ptr).take (7 + token.length) = ascii "Bearer " ++ token := by
    rw [hlen]
    exact hvalue
  have hstart : (header.drop field.ptr).take 7 = ascii "Bearer " := by
    have := congrArg (List.take 7) hslice
    rwa [List.take_take, Nat.min_eq_left (by omega), List.take_left' hseven] at this
  have htoken : ((header.drop field.ptr).drop 7).take token.length = token := by
    have := congrArg (List.drop 7) hslice
    rwa [List.drop_take, Nat.add_sub_cancel_left, List.drop_left' hseven] at this
  have his (key : Bytes) :
      httpServerAuthTokenIs ((header.drop field.ptr).drop 7) token.length key = true ↔
        key ≠ [] ∧ token = key := httpServerAuthTokenIs_iff htoken rfl
  have hbearer : strncmpEq (header.drop field.ptr) (ascii "Bearer ") 7 = true := by
    rw [strncmpEq_iff, hstart, ← hseven, List.take_length]
  unfold httpServerHandleReqCheckAuthBearer KeyGrants
  rw [hfield]
  dsimp only
  rw [hseven, hsub, hbearer]
  simp only [Bool.not_true, Bool.false_eq_true, if_false, Bool.and_eq_true, Bool.not_eq_true', his]
  split_ifs with hrw hro
  · exact .inl ⟨.inl hrw, rfl⟩
  · exact .inl ⟨.inr hro, rfl⟩
  · exact .inr ⟨not_or.mpr ⟨hrw, hro⟩, rfl⟩

variable (plat : Platform) (out : Outcomes) (s : HttpServerState)

/-- The authentication step of a request with a token: it grants or denies by `granted`, reports
that a token was used and leaves the state alone. -/
structure BearerStep (granted : Prop) (s : HttpServerState)
    (step : HttpServerResp × Option Bool × HttpServerState) : Prop where
  granted_iff : step.1.httpRespCode = .c200 ↔ granted
  denied : ¬ granted → step.1.httpRespCode = .c401
  byToken : step.2.1 = some true
  state : step.2.2 = s

theorem checkAuth_bearerStep (param : HttpServerHandleReqAuthParam)
    (hlan : param.flagAccessFromLan = true) (h : BearerToken param.httpHeader token) :
    BearerStep
      (KeyGrants s.authInfo token (param.flagCheckRwAccessWithBearerToken = false)) s
      (httpServerHandleReqCheckAuth plat out param (some false) s) := by
  unfold httpServerHandleReqCheckAuth httpServerHandleReqGetOrCheckAuth
  simp only [hlan, Bool.not_true, Bool.false_eq_true, if_false]
  rcases checkAuthBearer_cases h param.flagCheckRwAccessWithBearerToken s.authInfo with
    ⟨hgrant, hres⟩ | ⟨hgrant, hres⟩
  · rw [hres]
    exact ⟨iff_of_true rfl hgrant, fun hnot => absurd hgrant hnot, rfl, rfl⟩
  · rw [hres]
    refine ⟨iff_of_false ?_ hgrant, fun _ => rfl, rfl, rfl⟩
    simp [httpServerHandleReqAuthBearer]

/-- The response of a handler that asks for the token and then serves `served`. -/
def BearerServed (granted : Prop) (s : HttpServerState)
    (served res : HttpServerResp × HttpServerState) : Prop :=
  (granted → res = served) ∧ (¬ granted → res.1.httpRespCode = .c401 ∧ res.2 = s)

variable {s} in
theorem BearerStep.served {granted : Prop}
    {step : HttpServerResp × Option Bool × HttpServerState} (h : BearerStep granted s step)
    (served : HttpServerState → HttpServerResp × HttpServerState) :
    BearerServed granted s (served s)
      (if step.1.httpRespCode ≠ .c200 then (step.1, step.2.2) else served step.2.2) := by
  constructor
  · intro hg
    rw [if_neg (not_not.mpr (h.granted_iff.mpr hg)), h.state]
  · intro hg
    rw [if_pos (fun hcode => hg (h.granted_iff.mp hcode))]
    exact ⟨h.denied hg, h.state⟩

end Check

/-- Who gets through with a token: with the read-write key everybody, with the read-only key
readers of anything but `ap.json`. -/
theorem bearer_access_law (plat : Platform) (out : Outcomes) (param : HttpServerHandleReqParam)
    (s : HttpServerState) (token : Bytes) (hlan : param.flagAccessFromLan = true)
    (htoken : BearerToken param.reqInfo.httpHeader token) :
    (∀ name fileName : Bytes, fileName = (if name = [] then ascii "index.html" else name) →
      fileName ≠ ascii "auth" → fileNameNeedsAuth fileName = true →
      BearerStep (KeyGrants s.authInfo token (fileName ≠ ascii "ap.json")) s
        (httpServerHandleReqCheckAuth plat out
          (param.authParam (fileName = ascii "ap.json")) (some false) s) ∧
      BearerServed (KeyGrants s.authInfo token (fileName ≠ ascii "ap.json")) s
        (httpServerHandleReqGetServe out fileName param, s)
        (httpServerHandleReqGet plat out name param s)) ∧
    BearerStep (KeyGrants s.authInfo token False) s
      (httpServerHandleReqCheckAuth plat out (param.authParam true) (some false) s) ∧
    (∀ name body : Bytes, name ≠ ascii "auth" →
      BearerServed (KeyGrants s.authInfo token False) s
        (httpServerHandleReqPostServe plat out name param body, s)
        (httpServerHandleReqPost plat out name param body s)) ∧
    ∀ name : Bytes,
      BearerServed (KeyGrants s.authInfo token False) s
        (httpServerHandleReqDeleteServe plat out name param s)
        (httpServerHandleReqDelete plat out name param s) := by
  have hrw : BearerStep (KeyGrants s.authInfo token False) s
      (httpServerHandleReqCheckAuth plat out (param.authParam true) (some false) s) := by
    have := checkAuth_bearerStep plat out s (param.authParam true) hlan htoken
    simpa only [HttpServerHandleReqParam.authParam, Bool.true_eq_false] using this
  refine ⟨?_, hrw, ?_, ?_⟩
  · intro name fileName hfile hauth hneeds
    have hstep : BearerStep (KeyGrants s.authInfo token (fileName ≠ ascii "ap.json")) s
        (httpServerHandleReqCheckAuth plat out (param.authParam (fileName = ascii "ap.json"))
          (some false) s) := by
      have := checkAuth_bearerStep plat out s (param.authParam (fileName = ascii "ap.json")) hlan
        htoken
      simpa only [HttpServerHandleReqParam.authParam, decide_eq_false_iff_not] using this
    refine ⟨hstep, ?_⟩
    have hserved := hstep.served fun s => (httpServerHandleReqGetServe out fileName param, s)
    unfold httpServerHandleReqGet
    rw [← hfile]
    dsimp only
    rw [if_neg hauth, if_pos hneeds, if_neg]
    · exact hserved
    · -- a token was used, so that there is no redirection to the login page
      rw [hstep.byToken]
      simp
  · intro name body hname
    unfold httpServerHandleReqPost
    rw [if_neg hname]
    exact hrw.served fun s => (httpServerHandleReqPostServe plat out name param body, s)
  · intro name
    unfold httpServerHandleReqDelete
    exact hrw.served fun s => httpServerHandleReqDeleteServe plat out name param s

/-- The read-only key does not authorize a `POST`. -/
theorem bearer_access_law_readOnly :
    BearerStep False
      { HttpServerState.start sampleHostinfo sampleRandom with
        authInfo := ⟨.allow, [], [], ascii "reader", ascii "writer"⟩ }
      (httpServerHandleReqCheckAuth (samplePlatform []) sampleOutcomes
        (HttpServerHandleReqParam.authParam
          (sampleParam "POST" (ascii "Authorization: Bearer reader\r\n") []) true) (some false)
        { HttpServerState.start sampleHostinfo sampleRandom with
          authInfo := ⟨.allow, [], [], ascii "reader", ascii "writer"⟩ }) := by
  have htoken : BearerToken (ascii "Authorization: Bearer reader\r\n") (ascii "reader") :=
    ⟨⟨15, 13⟩, by decide +kernel, by decide +kernel⟩
  have h := (bearer_access_law (samplePlatform []) sampleOutcomes
    (sampleParam "POST" (ascii "Authorization: Bearer reader\r\n") [])
    { HttpServerState.start sampleHostinfo sampleRandom with
      authInfo := ⟨.allow, [], [], ascii "reader", ascii "writer"⟩ } (ascii "reader") rfl htoken).2.1
  have hnot : ¬ KeyGrants ⟨.allow, [], [], ascii "reader", ascii "writer"⟩ (ascii "reader") False := by
    rintro (⟨-, h⟩ | ⟨h, -⟩)
    · exact absurd h (by decide)
    · exact h
  rwa [propext (iff_false_intro hnot)] at h

end Auth
end Esp32WifiManager
