import Esp32WifiManager.HttpServer.SoundLogin
import Esp32WifiManager.Lib.OneTimeTokens

/-!
# Session ids are one-time tokens

The ids that the server draws are tokens: the pending one can be redeemed in the
types `RUUVI` and `DEFAULT`, those of the table are active. In the type `DIGEST`
the bytes of the table are not sessions, so that no token is active there.
-/

namespace Esp32WifiManager
namespace Auth

open CString HttpReq

def SessionState.tokens (s : SessionState) : OneTimeTokens.State Bytes where
  drawn := s.loginSessions.map fun session => session.sessionId.str
  pending :=
    if s.authInfo.authType.isRuuvi ∧ s.auth.ruuvi.loginSession.sessionId.str ≠ [] then
      some s.auth.ruuvi.loginSession.sessionId.str
    else none
  active := if s.authInfo.authType = .digest then [] else s.auth.ruuvi.entries.map Prod.fst

section Tokens

variable {s s' : SessionState}

theorem isRuuvi_ne_digest {authType : HttpServerAuthType} (h : authType.isRuuvi) :
    authType ≠ .digest := by
  rintro rfl
  exact absurd h (by decide)

theorem isRuuvi_ne_allow {authType : HttpServerAuthType} (h : authType.isRuuvi) :
    authType ≠ .allow := by
  rintro rfl
  exact absurd h (by decide)

theorem tokens_pending_of_not_isRuuvi (h : ¬ s.authInfo.authType.isRuuvi) :
    s.tokens.pending = none :=
  if_neg fun hp => h hp.1

theorem tokens_pending_eq_none (hid : s.auth.ruuvi.loginSession.sessionId.str = []) :
    s.tokens.pending = none :=
  if_neg fun hp => hp.2 hid

theorem tokens_pending_eq_some (ht : s.authInfo.authType.isRuuvi)
    (hid : s.auth.ruuvi.loginSession.sessionId.str ≠ []) :
    s.tokens.pending = some s.auth.ruuvi.loginSession.sessionId.str :=
  if_pos ⟨ht, hid⟩

theorem tokens_drawn_eq (h : s'.loginSessions = s.loginSessions) :
    s'.tokens.drawn = s.tokens.drawn := by
  unfold SessionState.tokens
  rw [h]

theorem tokens_drawn_concat {session : HttpServerAuthRuuviLoginSession}
    (h : s'.loginSessions = s.loginSessions ++ [session]) :
    s'.tokens.drawn = s.tokens.drawn ++ [session.sessionId.str] := by
  unfold SessionState.tokens
  rw [h, List.map_append, List.map_singleton]

theorem tokens_active (h : s.authInfo.authType ≠ .digest) :
    s.tokens.active = s.auth.ruuvi.entries.map Prod.fst :=
  if_neg h

/-- The active ids after a step that changes the table within one type. -/
theorem tokens_active_sublist {l : List SessionKey} (hinfo : s'.authInfo = s.authInfo)
    (hne : s.authInfo.authType ≠ .digest) (h : s'.auth.ruuvi.entries.Sublist l) :
    s'.tokens.active.Sublist (l.map Prod.fst) := by
  rw [tokens_active (by rw [hinfo]; exact hne)]
  exact h.map Prod.fst

theorem entries_grant (session : HttpServerAuthRuuviLoginSession) (remoteIp : CharBuf 17) :
    (s.grant session remoteIp).auth.ruuvi.entries.Sublist
      ((session.sessionId.str, remoteIp.str) :: s.auth.ruuvi.entries) := by
  have htable : (s.grant session remoteIp).auth.ruuvi.table =
      ((HttpServerAuthRuuviAuthorizedSession.mk session.sessionId remoteIp).entry ::
        s.auth.ruuvi.table).dropLast :=
    table_add { s.auth.ruuvi with loginSession := session } session.sessionId remoteIp
  have hsub := (List.dropLast_sublist ((HttpServerAuthRuuviAuthorizedSession.mk session.sessionId
    remoteIp).entry :: s.auth.ruuvi.table)).filterMap id
  unfold HttpServerAuthRuuvi.entries
  rw [htable]
  refine hsub.trans ?_
  unfold HttpServerAuthRuuviAuthorizedSession.entry
  split
  · exact List.sublist_cons_self _ _
  · exact List.Sublist.refl _

theorem QuietEffect.tokens {remoteIp : CharBuf 17} (h : QuietEffect remoteIp s s') :
    OneTimeTokens.Step s.tokens s'.tokens := by
  cases h with
  | keep h =>
    rw [h]
    exact .drop rfl (.inl rfl) (List.Sublist.refl _)
  | draw session h =>
    rw [h]
    refine .draw session.sessionId.str (tokens_drawn_concat (draw_loginSessions s session)) ?_
      (List.Sublist.refl _)
    by_cases hp : s.authInfo.authType.isRuuvi ∧ session.sessionId.str ≠ []
    · exact .inl (if_pos hp)
    · exact .inr (if_neg hp)
  | grant session ht h =>
    have hinfo : s'.authInfo = s.authInfo := by rw [h, grant_authInfo]
    have hne : s.authInfo.authType ≠ .digest := by simp [ht]
    have hdrawn : s'.loginSessions = s.loginSessions ++ [session] := by rw [h, grant_loginSessions]
    have hsub := entries_grant (s := s) session remoteIp
    rw [← h] at hsub
    refine .grant session.sessionId.str (tokens_drawn_concat hdrawn)
      (tokens_pending_of_not_isRuuvi ?_) ?_
    · rw [hinfo, ht]
      decide
    · rw [tokens_active hne]
      exact tokens_active_sublist hinfo hne hsub
  | digest req ht h =>
    have hinfo : s'.authInfo = s.authInfo := by rw [h]
    have hdrawn : s'.loginSessions = s.loginSessions := by rw [h]
    have hactive : s'.tokens.active = [] := if_pos (by rw [hinfo]; exact ht)
    refine .drop (tokens_drawn_eq hdrawn) (.inr (tokens_pending_of_not_isRuuvi ?_)) ?_
    · rw [hinfo, ht]
      decide
    · rw [hactive]
      exact List.nil_sublist _

theorem RequestEffect.tokens {plat : Platform} {out : Outcomes} {param : HttpServerHandleReqParam}
    {code : HttpRespCode} (h : RequestEffect plat out param code s s') :
    OneTimeTokens.Step s.tokens s'.tokens := by
  cases h with
  | quiet hq h => exact h.tokens
  | login sessionId hcode hl h =>
    have hinfo : s'.authInfo = s.authInfo := by rw [h, authorize_authInfo]
    have hdrawn : s'.loginSessions = s.loginSessions := by rw [h, authorize_loginSessions]
    have hcleared : s'.auth.ruuvi.loginSession.sessionId.str = [] := by
      rw [h]
      exact CharBuf.str_clear _
    have hsub := entries_authorize s (matches_str_ne_nil hl.pending) param.remoteIp
    rw [← h] at hsub
    have hne := isRuuvi_ne_digest hl.authType
    obtain ⟨hid, heq, -⟩ := matches_iff.mp hl.pending
    refine .redeem sessionId.str ?_ (tokens_drawn_eq hdrawn) (tokens_pending_eq_none hcleared) ?_
    · rw [tokens_pending_eq_some hl.authType hid, heq]
    · rw [tokens_active hne]
      exact tokens_active_sublist hinfo hne hsub
  | logout sessionId i hcode hl h =>
    have hinfo : s'.authInfo = s.authInfo := by rw [h, deleteSlot_authInfo]
    have hdrawn : s'.loginSessions = s.loginSessions := by rw [h, deleteSlot_loginSessions]
    have hpending : s'.tokens.pending = s.tokens.pending := by
      rw [h]
      rfl
    have hsub := entries_deleteSlot s i
    rw [← h] at hsub
    have hne := isRuuvi_ne_digest hl.authType
    refine .drop (tokens_drawn_eq hdrawn) (.inl hpending) ?_
    rw [tokens_active hne]
    exact tokens_active_sublist hinfo hne hsub

end Tokens

section Runs

variable {plat : Platform} {s : HttpServerState}

theorem setAuth_tokens (args : SetAuthArgs) :
    OneTimeTokens.Step s.sessions.tokens (httpServerSetAuth args s).sessions.tokens := by
  have hdrawn : (httpServerSetAuth args s).sessions.tokens.drawn = s.sessions.tokens.drawn :=
    tokens_drawn_eq setAuth_loginSessions
  cases hch : args.changes s.authInfo with
  | true =>
    have hzero : (httpServerSetAuth args s).sessions.auth = .zero := setAuth_of_changes hch
    refine .drop hdrawn (.inr (tokens_pending_eq_none ?_)) ?_
    · rw [hzero]
      exact CharBuf.str_zero
    · unfold SessionState.tokens
      rw [hzero]
      have : HttpServerAuth.zero.ruuvi.entries = [] := entries_zero
      simp [this]
  | false =>
    obtain ⟨hauth, hsame⟩ := setAuth_of_not_changes hch
    have hauth : (httpServerSetAuth args s).sessions.auth = s.sessions.auth := hauth
    have htype : (httpServerSetAuth args s).sessions.authInfo.authType =
      s.sessions.authInfo.authType := hsame.authType
    refine .drop hdrawn (.inl ?_) ?_
    · rw [SessionState.tokens, SessionState.tokens, hauth, htype]
    · rw [SessionState.tokens, SessionState.tokens, hauth, htype]

/-- Every event is a step of the tokens. -/
theorem step_tokens (plat : Platform) (s : HttpServerState) (e : Event) :
    OneTimeTokens.Step s.sessions.tokens (s.step plat e).sessions.tokens := by
  cases e with
  | request param out => exact (request_effect plat out param s).tokens
  | setAuth args => exact setAuth_tokens args

theorem run_tokens (plat : Platform) (s : HttpServerState) (events : List Event) :
    OneTimeTokens.Steps s.sessions.tokens (s.run plat events).sessions.tokens := by
  induction events generalizing s with
  | nil => exact .refl
  | cons e events ih => exact Relation.ReflTransGen.head (step_tokens plat s e) (ih _)

theorem start_tokens_wf (hostinfo : WifimanHostinfo) (random : ℕ → UInt32) :
    OneTimeTokens.Wf (HttpServerState.start hostinfo random).sessions.tokens := by
  have hp : (HttpServerState.start hostinfo random).sessions.tokens.pending = none :=
    tokens_pending_eq_none CharBuf.str_zero
  have ha : (HttpServerState.start hostinfo random).sessions.tokens.active = [] := by
    rw [tokens_active (HttpServerAuthType.noConfusion ·)]
    exact congrArg (List.map Prod.fst) entries_zero
  refine ⟨by simp [ha], by simp [ha], by simp [hp], by simp [hp]⟩

end Runs

end Auth
end Esp32WifiManager
