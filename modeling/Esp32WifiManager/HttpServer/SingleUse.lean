import Esp32WifiManager.HttpServer.SessionTokens

/-!
# A login challenge is used once

As long as the drawn ids and challenges do not repeat, a session id logs in once,
and a login whose credentials have been looked at leaves no second guess at the
same challenge.
-/

namespace Esp32WifiManager
namespace Auth

open CString HttpReq

/-- No two drawn sessions share an id or a challenge. -/
structure FreshSessions (s : HttpServerState) : Prop where
  ids : (s.loginSessions.map fun session => session.sessionId.str).Nodup
  challenges : (s.loginSessions.map fun session => session.challenge.str).Nodup

/-- What is left of the pending session of `s` after a login that has looked at the credentials. -/
inductive ChallengeConsumed (out : Outcomes) (s : HttpServerState)
    (r : HttpServerResp × HttpServerState) : Prop
  | cleared (hid : r.2.ruuvi.loginSession.sessionId.str = [])
      (hchallenge : r.2.ruuvi.loginSession.challenge.str = [])
      (hip : r.2.ruuvi.loginSession.remoteIp.str = [])
  | redrawn (hold : s.ruuvi.loginSession ∈ s.loginSessions)
      (hid : ∀ old ∈ s.loginSessions, old.sessionId.str ≠ r.2.ruuvi.loginSession.sessionId.str)
      (hchallenge : ∀ old ∈ s.loginSessions,
        old.challenge.str ≠ r.2.ruuvi.loginSession.challenge.str)
  | noMemory (hcode : r.1.httpRespCode = .c500) (hmem : out.callocPasswordHash = false)

section Runs

variable {plat : Platform} {s : HttpServerState}

theorem QuietEffect.loginSessions_isPrefix {remoteIp : CharBuf 17} {s s' : SessionState}
    (h : QuietEffect remoteIp s s') : s.loginSessions <+: s'.loginSessions := by
  cases h with
  | keep h => rw [h]
  | draw session h =>
    rw [h, draw_loginSessions]
    exact List.prefix_append _ _
  | grant session ht h =>
    rw [h, grant_loginSessions]
    exact List.prefix_append _ _
  | digest req ht h => rw [h]

theorem step_loginSessions_isPrefix (e : Event) :
    s.loginSessions <+: (s.step plat e).loginSessions := by
  cases e with
  | request param out =>
    cases request_effect plat out param s with
    | quiet hq h => exact h.loginSessions_isPrefix
    | login sessionId hcode hl h =>
      have heq : (s.step plat (.request param out)).loginSessions = s.loginSessions :=
        congrArg SessionState.loginSessions h
      rw [heq]
    | logout sessionId i hcode hl h =>
      have heq : (s.step plat (.request param out)).loginSessions = s.loginSessions :=
        congrArg SessionState.loginSessions h
      rw [heq]
  | setAuth args =>
    have heq : (s.step plat (.setAuth args)).loginSessions = s.loginSessions :=
      setAuth_loginSessions
    rw [heq]

theorem run_loginSessions_isPrefix (events : List Event) :
    s.loginSessions <+: (s.run plat events).loginSessions := by
  induction events generalizing s with
  | nil => exact List.prefix_refl _
  | cons e events ih => exact (step_loginSessions_isPrefix e).trans ih

theorem FreshSessions.of_isPrefix {s t : HttpServerState} (h : FreshSessions t)
    (hp : s.loginSessions <+: t.loginSessions) : FreshSessions s :=
  ⟨h.ids.sublist (hp.map _).sublist, h.challenges.sublist (hp.map _).sublist⟩

theorem map_ne_of_nodup_concat {α β : Type*} {f : α → β} {l : List α} {x : α}
    (h : ((l ++ [x]).map f).Nodup) : ∀ y ∈ l, f y ≠ f x := by
  intro y hy heq
  rw [List.map_append, List.map_singleton] at h
  refine OneTimeTokens.notMem_of_nodup_concat h ?_
  rw [← heq]
  exact List.mem_map_of_mem hy

/-- In the types with sessions, the pending session has been drawn. -/
def PendingDrawn (s : SessionState) : Prop :=
  s.authInfo.authType.isRuuvi → s.auth.ruuvi.loginSession.sessionId.str ≠ [] →
    s.auth.ruuvi.loginSession ∈ s.loginSessions

theorem QuietEffect.pendingDrawn {remoteIp : CharBuf 17} {s s' : SessionState}
    (h : QuietEffect remoteIp s s') (hs : PendingDrawn s) : PendingDrawn s' := by
  cases h with
  | keep h =>
    rw [h]
    exact hs
  | draw session h =>
    rw [h]
    intro _ _
    exact List.mem_append_right _ (List.mem_singleton_self session)
  | grant session ht h =>
    intro ht'
    rw [h, grant_authInfo, ht] at ht'
    exact absurd ht' (by decide)
  | digest req ht h =>
    intro ht'
    rw [h, ht] at ht'
    exact absurd ht' (by decide)

theorem step_pendingDrawn (hs : PendingDrawn s.sessions) (e : Event) :
    PendingDrawn (s.step plat e).sessions := by
  cases e with
  | request param out =>
    cases request_effect plat out param s with
    | quiet hq h => exact h.pendingDrawn hs
    | login sessionId hcode hl h =>
      intro _ hid
      refine absurd ?_ hid
      have : (s.step plat (.request param out)).sessions =
        s.sessions.authorize sessionId param.remoteIp := h
      rw [this]
      exact CharBuf.str_clear _
    | logout sessionId i hcode hl h =>
      have : (s.step plat (.request param out)).sessions = s.sessions.deleteSlot i := h
      rw [this]
      exact hs
  | setAuth args =>
    intro ht hid
    cases hch : args.changes s.authInfo with
    | true =>
      have hzero : (s.step plat (.setAuth args)).sessions.auth = .zero := setAuth_of_changes hch
      refine absurd ?_ hid
      rw [hzero]
      exact CharBuf.str_zero
    | false =>
      obtain ⟨hauth, hsame⟩ := setAuth_of_not_changes hch
      have hauth : (s.step plat (.setAuth args)).sessions.auth = s.sessions.auth := hauth
      have hlog : (s.step plat (.setAuth args)).sessions.loginSessions = s.sessions.loginSessions :=
        setAuth_loginSessions
      have htype : s.sessions.authInfo.authType.isRuuvi := hsame.authType ▸ ht
      rw [hauth] at hid ⊢
      rw [hlog]
      exact hs htype hid

theorem run_pendingDrawn (hs : PendingDrawn s.sessions) (events : List Event) :
    PendingDrawn (s.run plat events).sessions := by
  induction events generalizing s with
  | nil => exact hs
  | cons e events ih => exact ih (step_pendingDrawn hs e)

theorem run_wf (hostinfo : WifimanHostinfo) (random : ℕ → UInt32) (events : List Event)
    (hfresh : ((HttpServerState.start hostinfo random).run plat events).sessions.tokens.drawn.Nodup) :
    OneTimeTokens.Wf ((HttpServerState.start hostinfo random).run plat events).sessions.tokens :=
  (run_tokens plat _ events).wf hfresh (start_tokens_wf hostinfo random)

end Runs

section Steps

variable {plat : Platform} {out : Outcomes} {param : HttpServerHandleReqParam}
  {sessionId : CharBuf 17} {s : HttpServerState}

theorem not_isDeleteAuth (hpost : param.isPostAuth) : ¬ param.isDeleteAuth := by
  rintro ⟨h, -⟩
  rw [hpost.1] at h
  exact absurd h (by decide)

/-- A login that is answered with 200 redeems the pending id. -/
theorem login_effect (hpost : param.isPostAuth) (hcookie : param.HasSessionId sessionId)
    (hcode : (httpServerHandleReq plat out param s).1.httpRespCode = .c200) :
    LoginChecked plat out param sessionId s.sessions ∧
      (s.step plat (.request param out)).sessions =
        s.sessions.authorize sessionId param.remoteIp := by
  cases request_effect plat out param s with
  | quiet hq h => exact absurd hpost (hq hcode).1
  | login sessionId' _ hl h =>
    obtain rfl : sessionId' = sessionId := (Prod.mk.inj (hl.cookie.symm.trans hcookie)).2
    exact ⟨hl, h⟩
  | logout _ i _ hl h => exact absurd hl.isDeleteAuth (not_isDeleteAuth hpost)

theorem login_pending (hl : LoginChecked plat out param sessionId s.sessions) :
    s.sessions.tokens.pending = some sessionId.str := by
  obtain ⟨hid, heq, -⟩ := matches_iff.mp hl.pending
  rw [tokens_pending_eq_some hl.authType hid, heq]

theorem login_spent (hs : OneTimeTokens.Wf s.sessions.tokens) (hpost : param.isPostAuth)
    (hcookie : param.HasSessionId sessionId)
    (hcode : (httpServerHandleReq plat out param s).1.httpRespCode = .c200) :
    OneTimeTokens.Spent sessionId.str (s.step plat (.request param out)).sessions.tokens := by
  obtain ⟨hl, h⟩ := login_effect hpost hcookie hcode
  refine OneTimeTokens.spent_of_redeem hs (login_pending hl) ?_ ?_
  · rw [h]
    exact tokens_drawn_eq (authorize_loginSessions _ _ _)
  · rw [h]
    exact tokens_pending_eq_none (CharBuf.str_clear _)

theorem consumed_of_draw {r : HttpServerResp × HttpServerState}
    {session : HttpServerAuthRuuviLoginSession} (hfresh : FreshSessions r.2)
    (hold : s.ruuvi.loginSession ∈ s.loginSessions) (h : r.2.sessions = s.sessions.draw session) :
    ChallengeConsumed out s r := by
  have hsession : r.2.ruuvi.loginSession = session :=
    congrArg (fun t => t.auth.ruuvi.loginSession) h
  have hlog : r.2.loginSessions = s.loginSessions ++ [session] :=
    congrArg SessionState.loginSessions h
  obtain ⟨hids, hchallenges⟩ := hfresh
  rw [hlog] at hids hchallenges
  have hid := map_ne_of_nodup_concat hids
  have hchallenge := map_ne_of_nodup_concat hchallenges
  rw [← hsession] at hid hchallenge
  exact .redrawn hold hid hchallenge

theorem reached_consumes {body : Bytes}
    (hfresh : FreshSessions (s.step plat (.request param out))) (hs : PendingDrawn s.sessions)
    (h : ReachesCheck plat out param sessionId body s.sessions) :
    ChallengeConsumed out s (httpServerHandleReq plat out param s) := by
  have hreq := httpServerHandleReq_postAuth plat out param s h.isPostAuth h.postBody
  have hstep : s.step plat (.request param out) = (httpServerHandleReq plat out param s).2 := rfl
  rw [hstep] at hfresh
  have hold : s.ruuvi.loginSession ∈ s.loginSessions :=
    hs h.authType (matches_iff.mp h.pending).1
  rw [hreq] at hfresh ⊢
  have hcheck : ReachesCheck plat out param sessionId body
    (HttpServerState.sessions { s with extraHeaderFields := [] }) := h
  cases postAuth_reached plat out hcheck with
  | accepted hcode hg hmem heq =>
    have hauth := congrArg (fun t => t.auth.ruuvi.loginSession) heq
    refine .cleared ?_ ?_ ?_
    · exact (congrArg (fun t => t.sessionId.str) hauth).trans (CharBuf.str_clear _)
    · exact (congrArg (fun t => t.challenge.str) hauth).trans (CharBuf.str_clear _)
    · exact (congrArg (fun t => t.remoteIp.str) hauth).trans (CharBuf.str_clear _)
  | noMemory hcode hmem heq => exact .noMemory hcode hmem
  | rejected hcode session heq => exact consumed_of_draw hfresh hold heq

end Steps

/-- In a run without repeated ids and challenges, a session id is logged in to at most once, and
every login whose credentials are looked at uses up the challenge. -/
theorem challenge_single_use (plat : Platform) (hostinfo : WifimanHostinfo) (random : ℕ → UInt32)
    (events : List Event)
    (hfresh : FreshSessions ((HttpServerState.start hostinfo random).run plat events)) :
    (∀ before param out mid param' out' after (sessionId sessionId' : CharBuf 17),
      events = before ++ .request param out :: (mid ++ .request param' out' :: after) →
      param.isPostAuth → param.HasSessionId sessionId →
      (httpServerHandleReq plat out param
        ((HttpServerState.start hostinfo random).run plat before)).1.httpRespCode = .c200 →
      param'.isPostAuth → param'.HasSessionId sessionId' → sessionId'.str = sessionId.str →
      (httpServerHandleReq plat out' param' ((HttpServerState.start hostinfo random).run plat
        (before ++ .request param out :: mid))).1.httpRespCode ≠ .c200) ∧
    (∀ before param out after sessionId body,
      events = before ++ .request param out :: after →
      ReachesCheck plat out param sessionId body
        ((HttpServerState.start hostinfo random).run plat before).sessions →
      ChallengeConsumed out ((HttpServerState.start hostinfo random).run plat before)
        (httpServerHandleReq plat out param
          ((HttpServerState.start hostinfo random).run plat before))) := by
  constructor
  · intro before param out mid param' out' after sessionId sessionId' hevents hpost hcookie hcode
      hpost' hcookie' hid hcode'
    have hsplit : events =
        before ++ (.request param out :: mid) ++ .request param' out' :: after := by
      rw [hevents]
      simp
    rw [hsplit, HttpServerState.run_append] at hfresh
    have hfresh := hfresh.of_isPrefix (run_loginSessions_isPrefix _)
    have hfresh₀ := hfresh
    rw [HttpServerState.run_append] at hfresh₀
    have hwf := run_wf hostinfo random before
      (hfresh₀.of_isPrefix (run_loginSessions_isPrefix _)).ids
    have hspent := login_spent hwf hpost hcookie hcode
    have hlater := (run_tokens plat _ mid).spent ?_ hspent
    · obtain ⟨hl, -⟩ := login_effect hpost' hcookie' hcode'
      refine hlater.2 ?_
      rw [← hid, ← login_pending hl, HttpServerState.run_append, HttpServerState.run_cons]
    · rw [HttpServerState.run_append, HttpServerState.run_cons] at hfresh
      exact hfresh.ids
  · intro before param out after sessionId body hevents hreach
    have hsplit : events = before ++ [.request param out] ++ after := by
      rw [hevents]
      simp
    rw [hsplit, HttpServerState.run_append] at hfresh
    have hfresh := hfresh.of_isPrefix (run_loginSessions_isPrefix _)
    rw [HttpServerState.run_append] at hfresh
    have hstart : PendingDrawn (HttpServerState.start hostinfo random).sessions := by
      intro (ht : HttpServerAuthType.isRuuvi .allow)
      exact absurd ht (by decide)
    exact reached_consumes hfresh (run_pendingDrawn hstart before) hreach

/-- As `samplePlatform`, with the digest of the second challenge as well. -/
def replayPlatform : Platform :=
  { samplePlatform (ascii "admin") with
    sha256 := fun m =>
      if m = List.replicate 32 1 then
        hexToBin (ascii "72cd6e8422c407fb6d098690f1130b7ded7ec2f7f5e1d30bd9d521f015363793")
      else (samplePlatform (ascii "admin")).sha256 m }

/-- The first session draws zeros and the second one ones. -/
def replayRandom (n : ℕ) : UInt32 := if n < 48 then 0 else 1

/-- The login request is sent a second time, and rejected. -/
theorem challenge_single_use_replay :
    (httpServerHandleReq replayPlatform sampleOutcomes
      (sampleParam "POST" (sampleCookie "AAAAAAAAAAAAAAAA") (sampleBody (ascii "admin")))
      ((HttpServerState.start sampleHostinfo replayRandom).run replayPlatform
        adminRun)).1.httpRespCode ≠ .c200 := by
  have hfresh : FreshSessions ((HttpServerState.start sampleHostinfo replayRandom).run
      replayPlatform (adminRun ++
        [sampleEvent "POST" (sampleCookie "AAAAAAAAAAAAAAAA") (sampleBody (ascii "admin"))])) :=
    ⟨by decide +kernel, by decide +kernel⟩
  have hpost : (sampleParam "POST" (sampleCookie "AAAAAAAAAAAAAAAA")
      (sampleBody (ascii "admin"))).isPostAuth := ⟨by decide, by decide, rfl⟩
  have hcookie : (sampleParam "POST" (sampleCookie "AAAAAAAAAAAAAAAA")
      (sampleBody (ascii "admin"))).HasSessionId (.ofStr 17 (ascii "AAAAAAAAAAAAAAAA")) := by
    unfold HttpServerHandleReqParam.HasSessionId
    decide +kernel
  exact (challenge_single_use replayPlatform sampleHostinfo replayRandom _ hfresh).1
    [sampleSetAuth .ruuvi (ascii "admin"), sampleEvent "GET" [] []] _ sampleOutcomes [] _
    sampleOutcomes [] _ _ rfl hpost hcookie (by decide +kernel) hpost hcookie rfl

end Auth
end Esp32WifiManager
