import Esp32WifiManager.HttpServer.SingleUse

/-!
# Logout is final

As long as the drawn ids do not repeat, the table holds no id twice, and the id
of a session that has logged out is neither in the table nor pending any more.
The table is looked at outside the type `DIGEST`, in which its bytes hold the
directives of the last header.
-/

namespace Esp32WifiManager
namespace Auth

open CString HttpReq

section Logout

variable {plat : Platform} {out : Outcomes} {param : HttpServerHandleReqParam}
  {sessionId : CharBuf 17} {s : HttpServerState}

theorem logout_effect (hdelete : param.isDeleteAuth) (hcookie : param.HasSessionId sessionId)
    (hcode : (httpServerHandleReq plat out param s).1.httpRespCode = .c200) :
    ∃ i, LogoutFound param sessionId i s.sessions ∧
      (s.step plat (.request param out)).sessions = s.sessions.deleteSlot i := by
  cases request_effect plat out param s with
  | quiet hq h => exact absurd hdelete (hq hcode).2
  | login _ _ hl h => exact absurd hdelete (not_isDeleteAuth hl.isPostAuth)
  | logout sessionId' i _ hl h =>
    obtain rfl : sessionId' = sessionId := (Prod.mk.inj (hl.cookie.symm.trans hcookie)).2
    exact ⟨i, hl, h⟩

/-- The first of several entries with different ids takes its id along. -/
theorem notMem_map_erase {α β : Type*} [BEq α] [LawfulBEq α] {f : α → β} {l : List α} {x : α}
    (hx : x ∈ l) (hnd : (l.map f).Nodup) : f x ∉ (l.erase x).map f := by
  obtain ⟨l₁, l₂, -, hl, herase⟩ := List.exists_erase_eq hx
  rw [herase]
  intro hmem
  rw [hl, List.map_append, List.map_cons] at hnd
  have hnotMem := (List.nodup_middle.mp hnd).notMem
  rw [List.map_append] at hmem
  exact hnotMem hmem

theorem entries_deleteSlot_eq {i : Fin httpServerAuthRuuviMaxNumSessions}
    (hl : LogoutFound param sessionId i s.sessions) :
    (s.sessions.deleteSlot i).auth.ruuvi.entries =
      s.ruuvi.entries.erase (sessionId.str, param.remoteIp.str) := by
  obtain ⟨hi, hfirst⟩ := findAuthorizedSession_eq_some hl.found
  have htable : (s.sessions.deleteSlot i).auth.ruuvi.table =
    SlotTable.free s.ruuvi.table i := table_deleteSlot s.ruuvi i
  unfold HttpServerAuthRuuvi.entries
  rw [htable]
  exact SlotTable.reduceOption_free_first hi hfirst

theorem logout_retired (hs : OneTimeTokens.Wf s.sessions.tokens) (hdelete : param.isDeleteAuth)
    (hcookie : param.HasSessionId sessionId)
    (hcode : (httpServerHandleReq plat out param s).1.httpRespCode = .c200) :
    OneTimeTokens.Retired sessionId.str (s.step plat (.request param out)).sessions.tokens := by
  obtain ⟨i, hl, h⟩ := logout_effect hdelete hcookie hcode
  have hne := isRuuvi_ne_digest hl.authType
  have hactive := tokens_active hne
  have hnd := hs.nodup
  have hfind : httpServerAuthRuuviFindAuthorizedSession sessionId param.remoteIp s.ruuvi = some i :=
    hl.found
  have hfound : (sessionId.str, param.remoteIp.str) ∈ s.ruuvi.entries :=
    findAuthorizedSession_isSome_iff.mp (by rw [hfind]; rfl)
  rw [hactive] at hnd
  refine OneTimeTokens.retired_of_drop hs ?_ ?_ ?_ ?_
  · rw [hactive]
    exact List.mem_map_of_mem (f := Prod.fst) hfound
  · rw [h]
    exact tokens_drawn_eq (deleteSlot_loginSessions _ _)
  · rw [h]
    rfl
  · rw [h, tokens_active (s := s.sessions.deleteSlot i) hne, entries_deleteSlot_eq hl]
    exact notMem_map_erase hfound hnd

end Logout

/-- A run without repeated ids: outside the type `DIGEST` the table has no id twice and never
again a session that has logged out. -/
theorem logout_final (plat : Platform) (hostinfo : WifimanHostinfo) (random : ℕ → UInt32)
    (events : List Event)
    (hfresh : (((HttpServerState.start hostinfo random).run plat events).loginSessions.map
      fun session => session.sessionId.str).Nodup)
    (hne : ((HttpServerState.start hostinfo random).run plat events).authInfo.authType ≠ .digest) :
    (((HttpServerState.start hostinfo random).run plat events).ruuvi.entries.map Prod.fst).Nodup ∧
    ∀ before param out after sessionId,
      events = before ++ .request param out :: after →
      param.isDeleteAuth → param.HasSessionId sessionId →
      (httpServerHandleReq plat out param
        ((HttpServerState.start hostinfo random).run plat before)).1.httpRespCode = .c200 →
      (∀ sessionId' remoteIp, sessionId'.str = sessionId.str →
        httpServerAuthRuuviFindAuthorizedSession sessionId' remoteIp
          ((HttpServerState.start hostinfo random).run plat events).ruuvi = none) ∧
      ∀ out' flag (authParam : HttpServerHandleReqAuthParam) sessionId',
        ((HttpServerState.start hostinfo random).run plat events).authInfo.authType.isRuuvi →
        authParam.flagAccessFromLan = true →
        httpServerHandleReqCheckAuthBearer authParam.httpHeader
          authParam.flagCheckRwAccessWithBearerToken
          ((HttpServerState.start hostinfo random).run plat events).authInfo = .notUsed →
        httpServerAuthRuuviGetSessionIdFromCookies authParam.httpHeader = (true, sessionId') →
        sessionId'.str = sessionId.str →
        (httpServerHandleReqCheckAuth plat out' authParam flag
          ((HttpServerState.start hostinfo random).run plat events)).1.httpRespCode ≠ .c200 := by
  have hwf := run_wf hostinfo random events hfresh
  have hnd := hwf.nodup
  rw [tokens_active hne] at hnd
  refine ⟨hnd, ?_⟩
  intro before param out after sessionId hevents hdelete hcookie hcode
  have hsplit : events = before ++ [.request param out] ++ after := by
    rw [hevents]
    simp
  have hsteps := run_tokens plat
    (((HttpServerState.start hostinfo random).run plat before).step plat (.request param out)) after
  have hfinal : (((HttpServerState.start hostinfo random).run plat before).step plat
      (.request param out)).run plat after =
      (HttpServerState.start hostinfo random).run plat events := by
    rw [hsplit, HttpServerState.run_append, HttpServerState.run_append, HttpServerState.run_cons,
      HttpServerState.run_nil]
  rw [hfinal] at hsteps
  have hnd₁ := hfresh.sublist hsteps.drawn_isPrefix.sublist
  have hstep := step_tokens plat ((HttpServerState.start hostinfo random).run plat before)
    (.request param out)
  have hwf₀ := run_wf hostinfo random before (hnd₁.sublist hstep.drawn_isPrefix.sublist)
  have hretired := hsteps.retired hfresh (logout_retired hwf₀ hdelete hcookie hcode)
  have hgone (key : SessionKey) (hkey : key.1 = sessionId.str) :
      key ∉ ((HttpServerState.start hostinfo random).run plat events).ruuvi.entries := by
    intro hmem
    refine hretired.2 ?_
    rw [tokens_active hne, ← hkey]
    exact List.mem_map_of_mem (f := Prod.fst) hmem
  constructor
  · intro sessionId' remoteIp hid
    by_contra hfound
    have hsome := Option.isSome_iff_ne_none.mpr hfound
    exact hgone _ hid (findAuthorizedSession_isSome_iff.mp hsome)
  · intro out' flag authParam sessionId' ht hlan hbearer hcookie' hid hcode'
    exact hgone _ hid (checkAuth_session ht hlan hbearer hcookie' hcode')

def logoutRun : List Event :=
  adminRun ++ [sampleEvent "DELETE" (sampleCookie "AAAAAAAAAAAAAAAA") []]

/-- The cookie of a session that has logged out does not pass the check. -/
theorem logout_final_admin :
    (httpServerHandleReqCheckAuth (samplePlatform (ascii "admin")) sampleOutcomes
      ⟨true, false, sampleCookie "AAAAAAAAAAAAAAAA", sampleIp⟩ (some false)
      ((HttpServerState.start sampleHostinfo sampleRandom).run (samplePlatform (ascii "admin"))
        logoutRun)).1.httpRespCode ≠ .c200 := by
  have hcookie : (sampleParam "DELETE" (sampleCookie "AAAAAAAAAAAAAAAA") []).HasSessionId
      (.ofStr 17 (ascii "AAAAAAAAAAAAAAAA")) := by
    unfold HttpServerHandleReqParam.HasSessionId
    decide +kernel
  have h : (((HttpServerState.start sampleHostinfo sampleRandom).run
        (samplePlatform (ascii "admin")) logoutRun).loginSessions.map
        fun session => session.sessionId.str).Nodup ∧
      ((HttpServerState.start sampleHostinfo sampleRandom).run
        (samplePlatform (ascii "admin")) logoutRun).authInfo.authType = .ruuvi ∧
      httpServerHandleReqCheckAuthBearer (sampleCookie "AAAAAAAAAAAAAAAA") false
        ((HttpServerState.start sampleHostinfo sampleRandom).run
          (samplePlatform (ascii "admin")) logoutRun).authInfo = .notUsed ∧
      (httpServerHandleReq (samplePlatform (ascii "admin")) sampleOutcomes
        (sampleParam "DELETE" (sampleCookie "AAAAAAAAAAAAAAAA") [])
        ((HttpServerState.start sampleHostinfo sampleRandom).run
          (samplePlatform (ascii "admin")) adminRun)).1.httpRespCode = .c200 := by
    decide +kernel
  obtain ⟨hfresh, htype, hbearer, hcode⟩ := h
  have hne : ((HttpServerState.start sampleHostinfo sampleRandom).run
      (samplePlatform (ascii "admin")) logoutRun).authInfo.authType ≠ .digest := by
    rw [htype]
    decide
  have hfinal := (logout_final (samplePlatform (ascii "admin")) sampleHostinfo sampleRandom
    logoutRun hfresh hne).2 adminRun
    (sampleParam "DELETE" (sampleCookie "AAAAAAAAAAAAAAAA") []) sampleOutcomes []
    (.ofStr 17 (ascii "AAAAAAAAAAAAAAAA")) rfl ⟨by decide, by decide⟩ hcookie hcode
  exact hfinal.2 sampleOutcomes (some false) ⟨true, false, sampleCookie "AAAAAAAAAAAAAAAA", sampleIp⟩
    (.ofStr 17 (ascii "AAAAAAAAAAAAAAAA")) (.inl htype) rfl hbearer hcookie rfl

/-- A `Digest` header whose directives reach into the first two slots. -/
def digestHeader : Bytes :=
  ascii "Authorization: Digest username=\"u\", realm=\"" ++ List.replicate 34 120 ++ ascii "S\", " ++
    ascii "nonce=\"xxxS\"\r\n"

/-- In the type `DIGEST` the table holds an id twice after such a header. -/
theorem digest_table_repeats :
    (sampleRun [] [sampleSetAuth .digest (ascii "admin"),
        sampleEvent "GET" digestHeader []]).loginSessions = [] ∧
      ¬ ((sampleRun [] [sampleSetAuth .digest (ascii "admin"),
        sampleEvent "GET" digestHeader []]).ruuvi.entries.map Prod.fst).Nodup := by
  decide +kernel

end Auth
end Esp32WifiManager
