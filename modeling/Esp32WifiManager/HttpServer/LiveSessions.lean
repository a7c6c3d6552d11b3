import Esp32WifiManager.HttpServer.Logout

/-!
# Sessions below capacity

What the table is for: a list of live sessions, to which a login adds one and
from which a logout takes one, and which gives up the oldest session only when
there are more of them than slots. The table is this list as long as no login
finds the last slot taken while another one is free.
-/

namespace Esp32WifiManager
namespace Auth

open CString HttpReq

/-- The session that a request is about. -/
def HttpServerHandleReqParam.key (param : HttpServerHandleReqParam) : SessionKey :=
  ((httpServerAuthRuuviGetSessionIdFromCookies param.reqInfo.httpHeader).2.str, param.remoteIp.str)

/-- The live sessions after an event, from the request and its response. -/
def liveAfter (plat : Platform) (s : HttpServerState) (live : List SessionKey) :
    Event → List SessionKey
  | .request param out =>
    if (httpServerHandleReq plat out param s).1.httpRespCode = .c200 then
      if param.isPostAuth then (param.key :: live).take httpServerAuthRuuviMaxNumSessions
      else if param.isDeleteAuth then live.erase param.key
      else live
    else live
  | .setAuth _ => live

/-- The live sessions after a run, when those in `live` are live before it. -/
def liveSessions (plat : Platform) (s : HttpServerState) (live : List SessionKey) :
    List Event → List SessionKey
  | [] => live
  | e :: events => liveSessions plat (s.step plat e) (liveAfter plat s live e) events

/-- Every login of the run finds the last slot free, or no slot. -/
def RoomyLogins (plat : Platform) (s : HttpServerState) : List Event → Prop
  | [] => True
  | e :: events =>
    (∀ param out sessionId, e = .request param out →
      LoginChecked plat out param sessionId s.sessions → SlotTable.Roomy s.ruuvi.table) ∧
    RoomyLogins plat (s.step plat e) events

section Live

variable {plat : Platform} {s : HttpServerState} {param : HttpServerHandleReqParam} {out : Outcomes}

theorem key_eq {sessionId : CharBuf 17} (h : param.HasSessionId sessionId) :
    param.key = (sessionId.str, param.remoteIp.str) := by
  unfold HttpServerHandleReqParam.HasSessionId at h
  rw [HttpServerHandleReqParam.key, h]

theorem entries_authorize_of_roomy {sessionId remoteIp : CharBuf 17}
    (hid : sessionId.str ≠ []) (h : SlotTable.Roomy s.ruuvi.table) :
    (s.sessions.authorize sessionId remoteIp).auth.ruuvi.entries =
      ((sessionId.str, remoteIp.str) :: s.ruuvi.entries).take httpServerAuthRuuviMaxNumSessions := by
  have htable : (s.sessions.authorize sessionId remoteIp).auth.ruuvi.table =
      SlotTable.insert (sessionId.str, remoteIp.str) s.ruuvi.table :=
    table_insert s.ruuvi sessionId remoteIp hid
  unfold HttpServerAuthRuuvi.entries
  rw [htable, SlotTable.reduceOption_insert_of_roomy h, table_length]

/-- A request keeps the table in step with the live sessions. -/
theorem request_entries (ht : s.authInfo.authType.isRuuvi)
    (hroomy : ∀ sessionId, LoginChecked plat out param sessionId s.sessions →
      SlotTable.Roomy s.ruuvi.table) :
    (s.step plat (.request param out)).ruuvi.entries =
      liveAfter plat s s.ruuvi.entries (.request param out) := by
  unfold liveAfter
  dsimp only
  cases request_effect plat out param s with
  | quiet hq h =>
    have heq : (s.step plat (.request param out)).ruuvi.entries = s.ruuvi.entries :=
      h.entries_of_isRuuvi ht
    rw [heq]
    split_ifs with hcode hpost hdelete
    · exact absurd hpost (hq hcode).1
    · exact absurd hdelete (hq hcode).2
    · rfl
    · rfl
  | login sessionId hcode hl h =>
    have heq : (s.step plat (.request param out)).ruuvi.entries =
        (s.sessions.authorize sessionId param.remoteIp).auth.ruuvi.entries :=
      congrArg (fun t => t.auth.ruuvi.entries) h
    rw [if_pos hcode, if_pos hl.isPostAuth, key_eq hl.cookie, heq]
    exact entries_authorize_of_roomy (matches_str_ne_nil hl.pending) (hroomy sessionId hl)
  | logout sessionId i hcode hl h =>
    have heq : (s.step plat (.request param out)).ruuvi.entries =
        (s.sessions.deleteSlot i).auth.ruuvi.entries :=
      congrArg (fun t => t.auth.ruuvi.entries) h
    have hpost : ¬ param.isPostAuth := fun hpost => not_isDeleteAuth hpost hl.isDeleteAuth
    rw [if_pos hcode, if_neg hpost, if_pos hl.isDeleteAuth, key_eq hl.cookie, heq]
    exact entries_deleteSlot_eq hl

theorem step_entries {e : Event} (ht : s.authInfo.authType.isRuuvi) (he : e.Unchanging s)
    (hroomy : ∀ param out sessionId, e = .request param out →
      LoginChecked plat out param sessionId s.sessions → SlotTable.Roomy s.ruuvi.table) :
    (s.step plat e).ruuvi.entries = liveAfter plat s s.ruuvi.entries e := by
  cases e with
  | request param out =>
    exact request_entries ht fun sessionId hl => hroomy param out sessionId rfl hl
  | setAuth args =>
    obtain ⟨hauth, -⟩ := setAuth_of_not_changes (he args rfl)
    exact congrArg (fun auth => auth.ruuvi.entries) hauth

theorem run_entries {events : List Event} (ht : s.authInfo.authType.isRuuvi)
    (hno : NoChange plat s events) (hroomy : RoomyLogins plat s events) :
    (s.run plat events).ruuvi.entries = liveSessions plat s s.ruuvi.entries events := by
  induction events generalizing s with
  | nil => rfl
  | cons e events ih =>
    have hsame : SameCredentials (s.step plat e).authInfo s.authInfo := step_sameCredentials hno.1
    have htype : (s.step plat e).authInfo.authType.isRuuvi := by
      rw [hsame.authType]
      exact ht
    unfold liveSessions
    rw [HttpServerState.run_cons, ih htype hno.2 hroomy.2, step_entries ht hno.1 hroomy.1]

end Live

/-- While type, user and password stay as they are and every login finds the last slot free or no
slot free, exactly the live sessions are authorized. -/
theorem live_sessions_authorized (plat : Platform) (s : HttpServerState) (events : List Event)
    (ht : s.authInfo.authType.isRuuvi) (hno : NoChange plat s events)
    (hroomy : RoomyLogins plat s events) (sessionId remoteIp : CharBuf 17) :
    (httpServerAuthRuuviFindAuthorizedSession sessionId remoteIp
        (s.run plat events).ruuvi).isSome = true ↔
      (sessionId.str, remoteIp.str) ∈ liveSessions plat s s.ruuvi.entries events := by
  rw [findAuthorizedSession_isSome_iff, run_entries ht hno hroomy]

/-- The device after `http_server_set_auth` with the type `RUUVI`. -/
def ruuviStart : HttpServerState :=
  sampleRun (ascii "admin") [sampleSetAuth .ruuvi (ascii "admin")]

def sampleKey (c : Char) : SessionKey := (List.replicate 16 c.toNat.toUInt8, sampleIp.str)

theorem live_sessions_authorized_login :
    (httpServerAuthRuuviFindAuthorizedSession (.ofStr 17 (ascii "AAAAAAAAAAAAAAAA")) sampleIp
        (ruuviStart.run (samplePlatform (ascii "admin"))
          (sampleLogin (ascii "admin") "AAAAAAAAAAAAAAAA")).ruuvi).isSome = true ↔
      ((CharBuf.ofStr 17 (ascii "AAAAAAAAAAAAAAAA")).str, sampleIp.str) ∈
        liveSessions (samplePlatform (ascii "admin")) ruuviStart ruuviStart.ruuvi.entries
          (sampleLogin (ascii "admin") "AAAAAAAAAAAAAAAA") := by
  have htype : ruuviStart.authInfo.authType.isRuuvi := by decide +kernel
  have hno : NoChange (samplePlatform (ascii "admin")) ruuviStart
      (sampleLogin (ascii "admin") "AAAAAAAAAAAAAAAA") :=
    ⟨request_unchanging _ _, request_unchanging _ _, trivial⟩
  have hroomy : RoomyLogins (samplePlatform (ascii "admin")) ruuviStart
      (sampleLogin (ascii "admin") "AAAAAAAAAAAAAAAA") :=
    ⟨fun _ _ _ _ _ => .inl (by decide +kernel), fun _ _ _ _ _ => .inl (by decide +kernel), trivial⟩
  exact live_sessions_authorized (samplePlatform (ascii "admin")) ruuviStart _ htype hno hroomy _ _

/-- Four logins, a logout of the latest session, and a fifth login. -/
def evictionRun : List Event :=
  sampleLogin (ascii "admin") "AAAAAAAAAAAAAAAA" ++ sampleLogin (ascii "admin") "BBBBBBBBBBBBBBBB" ++
    sampleLogin (ascii "admin") "CCCCCCCCCCCCCCCC" ++
    sampleLogin (ascii "admin") "DDDDDDDDDDDDDDDD" ++
    [sampleEvent "DELETE" (sampleCookie "DDDDDDDDDDDDDDDD") []] ++
    sampleLogin (ascii "admin") "EEEEEEEEEEEEEEEE"

/-- There are never more than four live sessions, but the first one is lost. -/
theorem session_lost_below_capacity :
    (ruuviStart.authInfo.authType = .ruuvi ∧ ruuviStart.ruuvi.entries = [] ∧
      liveSessions (samplePlatform (ascii "admin")) ruuviStart [] evictionRun =
        [sampleKey 'E', sampleKey 'C', sampleKey 'B', sampleKey 'A'] ∧
      httpServerAuthRuuviFindAuthorizedSession (.ofStr 17 (ascii "AAAAAAAAAAAAAAAA")) sampleIp
        (ruuviStart.run (samplePlatform (ascii "admin")) evictionRun).ruuvi = none) ∧
    NoChange (samplePlatform (ascii "admin")) ruuviStart evictionRun := by
  refine ⟨by decide +kernel, noChange_of_requests ?_⟩
  intro e he
  simp only [evictionRun, sampleLogin, sampleEvent, List.mem_append, List.mem_cons,
    List.not_mem_nil, or_false] at he
  aesop

end Auth
end Esp32WifiManager
