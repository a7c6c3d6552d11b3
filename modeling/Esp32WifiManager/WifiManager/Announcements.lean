import Esp32WifiManager.Lib.Announce
import Esp32WifiManager.WifiManager.Handlers

/-!
# Flags of the manager that announce a message

A bit of the event group and a flag of `wifiman_msg.c` tell that a message is on
its way through the queue. What they have in common is the queue and the way a
send goes through it.
-/

namespace Esp32WifiManager
namespace WifiManager

open CString TaskSystem WifiCall

/-- A flag of the manager, the message that it announces with the timeout of its sends, and the
calls that change the flag. -/
structure MessageFlag where
  flag : WifiState → Bool
  isMsg : QueueMessage → Bool
  timeout : Timeout
  raises : WifiCall → Bool
  lowers : WifiCall → Bool
  field : Field
  agree : ∀ {s s'}, s.Agree s' field → flag s' = flag s
  writes : ∀ {o}, field ∈ o.writes → raises o = true ∨ lowers o = true
  writes_only : ∀ {o}, raises o = true ∨ lowers o = true → Field.msgQueue ∉ o.writes
  exec_raises : ∀ {t o c s r s'}, raises o = true → exec t o c s = some (r, s') → flag s' = true
  exec_lowers : ∀ {t o c s r s'}, lowers o = true → exec t o c s = some (r, s') → flag s' = false
  arrives : ∀ {req : Request}, field ∉ req.writes

namespace MessageFlag

variable (F : MessageFlag)

/-- The part of a call in a send, a receive and the end of the queue. The queue is there from the
start. -/
def queueRole : (o : WifiCall) → Role o.Ret
  | wifiManagerLock => .inside ()
  | isMsgQueueNull => .inside false
  | xQueueSend msg timeout =>
    if F.isMsg msg then if timeout = F.timeout then .post else .never else .other
  | xQueueReceive => .receive fun received => received.any F.isMsg
  | vQueueDelete => .drain
  | xQueueCreate => .never
  | _ => .other

def role (o : WifiCall) : Role o.Ret :=
  if F.raises o then .raise else if F.lowers o then .lower else F.queueRole o

/-- How many announced messages are in the queue. -/
def count (s : WifiState) : ℕ := s.queued.countP F.isMsg

def Missing (s : WifiState) : Prop := s.msgQueue = none

/-- A call that does not wait finds a free slot. -/
def Room : WifiCall → WifiState → Prop
  | xQueueSend _ .noWait, s => ∀ q, s.msgQueue = some q → ¬ q.IsFull
  | _, _ => True

/-- A send is a post, unless it carries another message. -/
theorem queueRole_send {msg : QueueMessage} {timeout : Timeout} {ρ : Role Bool}
    (h : F.queueRole (xQueueSend msg timeout) = ρ) :
    ρ = .post ∧ F.isMsg msg = true ∨ ρ = .never ∨ ρ = .other ∧ F.isMsg msg = false := by
  simp only [queueRole] at h
  split at h
  · rename_i hmsg
    split at h
    · exact .inl ⟨h.symm, hmsg⟩
    · exact .inr (.inl h.symm)
  · rename_i hmsg
    exact .inr (.inr ⟨h.symm, by simpa using hmsg⟩)

section Calls

variable {F} {t : TaskId} {o : WifiCall} {c : Reply} {s s' : WifiState} {r : o.Ret}

theorem role_raise (h : F.role o = .raise) : F.raises o = true := by
  unfold role at h
  split at h
  · assumption
  · split at h
    · exact absurd h (by simp)
    · cases o
      case xQueueSend msg timeout => rcases F.queueRole_send h with h | h | h <;> simp at h
      all_goals exact absurd h (by simp [queueRole])

theorem role_lower (h : F.role o = .lower) : F.lowers o = true := by
  unfold role at h
  split at h
  · exact absurd h (by simp)
  · split at h
    · assumption
    · cases o
      case xQueueSend msg timeout => rcases F.queueRole_send h with h | h | h <;> simp at h
      all_goals exact absurd h (by simp [queueRole])

/-- A call that neither raises nor lowers the flag plays its part in the queue. -/
theorem role_queue {role : Role o.Ret} (h : F.role o = role) (hraise : role ≠ .raise)
    (hlower : role ≠ .lower) : F.raises o = false ∧ F.lowers o = false ∧ F.queueRole o = role := by
  unfold MessageFlag.role at h
  split at h
  · exact absurd h.symm hraise
  · rename_i hr
    split at h
    · exact absurd h.symm hlower
    · rename_i hl
      exact ⟨by simpa using hr, by simpa using hl, h⟩

theorem role_drain (h : F.role o = .drain) : o = vQueueDelete := by
  obtain ⟨-, -, hq⟩ := role_queue h (by simp) (by simp)
  cases o
  case vQueueDelete => rfl
  case xQueueSend msg timeout => rcases F.queueRole_send hq with h | h | h <;> simp at h
  all_goals exact absurd hq (by simp [queueRole])

theorem room_of_send (h : F.role o = .post)
    (hroom : ∀ msg timeout, o = xQueueSend msg timeout → F.isMsg msg = true →
      ∀ q, s.msgQueue = some q → ¬ q.IsFull) : Room o s := by
  obtain ⟨-, -, hq⟩ := role_queue h (by simp) (by simp)
  cases o
  case xQueueSend msg timeout =>
    rcases F.queueRole_send hq with ⟨-, hmsg⟩ | h | h
    · cases timeout with
      | noWait => exact hroom msg .noWait rfl hmsg
      | portMaxDelay => exact trivial
    · exact absurd h (by simp)
    · exact absurd h.1 (by simp)
  all_goals exact absurd hq (by simp [queueRole])

/-- A message that is sent with a timeout finds room in the end. -/
theorem room_of_post (hF : F.timeout = .portMaxDelay) (h : F.role o = .post) : Room o s := by
  obtain ⟨-, -, hq⟩ := role_queue h (by simp) (by simp)
  cases o
  case xQueueSend msg timeout =>
    simp only [queueRole, hF] at hq
    split at hq
    · split at hq
      · rename_i htimeout
        rw [htimeout]
        exact trivial
      · exact absurd hq (by simp)
    · exact absurd hq (by simp)
  all_goals exact absurd hq (by simp [queueRole])

theorem flag_kept (hraise : F.raises o = false) (hlower : F.lowers o = false)
    (he : exec t o c s = some (r, s')) : F.flag s' = F.flag s := by
  apply F.agree
  apply exec_agree he
  intro hw
  rcases F.writes hw with h | h
  · exact absurd h (by simp [hraise])
  · exact absurd h (by simp [hlower])

theorem count_congr (h : s.Agree s' .msgQueue) : F.count s' = F.count s := by
  have hq : s'.msgQueue = s.msgQueue := h
  unfold count WifiState.queued
  rw [hq]

theorem missing_congr (h : s.Agree s' .msgQueue) : Missing s' ↔ Missing s := by
  have hq : s'.msgQueue = s.msgQueue := h
  unfold Missing
  rw [hq]

theorem count_append {msg : QueueMessage} (h : s'.queued = s.queued ++ [msg]) :
    F.count s' = F.count s + if F.isMsg msg then 1 else 0 := by
  unfold count
  rw [h, List.countP_append, List.countP_singleton]

theorem queue_kept (h : F.raises o = true ∨ F.lowers o = true) (he : exec t o c s = some (r, s')) :
    F.count s' = F.count s ∧ (Missing s' ↔ Missing s) :=
  ⟨count_congr (exec_agree he (F.writes_only h)), missing_congr (exec_agree he (F.writes_only h))⟩

/-- A send leaves the queue where it is. -/
theorem missing_send {msg : QueueMessage} {timeout : Timeout} {sent : Bool}
    (he : exec t (xQueueSend msg timeout) c s = some (sent, s')) : Missing s' ↔ Missing s := by
  rcases exec_xQueueSend he with ⟨rfl, -⟩ | ⟨q, q', hq, -, -, rfl⟩
  · exact Iff.rfl
  · simp [Missing, hq]

/-- A send that finds a free slot puts its message there. -/
theorem count_send {msg : QueueMessage} {timeout : Timeout} {sent : Bool}
    (he : exec t (xQueueSend msg timeout) c s = some (sent, s')) (hmsg : F.isMsg msg = true) :
    F.count s' ≤ F.count s + 1 ∧
      (¬ Missing s → Room (xQueueSend msg timeout) s → F.count s' = F.count s + 1) := by
  rcases exec_xQueueSend he with ⟨rfl, rfl, hnone | rfl⟩ | ⟨q, q', hq, hpush, -, rfl⟩
  · exact ⟨Nat.le_succ _, fun hthere => absurd hnone hthere⟩
  · refine ⟨Nat.le_succ _, fun hthere hroom => ?_⟩
    obtain ⟨q, hq⟩ := Option.ne_none_iff_exists'.mp hthere
    simp only [exec, hq] at he
    split at he
    · exact absurd he (by simp)
    · rename_i hpush
      exact absurd (BoundedQueue.push_eq_none.mp hpush) (hroom q hq)
  · have hone : F.count { s with msgQueue := some q' } = F.count s + 1 := by
      have hqueued : WifiState.queued { s with msgQueue := some q' } = s.queued ++ [msg] := by
        simp only [WifiState.queued, hq, Option.map_some, Option.getD_some,
          BoundedQueue.items_push hpush]
      rw [count_append hqueued, hmsg, if_pos rfl]
    exact ⟨hone.le, fun _ _ => hone⟩

theorem count_send_other {msg : QueueMessage} {timeout : Timeout} {sent : Bool}
    (he : exec t (xQueueSend msg timeout) c s = some (sent, s')) (hmsg : F.isMsg msg = false) :
    F.count s' = F.count s := by
  rcases queued_send he with rfl | hqueued
  · rfl
  · rw [count_append hqueued, hmsg]
    rfl

theorem count_receive {received : Option QueueMessage}
    (he : exec t xQueueReceive c s = some (received, s')) :
    (Missing s' ↔ Missing s) ∧ F.count s = F.count s' + if received.any F.isMsg then 1 else 0 := by
  have hthere : ¬ Missing s ∧ ¬ Missing s' := by
    obtain ⟨q, msg, q', hq, -, -, rfl⟩ := exec_xQueueReceive he
    exact ⟨by simp [Missing, hq], by simp [Missing]⟩
  obtain ⟨msg, rfl, hqueued⟩ := queued_receive he
  refine ⟨by simp [hthere.1, hthere.2], ?_⟩
  unfold count
  rw [hqueued, List.countP_cons]
  rfl

end Calls

/-- The flag with the queue, as an announcement. -/
def announcement : Announcement machine where
  role := F.role
  flag := F.flag
  count := F.count
  Missing := Missing
  Room := Room
  exec_raise := by
    intro t o c s r s' hrole he
    have hraise := role_raise hrole
    exact ⟨F.exec_raises hraise he, queue_kept (.inl hraise) he⟩
  exec_lower := by
    intro t o c s r s' hrole he
    have hlower := role_lower hrole
    exact ⟨F.exec_lowers hlower he, queue_kept (.inr hlower) he⟩
  exec_inside := by
    intro t o c s r s' go hrole he
    obtain ⟨hraise, hlower, hq⟩ := role_queue hrole (by simp) (by simp)
    refine ⟨flag_kept hraise hlower he, ?_⟩
    cases o
    case xQueueSend msg timeout => rcases F.queueRole_send hq with h | h | h <;> simp at h
    all_goals simp [queueRole] at hq
    case wifiManagerLock =>
      have hagree : s.Agree s' .msgQueue := machine_agree he (by simp [WifiCall.writes])
      exact ⟨count_congr hagree, missing_congr hagree, fun hr => absurd rfl hr⟩
    case isMsgQueueNull =>
      obtain ⟨rfl, rfl⟩ := Prod.mk.inj (Option.some.inj he)
      refine ⟨rfl, Iff.rfl, fun hr => ?_⟩
      rw [hq] at hr
      exact Option.isNone_iff_eq_none.mp (by simpa using hr)
  exec_post := by
    intro t o c s r s' hrole he
    obtain ⟨hraise, hlower, hq⟩ := role_queue hrole (by simp) (by simp)
    refine ⟨flag_kept hraise hlower he, ?_⟩
    cases o
    case xQueueSend msg timeout =>
      rcases F.queueRole_send hq with ⟨-, hmsg⟩ | h | h
      · exact ⟨missing_send (t := t) (c := c) he, count_send (t := t) (c := c) he hmsg⟩
      · exact absurd h (by simp)
      · exact absurd h.1 (by simp)
    all_goals exact absurd hq (by simp [queueRole])
  exec_receive := by
    intro t o c s r s' isMsg hrole he
    obtain ⟨hraise, hlower, hq⟩ := role_queue hrole (by simp) (by simp)
    refine ⟨flag_kept hraise hlower he, ?_⟩
    cases o
    case xQueueSend msg timeout => rcases F.queueRole_send hq with h | h | h <;> simp at h
    all_goals simp [queueRole] at hq
    case xQueueReceive =>
      subst hq
      exact count_receive (t := t) (c := c) he
  exec_drain := by
    intro t o c s r s' hrole he
    obtain ⟨hraise, hlower, hq⟩ := role_queue hrole (by simp) (by simp)
    refine ⟨flag_kept hraise hlower he, ?_⟩
    cases o
    case xQueueSend msg timeout => rcases F.queueRole_send hq with h | h | h <;> simp at h
    all_goals simp [queueRole] at hq
    case vQueueDelete =>
      obtain ⟨-, rfl⟩ := Prod.mk.inj (Option.some.inj he)
      rfl
  exec_other := by
    intro t o c s r s' hrole he
    obtain ⟨hraise, hlower, hq⟩ := role_queue hrole (by simp) (by simp)
    refine ⟨flag_kept hraise hlower he, ?_⟩
    by_cases hw : Field.msgQueue ∈ o.writes
    · rcases writes_msgQueue hw with rfl | ⟨msg, timeout, rfl⟩ | rfl | rfl
      · exact absurd hq (by simp [queueRole])
      · rcases F.queueRole_send hq with h | h | ⟨-, hmsg⟩
        · exact absurd h.1 (by simp)
        · exact absurd h (by simp)
        · exact ⟨count_send_other (t := t) (c := c) he hmsg, missing_send (t := t) (c := c) he⟩
      · exact absurd hq (by simp [queueRole])
      · exact absurd hq (by simp [queueRole])
    · exact ⟨count_congr (exec_agree he hw), missing_congr (exec_agree he hw)⟩
  arrive := by
    intro req s s' p h
    obtain ⟨hoccur, -⟩ := arrive_eq h
    have hqueue : s.Agree s' .msgQueue := occur_agree hoccur (by cases req <;> simp [Request.writes])
    exact ⟨F.agree (occur_agree hoccur F.arrives), count_congr hqueue, missing_congr hqueue⟩

/-- A call that has nothing to do with the flag, its message or the life of the queue. -/
def Aside (o : WifiCall) : Prop :=
  F.raises o = false ∧ F.lowers o = false ∧
    match o with
    | xQueueSend msg _ => F.isMsg msg = false
    | xQueueReceive | xQueueCreate | vQueueDelete => False
    | _ => True

section Programs

variable {F} {o : WifiCall} {t : TaskId} {α : Type} {p : WifiProg α}

theorem role_of_queueRole (hraise : F.raises o = false) (hlower : F.lowers o = false) :
    F.announcement.role o = F.queueRole o := by
  change F.role o = F.queueRole o
  unfold role
  rw [if_neg (by simp [hraise]), if_neg (by simp [hlower])]

theorem Aside.neutral (ho : F.Aside o) : F.announcement.Neutral o := by
  obtain ⟨hraise, hlower, hcall⟩ := ho
  unfold Announcement.Neutral
  rw [role_of_queueRole hraise hlower]
  cases o <;> first
    | exact .inl rfl
    | exact .inr ⟨_, rfl⟩
    | exact absurd hcall not_false
    | exact .inl (by simp only [queueRole, hcall, Bool.false_eq_true, if_false])

/-- What a handler does with the queue is to send. -/
theorem aside_of_mayCall {msg : QueueMessage} (ho : msg.MayCall o) (hraise : F.raises o = false)
    (hlower : F.lowers o = false)
    (hsend : ∀ m, o = xQueueSend m .portMaxDelay → F.isMsg m = false) : F.Aside o := by
  refine ⟨hraise, hlower, ?_⟩
  by_cases hw : Field.msgQueue ∈ o.writes
  · rcases ho.send hw with rfl | rfl | ⟨rfl, -⟩ <;> exact hsend _ rfl
  · cases o <;> first
      | exact trivial
      | exact absurd (by simp [WifiCall.writes]) hw

theorem orderly_of_aside (hp : p.All F.Aside) : F.announcement.Orderly t p .idle :=
  Announcement.orderly_of_neutral (hp.mono fun _ ho => ho.neutral)

theorem orderly_andThen {f : o.Ret → WifiProg α} (ho : F.Aside o)
    (hf : ∀ r, F.announcement.Orderly t (f r) .idle) :
    F.announcement.Orderly t (call o >>= f) .idle :=
  Announcement.orderly_bind (orderly_of_aside (.perform ho)) hf

/-- What clients do is orderly when their blocks are. -/
theorem orderly_of_client {posts : List QueueMessage} (hp : Client posts p)
    (hplain : ∀ o, o.Plain → F.Aside o) (hlock : F.Aside wifiManagerLock)
    (hunlock : F.Aside wifiManagerUnlock)
    (hsend : ∀ msg, msg.Unannounced → (wifimanMsgSend msg).All F.Aside)
    (hconnect : ∀ connReq, F.announcement.Orderly t (wifimanMsgSendCmdConnectSta connReq) .idle)
    (hfeed : F.announcement.Orderly t wifimanMsgSendCmdTaskWatchdogFeed .idle)
    (hscan : wifiManagerScanSync.All F.Aside) : F.announcement.Orderly t p .idle := by
  induction hp with
  | pure a => exact rfl
  | bind _ _ ih ihf => exact Announcement.orderly_bind ih ihf
  | plain ho => exact orderly_of_aside (.perform (hplain _ ho))
  | locked ho =>
    apply orderly_of_aside
    exact .bind (.perform hlock) fun _ => .bind (.perform (hplain _ ho)) fun _ => .perform hunlock
  | send hmsg _ => exact orderly_of_aside (hsend _ hmsg)
  | connect _ => exact hconnect _
  | feed _ => exact hfeed
  | scanSync _ => exact orderly_of_aside hscan

/-- A round is orderly when its handler is. -/
theorem taskHandle_orderly {msg : QueueMessage} {st : Stage}
    (hcallback : F.Aside (callback (.onMessage msg)))
    (hfinish : F.announcement.Orderly .server wifiManagerTaskFinish .idle)
    (hend : F.Aside (setManagerTask .none))
    (hmsg : F.announcement.Orderly .server (wifiManagerHandleMsg msg) st) :
    F.announcement.Orderly .server (wifiManagerTaskHandle msg) st := by
  apply Announcement.orderly_bind
  · apply Announcement.orderly_bind hmsg
    rintro ⟨flagTerminate, callCb⟩
    cases callCb with
    | false => exact rfl
    | true => exact orderly_of_aside ⟨hcallback, fun _ => trivial⟩
  · intro flagTerminate
    cases flagTerminate with
    | false => exact rfl
    | true =>
      apply Announcement.orderly_bind hfinish
      exact fun _ => orderly_of_aside (.perform hend)

/-- The manager task is orderly when its handlers are. -/
theorem lawful
    (hclient : ∀ (req : Request) t, F.announcement.Orderly t req.prog .idle)
    (hbegin : wifiManagerTaskBegin.All F.Aside)
    (hreceive : F.raises xQueueReceive = false ∧ F.lowers xQueueReceive = false)
    (hhandle : ∀ msg, F.announcement.Orderly .server (wifiManagerTaskHandle msg)
      (if F.isMsg msg then .handling else .idle)) : F.announcement.Lawful where
  arrive := by
    intro req s s' p i h
    obtain ⟨-, rfl⟩ := arrive_eq h
    exact hclient req _
  serve := by
    intro s p h
    rcases serve_cases h with ⟨-, rfl⟩ | ⟨-, rfl⟩
    · exact orderly_of_aside hbegin
    · rw [wifiManagerTaskRound_eq]
      unfold Announcement.Orderly
      rw [Prog.fold_call, role_of_queueRole hreceive.1 hreceive.2]
      refine ⟨rfl, rfl, fun received => ?_⟩
      cases received with
      | none => exact rfl
      | some msg => exact hhandle msg

end Programs

/-! ### The start -/

section Started

variable {F} {flag : Bool} {sta : WifimanConfigSta}

theorem started_idle (t : TaskId) : ¬ F.announcement.Busy (WifiConfig.started flag sta) t := by
  rintro ⟨x, hx, hstage⟩
  obtain ⟨-, rfl⟩ := started_task hx
  exact hstage rfl

theorem started_queue : ¬ Missing (WifiState.started flag sta) := by
  unfold Missing WifiState.started
  dsimp only
  split
  · exact Option.some_ne_none _
  · exact Option.some_ne_none _

theorem started_announced
    (h : F.flag (WifiState.started flag sta) = true ↔ 0 < F.count (WifiState.started flag sta)) :
    F.announcement.Announced (WifiConfig.started flag sta) where
  orderly := by
    intro t x hx
    obtain ⟨-, rfl⟩ := started_task hx
    exact rfl
  flag := by
    refine h.trans ⟨.inl, ?_⟩
    rintro (hcount | ⟨t, ht⟩)
    · exact hcount
    · exact absurd ht (started_idle t)
  missing := fun hmissing => absurd hmissing started_queue

end Started

end MessageFlag

end WifiManager
end Esp32WifiManager
