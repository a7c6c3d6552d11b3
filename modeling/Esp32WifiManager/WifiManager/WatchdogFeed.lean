import Esp32WifiManager.WifiManager.Announcements
import Esp32WifiManager.WifiManager.Deadlock

/-!
# The flag of the watchdog order

A timer tick sends the watchdog order unless the flag says that the last one has
not been handled yet. The flag is read, raised and lowered under the mutex, so
there is one order at a time; it goes wrong when the order gets lost.
-/

namespace Esp32WifiManager
namespace WifiManager

open CString TaskSystem WifiCall

namespace WatchdogFeed

def raises : WifiCall → Bool
  | setFlagWdogFeedActive active => active
  | _ => false

def lowers : WifiCall → Bool
  | setFlagWdogFeedActive active => !active
  | _ => false

theorem of_raises {o : WifiCall} (h : raises o = true) : o = setFlagWdogFeedActive true := by
  cases o <;> simp [raises] at h ⊢
  exact h

theorem of_lowers {o : WifiCall} (h : lowers o = true) : o = setFlagWdogFeedActive false := by
  cases o <;> simp [lowers] at h ⊢
  exact h

theorem writes_flag {o : WifiCall} (h : Field.flagWdogFeedActive ∈ o.writes) :
    ∃ active, o = setFlagWdogFeedActive active := by
  cases o <;> simp [writes] at h ⊢
  case driver d => cases d <;> simp [DriverCall.writes] at h

end WatchdogFeed

open WatchdogFeed

/-- `g_wifiman_msg_flag_wdog_feed_active` and the order that it announces. -/
def feedFlag : MessageFlag where
  flag := WifiState.flagWdogFeedActive
  isMsg msg := decide (msg = .orderTaskWatchdogFeed)
  timeout := .noWait
  raises := raises
  lowers := lowers
  field := .flagWdogFeedActive
  agree := id
  writes := by
    intro o hw
    obtain ⟨active, rfl⟩ := writes_flag hw
    cases active
    · exact .inr rfl
    · exact .inl rfl
  writes_only := by
    rintro o (h | h)
    · obtain rfl := of_raises h
      simp [WifiCall.writes]
    · obtain rfl := of_lowers h
      simp [WifiCall.writes]
  exec_raises := by
    intro t o c s r s' h he
    obtain rfl := of_raises h
    obtain ⟨-, rfl⟩ := Prod.mk.inj (Option.some.inj he)
    rfl
  exec_lowers := by
    intro t o c s r s' h he
    obtain rfl := of_lowers h
    obtain ⟨-, rfl⟩ := Prod.mk.inj (Option.some.inj he)
    rfl
  arrives := by
    intro req
    cases req <;> simp [Request.writes]

namespace WatchdogFeed

section Programs

attribute [local simp] Prog.perform Prog.fold_call Prog.fold_return wifimanMsgSend
  wifimanMsgSendWithTimeout MessageFlag.Aside feedFlag raises lowers

theorem plain_aside {o : WifiCall} (ho : o.Plain) : feedFlag.Aside o := by
  cases o <;> first
    | exact ⟨rfl, rfl, trivial⟩
    | exact absurd ho not_false

/-- The tick raises the flag, posts the order and is done. -/
theorem feed_orderly (t : TaskId) :
    feedFlag.announcement.Orderly t wifimanMsgSendCmdTaskWatchdogFeed .idle := by
  simp [Announcement.Orderly, wifimanMsgSendCmdTaskWatchdogFeed, wifimanMsgTrySendWithoutWaiting,
    MessageFlag.announcement, MessageFlag.role, MessageFlag.queueRole, Role.orderly]

theorem prog_orderly (req : Request) (t : TaskId) :
    feedFlag.announcement.Orderly t req.prog .idle := by
  apply MessageFlag.orderly_of_client req.prog_client
  · exact fun o ho => plain_aside ho
  · exact ⟨rfl, rfl, trivial⟩
  · exact ⟨rfl, rfl, trivial⟩
  · intro msg hmsg
    have hother : msg ≠ .orderTaskWatchdogFeed := by
      rintro rfl
      exact hmsg
    unfold Prog.All
    simp [hother]
  · intro connReq
    apply MessageFlag.orderly_of_aside
    unfold Prog.All
    simp [wifimanMsgSendCmdConnectSta]
  · exact feed_orderly t
  · unfold Prog.All
    simp [wifiManagerScanSync, wifimanMsgSendCmdStartWifiScan]

theorem handleMsg_orderly (msg : QueueMessage) :
    feedFlag.announcement.Orderly .server (wifiManagerHandleMsg msg)
      (if feedFlag.isMsg msg then .handling else .idle) := by
  by_cases hmsg : msg = .orderTaskWatchdogFeed
  · subst hmsg
    simp [Announcement.Orderly, wifiManagerHandleMsg, wifimanMsgClearFlagWdogFeedActive,
      wifiManagerWdtTaskReset, MessageFlag.announcement, MessageFlag.role, MessageFlag.queueRole,
      Role.orderly]
  · have hother : feedFlag.isMsg msg = false := by simpa using hmsg
    rw [hother]
    apply MessageFlag.orderly_of_aside
    apply (wifiManagerHandleMsg_allThen msg).all.mono
    intro o ho
    apply MessageFlag.aside_of_mayCall ho
    · exact Bool.eq_false_iff.mpr fun h => absurd ((of_raises h ▸ ho).flag.2) (by simp)
    · exact Bool.eq_false_iff.mpr fun h => hmsg (of_lowers h ▸ ho).flag.1
    · rintro m rfl
      rcases ho.send (by simp [WifiCall.writes]) with h | h | ⟨h, -⟩ <;>
      · obtain ⟨rfl, -⟩ := xQueueSend.inj h
        rfl

theorem finish_orderly : feedFlag.announcement.Orderly .server wifiManagerTaskFinish .idle := by
  simp [Announcement.Orderly, wifiManagerTaskFinish, wifimanMsgDeinit, MessageFlag.announcement,
    MessageFlag.role, MessageFlag.queueRole, Role.orderly]

theorem lawful : feedFlag.announcement.Lawful := by
  apply MessageFlag.lawful prog_orderly
  · unfold Prog.All
    simp [wifiManagerTaskBegin, wifiManagerWdtAddAndStart]
  · exact ⟨rfl, rfl⟩
  · intro msg
    apply MessageFlag.taskHandle_orderly _ finish_orderly _ (handleMsg_orderly msg)
    · exact ⟨rfl, rfl, trivial⟩
    · exact ⟨rfl, rfl, trivial⟩

end Programs

/-! ### The check under the mutex -/

/-- The tick has read that the flag is down. -/
def feedRaise : WifiProg Unit := do
  call (setFlagWdogFeedActive true)
  let _ ← wifimanMsgTrySendWithoutWaiting .orderTaskWatchdogFeed
  call wifiManagerUnlock

/-- The tick has taken the mutex. -/
def feedCheck : WifiProg Unit := do
  let active ← call getFlagWdogFeedActive
  if active then call wifiManagerUnlock else feedRaise

theorem feed_eq : wifimanMsgSendCmdTaskWatchdogFeed = (do call wifiManagerLock; feedCheck) := by
  apply congrArg (Prog.call wifiManagerLock)
  funext _
  apply congrArg (Prog.call getFlagWdogFeedActive)
  funext active
  cases active <;> rfl

/-- A call that neither reads nor raises the flag. -/
def Away (o : WifiCall) : Prop := o ≠ getFlagWdogFeedActive ∧ raises o = false

/-- Where a task is with the flag. -/
inductive FeedPoint : WifiProg Unit → Prop
  | away {p : WifiProg Unit} : p.All Away → FeedPoint p
  | enter : FeedPoint wifimanMsgSendCmdTaskWatchdogFeed
  | check : FeedPoint feedCheck
  | raise : FeedPoint feedRaise

section Away

attribute [local simp] Prog.perform Prog.fold_call Prog.fold_return wifimanMsgSend
  wifimanMsgSendWithTimeout Away raises

theorem plain_away {o : WifiCall} (ho : o.Plain) : Away o := by
  constructor
  · rintro rfl
    exact ho
  · exact (plain_aside ho).1

theorem client_away {posts : List QueueMessage} {α : Type} {p : WifiProg α} (hp : Client posts p)
    (hposts : .orderTaskWatchdogFeed ∉ posts) : p.All Away := by
  induction hp with
  | pure a => exact trivial
  | bind _ _ ih ihf => exact ih.bind ihf
  | plain ho => exact .perform (plain_away ho)
  | locked ho =>
    exact .bind (.perform ⟨by simp, rfl⟩) fun _ => .bind (.perform (plain_away ho)) fun _ =>
      .perform ⟨by simp, rfl⟩
  | send _ _ =>
    unfold Prog.All
    simp
  | connect _ =>
    unfold Prog.All
    simp [wifimanMsgSendCmdConnectSta]
  | feed hmsg => exact absurd hmsg hposts
  | scanSync _ =>
    unfold Prog.All
    simp [wifiManagerScanSync, wifimanMsgSendCmdStartWifiScan]

theorem raise_not_away : ¬ feedRaise.All Away := by
  intro h
  exact absurd h.1.2 (by simp)

theorem prog_point (req : Request) : FeedPoint req.prog ∧ req.prog ≠ feedRaise := by
  by_cases hreq : req = .wdogTimerTick
  · subst hreq
    have hne : some wifiManagerLock ≠ some (setFlagWdogFeedActive true) := by simp
    exact ⟨.enter, fun h => absurd (congrArg Prog.next h) hne⟩
  · have haway : req.prog.All Away := by
      apply client_away req.prog_client
      cases req <;> simp [Request.posts] at hreq ⊢
    exact ⟨.away haway, fun h => raise_not_away (h ▸ haway)⟩

theorem serve_away {s : WifiState} {p : WifiProg Unit} (h : machine.serve s = some p) :
    p.All Away := by
  rcases serve_cases h with ⟨-, rfl⟩ | ⟨-, rfl⟩
  · unfold Prog.All
    simp [wifiManagerTaskBegin, wifiManagerWdtAddAndStart]
  · rw [wifiManagerTaskRound_eq]
    refine ⟨⟨by simp, rfl⟩, fun received => ?_⟩
    cases received with
    | none => exact trivial
    | some msg =>
      apply (wifiManagerTaskHandle_all msg).mono
      rintro o (ho | rfl | ⟨-, ho⟩)
      · constructor
        · rintro rfl
          exact not_mayCall_getFlag ho
        · exact Bool.eq_false_iff.mpr fun h => absurd ((of_raises h ▸ ho).flag.2) (by simp)
      · exact ⟨by simp, rfl⟩
      · revert o
        simp [OfFinish, or_imp, forall_and]

/-- The tick goes on to raise the flag when it has read that it is down. -/
theorem point_answer {t : TaskId} {o : WifiCall} {k : o.Ret → WifiProg Unit} {c : Reply}
    {s s' : WifiState} {r : o.Ret} (h : FeedPoint (.call o k)) (he : exec t o c s = some (r, s')) :
    FeedPoint (k r) ∧ (k r = feedRaise → s'.flagWdogFeedActive = false) := by
  generalize hp : Prog.call o k = p at h
  cases h with
  | away hall =>
    subst hp
    have hrest : (k r).All Away := hall.2 r
    exact ⟨.away hrest, fun hk => absurd (hk ▸ hrest) raise_not_away⟩
  | enter =>
    rw [feed_eq] at hp
    obtain ⟨rfl, hk⟩ := Prog.call.inj hp
    obtain rfl := eq_of_heq hk
    have hne : some getFlagWdogFeedActive ≠ some (setFlagWdogFeedActive true) := by simp
    exact ⟨.check, fun hk => absurd (congrArg Prog.next hk) hne⟩
  | check =>
    obtain ⟨rfl, hk⟩ := Prog.call.inj hp
    obtain rfl := eq_of_heq hk
    obtain ⟨hr, rfl⟩ := Prod.mk.inj (Option.some.inj he)
    cases r with
    | true =>
      have hne : some wifiManagerUnlock ≠ some (setFlagWdogFeedActive true) := by simp
      exact ⟨.away ⟨⟨by simp, rfl⟩, fun _ => trivial⟩, fun hk => absurd (congrArg Prog.next hk) hne⟩
    | false => exact ⟨.raise, fun _ => hr⟩
  | raise =>
    obtain ⟨rfl, hk⟩ := Prog.call.inj hp
    obtain rfl := eq_of_heq hk
    have hrest : (do
        let _ ← wifimanMsgTrySendWithoutWaiting .orderTaskWatchdogFeed
        call wifiManagerUnlock : WifiProg Unit).All Away := by
      unfold Prog.All
      simp [wifimanMsgTrySendWithoutWaiting]
    have hne : some wifiManagerLock ≠ some (setFlagWdogFeedActive true) := by simp
    exact ⟨.away hrest, fun hk => absurd (congrArg Prog.next hk) hne⟩

end Away

/-- The tick that is about to raise the flag holds the mutex. -/
theorem held_of_raise {t : TaskId} {d : ℕ} (h : mailbox.Balanced t feedRaise d) : 0 < d := by
  simp [Mailbox.Balanced, feedRaise, wifimanMsgTrySendWithoutWaiting, wifimanMsgSendWithTimeout,
    Prog.perform, Prog.fold_call, Prog.fold_return, mailbox, kind, Kind.balanced] at h
  omega

theorem FeedPoint.eq_raise {o : WifiCall} {k : o.Ret → WifiProg Unit} (h : FeedPoint (.call o k))
    (ho : raises o = true) : Prog.call o k = feedRaise := by
  generalize hp : Prog.call o k = p at h
  cases h with
  | away hall =>
    subst hp
    exact absurd hall.1.2 (by simp [ho])
  | enter =>
    rw [feed_eq] at hp
    obtain ⟨rfl, -⟩ := Prog.call.inj hp
    exact absurd ho (by simp [raises])
  | check =>
    obtain ⟨rfl, -⟩ := Prog.call.inj hp
    exact absurd ho (by simp [raises])
  | raise => rfl

/-- A tick that is about to raise the flag finds it down. -/
structure Checked (cfg : WifiConfig) : Prop where
  guarded : mailbox.Guarded cfg
  point : ∀ {t x}, cfg.task t = some x → FeedPoint x.prog
  down : ∀ {t x}, cfg.task t = some x → x.prog = feedRaise → cfg.shared.flagWdogFeedActive = false

variable {cfg cfg' : WifiConfig} {l : WifiLabel}

/-- While one tick is about to raise the flag, no other task raises it. -/
theorem Checked.down_other (h : Checked cfg) {t u : TaskId} {o : WifiCall}
    {k : o.Ret → WifiProg Unit} {w : Bool} {c : Reply} {r : o.Ret} {s : WifiState}
    {x : Task WifiCall WifiCall.Ret} (htask : cfg.task t = some ⟨.call o k, w⟩)
    (he : exec t o c cfg.shared = some (r, s)) (hut : u ≠ t) (hu : cfg.task u = some x)
    (hx : x.prog = feedRaise) : s.flagWdogFeedActive = false := by
  have hdown := h.down hu hx
  by_cases hw : Field.flagWdogFeedActive ∈ o.writes
  · obtain ⟨active, rfl⟩ := writes_flag hw
    obtain ⟨-, rfl⟩ := Prod.mk.inj (Option.some.inj he)
    cases active with
    | false => exact rfl
    | true =>
      have ht := (h.point htask).eq_raise rfl
      have hbt := h.guarded.balanced htask
      have hbu := h.guarded.balanced hu
      dsimp only at hbt
      rw [ht] at hbt
      rw [hx] at hbu
      exact absurd (RecMutex.held_unique (held_of_raise hbt) (held_of_raise hbu)) hut
  · have hagree : s.flagWdogFeedActive = cfg.shared.flagWdogFeedActive := exec_agree he hw
    rw [hagree]
    exact hdown

theorem Checked.step (h : Checked cfg) (hs : Step machine cfg l cfg') : Checked cfg' := by
  have hguarded := h.guarded.step WifiManager.lawful hs
  cases hs with
  | @answer t o k w reply r s htask he =>
    have htask' : (cfg.setShared s).task t = some ⟨.call o k, w⟩ := by simpa using htask
    obtain ⟨hpoint, hdown⟩ := point_answer (h.point htask) he
    refine ⟨hguarded, ?_, ?_⟩
    · intro u x hu
      rcases Config.setTask_cases htask' hu with ⟨-, rfl⟩ | ⟨-, hold⟩
      · exact hpoint
      · exact h.point (by simpa using hold)
    · intro u x hu hx
      rw [Config.setTask_shared]
      rcases Config.setTask_cases htask' hu with ⟨-, rfl⟩ | ⟨hut, hold⟩
      · exact hdown hx
      · exact h.down_other htask he hut (by simpa using hold) hx
  | @wait t o k w reply htask he =>
    refine ⟨hguarded, ?_, ?_⟩
    · intro u x hu
      rcases Config.setTask_cases htask hu with ⟨-, rfl⟩ | ⟨-, hold⟩
      · have hpoint := h.point htask
        exact hpoint
      · exact h.point hold
    · intro u x hu hx
      rw [Config.setTask_shared]
      rcases Config.setTask_cases htask hu with ⟨-, rfl⟩ | ⟨-, hold⟩
      · exact h.down htask hx
      · exact h.down hold hx
  | @serve a w reply p hserver hp =>
    have htask : cfg.task .server = some ⟨.pure a, w⟩ := congrArg some hserver
    refine ⟨hguarded, ?_, ?_⟩
    · intro u x hu
      rcases Config.setTask_cases htask hu with ⟨-, rfl⟩ | ⟨-, hold⟩
      · exact .away (serve_away hp)
      · exact h.point hold
    · intro u x hu hx
      rw [Config.setTask_shared]
      rcases Config.setTask_cases htask hu with ⟨-, rfl⟩ | ⟨-, hold⟩
      · exact absurd (hx ▸ serve_away hp) raise_not_away
      · exact h.down hold hx
  | @arrive req s p ha =>
    obtain ⟨hoccur, rfl⟩ := arrive_eq ha
    have hflag : s.flagWdogFeedActive = cfg.shared.flagWdogFeedActive :=
      occur_agree (f := .flagWdogFeedActive) hoccur feedFlag.arrives
    refine ⟨hguarded, ?_, ?_⟩
    · intro u x hu
      rcases Config.enter_task hu with hold | rfl
      · exact h.point hold
      · exact (prog_point req).1
    · intro u x hu hx
      change s.flagWdogFeedActive = false
      rw [hflag]
      rcases Config.enter_task hu with hold | rfl
      · exact h.down hold hx
      · exact absurd hx (prog_point req).2

end WatchdogFeed

/-! ### Runs -/

/-- Before each call: no watchdog order is sent where there is no queue or no free slot in it, and
the queue is not deleted with an order in it or under way. -/
def FeedsArrive (cfg : WifiConfig) : WifiLabel → Prop
  | .arrive _ => True
  | .run t _ => ∀ o k w, cfg.task t = some ⟨.call o k, w⟩ →
    (o = setFlagWdogFeedActive true → cfg.shared.msgQueue ≠ none) ∧
    (∀ timeout, o = xQueueSend .orderTaskWatchdogFeed timeout → ¬ cfg.shared.IsQueueFull) ∧
    (o = vQueueDelete → cfg.shared.flagWdogFeedActive = false)

namespace WatchdogFeed

variable {cfg cfg' : WifiConfig} {l : WifiLabel}

theorem meets_of_arrive (h : FeedsArrive cfg l) (hsingle : feedFlag.announcement.Single cfg) :
    feedFlag.announcement.Meets cfg l := by
  cases l with
  | arrive req => exact trivial
  | run t reply =>
    intro o k w htask
    obtain ⟨hraise, hsend, hdelete⟩ := h o k w htask
    refine ⟨?_, ?_, ?_, ?_⟩
    · exact fun hrole => hraise (of_raises (MessageFlag.role_raise hrole))
    · intro hrole
      apply MessageFlag.room_of_send hrole
      rintro msg timeout rfl hmsg q hq hfull
      obtain rfl := of_decide_eq_true hmsg
      exact hsend timeout rfl ⟨q, hq, hfull⟩
    · exact fun hrole => hdelete (MessageFlag.role_drain hrole)
    · exact fun hrole => hsingle.alone (Announcement.busy_of_lower htask hrole)

/-- What holds of the flag in all runs, and in those that lose no order. -/
structure FeedInvariant (cfg : WifiConfig) : Prop where
  checked : Checked cfg
  announced : feedFlag.announcement.Announced cfg
  single : feedFlag.announcement.Single cfg

theorem FeedInvariant.step (h : FeedInvariant cfg) (hl : FeedsArrive cfg l)
    (hs : Step machine cfg l cfg') : FeedInvariant cfg' where
  checked := h.checked.step hs
  announced := h.announced.step lawful (meets_of_arrive hl h.single) hs
  single := by
    apply h.single.step lawful h.announced _ hs
    intro t c o k w _ htask hrole
    have hraise := (h.checked.point htask).eq_raise (MessageFlag.role_raise hrole)
    exact h.checked.down htask hraise

theorem FeedInvariant.path {labels : List WifiLabel} (h : FeedInvariant cfg)
    (hrun : Path machine FeedsArrive cfg labels cfg') : FeedInvariant cfg' := by
  induction hrun with
  | nil => exact h
  | cons hs hl _ ih => exact ih (h.step hl hs)

theorem count_pos {s : WifiState} :
    0 < feedFlag.count s ↔ .orderTaskWatchdogFeed ∈ s.queued := by
  unfold MessageFlag.count
  rw [List.countP_pos_iff]
  constructor
  · rintro ⟨msg, hmem, hmsg⟩
    obtain rfl := of_decide_eq_true hmsg
    exact hmem
  · intro hmem
    exact ⟨_, hmem, by simp [feedFlag]⟩

end WatchdogFeed

namespace WatchdogFeed

end WatchdogFeed

end WifiManager
end Esp32WifiManager
