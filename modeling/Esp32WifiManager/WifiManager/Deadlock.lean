import Esp32WifiManager.WifiManager.Frames

/-!
# Deadlocks of the message queue

The queue has three slots, and a sender keeps the mutex while it waits for one.
The manager task takes the mutex itself, to feed the watchdog, to finish a scan
and whenever a handler posts a message, before it receives the next message.
-/

namespace Esp32WifiManager
namespace WifiManager

open CString TaskSystem WifiCall

/-- What a call does to the mutex and the queue. -/
def WifiCall.kind : WifiCall → Kind
  | wifiManagerLock => .lock
  | wifiManagerUnlock => .unlock
  | xQueueSend _ .portMaxDelay => .send
  | xQueueSend _ .noWait => .trySend
  | xQueueReceive => .receive
  | vQueueDelete => .drain
  | xQueueCreate => .drain
  | _ => .other

/-- The queue exists and has no free slot. -/
def WifiState.IsQueueFull (s : WifiState) : Prop :=
  ∃ q, s.msgQueue = some q ∧ q.IsFull

section Exec

variable {t : TaskId} {o : WifiCall} {c : Reply} {s s' : WifiState} {r : o.Ret}

theorem isQueueFull_congr (h : s.Agree s' .msgQueue) : s'.IsQueueFull ↔ s.IsQueueFull := by
  have hq : s'.msgQueue = s.msgQueue := h
  unfold WifiState.IsQueueFull
  rw [hq]

theorem exec_other (hk : o.kind = .other) (h : exec t o c s = some (r, s')) :
    s'.mutex = s.mutex ∧ (s'.IsQueueFull ↔ s.IsQueueFull) := by
  have hmutex : Field.mutex ∉ o.writes := by
    intro hw
    cases o <;> simp [writes, kind] at hw hk
    case driver d => cases d <;> simp [DriverCall.writes] at hw
  have hqueue : Field.msgQueue ∉ o.writes := by
    intro hw
    cases o <;> simp [writes, kind] at hw hk
    case xQueueSend msg timeout => cases timeout <;> simp at hk
    case driver d => cases d <;> simp [DriverCall.writes] at hw
  exact ⟨exec_agree h hmutex, isQueueFull_congr (exec_agree h hqueue)⟩

/-- The calls of each kind. -/
theorem kind_eq (o : WifiCall) :
    (o.kind = .lock ↔ o = wifiManagerLock) ∧ (o.kind = .unlock ↔ o = wifiManagerUnlock) ∧
      (o.kind = .send ↔ ∃ msg, o = xQueueSend msg .portMaxDelay) ∧
      (o.kind = .trySend ↔ ∃ msg, o = xQueueSend msg .noWait) ∧
      (o.kind = .receive ↔ o = xQueueReceive) ∧
      (o.kind = .drain ↔ o = vQueueDelete ∨ o = xQueueCreate) := by
  cases o <;> simp [kind]
  case xQueueSend msg timeout => cases timeout <;> simp

theorem kind_eq_lock : o.kind = .lock ↔ o = wifiManagerLock := (kind_eq o).1

theorem kind_eq_unlock : o.kind = .unlock ↔ o = wifiManagerUnlock := (kind_eq o).2.1

theorem kind_eq_send : o.kind = .send ↔ ∃ msg, o = xQueueSend msg .portMaxDelay :=
  (kind_eq o).2.2.1

theorem kind_eq_trySend : o.kind = .trySend ↔ ∃ msg, o = xQueueSend msg .noWait :=
  (kind_eq o).2.2.2.1

theorem kind_eq_receive : o.kind = .receive ↔ o = xQueueReceive := (kind_eq o).2.2.2.2.1

theorem kind_eq_drain : o.kind = .drain ↔ o = vQueueDelete ∨ o = xQueueCreate :=
  (kind_eq o).2.2.2.2.2

end Exec

/-- The message queue as the mailbox of the manager task. -/
def mailbox : Mailbox machine where
  kind := WifiCall.kind
  mutex := WifiState.mutex
  Full := WifiState.IsQueueFull
  exec_lock := by
    intro t o c s r s' hk h
    obtain rfl := kind_eq_lock.mp hk
    obtain ⟨m, hm, heq⟩ := Option.map_eq_some_iff.mp h
    obtain ⟨-, rfl⟩ := Prod.mk.inj heq
    exact ⟨hm, Iff.rfl⟩
  lock_waits := by
    intro t o c s hk hm
    obtain rfl := kind_eq_lock.mp hk
    exact Option.map_eq_none_iff.mpr hm
  exec_unlock := by
    intro t o c s r s' hk h
    obtain rfl := kind_eq_unlock.mp hk
    obtain ⟨-, rfl⟩ := Prod.mk.inj (Option.some.inj h)
    exact ⟨rfl, Iff.rfl⟩
  exec_send := by
    intro t o c s r s' hk h
    obtain ⟨msg, rfl⟩ := kind_eq_send.mp hk
    rcases exec_xQueueSend (t := t) (c := c) h with ⟨rfl, -, hnull | hnow⟩ | ⟨q, q', hq, hpush, -, rfl⟩
    · exact ⟨rfl, fun ⟨q, hq, _⟩ => by simp [hnull] at hq⟩
    · exact absurd hnow (by simp)
    · refine ⟨rfl, ?_⟩
      rintro ⟨p, hp, hfull⟩
      obtain rfl := Option.some.inj (hq.symm.trans hp)
      exact BoundedQueue.not_isFull_of_push hpush hfull
  send_waits := by
    intro t o c s hk h
    obtain ⟨msg, rfl⟩ := kind_eq_send.mp hk
    simp only [machine, exec] at h
    split at h
    · exact absurd h (by simp)
    · rename_i q hq
      split at h
      · exact absurd h (by simp)
      · rename_i hpush
        exact ⟨q, hq, BoundedQueue.push_eq_none.mp hpush⟩
  exec_trySend := by
    intro t o c s r s' hk h
    obtain ⟨msg, rfl⟩ := kind_eq_trySend.mp hk
    rcases exec_xQueueSend (t := t) (c := c) h with ⟨rfl, -⟩ | ⟨q, q', hq, hpush, -, rfl⟩
    · exact ⟨rfl, id⟩
    · refine ⟨rfl, ?_⟩
      rintro ⟨p, hp, hfull⟩
      obtain rfl := Option.some.inj (hq.symm.trans hp)
      exact absurd hfull (BoundedQueue.not_isFull_of_push hpush)
  exec_receive := by
    intro t o c s r s' hk h
    obtain rfl := kind_eq_receive.mp hk
    obtain ⟨q, msg, q', hq, hpop, -, rfl⟩ := exec_xQueueReceive (t := t) (c := c) h
    refine ⟨rfl, ?_⟩
    rintro ⟨p, hp, hfull⟩
    obtain rfl := Option.some.inj hp
    exact BoundedQueue.not_isFull_of_pop hpop hfull
  exec_drain := by
    intro t o c s r s' hk h
    rcases kind_eq_drain.mp hk with rfl | rfl
    · obtain ⟨-, rfl⟩ := Prod.mk.inj (Option.some.inj h)
      exact ⟨rfl, fun ⟨q, hq, _⟩ => absurd hq (by simp)⟩
    · simp only [machine, exec] at h
      split at h
      · obtain ⟨-, rfl⟩ := Prod.mk.inj (Option.some.inj h)
        refine ⟨rfl, ?_⟩
        rintro ⟨q, hq, hfull⟩
        obtain rfl := Option.some.inj hq
        exact absurd hfull (by decide)
      · obtain ⟨-, rfl⟩ := Prod.mk.inj (Option.some.inj h)
        exact ⟨rfl, fun ⟨q, hq, _⟩ => absurd hq (by simp)⟩
  exec_other := exec_other
  arrive := by
    intro req s s' p h
    obtain ⟨hs, -⟩ := arrive_eq h
    have hmutex : Field.mutex ∉ req.writes := by
      cases req <;> simp [Request.writes]
    have hqueue : Field.msgQueue ∉ req.writes := by
      cases req <;> simp [Request.writes]
    exact ⟨occur_agree hs hmutex, isQueueFull_congr (occur_agree hs hqueue)⟩

/-! ### Every program is balanced -/

theorem WifiCall.Plain.kind {o : WifiCall} (ho : o.Plain) : o.kind = .other := by
  cases o <;> first
    | rfl
    | exact absurd ho not_false

/-- A client of the manager releases the mutex as often as it takes it. -/
theorem Client.balanced {posts : List QueueMessage} {α : Type} {p : WifiProg α}
    (hp : Client posts p) (i : ℕ) {X : α → ℕ → Prop} (hX : ∀ a, X a 0) :
    p.fold (fun o X d => (mailbox.kind o).balanced (.client i) X d) X 0 := by
  induction hp with
  | pure a => exact hX a
  | bind _ _ ih ihf =>
    rw [Prog.fold_bind]
    exact ih fun a => ihf a hX
  | plain ho =>
    have hk : mailbox.kind _ = .other := ho.kind
    simp only [Prog.perform, Prog.fold_call, Prog.fold_return, hk]
    exact hX
  | locked ho =>
    have hk : mailbox.kind _ = .other := ho.kind
    simp only [Prog.fold_bind, Prog.perform, Prog.fold_call, Prog.fold_return, hk]
    exact fun _ _ => ⟨Nat.one_pos, hX⟩
  | send _ _ =>
    simp [wifimanMsgSend, wifimanMsgSendWithTimeout, Prog.perform, Prog.fold_call, Prog.fold_return,
      mailbox, kind, Kind.balanced, ite_apply, hX]
  | connect _ =>
    simp [wifimanMsgSendCmdConnectSta, wifimanMsgSend, wifimanMsgSendWithTimeout, Prog.perform,
      Prog.fold_call, Prog.fold_return, mailbox, kind, Kind.balanced, ite_apply, hX]
  | feed _ =>
    simp [wifimanMsgSendCmdTaskWatchdogFeed, wifimanMsgTrySendWithoutWaiting,
      wifimanMsgSendWithTimeout, Prog.perform, Prog.fold_call, Prog.fold_return, mailbox, kind,
      Kind.balanced, hX]
  | scanSync _ =>
    simp [wifiManagerScanSync, wifimanMsgSendCmdStartWifiScan, wifimanMsgSend,
      wifimanMsgSendWithTimeout, Prog.perform, Prog.fold_call, Prog.fold_return, mailbox, kind,
      Kind.balanced, ite_apply, hX]

theorem Request.balanced (req : Request) (i : ℕ) : mailbox.Balanced (.client i) req.prog 0 :=
  req.prog_client.balanced i fun _ => rfl

theorem wifiManagerHandleMsg_balanced (msg : QueueMessage) (X : Bool × Bool → ℕ → Prop)
    (hX : ∀ a, X a 0) :
    (wifiManagerHandleMsg msg).fold (fun o X d => (mailbox.kind o).balanced .server X d) X 0 := by
  cases msg
  case orderConnectSta connReq =>
    cases connReq <;>
      simp [wifiManagerHandleMsg, wifiHandleCmdConnectSta, wifiConnectStaSwitch, wifiConnectStaRun,
        wifimanMsgSendCmdDisconnectSta, wifimanMsgSend, wifimanMsgSendWithTimeout, Prog.perform,
        Prog.fold_call, Prog.fold_return, mailbox, kind, Kind.balanced, ite_apply, hX]
  all_goals
    simp [wifiManagerHandleMsg, wifiHandleCmdStartWifiScan, wifiScanNext, wifimanMsgSendEvScanDone,
      wifiHandleCmdConnectEth, wifiHandleCmdDisconnectEth,
      wifiHandleCmdDisconnectSta, wifimanMsgSendCmdConnectSta, wifiHandleCmdStartAp, wifiHandleCmdStopAp,
      wifiHandleEvStaDisconnected, wifiStaDisconnectedReason, wifiStaDisconnectedReconnect,
      wifiHandleEvStaHandleLostConnection,
      wifimanConfigStaGetSsid, wifiManagerUpdateNetworkConnectionInfo, wifiHandleEvScanNext, wifiMangerNotifyScanDone,
      wifiHandleEvScanDone, wifiHandleEvStaGotIp, wifiHandleEvApStaConnected, wifiHandleEvApStaDisconnected,
      wifiHandleEvApStaIpAssigned, wifiManagerIsConnectedToWifi, wifiHandleCmdEnableWps, wifiHandleCmdDisableWps,
      wifimanMsgClearFlagWdogFeedActive, wifiManagerWdtTaskReset, wifimanMsgSend,
      wifimanMsgSendWithTimeout, Prog.perform, Prog.fold_call,
      Prog.fold_return, mailbox, kind, Kind.balanced, ite_apply, hX]
theorem wifiManagerTaskFinish_balanced (X : Unit → ℕ → Prop) (hX : X () 0) :
    wifiManagerTaskFinish.fold (fun o X d => (mailbox.kind o).balanced .server X d) X 0 := by
  simp [wifiManagerTaskFinish, wifimanMsgDeinit, Prog.perform, Prog.fold_call, Prog.fold_return,
    mailbox, kind, Kind.balanced, hX]

theorem wifiManagerTaskHandle_balanced (msg : QueueMessage) :
    mailbox.Balanced .server (wifiManagerTaskHandle msg) 0 := by
  unfold Mailbox.Balanced wifiManagerTaskHandle
  simp only [Prog.fold_bind]
  apply wifiManagerHandleMsg_balanced
  rintro ⟨flagTerminate, callCb⟩
  have hend : mailbox.Balanced .server (do
      if flagTerminate then
        wifiManagerTaskFinish
        call (setManagerTask .none) : WifiProg Unit) 0 := by
    cases flagTerminate with
    | false => exact rfl
    | true =>
      unfold Mailbox.Balanced
      rw [if_pos rfl, Prog.fold_bind]
      exact wifiManagerTaskFinish_balanced _ fun _ => rfl
  cases callCb with
  | false => exact hend
  | true => exact fun _ => hend

theorem lawful : mailbox.Lawful where
  arrive := by
    intro req s s' p i h
    obtain ⟨-, rfl⟩ := arrive_eq h
    exact req.balanced i
  serve := by
    intro s p h
    rcases serve_cases h with ⟨-, rfl⟩ | ⟨-, rfl⟩
    · simp [Mailbox.Balanced, Mailbox.Calm, wifiManagerTaskBegin, wifiManagerWdtAddAndStart,
        Prog.perform, Prog.fold_call, Prog.fold_return, mailbox, kind, Kind.balanced, Kind.calm]
    · rw [wifiManagerTaskRound_eq]
      refine ⟨⟨rfl, fun received => ?_⟩, trivial⟩
      cases received with
      | none => exact rfl
      | some msg => exact wifiManagerTaskHandle_balanced msg

/-! ### Runs -/

variable {flag : Bool} {sta : WifimanConfigSta} {labels : List WifiLabel} {cfg : WifiConfig}

theorem started_safe (flag : Bool) (sta : WifimanConfigSta) :
    mailbox.Safe (WifiConfig.started flag sta) where
  balanced := by
    intro t x h
    obtain ⟨-, rfl⟩ := started_task h
    exact rfl
  absent := by
    intro t _
    exact rfl
  calm := by
    intro t o k h
    obtain ⟨-, hx⟩ := started_task h
    exact absurd hx (by simp)

/-- In a run in which a task that is about to wait for a slot of the full queue always finds the
manager task on its way to the next message, the manager task is never blocked for ever. -/
theorem manager_not_deadlocked
    (hrun : Path machine mailbox.Roomy (WifiConfig.started flag sta) labels cfg) :
    ¬ mailbox.Deadlocked cfg :=
  Mailbox.not_deadlocked_of_path lawful (started_safe flag sta) hrun

/-- The queue has room for a message. -/
def hasRoom (cfg : WifiConfig) : Bool :=
  match cfg.shared.msgQueue with
  | none => true
  | some q => !decide q.IsFull

theorem roomy_of_hasRoom (cfg : WifiConfig) (l : WifiLabel) (h : hasRoom cfg = true) :
    mailbox.Roomy cfg l := by
  cases l with
  | arrive req => exact trivial
  | run t reply =>
    rintro o k w - - ⟨q, hq, hfull⟩
    simp [hasRoom, hq, hfull] at h

/-- The task starts, and two clients post messages that it handles. -/
def quietLabels : List WifiLabel :=
  runs .server 5 ++ .arrive .disconnectEth :: runs (.client 0) 4 ++ .arrive .stopAp ::
    runs (.client 1) 4 ++ runs .server 12

theorem quiet_run_not_deadlocked :
    ∃ cfg, Path machine mailbox.Roomy (WifiConfig.started false WifiState.zero.config)
      quietLabels cfg ∧ ¬ mailbox.Deadlocked cfg := by
  have hsome : (runWhere machine (fun cfg _ => hasRoom cfg)
      (WifiConfig.started false WifiState.zero.config) quietLabels).isSome = true := by
    decide +kernel
  obtain ⟨cfg, hcfg⟩ := Option.isSome_iff_exists.mp hsome
  have hrun : Path machine mailbox.Roomy (WifiConfig.started false WifiState.zero.config)
      quietLabels cfg := Path.of_runWhere roomy_of_hasRoom hcfg
  exact ⟨cfg, hrun, manager_not_deadlocked hrun⟩

/-- The manager task has taken the watchdog message and goes for the mutex; three messages fill the
queue, and a fourth client waits for a slot with the mutex in its hands. -/
def deadlockLabels : List WifiLabel :=
  runs .server 4 ++ .arrive .wdogTimerTick :: runs (.client 0) 8 ++ runs .server 2 ++
    .arrive .disconnectEth :: runs (.client 1) 4 ++
    .arrive .disconnectEth :: runs (.client 2) 4 ++
    .arrive .disconnectEth :: runs (.client 3) 4 ++
    .arrive .disconnectEth :: runs (.client 4) 3 ++ runs .server 1

/-- A deadlock, as a test, with client `i` as the holder of the mutex. -/
def isDeadlockedWith (i : ℕ) (cfg : WifiConfig) : Bool :=
  !hasRoom cfg && mailbox.waits cfg .server .lock && 0 < cfg.shared.mutex.held (.client i) &&
    mailbox.waits cfg (.client i) .send

theorem deadlocked_of_test {i : ℕ} (h : isDeadlockedWith i cfg = true) : mailbox.Deadlocked cfg := by
  simp only [isDeadlockedWith, Bool.and_eq_true, decide_eq_true_eq] at h
  obtain ⟨⟨⟨hfull, hserver⟩, hholds⟩, hclient⟩ := h
  refine ⟨?_, .inr ⟨Mailbox.waits_of_test hserver, .client i, by simp, hholds,
    Mailbox.waits_of_test hclient⟩⟩
  unfold hasRoom at hfull
  split at hfull
  · exact absurd hfull (by simp)
  · rename_i q hq
    exact ⟨q, hq, by simpa using hfull⟩

theorem guarded_of_path {ok : WifiConfig → WifiLabel → Prop}
    (hrun : Path machine ok (WifiConfig.started flag sta) labels cfg) : mailbox.Guarded cfg :=
  hrun.invariant (fun hg _ hs => hg.step lawful hs) (started_safe flag sta).toGuarded

/-- After `deadlockLabels` the manager task never makes another call. -/
theorem manager_deadlocked :
    ¬ ∀ (flag : Bool) (sta : WifimanConfigSta) (labels : List WifiLabel) (cfg : WifiConfig),
      Path machine (fun _ _ => True) (WifiConfig.started flag sta) labels cfg →
        ¬ (mailbox.Deadlocked cfg ∧ ∀ labels' cfg',
          Path machine (fun _ _ => True) cfg labels' cfg' → cfg'.server = cfg.server) := by
  intro hclaim
  have htest : (runWhere machine (fun _ _ => true)
      (WifiConfig.started false WifiState.zero.config) deadlockLabels).any
        (isDeadlockedWith 4) = true := by
    decide +kernel
  obtain ⟨cfg, hcfg, hdead⟩ := (Option.any_eq_true _ _).mp htest
  have hrun := Path.of_runWhere (P := fun _ _ => True) (fun _ _ _ => trivial) hcfg
  have hdead := deadlocked_of_test hdead
  refine hclaim _ _ _ cfg hrun ⟨hdead, fun labels' cfg' hrest => ?_⟩
  exact hdead.forever lawful (guarded_of_path hrun) hrest

end WifiManager
end Esp32WifiManager
