import Esp32WifiManager.WifiManager.Announcements

/-!
# The bit of a pending connect order

`CMD_STA_CONNECT_BIT` is set before a connect order is sent and cleared by the
handler of the first one. The handler of the disconnected event sends no order
of its own while the bit is set.
-/

namespace Esp32WifiManager
namespace WifiManager

open CString TaskSystem WifiCall

def QueueMessage.isConnectSta : QueueMessage → Bool
  | .orderConnectSta _ => true
  | _ => false

namespace ConnectPending

/-- The call sets the bit. -/
def sets : WifiCall → Bool
  | xEventGroupSetBits mask => mask.contains .cmdStaConnect
  | _ => false

/-- The call clears the bit. -/
def clears : WifiCall → Bool
  | xEventGroupClearBits mask => mask.contains .cmdStaConnect
  | _ => false

theorem of_sets {o : WifiCall} (h : sets o = true) :
    ∃ mask, o = xEventGroupSetBits mask ∧ .cmdStaConnect ∈ mask := by
  cases o <;> simp [sets] at h ⊢
  exact h

theorem of_clears {o : WifiCall} (h : clears o = true) :
    ∃ mask, o = xEventGroupClearBits mask ∧ .cmdStaConnect ∈ mask := by
  cases o <;> simp [clears] at h ⊢
  exact h

end ConnectPending

open ConnectPending

/-- `CMD_STA_CONNECT_BIT` and the orders that it announces. -/
def connectFlag : MessageFlag where
  flag s := s.eventBits .cmdStaConnect
  isMsg := QueueMessage.isConnectSta
  timeout := .portMaxDelay
  raises := sets
  lowers := clears
  field := .bit .cmdStaConnect
  agree := id
  writes := by
    intro o hw
    obtain ⟨mask, hmask, rfl | rfl⟩ := writes_bit hw
    · exact .inl (by simpa [sets] using hmask)
    · exact .inr (by simpa [clears] using hmask)
  writes_only := by
    rintro o (h | h)
    · obtain ⟨mask, rfl, -⟩ := of_sets h
      simp [WifiCall.writes]
    · obtain ⟨mask, rfl, -⟩ := of_clears h
      simp [WifiCall.writes]
  exec_raises := by
    intro t o c s r s' h he
    obtain ⟨mask, rfl, hmask⟩ := of_sets h
    exact bit_of_set (t := t) (c := c) he hmask
  exec_lowers := by
    intro t o c s r s' h he
    obtain ⟨mask, rfl, hmask⟩ := of_clears h
    exact bit_of_clear (t := t) (c := c) he hmask
  arrives := by
    intro req
    cases req <;> simp [Request.writes]

namespace ConnectPending

section Programs

attribute [local simp] Prog.perform Prog.fold_call Prog.fold_return wifimanMsgSend
  wifimanMsgSendWithTimeout MessageFlag.Aside connectFlag sets clears QueueMessage.isConnectSta

theorem plain_aside {o : WifiCall} (ho : o.Plain) : connectFlag.Aside o := by
  cases o <;> first
    | exact ⟨rfl, rfl, trivial⟩
    | exact absurd ho not_false
    | skip
  case xEventGroupSetBits mask => rcases ho with rfl | rfl | rfl <;> exact ⟨rfl, rfl, trivial⟩
  case xEventGroupClearBits mask =>
    obtain rfl := ho
    exact ⟨rfl, rfl, trivial⟩

/-- A send of a connect order raises the flag, posts the order and is done. -/
theorem connect_orderly (t : TaskId) (connReq : ConnectionRequest) :
    connectFlag.announcement.Orderly t (wifimanMsgSendCmdConnectSta connReq) .idle := by
  simp [Announcement.Orderly, wifimanMsgSendCmdConnectSta, MessageFlag.announcement,
    MessageFlag.role, MessageFlag.queueRole, Role.orderly]

theorem prog_orderly (req : Request) (t : TaskId) :
    connectFlag.announcement.Orderly t req.prog .idle := by
  apply MessageFlag.orderly_of_client req.prog_client
  · exact fun o ho => plain_aside ho
  · exact ⟨rfl, rfl, trivial⟩
  · exact ⟨rfl, rfl, trivial⟩
  · intro msg hmsg
    have hother : msg.isConnectSta = false := by
      cases msg <;> first | rfl | exact absurd hmsg not_false
    unfold Prog.All
    simp [-QueueMessage.isConnectSta, hother]
  · exact connect_orderly t
  · apply MessageFlag.orderly_of_aside
    unfold Prog.All
    simp [wifimanMsgSendCmdTaskWatchdogFeed, wifimanMsgTrySendWithoutWaiting]
  · unfold Prog.All
    simp [wifiManagerScanSync, wifimanMsgSendCmdStartWifiScan]

/-- The handler of a connect order clears the bit first. -/
theorem connectSta_orderly (connReq : ConnectionRequest) :
    connectFlag.announcement.Orderly .server (wifiHandleCmdConnectSta connReq) .handling := by
  have hrest : ∀ bits, (do
      wifiConnectStaSwitch connReq
      wifiConnectStaRun bits : WifiProg Unit).All connectFlag.Aside := by
    intro bits
    unfold Prog.All
    cases connReq <;>
      simp [wifiConnectStaSwitch, wifiConnectStaRun, wifimanMsgSendCmdDisconnectSta]
  refine ⟨rfl, rfl, fun _ => MessageFlag.orderly_of_aside ⟨?_, hrest⟩⟩
  exact ⟨rfl, rfl, trivial⟩

theorem staDisconnected_orderly (reason : WifiErrReason) :
    connectFlag.announcement.Orderly .server (wifiHandleEvStaDisconnected reason) .idle := by
  have hreason : ∀ bits, (wifiStaDisconnectedReason bits reason).All connectFlag.Aside := by
    intro bits
    unfold Prog.All
    simp [wifiStaDisconnectedReason, wifiHandleEvStaHandleLostConnection]
  have hupdate : ∀ code ssid,
      (wifiManagerUpdateNetworkConnectionInfo code (some ssid) none none).All connectFlag.Aside := by
    intro code ssid
    unfold Prog.All
    simp [wifiManagerUpdateNetworkConnectionInfo]
  apply MessageFlag.orderly_andThen (by exact ⟨rfl, rfl, trivial⟩)
  intro bits
  apply Announcement.orderly_bind (MessageFlag.orderly_of_aside (hreason bits))
  rintro ⟨code, flag⟩
  apply MessageFlag.orderly_andThen (by exact ⟨rfl, rfl, trivial⟩)
  intro cfg
  apply Announcement.orderly_bind (MessageFlag.orderly_of_aside (hupdate code _))
  intro _
  refine Announcement.orderly_bind ?_ fun _ => rfl
  unfold wifiStaDisconnectedReconnect
  split
  · exact Announcement.orderly_bind (connect_orderly _ _) fun _ => rfl
  · exact rfl

theorem disconnectSta_orderly :
    connectFlag.announcement.Orderly .server wifiHandleCmdDisconnectSta .idle := by
  apply MessageFlag.orderly_andThen (by exact ⟨rfl, rfl, trivial⟩)
  intro _
  apply MessageFlag.orderly_andThen (by exact ⟨rfl, rfl, trivial⟩)
  intro bits
  apply MessageFlag.orderly_andThen (by exact ⟨rfl, rfl, trivial⟩)
  intro _
  apply MessageFlag.orderly_andThen (by exact ⟨rfl, rfl, trivial⟩)
  intro _
  apply MessageFlag.orderly_andThen (by exact ⟨rfl, rfl, trivial⟩)
  intro _
  apply MessageFlag.orderly_andThen (by exact ⟨rfl, rfl, trivial⟩)
  intro _
  split
  · exact Announcement.orderly_bind (connect_orderly _ _) fun _ => rfl
  · exact rfl

/-- The other messages leave the bit alone. -/
theorem handleMsg_aside {msg : QueueMessage} (hconnect : ∀ connReq, msg ≠ .orderConnectSta connReq)
    (hevent : ∀ reason, msg ≠ .eventStaDisconnected reason) (horder : msg ≠ .orderDisconnectSta) :
    (wifiManagerHandleMsg msg).All connectFlag.Aside := by
  have hothers : ¬ ((∃ connReq, msg = .orderConnectSta connReq) ∨
      (∃ reason, msg = .eventStaDisconnected reason) ∨ msg = .orderDisconnectSta) := by
    rintro (⟨connReq, h⟩ | ⟨reason, h⟩ | h)
    · exact hconnect connReq h
    · exact hevent reason h
    · exact horder h
  apply (wifiManagerHandleMsg_allThen msg).all.mono
  intro o ho
  have hwrites : Field.bit .cmdStaConnect ∉ o.writes := fun hw => hothers (ho.cmdStaConnect hw)
  apply MessageFlag.aside_of_mayCall ho
  · apply Bool.eq_false_iff.mpr
    intro h
    obtain ⟨mask, rfl, hmask⟩ := of_sets h
    exact hwrites (List.mem_map_of_mem hmask)
  · apply Bool.eq_false_iff.mpr
    intro h
    obtain ⟨mask, rfl, hmask⟩ := of_clears h
    exact hwrites (List.mem_map_of_mem hmask)
  · rintro m rfl
    rcases ho.send (by simp [WifiCall.writes]) with h | h | ⟨-, h⟩
    · obtain ⟨rfl, -⟩ := xQueueSend.inj h
      rfl
    · obtain ⟨rfl, -⟩ := xQueueSend.inj h
      rfl
    · exact absurd (.inr h) hothers

theorem handleMsg_orderly (msg : QueueMessage) :
    connectFlag.announcement.Orderly .server (wifiManagerHandleMsg msg)
      (if connectFlag.isMsg msg then .handling else .idle) := by
  by_cases hconnect : ∃ connReq, msg = .orderConnectSta connReq
  · obtain ⟨connReq, rfl⟩ := hconnect
    exact Announcement.orderly_bind (connectSta_orderly connReq) fun _ => rfl
  by_cases hevent : ∃ reason, msg = .eventStaDisconnected reason
  · obtain ⟨reason, rfl⟩ := hevent
    exact Announcement.orderly_bind (staDisconnected_orderly reason) fun _ => rfl
  by_cases horder : msg = .orderDisconnectSta
  · subst horder
    exact Announcement.orderly_bind disconnectSta_orderly fun _ => rfl
  have hother : connectFlag.isMsg msg = false := by
    cases msg <;> first | rfl | exact absurd ⟨_, rfl⟩ hconnect
  rw [hother]
  exact MessageFlag.orderly_of_aside (handleMsg_aside (fun connReq h => hconnect ⟨connReq, h⟩)
    (fun reason h => hevent ⟨reason, h⟩) horder)

theorem finish_orderly :
    connectFlag.announcement.Orderly .server wifiManagerTaskFinish .idle := by
  simp [Announcement.Orderly, wifiManagerTaskFinish, wifimanMsgDeinit, MessageFlag.announcement,
    MessageFlag.role, MessageFlag.queueRole, Role.orderly]

theorem lawful : connectFlag.announcement.Lawful := by
  apply MessageFlag.lawful prog_orderly
  · unfold Prog.All
    simp [wifiManagerTaskBegin, wifiManagerWdtAddAndStart]
  · exact ⟨rfl, rfl⟩
  · intro msg
    apply MessageFlag.taskHandle_orderly _ finish_orderly _ (handleMsg_orderly msg)
    · exact ⟨rfl, rfl, trivial⟩
    · exact ⟨rfl, rfl, trivial⟩

end Programs

end ConnectPending

/-! ### Runs -/

/-- Task `t` has set the bit and not posted its order yet, or it has taken an order out of the
queue and is about to clear the bit. -/
def ConnectUnderWay (cfg : WifiConfig) (t : TaskId) : Prop := connectFlag.announcement.Busy cfg t

/-- Before each call: no connect order is sent while the queue is missing, the queue is not
deleted while the bit is set, and the bit is cleared only when no other connect order is queued or
under way. -/
def ConnectOrdersApart (cfg : WifiConfig) : WifiLabel → Prop
  | .arrive _ => True
  | .run t _ => ∀ o k w, cfg.task t = some ⟨.call o k, w⟩ →
    (sets o = true → cfg.shared.msgQueue ≠ none) ∧
    (o = vQueueDelete → cfg.shared.eventBits .cmdStaConnect = false) ∧
    (clears o = true → (∀ connReq, .orderConnectSta connReq ∉ cfg.shared.queued) ∧
      ∀ u ≠ t, ¬ ConnectUnderWay cfg u)

namespace ConnectPending

theorem count_pos {s : WifiState} :
    0 < connectFlag.count s ↔ ∃ connReq, .orderConnectSta connReq ∈ s.queued := by
  unfold MessageFlag.count
  rw [List.countP_pos_iff]
  constructor
  · rintro ⟨msg, hmem, hmsg⟩
    cases msg <;> simp [connectFlag, QueueMessage.isConnectSta] at hmsg
    exact ⟨_, hmem⟩
  · rintro ⟨connReq, hmem⟩
    exact ⟨_, hmem, rfl⟩

theorem meets_of_apart {cfg : WifiConfig} {l : WifiLabel} (h : ConnectOrdersApart cfg l) :
    connectFlag.announcement.Meets cfg l := by
  cases l with
  | arrive req => exact trivial
  | run t reply =>
    intro o k w htask
    obtain ⟨hset, hqueue, hclear⟩ := h o k w htask
    refine ⟨?_, ?_, ?_, ?_⟩
    · exact fun hrole => hset (MessageFlag.role_raise hrole)
    · exact fun hrole => MessageFlag.room_of_post rfl hrole
    · exact fun hrole => hqueue (MessageFlag.role_drain hrole)
    · intro hrole
      obtain ⟨hqueued, hothers⟩ := hclear (MessageFlag.role_lower hrole)
      refine ⟨?_, hothers⟩
      by_contra hne
      obtain ⟨connReq, hmem⟩ := count_pos.mp (Nat.pos_of_ne_zero hne)
      exact hqueued connReq hmem

/-- The first connect order is sent by the start itself. -/
theorem started_bit (flag : Bool) (sta : WifimanConfigSta) :
    (WifiState.started flag sta).eventBits .cmdStaConnect = true ↔
      ∃ connReq, .orderConnectSta connReq ∈ (WifiState.started flag sta).queued := by
  cases flag
  · simp [WifiState.started, WifiState.queued, EventBits.set, EventBits.zero]
  · cases hssid : CharBuf.isEmpty (CharBuf.ofStr 32 sta.wifiConfigSta.ssid.str)
    · simp [WifiState.started, WifiState.queued, EventBits.set, EventBits.zero, hssid,
        BoundedQueue.push, wifimanMsgQueueLength]
    · simp [WifiState.started, WifiState.queued, EventBits.set, EventBits.zero, hssid]

theorem started_announced (flag : Bool) (sta : WifimanConfigSta) :
    connectFlag.announcement.Announced (WifiConfig.started flag sta) :=
  MessageFlag.started_announced ((started_bit flag sta).trans count_pos.symm)

end ConnectPending

/-- In a run whose connect orders keep apart, the bit is set exactly while an order is queued or
under way; when the handler of the disconnected event finds it set, an order is still to come. -/
theorem connect_pending {flag : Bool} {sta : WifimanConfigSta} {labels : List WifiLabel}
    {cfg : WifiConfig}
    (hrun : Path machine ConnectOrdersApart (WifiConfig.started flag sta) labels cfg) :
    (cfg.shared.eventBits .cmdStaConnect = true ↔
      (∃ connReq, .orderConnectSta connReq ∈ cfg.shared.queued) ∨ ∃ t, ConnectUnderWay cfg t) ∧
    ∀ reason, cfg.server.prog = wifiManagerTaskHandle (.eventStaDisconnected reason) →
      cfg.shared.eventBits .cmdStaConnect = true →
      (∃ connReq, .orderConnectSta connReq ∈ cfg.shared.queued) ∨
        ∃ i, ConnectUnderWay cfg (.client i) := by
  have hpath : Path machine connectFlag.announcement.Meets (WifiConfig.started flag sta) labels cfg :=
    hrun.mono fun _ _ => ConnectPending.meets_of_apart
  have h := (ConnectPending.started_announced flag sta).path ConnectPending.lawful hpath
  have hflag : cfg.shared.eventBits .cmdStaConnect = true ↔
      (∃ connReq, .orderConnectSta connReq ∈ cfg.shared.queued) ∨ ∃ t, ConnectUnderWay cfg t :=
    h.flag.trans (or_congr ConnectPending.count_pos Iff.rfl)
  refine ⟨hflag, fun reason hserver hbit => ?_⟩
  rcases hflag.mp hbit with hqueued | ⟨t, x, hx, hstage⟩
  · exact .inl hqueued
  · cases t with
    | client i => exact .inr ⟨i, x, hx, hstage⟩
    | server =>
      -- the handler has not set the bit
      obtain rfl := Option.some.inj ((Config.task_server hserver).symm.trans hx)
      exact absurd rfl hstage

namespace ConnectPending

/-- `ConnectOrdersApart`, as a test. -/
def ordersApart (cfg : WifiConfig) : WifiLabel → Bool
  | .arrive _ => true
  | .run t _ => (cfg.task t).all fun x => x.prog.next.all fun o =>
    (!sets o || cfg.shared.msgQueue.isSome) &&
      (!decide (o = vQueueDelete) || !cfg.shared.eventBits .cmdStaConnect) &&
      (!clears o || decide (t = .server) && !cfg.shared.queued.any QueueMessage.isConnectSta &&
        cfg.clients.all fun x => decide (connectFlag.announcement.stage x.prog = .idle))

theorem apart_of_test {cfg : WifiConfig} {l : WifiLabel} (h : ordersApart cfg l = true) :
    ConnectOrdersApart cfg l := by
  cases l with
  | arrive req => exact trivial
  | run t reply =>
    intro o k w htask
    simp only [ordersApart, htask, Option.all_some, Prog.next, Bool.and_eq_true, Bool.or_eq_true,
      Bool.not_eq_true', decide_eq_false_iff_not] at h
    obtain ⟨⟨hset, hqueue⟩, hclear⟩ := h
    refine ⟨?_, ?_, ?_⟩
    · intro ho
      rcases hset with hset | hset
      · exact absurd ho (by simp [hset])
      · exact Option.isSome_iff_ne_none.mp hset
    · intro ho
      exact hqueue.resolve_left (fun hne => hne ho)
    · intro ho
      obtain ⟨⟨hserver, hqueued⟩, hclients⟩ := hclear.resolve_left (by simp [ho])
      obtain rfl := of_decide_eq_true hserver
      constructor
      · intro connReq hmem
        exact absurd rfl (List.any_eq_false.mp hqueued _ hmem)
      · rintro u hu ⟨x, hx, hstage⟩
        cases u with
        | server => exact hu rfl
        | client i =>
          have hidle := List.all_eq_true.mp hclients x (List.mem_of_getElem? hx)
          exact hstage (of_decide_eq_true hidle)

/-- The task starts, a connect order of the user is sent and handled. -/
def connectLabels : List WifiLabel :=
  runs .server 4 ++ .arrive .connectAsync :: runs (.client 0) 8 ++ runs .server 9

end ConnectPending

theorem connect_pending_one :
    ∃ cfg, Path machine ConnectOrdersApart (WifiConfig.started false homeConfig)
        ConnectPending.connectLabels cfg ∧
      (cfg.shared.eventBits .cmdStaConnect = true ↔
        (∃ connReq, .orderConnectSta connReq ∈ cfg.shared.queued) ∨ ∃ t, ConnectUnderWay cfg t) := by
  have hsome : (runWhere machine ConnectPending.ordersApart (WifiConfig.started false homeConfig)
      ConnectPending.connectLabels).isSome = true := by
    decide +kernel
  obtain ⟨cfg, hcfg⟩ := Option.isSome_iff_exists.mp hsome
  have hrun := Path.of_runWhere (fun _ _ => ConnectPending.apart_of_test) hcfg
  exact ⟨cfg, hrun, (connect_pending hrun).1⟩

/-- Two connect orders are queued when the first one is handled: the station is told to connect at
the start, and the user asks for a connection before the manager task has run. -/
def twoOrdersLabels : List WifiLabel :=
  .arrive .connectAsync :: runs (.client 0) 8 ++ runs .server 7

theorem connect_not_pending :
    ¬ ∀ (flag : Bool) (sta : WifimanConfigSta) (labels : List WifiLabel) (cfg : WifiConfig),
      Path machine (fun _ _ => True) (WifiConfig.started flag sta) labels cfg →
      (cfg.shared.eventBits .cmdStaConnect = true ↔
        (∃ connReq, .orderConnectSta connReq ∈ cfg.shared.queued) ∨ ∃ t, ConnectUnderWay cfg t) := by
  intro hclaim
  have htest : (runWhere machine (fun _ _ => true) (WifiConfig.started true homeConfig)
      twoOrdersLabels).any (fun cfg => !cfg.shared.eventBits .cmdStaConnect &&
        cfg.shared.queued.contains (.orderConnectSta .user)) = true := by
    decide +kernel
  obtain ⟨cfg, hcfg, htest⟩ := (Option.any_eq_true _ _).mp htest
  have hrun := Path.of_runWhere (P := fun _ _ => True) (fun _ _ _ => trivial) hcfg
  simp only [Bool.and_eq_true, Bool.not_eq_true', List.contains_iff_mem] at htest
  have hset := (hclaim _ _ _ cfg hrun).mpr (.inl ⟨.user, htest.2⟩)
  exact absurd hset (by simp [htest.1])

end WifiManager
end Esp32WifiManager
