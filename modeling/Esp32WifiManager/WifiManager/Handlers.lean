import Esp32WifiManager.Lib.Contract
import Esp32WifiManager.WifiManager.Frames

/-!
# What the handlers call

For each message the calls that its handler can make, and the rules that reduce a
round of the manager task to what its handler keeps.
-/

namespace Esp32WifiManager
namespace WifiManager

open CString TaskSystem WifiCall

/-- The calls of a sender that posts one of `posts`. -/
def WifiCall.OfSender (posts : List QueueMessage) (o : WifiCall) : Prop :=
  o = wifiManagerLock ∨ o = isMsgQueueNull ∨ o = wifiManagerUnlock ∨
    ∃ msg ∈ posts, o = xQueueSend msg .portMaxDelay

/-- The calls of `wifi_manager_update_network_connection_info` after a loss. -/
def WifiCall.OfLossUpdate (o : WifiCall) : Prop :=
  o = staIpSafeReset ∨ o = xEventGroupClearBits [.wifiConnected, .ethConnected] ∨
    ∃ ssid info reason, reason ≠ .connectionOk ∧ o = jsonNetworkInfoUpdate ssid info reason

@[simp] theorem forall_eq_okUpdate {P : WifiCall → Prop} :
    (∀ o ssid info, o = jsonNetworkInfoUpdate ssid info .connectionOk → P o) ↔
      ∀ ssid info, P (jsonNetworkInfoUpdate ssid info .connectionOk) :=
  ⟨fun h ssid info => h _ ssid info rfl, by rintro h _ ssid info rfl; exact h ssid info⟩

@[simp] theorem forall_eq_lossUpdate {P : WifiCall → Prop} :
    (∀ o ssid info reason, reason ≠ .connectionOk → o = jsonNetworkInfoUpdate ssid info reason →
      P o) ↔ ∀ ssid info reason, reason ≠ .connectionOk →
        P (jsonNetworkInfoUpdate ssid info reason) :=
  ⟨fun h ssid info reason hne => h _ ssid info reason hne rfl, by
    rintro h _ ssid info reason hne rfl
    exact h ssid info reason hne⟩

/-- The calls that the handler of a message can make. -/
def QueueMessage.MayCall (msg : QueueMessage) (o : WifiCall) : Prop :=
  match msg with
  | .orderStopAndDestroy => False
  | .orderStartWifiScan =>
    o = xEventGroupGetBits ∨ o = xEventGroupSetBits [.scan] ∨ o = espWifiGetCountry ∨
      o = getScanInfo ∨ (∃ info, o = setScanInfo info) ∨ o = wifiManagerScanTimerStart ∨
      o.OfSender [.eventScanDone]
  | .orderConnectEth =>
    o = xEventGroupClearBits [.requestRestoreSta] ∨ o = callback .onConnectEthCmd
  | .orderConnectSta _ =>
    o = xEventGroupClearBits [.cmdStaConnect] ∨ o = xEventGroupGetBits ∨
      o = xEventGroupClearBits [.requestRestoreSta] ∨ o = xEventGroupSetBits [.requestStaConnect] ∨
      o = xEventGroupSetBits [.requestRestoreSta] ∨ o.OfSender [.orderDisconnectSta] ∨
      o = xEventGroupClearBits [.requestDisconnect] ∨ o = xEventGroupSetBits [.staActive] ∨
      o = wifimanConfigStaGet ∨ (∃ cfg, o = driver (.espWifiSetConfigSta cfg)) ∨
      o = driver .espWifiConnect
  | .orderDisconnectEth => o = callback .onDisconnectEthCmd
  | .orderDisconnectSta =>
    o = stopTimerReconnectSta ∨ o = xEventGroupSetBits [.requestDisconnect] ∨
      o = xEventGroupClearBits [.staActive] ∨ o = driver .espWifiDisconnect ∨
      o = callback .onDisconnectStaCmd ∨ o = xEventGroupClearBits [.requestDisconnect] ∨
      o = xEventGroupSetBits [.cmdStaConnect] ∨ o.OfSender [.orderConnectSta .user]
  | .orderStartAp _ =>
    o = driver (.espWifiSetMode .apsta) ∨ o = xEventGroupSetBits [.apActive] ∨
      o = xEventGroupSetBits [.apActive, .blockReqFromLanWhileApActive] ∨ o = callback .onApStarted
  | .orderStopAp =>
    o = driver (.espWifiSetMode .sta) ∨
      o = xEventGroupClearBits [.apActive, .blockReqFromLanWhileApActive] ∨
      o = callback .onApStopped
  | .eventStaDisconnected _ =>
    o = xEventGroupClearBits [.scan, .initialConnection, .staActive, .wifiConnected] ∨
      o = xEventGroupClearBits [.requestStaConnect] ∨
      o = xEventGroupClearBits [.requestDisconnect] ∨ o = getWpsEnabled ∨
      o = driver .espWifiDisconnect ∨ (∃ delayMs, o = startTimerReconnectSta delayMs) ∨
      o = wifimanConfigStaGet ∨ o.OfLossUpdate ∨ o = xEventGroupSetBits [.cmdStaConnect] ∨
      o.OfSender [.orderConnectSta .user]
  | .eventScanNext =>
    o = getScanInfo ∨ (∃ channel, o = driver (.espWifiScanStart channel)) ∨ o = wifiManagerLock ∨
      o = wifiManagerUnlock ∨ o = xEventGroupClearBits [.scan] ∨ o = isScanSyncSemaNull ∨
      o = osSemaSignal
  | .eventScanDone =>
    o = wifiManagerLock ∨ o = wifiManagerUnlock ∨ o = espWifiScanGetApRecords ∨
      o = xEventGroupClearBits [.scan] ∨ o = isScanSyncSemaNull ∨ o = osSemaSignal ∨
      o = getApRecords ∨ (∃ records, o = setApRecords records) ∨ (∃ num, o = setApNum num) ∨
      o = getScanInfo ∨ (∃ info, o = setScanInfo info) ∨ o = wifiManagerScanTimerStart
  | .eventStaGotIp _ =>
    o = xEventGroupClearBits [.requestStaConnect, .requestRestoreSta] ∨ o = wifimanConfigStaSave ∨
      o = espNetifGetIpInfo ∨ o = wifimanConfigStaGet ∨ o = dhcpServerIpAddr ∨
      o = xEventGroupSetBits [.wifiConnected] ∨ o = stopTimerReconnectSta ∨
      (∃ ip, o = staIpSafeSet ip) ∨ ∃ ssid info, o = jsonNetworkInfoUpdate ssid info .connectionOk
  | .eventApStaConnected =>
    o = xEventGroupClearBits [.apStaIpAssigned, .initialConnection] ∨
      o = xEventGroupSetBits [.apStaConnected] ∨ o = callback .onApStaConnected ∨
      o = xEventGroupGetBits ∨ o = dnsServerStart
  | .eventApStaDisconnected =>
    o = xEventGroupClearBits [.apStaConnected, .apStaIpAssigned] ∨ o = dnsServerStop ∨
      o = callback .onApStaDisconnected
  | .eventApStaIpAssigned =>
    o = xEventGroupSetBits [.apStaIpAssigned] ∨ o = callback .onApStaIpAssigned
  | .orderEnableWps =>
    o = driver .espWifiWpsEnable ∨ o = driver .espWifiWpsStart ∨ o = setWpsEnabled true ∨
      o = callback .onWpsStarted
  | .orderDisableWps =>
    o = driver .espWifiWpsDisable ∨ o = setWpsEnabled false ∨ o = callback .onWpsStopped
  | .orderTaskWatchdogFeed =>
    o = wifiManagerLock ∨ o = setFlagWdogFeedActive false ∨ o = wifiManagerUnlock ∨
      o = driver .espTaskWdtReset

section Evaluation

attribute [local simp] Prog.perform Prog.fold_call Prog.fold_return wifimanMsgSend
  wifimanMsgSendWithTimeout OfSender OfLossUpdate QueueMessage.MayCall

theorem wifiHandleCmdStartWifiScan_all :
    wifiHandleCmdStartWifiScan.All QueueMessage.orderStartWifiScan.MayCall := by
  unfold Prog.All
  simp [wifiHandleCmdStartWifiScan, wifiScanNext, wifimanMsgSendEvScanDone]

theorem wifiConnectStaSwitch_all (connReq : ConnectionRequest) :
    (wifiConnectStaSwitch connReq).All (QueueMessage.orderConnectSta connReq).MayCall := by
  unfold Prog.All
  cases connReq <;> simp [wifiConnectStaSwitch]

theorem wifiConnectStaRun_all (connReq : ConnectionRequest) (bits : EventBits) :
    (wifiConnectStaRun bits).All (QueueMessage.orderConnectSta connReq).MayCall := by
  unfold Prog.All
  simp [wifiConnectStaRun, wifimanMsgSendCmdDisconnectSta]

theorem wifiHandleCmdConnectSta_all (connReq : ConnectionRequest) :
    (wifiHandleCmdConnectSta connReq).All (QueueMessage.orderConnectSta connReq).MayCall := by
  refine .bind (.perform (by simp)) fun _ => .bind (.perform (by simp)) fun bits => ?_
  exact .bind (wifiConnectStaSwitch_all connReq) fun _ => wifiConnectStaRun_all connReq bits

theorem wifiHandleCmdDisconnectSta_all :
    wifiHandleCmdDisconnectSta.All QueueMessage.orderDisconnectSta.MayCall := by
  unfold Prog.All
  simp [wifiHandleCmdDisconnectSta, wifimanMsgSendCmdConnectSta]

theorem update_all_of_ne {reason : UpdateReasonCode} (h : reason ≠ .connectionOk)
    (ssid : Option (CharBuf 32)) (ipInfo : Option EspNetifIpInfo) (dhcpIp : Option Ip4) :
    (wifiManagerUpdateNetworkConnectionInfo reason ssid ipInfo dhcpIp).All
      WifiCall.OfLossUpdate := by
  unfold Prog.All
  simp [wifiManagerUpdateNetworkConnectionInfo, h]

theorem mayCall_startTimer (reason : WifiErrReason) (delayMs : ℕ) :
    (QueueMessage.eventStaDisconnected reason).MayCall (startTimerReconnectSta delayMs) := by
  unfold QueueMessage.MayCall
  simp only [startTimerReconnectSta.injEq, exists_eq', true_or, or_true]

theorem wifiHandleEvStaHandleLostConnection_all (bits : EventBits) (flagMicFailure : Bool)
    (reason : WifiErrReason) :
    (wifiHandleEvStaHandleLostConnection bits flagMicFailure).All
      (QueueMessage.eventStaDisconnected reason).MayCall := by
  refine .bind (.perform (by simp)) fun wpsEnabled => ?_
  split_ifs
  · exact .bind (.perform (by simp)) fun _ => .perform (mayCall_startTimer reason _)
  · exact .perform (mayCall_startTimer reason _)
  · exact trivial

theorem wifiStaDisconnectedReason_all (bits : EventBits) (reason : WifiErrReason) :
    (wifiStaDisconnectedReason bits reason).AllThen
      (QueueMessage.eventStaDisconnected reason).MayCall (fun x => x.1 ≠ .connectionOk) := by
  unfold wifiStaDisconnectedReason
  split_ifs
  · exact fun h => by simp at h
  · refine ⟨by simp, fun _ h => by simp at h⟩
  · refine ⟨by simp, fun _ h => by simp at h⟩
  · exact (wifiHandleEvStaHandleLostConnection_all bits _ reason).bind_allThen fun _ h => by simp at h

theorem wifiStaDisconnectedReconnect_all (bits : EventBits) (flag : Bool) (reason : WifiErrReason) :
    (wifiStaDisconnectedReconnect bits flag).All
      (QueueMessage.eventStaDisconnected reason).MayCall := by
  unfold Prog.All
  simp [wifiStaDisconnectedReconnect, wifimanMsgSendCmdConnectSta]

theorem wifiHandleEvStaDisconnected_all (reason : WifiErrReason) :
    (wifiHandleEvStaDisconnected reason).All
      (QueueMessage.eventStaDisconnected reason).MayCall := by
  refine .bind (.perform (by simp)) fun bits => ?_
  refine (wifiStaDisconnectedReason_all bits reason).bind fun ⟨code, flag⟩ hcode => ?_
  refine .bind (.bind (.perform (by simp)) fun _ => trivial) fun ssid => ?_
  refine .bind ((update_all_of_ne hcode _ _ _).mono ?_) fun _ => ?_
  · intro o ho
    unfold QueueMessage.MayCall
    simp only [ho, true_or, or_true]
  · exact .bind (wifiStaDisconnectedReconnect_all bits flag reason) fun _ => trivial

theorem wifiHandleEvScanNext_all :
    wifiHandleEvScanNext.All QueueMessage.eventScanNext.MayCall := by
  unfold Prog.All
  simp [wifiHandleEvScanNext, wifiMangerNotifyScanDone]

theorem wifiHandleEvScanDone_all :
    wifiHandleEvScanDone.All QueueMessage.eventScanDone.MayCall := by
  unfold Prog.All
  simp [wifiHandleEvScanDone, wifiMangerNotifyScanDone, wifiScanNext]

theorem wifiHandleEvStaGotIp_all (ip : Ip4) :
    (wifiHandleEvStaGotIp ip).All (QueueMessage.eventStaGotIp ip).MayCall := by
  unfold Prog.All
  simp [wifiHandleEvStaGotIp, wifimanConfigStaGetSsid, wifiManagerUpdateNetworkConnectionInfo]

theorem wifiHandleCmdStartAp_all (flagBlockReqFromLan : Bool) :
    (wifiHandleCmdStartAp flagBlockReqFromLan).All
      (QueueMessage.orderStartAp flagBlockReqFromLan).MayCall := by
  unfold Prog.All
  cases flagBlockReqFromLan <;> simp [wifiHandleCmdStartAp]

/-- The calls of a message, and that only `ORDER_STOP_AND_DESTROY` ends the loop. -/
theorem wifiManagerHandleMsg_allThen (msg : QueueMessage) :
    (wifiManagerHandleMsg msg).AllThen msg.MayCall
      (fun x => x.1 = true → msg = .orderStopAndDestroy) := by
  cases msg
  case orderStopAndDestroy => exact fun _ => rfl
  case orderStartWifiScan => exact wifiHandleCmdStartWifiScan_all.bind_allThen fun _ h => absurd h (by simp)
  case orderConnectSta connReq =>
    exact (wifiHandleCmdConnectSta_all connReq).bind_allThen fun _ h => absurd h (by simp)
  case orderDisconnectSta => exact wifiHandleCmdDisconnectSta_all.bind_allThen fun _ h => absurd h (by simp)
  case eventStaDisconnected reason =>
    exact (wifiHandleEvStaDisconnected_all reason).bind_allThen fun _ h => absurd h (by simp)
  case eventScanNext => exact wifiHandleEvScanNext_all.bind_allThen fun _ h => absurd h (by simp)
  case eventScanDone => exact wifiHandleEvScanDone_all.bind_allThen fun _ h => absurd h (by simp)
  case eventStaGotIp ip => exact (wifiHandleEvStaGotIp_all ip).bind_allThen fun _ h => absurd h (by simp)
  case orderStartAp flag => exact (wifiHandleCmdStartAp_all flag).bind_allThen fun _ h => absurd h (by simp)
  all_goals
    unfold Prog.AllThen
    simp [wifiManagerHandleMsg, wifiHandleCmdConnectEth, wifiHandleCmdDisconnectEth,
      wifiHandleCmdStopAp, wifiHandleEvApStaConnected, wifiManagerIsConnectedToWifi,
      wifiHandleEvApStaDisconnected, wifiHandleEvApStaIpAssigned, wifiHandleCmdEnableWps,
      wifiHandleCmdDisableWps, wifimanMsgClearFlagWdogFeedActive, wifiManagerWdtTaskReset]

/-- The calls that end the manager task. -/
def WifiCall.OfFinish (o : WifiCall) : Prop :=
  o = wifiManagerLock ∨ o = driver .espTaskWdtDelete ∨ o = wdogTimerStop ∨
    o = stopTimerReconnectSta ∨ o = wifiManagerScanTimerStop ∨
    o = xEventGroupClearBits [.isWorking, .wifiConnected, .apStaConnected, .apStaIpAssigned,
      .apStarted, .requestStaConnect, .requestRestoreSta, .scan, .requestDisconnect, .apActive] ∨
    o = driver .espEventHandlerUnregister ∨ o = driver .espWifiDisconnect ∨
    o = driver .espWifiStop ∨ o = driver .espWifiDeinit ∨ o = staIpSafeDeinit ∨ o = vQueueDelete ∨
    o = driver .espNetifActionStop ∨ o = wifiManagerUnlock ∨ o = setManagerTask .none

/-- The calls of the round that handles `msg`. -/
def QueueMessage.RoundCall (msg : QueueMessage) (o : WifiCall) : Prop :=
  msg.MayCall o ∨ o = callback (.onMessage msg) ∨ msg = .orderStopAndDestroy ∧ o.OfFinish

theorem wifiManagerTaskFinish_all : wifiManagerTaskFinish.All WifiCall.OfFinish := by
  unfold Prog.All
  simp [wifiManagerTaskFinish, wifimanMsgDeinit, OfFinish]

/-- The calls of a round. -/
theorem wifiManagerTaskHandle_all (msg : QueueMessage) :
    (wifiManagerTaskHandle msg).All msg.RoundCall := by
  have hmsg : (wifiManagerHandleMsg msg).AllThen msg.RoundCall
      (fun x => x.1 = true → msg = .orderStopAndDestroy) :=
    (wifiManagerHandleMsg_allThen msg).mono fun _ ho => .inl ho
  have hflag : ∀ x : Bool × Bool, (x.1 = true → msg = .orderStopAndDestroy) →
      Prog.AllThen msg.RoundCall (fun flag => flag = true → msg = .orderStopAndDestroy) (do
        if x.2 then
          call (callback (.onMessage msg))
        return x.1 : WifiProg Bool) := by
    rintro ⟨flagTerminate, callCb⟩ hflag
    cases callCb with
    | false => exact hflag
    | true => exact ⟨.inr (.inl rfl), fun _ => hflag⟩
  refine (hmsg.bind_allThen hflag).bind ?_
  · intro flagTerminate hflag
    cases flagTerminate with
    | false => exact trivial
    | true =>
      refine .bind (wifiManagerTaskFinish_all.mono fun o ho => .inr (.inr ⟨hflag rfl, ho⟩)) fun _ => ?_
      exact .perform (.inr (.inr ⟨hflag rfl, by simp [OfFinish]⟩))

end Evaluation

section Inversion

variable {msg : QueueMessage} {o : WifiCall}

attribute [local simp] QueueMessage.MayCall OfSender OfLossUpdate

/-- All that a handler does with the queue is to send one of three messages. -/
theorem QueueMessage.MayCall.send (h : msg.MayCall o) (hw : Field.msgQueue ∈ o.writes) :
    o = xQueueSend .eventScanDone .portMaxDelay ∨ o = xQueueSend .orderDisconnectSta .portMaxDelay ∨
      o = xQueueSend (.orderConnectSta .user) .portMaxDelay ∧
        ((∃ reason, msg = .eventStaDisconnected reason) ∨ msg = .orderDisconnectSta) := by
  rcases writes_msgQueue hw with rfl | ⟨m, timeout, rfl⟩ | rfl | rfl
  · cases msg <;> simp at h
  · cases msg <;> simp at h ⊢ <;> simp [h]
  · cases msg <;> simp at h
  · cases msg <;> simp at h

/-- The flag of the watchdog order is lowered by its handler only. -/
theorem QueueMessage.MayCall.flag {active : Bool} (h : msg.MayCall (setFlagWdogFeedActive active)) :
    msg = .orderTaskWatchdogFeed ∧ active = false := by
  cases msg <;> simp at h ⊢
  exact h

/-- The bit of a pending connect order is written where such an order is handled or sent. -/
theorem QueueMessage.MayCall.cmdStaConnect (h : msg.MayCall o)
    (hw : Field.bit .cmdStaConnect ∈ o.writes) :
    (∃ connReq, msg = .orderConnectSta connReq) ∨ (∃ reason, msg = .eventStaDisconnected reason) ∨
      msg = .orderDisconnectSta := by
  obtain ⟨mask, hmask, rfl | rfl⟩ := writes_bit hw
  · cases msg <;> simp at h ⊢
    all_goals
      repeat' (rcases h with rfl | h)
      all_goals simp_all
  · cases msg <;> simp at h ⊢
    all_goals
      repeat' (rcases h with rfl | h)
      all_goals simp_all

theorem not_mayCall_getFlag : ¬ msg.MayCall getFlagWdogFeedActive := by
  cases msg <;> simp

end Inversion

section Round

variable {Φ W : Type} [AddCommMonoid W] {C : Contract machine Φ W} {φ : Φ} {msg : QueueMessage}

/-- One call of the manager task. -/
theorem keeps_call {α : Type} {o : WifiCall} {f : o.Ret → WifiProg α} {post : α → Φ → Prop}
    (h : ∀ s w, C.inv φ s w → C.demand o s w ∧
      ∀ c r s', C.assume .server o c s w → exec .server o c s = some (r, s') →
        ∃ φ', C.inv φ' s' w ∧ C.Keeps (f r) post φ') :
    C.Keeps (call o >>= f) post φ := h

/-- A round keeps what its handler keeps, when the task goes on. -/
theorem keeps_taskHandle {σ : Type} {M : Machine WifiCall WifiCall.Ret Reply Request σ}
    {C : Contract M Φ W} (hmsg : msg ≠ .orderStopAndDestroy)
    (h : C.Keeps (wifiManagerHandleMsg msg)
      (fun _ φ' => C.rest φ' ∧ C.Frames φ' (callback (.onMessage msg))) φ) :
    C.Keeps (wifiManagerTaskHandle msg) (fun _ => C.rest) φ := by
  refine Contract.keeps_bind.mpr (Contract.keeps_bind.mpr ?_)
  refine (h.and_allThen (wifiManagerHandleMsg_allThen msg)).mono ?_
  rintro ⟨flagTerminate, callCb⟩ φ' ⟨⟨hrest, hframe⟩, hflag⟩
  obtain rfl : flagTerminate = false := by
    by_contra hne
    exact hmsg (hflag (by simpa using hne))
  cases callCb with
  | false => exact hrest
  | true => exact Contract.performs_frame hframe fun _ => hrest

/-- A round takes the oldest message out of the queue and handles it. -/
theorem keeps_taskRound
    (h : ∀ s w, C.inv φ s w → C.demand xQueueReceive s w ∧
      ∀ c msg s', C.assume .server xQueueReceive c s w →
        exec .server xQueueReceive c s = some (some msg, s') → s.queued = msg :: s'.queued →
          ∃ φ', C.inv φ' s' w ∧ C.Keeps (wifiManagerTaskHandle msg) (fun _ => C.rest) φ') :
    C.Keeps wifiManagerTaskRound (fun _ => C.rest) φ := by
  rw [wifiManagerTaskRound_eq]
  intro s w hinv
  obtain ⟨hdemand, hreceive⟩ := h s w hinv
  refine ⟨hdemand, fun c received s' ha he => ?_⟩
  obtain ⟨msg, rfl, hq⟩ := queued_receive (t := .server) (c := c) he
  exact hreceive c msg s' ha he hq

end Round

/-! ### Invariants of the manager task -/

/-- An invariant of parts of the state that only the manager task writes. -/
structure TaskInvariant (Φ : Type) where
  inv : Φ → WifiState → Prop
  rest : Φ → Prop
  demand : WifiCall → WifiState → Prop
  frame : ∀ {φ s s'}, s.AgreeInside s' → inv φ s → inv φ s'

namespace TaskInvariant

variable {Φ : Type} (I : TaskInvariant Φ)

/-- The clients have no part in it. -/
def contract : Contract machine Φ ℕ where
  inv φ s _ := I.inv φ s
  rest := I.rest
  assume _ _ _ _ _ := True
  assumeArrive _ _ _ := True
  demand o s _ := I.demand o s
  credit _ := 0
  client p := p.All WifiCall.IsClientCall

variable {I}

theorem sound
    (hbegin : ∀ φ, I.rest φ → I.contract.Keeps wifiManagerTaskBegin (fun _ => I.rest) φ)
    (hround : ∀ φ, I.rest φ → I.contract.Keeps wifiManagerTaskRound (fun _ => I.rest) φ) :
    I.contract.Sound where
  call := by
    intro φ i o k c r s s' w hclient hinv _ he
    exact ⟨I.frame (agreeInside_exec hclient.1 he) hinv, hclient.2 r⟩
  arrive := by
    intro φ req s s' p w hinv _ ha
    obtain ⟨hoccur, -⟩ := arrive_eq ha
    exact ⟨I.frame (agreeInside_occur hoccur) hinv, arrive_all ha⟩
  serve := by
    intro φ s p w hrest hinv hp
    rcases serve_cases hp with ⟨-, rfl⟩ | ⟨-, rfl⟩
    · exact ⟨φ, hinv, hbegin φ hrest⟩
    · exact ⟨φ, hinv, hround φ hrest⟩

theorem holds_of_path (hI : I.contract.Sound) {φ₀ : Φ} {flag : Bool} {sta : WifimanConfigSta}
    (hrest : I.rest φ₀) (hinv : I.inv φ₀ (WifiState.started flag sta)) {cfg : WifiConfig}
    {labels : List WifiLabel} {ok : WifiConfig → WifiLabel → Prop}
    (hrun : Path machine ok (WifiConfig.started flag sta) labels cfg) :
    ∃ φ, I.contract.Holds φ cfg := by
  have hstart : I.contract.Holds φ₀ (WifiConfig.started flag sta) :=
    ⟨hinv, hrest, fun hx => absurd (started_task hx).1 (by simp)⟩
  refine hstart.path hI (fun cfg l _ => ?_) hrun
  cases l with
  | arrive req => exact trivial
  | run t reply => exact fun _ _ _ _ => trivial

end TaskInvariant

end WifiManager
end Esp32WifiManager
