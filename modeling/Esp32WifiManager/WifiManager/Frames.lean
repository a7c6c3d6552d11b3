import Esp32WifiManager.WifiManager.Clients
import Mathlib.Tactic.Common

/-!
# What a call changes

The parts of the state that each call writes. Everything else is left as it is,
and a client of the manager writes few parts.
-/

namespace Esp32WifiManager
namespace WifiManager

open CString TaskSystem WifiCall

/-- The parts of the state. -/
inductive Field
  | mutex
  | bit (b : EventBit)
  | msgQueue
  | flagWdogFeedActive
  | wpsEnabled
  | scanInfo
  | apNum
  | apRecords
  | scanTimer
  | reconnectTimer
  | wdogTimer
  | scanSyncSema
  | config
  | networkInfo
  | staIp
  | dnsServerMutex
  | httpServerMutex
  | managerTask
  | driverMode
  | driverStaConfig
  | driverConnecting
  | driverScanning
  deriving DecidableEq

/-- The two states have the part in common. -/
def WifiState.Agree (s s' : WifiState) : Field → Prop
  | .mutex => s'.mutex = s.mutex
  | .bit b => s'.eventBits b = s.eventBits b
  | .msgQueue => s'.msgQueue = s.msgQueue
  | .flagWdogFeedActive => s'.flagWdogFeedActive = s.flagWdogFeedActive
  | .wpsEnabled => s'.wpsEnabled = s.wpsEnabled
  | .scanInfo => s'.scanInfo = s.scanInfo
  | .apNum => s'.apNum = s.apNum
  | .apRecords => s'.apRecords = s.apRecords
  | .scanTimer => s'.scanTimer = s.scanTimer
  | .reconnectTimer => s'.reconnectTimer = s.reconnectTimer
  | .wdogTimer => s'.wdogTimer = s.wdogTimer
  | .scanSyncSema => s'.scanSyncSema = s.scanSyncSema
  | .config => s'.config = s.config
  | .networkInfo => s'.networkInfo = s.networkInfo
  | .staIp => s'.staIp = s.staIp
  | .dnsServerMutex => s'.dnsServerMutex = s.dnsServerMutex
  | .httpServerMutex => s'.httpServerMutex = s.httpServerMutex
  | .managerTask => s'.managerTask = s.managerTask
  | .driverMode => s'.driver.mode = s.driver.mode
  | .driverStaConfig => s'.driver.staConfig = s.driver.staConfig
  | .driverConnecting => s'.driver.connecting = s.driver.connecting
  | .driverScanning => s'.driver.scanning = s.driver.scanning

@[simp] theorem WifiState.agree_refl (s : WifiState) (f : Field) : s.Agree s f := by
  cases f <;> rfl

def DriverCall.writes : DriverCall → List Field
  | .espWifiConnect => [.driverConnecting]
  | .espWifiSetConfigSta _ => [.driverStaConfig]
  | .espWifiSetMode _ => [.driverMode]
  | .espWifiScanStart _ => [.driverScanning]
  | .espWifiStop => [.driverConnecting, .driverScanning]
  | .espWifiDisconnect | .espWifiInit | .espWifiStart | .espWifiDeinit | .espWifiSetConfigAp
  | .espWifiSetBandwidth | .espWifiSetPs | .espWifiSetStorage | .espWifiWpsEnable
  | .espWifiWpsStart | .espWifiWpsDisable | .espNetifDhcps | .espNetifDhcpc | .espNetifSetIpInfo
  | .espNetifSetHostname | .espNetifCreateDefault | .espNetifActionStop
  | .espEventLoopCreateDefault | .espEventHandlerRegister | .espEventHandlerUnregister
  | .espTaskWdtAdd | .espTaskWdtReset | .espTaskWdtDelete => []

/-- The parts that a call may change. -/
def WifiCall.writes : WifiCall → List Field
  | wifiManagerLock | wifiManagerUnlock => [.mutex]
  | xQueueCreate | xQueueSend _ _ | xQueueReceive | vQueueDelete => [.msgQueue]
  | xEventGroupSetBits mask | xEventGroupClearBits mask => mask.map .bit
  | setFlagWdogFeedActive _ => [.flagWdogFeedActive]
  | setWpsEnabled _ => [.wpsEnabled]
  | setScanInfo _ => [.scanInfo]
  | setApRecords _ => [.apRecords]
  | setApNum _ => [.apNum]
  | wifiManagerScanTimerStart | wifiManagerScanTimerStop => [.scanTimer]
  | startTimerReconnectSta _ | stopTimerReconnectSta => [.reconnectTimer]
  | wdogTimerStart | wdogTimerStop => [.wdogTimer]
  | osSemaCreate | osSemaSignal | osSemaWait | osSemaDelete => [.scanSyncSema]
  | driver d => d.writes
  | espWifiScanGetApRecords => [.apRecords]
  | wifimanConfigInit _ | wifimanConfigStaSet _ | wifimanConfigStaSetSsidAndPassword _ _ => [.config]
  | jsonNetworkInfoUpdate _ _ _ | jsonNetworkInfoClear | jsonNetworkInfoSetReasonUserDisconnect
  | jsonNetworkInfoSetTimeValid _ => [.networkInfo]
  | staIpSafeSet _ | staIpSafeReset | staIpSafeDeinit => [.staIp]
  | dnsServerInit => [.dnsServerMutex]
  | httpServerInit => [.httpServerMutex]
  | setManagerTask _ | osTaskCreateManager => [.managerTask]
  | isMsgQueueNull | xEventGroupGetBits | getFlagWdogFeedActive | getWpsEnabled | getScanInfo
  | getApRecords | getApNum | isScanSyncSemaNull | espWifiGetCountry | espWifiGetConfigSta
  | espNetifGetIpInfo | espNetifDhcpcGetStatus | dhcpServerIpAddr | wifimanConfigStaGet
  | wifimanConfigStaSave | callback _ | dnsServerStart | dnsServerStop | httpServerStart
  | httpServerEcdhInit | osCalloc => []

theorem effect_agree {d : DriverCall} {err : EspErr} {s : WifiState} {f : Field}
    (hf : f ∉ d.writes) : s.Agree { s with driver := d.effect err s.driver } f := by
  cases f <;> try rfl
  all_goals
    cases d <;> first
      | rfl
      | (simp [DriverCall.writes] at hf; done)
      | (unfold DriverCall.effect WifiState.Agree
         dsimp only
         split <;> rfl)

/-- A call leaves what it does not write as it is. -/
theorem exec_agree {t : TaskId} {o : WifiCall} {c : Reply} {s s' : WifiState} {r : o.Ret}
    (h : exec t o c s = some (r, s')) {f : Field} (hf : f ∉ o.writes) : s.Agree s' f := by
  cases o
  case xEventGroupSetBits mask =>
    obtain ⟨rfl, rfl⟩ := Prod.mk.inj (Option.some.inj h)
    cases f <;> try rfl
    case bit b => exact EventBits.set_of_notMem fun hb => hf (List.mem_map_of_mem hb)
  case xEventGroupClearBits mask =>
    obtain ⟨rfl, rfl⟩ := Prod.mk.inj (Option.some.inj h)
    cases f <;> try rfl
    case bit b => exact EventBits.clear_of_notMem fun hb => hf (List.mem_map_of_mem hb)
  case driver d =>
    obtain ⟨rfl, rfl⟩ := Prod.mk.inj (Option.some.inj h)
    exact effect_agree hf
  case wifiManagerLock =>
    obtain ⟨m, -, hm⟩ := Option.map_eq_some_iff.mp h
    obtain ⟨-, rfl⟩ := Prod.mk.inj hm
    cases f <;> simp [writes, WifiState.Agree] at hf ⊢
  all_goals
    simp only [exec] at h
    repeat' split at h
    all_goals first
      | (simp at h; done)
      | (obtain ⟨rfl, rfl⟩ := Prod.mk.inj (Option.some.inj h)
         cases f <;> simp [writes, WifiState.Agree] at hf ⊢)

theorem machine_agree {t : TaskId} {o : WifiCall} {c : Reply} {s s' : WifiState} {r : o.Ret}
    (h : machine.exec t o c s = some (r, s')) {f : Field} (hf : f ∉ o.writes) : s.Agree s' f :=
  exec_agree (t := t) (o := o) (c := c) h hf

/-- The parts that the environment changes when a request arrives. -/
def Request.writes : Request → List Field
  | .scanTimerExpired => [.scanTimer]
  | .reconnectTimerExpired => [.reconnectTimer]
  | .wifiEventScanDone => [.driverScanning]
  | .wifiEventStaDisconnected _ | .ipEventStaGotIp _ => [.driverConnecting]
  | _ => []

theorem occur_agree {req : Request} {s s' : WifiState} (h : req.occur s = some s') {f : Field}
    (hf : f ∉ req.writes) : s.Agree s' f := by
  cases req
  case scanTimerExpired | reconnectTimerExpired | wifiEventScanDone =>
    obtain ⟨-, heq⟩ := Option.ite_none_right_eq_some.mp h
    obtain rfl := Option.some.inj heq
    cases f <;> simp [Request.writes, WifiState.Agree] at hf ⊢
  case wifiEventStaDisconnected | ipEventStaGotIp =>
    obtain rfl := Option.some.inj h
    cases f <;> simp [Request.writes, WifiState.Agree] at hf ⊢
  case wdogTimerTick =>
    obtain ⟨-, heq⟩ := Option.ite_none_right_eq_some.mp h
    obtain rfl := Option.some.inj heq
    exact s.agree_refl f
  all_goals
    obtain rfl := Option.some.inj h
    exact WifiState.agree_refl _ f

/-! ### Bits and timers -/

section Bits

variable {t : TaskId} {o : WifiCall} {c : Reply} {s s' : WifiState} {r : o.Ret} {b : EventBit}

theorem writes_bit (h : Field.bit b ∈ o.writes) :
    ∃ mask, b ∈ mask ∧ (o = xEventGroupSetBits mask ∨ o = xEventGroupClearBits mask) := by
  cases o <;> simp [writes] at h ⊢
  case xEventGroupSetBits mask => exact h
  case xEventGroupClearBits mask => exact h
  case driver d => cases d <;> simp [DriverCall.writes] at h

/-- A clear bit stays clear unless the call sets it. -/
theorem bit_stays_clear (h : exec t o c s = some (r, s'))
    (ho : ∀ mask, o = xEventGroupSetBits mask → b ∉ mask) (hb : s.eventBits b = false) :
    s'.eventBits b = false := by
  by_cases hw : Field.bit b ∈ o.writes
  · obtain ⟨mask, hmask, rfl | rfl⟩ := writes_bit hw
    · exact absurd hmask (ho mask rfl)
    · obtain ⟨-, rfl⟩ := Prod.mk.inj (Option.some.inj h)
      exact EventBits.clear_of_mem hmask
  · have heq : s'.eventBits b = s.eventBits b := exec_agree h hw
    rw [heq]
    exact hb

/-- A set bit stays set unless the call clears it. -/
theorem bit_stays_set (h : exec t o c s = some (r, s'))
    (ho : ∀ mask, o = xEventGroupClearBits mask → b ∉ mask) (hb : s.eventBits b = true) :
    s'.eventBits b = true := by
  by_cases hw : Field.bit b ∈ o.writes
  · obtain ⟨mask, hmask, rfl | rfl⟩ := writes_bit hw
    · obtain ⟨-, rfl⟩ := Prod.mk.inj (Option.some.inj h)
      exact EventBits.set_of_mem hmask
    · exact absurd hmask (ho mask rfl)
  · have heq : s'.eventBits b = s.eventBits b := exec_agree h hw
    rw [heq]
    exact hb

theorem bit_of_clear {mask : List EventBit} {bits : EventBits}
    (h : exec t (xEventGroupClearBits mask) c s = some (bits, s')) (hb : b ∈ mask) :
    s'.eventBits b = false := by
  obtain ⟨-, rfl⟩ := Prod.mk.inj (Option.some.inj h)
  exact EventBits.clear_of_mem hb

theorem bit_of_set {mask : List EventBit} {bits : EventBits}
    (h : exec t (xEventGroupSetBits mask) c s = some (bits, s')) (hb : b ∈ mask) :
    s'.eventBits b = true := by
  obtain ⟨-, rfl⟩ := Prod.mk.inj (Option.some.inj h)
  exact EventBits.set_of_mem hb

theorem writes_reconnectTimer (h : Field.reconnectTimer ∈ o.writes) :
    (∃ delayMs, o = startTimerReconnectSta delayMs) ∨ o = stopTimerReconnectSta := by
  cases o <;> simp [writes] at h ⊢
  case driver d => cases d <;> simp [DriverCall.writes] at h

/-- The reconnect timer stays off unless the call starts it. -/
theorem reconnectTimer_stays_none (h : exec t o c s = some (r, s'))
    (ho : ∀ delayMs, o ≠ startTimerReconnectSta delayMs) (hs : s.reconnectTimer = none) :
    s'.reconnectTimer = none := by
  by_cases hw : Field.reconnectTimer ∈ o.writes
  · rcases writes_reconnectTimer hw with ⟨delayMs, rfl⟩ | rfl
    · exact absurd rfl (ho delayMs)
    · obtain ⟨-, rfl⟩ := Prod.mk.inj (Option.some.inj h)
      rfl
  · have heq : s'.reconnectTimer = s.reconnectTimer := exec_agree h hw
    rw [heq]
    exact hs

end Bits

/-! ### The queue -/

section Queue

variable {t : TaskId} {c : Reply} {s s' : WifiState}

theorem writes_msgQueue {o : WifiCall} (h : Field.msgQueue ∈ o.writes) :
    o = xQueueCreate ∨ (∃ msg timeout, o = xQueueSend msg timeout) ∨ o = xQueueReceive ∨
      o = vQueueDelete := by
  cases o <;> simp [writes] at h ⊢
  case driver d => cases d <;> simp [DriverCall.writes] at h

/-- A message is put into a queue that has room for it. -/
theorem exec_xQueueSend {msg : QueueMessage} {timeout : Timeout} {sent : Bool}
    (h : exec t (xQueueSend msg timeout) c s = some (sent, s')) :
    s' = s ∧ sent = false ∧ (s.msgQueue = none ∨ timeout = .noWait) ∨
      ∃ q q', s.msgQueue = some q ∧ q.push msg = some q' ∧ sent = true ∧
        s' = { s with msgQueue := some q' } := by
  simp only [exec] at h
  split at h
  · rename_i hq
    obtain ⟨rfl, rfl⟩ := Prod.mk.inj (Option.some.inj h)
    exact .inl ⟨rfl, rfl, .inl hq⟩
  · rename_i q hq
    split at h
    · rename_i q' hpush
      obtain ⟨rfl, rfl⟩ := Prod.mk.inj (Option.some.inj h)
      exact .inr ⟨q, q', hq, hpush, rfl, rfl⟩
    · split at h
      · obtain ⟨rfl, rfl⟩ := Prod.mk.inj (Option.some.inj h)
        exact .inl ⟨rfl, rfl, .inr rfl⟩
      · exact absurd h (by simp)

theorem exec_xQueueReceive {received : Option QueueMessage}
    (h : exec t xQueueReceive c s = some (received, s')) :
    ∃ q msg q', s.msgQueue = some q ∧ q.pop = some (msg, q') ∧ received = some msg ∧
      s' = { s with msgQueue := some q' } := by
  simp only [exec] at h
  split at h
  · rename_i msg q' hpop
    obtain ⟨rfl, rfl⟩ := Prod.mk.inj (Option.some.inj h)
    obtain ⟨q, hq, hpop⟩ := Option.bind_eq_some_iff.mp hpop
    exact ⟨q, msg, q', hq, hpop, rfl, rfl⟩
  · exact absurd h (by simp)

theorem queued_send {msg : QueueMessage} {timeout : Timeout} {sent : Bool}
    (h : exec t (xQueueSend msg timeout) c s = some (sent, s')) :
    s' = s ∨ s'.queued = s.queued ++ [msg] := by
  rcases exec_xQueueSend h with ⟨hs, -⟩ | ⟨q, q', hq, hpush, -, rfl⟩
  · exact .inl hs
  · simp only [WifiState.queued, hq, Option.map_some, Option.getD_some, BoundedQueue.items_push hpush]
    exact .inr trivial

theorem queued_receive {received : Option QueueMessage}
    (h : exec t xQueueReceive c s = some (received, s')) :
    ∃ msg, received = some msg ∧ s.queued = msg :: s'.queued := by
  obtain ⟨q, msg, q', hq, hpop, rfl, rfl⟩ := exec_xQueueReceive h
  refine ⟨msg, rfl, ?_⟩
  simp only [WifiState.queued, hq, Option.map_some, Option.getD_some, BoundedQueue.items_pop hpop]

/-- A message in the queue was there before the call, or the call has put it there. -/
theorem queued_of_exec {o : WifiCall} {r : o.Ret} (h : exec t o c s = some (r, s'))
    {msg : QueueMessage} (hmsg : msg ∈ s'.queued) :
    msg ∈ s.queued ∨ ∃ timeout, o = xQueueSend msg timeout := by
  by_cases hw : Field.msgQueue ∈ o.writes
  · rcases writes_msgQueue hw with rfl | ⟨msg', timeout, rfl⟩ | rfl | rfl
    · simp only [exec] at h
      split at h <;>
      · obtain ⟨-, rfl⟩ := Prod.mk.inj (Option.some.inj h)
        exact absurd hmsg (by simp [WifiState.queued])
    · rcases queued_send h with rfl | hq
      · exact .inl hmsg
      · rw [hq] at hmsg
        rcases List.mem_append.mp hmsg with hold | hnew
        · exact .inl hold
        · obtain rfl := List.mem_singleton.mp hnew
          exact .inr ⟨timeout, rfl⟩
    · obtain ⟨msg', -, hq⟩ := queued_receive h
      rw [hq]
      exact .inl (List.mem_cons_of_mem _ hmsg)
    · obtain ⟨-, rfl⟩ := Prod.mk.inj (Option.some.inj h)
      exact absurd hmsg (by simp [WifiState.queued])
  · have hq : s'.msgQueue = s.msgQueue := exec_agree h hw
    unfold WifiState.queued at hmsg ⊢
    rw [← hq]
    exact .inl hmsg

end Queue

/-! ### Calls of the clients -/

/-- The parts that clients write. -/
def clientWrites : List Field :=
  [.mutex, .bit .cmdStaConnect, .bit .apStarted, .bit .ethConnected, .bit .wifiConnected, .msgQueue,
    .flagWdogFeedActive, .wpsEnabled, .reconnectTimer, .scanSyncSema, .config, .networkInfo, .staIp,
    .driverMode]

/-- A call that a client makes when it puts no messages into the queue but `posts`. -/
def WifiCall.OfClient (posts : List QueueMessage) : WifiCall → Prop
  | xQueueSend msg _ => msg ∈ posts
  | xEventGroupSetBits mask =>
    mask = [.cmdStaConnect] ∨ mask = [.apStarted] ∨ mask = [.ethConnected] ∨ mask = [.wifiConnected]
  | xEventGroupClearBits mask => mask = [.wifiConnected, .ethConnected]
  | driver d => d.OfClient
  | xQueueCreate | xQueueReceive | vQueueDelete | setScanInfo _ | setApRecords _ | setApNum _
  | wifiManagerScanTimerStart | wifiManagerScanTimerStop | startTimerReconnectSta _ | wdogTimerStart
  | wdogTimerStop | osSemaSignal | espWifiScanGetApRecords | wifimanConfigInit _
  | wifimanConfigStaSave | staIpSafeDeinit | dnsServerInit | httpServerInit | setManagerTask _
  | osTaskCreateManager => False
  | wifiManagerLock | wifiManagerUnlock | isMsgQueueNull | xEventGroupGetBits
  | stopTimerReconnectSta | getFlagWdogFeedActive | setFlagWdogFeedActive _ | getWpsEnabled
  | setWpsEnabled _ | getScanInfo | getApRecords | getApNum | isScanSyncSemaNull | osSemaCreate
  | osSemaWait | osSemaDelete | espWifiGetCountry | espWifiGetConfigSta | espNetifGetIpInfo
  | espNetifDhcpcGetStatus | dhcpServerIpAddr | wifimanConfigStaGet | wifimanConfigStaSet _
  | wifimanConfigStaSetSsidAndPassword _ _ | jsonNetworkInfoUpdate _ _ _ | jsonNetworkInfoClear
  | jsonNetworkInfoSetReasonUserDisconnect | jsonNetworkInfoSetTimeValid _ | staIpSafeSet _
  | staIpSafeReset | callback _ | dnsServerStart | dnsServerStop | httpServerStart
  | httpServerEcdhInit | osCalloc => True

section OfClient

variable {posts : List QueueMessage} {t : TaskId} {o : WifiCall} {c : Reply} {s s' : WifiState}
  {r : o.Ret} {f : Field}

theorem WifiCall.OfClient.writes (ho : o.OfClient posts) (hf : f ∈ o.writes) :
    f ∈ clientWrites := by
  cases o
  case xEventGroupSetBits mask =>
    rcases ho with rfl | rfl | rfl | rfl <;> revert f <;> decide
  case xEventGroupClearBits mask =>
    obtain rfl := ho
    revert f
    decide
  case driver d =>
    cases d <;> simp_all [OfClient, DriverCall.OfClient, WifiCall.writes, DriverCall.writes,
      clientWrites]
  all_goals simp_all [OfClient, WifiCall.writes, clientWrites]

/-- A client leaves everything else as it is. -/
theorem exec_ofClient (ho : o.OfClient posts) (h : exec t o c s = some (r, s'))
    (hf : f ∉ clientWrites) : s.Agree s' f :=
  exec_agree h fun hw => hf (ho.writes hw)

end OfClient

theorem WifiCall.Plain.ofClient {o : WifiCall} {posts : List QueueMessage} (ho : o.Plain) :
    o.OfClient posts := by
  cases o <;> first
    | exact trivial
    | exact ho
    | exact .inr ho
    | exact absurd ho not_false

/-- A client makes the calls of a client, with its own messages. -/
theorem Client.all_ofClient {posts : List QueueMessage} {α : Type} {p : WifiProg α}
    (hp : Client posts p) : p.All (WifiCall.OfClient posts) := by
  induction hp with
  | pure a => exact trivial
  | bind _ _ ih ihf => exact ih.bind ihf
  | plain ho => exact .perform ho.ofClient
  | locked ho =>
    exact .bind (.perform trivial) fun _ => .bind (.perform ho.ofClient) fun _ => .perform trivial
  | send _ hmsg =>
    unfold Prog.All
    simp [wifimanMsgSend, wifimanMsgSendWithTimeout, Prog.perform, Prog.fold_call, Prog.fold_return,
      OfClient, hmsg]
  | connect hmsg =>
    unfold Prog.All
    simp [wifimanMsgSendCmdConnectSta, wifimanMsgSend, wifimanMsgSendWithTimeout, Prog.perform,
      Prog.fold_call, Prog.fold_return, OfClient, hmsg]
  | feed hmsg =>
    unfold Prog.All
    simp [wifimanMsgSendCmdTaskWatchdogFeed, wifimanMsgTrySendWithoutWaiting,
      wifimanMsgSendWithTimeout, Prog.perform, Prog.fold_call, Prog.fold_return, OfClient, hmsg]
  | scanSync hmsg =>
    unfold Prog.All
    simp [wifiManagerScanSync, wifimanMsgSendCmdStartWifiScan, wifimanMsgSend,
      wifimanMsgSendWithTimeout, Prog.perform, Prog.fold_call, Prog.fold_return, OfClient, hmsg]

/-- The calls of a request are those of a client, with its own messages. -/
theorem Request.prog_ofClient (req : Request) : req.prog.All (WifiCall.OfClient req.posts) :=
  req.prog_client.all_ofClient

/-- The parts that clients and the environment write. -/
def outsideWrites : List Field :=
  clientWrites ++ [.scanTimer, .driverConnecting, .driverScanning]

/-- Nothing outside of the manager task changes the other parts. -/
def WifiState.AgreeInside (s s' : WifiState) : Prop := ∀ f ∉ outsideWrites, s.Agree s' f

/-- A call that some client makes. -/
def WifiCall.IsClientCall (o : WifiCall) : Prop := ∃ posts, o.OfClient posts

theorem arrive_all {req : Request} {s s' : WifiState} {p : WifiProg Unit}
    (h : machine.arrive req s = some (s', p)) : p.All WifiCall.IsClientCall := by
  obtain ⟨-, rfl⟩ := arrive_eq h
  exact req.prog_ofClient.mono fun o ho => ⟨req.posts, ho⟩

theorem agreeInside_exec {t : TaskId} {o : WifiCall} {c : Reply} {s s' : WifiState} {r : o.Ret}
    (ho : o.IsClientCall) (h : exec t o c s = some (r, s')) : s.AgreeInside s' := by
  obtain ⟨posts, ho⟩ := ho
  intro f hf
  exact exec_ofClient ho h fun hmem => hf (List.mem_append_left _ hmem)

theorem agreeInside_occur {req : Request} {s s' : WifiState} (h : req.occur s = some s') :
    s.AgreeInside s' := by
  intro f hf
  apply occur_agree h
  intro hw
  apply hf
  cases req <;> simp [Request.writes] at hw <;> subst hw <;> decide

theorem started_clientsAll (P : WifiCall → Prop) (flag : Bool) (sta : WifimanConfigSta) :
    ClientsAll P (WifiConfig.started flag sta) := by
  intro i x hx
  exact absurd (started_task hx).1 (by simp)

theorem Reachable.clientsAll {cfg : WifiConfig} (h : Reachable cfg) :
    ClientsAll WifiCall.IsClientCall cfg := by
  obtain ⟨flag, sta, labels, hrun⟩ := h
  exact ClientsAll.path arrive_all hrun (started_clientsAll _ flag sta)

theorem WifiState.AgreeInside.trans {s s' s'' : WifiState} (h : s.AgreeInside s')
    (h' : s'.AgreeInside s'') : s.AgreeInside s'' := by
  intro f hf
  have hf₁ := h f hf
  have hf₂ := h' f hf
  cases f <;> exact hf₂.trans hf₁

/-- While other tasks run, the manager task stays where it is, and so does what it alone writes. -/
theorem others_run {cfg cfg' : WifiConfig} {labels : List WifiLabel}
    (hclients : ClientsAll WifiCall.IsClientCall cfg)
    (hp : Path machine (fun _ l => ∀ c, l ≠ .run .server c) cfg labels cfg') :
    cfg'.server = cfg.server ∧ cfg.shared.AgreeInside cfg'.shared := by
  induction hp with
  | nil => exact ⟨rfl, fun f _ => WifiState.agree_refl _ f⟩
  | @cons cfg l mid ls fin hs hl _ ih =>
    have hmid : mid.server = cfg.server ∧ cfg.shared.AgreeInside mid.shared := by
      cases hs with
      | @answer t o k w reply r s htask he =>
        cases t with
        | server => exact absurd rfl (hl reply)
        | client i => exact ⟨rfl, agreeInside_exec (hclients htask).1 he⟩
      | @wait t o k w reply htask he =>
        cases t with
        | server => exact absurd rfl (hl reply)
        | client i => exact ⟨rfl, fun f _ => WifiState.agree_refl _ f⟩
      | serve => exact absurd rfl (hl _)
      | arrive ha =>
        obtain ⟨hoccur, -⟩ := arrive_eq ha
        exact ⟨rfl, agreeInside_occur hoccur⟩
    obtain ⟨hserver, hagree⟩ := ih (hclients.step arrive_all hs)
    exact ⟨hserver.trans hmid.1, hmid.2.trans hagree⟩

end WifiManager
end Esp32WifiManager
