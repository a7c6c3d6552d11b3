import Esp32WifiManager.WifiManager.Requests

/-!
# The manager task and its clients

The manager task takes messages from its queue until it is told to stop. Timers,
driver events and the callers of the API are clients; a timer that is not armed
does not expire, and the driver reports a scan once.
-/

namespace Esp32WifiManager
namespace WifiManager

open CString TaskSystem WifiCall

/-- The prologue of `wifi_manager_task`. -/
def wifiManagerWdtAddAndStart : WifiProg Unit := do
  let _ ← call (driver .espTaskWdtAdd)
  call wdogTimerStart

/-- What `wifi_manager_task` does after its loop. -/
def wifiManagerTaskFinish : WifiProg Unit := do
  call wifiManagerLock
  let _ ← call (driver .espTaskWdtDelete)
  call wdogTimerStop
  call stopTimerReconnectSta
  call wifiManagerScanTimerStop
  let _ ← call (xEventGroupClearBits [.isWorking, .wifiConnected, .apStaConnected,
    .apStaIpAssigned, .apStarted, .requestStaConnect, .requestRestoreSta, .scan,
    .requestDisconnect, .apActive])
  let _ ← call (driver .espEventHandlerUnregister)
  let _ ← call (driver .espEventHandlerUnregister)
  let _ ← call (driver .espEventHandlerUnregister)
  let _ ← call (driver .espWifiDisconnect)
  let _ ← call (driver .espWifiStop)
  let _ ← call (driver .espWifiDeinit)
  call staIpSafeDeinit
  wifimanMsgDeinit
  let _ ← call (driver .espNetifActionStop)
  let _ ← call (driver .espNetifActionStop)
  call wifiManagerUnlock

/-- One round of the loop, with what follows the last one. -/
def wifiManagerTaskRound : WifiProg Unit := do
  let flagTerminate ← wifiManagerRecvAndHandleMsg
  if flagTerminate then
    wifiManagerTaskFinish
    call (setManagerTask .none)

/-- What is left of a round when `msg` has been received. -/
def wifiManagerTaskHandle (msg : QueueMessage) : WifiProg Unit := do
  let flagTerminate ← (do
    let (flagTerminate, callCb) ← wifiManagerHandleMsg msg
    if callCb then
      call (callback (.onMessage msg))
    return flagTerminate : WifiProg Bool)
  if flagTerminate then
    wifiManagerTaskFinish
    call (setManagerTask .none)

theorem wifiManagerTaskRound_eq :
    wifiManagerTaskRound = .call xQueueReceive fun received =>
      match received with
      | none => .pure ()
      | some msg => wifiManagerTaskHandle msg := by
  unfold wifiManagerTaskRound wifiManagerRecvAndHandleMsg wifimanMsgRecv
  change Prog.call xQueueReceive _ = _
  congr 1
  funext received
  cases received <;> rfl

def wifiManagerTaskBegin : WifiProg Unit := do
  wifiManagerWdtAddAndStart
  call (setManagerTask .looping)

inductive Request
  | scanTimerExpired
  | reconnectTimerExpired
  | wdogTimerTick
  | wifiEventScanDone
  | wifiEventApStart
  | wifiEventApStaConnected
  | wifiEventApStaDisconnected
  | wifiEventStaDisconnected (reason : WifiErrReason)
  | wifiEventStaWpsErSuccess (evt : Option WpsErSuccess)
  | wifiEventStaWpsErFailed
  | wifiEventStaWpsErTimeout
  | ipEventStaGotIp (ip : Ip4)
  | ipEventApStaIpAssigned
  | disconnectEth
  | disconnectWifi
  | connectAsync
  | connectAsyncByWps
  | stopAp
  | startAp (flagBlockReqFromLan : Bool)
  | enableWps
  | disableWps
  | stop
  | reconnectSta
  | setConfigAp
  | setConfigSta (cfg : WifimanConfigSta)
  | reconfigure (flagConnectSta : Bool) (cfg : WifimanConfigSta)
  | updateNetworkConnectionInfo (reason : UpdateReasonCode) (ssid : Option (CharBuf 32))
      (ipInfo : Option EspNetifIpInfo) (dhcpIp : Option Ip4)
  | updateTimeSyncInfo (isTimeValid : Bool)
  | scanSync
  | postConnectJson (login : WifiSsidPassword)
  | deleteConnectJson
  | postConnectWps
  deriving DecidableEq

/-- The program of a request. -/
def Request.prog : Request → WifiProg Unit
  | .scanTimerExpired => wifiScanNextTimerHandler
  | .reconnectTimerExpired => wifiManagerTimerCbReconnect
  | .wdogTimerTick => wifiManagerTimerCbTaskWatchdogFeed
  | .wifiEventScanDone => do
    let _ ← wifimanMsgSendEvScanDone
  | .wifiEventApStart => do
    let _ ← call (xEventGroupSetBits [.apStarted])
  | .wifiEventApStaConnected => do
    let _ ← wifimanMsgSendEvApStaConnected
  | .wifiEventApStaDisconnected => do
    let _ ← wifimanMsgSendEvApStaDisconnected
  | .wifiEventStaDisconnected reason => do
    let _ ← wifimanMsgSendEvDisconnected reason
  | .wifiEventStaWpsErSuccess evt => wifiManagerEventHandlerOnWpsErSuccess evt
  | .wifiEventStaWpsErFailed => wifiManagerRestartWps
  | .wifiEventStaWpsErTimeout => wifiManagerRestartWps
  | .ipEventStaGotIp ip => do
    let _ ← wifimanMsgSendEvGotIp ip
  | .ipEventApStaIpAssigned => do
    let _ ← wifimanMsgSendEvApStaIpAssigned
  | .disconnectEth => wifiManagerDisconnectEth
  | .disconnectWifi => wifiManagerDisconnectWifi
  | .connectAsync => wifiManagerConnectAsync
  | .connectAsyncByWps => wifiManagerConnectAsyncByWps
  | .stopAp => wifiManagerStopAp
  | .startAp flagBlockReqFromLan => wifiManagerStartAp flagBlockReqFromLan
  | .enableWps => wifiManagerEnableWps
  | .disableWps => wifiManagerDisableWps
  | .stop => wifiManagerStop
  | .reconnectSta => wifiManagerReconnectSta
  | .setConfigAp => wifiManagerSetConfigAp
  | .setConfigSta cfg => wifiManagerSetConfigSta cfg
  | .reconfigure flagConnectSta cfg => wifiManagerReconfigure flagConnectSta cfg
  | .updateNetworkConnectionInfo reason ssid ipInfo dhcpIp =>
    wifiManagerUpdateNetworkConnectionInfo reason ssid ipInfo dhcpIp
  | .updateTimeSyncInfo isTimeValid => do
    call (jsonNetworkInfoSetTimeValid isTimeValid)
  | .scanSync => do
    let _ ← wifiManagerScanSync
  | .postConnectJson login => httpServerHandleReqPostConnectJson login
  | .deleteConnectJson => httpServerHandleReqDeleteConnectJson
  | .postConnectWps => wifiManagerEnableWps

/-- What the environment does to the state when a request arrives, where it can arrive. -/
def Request.occur : Request → WifiState → Option WifiState
  | .scanTimerExpired, s => if s.scanTimer then some { s with scanTimer := false } else none
  | .reconnectTimerExpired, s =>
    if s.reconnectTimer.isSome then some { s with reconnectTimer := none } else none
  | .wdogTimerTick, s => if s.wdogTimer then some s else none
  | .wifiEventScanDone, s =>
    if s.driver.scanning then some { s with driver := { s.driver with scanning := false } } else none
  | .wifiEventStaDisconnected _, s =>
    some { s with driver := { s.driver with connecting := false } }
  | .ipEventStaGotIp _, s => some { s with driver := { s.driver with connecting := false } }
  | _, s => some s

def machine : Machine WifiCall WifiCall.Ret Reply Request WifiState where
  exec := exec
  arrive req s := (req.occur s).map fun s' => (s', req.prog)
  serve s :=
    match s.managerTask with
    | .none => none
    | .created => some wifiManagerTaskBegin
    | .looping => some wifiManagerTaskRound

theorem serve_cases {s : WifiState} {p : WifiProg Unit} (h : machine.serve s = some p) :
    s.managerTask = .created ∧ p = wifiManagerTaskBegin ∨
      s.managerTask = .looping ∧ p = wifiManagerTaskRound := by
  change (match s.managerTask with
    | .none => none
    | .created => some wifiManagerTaskBegin
    | .looping => some wifiManagerTaskRound) = some p at h
  cases htask : s.managerTask <;> simp only [htask] at h
  case none => exact absurd h (by simp)
  case created => exact .inl ⟨rfl, (Option.some.inj h).symm⟩
  case looping => exact .inr ⟨rfl, (Option.some.inj h).symm⟩

theorem arrive_eq {req : Request} {s s' : WifiState} {p : WifiProg Unit}
    (h : machine.arrive req s = some (s', p)) : req.occur s = some s' ∧ p = req.prog := by
  obtain ⟨s'', hs, heq⟩ := Option.map_eq_some_iff.mp h
  obtain ⟨rfl, rfl⟩ := Prod.mk.inj heq
  exact ⟨hs, rfl⟩

abbrev WifiConfig := Config WifiCall WifiCall.Ret WifiState
abbrev WifiLabel := Label Reply Request

/-! ### The start -/

def JsonNetworkInfo.zero : JsonNetworkInfo :=
  ⟨false, false, CharBuf.zero 32, ⟨[], [], [], []⟩, .connectionOk⟩

/-- The globals before the first start: all zero. -/
def WifiState.zero : WifiState where
  mutex := .free
  eventBits := .zero
  msgQueue := none
  flagWdogFeedActive := false
  wpsEnabled := false
  scanInfo := ⟨0, 0, 0, 0⟩
  apNum := maxApNum
  apRecords := List.replicate (2 * maxApNum) .zero
  scanTimer := false
  reconnectTimer := none
  wdogTimer := false
  scanSyncSema := none
  config := ⟨⟨CharBuf.zero 32, CharBuf.zero 64⟩, false⟩
  networkInfo := .zero
  staIp := []
  dnsServerMutex := false
  httpServerMutex := false
  managerTask := .none
  driver := ⟨none, none, false, false⟩

/-- The globals after the first `wifi_manager_start` with `cfg`, when no call fails. -/
def WifiState.started (flagConnectSta : Bool) (cfg : WifimanConfigSta) : WifiState :=
  let connect := flagConnectSta && !(CharBuf.isEmpty (CharBuf.ofStr 32 cfg.wifiConfigSta.ssid.str))
  { WifiState.zero with
    eventBits := EventBits.set .zero (.isWorking :: if flagConnectSta then
      .initialConnection :: if connect then [.cmdStaConnect] else [] else [])
    msgQueue := if connect then BoundedQueue.empty.push (.orderConnectSta .restoreConnection)
      else some .empty
    config := cfg
    networkInfo := jsonNetworkInfoDoClear .zero
    staIp := espIp4addrNtoa 0
    dnsServerMutex := true
    httpServerMutex := true
    managerTask := .created
    driver := ⟨some .sta, none, false, false⟩ }

/-- The system when `wifi_manager_start` has returned: the manager task has not run yet. -/
def WifiConfig.started (flagConnectSta : Bool) (cfg : WifimanConfigSta) : WifiConfig where
  shared := .started flagConnectSta cfg
  server := ⟨.pure (), false⟩
  clients := []

theorem started_task {flag : Bool} {sta : WifimanConfigSta} {t : TaskId} {x : Task WifiCall WifiCall.Ret}
    (h : (WifiConfig.started flag sta).task t = some x) : t = .server ∧ x = ⟨.pure (), false⟩ := by
  cases t with
  | server => exact ⟨rfl, (Option.some.inj h).symm⟩
  | client i => exact absurd h (by simp [WifiConfig.started, Config.task])

/-- The answer of an environment in which nothing fails. -/
def Reply.ok : Reply where
  err := espOk
  country := ⟨1, 13⟩
  records := []
  staConfig := ⟨CharBuf.zero 32, CharBuf.zero 64⟩
  ipInfo := ⟨0, 0, 0⟩
  dhcpIp := none
  success := true

/-- Task `t` runs on for `n` steps. -/
def runs (t : TaskId) (n : ℕ) : List WifiLabel := List.replicate n (.run t .ok)

/-- A configuration with a network to connect to. -/
def homeConfig : WifimanConfigSta := ⟨⟨CharBuf.ofStr 32 (ascii "home"), CharBuf.zero 64⟩, false⟩

/-- Reached from some start by some run. -/
def Reachable (cfg : WifiConfig) : Prop :=
  ∃ flag sta labels, Path machine (fun _ _ => True) (WifiConfig.started flag sta) labels cfg

theorem Reachable.runWhere {ok : WifiConfig → WifiLabel → Bool} {cfg cfg' : WifiConfig}
    {labels : List WifiLabel} (h : Reachable cfg) (hrun : runWhere machine ok cfg labels = some cfg') :
    Reachable cfg' := by
  obtain ⟨flag, sta, labels₀, hp⟩ := h
  exact ⟨flag, sta, _, hp.append (Path.of_runWhere (fun _ _ _ => trivial) hrun)⟩

end WifiManager
end Esp32WifiManager
