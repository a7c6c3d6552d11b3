import Esp32WifiManager.WifiManager.WifimanMsg

/-!
# The message handlers of the manager task

The functions of `wifi_manager_handle_msg.c`, statement by statement, and
`wifi_manager_update_network_connection_info`, which two of them call.
-/

namespace Esp32WifiManager
namespace WifiManager

open CString TaskSystem WifiCall

/-- `wifi_manager_update_network_connection_info` -/
def wifiManagerUpdateNetworkConnectionInfo (reason : UpdateReasonCode) (ssid : Option (CharBuf 32))
    (ipInfo : Option EspNetifIpInfo) (dhcpIp : Option Ip4) : WifiProg Unit := do
  let zero : NetworkInfoStr := ⟨ascii "0", ascii "0", ascii "0", []⟩
  if reason = .connectionOk then
    if ssid.isNone then
      let _ ← call (xEventGroupSetBits [.ethConnected])
    else
      let _ ← call (xEventGroupSetBits [.wifiConnected])
      call stopTimerReconnectSta
    match ipInfo with
    | some info =>
      call (staIpSafeSet info.ip)
      call (jsonNetworkInfoUpdate ssid
        ⟨espIp4addrNtoa info.ip, espIp4addrNtoa info.gw, espIp4addrNtoa info.netmask,
          (dhcpIp.map espIp4addrNtoa).getD []⟩ reason)
    | none =>
      call staIpSafeReset
      call (jsonNetworkInfoUpdate ssid zero reason)
  else
    call staIpSafeReset
    let _ ← call (xEventGroupClearBits [.wifiConnected, .ethConnected])
    call (jsonNetworkInfoUpdate ssid zero reason)

/-- `wifi_manger_notify_scan_done` -/
def wifiMangerNotifyScanDone : WifiProg Unit := do
  let _ ← call (xEventGroupClearBits [.scan])
  let isNull ← call isScanSyncSemaNull
  if !isNull then
    call osSemaSignal

/-- Whether the scan is finished. -/
def wifiScanNext : WifiProg Bool := do
  let info ← call getScanInfo
  let curChan := info.curChan + 1
  call (setScanInfo { info with curChan := curChan })
  if curChan > info.lastChan then
    return true
  call wifiManagerScanTimerStart
  return false

def wifiManagerWifiCountryDefault : WifiCountry := ⟨1, 13⟩

def wifiHandleCmdStartWifiScan : WifiProg Unit := do
  let bits ← call xEventGroupGetBits
  if bits .scan then
    return
  let _ ← call (xEventGroupSetBits [.scan])
  let (err, country) ← call espWifiGetCountry
  let country := if err ≠ espOk then wifiManagerWifiCountryDefault else country
  call (setScanInfo ⟨country.schan, country.schan + country.nchan - 1, 0, 0⟩)
  let finished ← wifiScanNext
  if finished then
    let _ ← wifimanMsgSendEvScanDone

def wifiHandleCmdConnectEth : WifiProg Unit := do
  let _ ← call (xEventGroupClearBits [.requestRestoreSta])
  call (callback .onConnectEthCmd)

/-- The switch over the kind of the connect order. -/
def wifiConnectStaSwitch : ConnectionRequest → WifiProg Unit
  | .none => pure ()
  | .user => do
    let _ ← call (xEventGroupClearBits [.requestRestoreSta])
    let _ ← call (xEventGroupSetBits [.requestStaConnect])
  | .autoReconnect => pure ()
  | .restoreConnection => do
    let _ ← call (xEventGroupSetBits [.requestRestoreSta])
  | .wps => do
    let _ ← call (xEventGroupClearBits [.requestRestoreSta])
    let _ ← call (xEventGroupSetBits [.requestStaConnect])

/-- What the connect handler does after the switch, with the bits it has read before it. -/
def wifiConnectStaRun (bits : EventBits) : WifiProg Unit := do
  if bits .staActive then
    let _ ← call (xEventGroupSetBits [.requestRestoreSta])
    let _ ← wifimanMsgSendCmdDisconnectSta
  else
    let _ ← call (xEventGroupClearBits [.requestDisconnect])
    let _ ← call (xEventGroupSetBits [.staActive])
    let cfg ← call wifimanConfigStaGet
    let err ← call (driver (.espWifiSetConfigSta cfg.wifiConfigSta))
    if err = espOk then
      let _ ← call (driver .espWifiConnect)

def wifiHandleCmdConnectSta (connReq : ConnectionRequest) : WifiProg Unit := do
  let _ ← call (xEventGroupClearBits [.cmdStaConnect])
  let bits ← call xEventGroupGetBits
  wifiConnectStaSwitch connReq
  wifiConnectStaRun bits

def wifiManagerReconnectStaDefaultTimeoutSec : ℕ := 1
def wifiManagerReconnectStaAfterMicFailureTimeoutSec : ℕ := 70

def wifiHandleEvStaHandleLostConnection (bits : EventBits) (flagMicFailure : Bool) :
    WifiProg Unit := do
  let wpsEnabled ← call getWpsEnabled
  if !wpsEnabled && bits .staActive then
    if flagMicFailure then
      let _ ← call (driver .espWifiDisconnect)
      call (startTimerReconnectSta (wifiManagerReconnectStaAfterMicFailureTimeoutSec * 1000))
    else
      call (startTimerReconnectSta (wifiManagerReconnectStaDefaultTimeoutSec * 1000))

/-- The reason to report, and whether a new connect order is needed. -/
def wifiStaDisconnectedReason (bits : EventBits) (reason : WifiErrReason) :
    WifiProg (UpdateReasonCode × Bool) := do
  if bits .requestStaConnect && bits .requestRestoreSta then
    return (.userDisconnect, true)
  else if bits .requestStaConnect then
    let _ ← call (xEventGroupClearBits [.requestStaConnect])
    return (.failedAttempt, false)
  else if bits .requestDisconnect then
    let _ ← call (xEventGroupClearBits [.requestDisconnect])
    return (.userDisconnect, false)
  else
    wifiHandleEvStaHandleLostConnection bits (reason = wifiReasonMicFailure)
    return (.lostConnection, false)

def wifiStaDisconnectedReconnect (bits : EventBits) (flagNeedToReconnect : Bool) :
    WifiProg Unit := do
  if flagNeedToReconnect && !bits .cmdStaConnect then
    let _ ← wifimanMsgSendCmdConnectSta .user

/-- Whether the callback for the message is called. -/
def wifiHandleEvStaDisconnected (reason : WifiErrReason) : WifiProg Bool := do
  let bits ← call (xEventGroupClearBits [.scan, .initialConnection, .staActive, .wifiConnected])
  let (updateReasonCode, flagNeedToReconnect) ← wifiStaDisconnectedReason bits reason
  let ssid ← wifimanConfigStaGetSsid
  wifiManagerUpdateNetworkConnectionInfo updateReasonCode (some ssid) none none
  wifiStaDisconnectedReconnect bits flagNeedToReconnect
  return bits .wifiConnected || bits .initialConnection

def wifiHandleCmdStartAp (flagBlockReqFromLan : Bool) : WifiProg Unit := do
  let _ ← call (driver (.espWifiSetMode .apsta))
  let _ ← call (xEventGroupSetBits
    (.apActive :: if flagBlockReqFromLan then [.blockReqFromLanWhileApActive] else []))
  call (callback .onApStarted)

def wifiHandleCmdStopAp : WifiProg Unit := do
  let _ ← call (driver (.espWifiSetMode .sta))
  let _ ← call (xEventGroupClearBits [.apActive, .blockReqFromLanWhileApActive])
  call (callback .onApStopped)

def wifiHandleCmdEnableWps : WifiProg Unit := do
  let _ ← call (driver .espWifiWpsEnable)
  let err ← call (driver .espWifiWpsStart)
  if err = espOk then
    call (setWpsEnabled true)
    call (callback .onWpsStarted)

def wifiHandleCmdDisableWps : WifiProg Unit := do
  let err ← call (driver .espWifiWpsDisable)
  call (setWpsEnabled false)
  if err = espOk then
    call (callback .onWpsStopped)

def wifiHandleEvStaGotIp (_ip : Ip4) : WifiProg Unit := do
  let bits ← call (xEventGroupClearBits [.requestStaConnect, .requestRestoreSta])
  if !bits .requestRestoreSta then
    call wifimanConfigStaSave
  let (err, ipInfo) ← call espNetifGetIpInfo
  if err = espOk then
    let ssid ← wifimanConfigStaGetSsid
    let dhcpIp ← call dhcpServerIpAddr
    wifiManagerUpdateNetworkConnectionInfo .connectionOk (some ssid) (some ipInfo) dhcpIp

def wifiHandleEvApStaConnected : WifiProg Unit := do
  let _ ← call (xEventGroupClearBits [.apStaIpAssigned, .initialConnection])
  let _ ← call (xEventGroupSetBits [.apStaConnected])
  call (callback .onApStaConnected)
  let connected ← wifiManagerIsConnectedToWifi
  if !connected then
    call dnsServerStart

def wifiHandleEvApStaDisconnected : WifiProg Unit := do
  let _ ← call (xEventGroupClearBits [.apStaConnected, .apStaIpAssigned])
  call dnsServerStop
  call (callback .onApStaDisconnected)

def wifiHandleEvApStaIpAssigned : WifiProg Unit := do
  let _ ← call (xEventGroupSetBits [.apStaIpAssigned])
  call (callback .onApStaIpAssigned)

def wifiHandleCmdDisconnectEth : WifiProg Unit := do
  call (callback .onDisconnectEthCmd)

def wifiHandleCmdDisconnectSta : WifiProg Unit := do
  call stopTimerReconnectSta
  let bits ← call (xEventGroupSetBits [.requestDisconnect])
  let _ ← call (xEventGroupClearBits [.staActive])
  let _ ← call (driver .espWifiDisconnect)
  call (callback .onDisconnectStaCmd)
  let _ ← call (xEventGroupClearBits [.requestDisconnect])
  if bits .requestStaConnect then
    let _ ← wifimanMsgSendCmdConnectSta .user

def wifiHandleEvScanNext : WifiProg Unit := do
  let info ← call getScanInfo
  let ret ← call (driver (.espWifiScanStart info.curChan))
  if ret ≠ espOk then
    call wifiManagerLock
    wifiMangerNotifyScanDone
    call wifiManagerUnlock

def wifiHandleEvScanDone : WifiProg Unit := do
  call wifiManagerLock
  let (err, _) ← call espWifiScanGetApRecords
  if err ≠ espOk then
    wifiMangerNotifyScanDone
    call wifiManagerUnlock
    return
  let records ← call getApRecords
  let (unique, num) := apListFilterUnique records
  call (setApRecords (apListSortByRssi unique num))
  call (setApNum num)
  let info ← call getScanInfo
  call (setScanInfo { info with numAccessPoints := if num ≥ maxApNum then maxApNum else num })
  let finished ← wifiScanNext
  if finished then
    wifiMangerNotifyScanDone
    call wifiManagerUnlock
  else
    call wifiManagerUnlock

def wifiManagerWdtTaskReset : WifiProg Unit := do
  let _ ← call (driver .espTaskWdtReset)

/-- The switch over the message code: whether the task ends, and whether the callback for the
message is called. -/
def wifiManagerHandleMsg : QueueMessage → WifiProg (Bool × Bool)
  | .orderStopAndDestroy => return (true, true)
  | .orderStartWifiScan => do
    wifiHandleCmdStartWifiScan
    return (false, true)
  | .orderConnectEth => do
    wifiHandleCmdConnectEth
    return (false, true)
  | .orderConnectSta connReq => do
    wifiHandleCmdConnectSta connReq
    return (false, true)
  | .orderDisconnectEth => do
    wifiHandleCmdDisconnectEth
    return (false, true)
  | .orderDisconnectSta => do
    wifiHandleCmdDisconnectSta
    return (false, true)
  | .orderStartAp flagBlockReqFromLan => do
    wifiHandleCmdStartAp flagBlockReqFromLan
    return (false, true)
  | .orderStopAp => do
    wifiHandleCmdStopAp
    return (false, true)
  | .eventStaDisconnected reason => do
    let callCb ← wifiHandleEvStaDisconnected reason
    return (false, callCb)
  | .eventScanNext => do
    wifiHandleEvScanNext
    return (false, true)
  | .eventScanDone => do
    wifiHandleEvScanDone
    return (false, true)
  | .eventStaGotIp ip => do
    wifiHandleEvStaGotIp ip
    return (false, true)
  | .eventApStaConnected => do
    wifiHandleEvApStaConnected
    return (false, true)
  | .eventApStaDisconnected => do
    wifiHandleEvApStaDisconnected
    return (false, true)
  | .eventApStaIpAssigned => do
    wifiHandleEvApStaIpAssigned
    return (false, true)
  | .orderEnableWps => do
    wifiHandleCmdEnableWps
    return (false, true)
  | .orderDisableWps => do
    wifiHandleCmdDisableWps
    return (false, true)
  | .orderTaskWatchdogFeed => do
    wifimanMsgClearFlagWdogFeedActive
    wifiManagerWdtTaskReset
    return (false, true)

/-- Whether the task ends. -/
def wifiManagerRecvAndHandleMsg : WifiProg Bool := do
  let received ← wifimanMsgRecv
  match received with
  | none => return false
  | some msg =>
    let (flagTerminate, callCb) ← wifiManagerHandleMsg msg
    if callCb then
      call (callback (.onMessage msg))
    return flagTerminate

end WifiManager
end Esp32WifiManager
