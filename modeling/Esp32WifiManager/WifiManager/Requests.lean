import Esp32WifiManager.WifiManager.HandleMsg

/-!
# The clients of the manager task

The API of `wifi_manager.c`, the timer callbacks and the event handler of
`wifi_manager_internal.c`, and what the HTTP server does for `connect.json`.
-/

namespace Esp32WifiManager
namespace WifiManager

open CString TaskSystem WifiCall

/-! ### Configuration of the interfaces -/

def wifiManagerEspWifiConfigureAp : WifiProg Unit := do
  let err ← call (driver (.espWifiSetMode .apsta))
  if err ≠ espOk then
    return
  let err ← call (driver .espWifiSetConfigAp)
  if err ≠ espOk then
    return
  let _ ← call (driver .espWifiSetBandwidth)

def wifiManagerNetifSetDefaultIp : WifiProg Unit := do
  let err ← call (driver .espNetifDhcps)
  if err ≠ espOk then
    return
  let err ← call (driver .espNetifSetIpInfo)
  if err ≠ espOk then
    return
  let _ ← call (driver .espNetifDhcps)

def wifiManagerNetifConfigureSta : WifiProg Unit := do
  let settings ← call wifimanConfigStaGet
  if settings.staStaticIp then
    let err ← call (driver .espNetifDhcpc)
    if err ≠ espOk then
      return
    let err ← call (driver .espNetifSetIpInfo)
    if err ≠ espOk then
      return
  else
    let (err, started) ← call espNetifDhcpcGetStatus
    if err ≠ espOk then
      return
    if !started then
      let err ← call (driver .espNetifDhcpc)
      if err ≠ espOk then
        return
  let _ ← call (driver .espWifiSetPs)

def wifiManagerSetConfigAp : WifiProg Unit := wifiManagerEspWifiConfigureAp

def wifiManagerSetConfigSta (cfg : WifimanConfigSta) : WifiProg Unit := do
  call (wifimanConfigStaSet cfg)
  wifiManagerNetifConfigureSta
  let _ ← call (driver (.espWifiSetMode .sta))

/-! ### Requests to connect and to disconnect -/

def wifiManagerReconnectSta : WifiProg Unit := do
  let isSsidConfigured ← wifimanConfigStaIsSsidConfigured
  if isSsidConfigured then
    let _ ← wifimanMsgSendCmdConnectSta .restoreConnection

def wifiManagerReconfigure (flagConnectSta : Bool) (cfg : WifimanConfigSta) : WifiProg Unit := do
  wifiManagerSetConfigAp
  wifiManagerSetConfigSta cfg
  let _ ← call (driver .espNetifSetHostname)
  if flagConnectSta then
    wifiManagerReconnectSta

def wifiManagerDisconnectEth : WifiProg Unit := do
  let _ ← wifimanMsgSendCmdDisconnectEth

def wifiManagerDisconnectWifi : WifiProg Unit := do
  let _ ← wifimanMsgSendCmdDisconnectSta

def wifiManagerConnectAsync : WifiProg Unit := do
  call wifiManagerLock
  call jsonNetworkInfoClear
  call wifiManagerUnlock
  let _ ← wifimanMsgSendCmdConnectSta .user

def wifiManagerConnectAsyncByWps : WifiProg Unit := do
  call wifiManagerLock
  call jsonNetworkInfoClear
  call wifiManagerUnlock
  let _ ← wifimanMsgSendCmdConnectSta .wps

def wifiManagerStopAp : WifiProg Unit := do
  let _ ← wifimanMsgSendCmdStopAp

def wifiManagerStartAp (flagBlockReqFromLan : Bool) : WifiProg Unit := do
  let _ ← wifimanMsgSendCmdStartAp flagBlockReqFromLan

def wifiManagerEnableWps : WifiProg Unit := do
  let _ ← wifimanMsgSendCmdEnableWps

def wifiManagerDisableWps : WifiProg Unit := do
  let _ ← wifimanMsgSendCmdDisableWps

def wifiManagerStop : WifiProg Unit := do
  let _ ← wifimanMsgSendCmdStopAndDestroy

/-! ### `GET /ap.json` -/

/-- The records printed to the caller, or nothing for a null buffer. A wait that runs into its
timeout is repeated, so the loop is one wait here. -/
def wifiManagerScanSync : WifiProg (Option (List WifiApRecord)) := do
  call wifiManagerLock
  let isNull ← call isScanSyncSemaNull
  if !isNull then
    call wifiManagerUnlock
    return none
  call osSemaCreate
  let sent ← wifimanMsgSendCmdStartWifiScan
  if !sent then
    call wifiManagerUnlock
    return none
  call wifiManagerUnlock
  call osSemaWait
  call wifiManagerLock
  call osSemaDelete
  call wifiManagerLock
  let records ← call getApRecords
  let num ← call getApNum
  let allocated ← call osCalloc
  call wifiManagerUnlock
  call wifiManagerUnlock
  return if allocated then some (jsonAccessPointsGenerate records num) else none

/-! ### Timers and driver events -/

def wifiScanNextTimerHandler : WifiProg Unit := do
  let _ ← wifimanMsgSendEvScanNext

def wifiManagerTimerCbReconnect : WifiProg Unit := do
  let _ ← wifimanMsgSendCmdConnectSta .autoReconnect

def wifiManagerTimerCbTaskWatchdogFeed : WifiProg Unit := wifimanMsgSendCmdTaskWatchdogFeed

/-- `wifi_event_sta_wps_er_success_t`, the first credential only. -/
structure WpsErSuccess where
  apCredCnt : ℕ
  ssid : Bytes
  passphrase : Bytes
  deriving DecidableEq

/-- What the handler does once it has copied the credentials: it looks at `conf`, which is still
zero when they came with the event. -/
def wifiManagerWpsConnect (conf : WifiStaConfig) (ssid : CharBuf 32) (password : CharBuf 64) :
    WifiProg Unit := do
  if !(CharBuf.isEmpty conf.ssid) then
    call (wifimanConfigStaSetSsidAndPassword ssid (some password))
    wifiManagerConnectAsyncByWps

def wifiManagerEventHandlerOnWpsErSuccess (evt : Option WpsErSuccess) : WifiProg Unit := do
  let _ ← call (driver .espWifiWpsDisable)
  call (setWpsEnabled false)
  call (callback .onWpsStopped)
  let allocated ← call osCalloc
  if !allocated then
    return
  match evt with
  | some evt =>
    if evt.apCredCnt = 0 then
      return
    wifiManagerWpsConnect ⟨CharBuf.zero 32, CharBuf.zero 64⟩ (CharBuf.ofStr 32 evt.ssid)
      (CharBuf.ofStr 64 evt.passphrase)
  | none =>
    let (err, conf) ← call espWifiGetConfigSta
    if err ≠ espOk then
      return
    wifiManagerWpsConnect conf (CharBuf.ofStr 32 conf.ssid.str) (CharBuf.ofStr 64 conf.password.str)

def wifiManagerRestartWps : WifiProg Unit := do
  let _ ← call (driver .espWifiWpsDisable)
  let _ ← call (driver .espWifiWpsEnable)
  let _ ← call (driver .espWifiWpsStart)

/-! ### `connect.json` -/

structure WifiSsidPassword where
  isSsidNull : Bool
  isPasswordNull : Bool
  ssid : CharBuf 32
  password : CharBuf 64
  deriving DecidableEq

/-- `wifi_ssid_password_t` with the two attributes that were found; `none` is `NULL`. -/
def wifiSsidPassword (attrs : Option Bytes × Option Bytes) : WifiSsidPassword where
  isSsidNull := attrs.1.isNone
  isPasswordNull := attrs.2.isNone
  ssid := (attrs.1.map fun str => CharBuf.ofStr 32 (text str)).getD (.zero 32)
  password := (attrs.2.map fun str => CharBuf.ofStr 64 (text str)).getD (.zero 64)

/-- `http_server_handle_req_post_connect_json`, for a body that can be parsed. -/
def httpServerHandleReqPostConnectJson (login : WifiSsidPassword) : WifiProg Unit := do
  if login.isSsidNull && login.isPasswordNull then
    let _ ← wifimanMsgSendCmdConnectEth
    return
  if login.isSsidNull then
    return
  if login.isPasswordNull then
    let savedSsid ← wifimanConfigStaGetSsid
    if savedSsid.str ≠ login.ssid.str then
      call (wifimanConfigStaSetSsidAndPassword login.ssid none)
  else
    call (wifimanConfigStaSetSsidAndPassword login.ssid (some login.password))
  call wifiManagerLock
  call jsonNetworkInfoClear
  call wifiManagerUnlock
  wifiManagerConnectAsync

/-- `DELETE /connect.json` from the access point. -/
def httpServerHandleReqDeleteConnectJson : WifiProg Unit := do
  call dnsServerStop
  wifiManagerDisableWps
  call wifiManagerLock
  call jsonNetworkInfoSetReasonUserDisconnect
  call wifiManagerUnlock
  let connectedToEthernet ← wifiManagerIsConnectedToEthernet
  if connectedToEthernet then
    wifiManagerDisconnectEth
  else
    wifiManagerDisconnectWifi

/-! ### Start of the manager -/

def wifiManagerInitStartWifi : WifiProg Bool := do
  let created ← wifimanMsgInit
  if !created then
    return false
  let err ← call (driver .espEventHandlerRegister)
  if err ≠ espOk then
    return false
  let err ← call (driver .espEventHandlerRegister)
  if err ≠ espOk then
    return false
  let err ← call (driver .espEventHandlerRegister)
  if err ≠ espOk then
    return false
  let err ← call (driver .espWifiInit)
  if err ≠ espOk then
    return false
  let err ← call (driver .espWifiSetStorage)
  if err ≠ espOk then
    return false
  wifiManagerNetifSetDefaultIp
  wifiManagerEspWifiConfigureAp
  wifiManagerNetifConfigureSta
  let err ← call (driver (.espWifiSetMode .sta))
  if err ≠ espOk then
    return false
  let err ← call (driver .espWifiStart)
  if err ≠ espOk then
    return false
  let err ← call (driver .espNetifSetHostname)
  if err ≠ espOk then
    return false
  let created ← call osTaskCreateManager
  return created

def wifiManagerInit (flagConnectSta : Bool) (cfg : WifimanConfigSta) : WifiProg Bool := do
  let working ← wifiManagerIsWorking
  if working then
    return false
  let _ ← call (xEventGroupSetBits [.isWorking])
  call (wifimanConfigInit cfg)
  call jsonNetworkInfoClear
  call staIpSafeReset
  let err ← call (driver .espEventLoopCreateDefault)
  if err ≠ espOk then
    return false
  let err ← call (driver .espNetifCreateDefault)
  if err ≠ espOk then
    return false
  let err ← call (driver .espNetifCreateDefault)
  if err ≠ espOk then
    return false
  call dnsServerInit
  call httpServerInit
  call httpServerStart
  let _ ← wifiManagerInitStartWifi
  if flagConnectSta then
    let _ ← call (xEventGroupSetBits [.initialConnection])
    wifiManagerReconnectSta
  return true

def wifiManagerStart (flagConnectSta : Bool) (cfg : WifimanConfigSta) : WifiProg Bool := do
  call wifiManagerLock
  let initialized ← call httpServerEcdhInit
  if !initialized then
    let _ ← call (xEventGroupClearBits [.isWorking])
    call wifiManagerUnlock
    return false
  let initialized ← wifiManagerInit flagConnectSta cfg
  if !initialized then
    let _ ← call (xEventGroupClearBits [.isWorking])
    call wifiManagerUnlock
    return false
  call wifiManagerUnlock
  return true

end WifiManager
end Esp32WifiManager
