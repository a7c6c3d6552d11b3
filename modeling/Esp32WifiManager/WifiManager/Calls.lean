import Esp32WifiManager.WifiManager.State

/-!
# The calls of the Wi-Fi manager

Each call of a function of the source to the operating system, the driver or a
module with a lock of its own is one step. The driver answers what it likes;
what it keeps follows its answer.
-/

namespace Esp32WifiManager
namespace WifiManager

open CString TaskSystem

inductive Timeout
  | noWait
  | portMaxDelay
  deriving DecidableEq, Repr

/-- Calls to the driver and the network stack that return an `esp_err_t`. -/
inductive DriverCall
  | espWifiConnect
  | espWifiDisconnect
  | espWifiSetConfigSta (cfg : WifiStaConfig)
  | espWifiScanStart (channel : UInt8)
  | espWifiSetMode (mode : WifiMode)
  | espWifiInit
  | espWifiStart
  | espWifiStop
  | espWifiDeinit
  | espWifiSetConfigAp
  | espWifiSetBandwidth
  | espWifiSetPs
  | espWifiSetStorage
  | espWifiWpsEnable
  | espWifiWpsStart
  | espWifiWpsDisable
  | espNetifDhcps
  | espNetifDhcpc
  | espNetifSetIpInfo
  | espNetifSetHostname
  | espNetifCreateDefault
  | espNetifActionStop
  | espEventLoopCreateDefault
  | espEventHandlerRegister
  | espEventHandlerUnregister
  | espTaskWdtAdd
  | espTaskWdtReset
  | espTaskWdtDelete
  deriving DecidableEq

def DriverCall.effect (err : EspErr) (d : Driver) : DriverCall → Driver
  | .espWifiConnect => if err = espOk then { d with connecting := true } else d
  | .espWifiSetConfigSta cfg => { d with staConfig := some cfg }
  | .espWifiSetMode mode => if err = espOk then { d with mode := some mode } else d
  | .espWifiScanStart _ => if err = espOk then { d with scanning := true } else d
  | .espWifiStop => { d with connecting := false, scanning := false }
  | .espWifiDisconnect | .espWifiInit | .espWifiStart | .espWifiDeinit | .espWifiSetConfigAp
  | .espWifiSetBandwidth | .espWifiSetPs | .espWifiSetStorage | .espWifiWpsEnable
  | .espWifiWpsStart | .espWifiWpsDisable | .espNetifDhcps | .espNetifDhcpc | .espNetifSetIpInfo
  | .espNetifSetHostname | .espNetifCreateDefault | .espNetifActionStop
  | .espEventLoopCreateDefault | .espEventHandlerRegister | .espEventHandlerUnregister
  | .espTaskWdtAdd | .espTaskWdtReset | .espTaskWdtDelete => d

/-- Callbacks of the application. What they do in the manager is the business of other tasks. -/
inductive WifiCallback
  | onConnectEthCmd
  | onDisconnectEthCmd
  | onDisconnectStaCmd
  | onApStarted
  | onApStopped
  | onApStaConnected
  | onApStaDisconnected
  | onApStaIpAssigned
  | onWpsStarted
  | onWpsStopped
  | onMessage (msg : QueueMessage)
  deriving DecidableEq

inductive WifiCall
  | wifiManagerLock
  | wifiManagerUnlock
  | isMsgQueueNull
  | xQueueCreate
  | xQueueSend (msg : QueueMessage) (timeout : Timeout)
  | xQueueReceive
  | vQueueDelete
  | xEventGroupSetBits (mask : List EventBit)
  | xEventGroupClearBits (mask : List EventBit)
  | xEventGroupGetBits
  | driver (c : DriverCall)
  | startTimerReconnectSta (delayMs : ℕ)
  | stopTimerReconnectSta
  | getFlagWdogFeedActive
  | setFlagWdogFeedActive (active : Bool)
  | getWpsEnabled
  | setWpsEnabled (enabled : Bool)
  | getScanInfo
  | setScanInfo (info : WifiManagerScanInfo)
  | getApRecords
  | setApRecords (records : List WifiApRecord)
  | getApNum
  | setApNum (num : ℕ)
  | wifiManagerScanTimerStart
  | wifiManagerScanTimerStop
  | wdogTimerStart
  | wdogTimerStop
  | isScanSyncSemaNull
  | osSemaCreate
  | osSemaSignal
  | osSemaWait
  | osSemaDelete
  | espWifiGetCountry
  | espWifiScanGetApRecords
  | espWifiGetConfigSta
  | espNetifGetIpInfo
  | espNetifDhcpcGetStatus
  | dhcpServerIpAddr
  | wifimanConfigInit (cfg : WifimanConfigSta)
  | wifimanConfigStaGet
  | wifimanConfigStaSet (cfg : WifimanConfigSta)
  | wifimanConfigStaSetSsidAndPassword (ssid : CharBuf 32) (password : Option (CharBuf 64))
  | wifimanConfigStaSave
  | jsonNetworkInfoUpdate (ssid : Option (CharBuf 32)) (info : NetworkInfoStr)
      (reason : UpdateReasonCode)
  | jsonNetworkInfoClear
  | jsonNetworkInfoSetReasonUserDisconnect
  | jsonNetworkInfoSetTimeValid (isTimeValid : Bool)
  | staIpSafeSet (ip : Ip4)
  | staIpSafeReset
  | staIpSafeDeinit
  | callback (c : WifiCallback)
  | dnsServerInit
  | dnsServerStart
  | dnsServerStop
  | httpServerInit
  | httpServerStart
  | httpServerEcdhInit
  | osCalloc
  | setManagerTask (phase : TaskPhase)
  | osTaskCreateManager
  deriving DecidableEq

@[reducible] def WifiCall.Ret : WifiCall → Type
  | .isMsgQueueNull | .xQueueCreate | .xQueueSend _ _ => Bool
  | .xQueueReceive => Option QueueMessage
  | .xEventGroupSetBits _ | .xEventGroupClearBits _ | .xEventGroupGetBits => EventBits
  | .getFlagWdogFeedActive | .getWpsEnabled | .isScanSyncSemaNull => Bool
  | .getScanInfo => WifiManagerScanInfo
  | .getApRecords => List WifiApRecord
  | .getApNum => ℕ
  | .driver _ => EspErr
  | .espWifiGetCountry => EspErr × WifiCountry
  | .espWifiScanGetApRecords => EspErr × ℕ
  | .espWifiGetConfigSta => EspErr × WifiStaConfig
  | .espNetifGetIpInfo => EspErr × EspNetifIpInfo
  | .espNetifDhcpcGetStatus => EspErr × Bool
  | .dhcpServerIpAddr => Option Ip4
  | .wifimanConfigStaGet => WifimanConfigSta
  | .httpServerEcdhInit | .osCalloc | .osTaskCreateManager => Bool
  | _ => Unit

/-- What the environment answers to a call: the result of the driver with the values it returns,
and whether an allocation, or another call with two outcomes, succeeds. -/
structure Reply where
  err : EspErr
  country : WifiCountry
  records : List WifiApRecord
  staConfig : WifiStaConfig
  ipInfo : EspNetifIpInfo
  dhcpIp : Option Ip4
  success : Bool

def wifimanConfigStaDoSetSsidAndPassword (ssid : CharBuf 32) (password : Option (CharBuf 64)) :
    WifiStaConfig where
  ssid := CharBuf.ofStr 32 ssid.str
  password := CharBuf.ofStr 64 ((password.map CharBuf.str).getD [])

def jsonNetworkInfoDoUpdate (ssid : Option (CharBuf 32)) (info : NetworkInfoStr)
    (reason : UpdateReasonCode) (j : JsonNetworkInfo) : JsonNetworkInfo where
  isSsidNull := ssid.isNone
  isTimeValid := j.isTimeValid
  ssid := ssid.getD (CharBuf.clear j.ssid)
  networkInfo := info
  updateReasonCode := reason

def jsonNetworkInfoDoClear (j : JsonNetworkInfo) : JsonNetworkInfo where
  isSsidNull := true
  isTimeValid := false
  ssid := CharBuf.clear j.ssid
  networkInfo := ⟨[], [], [], []⟩
  updateReasonCode := .connectionUndefined

/-- `&g_wifi_ap_records[MAX_AP_NUM]` receives at most `MAX_AP_NUM` records; what stood there
beyond them stays. -/
def espWifiScanStoreApRecords (found records : List WifiApRecord) : List WifiApRecord :=
  let found := found.take maxApNum
  records.take maxApNum ++ found ++ records.drop (maxApNum + found.length)

open WifiCall in
/-- One call of task `t`. A send to a full queue, a receive from an empty one, a taken mutex and
a semaphore that has not been signalled make the task wait; a failed `assert` stops it. -/
def exec (t : TaskId) : (o : WifiCall) → Reply → WifiState → Option (o.Ret × WifiState)
  | wifiManagerLock, _, s => (s.mutex.lock t).map fun m => ((), { s with mutex := m })
  | wifiManagerUnlock, _, s => some ((), { s with mutex := s.mutex.unlock t })
  | isMsgQueueNull, _, s => some (s.msgQueue.isNone, s)
  | xQueueCreate, c, s =>
    if c.success then some (true, { s with msgQueue := some .empty })
    else some (false, { s with msgQueue := none })
  | xQueueSend msg timeout, _, s =>
    match s.msgQueue with
    | none => some (false, s)
    | some q =>
      match q.push msg with
      | some q' => some (true, { s with msgQueue := some q' })
      | none =>
        match timeout with
        | .noWait => some (false, s)
        | .portMaxDelay => none
  | xQueueReceive, _, s =>
    match s.msgQueue.bind BoundedQueue.pop with
    | some (msg, q) => some (some msg, { s with msgQueue := some q })
    | none => none
  | vQueueDelete, _, s => some ((), { s with msgQueue := none })
  | xEventGroupSetBits mask, _, s =>
    some (s.eventBits.set mask, { s with eventBits := s.eventBits.set mask })
  | xEventGroupClearBits mask, _, s =>
    some (s.eventBits, { s with eventBits := s.eventBits.clear mask })
  | xEventGroupGetBits, _, s => some (s.eventBits, s)
  | getFlagWdogFeedActive, _, s => some (s.flagWdogFeedActive, s)
  | setFlagWdogFeedActive active, _, s => some ((), { s with flagWdogFeedActive := active })
  | getWpsEnabled, _, s => some (s.wpsEnabled, s)
  | setWpsEnabled enabled, _, s => some ((), { s with wpsEnabled := enabled })
  | getScanInfo, _, s => some (s.scanInfo, s)
  | setScanInfo info, _, s => some ((), { s with scanInfo := info })
  | getApRecords, _, s => some (s.apRecords, s)
  | setApRecords records, _, s => some ((), { s with apRecords := records })
  | getApNum, _, s => some (s.apNum, s)
  | setApNum num, _, s => some ((), { s with apNum := num })
  | wifiManagerScanTimerStart, _, s => some ((), { s with scanTimer := true })
  | wifiManagerScanTimerStop, _, s => some ((), { s with scanTimer := false })
  | startTimerReconnectSta delayMs, _, s => some ((), { s with reconnectTimer := some delayMs })
  | stopTimerReconnectSta, _, s => some ((), { s with reconnectTimer := none })
  | wdogTimerStart, _, s => some ((), { s with wdogTimer := true })
  | wdogTimerStop, _, s => some ((), { s with wdogTimer := false })
  | isScanSyncSemaNull, _, s => some (s.scanSyncSema.isNone, s)
  | osSemaCreate, _, s => some ((), { s with scanSyncSema := some false })
  | osSemaSignal, _, s => some ((), { s with scanSyncSema := s.scanSyncSema.map fun _ => true })
  | osSemaWait, _, s =>
    match s.scanSyncSema with
    | some true => some ((), { s with scanSyncSema := some false })
    | _ => none
  | osSemaDelete, _, s => some ((), { s with scanSyncSema := none })
  | driver d, c, s => some (c.err, { s with driver := d.effect c.err s.driver })
  | espWifiGetCountry, c, s => some ((c.err, c.country), s)
  | espWifiScanGetApRecords, c, s =>
    if c.err = espOk then
      some ((c.err, (c.records.take maxApNum).length),
        { s with apRecords := espWifiScanStoreApRecords c.records s.apRecords })
    else some ((c.err, maxApNum), s)
  | espWifiGetConfigSta, c, s => some ((c.err, c.staConfig), s)
  | espNetifGetIpInfo, c, s => some ((c.err, c.ipInfo), s)
  | espNetifDhcpcGetStatus, c, s => some ((c.err, c.success), s)
  | dhcpServerIpAddr, c, s => some (c.dhcpIp, s)
  | wifimanConfigInit cfg, _, s => some ((), { s with config := cfg })
  | wifimanConfigStaGet, _, s => some (s.config, s)
  | wifimanConfigStaSet cfg, _, s => some ((), { s with config := cfg })
  | wifimanConfigStaSetSsidAndPassword ssid password, _, s =>
    some ((), { s with config :=
      { s.config with wifiConfigSta := wifimanConfigStaDoSetSsidAndPassword ssid password } })
  | wifimanConfigStaSave, _, s => some ((), s)
  | jsonNetworkInfoUpdate ssid info reason, _, s =>
    some ((), { s with networkInfo := jsonNetworkInfoDoUpdate ssid info reason s.networkInfo })
  | jsonNetworkInfoClear, _, s =>
    some ((), { s with networkInfo := jsonNetworkInfoDoClear s.networkInfo })
  | jsonNetworkInfoSetReasonUserDisconnect, _, s =>
    some ((), { s with networkInfo := { s.networkInfo with updateReasonCode := .userDisconnect } })
  | jsonNetworkInfoSetTimeValid isTimeValid, _, s =>
    some ((), { s with networkInfo := { s.networkInfo with isTimeValid := isTimeValid } })
  | staIpSafeSet ip, _, s => some ((), { s with staIp := espIp4addrNtoa ip })
  | staIpSafeReset, _, s => some ((), { s with staIp := espIp4addrNtoa 0 })
  | staIpSafeDeinit, _, s => some ((), { s with staIp := [] })
  | callback _, _, s => some ((), s)
  | dnsServerInit, _, s =>
    if s.dnsServerMutex then none else some ((), { s with dnsServerMutex := true })
  | dnsServerStart, _, s => if s.dnsServerMutex then some ((), s) else none
  | dnsServerStop, _, s => if s.dnsServerMutex then some ((), s) else none
  | httpServerInit, _, s =>
    if s.httpServerMutex then none else some ((), { s with httpServerMutex := true })
  | httpServerStart, _, s => if s.httpServerMutex then some ((), s) else none
  | httpServerEcdhInit, c, s => some (c.success, s)
  | osCalloc, c, s => some (c.success, s)
  | setManagerTask phase, _, s => some ((), { s with managerTask := phase })
  | osTaskCreateManager, c, s =>
    if c.success then some (true, { s with managerTask := .created }) else some (false, s)

/-- Programs that make these calls. -/
abbrev WifiProg := Prog WifiCall WifiCall.Ret

abbrev call (o : WifiCall) : WifiProg o.Ret := Prog.perform o

/-! ### Reads of the event group and of the configuration -/

section Reads

open WifiCall

def wifiManagerIsConnectedToWifi : WifiProg Bool := do
  let bits ← call xEventGroupGetBits
  return bits .wifiConnected

def wifiManagerIsConnectedToEthernet : WifiProg Bool := do
  let bits ← call xEventGroupGetBits
  return bits .ethConnected

def wifiManagerIsWorking : WifiProg Bool := do
  let bits ← call xEventGroupGetBits
  return bits .isWorking

def wifiManagerIsApActive : WifiProg Bool := do
  let bits ← call xEventGroupGetBits
  return bits .apActive

def wifiManagerIsReqFromLanBlockedWhileApIsActive : WifiProg Bool := do
  let bits ← call xEventGroupGetBits
  return bits .apActive && bits .blockReqFromLanWhileApActive

def wifimanConfigStaGetSsid : WifiProg (CharBuf 32) := do
  let cfg ← call wifimanConfigStaGet
  return CharBuf.ofStr 32 cfg.wifiConfigSta.ssid.str

def wifimanConfigStaIsSsidConfigured : WifiProg Bool := do
  let ssid ← wifimanConfigStaGetSsid
  return !(CharBuf.isEmpty ssid)

end Reads

end WifiManager
end Esp32WifiManager
