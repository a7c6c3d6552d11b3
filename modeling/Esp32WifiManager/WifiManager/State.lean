import Esp32WifiManager.Lib.CString
import Esp32WifiManager.Lib.BoundedQueue
import Esp32WifiManager.Lib.Mailbox

/-!
# The state of the Wi-Fi manager

The event group, the message queue and the other globals that the manager task
shares with its clients, and what the driver keeps of the calls made to it.
-/

namespace Esp32WifiManager
namespace WifiManager

open CString TaskSystem

/-! ### The event group -/

inductive EventBit
  | isWorking
  | wifiConnected
  | apStaConnected
  | apStaIpAssigned
  | apStarted
  | requestStaConnect
  | requestRestoreSta
  | scan
  | requestDisconnect
  | ethConnected
  | apActive
  | blockReqFromLanWhileApActive
  | staActive
  | initialConnection
  | cmdStaConnect
  deriving DecidableEq, Repr

def EventBits := EventBit → Bool

namespace EventBits

def zero : EventBits := fun _ => false

def set (bits : EventBits) (mask : List EventBit) : EventBits := fun b => mask.contains b || bits b

def clear (bits : EventBits) (mask : List EventBit) : EventBits :=
  fun b => !mask.contains b && bits b

variable {bits : EventBits} {mask : List EventBit} {b : EventBit}

theorem set_of_mem (h : b ∈ mask) : bits.set mask b = true := by
  simp [set, h]

theorem set_of_notMem (h : b ∉ mask) : bits.set mask b = bits b := by
  simp [set, h]

theorem clear_of_mem (h : b ∈ mask) : bits.clear mask b = false := by
  simp [clear, h]

theorem clear_of_notMem (h : b ∉ mask) : bits.clear mask b = bits b := by
  simp [clear, h]

end EventBits

/-! ### Messages -/

inductive ConnectionRequest
  | none
  | user
  | autoReconnect
  | restoreConnection
  | wps
  deriving DecidableEq, Repr

abbrev WifiErrReason := UInt8

def wifiReasonMicFailure : WifiErrReason := 14

abbrev Ip4 := UInt32

/-- `queue_message`: the code with its parameter. -/
inductive QueueMessage
  | orderStopAndDestroy
  | orderStartWifiScan
  | orderConnectEth
  | orderConnectSta (connReq : ConnectionRequest)
  | orderDisconnectEth
  | orderDisconnectSta
  | orderStartAp (flagBlockReqFromLan : Bool)
  | orderStopAp
  | eventStaDisconnected (reason : WifiErrReason)
  | eventScanNext
  | eventScanDone
  | eventStaGotIp (ip : Ip4)
  | eventApStaConnected
  | eventApStaDisconnected
  | eventApStaIpAssigned
  | orderEnableWps
  | orderDisableWps
  | orderTaskWatchdogFeed
  deriving DecidableEq, Repr

def wifimanMsgQueueLength : ℕ := 3

abbrev MsgQueue := BoundedQueue QueueMessage wifimanMsgQueueLength

/-! ### Configuration and connection status -/

/-- `wifi_sta_config_t`; the other members are zero in every configuration made here. -/
structure WifiStaConfig where
  ssid : CharBuf 32
  password : CharBuf 64
  deriving DecidableEq

/-- `wifiman_config_sta_t`, without the members that no modelled function reads. -/
structure WifimanConfigSta where
  wifiConfigSta : WifiStaConfig
  staStaticIp : Bool
  deriving DecidableEq

inductive UpdateReasonCode
  | connectionUndefined
  | connectionOk
  | failedAttempt
  | userDisconnect
  | lostConnection
  deriving DecidableEq, Repr

structure EspNetifIpInfo where
  ip : Ip4
  netmask : Ip4
  gw : Ip4
  deriving DecidableEq

/-- The byte at the lowest address comes first. -/
def espIp4addrNtoa (addr : Ip4) : Bytes :=
  let field (n : ℕ) : Bytes := (Nat.toDigits 10 n).map fun c => c.toNat.toUInt8
  field (addr.toNat % 256) ++ 46 :: field (addr.toNat / 256 % 256) ++
    46 :: field (addr.toNat / 65536 % 256) ++ 46 :: field (addr.toNat / 16777216)

structure NetworkInfoStr where
  ip : Bytes
  gw : Bytes
  netmask : Bytes
  dhcp : Bytes
  deriving DecidableEq

/-- `json_network_info_t`. -/
structure JsonNetworkInfo where
  isSsidNull : Bool
  isTimeValid : Bool
  ssid : CharBuf 32
  networkInfo : NetworkInfoStr
  updateReasonCode : UpdateReasonCode

/-! ### Access points -/

def maxApNum : ℕ := 30

/-- `wifi_ap_record_t`; `authmode` 0 is `WIFI_AUTH_OPEN`, and `other` are the bytes of the fields
that are only copied. -/
structure WifiApRecord where
  ssid : CharBuf 33
  primary : UInt8
  rssi : ℤ
  authmode : ℕ
  other : Bytes
  deriving DecidableEq

def WifiApRecord.zero : WifiApRecord := ⟨CharBuf.zero 33, 0, 0, 0, []⟩

structure WifiManagerScanInfo where
  firstChan : UInt8
  lastChan : UInt8
  curChan : UInt8
  numAccessPoints : ℕ
  deriving DecidableEq

structure WifiCountry where
  schan : UInt8
  nchan : UInt8

/-! ### The driver -/

abbrev EspErr := ℤ

def espOk : EspErr := 0

inductive WifiMode
  | sta
  | apsta
  deriving DecidableEq, Repr

/-- What the driver keeps: the last mode and station configuration given to it, and whether it
still owes an event for a connection attempt or a scan that it has accepted. -/
structure Driver where
  mode : Option WifiMode
  staConfig : Option WifiStaConfig
  connecting : Bool
  scanning : Bool

/-- Where the manager task is: it creates its watchdog timer before it enters its loop. -/
inductive TaskPhase
  | none
  | created
  | looping
  deriving DecidableEq, Repr

/-- `msgQueue` is `none` while `gh_wifiman_msg_queue` is `NULL`, `scanSyncSema` is `none` while
`g_p_scan_sync_sema` is, and holds whether the semaphore has been signalled. A timer is present
while it is armed. -/
structure WifiState where
  mutex : RecMutex
  eventBits : EventBits
  msgQueue : Option MsgQueue
  flagWdogFeedActive : Bool
  wpsEnabled : Bool
  scanInfo : WifiManagerScanInfo
  apNum : ℕ
  apRecords : List WifiApRecord
  scanTimer : Bool
  reconnectTimer : Option ℕ
  wdogTimer : Bool
  scanSyncSema : Option Bool
  config : WifimanConfigSta
  networkInfo : JsonNetworkInfo
  staIp : Bytes
  dnsServerMutex : Bool
  httpServerMutex : Bool
  managerTask : TaskPhase
  driver : Driver

namespace WifiState

/-- The messages in the queue. -/
def queued (s : WifiState) : List QueueMessage := (s.msgQueue.map BoundedQueue.items).getD []

end WifiState

end WifiManager
end Esp32WifiManager
