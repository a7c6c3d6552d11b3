import Esp32WifiManager.WifiManager.System

/-!
# What the programs of the clients are made of

Most calls of a client stand alone. The others come in the blocks of the source
that belong together: a send with its mutex, a connect order with the bit that
announces it, the watchdog order with its flag, and the scan of `ap.json`.
-/

namespace Esp32WifiManager
namespace WifiManager

open CString TaskSystem WifiCall

def DriverCall.OfClient : DriverCall → Prop
  | .espWifiConnect | .espWifiDisconnect | .espWifiSetConfigSta _ | .espWifiScanStart _
  | .espWifiInit | .espWifiStart | .espWifiStop | .espWifiDeinit => False
  | .espWifiSetMode _ | .espWifiSetConfigAp | .espWifiSetBandwidth | .espWifiSetPs
  | .espWifiSetStorage | .espWifiWpsEnable | .espWifiWpsStart | .espWifiWpsDisable | .espNetifDhcps
  | .espNetifDhcpc | .espNetifSetIpInfo | .espNetifSetHostname | .espNetifCreateDefault
  | .espNetifActionStop | .espEventLoopCreateDefault | .espEventHandlerRegister
  | .espEventHandlerUnregister | .espTaskWdtAdd | .espTaskWdtReset | .espTaskWdtDelete => True

/-- The messages of a request. -/
def Request.posts : Request → List QueueMessage
  | .scanTimerExpired => [.eventScanNext]
  | .reconnectTimerExpired => [.orderConnectSta .autoReconnect]
  | .wdogTimerTick => [.orderTaskWatchdogFeed]
  | .wifiEventScanDone => [.eventScanDone]
  | .wifiEventApStaConnected => [.eventApStaConnected]
  | .wifiEventApStaDisconnected => [.eventApStaDisconnected]
  | .wifiEventStaDisconnected reason => [.eventStaDisconnected reason]
  | .wifiEventStaWpsErSuccess _ => [.orderConnectSta .wps]
  | .ipEventStaGotIp ip => [.eventStaGotIp ip]
  | .ipEventApStaIpAssigned => [.eventApStaIpAssigned]
  | .disconnectEth => [.orderDisconnectEth]
  | .disconnectWifi => [.orderDisconnectSta]
  | .connectAsync => [.orderConnectSta .user]
  | .connectAsyncByWps => [.orderConnectSta .wps]
  | .stopAp => [.orderStopAp]
  | .startAp flagBlockReqFromLan => [.orderStartAp flagBlockReqFromLan]
  | .enableWps | .postConnectWps => [.orderEnableWps]
  | .disableWps => [.orderDisableWps]
  | .stop => [.orderStopAndDestroy]
  | .reconnectSta | .reconfigure _ _ => [.orderConnectSta .restoreConnection]
  | .scanSync => [.orderStartWifiScan]
  | .postConnectJson _ => [.orderConnectEth, .orderConnectSta .user]
  | .deleteConnectJson => [.orderDisableWps, .orderDisconnectEth, .orderDisconnectSta]
  | .wifiEventApStart | .wifiEventStaWpsErFailed | .wifiEventStaWpsErTimeout | .setConfigAp
  | .setConfigSta _ | .updateNetworkConnectionInfo _ _ _ _ | .updateTimeSyncInfo _ => []

/-- Calls that stand alone. -/
def WifiCall.Plain : WifiCall → Prop
  | xEventGroupSetBits mask => mask = [.apStarted] ∨ mask = [.ethConnected] ∨ mask = [.wifiConnected]
  | xEventGroupClearBits mask => mask = [.wifiConnected, .ethConnected]
  | driver d => d.OfClient
  | xEventGroupGetBits | stopTimerReconnectSta | setWpsEnabled _ | espWifiGetConfigSta
  | espNetifDhcpcGetStatus | wifimanConfigStaGet | wifimanConfigStaSet _
  | wifimanConfigStaSetSsidAndPassword _ _ | jsonNetworkInfoUpdate _ _ _ | jsonNetworkInfoClear
  | jsonNetworkInfoSetReasonUserDisconnect | jsonNetworkInfoSetTimeValid _ | staIpSafeSet _
  | staIpSafeReset | callback _ | dnsServerStop | osCalloc => True
  | _ => False

/-- A message that no flag or bit announces. -/
def QueueMessage.Unannounced : QueueMessage → Prop
  | .orderConnectSta _ | .orderTaskWatchdogFeed => False
  | _ => True

/-- A program that puts no messages into the queue but `posts`. -/
inductive Client (posts : List QueueMessage) : {α : Type} → WifiProg α → Prop
  | pure {α : Type} (a : α) : Client posts (pure a : WifiProg α)
  | bind {α β : Type} {p : WifiProg α} {f : α → WifiProg β} :
      Client posts p → (∀ a, Client posts (f a)) → Client posts (p >>= f)
  | plain {o : WifiCall} : o.Plain → Client posts (call o)
  | locked {o : WifiCall} :
      o.Plain → Client posts (do call wifiManagerLock; let _ ← call o; call wifiManagerUnlock)
  | send {msg : QueueMessage} : msg.Unannounced → msg ∈ posts → Client posts (wifimanMsgSend msg)
  | connect {connReq : ConnectionRequest} :
      .orderConnectSta connReq ∈ posts → Client posts (wifimanMsgSendCmdConnectSta connReq)
  | feed : .orderTaskWatchdogFeed ∈ posts → Client posts wifimanMsgSendCmdTaskWatchdogFeed
  | scanSync : .orderStartWifiScan ∈ posts → Client posts wifiManagerScanSync

namespace Client

variable {posts : List QueueMessage} {α : Type}

/-- A call that stands alone, and what follows it. -/
theorem andThen {o : WifiCall} {f : o.Ret → WifiProg α} (ho : o.Plain)
    (hf : ∀ r, Client posts (f r)) : Client posts (call o >>= f) := bind (plain ho) hf

theorem ite {c : Prop} [Decidable c] {p q : WifiProg α} (hp : Client posts p)
    (hq : Client posts q) : Client posts (if c then p else q) := by
  split
  · exact hp
  · exact hq

/-- A call under the mutex, and what follows it. -/
theorem lockedThen {o : WifiCall} {p : WifiProg α} (ho : o.Plain) (hp : Client posts p) :
    Client posts (do call wifiManagerLock; let _ ← call o; call wifiManagerUnlock; p) :=
  bind (f := fun _ => p) (locked ho) fun _ => hp

/-- A block as the last one, whose answer nobody reads. -/
theorem last {β : Type} {p : WifiProg β} (hp : Client posts p) : Client posts (do let _ ← p) :=
  bind hp fun _ => pure ()

end Client

variable {posts : List QueueMessage}

theorem client_configureAp : Client posts wifiManagerEspWifiConfigureAp := by
  apply Client.andThen (by exact trivial)
  intro err
  apply Client.ite (.pure _)
  apply Client.andThen (by exact trivial)
  intro err
  apply Client.ite (.pure _)
  exact .andThen trivial fun _ => .pure _

theorem client_configureSta : Client posts wifiManagerNetifConfigureSta := by
  have hps : Client posts (do let _ ← call (driver .espWifiSetPs)) :=
    .andThen trivial fun _ => .pure _
  apply Client.andThen (by exact trivial)
  intro settings
  apply Client.ite
  · apply Client.andThen (by exact trivial)
    intro err
    apply Client.ite (.pure _)
    apply Client.andThen (by exact trivial)
    intro err
    exact .ite (.pure _) hps
  · apply Client.andThen (by exact trivial)
    rintro ⟨err, started⟩
    apply Client.ite (.pure _)
    apply Client.ite _ hps
    apply Client.andThen (by exact trivial)
    intro err
    exact .ite (.pure _) hps

theorem client_setConfigSta (cfg : WifimanConfigSta) : Client posts (wifiManagerSetConfigSta cfg) := by
  apply Client.andThen (by exact trivial)
  intro _
  apply client_configureSta.bind
  intro _
  exact .andThen trivial fun _ => .pure _

theorem client_getSsid : Client posts wifimanConfigStaGetSsid := .andThen trivial fun _ => .pure _

theorem client_reconnectSta (h : .orderConnectSta .restoreConnection ∈ posts) :
    Client posts wifiManagerReconnectSta := by
  apply Client.bind (client_getSsid.bind fun _ => .pure _)
  intro isSsidConfigured
  exact .ite (.last (.connect h)) (.pure _)

theorem client_connectAsync {connReq : ConnectionRequest} (h : .orderConnectSta connReq ∈ posts) :
    Client posts (do
      call wifiManagerLock
      call jsonNetworkInfoClear
      call wifiManagerUnlock
      let _ ← wifimanMsgSendCmdConnectSta connReq) :=
  .lockedThen (o := jsonNetworkInfoClear) trivial (.last (.connect h))

theorem client_wpsConnect (h : .orderConnectSta .wps ∈ posts) (conf : WifiStaConfig)
    (ssid : CharBuf 32) (password : CharBuf 64) :
    Client posts (wifiManagerWpsConnect conf ssid password) := by
  apply Client.ite _ (.pure _)
  exact .andThen trivial fun _ => client_connectAsync h

theorem client_onWpsErSuccess (h : .orderConnectSta .wps ∈ posts) (evt : Option WpsErSuccess) :
    Client posts (wifiManagerEventHandlerOnWpsErSuccess evt) := by
  apply Client.andThen (by exact trivial)
  intro _
  apply Client.andThen (by exact trivial)
  intro _
  apply Client.andThen (by exact trivial)
  intro _
  apply Client.andThen (by exact trivial)
  intro allocated
  apply Client.ite (.pure _)
  cases evt with
  | some evt => exact .ite (.pure _) (client_wpsConnect h _ _ _)
  | none =>
    apply Client.andThen (by exact trivial)
    rintro ⟨err, conf⟩
    exact .ite (.pure _) (client_wpsConnect h _ _ _)

theorem client_postConnectJson (login : WifiSsidPassword)
    (heth : .orderConnectEth ∈ posts) (hsta : .orderConnectSta .user ∈ posts) :
    Client posts (httpServerHandleReqPostConnectJson login) := by
  have hconnect : Client posts (do
      call wifiManagerLock
      call jsonNetworkInfoClear
      call wifiManagerUnlock
      wifiManagerConnectAsync) :=
    .lockedThen (o := jsonNetworkInfoClear) trivial (client_connectAsync hsta)
  refine Client.ite (.last (.send trivial heth)) (.ite (.pure _) (.ite ?_ ?_))
  · apply client_getSsid.bind
    intro savedSsid
    exact .ite (.andThen trivial fun _ => hconnect) hconnect
  · exact .andThen trivial fun _ => hconnect

theorem client_deleteConnectJson (hwps : .orderDisableWps ∈ posts)
    (heth : .orderDisconnectEth ∈ posts) (hsta : .orderDisconnectSta ∈ posts) :
    Client posts httpServerHandleReqDeleteConnectJson := by
  apply Client.andThen (by exact trivial)
  intro _
  have hdisable : Client posts wifiManagerDisableWps := .last (.send trivial hwps)
  apply hdisable.bind
  intro _
  apply Client.lockedThen (o := jsonNetworkInfoSetReasonUserDisconnect) trivial
  have hconnected : Client posts wifiManagerIsConnectedToEthernet := .andThen trivial fun _ => .pure _
  apply hconnected.bind
  intro connectedToEthernet
  exact .ite (.last (.send trivial heth)) (.last (.send trivial hsta))

theorem client_updateNetworkConnectionInfo (reason : UpdateReasonCode) (ssid : Option (CharBuf 32))
    (ipInfo : Option EspNetifIpInfo) (dhcpIp : Option Ip4) :
    Client posts (wifiManagerUpdateNetworkConnectionInfo reason ssid ipInfo dhcpIp) := by
  apply Client.ite
  · cases ssid <;> cases ipInfo
    case none.none | none.some =>
      exact .andThen (.inr (.inl rfl)) fun _ => .andThen trivial fun _ => .plain trivial
    case some.none | some.some =>
      exact .andThen (.inr (.inr rfl)) fun _ => .andThen trivial fun _ => .andThen trivial fun _ =>
        .plain trivial
  · exact .andThen trivial fun _ => .andThen rfl fun _ => .plain trivial

/-- Every request is made of plain calls and blocks, and posts its own messages. -/
theorem Request.prog_client (req : Request) : Client req.posts req.prog := by
  cases req
  case wifiEventStaWpsErSuccess evt => exact client_onWpsErSuccess (by simp [Request.posts]) evt
  case reconnectSta => exact client_reconnectSta (by simp [Request.posts])
  case reconnectTimerExpired => exact .last (.connect (by simp [Request.posts]))
  case wdogTimerTick => exact .feed (by simp [Request.posts])
  case connectAsync => exact client_connectAsync (by simp [Request.posts])
  case connectAsyncByWps => exact client_connectAsync (by simp [Request.posts])
  case wifiEventApStart => exact .andThen (.inl rfl) fun _ => .pure _
  case wifiEventStaWpsErFailed | wifiEventStaWpsErTimeout =>
    exact .andThen trivial fun _ => .andThen trivial fun _ => .andThen trivial fun _ => .pure _
  case setConfigAp => exact client_configureAp
  case setConfigSta cfg => exact client_setConfigSta cfg
  case reconfigure flagConnectSta cfg =>
    apply client_configureAp.bind
    intro _
    apply (client_setConfigSta cfg).bind
    intro _
    apply Client.andThen (by exact trivial)
    intro _
    exact .ite (client_reconnectSta (by simp [Request.posts])) (.pure _)
  case updateNetworkConnectionInfo reason ssid ipInfo dhcpIp =>
    exact client_updateNetworkConnectionInfo reason ssid ipInfo dhcpIp
  case updateTimeSyncInfo isTimeValid => exact .plain trivial
  case scanSync => exact .last (.scanSync (by simp [Request.posts]))
  case postConnectJson login =>
    exact client_postConnectJson login (by simp [Request.posts]) (by simp [Request.posts])
  case deleteConnectJson =>
    exact client_deleteConnectJson (by simp [Request.posts]) (by simp [Request.posts])
      (by simp [Request.posts])
  all_goals exact .last (.send trivial (by simp [Request.posts]))

end WifiManager
end Esp32WifiManager
