import Esp32WifiManager.WifiManager.StickyDisconnect

/-!
# Automatic reconnects

The reconnect timer posts `ORDER_CONNECT_STA`. A connect order that finds
`STA_ACTIVE_BIT` set posts `ORDER_DISCONNECT_STA` first, whoever has posted it.
-/

namespace Esp32WifiManager
namespace WifiManager

open CString TaskSystem WifiCall

/-- The handler of the message may call `esp_wifi_disconnect`, or post a message of this kind. -/
inductive MayDisconnect : QueueMessage → Prop
  | call {msg : QueueMessage} :
      ¬ (wifiManagerHandleMsg msg).Never (· = driver .espWifiDisconnect) → MayDisconnect msg
  | post {msg posted : QueueMessage} {timeout : Timeout} :
      ¬ (wifiManagerHandleMsg msg).Never (· = xQueueSend posted timeout) → MayDisconnect posted →
        MayDisconnect msg

/-- The call disconnects the station, or posts a message that may. -/
def LeadsToDisconnect (o : WifiCall) : Prop :=
  o = driver .espWifiDisconnect ∨ ∃ msg timeout, o = xQueueSend msg timeout ∧ MayDisconnect msg

/-- The connect handler that starts at `cfg` clears `CMD_STA_CONNECT_BIT` and reads the bits, other
tasks run in between, and then it leads to no disconnect. -/
def SparesConnection (cfg : WifiConfig) : Prop :=
  ∀ c₀ cfg₀ labels cfg₁ c₁ cfg₂, Step machine cfg (.run .server c₀) cfg₀ →
    Path machine (fun _ l => ∀ c, l ≠ .run .server c) cfg₀ labels cfg₁ →
    Step machine cfg₁ (.run .server c₁) cfg₂ → cfg₂.server.prog.Never LeadsToDisconnect

theorem mayDisconnect_orderDisconnectSta : MayDisconnect .orderDisconnectSta := by
  apply MayDisconnect.call
  intro hnever
  have hcall := ((hnever.2 ()).2 .zero).2 .zero
  exact hcall.1 rfl

/-- The connect handler after it has read the bits. -/
theorem autoReconnect_call :
    ∃ f, wifiManagerTaskHandle (.orderConnectSta .autoReconnect) =
        (call (xEventGroupClearBits [.cmdStaConnect]) >>= fun _ => call xEventGroupGetBits >>= f) ∧
      ∀ bits, (f bits).Never LeadsToDisconnect ↔ bits .staActive = false := by
  simp only [wifiManagerTaskHandle, wifiManagerHandleMsg, wifiHandleCmdConnectSta,
    Prog.bind_bind]
  refine ⟨_, rfl, ?_⟩
  intro bits
  cases hactive : bits .staActive with
  | true =>
    refine iff_of_false ?_ (by simp)
    unfold Prog.Never Prog.All
    simp [wifiConnectStaSwitch, wifiConnectStaRun, hactive, wifimanMsgSendCmdDisconnectSta,
      wifimanMsgSend, wifimanMsgSendWithTimeout, Prog.perform, Prog.fold_call, Prog.fold_return,
      LeadsToDisconnect, mayDisconnect_orderDisconnectSta]
    exact ⟨.zero⟩
  | false =>
    refine iff_of_true ?_ rfl
    unfold Prog.Never Prog.All
    simp [wifiConnectStaSwitch, wifiConnectStaRun, hactive, Prog.perform, Prog.fold_call,
      Prog.fold_return, LeadsToDisconnect]

/-- The handler itself decides by `STA_ACTIVE_BIT`. -/
theorem staActive_of_spares {cfg : WifiConfig}
    (hhandle : cfg.server.prog = wifiManagerTaskHandle (.orderConnectSta .autoReconnect))
    (h : SparesConnection cfg) : cfg.shared.eventBits .staActive = false := by
  obtain ⟨f, hf, hspares⟩ := autoReconnect_call
  have hclear : Step machine cfg (.run .server .ok) _ :=
    .answer (Config.task_server (hhandle.trans hf)) rfl
  have hnever := h _ _ _ _ .ok _ hclear .nil (.answer (t := .server) (w := false) rfl rfl)
  have hactive := (hspares _).mp hnever
  exact hactive

/-- An automatic reconnect spares the connection if and only if it finds `STA_ACTIVE_BIT` clear. -/
theorem auto_reconnect_spares_iff {cfg : WifiConfig} (hreach : Reachable cfg)
    (hhandle : cfg.server.prog = wifiManagerTaskHandle (.orderConnectSta .autoReconnect)) :
    SparesConnection cfg ↔ cfg.shared.eventBits .staActive = false := by
  obtain ⟨f, hf, hspares⟩ := autoReconnect_call
  have hprog := hhandle.trans hf
  constructor
  · exact staActive_of_spares hhandle
  · intro hactive c₀ cfg₀ labels cfg₁ c₁ cfg₂ hclear hothers hread
    have hclients : ClientsAll WifiCall.IsClientCall cfg₀ :=
      ClientsAll.step arrive_all (fun hx => hreach.clientsAll hx) hclear
    obtain ⟨hserver, hagree⟩ := others_run hclients hothers
    have hbit₁ : cfg₁.shared.eventBits .staActive = cfg₀.shared.eventBits .staActive :=
      hagree (.bit .staActive) (by decide)
    rcases hclear.server_call hprog with ⟨bits, s, he, rfl⟩ | ⟨he, -⟩
    · have hbit₀ : s.eventBits .staActive = false := bit_stays_clear (t := .server)
        (o := xEventGroupClearBits [.cmdStaConnect]) (c := c₀) he (by simp) hactive
      have hprog₁ : cfg₁.server.prog = (call xEventGroupGetBits >>= f) := by
        rw [hserver]
        rfl
      rcases hread.server_call hprog₁ with ⟨bits, s, he, rfl⟩ | ⟨he, -⟩
      · obtain ⟨rfl, rfl⟩ := Prod.mk.inj (Option.some.inj he)
        exact (hspares _).mpr (hbit₁.trans hbit₀)
      · exact absurd he (by simp [machine, exec])
    · exact absurd he (by simp [machine, exec])

/-! ### Two reconnects -/

/-- The saved network is lost, the timer expires, and its order has been received. -/
def lostLabels : List WifiLabel :=
  runs .server 15 ++ .arrive (.wifiEventStaDisconnected 201) :: runs (.client 0) 4 ++
    runs .server 10 ++ .arrive .reconnectTimerExpired :: runs (.client 1) 5 ++ runs .server 2

theorem auto_reconnect_spares_lost : ∃ cfg,
    cfg.server.prog = wifiManagerTaskHandle (.orderConnectSta .autoReconnect) ∧
      SparesConnection cfg := by
  have hprog : (runWhere machine (fun _ _ => true) (WifiConfig.started true homeConfig)
      lostLabels).map (fun cfg => cfg.server.prog) =
        some (wifiManagerTaskHandle (.orderConnectSta .autoReconnect)) := by
    rfl
  have hactive : (runWhere machine (fun _ _ => true) (WifiConfig.started true homeConfig)
      lostLabels).any (fun cfg => !cfg.shared.eventBits .staActive) = true := by
    decide +kernel
  obtain ⟨cfg, hcfg, hactive⟩ := (Option.any_eq_true _ _).mp hactive
  rw [hcfg] at hprog
  have hreach : Reachable cfg := ⟨_, _, _, Path.of_runWhere (fun _ _ _ => trivial) hcfg⟩
  have hhandle := Option.some.inj hprog
  exact ⟨cfg, hhandle, (auto_reconnect_spares_iff hreach hhandle).mpr (by simpa using hactive)⟩

/-- The saved network is lost and the user connects; the timer expires when the new address is
already on its way, and its order is received after the address. -/
def overtakenLabels : List WifiLabel :=
  runs .server 15 ++ .arrive (.wifiEventStaDisconnected 201) :: runs (.client 0) 4 ++
    runs .server 10 ++ .arrive .connectAsync :: runs (.client 1) 8 ++ runs .server 12 ++
    .arrive (.ipEventStaGotIp 1) :: runs (.client 2) 4 ++
    .arrive .reconnectTimerExpired :: runs (.client 3) 5 ++ runs .server 14

/-- The connection is established and marked as active. -/
def connectedActive (cfg : WifiConfig) : Bool :=
  cfg.shared.eventBits .wifiConnected && cfg.shared.eventBits .staActive

theorem auto_reconnect_tears_down : ¬ ∀ cfg : WifiConfig, Reachable cfg →
    cfg.shared.eventBits .wifiConnected = true →
    cfg.server.prog = wifiManagerTaskHandle (.orderConnectSta .autoReconnect) →
      SparesConnection cfg := by
  intro hclaim
  have hprog : (runWhere machine (fun _ _ => true) (WifiConfig.started true homeConfig)
      overtakenLabels).map (fun cfg => cfg.server.prog) =
        some (wifiManagerTaskHandle (.orderConnectSta .autoReconnect)) := by
    rfl
  have hbits : (runWhere machine (fun _ _ => true) (WifiConfig.started true homeConfig)
      overtakenLabels).any connectedActive = true := by
    decide +kernel
  obtain ⟨cfg, hcfg, hbits⟩ := (Option.any_eq_true _ _).mp hbits
  rw [hcfg] at hprog
  obtain ⟨hconnected, hactive⟩ := Bool.and_eq_true_iff.mp hbits
  have hspares := hclaim cfg ⟨_, _, _, Path.of_runWhere (fun _ _ _ => trivial) hcfg⟩ hconnected
    (Option.some.inj hprog)
  exact absurd (hactive.symm.trans (staActive_of_spares (Option.some.inj hprog) hspares)) (by simp)

end WifiManager
end Esp32WifiManager
