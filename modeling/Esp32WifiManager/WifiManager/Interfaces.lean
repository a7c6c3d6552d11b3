import Esp32WifiManager.Lib.Triple
import Esp32WifiManager.WifiManager.StickyDisconnect

/-!
# What is reported about the two interfaces

Wi-Fi and Ethernet share one status record and one update function. A success
touches the bit of its own interface only; a loss clears the bits of both and
blanks the record, whichever interface was lost.
-/

namespace Esp32WifiManager
namespace WifiManager

open CString TaskSystem WifiCall

/-- The parts of the state that tell about the connections. -/
def reportedFields : List Field := [.bit .wifiConnected, .bit .ethConnected, .networkInfo, .staIp]

def KeepsReported (s s' : WifiState) : Prop := ∀ f ∈ reportedFields, s.Agree s' f

/-- Task `t` goes on with its program, and no other task reports anything. -/
def Undisturbed (t : TaskId) (cfg : WifiConfig) : WifiLabel → Prop
  | .arrive _ => True
  | .run u _ => ∀ x, cfg.task u = some x → if u = t then x.prog.next.isSome = true else
      ∀ o, x.prog.next = some o → ∀ f ∈ reportedFields, f ∉ o.writes

/-- Task `t` runs `p` to its end between the two states. -/
def Completes (t : TaskId) (p : WifiProg Unit) (cfg cfg' : WifiConfig) : Prop :=
  ∃ w w' labels, cfg.task t = some ⟨p, w⟩ ∧ Path machine (Undisturbed t) cfg labels cfg' ∧
    cfg'.task t = some ⟨.pure (), w'⟩

def blankInfo : NetworkInfoStr := ⟨ascii "0", ascii "0", ascii "0", []⟩

/-- No interface is connected, and the reported addresses are blank. -/
structure ReportsNone (s : WifiState) : Prop where
  wifi : s.eventBits .wifiConnected = false
  eth : s.eventBits .ethConnected = false
  ip : s.staIp = espIp4addrNtoa 0
  info : s.networkInfo.networkInfo = blankInfo

/-- The addresses of the connection are reported, for Ethernet with a null SSID. -/
structure ReportsAddresses (ssid : Option (CharBuf 32)) (info : EspNetifIpInfo) (s : WifiState) :
    Prop where
  ssid : s.networkInfo.isSsidNull = ssid.isNone
  staIp : s.staIp = espIp4addrNtoa info.ip
  ip : s.networkInfo.networkInfo.ip = espIp4addrNtoa info.ip
  gw : s.networkInfo.networkInfo.gw = espIp4addrNtoa info.gw
  netmask : s.networkInfo.networkInfo.netmask = espIp4addrNtoa info.netmask

namespace Interfaces

variable {t : TaskId} {s s' : WifiState}

theorem occur_keepsReported {req : Request} (h : req.occur s = some s') : KeepsReported s s' := by
  intro f hf
  apply occur_agree h
  intro hw
  cases req <;> simp [Request.writes] at hw <;> subst hw <;> exact absurd hf (by decide)

theorem completes_runs {p : WifiProg Unit} {cfg cfg' : WifiConfig} (h : Completes t p cfg cfg') :
    Runs machine t KeepsReported p cfg.shared () cfg'.shared := by
  obtain ⟨w, w', labels, htask, hrun, hend⟩ := h
  apply Path.task_runs _ _ hrun htask hend
  · intro cfg c a w hok hpure
    have hnext := hok _ hpure
    rw [if_pos rfl] at hnext
    exact absurd hnext (by simp [Prog.next])
  · intro cfg l cfg' hok hl hs
    cases hs with
    | @answer u o k w reply r s htask he =>
      have hne : u ≠ t := by
        rintro rfl
        exact hl reply rfl
      have hwrites := hok _ htask
      rw [if_neg hne] at hwrites
      rw [Config.setTask_shared]
      exact fun f hf => exec_agree he (hwrites o rfl f hf)
    | wait htask he =>
      rw [Config.setTask_shared]
      exact fun f _ => WifiState.agree_refl _ f
    | serve hserver hp =>
      rw [Config.setTask_shared]
      exact fun f _ => WifiState.agree_refl _ f
    | arrive ha => exact occur_keepsReported (arrive_eq ha).1

section Stable

variable {P : WifiState → Prop}

theorem stable_bit {b : EventBit} (hb : .bit b ∈ reportedFields) (v : Bool) :
    Stable KeepsReported fun s => s.eventBits b = v := by
  intro s s' hkeeps h
  have hbit : s'.eventBits b = s.eventBits b := hkeeps (.bit b) hb
  rw [hbit]
  exact h

theorem stable_staIp (ip : Bytes) : Stable KeepsReported fun s => s.staIp = ip := by
  intro s s' hkeeps h
  have hip : s'.staIp = s.staIp := hkeeps .staIp (by decide)
  rw [hip]
  exact h

theorem stable_info (Q : JsonNetworkInfo → Prop) : Stable KeepsReported fun s => Q s.networkInfo := by
  intro s s' hkeeps h
  have hinfo : s'.networkInfo = s.networkInfo := hkeeps .networkInfo (by decide)
  change Q s'.networkInfo
  rw [hinfo]
  exact h

theorem stable_reportsNone : Stable KeepsReported ReportsNone := by
  rintro s s' hkeeps ⟨hwifi, heth, hip, hinfo⟩
  exact ⟨stable_bit (by decide) _ _ _ hkeeps hwifi, stable_bit (by decide) _ _ _ hkeeps heth,
    stable_staIp _ _ _ hkeeps hip, stable_info (·.networkInfo = blankInfo) _ _ hkeeps hinfo⟩

/-- A program that does not write the bit leaves it as it is. -/
theorem triple_bit {α : Type} {p : WifiProg α} {b : EventBit} (hb : .bit b ∈ reportedFields) (v : Bool)
    (hp : p.All fun o => .bit b ∉ o.writes) :
    Triple machine t KeepsReported (fun s => s.eventBits b = v) p fun _ s => s.eventBits b = v := by
  refine triple_frame (stable_bit hb v) (hp.mono fun o ho c r s s' hs he => ?_)
  have hbit : s'.eventBits b = s.eventBits b := exec_agree (t := t) (o := o) (c := c) he ho
  rw [hbit]
  exact hs

end Stable

/-- After a loss nothing is connected. -/
theorem triple_loss {reason : UpdateReasonCode} (h : reason ≠ .connectionOk)
    (ssid : Option (CharBuf 32)) (ipInfo : Option EspNetifIpInfo) (dhcpIp : Option Ip4) :
    Triple machine t KeepsReported (fun _ => True)
      (wifiManagerUpdateNetworkConnectionInfo reason ssid ipInfo dhcpIp) fun _ => ReportsNone := by
  unfold wifiManagerUpdateNetworkConnectionInfo
  rw [if_neg h]
  refine triple_perform (S := fun _ s => s.staIp = espIp4addrNtoa 0) (fun _ _ _ _ => trivial) ?_ ?_
  · intro s c r s' _ he
    obtain ⟨-, rfl⟩ := Prod.mk.inj (Option.some.inj he)
    rfl
  intro _
  refine triple_perform (S := fun _ s => s.staIp = espIp4addrNtoa 0 ∧
    s.eventBits .wifiConnected = false ∧ s.eventBits .ethConnected = false) (stable_staIp _) ?_ ?_
  · intro s c bits s' hip he
    have hwifi := bit_of_clear (t := t) (c := c) (b := .wifiConnected) he (by decide)
    have heth := bit_of_clear (t := t) (c := c) (b := .ethConnected) he (by decide)
    obtain ⟨-, rfl⟩ := Prod.mk.inj (Option.some.inj he)
    exact ⟨hip, hwifi, heth⟩
  intro _
  refine triple_call (S := fun _ => ReportsNone) ?_ ?_ fun _ => ?_
  · rintro s s' hkeeps ⟨hip, hwifi, heth⟩
    exact ⟨stable_staIp _ _ _ hkeeps hip, stable_bit (by decide) _ _ _ hkeeps hwifi,
      stable_bit (by decide) _ _ _ hkeeps heth⟩
  · rintro s c r s' ⟨hip, hwifi, heth⟩ he
    obtain ⟨-, rfl⟩ := Prod.mk.inj (Option.some.inj he)
    exact ⟨hwifi, heth, hip, rfl⟩
  · exact triple_pure stable_reportsNone fun _ hs => hs

/-- What is left of the round when the loss has been stored reports nothing more. -/
def QuietCall (o : WifiCall) : Prop := ∀ f ∈ reportedFields, f ∉ o.writes

theorem reconnect_quiet (bits : EventBits) (flag : Bool) :
    (wifiStaDisconnectedReconnect bits flag).All QuietCall := by
  unfold Prog.All
  simp [wifiStaDisconnectedReconnect, wifimanMsgSendCmdConnectSta, wifimanMsgSend,
    wifimanMsgSendWithTimeout, Prog.perform, Prog.fold_call, Prog.fold_return, QuietCall,
    reportedFields, writes]

theorem triple_quiet {α : Type} {p : WifiProg α} (hp : p.All QuietCall) :
    Triple machine t KeepsReported ReportsNone p fun _ => ReportsNone :=
  triple_frame stable_reportsNone (hp.mono fun _ ho _ _ _ _ hs he =>
    stable_reportsNone _ _ (fun f hf => exec_agree he (ho f hf)) hs)

/-- A round that does not end the task leaves what its handler leaves. -/
theorem triple_taskHandle {P Q : WifiState → Prop} {msg : QueueMessage} (hQ : Stable KeepsReported Q)
    (hmsg : Triple machine t KeepsReported P (wifiManagerHandleMsg msg)
      fun x s => x.1 = false ∧ Q s) :
    Triple machine t KeepsReported P (wifiManagerTaskHandle msg) fun _ => Q := by
  have hcallback : ∀ callCb : Bool, Triple machine t KeepsReported Q (do
      if callCb then
        call (callback (.onMessage msg))
      return false : WifiProg Bool) fun flag s => flag = false ∧ Q s := by
    intro callCb
    cases callCb with
    | false => exact triple_pure hQ fun _ hs => ⟨rfl, hs⟩
    | true =>
      refine triple_perform (S := fun _ => Q) hQ ?_ fun _ => triple_pure hQ fun _ hs => ⟨rfl, hs⟩
      intro s c r s' hs he
      obtain ⟨-, rfl⟩ := Prod.mk.inj (Option.some.inj he)
      exact hs
  refine triple_bind (S := fun flag s => flag = false ∧ Q s) (triple_bind hmsg ?_) ?_
  · rintro ⟨flagTerminate, callCb⟩ s a s' ⟨rfl, hs⟩ hrun
    exact hcallback callCb s a s' hs hrun
  · rintro flag s a s' ⟨rfl, hs⟩ hrun
    exact triple_pure (Q := fun _ => Q) hQ (fun _ hs => hs) s a s' hs hrun

/-- Whatever the reason and the bits, the handler stores a loss. -/
theorem triple_handleDisconnected (reason : WifiErrReason) :
    Triple machine t KeepsReported (fun _ => True) (wifiHandleEvStaDisconnected reason)
      fun _ => ReportsNone := by
  refine triple_perform (S := fun _ _ => True) (fun _ _ _ _ => trivial)
    (fun _ _ _ _ _ _ => trivial) fun bits => ?_
  refine triple_bind (triple_of_allThen (wifiStaDisconnectedReason_all bits reason)) ?_
  rintro ⟨code, flag⟩
  by_cases hcode : code = .connectionOk
  · intro s a s' hne
    exact absurd hcode hne
  have hssid : Triple machine t KeepsReported (fun _ => code ≠ .connectionOk)
      wifimanConfigStaGetSsid fun _ _ => True := fun _ _ _ _ _ => trivial
  refine triple_bind hssid fun ssid => ?_
  refine triple_bind (triple_loss hcode (some ssid) none none) fun _ => ?_
  refine triple_bind (triple_quiet (reconnect_quiet bits flag)) fun _ => ?_
  exact triple_pure stable_reportsNone fun _ hs => hs

theorem triple_disconnected (reason : WifiErrReason) :
    Triple machine t KeepsReported (fun _ => True)
      (wifiManagerTaskHandle (.eventStaDisconnected reason)) fun _ => ReportsNone := by
  have hmsg : Triple machine t KeepsReported (fun _ => True)
      (wifiManagerHandleMsg (.eventStaDisconnected reason)) fun x s => x.1 = false ∧ ReportsNone s :=
    triple_bind (triple_handleDisconnected reason) fun callCb =>
      triple_pure stable_reportsNone fun _ hs => ⟨rfl, hs⟩
  exact triple_taskHandle stable_reportsNone hmsg

/-- A success leaves the bit of the other interface alone. -/
theorem update_all_otherBit (ssid : Option (CharBuf 32)) (ipInfo : Option EspNetifIpInfo)
    (dhcpIp : Option Ip4) :
    (wifiManagerUpdateNetworkConnectionInfo .connectionOk ssid ipInfo dhcpIp).All fun o =>
      .bit (if ssid.isNone then .wifiConnected else .ethConnected) ∉ o.writes := by
  unfold Prog.All
  cases ssid <;> cases ipInfo <;>
    simp [wifiManagerUpdateNetworkConnectionInfo, Prog.perform, Prog.fold_call, Prog.fold_return,
      writes]

/-- No other round touches the bit of Ethernet. -/
theorem taskHandle_all_eth {msg : QueueMessage} (h : ∀ reason, msg ≠ .eventStaDisconnected reason) :
    (wifiManagerTaskHandle msg).All fun o => .bit .ethConnected ∉ o.writes := by
  refine (wifiManagerTaskHandle_all msg).mono ?_
  cases msg
  case eventStaDisconnected reason => exact absurd rfl (h reason)
  all_goals
    simp [QueueMessage.RoundCall, QueueMessage.MayCall, OfSender, OfFinish, or_imp, forall_and]
    try simp [writes, DriverCall.writes]

theorem stable_addresses (ssid : Option (CharBuf 32)) (info : EspNetifIpInfo) :
    Stable KeepsReported (ReportsAddresses ssid info) := by
  rintro s s' hkeeps ⟨hssid, hip, haddr, hgw, hmask⟩
  have hinfo : s'.networkInfo = s.networkInfo := hkeeps .networkInfo (by decide)
  refine ⟨?_, stable_staIp _ _ _ hkeeps hip, ?_, ?_, ?_⟩
  · exact (congrArg JsonNetworkInfo.isSsidNull hinfo).trans hssid
  · exact (congrArg (fun j => j.networkInfo.ip) hinfo).trans haddr
  · exact (congrArg (fun j => j.networkInfo.gw) hinfo).trans hgw
  · exact (congrArg (fun j => j.networkInfo.netmask) hinfo).trans hmask

/-- After a success of Ethernet the reported addresses are those of the connection. -/
theorem triple_addresses (info : EspNetifIpInfo) (dhcpIp : Option Ip4) :
    Triple machine t KeepsReported (fun _ => True)
      (wifiManagerUpdateNetworkConnectionInfo .connectionOk none (some info) dhcpIp)
      fun _ => ReportsAddresses none info := by
  unfold wifiManagerUpdateNetworkConnectionInfo
  rw [if_pos rfl]
  refine triple_perform (S := fun _ _ => True) (fun _ _ _ _ => trivial)
    (fun _ _ _ _ _ _ => trivial) fun _ => ?_
  refine triple_perform (S := fun _ s => s.staIp = espIp4addrNtoa info.ip)
    (fun _ _ _ _ => trivial) ?_ fun _ => ?_
  · intro s c r s' _ he
    obtain ⟨-, rfl⟩ := Prod.mk.inj (Option.some.inj he)
    rfl
  refine triple_call (S := fun _ => ReportsAddresses none info) (stable_staIp _) ?_ fun _ => ?_
  · intro s c r s' hip he
    obtain ⟨-, rfl⟩ := Prod.mk.inj (Option.some.inj he)
    exact ⟨rfl, hip, rfl, rfl, rfl⟩
  · exact triple_pure (stable_addresses none info) fun _ hs => hs

end Interfaces

/-- A loss of either interface is reported as a loss of both: the station-disconnected handler and a
loss update of the application clear both bits and blank the reported addresses. The other rounds
leave the bit of Ethernet alone, and so does a success the bit of the other interface. -/
theorem loss_reported_for_both :
    (∀ {reason cfg cfg'},
      Completes .server (wifiManagerTaskHandle (.eventStaDisconnected reason)) cfg cfg' →
        ReportsNone cfg'.shared) ∧
    (∀ {t reason ssid ipInfo dhcpIp cfg cfg'}, reason ≠ .connectionOk →
      Completes t (wifiManagerUpdateNetworkConnectionInfo reason ssid ipInfo dhcpIp) cfg cfg' →
        ReportsNone cfg'.shared) ∧
    (∀ {msg cfg cfg'}, (∀ reason, msg ≠ .eventStaDisconnected reason) →
      Completes .server (wifiManagerTaskHandle msg) cfg cfg' →
        cfg'.shared.eventBits .ethConnected = cfg.shared.eventBits .ethConnected) ∧
    (∀ {t info dhcpIp cfg cfg'},
      Completes t (wifiManagerUpdateNetworkConnectionInfo .connectionOk none (some info) dhcpIp) cfg
        cfg' →
        cfg'.shared.eventBits .wifiConnected = cfg.shared.eventBits .wifiConnected ∧
          ReportsAddresses none info cfg'.shared) := by
  refine ⟨?_, ?_, ?_, ?_⟩
  · intro reason cfg cfg' h
    exact Interfaces.triple_disconnected reason _ _ _ trivial (Interfaces.completes_runs h)
  · intro t reason ssid ipInfo dhcpIp cfg cfg' hreason h
    exact Interfaces.triple_loss hreason ssid ipInfo dhcpIp _ _ _ trivial
      (Interfaces.completes_runs h)
  · intro msg cfg cfg' hmsg h
    exact Interfaces.triple_bit (by decide) _ (Interfaces.taskHandle_all_eth hmsg) _ _ _ rfl
      (Interfaces.completes_runs h)
  · intro t info dhcpIp cfg cfg' h
    have hrun := Interfaces.completes_runs h
    exact ⟨Interfaces.triple_bit (by decide) _ (Interfaces.update_all_otherBit none _ _) _ _ _ rfl hrun,
      Interfaces.triple_addresses info dhcpIp _ _ _ trivial hrun⟩

/-! ### A run in which both interfaces report -/

/-- Task `t` alone runs, and it is in its program. -/
def aloneTest (t : TaskId) (cfg : WifiConfig) : WifiLabel → Bool
  | .arrive _ => false
  | .run u _ => decide (u = t) && (cfg.task t).any fun x => x.prog.next.isSome

theorem undisturbed_of_test {t : TaskId} (cfg : WifiConfig) (l : WifiLabel)
    (h : aloneTest t cfg l = true) : Undisturbed t cfg l := by
  cases l with
  | arrive req => exact trivial
  | run u c =>
    intro x hx
    obtain ⟨hu, hany⟩ := Bool.and_eq_true_iff.mp h
    obtain rfl := of_decide_eq_true hu
    rw [if_pos rfl]
    rw [hx] at hany
    exact hany

/-- What is left of the program of a task. -/
def progOf (t : TaskId) (cfg : WifiConfig) : Option (WifiProg Unit) := (cfg.task t).map Task.prog

/-- A program is run to its end from a state that a run has reached. -/
theorem completes_of_run {t : TaskId} {p : WifiProg Unit} {n : ℕ} {before : Option WifiConfig}
    (hp : before.bind (progOf t) = some p)
    (hend : (before.bind fun cfg => runWhere machine (aloneTest t) cfg (runs t n)).bind (progOf t) =
      some (.pure ())) :
    ∃ cfg cfg', before = some cfg ∧ runWhere machine (aloneTest t) cfg (runs t n) = some cfg' ∧
      Completes t p cfg cfg' := by
  obtain ⟨cfg, rfl, hp⟩ := Option.bind_eq_some_iff.mp hp
  obtain ⟨cfg', hrun, hend⟩ := Option.bind_eq_some_iff.mp hend
  obtain ⟨⟨_, w⟩, htask, rfl⟩ := Option.map_eq_some_iff.mp hp
  obtain ⟨⟨_, w'⟩, htask', hpure⟩ := Option.map_eq_some_iff.mp hend
  obtain rfl := hpure
  exact ⟨cfg, cfg', rfl, hrun, w, w', _, htask, Path.of_runWhere undisturbed_of_test hrun, htask'⟩

def ethInfo : EspNetifIpInfo := ⟨0x0100000A, 0x00FFFFFF, 0xFE00000A⟩

/-- The application reports Ethernet. -/
def ethReported : Option WifiConfig :=
  runWhere machine (fun _ _ => true) (WifiConfig.started false homeConfig)
    (runs .server 4 ++ .arrive (.updateNetworkConnectionInfo .connectionOk none (some ethInfo) none) ::
      runs (.client 0) 3)

/-- Then the station is disconnected, and the event has been received. -/
def staEvent : Option WifiConfig :=
  ethReported.bind fun cfg => runWhere machine (fun _ _ => true) cfg
    (.arrive (.wifiEventStaDisconnected 201) :: runs (.client 1) 4 ++ runs .server 2)

theorem reachable_ethReported {cfg : WifiConfig} (h : ethReported = some cfg) : Reachable cfg :=
  ⟨_, _, _, Path.of_runWhere (fun _ _ _ => trivial) h⟩

theorem reachable_staEvent {cfg : WifiConfig} (h : staEvent = some cfg) : Reachable cfg := by
  obtain ⟨cfg₀, h₀, hrun⟩ := Option.bind_eq_some_iff.mp h
  exact (reachable_ethReported h₀).runWhere hrun

/-- The event is handled while Ethernet is connected. -/
theorem staEvent_completes : ∃ cfg cfg', staEvent = some cfg ∧
    cfg.shared.eventBits .ethConnected = true ∧
    Completes .server (wifiManagerTaskHandle (.eventStaDisconnected 201)) cfg cfg' := by
  have hprog : staEvent.bind (progOf .server) =
      some (wifiManagerTaskHandle (.eventStaDisconnected 201)) := by
    rfl
  have hend : (staEvent.bind fun cfg => runWhere machine (aloneTest .server) cfg
      (runs .server 6)).bind (progOf .server) = some (.pure ()) := by
    rfl
  have heth : staEvent.all (fun cfg => cfg.shared.eventBits .ethConnected) = true := by
    decide +kernel
  obtain ⟨cfg, cfg', hcfg, -, hcompletes⟩ := completes_of_run hprog hend
  rw [hcfg] at heth
  exact ⟨cfg, cfg', hcfg, heth, hcompletes⟩

theorem loss_reported_for_both_home : ∃ cfg cfg', cfg.shared.eventBits .ethConnected = true ∧
    Completes .server (wifiManagerTaskHandle (.eventStaDisconnected 201)) cfg cfg' ∧
    ReportsNone cfg'.shared := by
  obtain ⟨cfg, cfg', -, heth, hcompletes⟩ := staEvent_completes
  exact ⟨cfg, cfg', heth, hcompletes, loss_reported_for_both.1 hcompletes⟩

/-- The event clears the bit of Ethernet. -/
theorem interfaces_not_independent : ¬ ((∀ reason cfg cfg', Reachable cfg →
      cfg.shared.eventBits .ethConnected = true →
      Completes .server (wifiManagerTaskHandle (.eventStaDisconnected reason)) cfg cfg' →
        cfg'.shared.eventBits .ethConnected = true ∧
          cfg'.shared.networkInfo.networkInfo = cfg.shared.networkInfo.networkInfo) ∧
    ∀ t reason ipInfo dhcpIp cfg cfg', Reachable cfg → reason ≠ .connectionOk →
      Completes t (wifiManagerUpdateNetworkConnectionInfo reason none ipInfo dhcpIp) cfg cfg' →
        cfg'.shared.eventBits .wifiConnected = cfg.shared.eventBits .wifiConnected) := by
  rintro ⟨hclaim, -⟩
  obtain ⟨cfg, cfg', hcfg, heth, hcompletes⟩ := staEvent_completes
  have hkept := (hclaim 201 cfg cfg' (reachable_staEvent hcfg) heth hcompletes).1
  have hreports := Interfaces.triple_disconnected 201 _ _ _ trivial
    (Interfaces.completes_runs hcompletes)
  exact absurd (hkept.symm.trans hreports.eth) (by simp)

end WifiManager
end Esp32WifiManager
