import Esp32WifiManager.Lib.Triple
import Esp32WifiManager.WifiManager.Handlers

/-!
# Requests from LAN while the hotspot is active

The bit that blocks requests from LAN is set by `ORDER_START_AP` and cleared by
`ORDER_STOP_AP` only: a hotspot that is started again without blocking, or after
the end of the manager, finds it as it was.
-/

namespace Esp32WifiManager
namespace WifiManager
namespace LanBlocking

open CString TaskSystem WifiCall

/-! ### What has been done with the manager -/

/-- A start that comes to its end, or a message that the manager task has handled to the end. -/
inductive ManagerAction
  | start (flagConnectSta : Bool) (cfg : WifimanConfigSta)
  | handle (msg : QueueMessage)

/-- The latest action comes first. Before the first one all globals are zero; the other tasks run
as they like. -/
inductive Performed : List ManagerAction → WifiState → Prop
  | none : Performed [] .zero
  | start {history flagConnectSta cfg t s result s'} : Performed history s →
      Runs machine t WifiState.AgreeInside (wifiManagerStart flagConnectSta cfg) s result s' →
      Performed (.start flagConnectSta cfg :: history) s'
  | handle {history msg s s'} : Performed history s →
      Runs machine .server WifiState.AgreeInside (wifiManagerTaskHandle msg) s () s' →
      Performed (.handle msg :: history) s'

/-- The flag of the most recent `ORDER_START_AP`. -/
def lastStartAp : List ManagerAction → Option Bool
  | [] => none
  | .handle (.orderStartAp flagBlockReqFromLan) :: _ => some flagBlockReqFromLan
  | _ :: history => lastStartAp history

/-- The flag of the `ORDER_START_AP` since which the hotspot is active. -/
def activeStartAp : List ManagerAction → Option Bool
  | [] => none
  | .handle (.orderStartAp flagBlockReqFromLan) :: _ => some flagBlockReqFromLan
  | .handle .orderStopAp :: _ => none
  | .handle .orderStopAndDestroy :: _ => none
  | _ :: history => activeStartAp history

/-- Some `ORDER_START_AP` since the last `ORDER_STOP_AP` has asked for blocking. -/
def blockedSinceStopAp : List ManagerAction → Bool
  | [] => false
  | .handle (.orderStartAp flagBlockReqFromLan) :: history =>
    flagBlockReqFromLan || blockedSinceStopAp history
  | .handle .orderStopAp :: _ => false
  | _ :: history => blockedSinceStopAp history

theorem lastStartAp_of_active {history : List ManagerAction} {flag : Bool}
    (h : activeStartAp history = some flag) : lastStartAp history = some flag := by
  fun_induction activeStartAp history with
  | case1 => cases h
  | case2 flagBlockReqFromLan history => exact h
  | case3 => cases h
  | case4 => cases h
  | case5 action history hstart hstopAp hstop ih =>
    rw [lastStartAp.eq_3 action history hstart]
    exact ih h

theorem blocked_of_active {history : List ManagerAction}
    (h : activeStartAp history = some true) : blockedSinceStopAp history = true := by
  fun_induction activeStartAp history with
  | case1 => cases h
  | case2 flagBlockReqFromLan history =>
    obtain rfl := Option.some.inj h
    rfl
  | case3 => cases h
  | case4 => cases h
  | case5 action history hstart hstopAp hstop ih =>
    rw [blockedSinceStopAp.eq_4 action history hstart hstopAp]
    exact ih h

/-! ### The two bits -/

/-- The hotspot is active, and requests from LAN are to be blocked. -/
def Bits (active blocked : Bool) (s : WifiState) : Prop :=
  s.eventBits .apActive = active ∧ s.eventBits .blockReqFromLanWhileApActive = blocked

/-- A call that leaves the two bits alone. -/
def Leaves (o : WifiCall) : Prop :=
  .bit .apActive ∉ o.writes ∧ .bit .blockReqFromLanWhileApActive ∉ o.writes

variable {t : TaskId} {o : WifiCall} {c : Reply} {r : o.Ret} {s s' : WifiState}
  {active blocked : Bool}

theorem bits_agree (hactive : s.Agree s' (.bit .apActive))
    (hblocked : s.Agree s' (.bit .blockReqFromLanWhileApActive)) (h : Bits active blocked s) :
    Bits active blocked s' := by
  have hactive : s'.eventBits .apActive = s.eventBits .apActive := hactive
  have hblocked : s'.eventBits .blockReqFromLanWhileApActive =
      s.eventBits .blockReqFromLanWhileApActive := hblocked
  exact ⟨hactive.trans h.1, hblocked.trans h.2⟩

theorem stable_bits : Stable WifiState.AgreeInside (Bits active blocked) := by
  intro s s' hagree h
  exact bits_agree (hagree _ (by decide)) (hagree _ (by decide)) h

theorem bits_exec (ho : Leaves o) (h : Bits active blocked s)
    (he : machine.exec t o c s = some (r, s')) : Bits active blocked s' :=
  bits_agree (machine_agree he ho.1) (machine_agree he ho.2) h

theorem triple_leaves {α : Type} {p : WifiProg α} (hp : p.All Leaves) :
    Triple machine t WifiState.AgreeInside (Bits active blocked) p fun _ => Bits active blocked :=
  triple_frame stable_bits (hp.mono fun _ ho _ _ _ _ h he => bits_exec ho h he)

theorem triple_leavesThen {α : Type} {f : o.Ret → WifiProg α} {Q : α → WifiState → Prop}
    (ho : Leaves o)
    (hf : ∀ r, Triple machine t WifiState.AgreeInside (Bits active blocked) (f r) Q) :
    Triple machine t WifiState.AgreeInside (Bits active blocked) (call o >>= f) Q :=
  triple_perform stable_bits (fun _ _ _ _ h he => bits_exec ho h he) hf

/-! ### The actions -/

theorem leaves_driver (d : DriverCall) : Leaves (driver d) := by
  cases d <;> simp [Leaves, writes, DriverCall.writes]

section Evaluation

attribute [local simp] Prog.perform Prog.fold_call Prog.fold_return wifimanMsgSend
  wifimanMsgSendWithTimeout leaves_driver

theorem reconnect_leaves : wifiManagerReconnectSta.All Leaves := by
  unfold Prog.All
  simp [wifiManagerReconnectSta, wifimanConfigStaIsSsidConfigured, wifimanConfigStaGetSsid,
    wifimanMsgSendCmdConnectSta, Leaves, writes]

theorem configure_leaves : wifiManagerNetifSetDefaultIp.All Leaves ∧
    wifiManagerEspWifiConfigureAp.All Leaves ∧ wifiManagerNetifConfigureSta.All Leaves := by
  unfold Prog.All
  refine ⟨?_, ?_, ?_⟩
  · simp [wifiManagerNetifSetDefaultIp]
  · simp [wifiManagerEspWifiConfigureAp]
  · simp [wifiManagerNetifConfigureSta, Leaves, writes, DriverCall.writes]

theorem initStartWifi_leaves : wifiManagerInitStartWifi.All Leaves := by
  have hdone : ∀ created : Bool, (pure created : WifiProg Bool).All Leaves := fun _ => trivial
  have hdriver (d : DriverCall) {p : WifiProg Bool} (hp : p.All Leaves) :
      (do
        let err ← call (driver d)
        if err ≠ espOk then
          return false
        p : WifiProg Bool).All Leaves := by
    refine .bind (.perform (leaves_driver d)) fun err => ?_
    split_ifs
    · exact trivial
    · exact hp
  have hmsg : wifimanMsgInit.All Leaves := by
    unfold Prog.All
    simp [wifimanMsgInit, Leaves, writes]
  refine .bind hmsg fun created => ?_
  split_ifs
  · exact trivial
  refine hdriver _ (hdriver _ (hdriver _ (hdriver _ (hdriver _ ?_))))
  refine .bind configure_leaves.1 fun _ => ?_
  refine .bind configure_leaves.2.1 fun _ => ?_
  refine .bind configure_leaves.2.2 fun _ => ?_
  refine hdriver _ (hdriver _ (hdriver _ ?_))
  exact .bind (.perform (by simp [Leaves, writes])) fun _ => trivial

theorem wifiManagerInit_leaves (flagConnectSta : Bool) (cfg : WifimanConfigSta) :
    (wifiManagerInit flagConnectSta cfg).All Leaves := by
  have hdriver (d : DriverCall) {p : WifiProg Bool} (hp : p.All Leaves) :
      (do
        let err ← call (driver d)
        if err ≠ espOk then
          return false
        p : WifiProg Bool).All Leaves := by
    refine .bind (.perform (leaves_driver d)) fun err => ?_
    split_ifs
    · exact trivial
    · exact hp
  have hworking : wifiManagerIsWorking.All Leaves := by
    unfold Prog.All
    simp [wifiManagerIsWorking, Leaves, writes]
  refine .bind hworking fun working => ?_
  cases working with
  | true => exact trivial
  | false =>
    iterate 4
      refine .bind (.perform (by simp [Leaves, writes])) fun _ => ?_
    refine hdriver _ (hdriver _ (hdriver _ ?_))
    iterate 3
      refine .bind (.perform (by simp [Leaves, writes])) fun _ => ?_
    refine .bind initStartWifi_leaves fun _ => ?_
    cases flagConnectSta with
    | true =>
      refine .bind (.perform (by simp [Leaves, writes])) fun _ => ?_
      exact .bind reconnect_leaves fun _ => trivial
    | false => exact trivial

theorem wifiManagerStart_leaves (flagConnectSta : Bool) (cfg : WifimanConfigSta) :
    (wifiManagerStart flagConnectSta cfg).All Leaves := by
  have hfailed : (do
      let _ ← call (xEventGroupClearBits [.isWorking])
      call wifiManagerUnlock
      return false : WifiProg Bool).All Leaves := by
    unfold Prog.All
    simp [Leaves, writes]
  refine .bind (.perform (by simp [Leaves, writes])) fun _ => ?_
  refine .bind (.perform (by simp [Leaves, writes])) fun initialized => ?_
  split_ifs
  · exact hfailed
  refine .bind (wifiManagerInit_leaves flagConnectSta cfg) fun initialized => ?_
  split_ifs
  · exact hfailed
  · exact .bind (.perform (by simp [Leaves, writes])) fun _ => trivial

end Evaluation

/-- A message that neither starts nor stops the hotspot nor ends the manager. -/
theorem handle_leaves {msg : QueueMessage} (hstart : ∀ flag, msg ≠ .orderStartAp flag)
    (hstopAp : msg ≠ .orderStopAp) (hstop : msg ≠ .orderStopAndDestroy) :
    (wifiManagerTaskHandle msg).All Leaves := by
  apply (wifiManagerTaskHandle_all msg).mono
  rintro o (ho | rfl | ⟨h, -⟩)
  · revert o
    cases msg
    case orderStartAp flag => exact absurd rfl (hstart flag)
    case orderStopAp => exact absurd rfl hstopAp
    case orderStopAndDestroy => exact absurd rfl hstop
    all_goals
      simp [QueueMessage.MayCall, OfSender, OfLossUpdate, or_imp, forall_and]
      try simp [Leaves, writes, DriverCall.writes]
  · simp [Leaves, writes]
  · exact absurd h hstop

theorem startAp_bits (flagBlockReqFromLan : Bool) :
    Triple machine .server WifiState.AgreeInside (Bits active blocked)
      (wifiManagerTaskHandle (.orderStartAp flagBlockReqFromLan))
      fun _ => Bits true (flagBlockReqFromLan || blocked) := by
  change Triple machine .server WifiState.AgreeInside (Bits active blocked)
    (call (driver (.espWifiSetMode .apsta)) >>= fun _ => call (xEventGroupSetBits
      (.apActive :: if flagBlockReqFromLan then [.blockReqFromLanWhileApActive] else [])) >>=
      fun _ => call (callback .onApStarted) >>= fun _ =>
        call (callback (.onMessage (.orderStartAp flagBlockReqFromLan))) >>= fun _ => pure ()) _
  refine triple_leavesThen (leaves_driver _) fun _ => ?_
  refine triple_perform (S := fun _ => Bits true (flagBlockReqFromLan || blocked)) stable_bits ?_
    fun _ => ?_
  · intro s c bits s' h he
    have hactive := bit_of_set (t := .server) (c := c) (b := .apActive) he (by simp)
    cases flagBlockReqFromLan with
    | true => exact ⟨hactive, bit_of_set (t := .server) (c := c) he (by simp)⟩
    | false =>
      have hblocked : s'.eventBits .blockReqFromLanWhileApActive =
          s.eventBits .blockReqFromLanWhileApActive :=
        machine_agree (f := .bit .blockReqFromLanWhileApActive) he (by simp [writes])
      exact ⟨hactive, hblocked.trans h.2⟩
  refine triple_leavesThen (by simp [Leaves, writes]) fun _ => ?_
  refine triple_leavesThen (by simp [Leaves, writes]) fun _ => ?_
  exact triple_pure stable_bits fun _ h => h

theorem stopAp_bits :
    Triple machine .server WifiState.AgreeInside (Bits active blocked)
      (wifiManagerTaskHandle .orderStopAp) fun _ => Bits false false := by
  change Triple machine .server WifiState.AgreeInside (Bits active blocked)
    (call (driver (.espWifiSetMode .sta)) >>= fun _ =>
      call (xEventGroupClearBits [.apActive, .blockReqFromLanWhileApActive]) >>= fun _ =>
      call (callback .onApStopped) >>= fun _ =>
        call (callback (.onMessage .orderStopAp)) >>= fun _ => pure ()) _
  refine triple_leavesThen (leaves_driver _) fun _ => ?_
  refine triple_perform (S := fun _ => Bits false false) stable_bits ?_ fun _ => ?_
  · intro s c bits s' _ he
    exact ⟨bit_of_clear (t := .server) (c := c) he (by simp),
      bit_of_clear (t := .server) (c := c) he (by simp)⟩
  refine triple_leavesThen (by simp [Leaves, writes]) fun _ => ?_
  refine triple_leavesThen (by simp [Leaves, writes]) fun _ => ?_
  exact triple_pure stable_bits fun _ h => h

/-- The end of the manager clears one of the two bits. -/
theorem finish_bits :
    Triple machine .server WifiState.AgreeInside (Bits active blocked)
      (wifiManagerTaskHandle .orderStopAndDestroy) fun _ => Bits false blocked := by
  change Triple machine .server WifiState.AgreeInside (Bits active blocked)
    (call (callback (.onMessage .orderStopAndDestroy)) >>= fun _ =>
      wifiManagerTaskFinish >>= fun _ => call (setManagerTask .none)) _
  refine triple_leavesThen (by simp [Leaves, writes]) fun _ => ?_
  refine triple_bind (S := fun _ => Bits false blocked) ?_ fun _ =>
    triple_leaves (.perform (by simp [Leaves, writes]))
  unfold wifiManagerTaskFinish
  refine triple_leavesThen (by simp [Leaves, writes]) fun _ => ?_
  refine triple_leavesThen (leaves_driver _) fun _ => ?_
  iterate 3
    refine triple_leavesThen (by simp [Leaves, writes]) fun _ => ?_
  refine triple_perform (S := fun _ => Bits false blocked) stable_bits ?_ fun _ => ?_
  · intro s c bits s' h he
    have hblocked : s'.eventBits .blockReqFromLanWhileApActive =
        s.eventBits .blockReqFromLanWhileApActive :=
      machine_agree (f := .bit .blockReqFromLanWhileApActive) he (by simp [writes])
    exact ⟨bit_of_clear (t := .server) (c := c) he (by simp), hblocked.trans h.2⟩
  iterate 6
    refine triple_leavesThen (leaves_driver _) fun _ => ?_
  iterate 2
    refine triple_leavesThen (by simp [Leaves, writes]) fun _ => ?_
  iterate 2
    refine triple_leavesThen (leaves_driver _) fun _ => ?_
  exact triple_leaves (.perform (by simp [Leaves, writes]))

/-! ### Runs -/

theorem performed_bits {history : List ManagerAction} (h : Performed history s) :
    Bits (activeStartAp history).isSome (blockedSinceStopAp history) s := by
  induction h with
  | none => exact ⟨rfl, rfl⟩
  | start _ hrun ih => exact triple_leaves (wifiManagerStart_leaves _ _) _ _ _ ih hrun
  | @handle history msg s s' _ hrun ih =>
    cases msg
    case orderStartAp flag => exact startAp_bits flag _ _ _ ih hrun
    case orderStopAp => exact stopAp_bits _ _ _ ih hrun
    case orderStopAndDestroy => exact finish_bits _ _ _ ih hrun
    all_goals
      exact triple_leaves (handle_leaves (by simp) (by simp) (by simp)) _ _ _ ih hrun

/-- What is asked of the two bits, while the other tasks leave them alone. -/
theorem blocked_result {b : Bool} (h : Bits active blocked s)
    (hrun : Runs machine t WifiState.AgreeInside wifiManagerIsReqFromLanBlockedWhileApIsActive
      s b s') : Bits active blocked s' ∧ b = (active && blocked) := by
  have htriple : Triple machine t WifiState.AgreeInside (Bits active blocked)
      wifiManagerIsReqFromLanBlockedWhileApIsActive
      fun b s => Bits active blocked s ∧ b = (active && blocked) := by
    refine triple_perform (S := fun bits s => Bits active blocked s ∧ bits .apActive = active ∧
      bits .blockReqFromLanWhileApActive = blocked) stable_bits ?_ fun bits => ?_
    · intro s c bits s' h he
      obtain ⟨rfl, rfl⟩ := Prod.mk.inj (Option.some.inj he)
      exact ⟨h, h⟩
    · refine triple_pure ?_ fun s hs => ?_
      · rintro s s' hagree ⟨h, hbits⟩
        exact ⟨stable_bits s s' hagree h, hbits⟩
      · rw [hs.2.1, hs.2.2]
        exact ⟨hs.1, rfl⟩
  exact htriple _ _ _ h hrun

/-- Requests from LAN are blocked as the last start of the hotspot has asked, except that a start
without blocking does not end an earlier one with it. -/
theorem lan_block_iff {history : List ManagerAction} {b : Bool} (h : Performed history s)
    (hrun : Runs machine t WifiState.AgreeInside wifiManagerIsReqFromLanBlockedWhileApIsActive
      s b s') :
    (b = true ↔ s'.eventBits .apActive = true ∧ lastStartAp history = some true) ↔
      ¬ (activeStartAp history = some false ∧ blockedSinceStopAp history = true) := by
  obtain ⟨hbits, rfl⟩ := blocked_result (performed_bits h) hrun
  rw [hbits.1]
  cases hactive : activeStartAp history with
  | none => simp
  | some flag =>
    have hlast := lastStartAp_of_active hactive
    cases flag with
    | true =>
      have hblocked := blocked_of_active hactive
      simp [hlast, hblocked]
    | false => simp [hlast]

/-- The manager is started alone, nothing fails, and then its task runs a program. -/
theorem started_runs {α : Type} (cfg : WifimanConfigSta) (p : WifiProg α) (P : α → Bool)
    (h : ((wifiManagerStart false cfg).eval machine (.client 0) (List.replicate 50 .ok) .zero).any
      (fun x => (p.eval machine .server (List.replicate 50 .ok) x.2).any fun y => P y.1) = true) :
    ∃ s a s', Performed [.start false cfg] s ∧ Runs machine .server WifiState.AgreeInside p s a s' ∧
      P a = true := by
  obtain ⟨⟨result, s⟩, hstart, hany⟩ := (Option.any_eq_true _ _).mp h
  obtain ⟨⟨a, s'⟩, hp, ha⟩ := (Option.any_eq_true _ _).mp hany
  exact ⟨s, a, s', .start .none (runs_of_eval hstart), runs_of_eval hp, ha⟩

/-- The manager is started, and the hotspot with blocking. -/
theorem lan_blocked_after_start : ∃ s s',
    Performed [.handle (.orderStartAp true), .start false homeConfig] s ∧
    Runs machine .server WifiState.AgreeInside wifiManagerIsReqFromLanBlockedWhileApIsActive
      s true s' ∧ s'.eventBits .apActive = true := by
  obtain ⟨s₀, b, s', hstart, hrest, hb⟩ := started_runs homeConfig
    (wifiManagerTaskHandle (.orderStartAp true) >>= fun _ =>
      wifiManagerIsReqFromLanBlockedWhileApIsActive) id (by decide +kernel)
  obtain rfl : b = true := hb
  obtain ⟨_, s, hhandle, hrun⟩ := runs_bind hrest
  have hblock := (lan_block_iff (.handle hstart hhandle) hrun).mpr (by decide)
  exact ⟨s, s', .handle hstart hhandle, hrun, (hblock.mp rfl).1⟩

/-- The hotspot is started with blocking and then without. -/
theorem lan_blocked_after_unblocking_start :
    ¬ ∀ (history : List ManagerAction) (t : TaskId) (s s' : WifiState) (b : Bool),
      Performed history s →
      Runs machine t WifiState.AgreeInside wifiManagerIsReqFromLanBlockedWhileApIsActive s b s' →
        (b = true ↔ s'.eventBits .apActive = true ∧ lastStartAp history = some true) := by
  intro hclaim
  obtain ⟨s₀, b, s', hstart, hrest, hb⟩ := started_runs homeConfig
    (wifiManagerTaskHandle (.orderStartAp true) >>= fun _ =>
      wifiManagerTaskHandle (.orderStartAp false) >>= fun _ =>
      wifiManagerIsReqFromLanBlockedWhileApIsActive) id (by decide +kernel)
  obtain rfl : b = true := hb
  obtain ⟨_, mid, hblocking, hrest⟩ := runs_bind hrest
  obtain ⟨_, s, hopen, hrun⟩ := runs_bind hrest
  have hblock := hclaim _ _ _ _ _ (.handle (.handle hstart hblocking) hopen) hrun
  exact absurd (hblock.mp rfl).2 (by decide)

end LanBlocking
end WifiManager
end Esp32WifiManager
