import Esp32WifiManager.WifiManager.Start

/-!
# The manager after a stop

The end of the manager task clears a list of bits and leaves the mutexes of the
DNS server and of the HTTP server where they are; the next start asserts that
they do not exist yet.
-/

namespace Esp32WifiManager
namespace WifiManager

open CString TaskSystem WifiCall

/-- The manager task has come to its end. -/
structure Stopped (cfg : WifiConfig) : Prop where
  done : cfg.server.prog = .pure ()
  ended : cfg.shared.managerTask = .none

/-- The answer of an environment in which nothing fails, with the values of `c`. -/
def Reply.succeeding (c : Reply) : Reply := { c with err := espOk, success := true }

/-- The machine in which every call succeeds. A failed `assert` still stops the task. -/
def okMachine : Machine WifiCall WifiCall.Ret Reply Request WifiState :=
  { machine with exec := fun t o c s => exec t o c.succeeding s }

/-- The bits that tell about the station and the hotspot of one run. -/
def perRunBits : List EventBit :=
  [.staActive, .wifiConnected, .initialConnection, .cmdStaConnect, .scan, .apActive,
    .blockReqFromLanWhileApActive, .requestStaConnect, .requestRestoreSta, .requestDisconnect]

/-- The manager can be started again: its bits are clear, a start in which nothing fails comes to its
end, and when it has been asked to connect to a configured network, the first connect order reaches
`esp_wifi_connect`. -/
structure Restartable (s : WifiState) : Prop where
  clear : ∀ b ∈ perRunBits, s.eventBits b = false
  starts : ∀ t flagConnectSta cfg, ∃ result s',
    Runs okMachine t WifiState.AgreeInside (wifiManagerStart flagConnectSta cfg) s result s'
  connects : ∀ t cfg s', CharBuf.isEmpty (CharBuf.ofStr 32 cfg.wifiConfigSta.ssid.str) = false →
    Runs okMachine t WifiState.AgreeInside (wifiManagerStart true cfg) s true s' →
      ∀ x, Runs (okMachine.withGhost logCall) .server
        (fun x y => x.1.AgreeInside y.1 ∧ y.2 = x.2)
        (wifiManagerTaskHandle (.orderConnectSta .restoreConnection)) (s', []) () x →
          ∃ c, (driver .espWifiConnect, c) ∈ x.2

namespace Restart

/-- Where the manager task is: at its end it clears `IS_WORKING`. -/
inductive Phase
  | rest
  | cleared

/-- The mutex of the DNS server exists from the first start on, and the manager does not work when
its task has ended. -/
def Inv : Phase → WifiState → Prop
  | .rest, s => s.dnsServerMutex = true ∧ (s.managerTask = .none → s.eventBits .isWorking = false)
  | .cleared, s => s.dnsServerMutex = true ∧ s.eventBits .isWorking = false

variable {t : TaskId} {o : WifiCall} {c : Reply} {r : o.Ret} {s s' : WifiState} {φ : Phase}

/-- The invariant speaks about three parts of the state. -/
theorem inv_agree (hdns : s.Agree s' .dnsServerMutex) (hwork : s.Agree s' (.bit .isWorking))
    (htask : s.Agree s' .managerTask) (h : Inv φ s) : Inv φ s' := by
  have hdns : s'.dnsServerMutex = s.dnsServerMutex := hdns
  have hwork : s'.eventBits .isWorking = s.eventBits .isWorking := hwork
  have htask : s'.managerTask = s.managerTask := htask
  cases φ with
  | rest =>
    obtain ⟨hmutex, hstopped⟩ := h
    exact ⟨hdns.trans hmutex, fun hnone => hwork.trans (hstopped (htask.symm.trans hnone))⟩
  | cleared => exact ⟨hdns.trans h.1, hwork.trans h.2⟩

def taskInvariant : TaskInvariant Phase where
  inv := Inv
  rest φ := φ = .rest
  demand _ _ := True
  frame hagree h := inv_agree (hagree _ (by decide)) (hagree _ (by decide)) (hagree _ (by decide)) h

/-- A call that the invariant does not see. -/
def Unseen (o : WifiCall) : Prop :=
  .dnsServerMutex ∉ o.writes ∧ .bit .isWorking ∉ o.writes ∧ .managerTask ∉ o.writes

theorem frames_unseen (ho : Unseen o) : taskInvariant.contract.Frames φ o := by
  intro s w hinv
  refine ⟨trivial, fun c r s' _ he => ?_⟩
  exact inv_agree (exec_agree he ho.1) (exec_agree he ho.2.1) (exec_agree he ho.2.2) hinv

theorem handleMsg_unseen (msg : QueueMessage) : (wifiManagerHandleMsg msg).All Unseen := by
  apply (wifiManagerHandleMsg_allThen msg).all.mono
  intro o ho
  revert o
  cases msg
  all_goals
    simp [QueueMessage.MayCall, OfSender, OfLossUpdate, or_imp, forall_and]
    try simp [Unseen, writes, DriverCall.writes]

/-- The end of the task. -/
theorem finish_keeps : taskInvariant.contract.Keeps (do
    wifiManagerTaskFinish
    call (setManagerTask .none) : WifiProg Unit) (fun _ φ => φ = .rest) .rest := by
  have hdriver : ∀ d, Unseen (driver d) := by
    intro d
    cases d <;> simp [Unseen, writes, DriverCall.writes]
  apply Contract.keeps_bind.mpr
  unfold wifiManagerTaskFinish
  apply Contract.performs_frame (frames_unseen (by simp [Unseen, writes]))
  intro _
  apply Contract.performs_frame (frames_unseen (hdriver _))
  intro _
  iterate 3
    apply Contract.performs_frame (frames_unseen (by simp [Unseen, writes]))
    intro _
  apply Contract.keeps_perform
  intro s w hinv
  refine ⟨trivial, fun c bits s' _ he => ⟨.cleared, ?_, ?_⟩⟩
  · have hwork := bit_of_clear (t := .server) (c := c) (b := .isWorking) he (by simp)
    obtain ⟨-, rfl⟩ := Prod.mk.inj (Option.some.inj he)
    exact ⟨hinv.1, hwork⟩
  iterate 6
    apply Contract.performs_frame (frames_unseen (hdriver _))
    intro _
  iterate 2
    apply Contract.performs_frame (frames_unseen (by simp [Unseen, writes]))
    intro _
  iterate 2
    apply Contract.performs_frame (frames_unseen (hdriver _))
    intro _
  apply Contract.performs_frame (frames_unseen (by simp [Unseen, writes]))
  intro _ s w hinv
  refine ⟨trivial, fun c r s' _ he => ⟨.rest, ?_, rfl⟩⟩
  obtain ⟨-, rfl⟩ := Prod.mk.inj (Option.some.inj he)
  exact ⟨hinv.1, fun _ => hinv.2⟩

theorem taskRound_keeps : taskInvariant.contract.Keeps wifiManagerTaskRound
    (fun _ => taskInvariant.rest) .rest := by
  apply keeps_taskRound
  intro s w hinv
  refine ⟨trivial, fun c msg s' _ he _ => ⟨.rest, ?_, ?_⟩⟩
  · have hunseen : Unseen xQueueReceive := by simp [Unseen, writes]
    exact @inv_agree s s' .rest (exec_agree he hunseen.1) (exec_agree he hunseen.2.1)
      (exec_agree he hunseen.2.2) hinv
  have hcallback : Unseen (callback (.onMessage msg)) := by simp [Unseen, writes]
  by_cases hstop : msg = .orderStopAndDestroy
  · subst hstop
    change taskInvariant.contract.Keeps (call (callback (.onMessage .orderStopAndDestroy)) >>=
      fun _ => wifiManagerTaskFinish >>= fun _ => call (setManagerTask .none)) _ _
    exact Contract.performs_frame (frames_unseen hcallback) fun _ => finish_keeps
  · apply keeps_taskHandle hstop
    apply Contract.keeps_frame ((handleMsg_unseen msg).mono fun _ ho => frames_unseen ho)
    exact fun _ => ⟨rfl, frames_unseen hcallback⟩

theorem taskBegin_keeps : taskInvariant.contract.Keeps wifiManagerTaskBegin
    (fun _ => taskInvariant.rest) .rest := by
  unfold wifiManagerTaskBegin wifiManagerWdtAddAndStart
  apply Contract.performs_frame (frames_unseen (by simp [Unseen, writes, DriverCall.writes]))
  intro _
  apply Contract.performs_frame (frames_unseen (by simp [Unseen, writes]))
  intro _ s w hinv
  refine ⟨trivial, fun c r s' _ he => ⟨.rest, ?_, rfl⟩⟩
  obtain ⟨-, rfl⟩ := Prod.mk.inj (Option.some.inj he)
  exact ⟨hinv.1, fun hnone => absurd hnone (by simp)⟩

theorem sound : taskInvariant.contract.Sound := by
  apply TaskInvariant.sound
  · rintro _ rfl
    exact taskBegin_keeps
  · rintro _ rfl
    exact taskRound_keeps

/-- After a stop the mutex of the DNS server still exists, and the manager does not work. -/
theorem stopped_state {cfg : WifiConfig} (h : Reachable cfg) (hstopped : Stopped cfg) :
    cfg.shared.dnsServerMutex = true ∧ cfg.shared.eventBits .isWorking = false := by
  obtain ⟨flag, sta, labels, hrun⟩ := h
  have hstart : Inv .rest (WifiState.started flag sta) :=
    ⟨rfl, fun hnone => absurd hnone (by simp [WifiState.started])⟩
  obtain ⟨φ, hholds⟩ := TaskInvariant.holds_of_path sound rfl hstart hrun
  have hrest := hholds.server
  rw [hstopped.done] at hrest
  obtain rfl : φ = .rest := hrest
  obtain ⟨hmutex, hwork⟩ := hholds.inv
  exact ⟨hmutex, hwork hstopped.ended⟩

/-- The end of the task leaves three bits of the run as they are. -/
theorem finish_leaves {b : EventBit} (hb : b ∈ [.staActive, .initialConnection,
    .blockReqFromLanWhileApActive]) (v : Bool) :
    Triple machine .server WifiState.AgreeInside (fun s => s.eventBits b = v) wifiManagerTaskFinish
      fun _ s => s.eventBits b = v := by
  have houtside : .bit b ∉ outsideWrites := by
    revert b
    decide
  have hstable : Stable WifiState.AgreeInside fun s => s.eventBits b = v := by
    intro s s' hagree hs
    have hkept : s'.eventBits b = s.eventBits b := hagree (.bit b) houtside
    exact hkept.trans hs
  have hwrites : wifiManagerTaskFinish.All fun o => .bit b ∉ o.writes := by
    apply wifiManagerTaskFinish_all.mono
    revert b
    simp [OfFinish, or_imp, forall_and, writes, DriverCall.writes]
  apply triple_frame hstable
  apply hwrites.mono
  intro o ho c r s s' hs he
  have hkept : s'.eventBits b = s.eventBits b := exec_agree (t := .server) (o := o) (c := c) he ho
  exact hkept.trans hs

/-! ### The next start -/

/-- The mutex of the DNS server exists, and `IS_WORKING` is `w`. -/
def Leftover (w : Bool) (s : WifiState) : Prop :=
  s.dnsServerMutex = true ∧ s.eventBits .isWorking = w

theorem stable_leftover (w : Bool) : Stable WifiState.AgreeInside (Leftover w) := by
  rintro s s' hagree ⟨hdns, hwork⟩
  have hdns' : s'.dnsServerMutex = s.dnsServerMutex := hagree .dnsServerMutex (by decide)
  have hwork' : s'.eventBits .isWorking = s.eventBits .isWorking :=
    hagree (.bit .isWorking) (by decide)
  exact ⟨hdns'.trans hdns, hwork'.trans hwork⟩

theorem leftover_exec {w : Bool} (ho : Unseen o) (he : okMachine.exec t o c s = some (r, s'))
    (hs : Leftover w s) : Leftover w s' := by
  have he : exec t o c.succeeding s = some (r, s') := he
  have hdns : s'.dnsServerMutex = s.dnsServerMutex := exec_agree he ho.1
  have hwork : s'.eventBits .isWorking = s.eventBits .isWorking := exec_agree he ho.2.1
  exact ⟨hdns.trans hs.1, hwork.trans hs.2⟩

/-- The start goes on after a call that the leftovers do not depend on. -/
theorem triple_pass {α : Type} {w : Bool} {f : o.Ret → WifiProg α} {Q : α → WifiState → Prop}
    (ho : Unseen o)
    (hf : ∀ r, Triple okMachine t WifiState.AgreeInside (Leftover w) (f r) Q) :
    Triple okMachine t WifiState.AgreeInside (Leftover w) (call o >>= f) Q :=
  triple_perform (stable_leftover w) (fun _ _ _ _ hs he => leftover_exec ho he hs) hf

/-- No call of the driver fails. -/
theorem triple_driver {α : Type} {w : Bool} {d : DriverCall} {p : WifiProg α} {rest : WifiProg α}
    {Q : α → WifiState → Prop} (hd : Unseen (driver d))
    (hrest : Triple okMachine t WifiState.AgreeInside (Leftover w) rest Q) :
    Triple okMachine t WifiState.AgreeInside (Leftover w) (do
      let err ← call (driver d)
      if err ≠ espOk then p else rest) Q := by
  have hcont : ∀ err : EspErr, Triple okMachine t WifiState.AgreeInside
      (fun s => err = espOk ∧ Leftover w s) (if err ≠ espOk then p else rest) Q := by
    rintro err s a s' ⟨rfl, hs⟩ hrun
    rw [if_neg (by simp)] at hrun
    exact hrest s a s' hs hrun
  have hcall : ∀ s c err s', Leftover w s → okMachine.exec t (driver d) c s = some (err, s') →
      err = espOk ∧ Leftover w s' := by
    intro s c err s' hs he
    have hs' := leftover_exec hd he hs
    obtain ⟨rfl, -⟩ := Prod.mk.inj (Option.some.inj he)
    exact ⟨rfl, hs'⟩
  exact triple_perform (stable_leftover w) hcall hcont

/-- `dns_server_init` does not come back. -/
theorem triple_dnsServerInit {α : Type} {w : Bool} {f : Unit → WifiProg α}
    {Q : α → WifiState → Prop} :
    Triple okMachine t WifiState.AgreeInside (Leftover w) (call dnsServerInit >>= f) Q := by
  have hstop : ∀ s c r s', Leftover w s → okMachine.exec t dnsServerInit c s = some (r, s') →
      False := by
    rintro s c r s' ⟨hdns, -⟩ he
    simp [okMachine, exec, hdns] at he
  exact triple_perform (S := fun _ _ => False) (stable_leftover w) hstop
    fun _ _ _ _ hfalse => hfalse.elim

/-- A start in which nothing fails does not come to its end. -/
theorem triple_init (flagConnectSta : Bool) (cfg : WifimanConfigSta) :
    Triple okMachine t WifiState.AgreeInside (Leftover false) (wifiManagerInit flagConnectSta cfg)
      fun _ _ => False := by
  have hdriver : ∀ d, Unseen (driver d) := by
    intro d
    cases d <;> simp [Unseen, writes, DriverCall.writes]
  have hrest : Triple okMachine t WifiState.AgreeInside
      (fun s => Leftover false s) (do
        let _ ← call (xEventGroupSetBits [.isWorking])
        call (wifimanConfigInit cfg)
        call jsonNetworkInfoClear
        call staIpSafeReset
        let err ← call (driver .espEventLoopCreateDefault)
        if err ≠ espOk then
          return false
        let err ← call (driver .espNetifCreateDefault)
        if err ≠ espOk then
          return false
        let err ← call (driver .espNetifCreateDefault)
        if err ≠ espOk then
          return false
        call dnsServerInit
        call httpServerInit
        call httpServerStart
        let _ ← wifiManagerInitStartWifi
        if flagConnectSta then
          let _ ← call (xEventGroupSetBits [.initialConnection])
          wifiManagerReconnectSta
        return true) fun _ _ => False := by
    refine triple_perform (S := fun _ => Leftover true) (stable_leftover false) ?_ fun _ => ?_
    · intro s c bits s' hs he
      have hwork := bit_of_set (t := t) (c := c) (b := .isWorking) he (by simp)
      obtain ⟨-, rfl⟩ := Prod.mk.inj (Option.some.inj he)
      exact ⟨hs.1, hwork⟩
    refine triple_pass (by simp [Unseen, writes]) fun _ => ?_
    refine triple_pass (by simp [Unseen, writes]) fun _ => ?_
    refine triple_pass (by simp [Unseen, writes]) fun _ => ?_
    refine triple_driver (hdriver _) ?_
    refine triple_driver (hdriver _) ?_
    refine triple_driver (hdriver _) ?_
    exact triple_dnsServerInit
  refine triple_perform (S := fun bits s => bits .isWorking = false ∧ Leftover false s)
    (stable_leftover false) ?_ fun bits => ?_
  · intro s c bits s' hs he
    obtain ⟨rfl, rfl⟩ := Prod.mk.inj (Option.some.inj he)
    exact ⟨hs.2, hs⟩
  · rintro s a s' ⟨hworking, hs⟩ hrun
    change Runs okMachine t _ (if bits .isWorking = true then _ else _) s a s' at hrun
    rw [hworking, if_neg (by simp)] at hrun
    exact hrest s a s' hs hrun

theorem triple_start (flagConnectSta : Bool) (cfg : WifimanConfigSta) :
    Triple okMachine t WifiState.AgreeInside (Leftover false) (wifiManagerStart flagConnectSta cfg)
      fun _ _ => False := by
  refine triple_pass (by simp [Unseen, writes]) fun _ => ?_
  have hinit : Triple okMachine t WifiState.AgreeInside (Leftover false) (do
      let initialized ← wifiManagerInit flagConnectSta cfg
      if !initialized then
        let _ ← call (xEventGroupClearBits [.isWorking])
        call wifiManagerUnlock
        return false
      call wifiManagerUnlock
      return true) fun _ _ => False :=
    triple_bind (triple_init flagConnectSta cfg) fun _ _ _ _ hfalse => hfalse.elim
  refine triple_perform (S := fun initialized s => initialized = true ∧ Leftover false s)
    (stable_leftover false) ?_ fun initialized => ?_
  · intro s c initialized s' hs he
    obtain ⟨rfl, rfl⟩ := Prod.mk.inj (Option.some.inj he)
    exact ⟨rfl, hs⟩
  · rintro s a s' ⟨rfl, hs⟩ hrun
    exact hinit s a s' hs hrun

end Restart

/-- After a stop the manager can never be started again: a start in which nothing fails ends in the
assertion of `dns_server_init`, whose mutex still exists. -/
theorem not_restartable {cfg : WifiConfig} (h : Reachable cfg) (hstopped : Stopped cfg) :
    ¬ Restartable cfg.shared := by
  intro hrestartable
  obtain ⟨hdns, hwork⟩ := Restart.stopped_state h hstopped
  obtain ⟨result, s', hrun⟩ := hrestartable.starts (.client 0) false homeConfig
  exact Restart.triple_start _ _ _ _ _ ⟨hdns, hwork⟩ hrun

/-- A start, a stop, and the end of the manager task. -/
theorem stopped_run : ∃ cfg, Reachable cfg ∧ Stopped cfg := by
  have hrun : (runWhere machine (fun _ _ => true) (WifiConfig.started false homeConfig)
      (.arrive .stop :: runs (.client 0) 4 ++ runs .server 25)).any (fun cfg =>
        cfg.server.prog.next.isNone && decide (cfg.shared.managerTask = .none)) = true := by
    decide +kernel
  obtain ⟨cfg, hcfg, hany⟩ := (Option.any_eq_true _ _).mp hrun
  obtain ⟨hnext, hended⟩ := Bool.and_eq_true_iff.mp hany
  refine ⟨cfg, ⟨_, _, _, Path.of_runWhere (fun _ _ _ => trivial) hcfg⟩, ?_, of_decide_eq_true hended⟩
  cases hprog : cfg.server.prog with
  | pure a => rfl
  | call o k =>
    rw [hprog] at hnext
    exact absurd hnext (by simp [Prog.next])

theorem not_restartable_home : ∃ cfg, Reachable cfg ∧ Stopped cfg ∧ ¬ Restartable cfg.shared := by
  obtain ⟨cfg, hreach, hstopped⟩ := stopped_run
  exact ⟨cfg, hreach, hstopped, not_restartable hreach hstopped⟩

theorem stop_not_restartable : ¬ ∀ cfg, Reachable cfg → Stopped cfg → Restartable cfg.shared := by
  intro hclaim
  obtain ⟨cfg, hreach, hstopped⟩ := stopped_run
  obtain ⟨hdns, hwork⟩ := Restart.stopped_state hreach hstopped
  obtain ⟨result, s', hrun⟩ := (hclaim cfg hreach hstopped).starts (.client 0) false homeConfig
  exact Restart.triple_start _ _ _ _ _ ⟨hdns, hwork⟩ hrun

end WifiManager
end Esp32WifiManager
