import Esp32WifiManager.Lib.Ghost
import Esp32WifiManager.WifiManager.StickyDisconnect

/-!
# The start of the manager

`wifi_manager_start` sets `WIFI_MANAGER_IS_WORKING` early and its caller clears it
again. The pattern of failures is the record of the answers to its calls.
-/

namespace Esp32WifiManager
namespace WifiManager

open CString TaskSystem WifiCall

/-- The calls of a task with the answers of the environment, the last one first. -/
abbrev CallLog := List (WifiCall × Reply)

def logCall (_ : TaskId) (o : WifiCall) (c : Reply) (_ : o.Ret) (log : CallLog) : CallLog :=
  (o, c) :: log

abbrev loggedMachine : Machine WifiCall WifiCall.Ret Reply Request (WifiState × CallLog) :=
  machine.withGhost logCall

/-- Other tasks neither stop the manager nor report it as working meanwhile. -/
def KeepsStart (x y : WifiState × CallLog) : Prop :=
  (y.1.eventBits .isWorking = x.1.eventBits .isWorking ∧
    (x.1.msgQueue.isSome = true → y.1.msgQueue.isSome = true)) ∧ y.2 = x.2

/-- The calls of the driver whose failure ends `wifi_manager_init_start_wifi`. -/
def startWifiChecks : List WifiCall :=
  [driver .espEventHandlerRegister, driver .espWifiInit, driver .espWifiSetStorage,
    driver (.espWifiSetMode .sta), driver .espWifiStart, driver .espNetifSetHostname]

/-- A call of `wifi_manager_init_start_wifi` has failed. -/
def FailsStartWifi (o : WifiCall) (c : Reply) : Prop :=
  o ∈ startWifiChecks ∧ c.err ≠ espOk ∨
    (o = xQueueCreate ∨ o = osTaskCreateManager) ∧ c.success = false

def AnyFails (log : CallLog) : Prop := ∃ o c, (o, c) ∈ log ∧ FailsStartWifi o c

/-- The manager task has been created. -/
def CreatesTask (log : CallLog) : Prop := ∃ c, (osTaskCreateManager, c) ∈ log ∧ c.success = true

/-- A start that succeeds leaves a running manager, one that fails leaves `IS_WORKING` alone. -/
structure AllOrNothing (s : WifiState) (result : Bool) (x : WifiState × CallLog) : Prop where
  succeeds : result = true →
    CreatesTask x.2 ∧ x.1.msgQueue.isSome = true ∧ x.1.eventBits .isWorking = true
  fails : result = false → x.1.eventBits .isWorking = s.eventBits .isWorking

namespace Start

/-- `IS_WORKING` and, of the record, what has failed and been created so far. -/
structure At (working : Bool) (queue failed created : Prop) (x : WifiState × CallLog) : Prop where
  working : x.1.eventBits .isWorking = working
  queue : queue → x.1.msgQueue.isSome = true
  failed : AnyFails x.2 ↔ failed
  created : CreatesTask x.2 ↔ created

/-- A call that `At` does not see. -/
structure Neutral (o : WifiCall) : Prop where
  working : .bit .isWorking ∉ o.writes
  noCreate : o ≠ xQueueCreate
  noDelete : o ≠ vQueueDelete
  noTask : o ≠ osTaskCreateManager
  noCheck : o ∉ startWifiChecks

variable {t : TaskId} {o : WifiCall} {c : Reply} {r : o.Ret} {x x' : WifiState × CallLog}
  {w : Bool} {q f d : Prop}

theorem anyFails_cons {log : CallLog} : AnyFails ((o, c) :: log) ↔ FailsStartWifi o c ∨ AnyFails log := by
  unfold AnyFails
  simp only [List.mem_cons, Prod.mk.injEq, or_and_right, exists_or]
  simp

theorem createsTask_cons {log : CallLog} :
    CreatesTask ((o, c) :: log) ↔ o = osTaskCreateManager ∧ c.success = true ∨ CreatesTask log := by
  unfold CreatesTask
  simp only [List.mem_cons, Prod.mk.injEq, or_and_right, exists_or]
  constructor
  · rintro (⟨c', ⟨rfl, rfl⟩, h⟩ | h)
    · exact .inl ⟨rfl, h⟩
    · exact .inr h
  · rintro (⟨rfl, h⟩ | h)
    · exact .inl ⟨c, ⟨rfl, rfl⟩, h⟩
    · exact .inr h

theorem stable_at : Stable KeepsStart (At w q f d) := by
  rintro x y ⟨⟨hwork, hqueue⟩, hlog⟩ ⟨hw, hq, hf, hd⟩
  refine ⟨hwork.trans hw, fun h => hqueue (hq h), ?_, ?_⟩
  · rw [hlog]
    exact hf
  · rw [hlog]
    exact hd

theorem queue_isSome {s s' : WifiState} (h : exec t o c s = some (r, s')) (ho : o ≠ xQueueCreate)
    (ho' : o ≠ vQueueDelete) (hs : s.msgQueue.isSome = true) : s'.msgQueue.isSome = true := by
  by_cases hw : Field.msgQueue ∈ o.writes
  · rcases writes_msgQueue hw with rfl | ⟨msg, timeout, rfl⟩ | rfl | rfl
    · exact absurd rfl ho
    · rcases exec_xQueueSend h with ⟨rfl, -⟩ | ⟨q, q', -, -, -, rfl⟩
      · exact hs
      · rfl
    · obtain ⟨q, msg, q', -, -, -, rfl⟩ := exec_xQueueReceive h
      rfl
    · exact absurd rfl ho'
  · have hq : s'.msgQueue = s.msgQueue := exec_agree h hw
    rw [hq]
    exact hs

/-- A call leaves what it does not write as it is, and is added to the record. -/
theorem logged_agree (h : loggedMachine.exec t o c x = some (r, x')) {f : Field}
    (hf : f ∉ o.writes) : x.1.Agree x'.1 f ∧ x'.2 = (o, c) :: x.2 := by
  obtain ⟨he, hlog⟩ := exec_withGhost h
  exact ⟨exec_agree he hf, hlog⟩

theorem exec_neutral (ho : Neutral o) (h : loggedMachine.exec t o c x = some (r, x'))
    (hx : At w q f d x) : At w q f d x' := by
  obtain ⟨he, hlog⟩ := exec_withGhost h
  have hwork : x'.1.eventBits .isWorking = x.1.eventBits .isWorking := exec_agree he ho.working
  refine ⟨hwork.trans hx.working, fun hq => ?_, ?_, ?_⟩
  · exact queue_isSome he ho.noCreate ho.noDelete (hx.queue hq)
  · rw [hlog, logCall, anyFails_cons, hx.failed]
    have hno : ¬ FailsStartWifi o c := by
      rintro (⟨hmem, -⟩ | ⟨rfl | rfl, -⟩)
      · exact ho.noCheck hmem
      · exact ho.noCreate rfl
      · exact ho.noTask rfl
    simp [hno]
  · rw [hlog, logCall, createsTask_cons, hx.created]
    simp [ho.noTask]

theorem triple_neutral {α : Type} {p : WifiProg α} (hp : p.All Neutral) :
    Triple loggedMachine t KeepsStart (At w q f d) p fun _ => At w q f d :=
  triple_frame stable_at (hp.mono fun _ ho _ _ _ _ hs he => exec_neutral ho he hs)

theorem neutral_driver {c : DriverCall} (h : driver c ∉ startWifiChecks) : Neutral (driver c) where
  working := by cases c <;> simp [writes, DriverCall.writes]
  noCreate := by simp
  noDelete := by simp
  noTask := by simp
  noCheck := h

instance : DecidablePred Neutral := fun o =>
  decidable_of_iff (.bit .isWorking ∉ o.writes ∧ o ≠ xQueueCreate ∧ o ≠ vQueueDelete ∧
      o ≠ osTaskCreateManager ∧ o ∉ startWifiChecks)
    ⟨fun ⟨h₁, h₂, h₃, h₄, h₅⟩ => ⟨h₁, h₂, h₃, h₄, h₅⟩,
      fun ⟨h₁, h₂, h₃, h₄, h₅⟩ => ⟨h₁, h₂, h₃, h₄, h₅⟩⟩

theorem reconnect_neutral : wifiManagerReconnectSta.All Neutral := by
  have hconfig : Neutral wifimanConfigStaGet := by decide
  have hset : Neutral (xEventGroupSetBits [.cmdStaConnect]) := by decide
  have hsend : ∀ msg, Neutral (xQueueSend msg .portMaxDelay) := fun _ => of_decide_eq_true rfl
  have hnull : Neutral isMsgQueueNull := by decide
  have hlock : Neutral wifiManagerLock ∧ Neutral wifiManagerUnlock := by decide
  unfold Prog.All
  simp [wifiManagerReconnectSta, wifimanConfigStaIsSsidConfigured, wifimanConfigStaGetSsid,
    wifimanMsgSendCmdConnectSta, wifimanMsgSend, wifimanMsgSendWithTimeout, Prog.perform,
    Prog.fold_call, Prog.fold_return, hconfig, hset, hsend, hnull, hlock]

/-- A checked call of the driver: the start goes on with what follows, or it has failed. -/
theorem triple_checked {c : DriverCall} {rest : WifiProg Bool} (hc : driver c ∈ startWifiChecks)
    (hrest : Triple loggedMachine t KeepsStart (At w q False False) rest
      fun ok => At w (ok = true) (ok = false) (ok = true)) :
    Triple loggedMachine t KeepsStart (At w q False False) (do
      let err ← call (driver c)
      if err ≠ espOk then
        return false
      rest) fun ok => At w (ok = true) (ok = false) (ok = true) := by
  refine triple_perform (S := fun err => At w q (err ≠ espOk) False) stable_at ?_ fun err => ?_
  · intro x a err x' hx h
    obtain ⟨he, hlog⟩ := exec_withGhost h
    obtain ⟨rfl, hs⟩ := Prod.mk.inj (Option.some.inj he)
    have hwork : x'.1.eventBits .isWorking = x.1.eventBits .isWorking := by rw [← hs]
    have hqueue : x'.1.msgQueue = x.1.msgQueue := by rw [← hs]
    refine ⟨hwork.trans hx.working, fun hq => ?_, ?_, ?_⟩
    · rw [hqueue]
      exact hx.queue hq
    · rw [hlog, logCall, anyFails_cons, hx.failed]
      simp [FailsStartWifi, hc]
    · rw [hlog, logCall, createsTask_cons, hx.created]
      simp
  · by_cases herr : err = espOk
    · rw [if_neg (not_not.mpr herr)]
      intro x ok x' hx hrun
      have hx' : At w q False False x := by simpa [herr] using hx
      exact hrest x ok x' hx' hrun
    · rw [if_pos herr]
      refine triple_pure stable_at fun x hx => ?_
      exact ⟨hx.working, by simp, by simpa [herr] using hx.failed, by simpa using hx.created⟩

theorem configure_neutral : wifiManagerNetifSetDefaultIp.All Neutral ∧
    wifiManagerEspWifiConfigureAp.All Neutral ∧ wifiManagerNetifConfigureSta.All Neutral := by
  have hconfig : Neutral wifimanConfigStaGet := by decide
  have hdhcpc : Neutral espNetifDhcpcGetStatus := by decide
  have hdriver : ∀ c, driver c ∉ startWifiChecks → Neutral (driver c) := fun c => neutral_driver
  refine ⟨?_, ?_, ?_⟩
  all_goals
    unfold Prog.All
    simp [wifiManagerNetifSetDefaultIp, wifiManagerEspWifiConfigureAp, wifiManagerNetifConfigureSta,
      Prog.perform, Prog.fold_call, Prog.fold_return, hconfig, hdhcpc, hdriver, startWifiChecks]

theorem triple_createQueue :
    Triple loggedMachine t KeepsStart (At w False False False) wifimanMsgInit
      fun created => At w (created = true) (created = false) False := by
  refine triple_call stable_at ?_ fun _ => triple_pure stable_at fun _ hx => hx
  intro x c created x' hx h
  obtain ⟨he, hlog⟩ := exec_withGhost h
  have hcreated : created = c.success ∧ (created = true → x'.1.msgQueue.isSome = true) := by
    simp only [machine, exec] at he
    split at he <;> rename_i hsuccess
    · obtain ⟨rfl, hs⟩ := Prod.mk.inj (Option.some.inj he)
      rw [← hs]
      exact ⟨hsuccess.symm, fun _ => rfl⟩
    · obtain ⟨rfl, hs⟩ := Prod.mk.inj (Option.some.inj he)
      exact ⟨by simpa using hsuccess, by simp⟩
  have hwork : x'.1.eventBits .isWorking = x.1.eventBits .isWorking :=
    (logged_agree (f := .bit .isWorking) h (by simp [writes])).1
  refine ⟨hwork.trans hx.working, hcreated.2, ?_, ?_⟩
  · rw [hlog, logCall, anyFails_cons, hx.failed, hcreated.1]
    simp [FailsStartWifi, startWifiChecks]
  · rw [hlog, logCall, createsTask_cons, hx.created]
    simp

theorem triple_createTask :
    Triple loggedMachine t KeepsStart (At w True False False) (do
      let created ← call osTaskCreateManager
      return created)
      fun created => At w (created = true) (created = false) (created = true) := by
  refine triple_call stable_at ?_ fun _ => triple_pure stable_at fun _ hx => hx
  intro x c created x' hx h
  obtain ⟨he, hlog⟩ := exec_withGhost h
  have hcreated : created = c.success := by
    simp only [machine, exec] at he
    split at he <;> rename_i hsuccess
    · obtain ⟨rfl, -⟩ := Prod.mk.inj (Option.some.inj he)
      exact hsuccess.symm
    · obtain ⟨rfl, -⟩ := Prod.mk.inj (Option.some.inj he)
      simpa using hsuccess
  have hwork : x'.1.eventBits .isWorking = x.1.eventBits .isWorking :=
    (logged_agree (f := .bit .isWorking) h (by simp [writes])).1
  have hqueue : x'.1.msgQueue = x.1.msgQueue :=
    (logged_agree (f := .msgQueue) h (by simp [writes])).1
  refine ⟨hwork.trans hx.working, fun _ => ?_, ?_, ?_⟩
  · rw [hqueue]
    exact hx.queue trivial
  · rw [hlog, logCall, anyFails_cons, hx.failed, hcreated]
    simp [FailsStartWifi, startWifiChecks]
  · rw [hlog, logCall, createsTask_cons, hx.created, hcreated]
    simp

/-- It returns true when none of its calls has failed, and then the queue and the task exist. -/
theorem triple_initStartWifi :
    Triple loggedMachine t KeepsStart (At w False False False) wifiManagerInitStartWifi
      fun ok => At w (ok = true) (ok = false) (ok = true) := by
  refine triple_bind triple_createQueue fun created => ?_
  cases created with
  | false =>
    exact triple_pure stable_at fun x hx =>
      ⟨hx.working, by simp, by simpa using hx.failed, by simpa using hx.created⟩
  | true =>
    refine Triple.weaken (P := At w True False False) ?_ (fun x hx => by simpa using hx)
      fun _ _ hx => hx
    refine triple_checked (by decide) ?_
    refine triple_checked (by decide) ?_
    refine triple_checked (by decide) ?_
    refine triple_checked (by decide) ?_
    refine triple_checked (by decide) ?_
    refine triple_bind (triple_neutral configure_neutral.1) fun _ => ?_
    refine triple_bind (triple_neutral configure_neutral.2.1) fun _ => ?_
    refine triple_bind (triple_neutral configure_neutral.2.2) fun _ => ?_
    refine triple_checked (by decide) ?_
    refine triple_checked (by decide) ?_
    exact triple_checked (by decide) triple_createTask

/-- `wifi_manager_init` returns false before any call of `wifi_manager_init_start_wifi`, and true
only for a manager that did not work before, whatever `wifi_manager_init_start_wifi` returned. -/
def AfterInit (w : Bool) (result : Bool) (x : WifiState × CallLog) : Prop :=
  if result then w = false ∧ ∃ ok : Bool, At true (ok = true) (ok = false) (ok = true) x
  else ∃ v, At v False False False x

theorem stable_afterInit (w result : Bool) : Stable KeepsStart (AfterInit w result) := by
  intro x y hkeeps hx
  cases result with
  | false =>
    obtain ⟨v, hx⟩ := hx
    exact ⟨v, stable_at _ _ hkeeps hx⟩
  | true =>
    obtain ⟨hw, ok, hx⟩ := hx
    exact ⟨hw, ok, stable_at _ _ hkeeps hx⟩

theorem exec_setWorking (h : loggedMachine.exec t o c x = some (r, x'))
    {mask : List EventBit} (ho : o = xEventGroupSetBits mask) (hmask : .isWorking ∈ mask)
    (hx : At w q f d x) : At true q f d x' := by
  subst ho
  obtain ⟨he, hlog⟩ := exec_withGhost h
  have hqueue : x'.1.msgQueue = x.1.msgQueue :=
    (logged_agree (f := .msgQueue) h (by simp [writes])).1
  refine ⟨bit_of_set (t := t) (c := c) he hmask, fun hq => ?_, ?_, ?_⟩
  · rw [hqueue]
    exact hx.queue hq
  · rw [hlog, logCall, anyFails_cons, hx.failed]
    simp [FailsStartWifi, startWifiChecks]
  · rw [hlog, logCall, createsTask_cons, hx.created]
    simp

/-- A call of the driver after whose failure `wifi_manager_init` returns false. -/
theorem triple_required {c : DriverCall} {rest : WifiProg Bool} (hc : driver c ∉ startWifiChecks)
    (hrest : Triple loggedMachine t KeepsStart (At true False False False) rest (AfterInit w)) :
    Triple loggedMachine t KeepsStart (At true False False False) (do
      let err ← call (driver c)
      if err ≠ espOk then
        return false
      rest) (AfterInit w) := by
  refine triple_perform (S := fun _ => At true False False False) stable_at ?_ fun err => ?_
  · intro x a err x' hx h
    exact exec_neutral (neutral_driver hc) h hx
  · by_cases herr : err = espOk
    · rw [if_neg (not_not.mpr herr)]
      exact hrest
    · rw [if_pos herr]
      exact triple_pure stable_at fun x hx => ⟨true, hx⟩

theorem triple_isWorking :
    Triple loggedMachine t KeepsStart (At w False False False) wifiManagerIsWorking
      fun working x => working = w ∧ At w False False False x := by
  have hread : Neutral xEventGroupGetBits := by decide
  refine triple_call (S := fun bits x => bits .isWorking = w ∧ At w False False False x) stable_at
    ?_ fun bits => ?_
  · intro x c bits x' hx h
    have hx' := exec_neutral hread h hx
    obtain ⟨rfl, -⟩ := Prod.mk.inj (Option.some.inj (exec_withGhost h).1)
    exact ⟨hx.working, hx'⟩
  · exact triple_pure (fun x y hkeeps hx => ⟨hx.1, stable_at _ _ hkeeps hx.2⟩) fun _ hx => hx

/-- `wifi_manager_init` once it has found that the manager does not work. -/
theorem triple_initRun (flagConnectSta : Bool) (cfg : WifimanConfigSta) :
    Triple loggedMachine t KeepsStart (At false False False False) (do
      let _ ← call (xEventGroupSetBits [.isWorking])
      call (wifimanConfigInit cfg)
      call jsonNetworkInfoClear
      call staIpSafeReset
      let err ← call (driver .espEventLoopCreateDefault)
      if err ≠ espOk then
        return false
      let err ← call (driver .espNetifCreateDefault)
      if err ≠ espOk then
        return false
      let err ← call (driver .espNetifCreateDefault)
      if err ≠ espOk then
        return false
      call dnsServerInit
      call httpServerInit
      call httpServerStart
      let _ ← wifiManagerInitStartWifi
      if flagConnectSta then
        let _ ← call (xEventGroupSetBits [.initialConnection])
        wifiManagerReconnectSta
      return true) (AfterInit false) := by
  refine triple_perform (S := fun _ => At true False False False) stable_at ?_ fun _ => ?_
  · intro x c bits x' hx h
    exact exec_setWorking h rfl (by simp) hx
  refine triple_bind (triple_neutral (.perform (of_decide_eq_true rfl))) fun _ => ?_
  refine triple_bind (triple_neutral (.perform (of_decide_eq_true rfl))) fun _ => ?_
  refine triple_bind (triple_neutral (.perform (of_decide_eq_true rfl))) fun _ => ?_
  refine triple_required (by decide) ?_
  refine triple_required (by decide) ?_
  refine triple_required (by decide) ?_
  refine triple_bind (triple_neutral (.perform (of_decide_eq_true rfl))) fun _ => ?_
  refine triple_bind (triple_neutral (.perform (of_decide_eq_true rfl))) fun _ => ?_
  refine triple_bind (triple_neutral (.perform (of_decide_eq_true rfl))) fun _ => ?_
  refine triple_bind triple_initStartWifi fun ok => ?_
  have hend : ∀ x, At true (ok = true) (ok = false) (ok = true) x → AfterInit false true x :=
    fun x hx => ⟨rfl, ok, hx⟩
  split
  · refine triple_bind (triple_neutral (.perform (of_decide_eq_true rfl))) fun _ => ?_
    exact triple_bind (triple_neutral reconnect_neutral) fun _ => triple_pure stable_at hend
  · exact triple_pure stable_at hend

theorem triple_init (flagConnectSta : Bool) (cfg : WifimanConfigSta) :
    Triple loggedMachine t KeepsStart (At w False False False) (wifiManagerInit flagConnectSta cfg)
      (AfterInit w) := by
  refine triple_bind triple_isWorking fun working => ?_
  cases working with
  | true =>
    rw [if_pos rfl]
    exact triple_pure (fun x y hkeeps hx => ⟨hx.1, stable_at _ _ hkeeps hx.2⟩) fun x hx => ⟨w, hx.2⟩
  | false =>
    rw [if_neg (by simp)]
    by_cases hw : w = false
    · subst hw
      refine Triple.weaken (P := At false False False False) ?_ (fun x hx => hx.2) fun _ _ hx => hx
      exact triple_initRun flagConnectSta cfg
    · rintro x a x' ⟨hworking, -⟩ -
      exact absurd hworking.symm hw

/-- Whatever has failed before it, a start that fails has cleared `IS_WORKING`. -/
def AfterStart (w : Bool) (result : Bool) (x : WifiState × CallLog) : Prop :=
  if result then w = false ∧ ∃ ok : Bool, At true (ok = true) (ok = false) (ok = true) x
  else At false False False False x

/-- What the caller of a failed step does. -/
theorem triple_giveUp {v : Bool} :
    Triple loggedMachine t KeepsStart (At v False False False) (do
      let _ ← call (xEventGroupClearBits [.isWorking])
      call wifiManagerUnlock
      return false) (AfterStart w) := by
  refine triple_perform (S := fun _ => At false False False False) stable_at ?_ fun _ => ?_
  · intro x c bits x' hx h
    obtain ⟨he, hlog⟩ := exec_withGhost h
    refine ⟨bit_of_clear (t := t) (c := c) he (by simp), by simp, ?_, ?_⟩
    · rw [hlog, logCall, anyFails_cons, hx.failed]
      simp [FailsStartWifi, startWifiChecks]
    · rw [hlog, logCall, createsTask_cons, hx.created]
      simp
  · refine triple_bind (triple_neutral (.perform (of_decide_eq_true rfl))) fun _ => ?_
    exact triple_pure stable_at fun _ hx => hx

theorem triple_start (flagConnectSta : Bool) (cfg : WifimanConfigSta) :
    Triple loggedMachine t KeepsStart (At w False False False) (wifiManagerStart flagConnectSta cfg)
      (AfterStart w) := by
  refine triple_bind (triple_neutral (.perform (of_decide_eq_true rfl))) fun _ => ?_
  refine triple_bind (triple_neutral (.perform (of_decide_eq_true rfl))) fun initialized => ?_
  cases initialized with
  | false =>
    rw [if_pos (by simp)]
    exact triple_giveUp
  | true =>
    rw [if_neg (by simp)]
    refine triple_bind (triple_init flagConnectSta cfg) fun initialized => ?_
    cases initialized with
    | false =>
      rw [if_pos (by simp)]
      rintro x result x' ⟨v, hx⟩ hrun
      exact triple_giveUp x result x' hx hrun
    | true =>
      rw [if_neg (by simp)]
      rintro x result x' ⟨hw, ok, hx⟩ hrun
      have hend : Triple loggedMachine t KeepsStart (At true (ok = true) (ok = false) (ok = true)) (do
          call wifiManagerUnlock
          return true) (AfterStart w) := by
        refine triple_bind (triple_neutral (.perform (of_decide_eq_true rfl))) fun _ => ?_
        exact triple_pure stable_at fun x hx => ⟨hw, ok, hx⟩
      exact hend x result x' hx hrun

/-- Nothing has been called yet. -/
theorem at_start (s : WifiState) : At (s.eventBits .isWorking) False False False (s, []) :=
  ⟨rfl, by simp, by simp [AnyFails], by simp [CreatesTask]⟩

end Start

/-- A start is all or nothing exactly when the manager did not work before and no call of
`wifi_manager_init_start_wifi` fails: the result of that function is not looked at, and a start that
finds the manager working clears `IS_WORKING`. -/
theorem start_all_or_nothing_iff {t : TaskId} {flagConnectSta : Bool} {cfg : WifimanConfigSta}
    {s : WifiState} {result : Bool} {x : WifiState × CallLog}
    (h : Runs loggedMachine t KeepsStart (wifiManagerStart flagConnectSta cfg) (s, []) result x) :
    AllOrNothing s result x ↔ s.eventBits .isWorking = false ∧ ¬ AnyFails x.2 := by
  have hend := Start.triple_start flagConnectSta cfg _ _ _ (Start.at_start s) h
  cases result with
  | false =>
    have hx : Start.At false False False False x := hend
    constructor
    · intro hall
      have hkept := hall.fails rfl
      rw [hx.working] at hkept
      exact ⟨hkept.symm, hx.failed.mp⟩
    · rintro ⟨hs, -⟩
      exact ⟨by simp, fun _ => hx.working.trans hs.symm⟩
  | true =>
    obtain ⟨hs, ok, hx⟩ : s.eventBits .isWorking = false ∧
      ∃ ok : Bool, Start.At true (ok = true) (ok = false) (ok = true) x := hend
    constructor
    · intro hall
      have hok := hx.created.mp (hall.succeeds rfl).1
      exact ⟨hs, fun hfailed => absurd (hx.failed.mp hfailed) (by simp [hok])⟩
    · rintro ⟨-, hfailed⟩
      have hok : ok = true := by
        by_contra hne
        exact hfailed (hx.failed.mpr (by simpa using hne))
      exact ⟨fun _ => ⟨hx.created.mpr hok, hx.queue hok, hx.working⟩, by simp⟩

theorem not_anyFails {log : CallLog}
    (h : log.all (fun y => decide (y.2.err = espOk) && y.2.success) = true) : ¬ AnyFails log := by
  rintro ⟨o, c, hmem, hfails⟩
  have hok := List.all_eq_true.mp h _ hmem
  simp only [Bool.and_eq_true, decide_eq_true_eq] at hok
  rcases hfails with ⟨-, herr⟩ | ⟨-, hsuccess⟩
  · exact herr hok.1
  · exact absurd (hok.2.symm.trans hsuccess) (by simp)

/-- The first start, in which nothing fails. -/
theorem start_all_or_nothing_first : ∃ x,
    Runs loggedMachine (.client 0) KeepsStart (wifiManagerStart true homeConfig) (.zero, []) true x ∧
      AllOrNothing .zero true x := by
  have heval : ((wifiManagerStart true homeConfig).eval loggedMachine (.client 0)
      (List.replicate 50 .ok) (.zero, [])).any (fun y => y.1 &&
        y.2.2.all fun z => decide (z.2.err = espOk) && z.2.success) = true := by
    decide +kernel
  obtain ⟨⟨result, x⟩, heq, hany⟩ := (Option.any_eq_true _ _).mp heval
  obtain ⟨hresult, hlog⟩ := Bool.and_eq_true_iff.mp hany
  obtain rfl : result = true := hresult
  have hrun := runs_of_eval (R := KeepsStart) heq
  exact ⟨x, hrun, (start_all_or_nothing_iff hrun).mpr ⟨rfl, not_anyFails hlog⟩⟩

/-- A manager that works is not reported as working any more once it has been started again. -/
theorem start_not_all_or_nothing : ¬ ∀ (t : TaskId) (flagConnectSta : Bool) (cfg : WifimanConfigSta)
    (s : WifiState) (result : Bool) (x : WifiState × CallLog),
    Runs loggedMachine t KeepsStart (wifiManagerStart flagConnectSta cfg) (s, []) result x →
      AllOrNothing s result x := by
  intro hclaim
  have heval : ((wifiManagerStart false homeConfig).eval loggedMachine (.client 0)
      (List.replicate 5 .ok) (.started false homeConfig, [])).any (fun y => !y.1 &&
        !y.2.1.eventBits .isWorking) = true := by
    decide +kernel
  obtain ⟨⟨result, x⟩, heq, hany⟩ := (Option.any_eq_true _ _).mp heval
  simp only [Bool.and_eq_true, Bool.not_eq_true'] at hany
  obtain ⟨rfl, hwork⟩ := hany
  have hkept := (hclaim _ _ _ _ _ _ (runs_of_eval heq)).fails rfl
  exact absurd (hwork.symm.trans hkept) (by decide)

end WifiManager
end Esp32WifiManager
