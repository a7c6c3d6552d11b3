import Esp32WifiManager.WifiManager.Credentials
import Mathlib.Data.List.Count

/-!
# The end of a successful WPS

The handler of the event copies the credentials into a temporary buffer, from
the event or from the configuration of the driver, and ends with a test of the
configuration. The program here also gives the buffer back; without these calls
it is the program of the manager.
-/

namespace Esp32WifiManager
namespace WifiManager
namespace WpsSuccess

open CString TaskSystem WifiCall

/-! ### The handler with its buffer -/

/-- The calls of the handler. -/
inductive WpsCall
  | wifi (o : WifiCall)
  | osFree
  deriving DecidableEq

@[reducible] def WpsCall.Ret : WpsCall → Type
  | .wifi o => o.Ret
  | .osFree => Unit

abbrev WpsProg := Prog WpsCall WpsCall.Ret

/-- A program of the manager. -/
def lift {α : Type} : WifiProg α → WpsProg α
  | .pure a => .pure a
  | .call o k => .call (.wifi o) fun r => lift (k r)

/-- The program without the calls that free memory. -/
def erase {α : Type} : WpsProg α → WifiProg α
  | .pure a => .pure a
  | .call (.wifi o) k => .call o fun r => erase (k r)
  | .call .osFree k => erase (k ())

abbrev wifi (o : WifiCall) : WpsProg o.Ret := Prog.perform (WpsCall.wifi o)

abbrev osFree : WpsProg Unit := Prog.perform WpsCall.osFree

/-- The common end of both forms of the event. -/
def wifiManagerWpsConnect (conf : WifiStaConfig) (ssid : CharBuf 32) (password : CharBuf 64) :
    WpsProg Unit := do
  if !(CharBuf.isEmpty conf.ssid) then
    wifi (wifimanConfigStaSetSsidAndPassword ssid (some password))
    osFree
    lift wifiManagerConnectAsyncByWps

def wifiManagerEventHandlerOnWpsErSuccess (evt : Option WpsErSuccess) : WpsProg Unit := do
  let _ ← wifi (driver .espWifiWpsDisable)
  wifi (setWpsEnabled false)
  wifi (callback .onWpsStopped)
  let allocated ← wifi osCalloc
  if !allocated then
    return
  match evt with
  | some evt =>
    if evt.apCredCnt = 0 then
      osFree
      return
    -- `conf` is as `os_calloc` has left it
    wifiManagerWpsConnect ⟨CharBuf.zero 32, CharBuf.zero 64⟩ (CharBuf.ofStr 32 evt.ssid)
      (CharBuf.ofStr 64 evt.passphrase)
  | none =>
    let (err, conf) ← wifi espWifiGetConfigSta
    if err ≠ espOk then
      osFree
      return
    wifiManagerWpsConnect conf (CharBuf.ofStr 32 conf.ssid.str) (CharBuf.ofStr 64 conf.password.str)

section Erase

variable {α β : Type}

@[simp] theorem erase_pure (a : α) : erase (Pure.pure a : WpsProg α) = Pure.pure a := rfl

@[simp] theorem erase_bind (p : WpsProg α) (f : α → WpsProg β) :
    erase (p >>= f) = erase p >>= fun a => erase (f a) := by
  induction p with
  | pure a => rfl
  | call o k ih =>
    cases o with
    | wifi o => exact congrArg (Prog.call o) (funext fun r => ih r)
    | osFree => exact ih ()

@[simp] theorem erase_lift (p : WifiProg α) : erase (lift p) = p := by
  induction p with
  | pure a => rfl
  | call o k ih => exact congrArg (Prog.call o) (funext fun r => ih r)

@[simp] theorem erase_ite (c : Prop) [Decidable c] (p q : WpsProg α) :
    erase (if c then p else q) = if c then erase p else erase q :=
  apply_ite _ _ _ _

/-- Without its frees the handler is the one that the manager runs. -/
theorem erase_handler (evt : Option WpsErSuccess) :
    erase (wifiManagerEventHandlerOnWpsErSuccess evt) =
      WifiManager.wifiManagerEventHandlerOnWpsErSuccess evt := by
  have hconnect (conf : WifiStaConfig) (ssid : CharBuf 32) (password : CharBuf 64) :
      erase (wifiManagerWpsConnect conf ssid password) =
        WifiManager.wifiManagerWpsConnect conf ssid password := by
    unfold wifiManagerWpsConnect WifiManager.wifiManagerWpsConnect
    simp only [erase_ite, erase_bind, erase_lift]
    rfl
  unfold wifiManagerEventHandlerOnWpsErSuccess WifiManager.wifiManagerEventHandlerOnWpsErSuccess
  cases evt with
  | none =>
    simp only [erase_bind, erase_ite, erase_pure, hconnect]
    rfl
  | some evt =>
    simp only [erase_bind, erase_ite, erase_pure, hconnect]
    rfl

end Erase

/-! ### What the handler has to do -/

/-- The calls of the manager among the calls of the handler. -/
def managerCalls (calls : List WpsCall) : List WifiCall :=
  calls.filterMap fun o =>
    match o with
    | .wifi o => some o
    | .osFree => none

section Outcome

variable (evt : Option WpsErSuccess) (ans : (o : WpsCall) → o.Ret)

/-- The credentials that come with the event or, without event data, from the driver. -/
def Received (ssid password : Bytes) : Prop :=
  match evt with
  | some evt => 1 ≤ evt.apCredCnt ∧ evt.ssid = ssid ∧ evt.passphrase = password
  | none =>
    (ans (.wifi espWifiGetConfigSta)).1 = espOk ∧
      (ans (.wifi espWifiGetConfigSta)).2.Holds ssid password

/-- The credentials are stored and connected to, and the buffer is given back. -/
structure Connects (calls : List WpsCall) : Prop where
  stored : ans (.wifi osCalloc) = true → ∀ ssid password, Received evt ans ssid password →
    ssid ≠ [] → ∀ cfg, (configAfter (managerCalls calls) cfg).wifiConfigSta.Holds ssid password
  ordered : ans (.wifi osCalloc) = true → ∀ ssid password, Received evt ans ssid password →
    ssid ≠ [] → ans (.wifi isMsgQueueNull) = false →
    calls.count (.wifi (xQueueSend (.orderConnectSta .wps) .portMaxDelay)) = 1
  freed : calls.count .osFree = if ans (.wifi osCalloc) then 1 else 0

/-- There is no buffer, or the handler gives it back and leaves, or the driver has credentials that
are shorter than their arrays. -/
def Usable : Prop :=
  ans (.wifi osCalloc) = true →
    match evt with
    | some evt => evt.apCredCnt = 0
    | none =>
      (ans (.wifi espWifiGetConfigSta)).1 = espOk →
        (ans (.wifi espWifiGetConfigSta)).2.ssid.str ≠ [] ∧
          (ans (.wifi espWifiGetConfigSta)).2.ssid.str.length < 32 ∧
          (ans (.wifi espWifiGetConfigSta)).2.password.str.length < 64

end Outcome

section Trace

variable {evt : Option WpsErSuccess} {ans : (o : WpsCall) → o.Ret}

/-- The calls before the outcome of the allocation. -/
def firstCalls : List WpsCall :=
  [.wifi (driver .espWifiWpsDisable), .wifi (setWpsEnabled false), .wifi (callback .onWpsStopped),
    .wifi osCalloc]

theorem trace_lift {α : Type} (p : WifiProg α) :
    (lift p).trace ans = (p.trace fun o => ans (.wifi o)).map WpsCall.wifi := by
  induction p with
  | pure a => rfl
  | call o k ih => exact congrArg (WpsCall.wifi o :: ·) (ih (ans (.wifi o)))

theorem trace_noMemory (h : ans (.wifi osCalloc) = false) :
    (wifiManagerEventHandlerOnWpsErSuccess evt).trace ans = firstCalls := by
  simp only [wifiManagerEventHandlerOnWpsErSuccess, Prog.trace_bind, Prog.trace_perform,
    Prog.value_perform, h]
  rfl

theorem trace_noCredentials {evt : WpsErSuccess} (h : ans (.wifi osCalloc) = true)
    (hcnt : evt.apCredCnt = 0) :
    (wifiManagerEventHandlerOnWpsErSuccess (some evt)).trace ans = firstCalls ++ [.osFree] := by
  simp only [wifiManagerEventHandlerOnWpsErSuccess, Prog.trace_bind, Prog.trace_perform,
    Prog.value_perform, h, hcnt, if_true]
  rfl

/-- The credentials of the event are copied, and nothing is done with them. -/
theorem trace_credentials {evt : WpsErSuccess} (h : ans (.wifi osCalloc) = true)
    (hcnt : evt.apCredCnt ≠ 0) :
    (wifiManagerEventHandlerOnWpsErSuccess (some evt)).trace ans = firstCalls := by
  simp only [wifiManagerEventHandlerOnWpsErSuccess, Prog.trace_bind, Prog.trace_perform,
    Prog.value_perform, h, hcnt, if_false]
  rfl

theorem trace_noConfig (h : ans (.wifi osCalloc) = true)
    (herr : (ans (.wifi espWifiGetConfigSta)).1 ≠ espOk) :
    (wifiManagerEventHandlerOnWpsErSuccess none).trace ans =
      firstCalls ++ [.wifi espWifiGetConfigSta, .osFree] := by
  simp only [wifiManagerEventHandlerOnWpsErSuccess, Prog.trace_bind, Prog.trace_perform,
    Prog.value_perform, Prog.trace_ite, h, herr, ne_eq, not_false_iff, if_true]
  rfl

theorem trace_emptySsid (h : ans (.wifi osCalloc) = true)
    (herr : (ans (.wifi espWifiGetConfigSta)).1 = espOk)
    (hssid : (ans (.wifi espWifiGetConfigSta)).2.ssid.str = []) :
    (wifiManagerEventHandlerOnWpsErSuccess none).trace ans =
      firstCalls ++ [.wifi espWifiGetConfigSta] := by
  have hempty : CharBuf.isEmpty (ans (.wifi espWifiGetConfigSta)).2.ssid = true :=
    CharBuf.isEmpty_iff.mpr hssid
  simp only [wifiManagerEventHandlerOnWpsErSuccess, wifiManagerWpsConnect, Prog.trace_bind,
    Prog.trace_perform, Prog.value_perform, Prog.trace_ite, h, herr, ne_eq, not_true, if_false, hempty]
  rfl

/-- The only way that comes to the connect order. -/
theorem trace_connect (h : ans (.wifi osCalloc) = true) {sta : WifiStaConfig}
    (hconf : ans (.wifi espWifiGetConfigSta) = (espOk, sta)) (hssid : sta.ssid.str ≠ []) :
    (wifiManagerEventHandlerOnWpsErSuccess none).trace ans =
      firstCalls ++ .wifi espWifiGetConfigSta ::
        .wifi (wifimanConfigStaSetSsidAndPassword (.ofStr 32 sta.ssid.str)
          (some (.ofStr 64 sta.password.str))) :: .osFree ::
        (wifiManagerConnectAsyncByWps.trace fun o => ans (.wifi o)).map WpsCall.wifi := by
  have hempty : CharBuf.isEmpty sta.ssid = false := by
    rw [← Bool.not_eq_true, CharBuf.isEmpty_iff]
    exact hssid
  simp only [wifiManagerEventHandlerOnWpsErSuccess, wifiManagerWpsConnect, Prog.trace_bind,
    Prog.trace_perform, Prog.value_perform, Prog.trace_ite, h, hconf, ne_eq, not_true, if_false, hempty,
    trace_lift]
  rfl

theorem managerCalls_map (calls : List WifiCall) :
    managerCalls (calls.map WpsCall.wifi) = calls := by
  unfold managerCalls
  rw [List.filterMap_map]
  exact List.filterMap_some

theorem osFree_notMem_map (calls : List WifiCall) : WpsCall.osFree ∉ calls.map WpsCall.wifi := by
  simp

theorem configAfter_connectAsyncByWps {ans : (o : WifiCall) → o.Ret} {cfg : WifimanConfigSta} :
    configAfter (wifiManagerConnectAsyncByWps.trace ans) cfg = cfg := by
  simp only [wifiManagerConnectAsyncByWps, wifimanMsgSendCmdConnectSta, wifimanMsgSend,
    wifimanMsgSendWithTimeout, call, Prog.trace_bind, Prog.trace_perform, Prog.trace_pure,
    Prog.trace_ite]
  split <;> rfl

/-- One order, where there is a queue for it. -/
theorem connectAsyncByWps_orders {ans : (o : WifiCall) → o.Ret} (h : ans isMsgQueueNull = false) :
    (wifiManagerConnectAsyncByWps.trace ans).count
      (xQueueSend (.orderConnectSta .wps) .portMaxDelay) = 1 := by
  simp only [wifiManagerConnectAsyncByWps, wifimanMsgSendCmdConnectSta, wifimanMsgSend,
    wifimanMsgSendWithTimeout, call, Prog.trace_bind, Prog.trace_perform, Prog.trace_pure,
    Prog.trace_ite, Prog.value_perform, h]
  decide

/-- What is stored on the way to the connect order. -/
theorem configAfter_connect {sta : WifiStaConfig} {cfg : WifimanConfigSta} :
    (configAfter (managerCalls (firstCalls ++ .wifi espWifiGetConfigSta ::
        .wifi (wifimanConfigStaSetSsidAndPassword (.ofStr 32 sta.ssid.str)
          (some (.ofStr 64 sta.password.str))) :: .osFree ::
        (wifiManagerConnectAsyncByWps.trace fun o => ans (.wifi o)).map WpsCall.wifi))
      cfg).wifiConfigSta =
      wifimanConfigStaDoSetSsidAndPassword (.ofStr 32 sta.ssid.str)
        (some (.ofStr 64 sta.password.str)) := by
  have hcalls : managerCalls (firstCalls ++ .wifi espWifiGetConfigSta ::
      .wifi (wifimanConfigStaSetSsidAndPassword (.ofStr 32 sta.ssid.str)
        (some (.ofStr 64 sta.password.str))) :: .osFree ::
      (wifiManagerConnectAsyncByWps.trace fun o => ans (.wifi o)).map WpsCall.wifi) =
      driver .espWifiWpsDisable :: setWpsEnabled false :: callback .onWpsStopped :: osCalloc ::
        espWifiGetConfigSta :: wifimanConfigStaSetSsidAndPassword (.ofStr 32 sta.ssid.str)
          (some (.ofStr 64 sta.password.str)) ::
        managerCalls ((wifiManagerConnectAsyncByWps.trace fun o => ans (.wifi o)).map
          WpsCall.wifi) := rfl
  rw [hcalls, managerCalls_map]
  simp only [configAfter_cons, WifiCall.configEffect, configAfter_connectAsyncByWps]

/-- The calls on the way to the connect order: one order, and one call that frees. -/
theorem connect_counts {sta : WifiStaConfig} {calls : List WifiCall} :
    (firstCalls ++ .wifi espWifiGetConfigSta ::
      .wifi (wifimanConfigStaSetSsidAndPassword (.ofStr 32 sta.ssid.str)
        (some (.ofStr 64 sta.password.str))) :: .osFree ::
      calls.map WpsCall.wifi).count .osFree = 1 ∧
    (firstCalls ++ .wifi espWifiGetConfigSta ::
      .wifi (wifimanConfigStaSetSsidAndPassword (.ofStr 32 sta.ssid.str)
        (some (.ofStr 64 sta.password.str))) :: .osFree ::
      calls.map WpsCall.wifi).count (.wifi (xQueueSend (.orderConnectSta .wps) .portMaxDelay)) =
      calls.count (xQueueSend (.orderConnectSta .wps) .portMaxDelay) := by
  have hfree : (calls.map WpsCall.wifi).count .osFree = 0 :=
    List.count_eq_zero.mpr (osFree_notMem_map calls)
  have hsend := List.count_map_of_injective calls WpsCall.wifi (fun _ _ => WpsCall.wifi.inj)
    (xQueueSend (.orderConnectSta .wps) .portMaxDelay)
  simp [firstCalls, hfree, hsend]

theorem connects_of_config {sta : WifiStaConfig} (halloc : ans (.wifi osCalloc) = true)
    (hconf : ans (.wifi espWifiGetConfigSta) = (espOk, sta)) (hssid : sta.ssid.str ≠ []) :
    Connects none ans ((wifiManagerEventHandlerOnWpsErSuccess none).trace ans) ↔
      Usable none ans := by
  rw [trace_connect halloc hconf hssid]
  have hset := holds_set_iff (nul_notMem_str sta.ssid) (nul_notMem_str sta.password)
  have hreceived (ssid password : Bytes) :
      Received none ans ssid password ↔ sta.Holds ssid password := by
    simp only [Received, hconf, true_and]
  have husable : Usable none ans ↔ sta.ssid.str.length < 32 ∧ sta.password.str.length < 64 := by
    simp only [Usable, halloc, hconf, true_imp_iff, hssid, ne_eq, not_false_iff, true_and]
  rw [husable]
  constructor
  · intro h
    have hstored := h.stored halloc _ _ ((hreceived _ _).mpr ⟨rfl, rfl⟩) hssid
      ⟨⟨.zero 32, .zero 64⟩, false⟩
    rw [configAfter_connect] at hstored
    exact hset.mp hstored
  · intro hfit
    refine ⟨?_, ?_, ?_⟩
    · intro _ ssid password hcredentials _ cfg
      obtain ⟨rfl, rfl⟩ := (hreceived _ _).mp hcredentials
      rw [configAfter_connect]
      exact hset.mpr hfit
    · intro _ ssid password _ _ hqueue
      rw [connect_counts.2]
      exact connectAsyncByWps_orders hqueue
    · rw [connect_counts.1, halloc]
      rfl

end Trace

/-- In every run of the handler the received credentials are stored and connected to, and the buffer
is given back once, exactly where they come from the driver and are shorter than their arrays, or
where there are none. -/
theorem wps_success_connects_iff (evt : Option WpsErSuccess) (ans : (o : WpsCall) → o.Ret) :
    Connects evt ans ((wifiManagerEventHandlerOnWpsErSuccess evt).trace ans) ↔ Usable evt ans := by
  cases halloc : ans (.wifi osCalloc) with
  | false =>
    rw [trace_noMemory halloc]
    have husable : Usable evt ans := fun h => absurd (halloc.symm.trans h) (by simp)
    refine iff_of_true ⟨fun h => ?_, fun h => ?_, ?_⟩ husable
    · exact absurd (halloc.symm.trans h) (by simp)
    · exact absurd (halloc.symm.trans h) (by simp)
    · rw [halloc]
      rfl
  | true =>
    cases evt with
    | some evt =>
      by_cases hcnt : evt.apCredCnt = 0
      · rw [trace_noCredentials halloc hcnt]
        refine iff_of_true ⟨?_, ?_, ?_⟩ fun _ => hcnt
        · rintro - ssid password ⟨hpos, -⟩
          omega
        · rintro - ssid password ⟨hpos, -⟩
          omega
        · rw [halloc]
          rfl
      · rw [trace_credentials halloc hcnt]
        refine iff_of_false (fun h => ?_) fun h => hcnt (h halloc)
        have hfreed := h.freed
        rw [halloc] at hfreed
        exact absurd hfreed (by decide)
    | none =>
      by_cases herr : (ans (.wifi espWifiGetConfigSta)).1 = espOk
      · by_cases hssid : (ans (.wifi espWifiGetConfigSta)).2.ssid.str = []
        · rw [trace_emptySsid halloc herr hssid]
          refine iff_of_false (fun h => ?_) fun h => (h halloc herr).1 hssid
          have hfreed := h.freed
          rw [halloc] at hfreed
          exact absurd hfreed (by decide)
        · exact connects_of_config halloc (Prod.ext herr rfl) hssid
      · rw [trace_noConfig halloc herr]
        refine iff_of_true ⟨?_, ?_, ?_⟩ fun _ h => absurd h herr
        · rintro - ssid password ⟨hok, -⟩
          exact absurd hok herr
        · rintro - ssid password ⟨hok, -⟩
          exact absurd hok herr
        · rw [halloc]
          rfl

/-! ### An event with credentials -/

instance (o : WifiCall) : Inhabited o.Ret := by
  cases o <;> first
    | infer_instance
    | exact ⟨EventBits.zero⟩
    | exact ⟨⟨0, 0, 0, 0⟩⟩
    | exact ⟨(espOk, wifiManagerWifiCountryDefault)⟩
    | exact ⟨(espOk, ⟨.zero 32, .zero 64⟩)⟩
    | exact ⟨(espOk, ⟨0, 0, 0⟩)⟩
    | exact ⟨⟨⟨.zero 32, .zero 64⟩, false⟩⟩

/-- The allocation succeeds. -/
def allocatedAnswers : (o : WpsCall) → o.Ret
  | .wifi .osCalloc => true
  | .wifi _ => default
  | .osFree => ()

def homeEvent : WpsErSuccess := ⟨1, ascii "home", ascii "secret"⟩

/-- One credential is received: nothing is stored or ordered, and the buffer stays allocated. -/
theorem wps_success_lost :
    (wifiManagerEventHandlerOnWpsErSuccess (some homeEvent)).trace allocatedAnswers = firstCalls ∧
      ¬ ∀ (evt : Option WpsErSuccess) (ans : (o : WpsCall) → o.Ret),
        Connects evt ans ((wifiManagerEventHandlerOnWpsErSuccess evt).trace ans) := by
  have htrace : (wifiManagerEventHandlerOnWpsErSuccess (some homeEvent)).trace allocatedAnswers =
      firstCalls := trace_credentials rfl (by decide)
  refine ⟨htrace, fun h => ?_⟩
  have hfreed := (h (some homeEvent) allocatedAnswers).freed
  rw [htrace] at hfreed
  exact absurd hfreed (by decide)

end WpsSuccess
end WifiManager
end Esp32WifiManager
