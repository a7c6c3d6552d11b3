import Esp32WifiManager.WifiManager.Deadlock
import Esp32WifiManager.WifiManager.Handlers

/-!
# The chain of scan steps

A scan goes from channel to channel: the timer expires, `EVENT_SCAN_NEXT` starts
the driver, the driver reports, and `EVENT_SCAN_DONE` starts the timer again.
`SCAN_BIT` tells that a scan is on its way, so that there is one chain only.
-/

namespace Esp32WifiManager
namespace WifiManager

open CString TaskSystem WifiCall

def QueueMessage.isScanStep (msg : QueueMessage) : Bool :=
  msg = .eventScanNext || msg = .eventScanDone

/-- The scan steps that are outstanding: the armed timer, the queued steps and the scan that the
driver has not reported yet. -/
def WifiState.numScanSteps (s : WifiState) : ℕ :=
  s.scanTimer.toNat + s.queued.countP QueueMessage.isScanStep + s.driver.scanning.toNat

/-- The call puts a scan step into the queue. -/
def PostsScanStep (o : WifiCall) : Prop :=
  ∃ msg timeout, msg.isScanStep = true ∧ o = xQueueSend msg timeout

/-- A step is outstanding, or a client is about to put one into the queue. -/
def ScanStepPending (cfg : WifiConfig) : Prop :=
  0 < cfg.shared.numScanSteps ∨ ¬ ClientsAll (fun o => ¬ PostsScanStep o) cfg

/-- The outstanding step is the only one and is guarded by `SCAN_BIT`, and while a step is pending
the handler of `ORDER_START_WIFI_SCAN` does nothing. -/
structure OneScanChain (cfg : WifiConfig) : Prop where
  guarded : 0 < cfg.shared.numScanSteps → cfg.shared.eventBits .scan = true
  single : cfg.shared.numScanSteps ≤ 1
  ignored : ∀ {c cfg'}, cfg.server.prog = wifiManagerTaskHandle .orderStartWifiScan →
    ScanStepPending cfg → Step machine cfg (.run .server c) cfg' →
      cfg'.server.prog.All (· = callback (.onMessage .orderStartWifiScan))

/-- The station-disconnected handler and the end of the task clear `SCAN_BIT` together with other
bits, whether or not a scan is on its way. They find no scan step, and the handler no client that
is about to post one. -/
def NoScanCut (cfg : WifiConfig) : WifiLabel → Prop
  | .run .server _ => ∀ mask, cfg.server.prog.next = some (xEventGroupClearBits mask) →
      .scan ∈ mask → mask ≠ [.scan] → cfg.shared.numScanSteps = 0 ∧
        (.isWorking ∉ mask → ClientsAll (fun o => ¬ PostsScanStep o) cfg)
  | _ => True

namespace ScanChain

/-- A call that may bring a further step. -/
def AddsScanStep (o : WifiCall) : Prop :=
  o = wifiManagerScanTimerStart ∨ (∃ channel, o = driver (.espWifiScanStart channel)) ∨
    PostsScanStep o

/-- A call that is not part of a scan. -/
def Aside (o : WifiCall) : Prop :=
  ¬ AddsScanStep o ∧ (∀ mask, o = xEventGroupClearBits mask → .scan ∉ mask) ∧
    o ≠ xEventGroupGetBits ∧ o ≠ xQueueCreate

/-- A call that brings no step and does not end a scan. -/
def Apart (o : WifiCall) : Prop :=
  ¬ AddsScanStep o ∧ ∀ mask, o = xEventGroupClearBits mask → .scan ∈ mask →
    mask ≠ [.scan] ∧ .isWorking ∉ mask

section Calls

variable {t : TaskId} {o : WifiCall} {c : Reply} {r : o.Ret} {s s' : WifiState}

theorem scanTimer_le (h : exec t o c s = some (r, s')) (ho : o ≠ wifiManagerScanTimerStart) :
    s'.scanTimer.toNat ≤ s.scanTimer.toNat := by
  by_cases hw : Field.scanTimer ∈ o.writes
  · cases o <;> simp [writes] at hw
    case wifiManagerScanTimerStart => exact absurd rfl ho
    case wifiManagerScanTimerStop =>
      obtain ⟨-, rfl⟩ := Prod.mk.inj (Option.some.inj h)
      exact Nat.zero_le _
    case driver d => cases d <;> simp [DriverCall.writes] at hw
  · have heq : s'.scanTimer = s.scanTimer := exec_agree h hw
    rw [heq]

theorem scanning_le (h : exec t o c s = some (r, s'))
    (ho : ∀ channel, o ≠ driver (.espWifiScanStart channel)) :
    s'.driver.scanning.toNat ≤ s.driver.scanning.toNat := by
  by_cases hw : Field.driverScanning ∈ o.writes
  · cases o <;> simp [writes] at hw
    case driver d =>
      cases d <;> simp [DriverCall.writes] at hw
      case espWifiScanStart channel => exact absurd rfl (ho channel)
      case espWifiStop =>
        obtain ⟨-, rfl⟩ := Prod.mk.inj (Option.some.inj h)
        exact Nat.zero_le _
  · have heq : s'.driver.scanning = s.driver.scanning := exec_agree h hw
    rw [heq]

theorem countP_le (h : exec t o c s = some (r, s')) (ho : ¬ PostsScanStep o) :
    s'.queued.countP QueueMessage.isScanStep ≤ s.queued.countP QueueMessage.isScanStep := by
  by_cases hw : Field.msgQueue ∈ o.writes
  · rcases writes_msgQueue hw with rfl | ⟨msg, timeout, rfl⟩ | rfl | rfl
    · simp only [exec] at h
      split at h <;>
      · obtain ⟨-, rfl⟩ := Prod.mk.inj (Option.some.inj h)
        exact Nat.zero_le _
    · rcases queued_send h with rfl | hq
      · exact le_rfl
      · have hmsg : msg.isScanStep = false := by
          by_contra hne
          exact ho ⟨msg, timeout, by simpa using hne, rfl⟩
        simp [hq, hmsg]
    · obtain ⟨msg, -, hq⟩ := queued_receive h
      rw [hq, List.countP_cons]
      exact Nat.le_add_right _ _
    · obtain ⟨-, rfl⟩ := Prod.mk.inj (Option.some.inj h)
      exact Nat.zero_le _
  · have heq : s'.msgQueue = s.msgQueue := exec_agree h hw
    unfold WifiState.queued
    rw [heq]

/-- Nothing but the calls of the chain brings a step. -/
theorem numScanSteps_le (h : exec t o c s = some (r, s')) (ho : ¬ AddsScanStep o) :
    s'.numScanSteps ≤ s.numScanSteps := by
  have htimer := scanTimer_le h fun heq => ho (.inl heq)
  have hqueue := countP_le h fun hp => ho (.inr (.inr hp))
  have hdriver := scanning_le h fun channel heq => ho (.inr (.inl ⟨channel, heq⟩))
  unfold WifiState.numScanSteps
  omega

/-- A send brings one step at most. -/
theorem numScanSteps_send {msg : QueueMessage} {timeout : Timeout} {sent : Bool}
    (h : exec t (xQueueSend msg timeout) c s = some (sent, s')) :
    s'.numScanSteps ≤ s.numScanSteps + 1 := by
  rcases exec_xQueueSend h with ⟨rfl, -⟩ | ⟨q, q', hq, hpush, -, rfl⟩
  · exact Nat.le_succ _
  · have hcount : (q.items ++ [msg]).countP QueueMessage.isScanStep ≤
        q.items.countP QueueMessage.isScanStep + 1 := by
      rw [List.countP_append]
      exact Nat.add_le_add_left (List.countP_le_length.trans_eq rfl) _
    simp only [WifiState.numScanSteps, WifiState.queued, hq, Option.map_some, Option.getD_some,
      BoundedQueue.items_push hpush] at hcount ⊢
    omega

theorem numScanSteps_timerStart {u : Unit}
    (h : exec t wifiManagerScanTimerStart c s = some (u, s')) :
    s'.numScanSteps ≤ s.numScanSteps + 1 := by
  obtain ⟨-, rfl⟩ := Prod.mk.inj (Option.some.inj h)
  change 1 + _ + _ ≤ _ + _ + _ + 1
  unfold WifiState.queued
  dsimp only
  omega

theorem numScanSteps_scanStart {channel : UInt8} {err : EspErr}
    (h : exec t (driver (.espWifiScanStart channel)) c s = some (err, s')) :
    s'.numScanSteps ≤ s.numScanSteps + 1 ∧ (err ≠ espOk → s' = s) := by
  obtain ⟨rfl, rfl⟩ := Prod.mk.inj (Option.some.inj h)
  by_cases herr : c.err = espOk
  · refine ⟨?_, fun hne => absurd herr hne⟩
    simp only [DriverCall.effect, if_pos herr, WifiState.numScanSteps, WifiState.queued,
      Bool.toNat_true]
    omega
  · simp only [DriverCall.effect, if_neg herr]
    exact ⟨Nat.le_succ _, fun _ => trivial⟩

/-- A received step is no longer outstanding. -/
theorem numScanSteps_receive {msg : QueueMessage} {received : Option QueueMessage}
    (h : exec t xQueueReceive c s = some (received, s')) (hq : s.queued = msg :: s'.queued) :
    s'.numScanSteps + msg.isScanStep.toNat = s.numScanSteps := by
  have htimer : s'.scanTimer = s.scanTimer :=
    exec_agree (f := .scanTimer) h (by simp [writes])
  have hdriver : s'.driver.scanning = s.driver.scanning :=
    exec_agree (f := .driverScanning) h (by simp [writes])
  unfold WifiState.numScanSteps
  rw [htimer, hdriver, hq, List.countP_cons]
  cases msg.isScanStep <;> simp
  omega

end Calls

/-! ### The invariant -/

/-- What the manager task is at: between messages, with a message, with a scan order that has found
`SCAN_BIT` clear, with a scan step in its hands, and at its end before and after it has cleared the
bits. -/
inductive Phase
  | idle
  | running
  | starting
  | holding
  | finishing
  | ending

/-- At most one step is outstanding or about to be posted, and then `SCAN_BIT` is set. -/
structure Guard (s : WifiState) (w : ℕ) : Prop where
  single : s.numScanSteps + w ≤ 1
  guarded : 0 < s.numScanSteps + w → s.eventBits .scan = true

/-- The invariant of a phase, with the number of steps that clients are about to post. -/
def Phase.Inv (s : WifiState) (w : ℕ) : Phase → Prop
  | .idle => Guard s w ∨ s.numScanSteps = 0 ∧ s.msgQueue = none
  | .running => Guard s w
  | .starting => s.numScanSteps + w = 0
  | .holding => s.numScanSteps + w = 0 ∧ s.eventBits .scan = true
  | .finishing => Guard s w ∧ 0 < s.mutex.held .server
  | .ending => s.numScanSteps = 0 ∧ 0 < s.mutex.held .server

theorem Phase.Inv.steps {s : WifiState} {w : ℕ} {φ : Phase} (h : φ.Inv s w) :
    s.numScanSteps ≤ 1 ∧ (0 < s.numScanSteps → s.eventBits .scan = true) := by
  have hguard : Guard s w → s.numScanSteps ≤ 1 ∧
      (0 < s.numScanSteps → s.eventBits .scan = true) := by
    intro hg
    have hsingle := hg.single
    exact ⟨by omega, fun hpos => hg.guarded (by omega)⟩
  have hzero : s.numScanSteps = 0 → s.numScanSteps ≤ 1 ∧
      (0 < s.numScanSteps → s.eventBits .scan = true) :=
    fun h => ⟨by omega, by omega⟩
  cases φ with
  | idle => exact h.elim hguard fun h => hzero h.1
  | running => exact hguard h
  | starting => exact hzero (Nat.eq_zero_of_add_eq_zero_right h)
  | holding => exact hzero (Nat.eq_zero_of_add_eq_zero_right h.1)
  | finishing => exact hguard h.1
  | ending => exact hzero h.1

/-- What a run promises of a call: `NoScanCut` of the manager task, and of a client that it holds
the mutex when it posts. -/
structure Promise (t : TaskId) (o : WifiCall) (s : WifiState) (w : ℕ) : Prop where
  noCut : t = .server → ∀ mask, o = xEventGroupClearBits mask → .scan ∈ mask → mask ≠ [.scan] →
    s.numScanSteps = 0 ∧ (.isWorking ∉ mask → w = 0)
  locked : t ≠ .server → ∀ msg timeout, o = xQueueSend msg timeout → 0 < s.mutex.held t

/-- The manager task owes that it finds `SCAN_BIT` set while a step is pending. -/
noncomputable def contract : Contract machine Phase ℕ where
  inv φ s w := φ.Inv s w
  rest φ := φ = .idle ∨ φ = .running
  assume t o _ s w := Promise t o s w
  assumeArrive _ _ _ := True
  demand o s w := o = xEventGroupGetBits → 0 < s.numScanSteps + w → s.eventBits .scan = true
  credit p := p.mayMake PostsScanStep
  client p := p.All WifiCall.IsClientCall ∧ p.AtMostOnce PostsScanStep

/-! ### The manager task -/

section Frames

variable {t : TaskId} {o : WifiCall} {c : Reply} {r : o.Ret} {s s' : WifiState} {w : ℕ} {φ : Phase}

theorem Guard.of_zero (h : s.numScanSteps + w = 0) : Guard s w :=
  ⟨by omega, by omega⟩

theorem Guard.exec (hg : Guard s w) (h : exec t o c s = some (r, s')) (hadds : ¬ AddsScanStep o)
    (hclear : ∀ mask, o = xEventGroupClearBits mask → .scan ∉ mask) : Guard s' w := by
  have hsteps := numScanSteps_le h hadds
  have hsingle := hg.single
  refine ⟨by omega, fun hpos => ?_⟩
  exact bit_stays_set h hclear (hg.guarded (by omega))

theorem held_of_lock {u : Unit} (h : exec t wifiManagerLock c s = some (u, s')) :
    0 < s'.mutex.held t := by
  obtain ⟨hm, -⟩ := mailbox.exec_lock (t := t) (o := wifiManagerLock) (c := c) rfl h
  have hheld := RecMutex.held_lock hm
  change 0 < (mailbox.mutex s').held t
  omega

theorem exec_keeps_mutex (h : exec .server o c s = some (r, s')) (ho : o ≠ wifiManagerUnlock)
    (hs : 0 < s.mutex.held .server) : 0 < s'.mutex.held .server := by
  by_cases hlock : o = wifiManagerLock
  · subst hlock
    exact held_of_lock h
  · have hmutex : s'.mutex = s.mutex := exec_agree (f := .mutex) h (by
      cases o <;> simp [writes] at hlock ho ⊢
      case driver d => cases d <;> simp [DriverCall.writes])
    rw [hmutex]
    exact hs

theorem queue_stays_none (h : exec t o c s = some (r, s')) (ho : o ≠ xQueueCreate)
    (hs : s.msgQueue = none) : s'.msgQueue = none := by
  by_cases hw : Field.msgQueue ∈ o.writes
  · rcases writes_msgQueue hw with rfl | ⟨msg, timeout, rfl⟩ | rfl | rfl
    · exact absurd rfl ho
    · rcases exec_xQueueSend h with ⟨rfl, -⟩ | ⟨q, q', hq, -⟩
      · exact hs
      · rw [hs] at hq
        exact absurd hq (by simp)
    · obtain ⟨q, msg, q', hq, -⟩ := exec_xQueueReceive h
      rw [hs] at hq
      exact absurd hq (by simp)
    · obtain ⟨-, rfl⟩ := Prod.mk.inj (Option.some.inj h)
      rfl
  · have heq : s'.msgQueue = s.msgQueue := exec_agree h hw
    rw [heq]
    exact hs

/-- A call that is not part of a scan leaves every phase alone, as long as the manager task does
not give the mutex away at its end. -/
theorem frames_aside (ho : Aside o) (hlock : φ = .finishing ∨ φ = .ending → o ≠ wifiManagerUnlock) :
    contract.Frames φ o := by
  obtain ⟨hadds, hclear, hbits, hcreate⟩ := ho
  intro s w hinv
  refine ⟨fun heq => absurd heq hbits, fun c r s' _ h => ?_⟩
  have hsteps := numScanSteps_le (t := .server) h hadds
  cases φ with
  | idle =>
    rcases hinv with hg | ⟨hzero, hqueue⟩
    · exact .inl (hg.exec h hadds hclear)
    · exact .inr ⟨by omega, queue_stays_none h hcreate hqueue⟩
  | running => exact Guard.exec hinv h hadds hclear
  | starting =>
    have hzero : s.numScanSteps + w = 0 := hinv
    change s'.numScanSteps + w = 0
    omega
  | holding =>
    obtain ⟨hzero, hbit⟩ := hinv
    exact ⟨by omega, bit_stays_set h hclear hbit⟩
  | finishing =>
    obtain ⟨hg, hheld⟩ := hinv
    exact ⟨hg.exec h hadds hclear, exec_keeps_mutex h (hlock (.inl rfl)) hheld⟩
  | ending =>
    obtain ⟨hzero, hheld⟩ := hinv
    exact ⟨by omega, exec_keeps_mutex h (hlock (.inr rfl)) hheld⟩

/-- While a message is handled `SCAN_BIT` may be read, and cleared when no step is pending. -/
theorem frames_running (ho : Apart o) : contract.Frames .running o := by
  obtain ⟨hadds, hclear⟩ := ho
  intro s w hg
  refine ⟨fun _ => hg.guarded, fun c r s' hp h => ?_⟩
  have hsteps := numScanSteps_le (t := .server) h hadds
  by_cases hcut : ∃ mask, o = xEventGroupClearBits mask ∧ .scan ∈ mask
  · obtain ⟨mask, rfl, hmask⟩ := hcut
    obtain ⟨hne, hworking⟩ := hclear mask rfl hmask
    obtain ⟨hzero, hw⟩ := hp.noCut rfl mask rfl hmask hne
    have hw := hw hworking
    exact Guard.of_zero (by omega)
  · exact Guard.exec hg h hadds fun mask heq hmask => hcut ⟨mask, heq, hmask⟩

/-- A call that is not part of a scan, in a program. -/
theorem keeps_aside {α : Type} {f : o.Ret → WifiProg α} {post : α → Phase → Prop} (ho : Aside o)
    (hlock : φ = .finishing ∨ φ = .ending → o ≠ wifiManagerUnlock)
    (hf : ∀ r, contract.Keeps (f r) post φ) : contract.Keeps (call o >>= f) post φ :=
  Contract.performs_frame (frames_aside ho hlock) hf

end Frames

section Handlers

attribute [local simp] Aside AddsScanStep PostsScanStep QueueMessage.isScanStep

/-- The end of a scan clears `SCAN_BIT` when no step is outstanding. -/
theorem notifyScanDone_keeps {α : Type} {f : Unit → WifiProg α} {post : α → Phase → Prop}
    (hf : contract.Keeps (f ()) post .running) :
    contract.Keeps (wifiMangerNotifyScanDone >>= f) post .holding := by
  apply Contract.keeps_bind.mpr
  unfold wifiMangerNotifyScanDone
  apply keeps_call
  intro s w hinv
  refine ⟨nofun, fun c bits s' _ h => ?_⟩
  obtain ⟨hzero, -⟩ := hinv
  have hsteps := numScanSteps_le (t := .server) (o := xEventGroupClearBits [.scan]) (c := c) h (by simp)
  refine ⟨.running, Guard.of_zero (by omega), ?_⟩
  apply keeps_aside (by simp) (by simp)
  intro isNull
  cases isNull with
  | true => exact hf
  | false => exact Contract.performs_frame (frames_aside (by simp) (by simp)) fun _ => hf

/-- The timer is started when no step is outstanding. -/
theorem timerStart_keeps {α : Type} {f : Unit → WifiProg α} {post : α → Phase → Prop}
    (hf : contract.Keeps (f ()) post .running) :
    contract.Keeps (call wifiManagerScanTimerStart >>= f) post .holding := by
  apply keeps_call
  intro s w hinv
  refine ⟨nofun, fun c u s' _ h => ?_⟩
  obtain ⟨hzero, hbit⟩ := hinv
  have hsteps := numScanSteps_timerStart (t := .server) (c := c) h
  have hbit' := bit_stays_set (b := .scan) h (by simp) hbit
  exact ⟨.running, ⟨by omega, fun _ => hbit'⟩, hf⟩

theorem scanNext_keeps {α : Type} {f : Bool → WifiProg α} {post : α → Phase → Prop}
    (hfinished : contract.Keeps (f true) post .holding)
    (hgoes : contract.Keeps (f false) post .running) :
    contract.Keeps (wifiScanNext >>= f) post .holding := by
  apply Contract.keeps_bind.mpr
  unfold wifiScanNext
  apply keeps_aside (by simp) (by simp)
  intro info
  apply keeps_aside (by simp) (by simp)
  intro _
  split_ifs
  · exact hfinished
  · exact timerStart_keeps hgoes

/-- A scan without channels is done at once. -/
theorem sendScanDone_keeps :
    contract.Keeps (do let _ ← wifimanMsgSendEvScanDone) (fun _ φ => φ = .running) .holding := by
  have hrunning : ∀ s w, contract.inv .holding s w → contract.inv .running s w :=
    fun s w hinv => Guard.of_zero hinv.1
  apply Contract.keeps_bind.mpr
  unfold wifimanMsgSendEvScanDone wifimanMsgSend wifimanMsgSendWithTimeout
  apply keeps_aside (by simp) (by simp)
  intro _
  apply keeps_aside (by simp) (by simp)
  intro isNull
  cases isNull with
  | true =>
    apply keeps_call
    intro s w hinv
    obtain ⟨hd, hcall⟩ := frames_aside (φ := .running) (o := wifiManagerUnlock) (by simp) (by simp)
      s w (hrunning s w hinv)
    exact ⟨hd, fun c r s' ha h => ⟨.running, hcall c r s' ha h, rfl⟩⟩
  | false =>
    apply keeps_call
    intro s w hinv
    refine ⟨nofun, fun c sent s' _ h => ?_⟩
    obtain ⟨hzero, hbit⟩ := hinv
    have hsteps := numScanSteps_send (t := .server) (c := c) h
    have hbit' := bit_stays_set (b := .scan) h (by simp) hbit
    refine ⟨.running, ⟨by omega, fun _ => hbit'⟩, ?_⟩
    exact Contract.performs_frame (frames_aside (by simp) (by simp)) fun _ => rfl

/-- The handler of the scan order starts a chain when it finds `SCAN_BIT` clear. -/
theorem startWifiScan_keeps :
    contract.Keeps wifiHandleCmdStartWifiScan (fun _ φ => φ = .running) .running := by
  unfold wifiHandleCmdStartWifiScan
  apply keeps_call
  intro s w hg
  refine ⟨fun _ => hg.guarded, fun c bits s' _ h => ?_⟩
  obtain ⟨rfl, rfl⟩ := Prod.mk.inj (Option.some.inj h)
  cases hscan : s.eventBits .scan with
  | true =>
    refine ⟨.running, hg, ?_⟩
    rw [if_pos rfl]
    exact rfl
  | false =>
    have hzero : s.numScanSteps + w = 0 := by
      by_contra hne
      have hset := hg.guarded (by omega)
      simp [hscan] at hset
    refine ⟨.starting, hzero, ?_⟩
    rw [if_neg (by simp)]
    apply keeps_call
    intro s w hzero
    refine ⟨nofun, fun c bits s' _ h => ?_⟩
    have hzero : s.numScanSteps + w = 0 := hzero
    have hsteps := numScanSteps_le (t := .server) (o := xEventGroupSetBits [.scan]) (c := c) h (by simp)
    refine ⟨.holding, ⟨by omega, bit_of_set h (by simp)⟩, ?_⟩
    apply keeps_aside (by simp) (by simp)
    intro country
    apply keeps_aside (by simp) (by simp)
    intro _
    apply scanNext_keeps
    · exact sendScanDone_keeps
    · exact rfl

/-- A scan step starts the driver when no step is outstanding, or ends the scan. -/
theorem scanNextEvent_keeps :
    contract.Keeps wifiHandleEvScanNext (fun _ φ => φ = .running) .holding := by
  unfold wifiHandleEvScanNext
  apply keeps_aside (by simp) (by simp)
  intro info
  apply keeps_call
  intro s w hinv
  refine ⟨nofun, fun c ret s' _ h => ?_⟩
  obtain ⟨hzero, hbit⟩ := hinv
  obtain ⟨hsteps, hfail⟩ := numScanSteps_scanStart (t := .server) (c := c) h
  by_cases hret : ret = espOk
  · have hbit' := bit_stays_set (b := .scan) h (by simp) hbit
    refine ⟨.running, ⟨by omega, fun _ => hbit'⟩, ?_⟩
    rw [if_neg (not_not_intro hret)]
    exact rfl
  · obtain rfl := hfail hret
    refine ⟨.holding, ⟨hzero, hbit⟩, ?_⟩
    rw [if_pos hret]
    apply keeps_aside (by simp) (by simp)
    intro _
    apply notifyScanDone_keeps
    exact Contract.performs_frame (frames_aside (by simp) (by simp)) fun _ => rfl

/-- A reported scan goes on with the next channel, or ends. -/
theorem scanDoneEvent_keeps :
    contract.Keeps wifiHandleEvScanDone (fun _ φ => φ = .running) .holding := by
  have hunlock : contract.Keeps (call wifiManagerUnlock) (fun _ φ => φ = .running) .running :=
    Contract.performs_frame (frames_aside (by simp) (by simp)) fun _ => rfl
  unfold wifiHandleEvScanDone
  apply keeps_aside (by simp) (by simp)
  intro _
  apply keeps_aside (by simp) (by simp)
  rintro ⟨err, num⟩
  dsimp only
  split_ifs
  · apply notifyScanDone_keeps
    exact Contract.performs_frame (frames_aside (by simp) (by simp)) fun _ => rfl
  · apply keeps_aside (by simp) (by simp)
    intro records
    apply keeps_aside (by simp) (by simp)
    intro _
    apply keeps_aside (by simp) (by simp)
    intro _
    apply keeps_aside (by simp) (by simp)
    intro info
    apply keeps_aside (by simp) (by simp)
    intro _
    apply scanNext_keeps
    · rw [if_pos rfl]
      exact notifyScanDone_keeps hunlock
    · exact hunlock

/-- Messages that are not part of a scan. -/
theorem handleMsg_keeps {msg : QueueMessage} (hstep : msg.isScanStep = false)
    (hscan : msg ≠ .orderStartWifiScan) :
    contract.Keeps (wifiManagerHandleMsg msg) (fun _ φ => φ = .running) .running := by
  refine Contract.keeps_frame ((wifiManagerHandleMsg_allThen msg).all.mono ?_) fun _ => rfl
  intro o ho
  apply frames_running
  revert o
  cases msg
  case orderStartWifiScan => exact absurd rfl hscan
  case eventScanNext => exact absurd hstep (by decide)
  case eventScanDone => exact absurd hstep (by decide)
  all_goals
    simp [QueueMessage.MayCall, OfSender, OfLossUpdate, or_imp, forall_and]
    try simp [Apart]

/-- The end of the task finds no scan step and leaves none behind. -/
theorem taskFinish_keeps :
    contract.Keeps (do wifiManagerTaskFinish; call (setManagerTask .none)) (fun _ φ => φ = .idle)
      .running := by
  apply Contract.keeps_bind.mpr
  unfold wifiManagerTaskFinish
  apply keeps_call
  intro s w hg
  refine ⟨nofun, fun c _ s' _ h => ?_⟩
  have hg' : Guard s' w := Guard.exec hg h (by simp) (by simp)
  refine ⟨.finishing, ⟨hg', held_of_lock h⟩, ?_⟩
  iterate 4
    apply keeps_aside (by simp) (by simp)
    intro _
  apply keeps_call
  intro s w hinv
  refine ⟨nofun, fun c _ s' hp h => ?_⟩
  obtain ⟨hg, hheld⟩ := hinv
  obtain ⟨hzero, -⟩ := hp.noCut rfl _ rfl (by simp) (by simp)
  have hsteps := numScanSteps_le (t := .server) (o := xEventGroupClearBits _) (c := c) h (by simp)
  refine ⟨.ending, ⟨by omega, exec_keeps_mutex h (by simp) hheld⟩, ?_⟩
  iterate 7
    apply keeps_aside (by simp) (by simp)
    intro _
  apply keeps_call
  intro s w hinv
  refine ⟨nofun, fun c _ s' hp h => ?_⟩
  obtain ⟨hzero, -⟩ := hinv
  have hsteps := numScanSteps_le (t := .server) (o := vQueueDelete) (c := c) h (by simp)
  obtain ⟨-, rfl⟩ := Prod.mk.inj (Option.some.inj h)
  refine ⟨.idle, .inr ⟨by omega, rfl⟩, ?_⟩
  iterate 4
    apply keeps_aside (by simp) (by simp)
    intro _
  exact rfl

/-- The phase in which a received message is handled. -/
def phaseOf (msg : QueueMessage) : Phase := if msg.isScanStep then .holding else .running

theorem taskHandle_keeps (msg : QueueMessage) :
    contract.Keeps (wifiManagerTaskHandle msg) (fun _ => contract.rest) (phaseOf msg) := by
  have hcallback : contract.Frames .running (callback (.onMessage msg)) :=
    frames_aside (by simp) (by simp)
  have hround : msg ≠ .orderStopAndDestroy →
      contract.Keeps (wifiManagerHandleMsg msg) (fun _ φ => φ = .running) (phaseOf msg) →
      contract.Keeps (wifiManagerTaskHandle msg) (fun _ => contract.rest) (phaseOf msg) := by
    intro hstop hkeeps
    apply keeps_taskHandle hstop
    apply hkeeps.mono
    rintro _ _ rfl
    exact ⟨.inr rfl, hcallback⟩
  by_cases hstop : msg = .orderStopAndDestroy
  · subst hstop
    apply keeps_aside (by simp) (by simp [phaseOf])
    intro _
    exact taskFinish_keeps.mono fun _ φ hφ => .inl hφ
  · apply hround hstop
    cases msg
    case orderStartWifiScan =>
      exact Contract.keeps_bind.mpr (startWifiScan_keeps.mono fun _ _ hφ => hφ)
    case eventScanNext =>
      exact Contract.keeps_bind.mpr (scanNextEvent_keeps.mono fun _ _ hφ => hφ)
    case eventScanDone =>
      exact Contract.keeps_bind.mpr (scanDoneEvent_keeps.mono fun _ _ hφ => hφ)
    all_goals exact handleMsg_keeps rfl (by simp)

/-- A round takes a message, and with a scan step the only one there is. -/
theorem taskRound_keeps :
    contract.Keeps wifiManagerTaskRound (fun _ => contract.rest) .idle := by
  apply keeps_taskRound
  intro s w hinv
  refine ⟨nofun, fun c msg s' _ h hq => ⟨phaseOf msg, ?_, taskHandle_keeps msg⟩⟩
  have hsteps := numScanSteps_receive (t := .server) (c := c) h hq
  rcases hinv with hg | ⟨-, hnull⟩
  · have hsingle := hg.single
    have hbit : 0 < s.numScanSteps + w → s'.eventBits .scan = true := fun hpos =>
      bit_stays_set (b := .scan) h (by simp) (hg.guarded hpos)
    unfold phaseOf
    cases hstep : msg.isScanStep with
    | true =>
      simp only [hstep, Bool.toNat_true] at hsteps
      exact ⟨by omega, hbit (by omega)⟩
    | false =>
      simp only [hstep, Bool.toNat_false] at hsteps
      exact ⟨by omega, fun hpos => hbit (by omega)⟩
  · simp [WifiState.queued, hnull] at hq

theorem taskBegin_keeps :
    contract.Keeps wifiManagerTaskBegin (fun _ => contract.rest) .idle := by
  apply Contract.keeps_bind.mpr
  iterate 3
    apply keeps_aside (by simp) (by simp)
    intro _
  exact .inl rfl

end Handlers

/-! ### The clients -/

section Clients

variable {i : ℕ} {o : WifiCall} {k : o.Ret → WifiProg Unit} {c : Reply} {r : o.Ret}
  {s s' : WifiState} {w : ℕ}

theorem adds_of_client (ho : o.IsClientCall) : AddsScanStep o → PostsScanStep o := by
  obtain ⟨posts, ho⟩ := ho
  rintro (rfl | ⟨channel, rfl⟩ | hp)
  · exact absurd ho id
  · exact absurd ho id
  · exact hp

/-- A client spends its credit when it posts a scan step. -/
theorem numScanSteps_client (hclient : contract.client (.call o k))
    (h : exec (.client i) o c s = some (r, s')) :
    s'.numScanSteps + contract.credit (k r) ≤ s.numScanSteps + contract.credit (.call o k) := by
  obtain ⟨hall, honce⟩ := hclient
  by_cases hp : PostsScanStep o
  · have hlt : contract.credit (k r) + 1 = contract.credit (.call o k) := honce.mayMake_lt hp r
    obtain ⟨msg, timeout, -, rfl⟩ := hp
    have hsteps := numScanSteps_send h
    omega
  · have hle : contract.credit (k r) ≤ contract.credit (.call o k) := Prog.mayMake_answer o k r
    have hsteps := numScanSteps_le h fun hadds => hp (adds_of_client hall.1 hadds)
    omega

theorem client_bit (ho : o.IsClientCall) (h : exec (.client i) o c s = some (r, s')) :
    s'.eventBits .scan = s.eventBits .scan := by
  obtain ⟨posts, ho⟩ := ho
  exact exec_ofClient (f := .bit .scan) ho h (by decide)

theorem client_mutex (h : exec (.client i) o c s = some (r, s'))
    (hs : 0 < s.mutex.held .server) : 0 < s'.mutex.held .server := by
  by_cases hlock : o = wifiManagerLock
  · subst hlock
    have hwaits := mailbox.lock_waits (t := .client i) (o := wifiManagerLock) (c := c) rfl
      (RecMutex.lock_eq_none_of_held hs (by simp))
    exact absurd (h.symm.trans hwaits) (by simp)
  · by_cases hunlock : o = wifiManagerUnlock
    · subst hunlock
      obtain ⟨-, rfl⟩ := Prod.mk.inj (Option.some.inj h)
      change 0 < (s.mutex.unlock (.client i)).held .server
      rw [RecMutex.held_unlock_other (by simp)]
      exact hs
    · have hmutex : s'.mutex = s.mutex := exec_agree (f := .mutex) h (by
        cases o <;> simp [writes] at hlock hunlock ⊢
        case driver d => cases d <;> simp [DriverCall.writes])
      rw [hmutex]
      exact hs

end Clients

/-! ### The environment -/

section Arrive

variable {req : Request} {s s' : WifiState}

theorem sendScanStep_atMostOnce (msg : QueueMessage) :
    (do let _ ← wifimanMsgSend msg : WifiProg Unit).AtMostOnce PostsScanStep := by
  have hlock : ∀ o, o = wifiManagerLock ∨ o = isMsgQueueNull ∨ o = wifiManagerUnlock →
      ¬ PostsScanStep o := by
    rintro o ho ⟨msg, timeout, -, rfl⟩
    simp at ho
  refine ⟨fun h => absurd h (hlock _ (by simp)), fun _ => ?_⟩
  refine ⟨fun h => absurd h (hlock _ (by simp)), fun isNull => ?_⟩
  cases isNull with
  | true => exact ⟨fun h => absurd h (hlock _ (by simp)), fun _ => trivial⟩
  | false =>
    refine ⟨fun _ sent => ⟨hlock _ (by simp), fun _ => trivial⟩, fun sent => ?_⟩
    exact ⟨fun h => absurd h (hlock _ (by simp)), fun _ => trivial⟩

/-- Only an expired scan timer and a reported scan post a step. -/
theorem never_posts (h : req ≠ .scanTimerExpired) (h' : req ≠ .wifiEventScanDone) :
    req.prog.Never PostsScanStep := by
  refine req.prog_ofClient.mono ?_
  rintro _ ho ⟨msg, timeout, hstep, rfl⟩
  have hpost : msg ∈ req.posts := ho
  have hall : req.posts.all fun msg => !msg.isScanStep := by
    cases req <;> first | rfl | exact absurd rfl h | exact absurd rfl h'
  have hno := List.all_eq_true.mp hall msg hpost
  simp [hstep] at hno

theorem atMostOnce (req : Request) : req.prog.AtMostOnce PostsScanStep := by
  by_cases h : req = .scanTimerExpired
  · subst h
    exact sendScanStep_atMostOnce .eventScanNext
  · by_cases h' : req = .wifiEventScanDone
    · subst h'
      exact sendScanStep_atMostOnce .eventScanDone
    · exact (never_posts h h').atMostOnce

/-- The step that the timer or the driver hands over goes to the client. -/
theorem numScanSteps_occur (h : req.occur s = some s') :
    s'.numScanSteps + contract.credit req.prog ≤ s.numScanSteps := by
  have hle : contract.credit req.prog ≤ 1 := Prog.mayMake_le_one _
  by_cases htimer : req = .scanTimerExpired
  · subst htimer
    obtain ⟨htimer, heq⟩ := Option.ite_none_right_eq_some.mp h
    obtain rfl := Option.some.inj heq
    simp only [WifiState.numScanSteps, WifiState.queued, htimer, Bool.toNat_true, Bool.toNat_false]
    omega
  · by_cases hdone : req = .wifiEventScanDone
    · subst hdone
      obtain ⟨hscanning, heq⟩ := Option.ite_none_right_eq_some.mp h
      obtain rfl := Option.some.inj heq
      simp only [WifiState.numScanSteps, WifiState.queued, hscanning, Bool.toNat_true,
        Bool.toNat_false]
      omega
    · have hzero : contract.credit req.prog = 0 := Prog.mayMake_eq_zero.mpr (never_posts htimer hdone)
      have hagree : ∀ f ∈ [Field.scanTimer, .msgQueue, .driverScanning], s.Agree s' f := by
        intro f hf
        apply occur_agree h
        simp only [List.mem_cons, List.not_mem_nil, or_false] at hf
        rcases hf with rfl | rfl | rfl <;> cases req <;>
          first | exact absurd rfl htimer | exact absurd rfl hdone | simp [Request.writes]
      have htimer : s'.scanTimer = s.scanTimer := hagree .scanTimer (by decide)
      have hqueue : s'.msgQueue = s.msgQueue := hagree .msgQueue (by decide)
      have hdriver : s'.driver.scanning = s.driver.scanning := hagree .driverScanning (by decide)
      rw [hzero]
      simp only [WifiState.numScanSteps, WifiState.queued, htimer, hqueue, hdriver]
      exact le_rfl

end Arrive

/-- Fewer steps under the same `SCAN_BIT` keep every phase. -/
theorem inv_of_le {s s' : WifiState} {w w' : ℕ} {φ : Phase} (hinv : φ.Inv s w)
    (hle : s'.numScanSteps + w' ≤ s.numScanSteps + w)
    (hbit : s'.eventBits .scan = s.eventBits .scan)
    (hclosed : s.numScanSteps = 0 → s.msgQueue = none ∨ 0 < s.mutex.held .server →
      s'.numScanSteps = 0)
    (hqueue : s.msgQueue = none → s'.msgQueue = none)
    (hmutex : 0 < s.mutex.held .server → 0 < s'.mutex.held .server) : φ.Inv s' w' := by
  have hguard : Guard s w → Guard s' w' := by
    intro hg
    have hsingle := hg.single
    exact ⟨by omega, fun hpos => hbit ▸ hg.guarded (by omega)⟩
  cases φ with
  | idle =>
    rcases hinv with hg | ⟨hzero, hnull⟩
    · exact .inl (hguard hg)
    · exact .inr ⟨hclosed hzero (.inl hnull), hqueue hnull⟩
  | running => exact hguard hinv
  | starting =>
    have hzero : s.numScanSteps + w = 0 := hinv
    change s'.numScanSteps + w' = 0
    omega
  | holding =>
    obtain ⟨hzero, hset⟩ := hinv
    exact ⟨by omega, hbit ▸ hset⟩
  | finishing => exact ⟨hguard hinv.1, hmutex hinv.2⟩
  | ending => exact ⟨hclosed hinv.1 (.inr hinv.2), hmutex hinv.2⟩

theorem contract_sound : contract.Sound where
  call := by
    intro φ i o k c r s s' w hclient hinv hp he
    have hsteps := numScanSteps_client hclient he
    have ho := hclient.1.1
    refine ⟨?_, hclient.1.2 r, hclient.2.2 r⟩
    refine inv_of_le hinv (by omega) (client_bit ho he) ?_ ?_ (client_mutex he)
    · intro hzero hclosed
      by_cases hpost : PostsScanStep o
      · obtain ⟨msg, timeout, -, rfl⟩ := hpost
        rcases hclosed with hnull | hheld
        · rcases exec_xQueueSend (t := .client i) (c := c) he with ⟨rfl, -⟩ | ⟨q, q', hq, -⟩
          · exact hzero
          · rw [hnull] at hq
            exact absurd hq (by simp)
        · have hown := hp.locked (by simp) msg timeout rfl
          exact absurd (RecMutex.held_unique hheld hown) (by simp)
      · have hle := numScanSteps_le (t := .client i) he fun h => hpost (adds_of_client ho h)
        omega
    · apply queue_stays_none (t := .client i) he
      rintro rfl
      obtain ⟨posts, ho⟩ := ho
      exact ho
  arrive := by
    intro φ req s s' p w hinv _ ha
    obtain ⟨hoccur, rfl⟩ := arrive_eq ha
    have hsteps := numScanSteps_occur hoccur
    have hqueue : s'.msgQueue = s.msgQueue := occur_agree (f := .msgQueue) hoccur (by
      cases req <;> simp [Request.writes])
    have hbit : s'.eventBits .scan = s.eventBits .scan :=
      occur_agree (f := .bit .scan) hoccur (by cases req <;> simp [Request.writes])
    have hmutex : s'.mutex = s.mutex := occur_agree (f := .mutex) hoccur (by
      cases req <;> simp [Request.writes])
    refine ⟨?_, arrive_all ha, atMostOnce req⟩
    exact inv_of_le hinv (by omega) hbit (fun hzero _ => by omega) (fun h => hqueue ▸ h)
      fun h => hmutex ▸ h
  serve := by
    intro φ s p w hrest hinv hp
    have hidle : contract.inv .idle s w := by
      rcases hrest with rfl | rfl
      · exact hinv
      · exact .inl hinv
    rcases serve_cases hp with ⟨-, rfl⟩ | ⟨-, rfl⟩
    · exact ⟨.idle, hidle, taskBegin_keeps⟩
    · exact ⟨.idle, hidle, taskRound_keeps⟩

theorem meets {cfg : WifiConfig} {l : WifiLabel} (hcut : NoScanCut cfg l)
    (hguard : mailbox.Guarded cfg) : contract.Meets cfg l := by
  cases l with
  | arrive req => exact trivial
  | run t reply =>
    intro o k w htask
    constructor
    · rintro rfl mask rfl hmask hne
      have hserver : cfg.server = ⟨.call _ k, w⟩ := Option.some.inj htask
      obtain ⟨hzero, hclients⟩ := hcut mask (by rw [hserver]; rfl) hmask hne
      refine ⟨hzero, fun hworking => Contract.load_eq_zero.mpr fun i x hx => ?_⟩
      exact Prog.mayMake_eq_zero.mpr (hclients hworking hx)
    · rintro - msg timeout rfl
      have hbalanced := hguard.balanced htask
      cases timeout with
      | noWait => exact Mailbox.balanced_trySend hbalanced rfl
      | portMaxDelay => exact Mailbox.balanced_send hbalanced rfl

theorem started_holds (flag : Bool) (sta : WifimanConfigSta) :
    contract.Holds .idle (WifiConfig.started flag sta) where
  inv := by
    refine .inl (Guard.of_zero ?_)
    change (WifiState.started flag sta).numScanSteps + 0 = 0
    unfold WifiState.started WifiState.numScanSteps WifiState.queued
    dsimp only
    split <;> rfl
  server := .inl rfl
  clients := by
    intro i x hx
    exact absurd (started_task hx).1 (by simp)

/-- A scan order that reads `SCAN_BIT` as set does nothing but call its callback. -/
theorem scanOrder_call : ∃ k, wifiManagerTaskHandle .orderStartWifiScan = .call xEventGroupGetBits k ∧
    ∀ bits, bits .scan = true →
      (k bits).All (· = callback (.onMessage .orderStartWifiScan)) := by
  refine ⟨_, rfl, ?_⟩
  intro bits hbits
  simp only [Prog.bind, hbits, if_true]
  exact ⟨rfl, fun _ => trivial⟩

theorem pending_load {cfg : WifiConfig} (h : ScanStepPending cfg) :
    0 < cfg.shared.numScanSteps + contract.load cfg := by
  rcases h with hpos | hclients
  · omega
  · have hload : contract.load cfg ≠ 0 := by
      intro hzero
      apply hclients
      intro i x hx
      exact Prog.mayMake_eq_zero.mp (Contract.load_eq_zero.mp hzero i x hx)
    omega

end ScanChain

/-- As long as `SCAN_BIT` is not cleared under a pending scan step by a station-disconnected event
or by the end of the task, there is one scan chain at most. -/
theorem one_scan_chain {flag : Bool} {sta : WifimanConfigSta} {labels : List WifiLabel}
    {cfg : WifiConfig} (hrun : Path machine NoScanCut (WifiConfig.started flag sta) labels cfg) :
    OneScanChain cfg := by
  have hguarded := hrun.with_invariant (fun hg _ hs => hg.step lawful hs)
    (started_safe flag sta).toGuarded
  obtain ⟨φ, h⟩ := (ScanChain.started_holds flag sta).path ScanChain.contract_sound
    (fun _ _ hok => ScanChain.meets hok.1 hok.2) hguarded
  have hsteps : cfg.shared.numScanSteps ≤ 1 ∧
      (0 < cfg.shared.numScanSteps → cfg.shared.eventBits .scan = true) := h.inv.steps
  refine ⟨hsteps.2, hsteps.1, ?_⟩
  intro c cfg' hhandle hpending hstep
  obtain ⟨k, hk, hrest⟩ := ScanChain.scanOrder_call
  have hbit := h.demand (hhandle.trans hk) rfl (ScanChain.pending_load hpending)
  rcases hstep.server_call (hhandle.trans hk) with ⟨r, s, he, rfl⟩ | ⟨he, -⟩
  · obtain ⟨rfl, rfl⟩ := Prod.mk.inj (Option.some.inj he)
    exact hrest _ hbit
  · exact absurd he (by simp [machine, exec])

/-- `NoScanCut`, as a test that asks for all clients to have come to their end. -/
def noScanCut (cfg : WifiConfig) : WifiLabel → Bool
  | .run .server _ =>
    match cfg.server.prog.next with
    | some (xEventGroupClearBits mask) => !mask.contains .scan || decide (mask = [.scan]) ||
        decide (cfg.shared.numScanSteps = 0) && clientsDone cfg
    | _ => true
  | _ => true

theorem noScanCut_of_test (cfg : WifiConfig) (l : WifiLabel) (h : noScanCut cfg l = true) :
    NoScanCut cfg l := by
  unfold NoScanCut
  split
  · intro mask hnext hmask hne
    simp only [noScanCut, hnext, List.contains_eq_mem, hmask, decide_true, Bool.not_true, hne,
      decide_false, Bool.false_or, Bool.and_eq_true, decide_eq_true_eq] at h
    exact ⟨h.1, fun _ => ClientsAll.of_done h.2⟩
  · exact trivial

/-- A disconnect is handled, then a scan is ordered and its first step is outstanding. -/
def scanLabels : List WifiLabel :=
  runs .server 4 ++ .arrive (.wifiEventStaDisconnected 8) :: runs (.client 0) 4 ++
    runs .server 8 ++ .arrive .scanSync :: runs (.client 1) 8 ++ runs .server 9

theorem one_scan_chain_armed :
    ∃ cfg, Path machine NoScanCut (WifiConfig.started false WifiState.zero.config) scanLabels cfg ∧
      cfg.shared.numScanSteps = 1 ∧ OneScanChain cfg := by
  have hsteps : (runWhere machine noScanCut (WifiConfig.started false WifiState.zero.config)
      scanLabels).any (fun cfg => cfg.shared.numScanSteps = 1) = true := by
    decide +kernel
  obtain ⟨cfg, hcfg, hsteps⟩ := (Option.any_eq_true _ _).mp hsteps
  have hrun := Path.of_runWhere noScanCut_of_test hcfg
  exact ⟨cfg, hrun, of_decide_eq_true hsteps, one_scan_chain hrun⟩

/-- The station loses its connection while the scan timer is armed. -/
def scanCutLabels : List WifiLabel :=
  scanLabels ++ .arrive (.wifiEventStaDisconnected 8) :: runs (.client 2) 4 ++ runs .server 4

theorem scan_chain_unguarded : ¬ ∀ cfg, Reachable cfg → OneScanChain cfg := by
  intro hclaim
  have hcut : (runWhere machine (fun _ _ => true) (WifiConfig.started false WifiState.zero.config)
      scanCutLabels).any (fun cfg => decide (0 < cfg.shared.numScanSteps) &&
        !cfg.shared.eventBits .scan) = true := by
    decide +kernel
  obtain ⟨cfg, hcfg, hcut⟩ := (Option.any_eq_true _ _).mp hcut
  have hreach : Reachable cfg := ⟨_, _, _, Path.of_runWhere (fun _ _ _ => trivial) hcfg⟩
  simp only [Bool.and_eq_true, decide_eq_true_eq, Bool.not_eq_true'] at hcut
  have hbit := (hclaim cfg hreach).guarded hcut.1
  rw [hcut.2] at hbit
  exact absurd hbit (by simp)

end WifiManager
end Esp32WifiManager
