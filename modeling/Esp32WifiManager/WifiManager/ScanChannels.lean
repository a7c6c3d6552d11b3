import Esp32WifiManager.Lib.Turns
import Esp32WifiManager.WifiManager.Frames

/-!
# The channels of a scan

A scan that nothing disturbs is a sequence of turns: of the manager task, of the
scan timer and of the driver. The channels that it passes to `esp_wifi_scan_start`
are counted from 1, and the first channel of the country is not looked at.
-/

namespace Esp32WifiManager
namespace WifiManager

open CString TaskSystem WifiCall

namespace ScanChannels

/-- The answer when every call of the driver succeeds and this is the country. -/
def undisturbed (country : WifiCountry) (c : Reply) : Reply :=
  { c with err := espOk, country := country }

/-- The record of the channels passed to `esp_wifi_scan_start`. -/
def noteChannel (channels : List UInt8) : WifiCall → List UInt8
  | driver (.espWifiScanStart channel) => channels ++ [channel]
  | _ => channels

abbrev ScanState := WifiState × List UInt8

/-- The Wi-Fi manager during an undisturbed scan, with the record of the channels. -/
def scanMachine (country : WifiCountry) :
    Machine WifiCall WifiCall.Ret Reply Request ScanState :=
  (machine.answering (undisturbed country)).withGhost fun _ o _ _ channels => noteChannel channels o

/-- Nothing but the scan timer and the driver is at work beside the manager task. -/
def Request.IsOfScan (req : Request) : Prop := req = .scanTimerExpired ∨ req = .wifiEventScanDone

abbrev ScanTurn (country : WifiCountry) : ScanState → ScanState → Prop :=
  Turn (scanMachine country) Request.IsOfScan

/-- No handler is at work: the queue, the scan timer, the scan that the driver has yet to report
and `SCAN_BIT`. -/
structure Standing (queue : List QueueMessage) (timer scanning bit : Bool) (s : WifiState) : Prop where
  mutex : s.mutex = .free
  task : s.managerTask = .looping
  queue : ∃ q, s.msgQueue = some q ∧ q.items = queue
  timer : s.scanTimer = timer
  scanning : s.driver.scanning = scanning
  bit : s.eventBits .scan = bit

/-- A scan has been ordered and is the next thing the manager task will see. -/
def ScanOrdered (s : WifiState) : Prop := Standing [.orderStartWifiScan] false false false s

/-- The channels of the country, in their order. -/
def countryChannels (country : WifiCountry) : List ℕ := List.range' country.schan.toNat country.nchan.toNat

/-- The scan is over and reported as done: `SCAN_BIT` is clear, who waits for the scan has been
signalled, and nothing more happens. The channels are those of the country. -/
structure ScanReported (country : WifiCountry) (x : ScanState) : Prop where
  bit : x.1.eventBits .scan = false
  signalled : x.1.scanSyncSema ≠ some false
  last : ∀ y, ¬ ScanTurn country x y
  channels : x.2.map UInt8.toNat = countryChannels country

/-! ### The stages of a scan -/

/-- How far a scan is, with the number of channels that have been started. -/
inductive Stage
  | ordered
  | armed (n : ℕ)
  | posted (n : ℕ)
  | scanning (n : ℕ)
  | found (n : ℕ)
  | done (n : ℕ)
  deriving DecidableEq

/-- The stage that follows. The channel counter has 8 bits, and is compared after it has been
incremented. -/
def Stage.next (lastChan : ℕ) : Stage → Option Stage
  | .ordered => some (.armed 0)
  | .armed n => some (.posted n)
  | .posted n => some (.scanning (n + 1))
  | .scanning n => some (.found n)
  | .found n => some (if (n + 1) % 256 > lastChan then .done n else .armed n)
  | .done _ => none

def channelsFromOne (n : ℕ) : List UInt8 := (List.range' 1 n).map UInt8.ofNat

/-- What is scanned: the counter, the last channel and the channels that have been started. -/
structure Counted (lastChan : UInt8) (curChan n : ℕ) (x : ScanState) : Prop where
  curChan : x.1.scanInfo.curChan = UInt8.ofNat curChan
  lastChan : x.1.scanInfo.lastChan = lastChan
  channels : x.2 = channelsFromOne n

def Stage.At (lastChan : UInt8) (x : ScanState) : Stage → Prop
  | .ordered => ScanOrdered x.1 ∧ x.2 = []
  | .armed n => Standing [] true false true x.1 ∧ Counted lastChan (n + 1) n x
  | .posted n => Standing [.eventScanNext] false false true x.1 ∧ Counted lastChan (n + 1) n x
  | .scanning n => Standing [] false true true x.1 ∧ Counted lastChan n n x
  | .found n => Standing [.eventScanDone] false false true x.1 ∧ Counted lastChan n n x
  | .done n => Standing [] false false false x.1 ∧ x.1.scanSyncSema ≠ some false ∧
      x.2 = channelsFromOne n

/-! ### The turns -/

section Turns

variable {country : WifiCountry} {t : TaskId} {α : Type} {a : α} {x y : ScanState}

/-- A call in an undisturbed scan. -/
def undisturbedCall (country : WifiCountry) (t : TaskId) (o : WifiCall)
    (X : o.Ret → ScanState → Prop) (x : ScanState) : Prop :=
  ∃ c r s, exec t o (undisturbed country c) x.1 = some (r, s) ∧ X r (s, noteChannel x.2 o)

theorem alone_iff {p : WifiProg α} :
    Alone (scanMachine country) t p x a y ↔
      p.fold (undisturbedCall country t) (fun b z => b = a ∧ z = y) x := by
  refine alone_iff_fold.trans (iff_of_eq (congrFun ?_ x))
  congr 1
  funext o X x
  refine propext ⟨?_, ?_⟩
  · rintro ⟨c, r, ⟨s, channels⟩, he, hX⟩
    obtain ⟨he, hnote⟩ := exec_withGhost he
    obtain rfl : channels = noteChannel x.2 o := hnote
    exact ⟨c, r, s, he, hX⟩
  · rintro ⟨c, r, s, he, hX⟩
    exact ⟨c, r, _, exec_of_exec (M := machine.answering (undisturbed country)) x.2 he, hX⟩

instance : Nonempty Reply := ⟨Reply.ok⟩

attribute [local simp] Prog.perform Prog.fold_call Prog.fold_return undisturbedCall exec noteChannel
  RecMutex.lock RecMutex.unlock

variable {s : WifiState} {channels : List UInt8}

theorem round_nil (hq : s.msgQueue = some .empty) :
    ¬ Alone (scanMachine country) .server wifiManagerTaskRound (s, channels) () y := by
  rw [wifiManagerTaskRound_eq, alone_iff]
  simp [hq, BoundedQueue.pop, BoundedQueue.empty]

/-- A queue that holds one message. -/
def only (msg : QueueMessage) : MsgQueue := ⟨[msg], by simp [wifimanMsgQueueLength]⟩

theorem round_only {msg : QueueMessage} (hq : s.msgQueue = some (only msg)) :
    Alone (scanMachine country) .server wifiManagerTaskRound (s, channels) () y ↔
      Alone (scanMachine country) .server (wifiManagerTaskHandle msg)
        ({ s with msgQueue := some .empty }, channels) () y := by
  rw [wifiManagerTaskRound_eq, alone_iff, alone_iff]
  simp [hq, only, BoundedQueue.pop, BoundedQueue.empty]

/-- A message is sent to a task whose queue is empty. -/
theorem send_iff {msg : QueueMessage} (hmutex : s.mutex = .free) (hq : s.msgQueue = some .empty) :
    Alone (scanMachine country) t (do let _ ← wifimanMsgSend msg) (s, channels) () y ↔
      y = ({ s with msgQueue := some (only msg) }, channels) := by
  rw [alone_iff, eq_comm]
  simp [wifimanMsgSend, wifimanMsgSendWithTimeout, hmutex, hq, BoundedQueue.push, BoundedQueue.empty,
    wifimanMsgQueueLength, only]

theorem handle_startWifiScan (hbit : s.eventBits .scan = false)
    (hlast : country.schan + country.nchan - 1 ≠ 0) :
    Alone (scanMachine country) .server (wifiManagerTaskHandle .orderStartWifiScan) (s, channels) () y ↔
      y = ({ s with
        eventBits := s.eventBits.set [.scan], scanTimer := true
        scanInfo := ⟨country.schan, country.schan + country.nchan - 1, 1, 0⟩ }, channels) := by
  rw [alone_iff, eq_comm]
  simp [wifiManagerTaskHandle, wifiManagerHandleMsg, wifiHandleCmdStartWifiScan, wifiScanNext, hbit,
    undisturbed, hlast]

theorem handle_scanNext :
    Alone (scanMachine country) .server (wifiManagerTaskHandle .eventScanNext) (s, channels) () y ↔
      y = ({ s with driver := { s.driver with scanning := true } },
        channels ++ [s.scanInfo.curChan]) := by
  rw [alone_iff, eq_comm]
  simp [wifiManagerTaskHandle, wifiManagerHandleMsg, wifiHandleEvScanNext, undisturbed,
    DriverCall.effect]

/-- What the handler of `EVENT_SCAN_DONE` makes of the access points that have been found, with the
counter on the next channel. -/
def merged (found : List WifiApRecord) (s : WifiState) : WifiState :=
  let (unique, num) := apListFilterUnique (espWifiScanStoreApRecords found s.apRecords)
  { s with
    apRecords := apListSortByRssi unique num
    apNum := num
    scanInfo := { s.scanInfo with
      curChan := s.scanInfo.curChan + 1
      numAccessPoints := if num ≥ maxApNum then maxApNum else num } }

/-- After the last channel. -/
theorem handle_scanDone_last (hmutex : s.mutex = .free)
    (hlast : s.scanInfo.lastChan < s.scanInfo.curChan + 1) :
    Alone (scanMachine country) .server (wifiManagerTaskHandle .eventScanDone) (s, channels) () y ↔
      ∃ found, y = ({ merged found s with
        eventBits := s.eventBits.clear [.scan]
        scanSyncSema := s.scanSyncSema.map fun _ => true }, channels) := by
  rw [alone_iff]
  cases hsema : s.scanSyncSema <;>
  · simp [wifiManagerTaskHandle, wifiManagerHandleMsg, wifiHandleEvScanDone, wifiScanNext,
      wifiMangerNotifyScanDone, undisturbed, hmutex, hlast, hsema]
    constructor
    · rintro ⟨c, rfl⟩
      exact ⟨c.records, by simp [merged, hmutex]⟩
    · rintro ⟨found, rfl⟩
      exact ⟨{ Reply.ok with records := found }, by simp [merged, hmutex]⟩

/-- After another channel. -/
theorem handle_scanDone_next (hmutex : s.mutex = .free)
    (hlast : ¬ s.scanInfo.lastChan < s.scanInfo.curChan + 1) :
    Alone (scanMachine country) .server (wifiManagerTaskHandle .eventScanDone) (s, channels) () y ↔
      ∃ found, y = ({ merged found s with scanTimer := true }, channels) := by
  rw [alone_iff]
  simp [wifiManagerTaskHandle, wifiManagerHandleMsg, wifiHandleEvScanDone, wifiScanNext, undisturbed,
    hmutex, hlast]
  constructor
  · rintro ⟨c, rfl⟩
    exact ⟨c.records, by simp [merged, hmutex]⟩
  · rintro ⟨found, rfl⟩
    exact ⟨{ Reply.ok with records := found }, by simp [merged, hmutex]⟩

/-- Whose turn it can be. -/
theorem turn_iff {queue : List QueueMessage} {timer scanning bit : Bool}
    (hs : Standing queue timer scanning bit s) :
    ScanTurn country (s, channels) y ↔
      Alone (scanMachine country) .server wifiManagerTaskRound (s, channels) () y ∨
      timer = true ∧ (∃ i, Alone (scanMachine country) (.client i) Request.scanTimerExpired.prog
        ({ s with scanTimer := false }, channels) () y) ∨
      scanning = true ∧ (∃ i, Alone (scanMachine country) (.client i) Request.wifiEventScanDone.prog
        ({ s with driver := { s.driver with scanning := false } }, channels) () y) := by
  constructor
  · intro h
    cases h with
    | serve hserve hrun =>
      rcases serve_cases hserve with ⟨htask, -⟩ | ⟨-, rfl⟩
      · rw [hs.task] at htask
        exact absurd htask (by simp)
      · exact .inl hrun
    | arrive hreq harrive hrun =>
      obtain ⟨⟨s', p'⟩, hmachine, heq⟩ := Option.map_eq_some_iff.mp harrive
      obtain ⟨rfl, rfl⟩ := Prod.mk.inj heq
      obtain ⟨hoccur, rfl⟩ := arrive_eq hmachine
      rcases hreq with rfl | rfl
      · simp only [Request.occur, hs.timer] at hoccur
        cases timer <;> simp at hoccur
        subst hoccur
        exact .inr (.inl ⟨rfl, _, hrun⟩)
      · simp only [Request.occur, hs.scanning] at hoccur
        cases scanning <;> simp at hoccur
        subst hoccur
        exact .inr (.inr ⟨rfl, _, hrun⟩)
  · rintro (hrun | ⟨rfl, i, hrun⟩ | ⟨rfl, i, hrun⟩)
    · refine .serve ?_ hrun
      change machine.serve s = _
      simp [machine, hs.task]
    · refine .arrive (.inl rfl) ?_ hrun
      change (machine.arrive .scanTimerExpired s).map _ = _
      simp [machine, Request.occur, hs.timer]
    · refine .arrive (.inr rfl) ?_ hrun
      change (machine.arrive .wifiEventScanDone s).map _ = _
      simp [machine, Request.occur, hs.scanning]

theorem msgQueue_nil {timer scanning bit : Bool} (hs : Standing [] timer scanning bit s) :
    s.msgQueue = some .empty := by
  obtain ⟨⟨items, hbound⟩, hq, rfl⟩ := hs.queue
  exact hq

theorem msgQueue_only {msg : QueueMessage} {timer scanning bit : Bool}
    (hs : Standing [msg] timer scanning bit s) : s.msgQueue = some (only msg) := by
  obtain ⟨⟨items, hbound⟩, hq, rfl⟩ := hs.queue
  exact hq

/-- Nobody but the manager task has a turn, and it takes the only message. -/
theorem turn_of_only {msg : QueueMessage} {bit : Bool} (hs : Standing [msg] false false bit s) :
    ScanTurn country (s, channels) y ↔
      Alone (scanMachine country) .server (wifiManagerTaskHandle msg)
        ({ s with msgQueue := some .empty }, channels) () y := by
  rw [turn_iff hs, round_only (msgQueue_only hs)]
  simp

theorem not_turn {bit : Bool} (hs : Standing [] false false bit s) :
    ¬ ScanTurn country (s, channels) y := by
  rw [turn_iff hs]
  simp [round_nil (msgQueue_nil hs)]

theorem exists_client_iff {P : ℕ → Prop} {Q : Prop} (h : ∀ i, P i ↔ Q) : (∃ i, P i) ↔ Q :=
  ⟨fun ⟨i, hi⟩ => (h i).mp hi, fun hQ => ⟨0, (h 0).mpr hQ⟩⟩

theorem turn_of_timer {bit : Bool} (hs : Standing [] true false bit s) :
    ScanTurn country (s, channels) y ↔
      y = ({ s with scanTimer := false, msgQueue := some (only .eventScanNext) }, channels) := by
  have hq := msgQueue_nil hs
  rw [turn_iff hs]
  simp only [round_nil hq, false_or, true_and, Bool.false_eq_true, false_and, or_false]
  exact exists_client_iff fun i => send_iff (s := { s with scanTimer := false }) hs.mutex hq

theorem turn_of_scanning {bit : Bool} (hs : Standing [] false true bit s) :
    ScanTurn country (s, channels) y ↔
      y = ({ s with
        driver := { s.driver with scanning := false }
        msgQueue := some (only .eventScanDone) }, channels) := by
  have hq := msgQueue_nil hs
  rw [turn_iff hs]
  simp only [round_nil hq, false_or, true_and, Bool.false_eq_true, false_and]
  exact exists_client_iff fun i =>
    send_iff (s := { s with driver := { s.driver with scanning := false } }) hs.mutex hq

end Turns

/-! ### A scan goes through its stages -/

section Stages

variable {country : WifiCountry} {x : ScanState} {lastChan : UInt8} {n : ℕ}

theorem channelsFromOne_succ (n : ℕ) :
    channelsFromOne (n + 1) = channelsFromOne n ++ [UInt8.ofNat (n + 1)] := by
  unfold channelsFromOne
  rw [List.range'_concat, List.map_append, Nat.one_mul, Nat.add_comm 1 n]
  rfl

/-- There is a turn, and every turn leads to a state in which `P` holds. -/
def Leads (country : WifiCountry) (x : ScanState) (P : ScanState → Prop) : Prop :=
  (∃ y, ScanTurn country x y) ∧ ∀ y, ScanTurn country x y → P y

theorem leads_of_eq {P : ScanState → Prop} {z : ScanState} (h : ∀ y, ScanTurn country x y ↔ y = z)
    (hz : P z) : Leads country x P := by
  refine ⟨⟨z, (h z).mpr rfl⟩, fun y hy => ?_⟩
  rw [(h y).mp hy]
  exact hz

theorem ordered_leads (hlast : country.schan + country.nchan - 1 ≠ 0)
    (hx : Stage.At lastChan x .ordered) :
    Leads country x (Stage.At (country.schan + country.nchan - 1) · (.armed 0)) := by
  obtain ⟨s, channels⟩ := x
  obtain ⟨hs, rfl⟩ := hx
  refine leads_of_eq (fun y => (turn_of_only hs).trans (handle_startWifiScan hs.bit hlast)) ?_
  have hset : s.eventBits.set [.scan] .scan = true := EventBits.set_of_mem (by simp)
  exact ⟨⟨hs.mutex, hs.task, ⟨_, rfl, rfl⟩, rfl, hs.scanning, hset⟩, rfl, rfl, rfl⟩

theorem armed_leads (hx : Stage.At lastChan x (.armed n)) :
    Leads country x (Stage.At lastChan · (.posted n)) := by
  obtain ⟨s, channels⟩ := x
  obtain ⟨hs, hc⟩ := hx
  refine leads_of_eq (fun y => turn_of_timer hs) ?_
  exact ⟨⟨hs.mutex, hs.task, ⟨_, rfl, rfl⟩, rfl, hs.scanning, hs.bit⟩, hc.curChan, hc.lastChan,
    hc.channels⟩

theorem posted_leads (hx : Stage.At lastChan x (.posted n)) :
    Leads country x (Stage.At lastChan · (.scanning (n + 1))) := by
  obtain ⟨s, channels⟩ := x
  obtain ⟨hs, hc⟩ := hx
  refine leads_of_eq (fun y => (turn_of_only hs).trans handle_scanNext) ?_
  refine ⟨⟨hs.mutex, hs.task, ⟨_, rfl, rfl⟩, hs.timer, rfl, hs.bit⟩, hc.curChan, hc.lastChan, ?_⟩
  change channels ++ [s.scanInfo.curChan] = _
  rw [channelsFromOne_succ, ← hc.channels, ← hc.curChan]

theorem scanning_leads (hx : Stage.At lastChan x (.scanning n)) :
    Leads country x (Stage.At lastChan · (.found n)) := by
  obtain ⟨s, channels⟩ := x
  obtain ⟨hs, hc⟩ := hx
  refine leads_of_eq (fun y => turn_of_scanning hs) ?_
  exact ⟨⟨hs.mutex, hs.task, ⟨_, rfl, rfl⟩, hs.timer, rfl, hs.bit⟩, hc.curChan, hc.lastChan,
    hc.channels⟩

theorem found_leads (hx : Stage.At lastChan x (.found n)) :
    Leads country x (Stage.At lastChan ·
      (if (n + 1) % 256 > lastChan.toNat then .done n else .armed n)) := by
  obtain ⟨s, channels⟩ := x
  obtain ⟨hs, hc⟩ := hx
  have hcur : (s.scanInfo.curChan + 1).toNat = (n + 1) % 256 := by
    have := hc.curChan
    simp only at this
    rw [this]
    simp
  have hlast : s.scanInfo.lastChan = lastChan := hc.lastChan
  have hcompare : s.scanInfo.lastChan < s.scanInfo.curChan + 1 ↔ (n + 1) % 256 > lastChan.toNat := by
    rw [UInt8.lt_iff_toNat_lt, hcur, hlast]
  have hmutex : { s with msgQueue := some .empty }.mutex = .free := hs.mutex
  split
  · rename_i h
    have hturn (y) : ScanTurn country (s, channels) y ↔ _ := (turn_of_only hs).trans
      (handle_scanDone_last hmutex (hcompare.mpr h))
    refine ⟨⟨_, (hturn _).mpr ⟨[], rfl⟩⟩, fun y hy => ?_⟩
    obtain ⟨found, rfl⟩ := (hturn y).mp hy
    have hclear : s.eventBits.clear [.scan] .scan = false := EventBits.clear_of_mem (by simp)
    refine ⟨⟨hs.mutex, hs.task, ⟨_, rfl, rfl⟩, hs.timer, hs.scanning, hclear⟩, ?_, hc.channels⟩
    change s.scanSyncSema.map _ ≠ _
    cases s.scanSyncSema <;> simp
  · rename_i h
    have hturn (y) : ScanTurn country (s, channels) y ↔ _ := (turn_of_only hs).trans
      (handle_scanDone_next hmutex (mt hcompare.mp h))
    refine ⟨⟨_, (hturn _).mpr ⟨[], rfl⟩⟩, fun y hy => ?_⟩
    obtain ⟨found, rfl⟩ := (hturn y).mp hy
    refine ⟨⟨hs.mutex, hs.task, ⟨_, rfl, rfl⟩, rfl, hs.scanning, hs.bit⟩, ?_, hlast, hc.channels⟩
    change s.scanInfo.curChan + 1 = _
    rw [← UInt8.toNat_inj, hcur]
    simp

/-- The turns of an undisturbed scan are the stages one after the other. -/
theorem bisimulation_stages (hlast : country.schan + country.nchan - 1 ≠ 0) :
    Inevitably.Bisimulation (ScanTurn country)
      (fun st st' => Stage.next (country.schan + country.nchan - 1).toNat st = some st')
      (fun st x => st.At (country.schan + country.nchan - 1) x) := by
  apply Inevitably.bisimulation_of_next
  · intro st x hx hnext y
    cases st with
    | done n => exact not_turn hx.1
    | _ => exact absurd hnext (by simp [Stage.next])
  · intro st x st' hx hnext
    cases st with
    | ordered =>
      obtain rfl := Option.some.inj hnext
      exact ordered_leads hlast hx
    | armed n =>
      obtain rfl := Option.some.inj hnext
      exact armed_leads hx
    | posted n =>
      obtain rfl := Option.some.inj hnext
      exact posted_leads hx
    | scanning n =>
      obtain rfl := Option.some.inj hnext
      exact scanning_leads hx
    | found n =>
      obtain rfl := Option.some.inj hnext
      exact found_leads hx
    | done n => exact absurd hnext (by simp [Stage.next])

/-- The stage at which a scan has been reported. -/
def Stage.IsReported (country : WifiCountry) : Stage → Prop
  | .done n => (channelsFromOne n).map UInt8.toNat = countryChannels country
  | _ => False

theorem scanReported_iff (hlast : country.schan + country.nchan - 1 ≠ 0) {st : Stage}
    (hx : st.At (country.schan + country.nchan - 1) x) :
    ScanReported country x ↔ st.IsReported country := by
  constructor
  · intro h
    cases st with
    | ordered =>
      obtain ⟨⟨y, hy⟩, -⟩ := ordered_leads hlast hx
      exact absurd hy (h.last y)
    | armed n | posted n | scanning n | found n => exact absurd (h.bit.symm.trans hx.1.bit) (by simp)
    | done n =>
      obtain ⟨-, -, hchannels⟩ := hx
      have hreported := h.channels
      rw [hchannels] at hreported
      exact hreported
  · intro h
    cases st with
    | done n =>
      obtain ⟨hs, hsema, hchannels⟩ := hx
      refine ⟨hs.bit, hsema, fun y => not_turn hs, ?_⟩
      rw [hchannels]
      exact h
    | _ => exact h.elim

end Stages

/-! ### Which countries are scanned as they should be -/

section Countries

variable {country : WifiCountry} {lastChan n : ℕ}

theorem toNat_channelsFromOne (h : n ≤ 255) :
    (channelsFromOne n).map UInt8.toNat = List.range' 1 n := by
  unfold channelsFromOne
  rw [List.map_map]
  conv_rhs => rw [← List.map_id (List.range' 1 n)]
  apply List.map_congr_left
  intro k hk
  have hk := List.mem_range'_1.mp hk
  simp
  omega

/-- The stages of a scan that ends: no channel beyond the last one is started. -/
def Stage.Within (lastChan : ℕ) : Stage → Prop
  | .ordered => True
  | .armed n | .posted n => n < lastChan
  | .scanning n | .found n => n ≤ lastChan
  | .done n => n = lastChan

theorem Stage.Within.next (hlast : lastChan < 255) {st st' : Stage} (hpos : 0 < lastChan)
    (h : st.Within lastChan) (hnext : st.next lastChan = some st') : st'.Within lastChan := by
  cases st with
  | ordered =>
    obtain rfl := Option.some.inj hnext
    exact hpos
  | armed n =>
    obtain rfl := Option.some.inj hnext
    exact h
  | posted n =>
    obtain rfl := Option.some.inj hnext
    exact h
  | scanning n =>
    obtain rfl := Option.some.inj hnext
    exact h
  | found n =>
    obtain rfl := Option.some.inj hnext
    have hn : n ≤ lastChan := h
    split
    · change n = lastChan
      omega
    · change n < lastChan
      omega
  | done n => exact absurd hnext (by simp [Stage.next])

/-- The turns that are left. -/
def Stage.left (lastChan : ℕ) : Stage → ℕ
  | .ordered => 4 * lastChan + 5
  | .armed n => 4 * (lastChan - n) + 2
  | .posted n => 4 * (lastChan - n) + 1
  | .scanning n => 4 * (lastChan - n) + 4
  | .found n => 4 * (lastChan - n) + 3
  | .done _ => 0

theorem Stage.left_next {st st' : Stage} (h : st.Within lastChan)
    (hnext : st.next lastChan = some st') : st'.left lastChan < st.left lastChan := by
  cases st with
  | ordered =>
    obtain rfl := Option.some.inj hnext
    simp only [Stage.left]
    omega
  | armed n =>
    obtain rfl := Option.some.inj hnext
    simp only [Stage.left]
    omega
  | posted n =>
    obtain rfl := Option.some.inj hnext
    have hn : n < lastChan := h
    simp only [Stage.left]
    omega
  | scanning n =>
    obtain rfl := Option.some.inj hnext
    simp only [Stage.left]
    omega
  | found n =>
    obtain rfl := Option.some.inj hnext
    split <;> simp only [Stage.left] <;> omega
  | done n => exact absurd hnext (by simp [Stage.next])

/-- A scan up to the last 8-bit channel does not end: the counter never exceeds it. -/
theorem Stage.not_done_next {st st' : Stage} (hnext : st.next 255 = some st') (n : ℕ) :
    st' ≠ .done n := by
  rintro rfl
  cases st with
  | found k =>
    have hle : ¬ (k + 1) % 256 > 255 := by omega
    rw [Stage.next, if_neg hle] at hnext
    exact absurd hnext (by simp)
  | _ => exact absurd hnext (by simp [Stage.next])

theorem range'_eq_iff {k m : ℕ} (hn : 0 < n) : List.range' 1 n = List.range' k m ↔ k = 1 ∧ m = n := by
  constructor
  · intro h
    have hlength := congrArg List.length h
    simp only [List.length_range'] at hlength
    subst hlength
    have hhead := congrArg List.head? h
    simp [List.head?_range', hn.ne'] at hhead
    exact ⟨hhead.symm, rfl⟩
  · rintro ⟨rfl, rfl⟩
    rfl

/-- The stages of a scan come to an end with the channels of the country. -/
theorem stages_iff (hfirst : 1 ≤ country.schan.toNat) (hnum : 1 ≤ country.nchan.toNat)
    (hlast : lastChan = country.schan.toNat + country.nchan.toNat - 1) (hmax : lastChan ≤ 255) :
    Inevitably (fun st st' => Stage.next lastChan st = some st') (Stage.IsReported country) .ordered ↔
      country.schan = 1 ∧ country.nchan ≠ 255 := by
  have hpos : 0 < lastChan := by omega
  constructor
  · intro h
    rcases hmax.lt_or_eq with hlt | heq
    · obtain ⟨st, hwithin, hreported⟩ := h.exists_of_keeps (I := Stage.Within lastChan)
        (fun st st' => Stage.Within.next hlt hpos) trivial
      cases st with
      | done n =>
        obtain rfl : n = lastChan := hwithin
        change List.map _ _ = _ at hreported
        rw [toNat_channelsFromOne hmax] at hreported
        obtain ⟨hs, hn⟩ := (range'_eq_iff hpos).mp hreported
        refine ⟨UInt8.toNat_inj.mp hs, ?_⟩
        rintro hn255
        rw [hn255] at hn
        have : (255 : UInt8).toNat = 255 := rfl
        omega
      | _ => exact hreported.elim
    · subst heq
      obtain ⟨st, hnot, hreported⟩ := h.exists_of_keeps (I := fun st => ∀ n, st ≠ .done n)
        (fun st st' _ hnext => Stage.not_done_next hnext) (by simp)
      cases st with
      | done n => exact absurd rfl (hnot n)
      | _ => exact hreported.elim
  · rintro ⟨hs, hn⟩
    have hs : country.schan.toNat = 1 := by rw [hs]; rfl
    have hn : country.nchan.toNat ≠ 255 := fun h => hn (UInt8.toNat_inj.mp h)
    have hlt : lastChan < 255 := by omega
    refine Inevitably.of_measure (I := Stage.Within lastChan) (m := Stage.left lastChan) ?_ ?_ trivial
    · intro st hwithin hnot
      cases st with
      | ordered | armed n | posted n | scanning n | found n => exact ⟨_, rfl⟩
      | done n =>
        obtain rfl : n = lastChan := hwithin
        refine absurd ?_ hnot
        change List.map _ _ = _
        rw [toNat_channelsFromOne hmax]
        refine (range'_eq_iff hpos).mpr ⟨hs, ?_⟩
        omega
    · intro st st' hwithin _ hnext
      exact ⟨hwithin.next hlt hpos hnext, Stage.left_next hwithin hnext⟩

end Countries

variable {country : WifiCountry} {s : WifiState}

/-- A scan comes to its end if and only if its stages do. -/
theorem scan_iff_stages (hfirst : 1 ≤ country.schan.toNat) (hnum : 1 ≤ country.nchan.toNat)
    (hmax : country.schan.toNat + country.nchan.toNat - 1 ≤ 255) (hs : ScanOrdered s) :
    Inevitably (ScanTurn country) (ScanReported country) (s, []) ↔
      Inevitably (fun st st' =>
        Stage.next (country.schan.toNat + country.nchan.toNat - 1) st = some st')
        (Stage.IsReported country) .ordered := by
  have hone : (1 : UInt8).toNat = 1 := rfl
  have hlast : (country.schan + country.nchan - 1).toNat =
      country.schan.toNat + country.nchan.toNat - 1 := by
    rw [UInt8.toNat_sub, UInt8.toNat_add, hone]
    omega
  have hne : country.schan + country.nchan - 1 ≠ 0 := by
    intro h
    have hzero : (country.schan + country.nchan - 1).toNat = 0 := by rw [h]; rfl
    omega
  have hstart : Stage.At (country.schan + country.nchan - 1) (s, []) .ordered := ⟨hs, rfl⟩
  rw [← hlast]
  exact Inevitably.iff_abstract (bisimulation_stages hne) (fun st x => scanReported_iff hne) hstart

/-- Every undisturbed scan ends, and is reported, with the channels of the country if and only if
the first channel is 1 and the last one is not 255. -/
theorem scan_covers_iff (hfirst : 1 ≤ country.schan.toNat) (hnum : 1 ≤ country.nchan.toNat)
    (hmax : country.schan.toNat + country.nchan.toNat - 1 ≤ 255) (hs : ScanOrdered s) :
    Inevitably (ScanTurn country) (ScanReported country) (s, []) ↔
      country.schan = 1 ∧ country.nchan ≠ 255 := by
  rw [scan_iff_stages hfirst hnum hmax hs]
  exact stages_iff hfirst hnum rfl hmax

/-- The manager task has been told to scan and has done nothing yet. -/
def orderedState : WifiState :=
  { WifiState.started false homeConfig with
    msgQueue := some (only .orderStartWifiScan)
    managerTask := .looping }

theorem orderedState_ordered : ScanOrdered orderedState :=
  ⟨rfl, rfl, ⟨_, rfl, rfl⟩, rfl, rfl, rfl⟩

/-- The channels of the default country are scanned. -/
theorem scan_covers_default :
    Inevitably (ScanTurn ⟨1, 13⟩) (ScanReported ⟨1, 13⟩) (orderedState, []) :=
  (scan_covers_iff (by decide) (by decide) (by decide) orderedState_ordered).mpr (by decide)

/-- A country with channel 14 only: the scan does not begin there. -/
theorem scan_misses_first : ¬ ∀ (country : WifiCountry) (s : WifiState),
    1 ≤ country.schan.toNat → 1 ≤ country.nchan.toNat →
      country.schan.toNat + country.nchan.toNat - 1 ≤ 255 → ScanOrdered s →
        Inevitably (ScanTurn country) (ScanReported country) (s, []) := by
  intro h
  have hcovers := h ⟨14, 1⟩ orderedState (by decide) (by decide) (by decide) orderedState_ordered
  rw [scan_iff_stages (by decide) (by decide) (by decide) orderedState_ordered] at hcovers
  have hone := ((stages_iff (by decide) (by decide) rfl (by decide)).mp hcovers).1
  exact absurd hone (by decide)

end ScanChannels

end WifiManager
end Esp32WifiManager
