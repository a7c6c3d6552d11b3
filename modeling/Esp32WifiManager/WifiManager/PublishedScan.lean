import Esp32WifiManager.Lib.Ranking
import Esp32WifiManager.WifiManager.Recorded
import Esp32WifiManager.WifiManager.UniqueAps

/-!
# What a scan publishes

`g_wifi_ap_records` is not cleared when a scan starts. The access points of each
channel join those of all scans before, so the list is one of the strongest
access points since the start, and of one scan only when these outdo the others.
-/

namespace Esp32WifiManager
namespace WifiManager

open CString TaskSystem WifiCall Ranking

/-- The access points that the driver has reported: in earlier scans, and in the current one for
each channel. -/
structure ScanLog where
  earlier : List WifiApRecord
  latest : List (List WifiApRecord)

namespace ScanLog

def empty : ScanLog := ⟨[], []⟩

def begin (log : ScanLog) : ScanLog := ⟨log.earlier ++ log.latest.flatten, []⟩

def report (log : ScanLog) (found : List WifiApRecord) : ScanLog :=
  { log with latest := log.latest ++ [found] }

def all (log : ScanLog) : List WifiApRecord := log.earlier ++ log.latest.flatten

@[simp] theorem all_begin (log : ScanLog) : log.begin.all = log.all := by simp [all, begin]

@[simp] theorem all_report (log : ScanLog) (found : List WifiApRecord) :
    (log.report found).all = log.all ++ found := by simp [all, report]

end ScanLog

/-- A scan begins with its bit, and a report is one that the driver gives without an error. -/
def noteScan (_ : TaskId) (o : WifiCall) (c : Reply) (_ : o.Ret) (log : ScanLog) : ScanLog :=
  match o with
  | xEventGroupSetBits mask => if .scan ∈ mask then log.begin else log
  | espWifiScanGetApRecords =>
    if c.err = espOk then log.report (c.records.take maxApNum) else log
  | _ => log

/-- The records that have a name. -/
def named (records : List WifiApRecord) : List WifiApRecord := records.filter fun x => !x.isBlank

/-- The list is that of the strongest access points of `found`. -/
abbrev StrongestOf (found list : List WifiApRecord) : Prop :=
  TopOf WifiApRecord.key WifiApRecord.rssi maxApNum (named found) list

namespace PublishedScan

theorem mem_named {records : List WifiApRecord} {ap : WifiApRecord} :
    ap ∈ named records ↔ ap ∈ records ∧ ap.isBlank = false := by
  simp [named]

/-- The first `num` records have names and rank what has been found, the others are blank. -/
structure ListOf (found : List WifiApRecord) (num : ℕ) (records : List WifiApRecord) : Prop where
  ranked : Ranked WifiApRecord.key WifiApRecord.rssi maxApNum (named found) (records.take num)
  names : ∀ ap ∈ records.take num, ap.isBlank = false
  blank : ∀ ap ∈ records.drop num, ap.isBlank = true

variable {found records portion : List WifiApRecord} {num : ℕ}

theorem ListOf.mem_take (h : ListOf found num records) {ap : WifiApRecord} (hap : ap ∈ records)
    (hnamed : ap.isBlank = false) : ap ∈ records.take num := by
  rw [← List.take_append_drop num records, List.mem_append] at hap
  rcases hap with hap | hap
  · exact hap
  · exact absurd ((h.blank ap hap).symm.trans hnamed) (by simp)

/-- Each key of the pool is left once, with its strongest signal. -/
theorem mergeOf_uniqueAps {pool merged : List WifiApRecord} (h : merged.Perm (uniqueAps pool)) :
    MergeOf WifiApRecord.key WifiApRecord.rssi (named pool) merged where
  nodup := (h.map WifiApRecord.key).nodup_iff.mpr (nodup_map_key_uniqueAps pool)
  reached := by
    intro ap hap
    have hunique := h.mem_iff.mp hap
    obtain ⟨x, hx, hkey, hrssi⟩ := (ofStrongest_uniqueAps hunique).reached
    have hnamed : x.isBlank = false := by
      rw [WifiApRecord.isBlank_eq hkey]
      exact isBlank_uniqueAps hunique
    exact ⟨x, mem_named.mpr ⟨hx, hnamed⟩, hkey, hrssi⟩
  merged := by
    intro x hx
    have hkey : x.key ∈ (uniqueAps pool).map (·.key) := by
      rw [map_key_uniqueAps, List.mem_eraseDups]
      exact List.mem_map_of_mem hx
    obtain ⟨ap, hap, hkey⟩ := List.mem_map.mp hkey
    refine ⟨ap, h.mem_iff.mpr hap, hkey, ?_⟩
    exact (ofStrongest_uniqueAps hap).bound x (mem_named.mp hx).1 hkey.symm

/-- What a report makes of the list. -/
theorem ListOf.report (h : ListOf found num records) (hportion : portion.length ≤ maxApNum) :
    let (unique, num') := apListFilterUnique (espWifiScanStoreApRecords portion records)
    ListOf (found ++ portion) num' (apListSortByRssi unique num') := by
  set pool := espWifiScanStoreApRecords portion records with hpool
  obtain ⟨free, hfree, heq, -⟩ := apListFilterUnique_eq pool
  have hunique : ∀ ap ∈ uniqueAps pool, ap.isBlank = false := fun ap hap => isBlank_uniqueAps hap
  obtain ⟨sorted, hsort, hperm, hsorted⟩ :=
    @apListSortByRssiWith_spec _ sortsConsistent_mergeSort _ free hunique
  have hnamed : ∀ ap ∈ sorted, ap.isBlank = false :=
    fun ap hap => hunique ap (hperm.mem_iff.mp hap)
  have hpool : pool = records.take maxApNum ++ portion ++ records.drop (maxApNum + portion.length) := by
    rw [hpool, espWifiScanStoreApRecords, List.take_of_length_le hportion]
  rw [heq]
  dsimp only
  rw [apListSortByRssi_eq, hsort, ← hperm.length_eq]
  refine ⟨?_, ?_, ?_⟩
  · rw [List.take_left, named, List.filter_append]
    refine h.ranked.portion ?_ ?_ ?_ (mergeOf_uniqueAps hperm) hsorted
    · intro x hx
      obtain ⟨hmem, hblank⟩ := mem_named.mp hx
      rw [hpool, List.mem_append, List.mem_append] at hmem
      rcases hmem with (hmem | hmem) | hmem
      · exact .inl (h.mem_take (List.mem_of_mem_take hmem) hblank)
      · exact .inr (mem_named.mpr ⟨hmem, hblank⟩)
      · exact .inl (h.mem_take (List.mem_of_mem_drop hmem) hblank)
    · intro x hx
      refine mem_named.mpr ⟨?_, h.names x (List.mem_of_mem_take hx)⟩
      rw [List.take_take, Nat.min_comm, ← List.take_take] at hx
      rw [hpool]
      simp [List.mem_of_mem_take hx]
    · intro x hx
      obtain ⟨hmem, hblank⟩ := mem_named.mp hx
      refine mem_named.mpr ⟨?_, hblank⟩
      rw [hpool]
      simp [hmem]
  · rw [List.take_left]
    exact hnamed
  · rw [List.drop_left]
    exact hfree

/-! ### The phases of the manager task -/

/-- The list with a report that has not been merged yet. -/
def Stored (all pool : List WifiApRecord) : Prop :=
  ∃ found num records portion, ListOf found num records ∧ portion.length ≤ maxApNum ∧
    all = found ++ portion ∧ pool = espWifiScanStoreApRecords portion records

theorem Stored.sorted {all pool : List WifiApRecord} (h : Stored all pool) :
    ListOf all (apListFilterUnique pool).2
      (apListSortByRssi (apListFilterUnique pool).1 (apListFilterUnique pool).2) := by
  obtain ⟨found, num, records, portion, hlist, hportion, rfl, rfl⟩ := h
  exact hlist.report hportion

/-- The handler of `EVENT_SCAN_DONE` has stored a report, has read the list with it, or has written
the sorted list with its number of records still to come. -/
inductive Phase
  | rest
  | stored
  | read (pool : List WifiApRecord)
  | sorted (num : ℕ)

def Inv : Phase → WifiState × ScanLog → Prop
  | .rest, x => (∃ num, ListOf x.2.all num x.1.apRecords) ∧
      (x.2.latest ≠ [] → ListOf x.2.all x.1.apNum x.1.apRecords)
  | .stored, x => Stored x.2.all x.1.apRecords
  | .read pool, x => Stored x.2.all pool
  | .sorted num, x => ListOf x.2.all num x.1.apRecords

/-- A call that has nothing to do with the list. -/
structure Quiet (o : WifiCall) : Prop where
  records : .apRecords ∉ o.writes
  num : .apNum ∉ o.writes
  begins : ∀ mask, o = xEventGroupSetBits mask → .scan ∉ mask

variable {t : TaskId} {o : WifiCall} {c : Reply} {r : o.Ret} {x x' : WifiState × ScanLog} {φ : Phase}

theorem quiet_iff : Quiet o ↔ .apRecords ∉ o.writes ∧ .apNum ∉ o.writes ∧
    ∀ mask, o = xEventGroupSetBits mask → .scan ∉ mask :=
  ⟨fun ⟨h₁, h₂, h₃⟩ => ⟨h₁, h₂, h₃⟩, fun ⟨h₁, h₂, h₃⟩ => ⟨h₁, h₂, h₃⟩⟩

theorem note_quiet (ho : Quiet o) (log : ScanLog) : noteScan t o c r log = log := by
  cases o
  case xEventGroupSetBits mask => exact if_neg (ho.begins mask rfl)
  case espWifiScanGetApRecords => exact absurd (by simp [writes]) ho.records
  all_goals rfl

theorem quiet_client (ho : o.IsClientCall) : Quiet o := by
  obtain ⟨posts, ho⟩ := ho
  refine ⟨fun hw => absurd (ho.writes hw) (by decide), fun hw => absurd (ho.writes hw) (by decide), ?_⟩
  rintro mask rfl
  rcases ho with rfl | rfl | rfl | rfl <;> decide

theorem inv_kept (hrecords : x.1.Agree x'.1 .apRecords) (hnum : x.1.Agree x'.1 .apNum)
    (hlog : x'.2 = x.2) (h : Inv φ x) : Inv φ x' := by
  have hrecords : x'.1.apRecords = x.1.apRecords := hrecords
  have hnum : x'.1.apNum = x.1.apNum := hnum
  cases φ with
  | rest =>
    have hrest : (∃ num, ListOf x.2.all num x.1.apRecords) ∧
        (x.2.latest ≠ [] → ListOf x.2.all x.1.apNum x.1.apRecords) := h
    rw [← hlog, ← hrecords, ← hnum] at hrest
    exact hrest
  | stored =>
    have hstored : Stored x.2.all x.1.apRecords := h
    rw [← hlog, ← hrecords] at hstored
    exact hstored
  | read pool =>
    have hread : Stored x.2.all pool := h
    rw [← hlog] at hread
    exact hread
  | sorted num =>
    have hsorted : ListOf x.2.all num x.1.apRecords := h
    rw [← hlog, ← hrecords] at hsorted
    exact hsorted

theorem inv_quiet (ho : Quiet o) (h : Inv φ x)
    (he : (recording noteScan).exec t o c x = some (r, x')) : Inv φ x' := by
  obtain ⟨hexec, hlog⟩ := exec_withGhost he
  exact inv_kept (machine_agree hexec ho.records) (machine_agree hexec ho.num)
    (hlog.trans (note_quiet ho x.2)) h

def recordInvariant : RecordInvariant noteScan Phase where
  inv := Inv
  rest φ := φ = .rest
  assume _ _ _ := True
  client ho h _ he := inv_quiet (quiet_client ho) h he
  occur {φ s s' g} _ hagree _ h :=
    @inv_kept (s, g) (s', g) φ (hagree _ (by decide)) (hagree _ (by decide)) rfl h

theorem frames_quiet (ho : Quiet o) : recordInvariant.contract.Frames φ o :=
  fun _ _ hinv => ⟨trivial, fun _ _ _ _ he => inv_quiet ho hinv he⟩

/-- A scan begins. -/
theorem frames_begin : recordInvariant.contract.Frames .rest (xEventGroupSetBits [.scan]) := by
  rintro x w ⟨hlist, -⟩
  refine ⟨trivial, fun c r x' _ h => ?_⟩
  obtain ⟨he, hlog⟩ := exec_withGhost h
  have hlog : x'.2 = x.2.begin := hlog
  have hrecords : x'.1.apRecords = x.1.apRecords :=
    machine_agree (f := .apRecords) he (by simp [writes])
  refine ⟨?_, fun hne => absurd (by rw [hlog]; rfl) hne⟩
  rw [hlog, hrecords, ScanLog.all_begin]
  exact hlist

/-- Every round but that of `EVENT_SCAN_DONE`. -/
theorem taskHandle_frames {msg : QueueMessage} (hmsg : msg ≠ .eventScanDone) :
    (wifiManagerTaskHandle msg).All (recordInvariant.contract.Frames .rest) := by
  refine (wifiManagerTaskHandle_all msg).mono ?_
  have hquiet : ∀ o, Quiet o → recordInvariant.contract.Frames .rest o := fun _ => frames_quiet
  rintro o (ho | rfl | ⟨rfl, ho⟩)
  · cases msg
    case eventScanDone => exact absurd rfl hmsg
    case orderStartWifiScan =>
      by_cases hbegin : o = xEventGroupSetBits [.scan]
      · exact hbegin ▸ frames_begin
      · apply hquiet
        revert hbegin
        revert o
        simp [QueueMessage.MayCall, OfSender, or_imp, forall_and]
        simp [quiet_iff, writes]
    all_goals
      apply hquiet
      revert o
      simp [QueueMessage.MayCall, OfSender, OfLossUpdate, or_imp, forall_and]
      try simp [quiet_iff, writes, DriverCall.writes]
  · exact hquiet _ (by simp [quiet_iff, writes])
  · apply hquiet
    revert o
    simp [OfFinish, or_imp, forall_and]
    simp [quiet_iff, writes, DriverCall.writes]

theorem storeApRecords_take (found records : List WifiApRecord) :
    espWifiScanStoreApRecords (found.take maxApNum) records =
      espWifiScanStoreApRecords found records := by
  simp [espWifiScanStoreApRecords, List.take_take]

/-- The driver reports the access points of a channel, or fails. -/
theorem getApRecords_keeps {X : EspErr × ℕ → Phase → Prop} (hstored : ∀ r, r.1 = espOk → X r .stored)
    (hfailed : ∀ r, r.1 ≠ espOk → X r .rest) :
    recordInvariant.contract.Performs espWifiScanGetApRecords X .rest := by
  intro x w hinv
  refine ⟨trivial, fun c r x' _ h => ?_⟩
  obtain ⟨he, hlog⟩ := exec_withGhost h
  by_cases herr : c.err = espOk
  · have he : some ((c.err, (c.records.take maxApNum).length),
        { x.1 with apRecords := espWifiScanStoreApRecords c.records x.1.apRecords }) =
        some (r, x'.1) := (if_pos herr).symm.trans he
    obtain ⟨hr, hs⟩ := Prod.mk.inj (Option.some.inj he)
    have hlog : x'.2 = x.2.report (c.records.take maxApNum) := hlog.trans (if_pos herr)
    obtain ⟨⟨num, hlist⟩, -⟩ := hinv
    refine ⟨.stored, ⟨x.2.all, num, x.1.apRecords, c.records.take maxApNum, hlist,
      List.length_take_le _ _, ?_, ?_⟩, hstored r ?_⟩
    · rw [hlog, ScanLog.all_report]
    · rw [← hs, storeApRecords_take]
    · rw [← hr]
      exact herr
  · have he : some ((c.err, maxApNum), x.1) = some (r, x'.1) := (if_neg herr).symm.trans he
    obtain ⟨hr, hs⟩ := Prod.mk.inj (Option.some.inj he)
    have hlog : x'.2 = x.2 := hlog.trans (if_neg herr)
    have hkept : Inv .rest x' := by
      refine inv_kept ?_ ?_ hlog hinv
      · rw [← hs]
        rfl
      · rw [← hs]
        rfl
    refine ⟨.rest, hkept, hfailed r ?_⟩
    rw [← hr]
    exact herr

/-- The list is read, filtered, sorted and written back. -/
theorem sortApRecords_keeps (rest : ℕ → WifiProg Unit)
    (hrest : ∀ num, recordInvariant.contract.Keeps (rest num) (fun _ φ => φ = .rest) .rest) :
    recordInvariant.contract.Keeps (do
      let records ← call getApRecords
      call (setApRecords
        (apListSortByRssi (apListFilterUnique records).1 (apListFilterUnique records).2))
      call (setApNum (apListFilterUnique records).2)
      rest (apListFilterUnique records).2) (fun _ φ => φ = .rest) .stored := by
  apply Contract.keeps_perform
  intro x w hinv
  refine ⟨trivial, fun c records x' _ h => ⟨.read records, ?_, ?_⟩⟩
  · obtain ⟨he, hlog⟩ := exec_withGhost h
    have hlog : x'.2 = x.2 := hlog
    obtain ⟨hrecords, -⟩ := Prod.mk.inj (Option.some.inj he)
    change Stored x'.2.all records
    rw [hlog, ← hrecords]
    exact hinv
  apply Contract.keeps_perform
  intro x w hinv
  refine ⟨trivial, fun c r x' _ h => ⟨.sorted (apListFilterUnique records).2, ?_, ?_⟩⟩
  · obtain ⟨he, hlog⟩ := exec_withGhost h
    have hlog : x'.2 = x.2 := hlog
    obtain ⟨-, hs⟩ := Prod.mk.inj (Option.some.inj he)
    change ListOf x'.2.all _ x'.1.apRecords
    rw [hlog, ← hs]
    exact Stored.sorted hinv
  apply Contract.keeps_perform
  intro x w hinv
  refine ⟨trivial, fun c r x' _ h => ⟨.rest, ?_, hrest _⟩⟩
  obtain ⟨he, hlog⟩ := exec_withGhost h
  have hlog : x'.2 = x.2 := hlog
  obtain ⟨-, hs⟩ := Prod.mk.inj (Option.some.inj he)
  have hlist : ListOf x.2.all (apListFilterUnique records).2 x.1.apRecords := hinv
  have hwritten : ListOf x'.2.all x'.1.apNum x'.1.apRecords := by
    rw [hlog, ← hs]
    exact hlist
  exact ⟨⟨_, hwritten⟩, fun _ => hwritten⟩

theorem notify_quiet : wifiMangerNotifyScanDone.All Quiet := by
  unfold Prog.All
  simp [wifiMangerNotifyScanDone, Prog.perform, Prog.fold_call, Prog.fold_return, quiet_iff, writes]

theorem keeps_quiet {α : Type} {p : WifiProg α} (hp : p.All Quiet) :
    recordInvariant.contract.Keeps p (fun _ φ => φ = .rest) .rest :=
  Contract.keeps_frame (hp.mono fun _ ho => frames_quiet ho) fun _ => rfl

theorem scanDone_keeps :
    recordInvariant.contract.Keeps wifiHandleEvScanDone (fun _ φ => φ = .rest) .rest := by
  have hunlock : Quiet wifiManagerUnlock := by simp [quiet_iff, writes]
  unfold wifiHandleEvScanDone
  apply Contract.performs_frame (frames_quiet (by simp [quiet_iff, writes]))
  intro _
  apply Contract.keeps_perform
  apply getApRecords_keeps
  · rintro ⟨err, num⟩ rfl
    dsimp only
    rw [if_neg (not_not.mpr rfl)]
    refine sortApRecords_keeps (fun num => do
      let info ← call getScanInfo
      call (setScanInfo { info with numAccessPoints := if num ≥ maxApNum then maxApNum else num })
      let finished ← wifiScanNext
      if finished then
        wifiMangerNotifyScanDone
        call wifiManagerUnlock
      else
        call wifiManagerUnlock) fun num => ?_
    apply keeps_quiet
    unfold Prog.All
    simp [wifiScanNext, wifiMangerNotifyScanDone, Prog.perform, Prog.fold_call, Prog.fold_return,
      quiet_iff, writes]
  · rintro ⟨err, num⟩ hne
    dsimp only
    rw [if_pos hne]
    apply keeps_quiet
    exact .bind notify_quiet fun _ => .bind (.perform hunlock) fun _ => trivial

theorem taskRound_keeps : recordInvariant.contract.Keeps wifiManagerTaskRound
    (fun _ => recordInvariant.rest) .rest := by
  rw [wifiManagerTaskRound_eq]
  intro x w hinv
  refine ⟨trivial, fun c received x' _ h => ?_⟩
  obtain ⟨msg, rfl, -⟩ := queued_receive (t := .server) (c := c) (exec_withGhost h).1
  have hkept : Inv .rest x' := inv_quiet (by simp [quiet_iff, writes]) hinv h
  refine ⟨.rest, hkept, ?_⟩
  by_cases hmsg : msg = .eventScanDone
  · subst hmsg
    apply keeps_taskHandle (by simp)
    apply Contract.keeps_bind.mpr
    refine scanDone_keeps.mono ?_
    rintro _ _ rfl
    exact ⟨rfl, frames_quiet (by simp [quiet_iff, writes])⟩
  · exact Contract.keeps_frame (taskHandle_frames hmsg) fun _ => rfl

theorem sound : recordInvariant.contract.Sound := by
  apply RecordInvariant.sound
  rintro φ x p rfl hinv hp
  rcases serve_cases hp with ⟨-, rfl⟩ | ⟨-, rfl⟩
  · apply keeps_quiet
    unfold Prog.All
    simp [wifiManagerTaskBegin, wifiManagerWdtAddAndStart, Prog.perform, Prog.fold_call,
      Prog.fold_return, quiet_iff, writes, DriverCall.writes]
  · exact taskRound_keeps

end PublishedScan

/-- The start of a run with a record of the reports. -/
def scanLogStart (flag : Bool) (sta : WifimanConfigSta) :
    Config WifiCall WifiCall.Ret (WifiState × ScanLog) :=
  (WifiConfig.started flag sta).withGhost .empty

/-- The records that `wifi_manager_generate_access_points_json` prints. -/
def published (s : WifiState) : List WifiApRecord := jsonAccessPointsGenerate s.apRecords s.apNum

/-- The list is that of the strongest access points of all scans so far. -/
theorem published_all {flag : Bool} {sta : WifimanConfigSta} {labels : List WifiLabel}
    {cfg : Config WifiCall WifiCall.Ret (WifiState × ScanLog)}
    (h : Path (recording noteScan) (fun _ _ => True) (scanLogStart flag sta) labels cfg)
    (hdone : cfg.server.prog = .pure ()) (hscan : cfg.shared.2.latest ≠ []) :
    StrongestOf cfg.shared.2.all (published cfg.shared.1) := by
  have hstart : PublishedScan.Inv .rest (WifiState.started flag sta, ScanLog.empty) := by
    refine ⟨⟨0, ranked_nil, by simp, fun ap hap => ?_⟩, fun hne => absurd rfl hne⟩
    have hzero := List.eq_of_mem_replicate (List.mem_of_mem_drop hap)
    rw [hzero]
    exact WifiApRecord.isBlank_zero
  have hpromised : Path (recording noteScan) (Promised PublishedScan.recordInvariant.assume)
      (scanLogStart flag sta) labels cfg := by
    refine h.mono fun cfg l _ => ?_
    cases l with
    | arrive req => exact trivial
    | run t c => exact fun _ _ _ _ => trivial
  obtain ⟨φ, hholds⟩ := RecordInvariant.holds_of_path PublishedScan.sound rfl hstart hpromised
  have hrest := hholds.server
  rw [hdone] at hrest
  obtain rfl : φ = .rest := hrest
  obtain ⟨-, hlist⟩ := hholds.inv
  have htop := (hlist hscan).ranked.topOf
  have hprinted : published cfg.shared.1 =
      (cfg.shared.1.apRecords.take cfg.shared.1.apNum).take maxApNum := by
    unfold published jsonAccessPointsGenerate
    rw [List.take_take]
    split_ifs with hnum
    · rw [Nat.min_eq_right hnum]
    · rw [Nat.min_eq_left (by omega)]
  rw [hprinted]
  exact htop

/-- Once a scan has reported, its strongest access points are published when they outdo those of
earlier scans, and not when an earlier one that has not come again as strong is among the strongest. -/
theorem published_latest {flag : Bool} {sta : WifimanConfigSta} {labels : List WifiLabel}
    {cfg : Config WifiCall WifiCall.Ret (WifiState × ScanLog)}
    (h : Path (recording noteScan) (fun _ _ => True) (scanLogStart flag sta) labels cfg)
    (hdone : cfg.server.prog = .pure ()) (hscan : cfg.shared.2.latest ≠ []) :
    let earlier := named cfg.shared.2.earlier
    let latest := named cfg.shared.2.latest.flatten
    (Outdone WifiApRecord.key WifiApRecord.rssi maxApNum earlier latest →
      StrongestOf cfg.shared.2.latest.flatten (published cfg.shared.1)) ∧
    ∀ e ∈ earlier, (∀ x ∈ latest, x.key = e.key → x.rssi < e.rssi) →
      (((earlier ++ latest).filter fun x => decide (e.rssi ≤ x.rssi ∧ x.key ≠ e.key)).map
        WifiApRecord.key).toFinset.card < maxApNum →
          ¬ StrongestOf cfg.shared.2.latest.flatten (published cfg.shared.1) := by
  have hall := published_all h hdone hscan
  unfold StrongestOf ScanLog.all named at hall
  rw [List.filter_append] at hall
  exact ⟨hall.of_outdone, fun e he hlost hfew => hall.not_of_lost he hlost hfew⟩

/-! ### Two scans of one channel -/

/-- A scan in a country with one channel, on which `found` is found, and its caller. -/
def oneChannelScan (i : ℕ) (found : List WifiApRecord) : List WifiLabel :=
  let reply : Reply := { Reply.ok with country := ⟨1, 1⟩, records := found }
  let turn (t : TaskId) (n : ℕ) : List WifiLabel := List.replicate n (.run t reply)
  .arrive .scanSync :: turn (.client i) 8 ++ turn .server 10 ++
    .arrive .scanTimerExpired :: turn (.client (i + 1)) 4 ++ turn .server 5 ++
    .arrive .wifiEventScanDone :: turn (.client (i + 2)) 4 ++ turn .server 16 ++ turn (.client i) 9

def homeAp (rssi : ℤ) : WifiApRecord :=
  { WifiApRecord.zero with ssid := CharBuf.ofStr 33 (ascii "h"), rssi := rssi }

/-- An access point is found again, with a stronger signal. -/
theorem published_latest_again : ∃ labels cfg,
    Path (recording noteScan) (fun _ _ => True) (scanLogStart false homeConfig) labels cfg ∧
      cfg.shared.2.earlier ≠ [] ∧
      StrongestOf cfg.shared.2.latest.flatten (published cfg.shared.1) := by
  have hrun : (runWhere (recording noteScan) (promisedTest fun _ _ _ => true)
      (scanLogStart false homeConfig) (runs .server 4 ++ oneChannelScan 0 [homeAp (-70)] ++
        oneChannelScan 3 [homeAp (-50)])).any (fun cfg => cfg.server.prog.next.isNone &&
          !decide (cfg.shared.1.managerTask = .none) &&
            (decide (cfg.shared.2.earlier = [homeAp (-70)]) &&
              decide (cfg.shared.2.latest = [[homeAp (-50)]]))) = true := by
    decide +kernel
  obtain ⟨cfg, hpath, hdone, -, hlog⟩ := path_of_run (P := fun _ _ _ => True)
    (O := fun x : WifiState × ScanLog =>
      decide (x.2.earlier = [homeAp (-70)]) && decide (x.2.latest = [[homeAp (-50)]]))
    (fun _ _ _ _ => trivial) hrun
  simp only [Bool.and_eq_true, decide_eq_true_eq] at hlog
  obtain ⟨hearlier, hlatest⟩ := hlog
  have hpath := hpath.mono (Q := fun _ _ => True) fun _ _ _ => trivial
  refine ⟨_, cfg, hpath, by simp [hearlier], ?_⟩
  refine (published_latest hpath hdone (by simp [hlatest])).1 ?_
  rw [hearlier, hlatest]
  intro e he
  obtain rfl : e = homeAp (-70) := by simpa using (PublishedScan.mem_named.mp he).1
  refine .inl ⟨homeAp (-50), PublishedScan.mem_named.mpr ⟨by simp, by decide⟩, rfl, by decide⟩

/-- An access point that the latest scan has not found is still published. -/
theorem published_earlier : ¬ ∀ (flag : Bool) (sta : WifimanConfigSta) (labels : List WifiLabel)
    (cfg : Config WifiCall WifiCall.Ret (WifiState × ScanLog)),
    Path (recording noteScan) (fun _ _ => True) (scanLogStart flag sta) labels cfg →
      cfg.server.prog = .pure () → cfg.shared.2.latest ≠ [] →
        StrongestOf cfg.shared.2.latest.flatten (published cfg.shared.1) := by
  intro hclaim
  have hrun : (runWhere (recording noteScan) (promisedTest fun _ _ _ => true)
      (scanLogStart false homeConfig) (runs .server 4 ++ oneChannelScan 0 [homeAp (-50)] ++
        oneChannelScan 3 [])).any (fun cfg => cfg.server.prog.next.isNone &&
          !decide (cfg.shared.1.managerTask = .none) &&
            (decide (cfg.shared.2.latest = [[]]) &&
              decide (published cfg.shared.1 = [homeAp (-50)]))) = true := by
    decide +kernel
  obtain ⟨cfg, hpath, hdone, -, hlog⟩ := path_of_run (P := fun _ _ _ => True)
    (O := fun x : WifiState × ScanLog =>
      decide (x.2.latest = [[]]) && decide (published x.1 = [homeAp (-50)]))
    (fun _ _ _ _ => trivial) hrun
  simp only [Bool.and_eq_true, decide_eq_true_eq] at hlog
  obtain ⟨hlatest, hprinted⟩ := hlog
  have hpath := hpath.mono (Q := fun _ _ => True) fun _ _ _ => trivial
  have htop := hclaim _ _ _ cfg hpath hdone (by simp [hlatest])
  obtain ⟨x, hx, -⟩ := htop.reached (homeAp (-50)) (by simp [hprinted])
  rw [hlatest] at hx
  exact absurd hx (by simp [named])

end WifiManager
end Esp32WifiManager
