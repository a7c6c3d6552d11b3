import Esp32WifiManager.Lib.Monitor
import Esp32WifiManager.WifiManager.Deadlock
import Esp32WifiManager.WifiManager.UniqueAps

/-!
# What the tasks share

The handle of the message queue, the flag of the watchdog, the list of access
points and the semaphore of a scan are plain variables. They are touched under
the mutex, but for the manager task's own reads of its queue and the wait for
the semaphore, which is left to the task that has created it.
-/

namespace Esp32WifiManager
namespace WifiManager

open CString TaskSystem WifiCall

/-- Who has created the semaphore last, what each task has read of the list of access points, and
the lists that were printed, the first one first. -/
structure ApListLog where
  owner : TaskId
  read : TaskId → List WifiApRecord
  printed : List (List WifiApRecord)

def noteApList (t : TaskId) (o : WifiCall) (_ : Reply) (r : o.Ret) (g : ApListLog) : ApListLog :=
  match o, r with
  | osSemaCreate, _ => { g with owner := t }
  | getApRecords, records => { g with read := fun u => if u = t then records else g.read u }
  | getApNum, num => { g with printed := g.printed ++ [jsonAccessPointsGenerate (g.read t) num] }
  | _, _ => g

/-- A list that may be printed: nothing has been found yet, or every access point is listed once,
under its name, the strongest one first. -/
def Presentable (printed : List WifiApRecord) : Prop :=
  printed = List.replicate maxApNum .zero ∨
    (printed.map (·.key)).Nodup ∧ (∀ ap ∈ printed, ap.isBlank = false) ∧
      printed.Pairwise fun a b => b.rssi ≤ a.rssi

theorem presentable_initial :
    Presentable (jsonAccessPointsGenerate WifiState.zero.apRecords WifiState.zero.apNum) := by
  have hroom : maxApNum ≤ 2 * maxApNum := by decide
  exact .inl (by simp [jsonAccessPointsGenerate, WifiState.zero, List.take_replicate, hroom])

/-- What a finished channel leaves is presentable, and so is the part of it that is printed. -/
theorem presentable_sorted (records : List WifiApRecord) :
    Presentable (jsonAccessPointsGenerate
      (apListSortByRssi (apListFilterUnique records).1 (apListFilterUnique records).2)
      (apListFilterUnique records).2) := by
  obtain ⟨free, -, heq, -⟩ := apListFilterUnique_eq records
  have hnamed : ∀ ap ∈ uniqueAps records, ap.isBlank = false := fun ap => isBlank_uniqueAps
  obtain ⟨sorted, hsort, hperm, hsorted⟩ :=
    @apListSortByRssiWith_spec _ sortsConsistent_mergeSort _ free hnamed
  rw [heq, apListSortByRssi_eq, hsort]
  have hlength : sorted.length = (uniqueAps records).length := hperm.length_eq
  have hprinted : ∃ n, jsonAccessPointsGenerate (sorted ++ free) (uniqueAps records).length =
      sorted.take n := by
    unfold jsonAccessPointsGenerate
    rw [← hlength]
    split
    · exact ⟨sorted.length, by simp⟩
    · rename_i hlarge
      exact ⟨maxApNum, List.take_append_of_le_length (Nat.le_of_not_le hlarge)⟩
  obtain ⟨n, hprinted⟩ := hprinted
  rw [hprinted]
  refine .inr ⟨?_, fun ap hap => ?_, hsorted.sublist (List.take_sublist _ _)⟩
  · have hnodup : (sorted.map (·.key)).Nodup :=
      (hperm.map _).nodup_iff.mpr (nodup_map_key_uniqueAps records)
    exact hnodup.sublist ((List.take_sublist _ _).map _)
  · exact isBlank_uniqueAps (hperm.mem_iff.mp (List.mem_of_mem_take hap))

namespace SharedData

/-- What is behind the mutex; the semaphore is that of the task that has created it. -/
structure Data where
  queue : Bool
  sema : Option TaskId
  records : List WifiApRecord
  num : ℕ
  read : TaskId → List WifiApRecord

structure View where
  data : Data
  phase : TaskPhase

def view (x : WifiState × ApListLog) : View where
  data :=
    { queue := x.1.msgQueue.isSome
      sema := x.1.scanSyncSema.map fun _ => x.2.owner
      records := x.1.apRecords
      num := x.1.apNum
      read := x.2.read }
  phase := x.1.managerTask

/-- The calls that touch the shared variables and are left to the holder of the mutex. -/
def Guarded : WifiCall → Prop
  | isMsgQueueNull | xQueueCreate | xQueueSend _ _ | vQueueDelete | getFlagWdogFeedActive
  | setFlagWdogFeedActive _ | getApRecords | setApRecords _ | getApNum | setApNum _
  | espWifiScanGetApRecords | isScanSyncSemaNull | osSemaCreate | osSemaSignal | osSemaDelete => True
  | _ => False

/-- What a task has to find when it makes the call. -/
def Needs (t : TaskId) (o : WifiCall) (v : View) : Prop :=
  match o with
  | xQueueSend _ _ | xQueueReceive => v.data.queue = true
  | vQueueDelete => t = .server ∧ v.data.queue = true
  | xQueueCreate => t = .server ∧ v.data.queue = false
  | setManagerTask _ | osTaskCreateManager => t = .server
  | osSemaCreate => v.data.sema = none
  | osSemaSignal => v.data.sema.isSome = true
  | osSemaWait | osSemaDelete => v.data.sema = some t
  | getApNum => Presentable (jsonAccessPointsGenerate (v.data.read t) v.data.num)
  | _ => True

def Moves (t : TaskId) (o : WifiCall) (v : View) (r : o.Ret) (v' : View) : Prop :=
  match o, r with
  | isMsgQueueNull, isNull => isNull = !v.data.queue ∧ v' = v
  | xQueueCreate, created => v' = { v with data := { v.data with queue := created } }
  | vQueueDelete, _ => v' = { v with data := { v.data with queue := false } }
  | isScanSyncSemaNull, isNull => isNull = v.data.sema.isNone ∧ v' = v
  | osSemaCreate, _ => v' = { v with data := { v.data with sema := some t } }
  | osSemaDelete, _ => v' = { v with data := { v.data with sema := none } }
  | getApRecords, records => records = v.data.records ∧
      v' = { v with data := { v.data with
        read := fun u => if u = t then records else v.data.read u } }
  | setApRecords records, _ => v' = { v with data := { v.data with records := records } }
  | espWifiScanGetApRecords, (err, _) =>
    ∃ records, v' = { v with data := { v.data with records := records } } ∧
      (err ≠ espOk → records = v.data.records)
  | getApNum, num => num = v.data.num ∧ v' = v
  | setApNum num, _ => v' = { v with data := { v.data with num := num } }
  | setManagerTask phase, _ => v' = { v with phase := phase }
  | osTaskCreateManager, created => v' = { v with phase := if created then .created else v.phase }
  | _, _ => v' = v

/-- Only the manager task closes its queue and changes its own phase, and only the task that has
created the semaphore deletes it. -/
structure Rely (t : TaskId) (v v' : View) : Prop where
  queue : t = .server → v'.data.queue = v.data.queue
  phase : t = .server → v'.phase = v.phase
  sema : v.data.sema = some t → v'.data.sema = some t

theorem Rely.refl (t : TaskId) (v : View) : Rely t v v := ⟨fun _ => rfl, fun _ => rfl, id⟩

theorem Rely.trans {t : TaskId} {v v' v'' : View} (h : Rely t v v') (h' : Rely t v' v'') :
    Rely t v v'' :=
  ⟨fun ht => (h'.queue ht).trans (h.queue ht), fun ht => (h'.phase ht).trans (h.phase ht),
    fun hv => h'.sema (h.sema hv)⟩

/-- The monitor sees only what it looks at. -/
theorem view_eq {x x' : WifiState × ApListLog}
    (hqueue : x'.1.msgQueue.isSome = x.1.msgQueue.isSome)
    (hsema : x'.1.scanSyncSema.map (fun _ => x'.2.owner) = x.1.scanSyncSema.map fun _ => x.2.owner)
    (hrecords : x'.1.apRecords = x.1.apRecords) (hnum : x'.1.apNum = x.1.apNum)
    (hread : x'.2.read = x.2.read) (htask : x'.1.managerTask = x.1.managerTask) :
    view x' = view x := by
  unfold view
  rw [hqueue, hsema, hrecords, hnum, hread, htask]

/-- A call that writes nothing of what the monitor looks at. -/
theorem view_quiet {t : TaskId} {o : WifiCall} {c : Reply} {r : o.Ret} {s s' : WifiState}
    (h : machine.exec t o c s = some (r, s')) (g : ApListLog)
    (ho : ∀ f ∈ [Field.msgQueue, .scanSyncSema, .apRecords, .apNum, .managerTask], f ∉ o.writes) :
    view (s', g) = view (s, g) := by
  have hagree : ∀ f ∈ [Field.msgQueue, .scanSyncSema, .apRecords, .apNum, .managerTask],
      s.Agree s' f := fun f hf => machine_agree h (ho f hf)
  have hqueue : s'.msgQueue = s.msgQueue := hagree .msgQueue (by simp)
  have hsema : s'.scanSyncSema = s.scanSyncSema := hagree .scanSyncSema (by simp)
  apply view_eq
  · rw [hqueue]
  · rw [hsema]
  · exact hagree .apRecords (by simp)
  · exact hagree .apNum (by simp)
  · rfl
  · exact hagree .managerTask (by simp)

theorem exec_moves {t : TaskId} {o : WifiCall} {c : Reply} {r : o.Ret} {x x' : WifiState × ApListLog}
    (h : (machine.withGhost noteApList).exec t o c x = some (r, x')) :
    Moves t o (view x) r (view x') := by
  obtain ⟨he, hlog⟩ := exec_withGhost h
  obtain ⟨s, g⟩ := x
  obtain ⟨s', g'⟩ := x'
  obtain rfl : g' = noteApList t o c r g := hlog
  dsimp only at he
  cases o
  case xQueueSend msg timeout =>
    rcases exec_xQueueSend (t := t) (c := c) he with ⟨rfl, -, -⟩ | ⟨q, q', hq, -, -, rfl⟩
    · rfl
    · exact view_eq (by simp [hq]) rfl rfl rfl rfl rfl
  case xQueueReceive =>
    obtain ⟨q, msg, q', hq, -, -, rfl⟩ := exec_xQueueReceive (t := t) (c := c) he
    exact view_eq (by simp [hq]) rfl rfl rfl rfl rfl
  case xQueueCreate =>
    simp only [machine, exec] at he
    split at he <;>
    · obtain ⟨rfl, rfl⟩ := Prod.mk.inj (Option.some.inj he)
      rfl
  case osSemaWait =>
    simp only [machine, exec] at he
    split at he
    · rename_i hsema
      obtain ⟨-, rfl⟩ := Prod.mk.inj (Option.some.inj he)
      exact view_eq rfl (by simp [hsema, noteApList]) rfl rfl rfl rfl
    · exact absurd he (by simp)
  case osSemaSignal =>
    obtain ⟨-, rfl⟩ := Prod.mk.inj (Option.some.inj he)
    exact view_eq rfl (by simp [noteApList, Function.comp_def]) rfl rfl rfl rfl
  case espWifiScanGetApRecords =>
    simp only [machine, exec] at he
    split at he
    · rename_i herr
      obtain ⟨rfl, rfl⟩ := Prod.mk.inj (Option.some.inj he)
      exact ⟨_, rfl, fun hne => absurd herr hne⟩
    · obtain ⟨rfl, rfl⟩ := Prod.mk.inj (Option.some.inj he)
      exact ⟨_, rfl, fun _ => rfl⟩
  case osTaskCreateManager =>
    simp only [machine, exec] at he
    split at he <;>
    · obtain ⟨rfl, rfl⟩ := Prod.mk.inj (Option.some.inj he)
      rfl
  case isMsgQueueNull | isScanSyncSemaNull =>
    obtain ⟨rfl, rfl⟩ := Prod.mk.inj (Option.some.inj he)
    exact ⟨by simp [view], rfl⟩
  case getApRecords | getApNum =>
    obtain ⟨rfl, rfl⟩ := Prod.mk.inj (Option.some.inj he)
    exact ⟨rfl, rfl⟩
  case vQueueDelete | osSemaCreate | osSemaDelete | setApRecords | setApNum | setManagerTask =>
    obtain ⟨-, rfl⟩ := Prod.mk.inj (Option.some.inj he)
    rfl
  case driver d =>
    apply view_quiet he
    cases d <;> simp [writes, DriverCall.writes]
  all_goals
    apply view_quiet he
    simp [writes]

/-- Calls without the mutex leave what is behind it alone. -/
theorem data_kept {t : TaskId} {o : WifiCall} {v v' : View} {r : o.Ret} (ho : ¬ Guarded o)
    (h : Moves t o v r v') : v'.data = v.data := by
  cases o <;> first
    | exact absurd trivial ho
    | (obtain rfl := h; rfl)

theorem moves_rely {t u : TaskId} {o : WifiCall} {v v' : View} {r : o.Ret} (hneeds : Needs t o v)
    (h : Moves t o v r v') (hu : u ≠ t) : Rely u v v' := by
  cases o
  case xQueueCreate | vQueueDelete =>
    obtain rfl := h
    exact ⟨fun hserver => absurd (hserver.trans hneeds.1.symm) hu, fun _ => rfl, id⟩
  case setManagerTask | osTaskCreateManager =>
    obtain rfl := h
    exact ⟨fun _ => rfl, fun hserver => absurd (hserver.trans hneeds.symm) hu, id⟩
  case osSemaCreate =>
    obtain rfl := h
    have hnone : v.data.sema = none := hneeds
    exact ⟨fun _ => rfl, fun _ => rfl, fun hv => absurd (hnone.symm.trans hv) (by simp)⟩
  case osSemaDelete =>
    obtain rfl := h
    have hsome : v.data.sema = some t := hneeds
    refine ⟨fun _ => rfl, fun _ => rfl, fun hv => ?_⟩
    exact absurd (Option.some.inj (hv.symm.trans hsome)) hu
  case isMsgQueueNull | isScanSyncSemaNull | getApNum =>
    obtain ⟨-, rfl⟩ := h
    exact .refl u v'
  case getApRecords =>
    obtain ⟨-, rfl⟩ := h
    exact ⟨fun _ => rfl, fun _ => rfl, id⟩
  case espWifiScanGetApRecords =>
    obtain ⟨records, rfl, -⟩ := h
    exact ⟨fun _ => rfl, fun _ => rfl, id⟩
  all_goals
    obtain rfl := h
    exact ⟨fun _ => rfl, fun _ => rfl, id⟩

theorem guarded_kind {o : WifiCall} (ho : Guarded o) : o.kind ≠ .lock ∧ o.kind ≠ .unlock := by
  constructor
  · intro hk
    rw [kind_eq_lock.mp hk] at ho
    exact ho
  · intro hk
    rw [kind_eq_unlock.mp hk] at ho
    exact ho

/-- The shared variables of the manager, behind its mutex. -/
def monitor : Monitor (mailbox.withGhost noteApList) View where
  view := view
  inv v := Presentable (jsonAccessPointsGenerate v.data.records v.data.num)
  guarded := Guarded
  needs := Needs
  moves := Moves
  kept v v' := v'.data = v.data
  rely := Rely
  done t v := t = .server → v.phase ≠ .none → v.data.queue = true
  kept_refl _ := rfl
  kept_trans h h' := h'.trans h
  rely_refl := Rely.refl
  rely_trans := Rely.trans
  inv_kept h hinv := by
    rw [h]
    exact hinv
  view_lock hk h := by
    obtain rfl := kind_eq_lock.mp hk
    exact exec_moves h
  view_unlock hk h := by
    obtain rfl := kind_eq_unlock.mp hk
    exact exec_moves h
  exec_moves := exec_moves
  exec_kept ho h := data_kept ho (exec_moves h)
  moves_rely := moves_rely

/-! ### Programs that leave what they find -/

/-- Calls that the monitor takes no notice of. -/
def Free : WifiCall → Prop
  | wifiManagerLock | wifiManagerUnlock | xQueueReceive | osSemaWait | setManagerTask _
  | osTaskCreateManager => False
  | o => ¬ Guarded o

/-- A program that is left with the mutex held `n` times: it sends when it has seen the queue, and
signals when it has seen the semaphore. -/
def orderly (n : ℕ) (o : WifiCall) (X : o.Ret → ℕ → Bool → Bool → Prop) (d : ℕ)
    (queue sema : Bool) : Prop :=
  match o, X with
  | wifiManagerLock, X => X () (d + 1) queue sema
  | wifiManagerUnlock, X => n < d ∧ X () (d - 1) false false
  | isMsgQueueNull, X => 0 < d ∧ X true d queue sema ∧ X false d true sema
  | xQueueSend _ _, X => 0 < d ∧ queue = true ∧ ∀ sent, X sent d queue sema
  | isScanSyncSemaNull, X => 0 < d ∧ X true d queue sema ∧ X false d queue true
  | osSemaSignal, X => 0 < d ∧ sema = true ∧ X () d queue sema
  | getFlagWdogFeedActive, X => 0 < d ∧ ∀ active, X active d queue sema
  | setFlagWdogFeedActive _, X => 0 < d ∧ X () d queue sema
  | o, X => Free o ∧ ∀ r, X r d queue sema

def Orderly {α : Type} (n : ℕ) (p : WifiProg α) : ℕ → Bool → Bool → Prop :=
  p.fold (orderly n) fun _ d _ _ => d = n

theorem Free.moves {t : TaskId} {o : WifiCall} {v v' : View} {r : o.Ret} (ho : Free o)
    (h : Moves t o v r v') : v' = v := by
  cases o <;> first
    | exact h
    | exact absurd ho not_false
    | exact absurd trivial ho

theorem Free.needs {t : TaskId} {o : WifiCall} {v : View} (ho : Free o) : Needs t o v := by
  cases o <;> first
    | exact trivial
    | exact absurd ho not_false
    | exact absurd trivial ho

theorem Free.not_guarded {o : WifiCall} (ho : Free o) : ¬ Guarded o := by
  cases o <;> first
    | exact ho
    | exact absurd ho not_false

theorem Free.kind {o : WifiCall} (ho : Free o) : o.kind ≠ .lock ∧ o.kind ≠ .unlock := by
  constructor
  · intro hk
    rw [kind_eq_lock.mp hk] at ho
    exact ho
  · intro hk
    rw [kind_eq_unlock.mp hk] at ho
    exact ho

section Orderly

variable {α : Type} {t : TaskId} {n : ℕ} {post : α → ℕ → View → Prop} {v₀ : View}

/-- What a task knows while it runs an orderly program, `d` times in the mutex. -/
structure Knows (t : TaskId) (n : ℕ) (v₀ : View) (d : ℕ) (queue sema : Bool) (v : View) : Prop where
  depth : n ≤ d
  queue : queue = true → 0 < d ∧ v.data.queue = true
  sema : sema = true → 0 < d ∧ v.data.sema.isSome = true
  inv : 0 < d → monitor.inv v
  between : monitor.Between t n v₀ v

variable {d : ℕ} {queue sema : Bool} {v v' : View}

/-- What the others do takes nothing of it away. -/
theorem Knows.wait (h : Knows t n v₀ d queue sema v) (hv : monitor.Between t d v v') :
    Knows t n v₀ d queue sema v' where
  depth := h.depth
  queue hq := by
    obtain ⟨hd, hqueue⟩ := h.queue hq
    have hdata : v'.data = v.data := hv.2 hd
    exact ⟨hd, by rw [hdata, hqueue]⟩
  sema hs := by
    obtain ⟨hd, hsema⟩ := h.sema hs
    have hdata : v'.data = v.data := hv.2 hd
    exact ⟨hd, by rw [hdata, hsema]⟩
  inv hd := monitor.inv_kept (hv.2 hd) (h.inv hd)
  between := h.between.trans ⟨hv.1, fun hn => hv.2 (hn.trans_le h.depth)⟩

theorem allows_guarded {o : WifiCall} {X : o.Ret → ℕ → View → Prop} (ho : Guarded o) (hd : 0 < d)
    (hneeds : Needs t o v) (hX : ∀ r v', Moves t o v r v' → X r d v') : monitor.allows t o X d v :=
  (Monitor.allows_call (guarded_kind ho).1 (guarded_kind ho).2).mpr ⟨fun _ => hd, hneeds, hX⟩

theorem allows_free {o : WifiCall} {X : o.Ret → ℕ → View → Prop} (ho : Free o)
    (hX : ∀ r, X r d v) : monitor.allows t o X d v :=
  (Monitor.allows_call ho.kind.1 ho.kind.2).mpr ⟨fun hg => absurd hg ho.not_guarded, ho.needs,
    fun r v' hm => by
      rw [ho.moves hm]
      exact hX r⟩

/-- An orderly program finds what it needs, and leaves nothing changed but by others. -/
theorem fine_of_orderly {p : WifiProg α} (h : Orderly n p d queue sema)
    (hknows : Knows t n v₀ d queue sema v)
    (hpost : ∀ a v', monitor.Between t n v₀ v' → (0 < n → monitor.inv v') → post a n v') :
    monitor.Fine t p post d v := by
  induction p generalizing d queue sema v with
  | pure a =>
    obtain rfl : d = n := h
    exact hpost a v hknows.between hknows.inv
  | call o k ih =>
    intro v₁ hv₁
    have hknows₁ := hknows.wait hv₁
    cases o
    case wifiManagerLock =>
      refine (Monitor.allows_lock rfl).mpr fun hinv r => ih r h { hknows₁ with
        depth := hknows₁.depth.trans (Nat.le_succ d)
        queue := fun hq => ⟨Nat.succ_pos d, (hknows₁.queue hq).2⟩
        sema := fun hs => ⟨Nat.succ_pos d, (hknows₁.sema hs).2⟩
        inv := fun _ => ?_ }
      rcases Nat.eq_zero_or_pos d with hd | hd
      · exact hinv hd
      · exact hknows₁.inv hd
    case wifiManagerUnlock =>
      obtain ⟨hdepth, hnext⟩ := h
      have hd : 0 < d := (Nat.zero_le n).trans_lt hdepth
      exact (Monitor.allows_unlock rfl).mpr ⟨hd, fun _ => hknows₁.inv hd, fun r => ih r hnext
        { depth := Nat.le_sub_one_of_lt hdepth
          queue := fun hq => absurd hq (by simp)
          sema := fun hs => absurd hs (by simp)
          inv := fun _ => hknows₁.inv hd
          between := hknows₁.between }⟩
    case isMsgQueueNull =>
      obtain ⟨hd, hnull, hqueue⟩ := h
      refine allows_guarded trivial hd trivial ?_
      rintro r v' ⟨hr, rfl⟩
      cases r with
      | true => exact ih true hnull hknows₁
      | false =>
        have hsome : v'.data.queue = true := by simpa using hr.symm
        exact ih false hqueue { hknows₁ with queue := fun _ => ⟨hd, hsome⟩ }
    case isScanSyncSemaNull =>
      obtain ⟨hd, hnull, hsema⟩ := h
      refine allows_guarded trivial hd trivial ?_
      rintro r v' ⟨hr, rfl⟩
      cases r with
      | true => exact ih true hnull hknows₁
      | false =>
        have hsome : v'.data.sema.isSome = true := by simpa using hr.symm
        exact ih false hsema { hknows₁ with sema := fun _ => ⟨hd, hsome⟩ }
    case xQueueSend msg timeout =>
      obtain ⟨hd, hqueue, hnext⟩ := h
      refine allows_guarded trivial hd (hknows₁.queue hqueue).2 ?_
      rintro r v' rfl
      exact ih r (hnext r) hknows₁
    case osSemaSignal =>
      obtain ⟨hd, hsema, hnext⟩ := h
      refine allows_guarded trivial hd (hknows₁.sema hsema).2 ?_
      rintro r v' rfl
      exact ih r hnext hknows₁
    case getFlagWdogFeedActive =>
      obtain ⟨hd, hnext⟩ := h
      refine allows_guarded trivial hd trivial ?_
      rintro r v' rfl
      exact ih r (hnext r) hknows₁
    case setFlagWdogFeedActive =>
      obtain ⟨hd, hnext⟩ := h
      refine allows_guarded trivial hd trivial ?_
      rintro r v' rfl
      exact ih r hnext hknows₁
    all_goals exact allows_free h.1 fun r => ih r (h.2 r) hknows₁

/-- An orderly program of a task that does not hold the mutex. -/
theorem fine_start {p : WifiProg α} (h : Orderly 0 p 0 false false)
    (hpost : ∀ a v', Rely t v v' → post a 0 v') : monitor.Fine t p post 0 v :=
  fine_of_orderly h ⟨le_rfl, fun hq => absurd hq (by simp), fun hs => absurd hs (by simp),
    fun hd => absurd hd (by simp), Monitor.between_refl⟩ fun a v' hv _ => hpost a v' hv.1

/-- The rest of a task in the mutex, up to its end. -/
theorem fine_rest {p : WifiProg α} (h : Orderly 0 p d false false) (hinv : monitor.inv v)
    (hpost : ∀ a v', Rely t v v' → post a 0 v') : monitor.Fine t p post d v :=
  fine_of_orderly h ⟨Nat.zero_le d, fun hq => absurd hq (by simp), fun hs => absurd hs (by simp),
    fun _ => hinv, Monitor.between_refl⟩ fun a v' hv _ => hpost a v' hv.1

theorem orderly_free {o : WifiCall} {X : o.Ret → ℕ → Bool → Bool → Prop} (ho : Free o)
    (hX : ∀ r, X r d queue sema) : orderly n o X d queue sema := by
  cases o <;> first
    | exact ⟨ho, hX⟩
    | exact absurd ho not_false
    | exact absurd trivial ho

end Orderly

/-! ### The programs of the clients -/

theorem free_of_plain {o : WifiCall} (ho : o.Plain) : Free o := by
  cases o <;> first
    | exact not_false
    | exact absurd ho not_false

theorem orderly_send (n d : ℕ) (hn : n ≤ d) (msg : QueueMessage) (timeout : Timeout)
    {X : Bool → ℕ → Bool → Bool → Prop} (hX : ∀ sent, X sent d false false) :
    (wifimanMsgSendWithTimeout msg timeout).fold (orderly n) X d false false := by
  simp [wifimanMsgSendWithTimeout, Prog.perform, Prog.fold_call, Prog.fold_return, orderly,
    Nat.lt_succ_of_le hn, hX]

/-- One call, and what follows it. -/
theorem fine_andThen {α : Type} {t : TaskId} {o : WifiCall} {f : o.Ret → WifiProg α}
    {post : α → ℕ → View → Prop} {d : ℕ} {v : View}
    (h : ∀ v', monitor.Between t d v v' →
      monitor.allows t o (fun r => monitor.Fine t (f r) post) d v') :
    monitor.Fine t (call o >>= f) post d v := h

/-- What the scan of `ap.json` does when its semaphore has been signalled. -/
def printed : WifiProg (Option (List WifiApRecord)) := do
  call wifiManagerLock
  call osSemaDelete
  call wifiManagerLock
  let records ← call getApRecords
  let num ← call getApNum
  let allocated ← call osCalloc
  call wifiManagerUnlock
  call wifiManagerUnlock
  return if allocated then some (jsonAccessPointsGenerate records num) else none

theorem fine_printed {t : TaskId} {post : Option (List WifiApRecord) → ℕ → View → Prop} {v : View}
    (hsema : v.data.sema = some t) (hpost : ∀ a v, post a 0 v) :
    monitor.Fine t printed post 0 v := by
  apply fine_andThen
  intro v₁ h₁
  have hsema₁ : v₁.data.sema = some t := h₁.1.sema hsema
  refine (Monitor.allows_lock rfl).mpr fun hinv _ => ?_
  have hinv₁ : monitor.inv v₁ := hinv rfl
  apply fine_andThen
  intro v₂ h₂
  have hdata₂ : v₂.data = v₁.data := h₂.2 Nat.one_pos
  have hinv₂ := monitor.inv_kept hdata₂ hinv₁
  refine allows_guarded trivial Nat.one_pos (by rw [Needs, hdata₂]; exact hsema₁) ?_
  rintro - v₃ rfl
  apply fine_andThen
  intro v₄ h₄
  have hinv₄ := monitor.inv_kept (h₄.2 Nat.one_pos) hinv₂
  refine (Monitor.allows_lock rfl).mpr fun _ _ => ?_
  apply fine_andThen
  intro v₅ h₅
  have hinv₅ := monitor.inv_kept (h₅.2 Nat.two_pos) hinv₄
  refine allows_guarded trivial Nat.two_pos trivial ?_
  rintro records v₆ ⟨rfl, rfl⟩
  apply fine_andThen
  intro v₇ h₇
  have hdata₇ : v₇.data = _ := h₇.2 Nat.two_pos
  -- what has been read is what the mutex has kept since
  have hread : Presentable (jsonAccessPointsGenerate (v₇.data.read t) v₇.data.num) := by
    rw [hdata₇]
    dsimp only
    rw [if_pos rfl]
    exact hinv₅
  have hinv₇ : monitor.inv v₇ := monitor.inv_kept hdata₇ hinv₅
  refine allows_guarded trivial Nat.two_pos hread ?_
  rintro num v₇ ⟨rfl, rfl⟩
  exact fine_rest (by simp [Orderly, Prog.perform, Prog.fold_call, Prog.fold_return, orderly, Free,
    Guarded]) hinv₇ fun a v' _ => hpost a v'

/-- The scan of `ap.json`: whoever goes on to the wait has created the semaphore, and reads the
list under one lock. -/
theorem fine_scanSync {t : TaskId} {post : Option (List WifiApRecord) → ℕ → View → Prop}
    (hpost : ∀ a v, post a 0 v) (v : View) : monitor.Fine t wifiManagerScanSync post 0 v := by
  unfold wifiManagerScanSync
  apply fine_andThen
  intro v₁ _
  refine (Monitor.allows_lock rfl).mpr fun hinv _ => ?_
  have hinv₁ : monitor.inv v₁ := hinv rfl
  apply fine_andThen
  intro v₂ h₂
  have hinv₂ := monitor.inv_kept (h₂.2 Nat.one_pos) hinv₁
  refine allows_guarded trivial Nat.one_pos trivial ?_
  rintro isNull v₂ ⟨hisNull, rfl⟩
  cases isNull with
  | false =>
    exact fine_rest (by simp [Orderly, Prog.perform, Prog.fold_call, Prog.fold_return, orderly])
      hinv₂ fun a v' _ => hpost a v'
  | true =>
    have hnone : v₂.data.sema = none := by simpa using hisNull
    simp only [Bool.not_true, Bool.false_eq_true, if_false]
    apply fine_andThen
    intro v₃ h₃
    have hdata₃ : v₃.data = v₂.data := h₃.2 Nat.one_pos
    have hinv₃ := monitor.inv_kept hdata₃ hinv₂
    refine allows_guarded trivial Nat.one_pos (by rw [Needs, hdata₃]; exact hnone) ?_
    rintro - v₄ rfl
    refine Monitor.fine_bind.mpr (fine_of_orderly (n := 1)
      (orderly_send 1 1 le_rfl .orderStartWifiScan .portMaxDelay fun _ => rfl)
      ⟨le_rfl, fun hq => absurd hq (by simp), fun hs => absurd hs (by simp), fun _ => hinv₃,
        Monitor.between_refl⟩ fun sent v₅ h₅ hinv₅ => ?_)
    have hdata₅ : v₅.data = _ := h₅.2 Nat.one_pos
    have hsema₅ : v₅.data.sema = some t := by rw [hdata₅]
    cases sent with
    | false =>
      exact fine_rest (by simp [Orderly, Prog.perform, Prog.fold_call, Prog.fold_return, orderly])
        (hinv₅ Nat.one_pos) fun a v' _ => hpost a v'
    | true =>
      simp only [Bool.not_true, Bool.false_eq_true, if_false]
      apply fine_andThen
      intro v₆ h₆
      refine (Monitor.allows_unlock rfl).mpr ⟨Nat.one_pos, fun _ =>
        monitor.inv_kept (h₆.2 Nat.one_pos) (hinv₅ Nat.one_pos), fun _ => ?_⟩
      apply fine_andThen
      intro v₇ h₇
      have hsema₇ : v₇.data.sema = some t := h₇.1.sema (h₆.1.sema hsema₅)
      refine (Monitor.allows_call (by decide) (by decide)).mpr
        ⟨fun hg => absurd hg not_false, hsema₇, ?_⟩
      rintro - v₇ rfl
      exact fine_printed hsema₇ hpost

theorem fine_client {α : Type} {posts : List QueueMessage} {p : WifiProg α} (hp : Client posts p)
    {t : TaskId} {post : α → ℕ → View → Prop} (hpost : ∀ a v, post a 0 v) (v : View) :
    monitor.Fine t p post 0 v := by
  induction hp generalizing v with
  | pure a => exact hpost a v
  | bind _ _ ih ihf => exact Monitor.fine_bind.mpr (ih (fun a v' => ihf a hpost v') v)
  | plain ho =>
    exact fine_start (orderly_free (free_of_plain ho) fun _ => rfl) fun a v' _ => hpost a v'
  | locked ho =>
    refine fine_start ?_ fun a v' _ => hpost a v'
    simp only [Orderly, Prog.fold_bind, Prog.perform, Prog.fold_call, Prog.fold_return, orderly]
    exact orderly_free (free_of_plain ho) fun _ => ⟨Nat.one_pos, rfl⟩
  | send _ _ =>
    exact fine_start (orderly_send 0 0 le_rfl _ _ fun _ => rfl) fun a v' _ => hpost a v'
  | connect _ =>
    unfold wifimanMsgSendCmdConnectSta
    exact fine_andThen fun v' _ => allows_free not_false fun _ =>
      fine_start (orderly_send 0 0 le_rfl _ _ fun _ => rfl) fun a v' _ => hpost a v'
  | feed _ =>
    refine fine_start ?_ fun a v' _ => hpost a v'
    simp [Orderly, wifimanMsgSendCmdTaskWatchdogFeed, wifimanMsgTrySendWithoutWaiting,
      wifimanMsgSendWithTimeout, Prog.perform, Prog.fold_call, Prog.fold_return, orderly]
  | scanSync _ => exact fine_scanSync hpost v

/-! ### The programs of the manager task -/

/-- Every handler but that of a finished channel is orderly. -/
theorem orderly_handleMsg (msg : QueueMessage) (hmsg : msg ≠ .eventScanDone) :
    Orderly 0 (wifiManagerHandleMsg msg) 0 false false := by
  unfold Orderly
  cases msg
  case eventScanDone => exact absurd rfl hmsg
  case orderConnectSta connReq =>
    cases connReq <;>
      simp [wifiManagerHandleMsg, wifiHandleCmdConnectSta, wifiConnectStaSwitch, wifiConnectStaRun,
        wifimanMsgSendCmdDisconnectSta, wifimanMsgSend, wifimanMsgSendWithTimeout, Prog.perform,
        Prog.fold_call, Prog.fold_return, orderly, Free, Guarded, ite_apply]
  all_goals
    simp [wifiManagerHandleMsg, wifiHandleCmdStartWifiScan, wifiScanNext, wifimanMsgSendEvScanDone,
      wifiHandleCmdConnectEth, wifiHandleCmdDisconnectEth, wifiHandleCmdDisconnectSta,
      wifimanMsgSendCmdConnectSta, wifiHandleCmdStartAp, wifiHandleCmdStopAp,
      wifiHandleEvStaDisconnected, wifiStaDisconnectedReason, wifiStaDisconnectedReconnect,
      wifiHandleEvStaHandleLostConnection, wifimanConfigStaGetSsid,
      wifiManagerUpdateNetworkConnectionInfo, wifiHandleEvScanNext, wifiMangerNotifyScanDone,
      wifiHandleEvStaGotIp, wifiHandleEvApStaConnected, wifiHandleEvApStaDisconnected,
      wifiHandleEvApStaIpAssigned, wifiManagerIsConnectedToWifi, wifiHandleCmdEnableWps,
      wifiHandleCmdDisableWps, wifimanMsgClearFlagWdogFeedActive, wifiManagerWdtTaskReset,
      wifimanMsgSend, wifimanMsgSendWithTimeout, Prog.perform, Prog.fold_call, Prog.fold_return,
      orderly, Free, Guarded, ite_apply]

/-- Nobody relies on the list of access points outside of the mutex. -/
theorem Rely.lists {t : TaskId} {v v₁ v₂ v' : View} (h : Rely t v v₁) (h' : Rely t v₂ v')
    (hqueue : v₂.data.queue = v₁.data.queue) (hsema : v₂.data.sema = v₁.data.sema)
    (hphase : v₂.phase = v₁.phase) : Rely t v v' :=
  h.trans (.trans ⟨fun _ => hqueue, fun _ => hphase, hsema.trans⟩ h')

/-- A finished channel: the list is not presentable between two of the calls, but the mutex is not
released there. -/
theorem fine_scanDone {t : TaskId} {post : Unit → ℕ → View → Prop} {v : View}
    (hpost : ∀ a v', Rely t v v' → post a 0 v') :
    monitor.Fine t wifiHandleEvScanDone post 0 v := by
  unfold wifiHandleEvScanDone
  apply fine_andThen
  intro v₁ h₁
  refine (Monitor.allows_lock rfl).mpr fun hinv _ => ?_
  have hinv₁ : monitor.inv v₁ := hinv rfl
  apply fine_andThen
  intro v₂ h₂
  have hinv₂ := monitor.inv_kept (h₂.2 Nat.one_pos) hinv₁
  refine allows_guarded trivial Nat.one_pos trivial ?_
  rintro ⟨err, n⟩ v₃ ⟨records, rfl, hsame⟩
  have hrely₃ : Rely t v { v₂ with data := { v₂.data with records := records } } :=
    (h₁.1.trans h₂.1).lists (.refl t _) rfl rfl rfl
  by_cases herr : err ≠ espOk
  · simp only [if_pos herr]
    rw [hsame herr]
    have hrely : Rely t v v₂ := h₁.1.trans h₂.1
    exact fine_rest (by simp [Orderly, wifiMangerNotifyScanDone, Prog.perform, Prog.fold_call,
      Prog.fold_return, orderly, Free, Guarded]) hinv₂ fun a v' hv => hpost a v' (hrely.trans hv)
  · simp only [if_neg herr]
    apply fine_andThen
    intro v₄ h₄
    refine allows_guarded trivial Nat.one_pos trivial ?_
    rintro found v₅ ⟨-, rfl⟩
    apply fine_andThen
    intro v₆ h₆
    refine allows_guarded trivial Nat.one_pos trivial ?_
    rintro - v₇ rfl
    apply fine_andThen
    intro v₈ h₈
    have hdata₈ : v₈.data = _ := h₈.2 Nat.one_pos
    refine allows_guarded trivial Nat.one_pos trivial ?_
    rintro - v₉ rfl
    refine fine_rest ?_ ?_ ?_
    · simp [Orderly, wifiScanNext, wifiMangerNotifyScanDone, Prog.perform, Prog.fold_call,
        Prog.fold_return, orderly, Free, Guarded, ite_apply]
    · change Presentable (jsonAccessPointsGenerate v₈.data.records _)
      rw [hdata₈]
      exact presentable_sorted found
    · intro a v' hv
      have hread : Rely t v v₆ := (hrely₃.trans h₄.1).lists h₆.1 rfl rfl rfl
      have hset : Rely t v v₈ := hread.lists h₈.1 rfl rfl rfl
      exact hpost a v' (hset.lists hv rfl rfl rfl)

/-- The handlers leave the queue alone. -/
theorem fine_handleMsg {t : TaskId} (msg : QueueMessage) {post : Bool × Bool → ℕ → View → Prop}
    {v : View} (hpost : ∀ a v', Rely t v v' → post a 0 v') :
    monitor.Fine t (wifiManagerHandleMsg msg) post 0 v := by
  by_cases hmsg : msg = .eventScanDone
  · subst hmsg
    exact Monitor.fine_bind.mpr (fine_scanDone fun _ v' hv => hpost _ v' hv)
  · exact fine_start (orderly_handleMsg msg hmsg) hpost

/-- A call that the monitor takes no notice of, in a place where `P` is known. -/
theorem fine_free {α : Type} {t : TaskId} {o : WifiCall} {f : o.Ret → WifiProg α}
    {post : α → ℕ → View → Prop} {d : ℕ} {P : View → Prop}
    (hP : ∀ {v v'}, P v → monitor.Between t d v v' → P v') (ho : Free o)
    (hf : ∀ r v, P v → monitor.Fine t (f r) post d v) (v : View) (hv : P v) :
    monitor.Fine t (call o >>= f) post d v :=
  fine_andThen fun v' hv' => allows_free ho fun r => hf r v' (hP hv hv')

/-- The manager task deletes its queue under the mutex. -/
theorem fine_finish {post : Unit → ℕ → View → Prop} {v : View} (hqueue : v.data.queue = true)
    (hpost : ∀ v', post () 0 v') : monitor.Fine .server wifiManagerTaskFinish post 0 v := by
  unfold wifiManagerTaskFinish
  apply fine_andThen
  intro v₁ h₁
  refine (Monitor.allows_lock rfl).mpr fun hinv _ => ?_
  have hknown : v₁.data.queue = true ∧ monitor.inv v₁ :=
    ⟨(h₁.1.queue rfl).trans hqueue, hinv rfl⟩
  have hkept : ∀ {v v' : View}, v.data.queue = true ∧ monitor.inv v →
      monitor.Between .server 1 v v' → v'.data.queue = true ∧ monitor.inv v' := by
    rintro v v' ⟨hq, hi⟩ hv
    exact ⟨(hv.1.queue rfl).trans hq, monitor.inv_kept (hv.2 Nat.one_pos) hi⟩
  -- up to the queue, nothing concerns the monitor
  refine fine_free hkept (by exact not_false) (fun _ v hv => ?_) v₁ hknown
  iterate 11 refine fine_free hkept (by exact not_false) (fun _ v hv => ?_) v hv
  refine Monitor.fine_bind.mpr (fine_andThen (f := pure) fun v₂ h₂ => ?_)
  obtain ⟨hqueue₂, hinv₂⟩ := hkept hv h₂
  refine allows_guarded trivial Nat.one_pos ⟨rfl, hqueue₂⟩ ?_
  rintro - v₃ rfl
  exact Monitor.fine_pure.mpr (fine_rest (by simp [Orderly, Prog.perform, Prog.fold_call,
    Prog.fold_return, orderly, Free, Guarded]) hinv₂ fun _ v' _ => hpost v')

theorem fine_taskHandle (msg : QueueMessage) {v : View} (hqueue : v.data.queue = true) :
    monitor.Fine .server (wifiManagerTaskHandle msg) (monitor.Ended .server) 0 v := by
  unfold wifiManagerTaskHandle
  refine Monitor.fine_bind.mpr (Monitor.fine_bind.mpr (fine_handleMsg msg ?_))
  rintro ⟨flagTerminate, callCb⟩ v₁ h₁
  have hqueue₁ : v₁.data.queue = true := (h₁.queue rfl).trans hqueue
  have hend : ∀ v₂, Rely .server v₁ v₂ → monitor.Fine .server (do
      if flagTerminate then
        wifiManagerTaskFinish
        call (setManagerTask .none) : WifiProg Unit) (monitor.Ended .server) 0 v₂ := by
    intro v₂ h₂
    have hqueue₂ : v₂.data.queue = true := (h₂.queue rfl).trans hqueue₁
    cases flagTerminate with
    | false => exact ⟨rfl, fun v' hv _ _ => (hv.queue rfl).trans hqueue₂⟩
    | true =>
      rw [if_pos rfl]
      refine Monitor.fine_bind.mpr (fine_finish hqueue₂ fun v₃ => ?_)
      refine fine_andThen (f := pure) fun v₄ _ => ?_
      refine (Monitor.allows_call (by decide) (by decide)).mpr
        ⟨fun hg => absurd hg not_false, rfl, ?_⟩
      rintro - v₅ rfl
      exact ⟨rfl, fun v' hv _ hphase => absurd (hv.phase rfl) hphase⟩
  cases callCb with
  | false => exact hend v₁ (.refl _ _)
  | true => exact fine_andThen fun v₂ h₂ => allows_free not_false fun _ => hend v₂ h₂.1

theorem fine_taskRound {v : View} (hqueue : v.data.queue = true) :
    monitor.Fine .server wifiManagerTaskRound (monitor.Ended .server) 0 v := by
  rw [wifiManagerTaskRound_eq]
  intro v₁ h₁
  have hqueue₁ : v₁.data.queue = true := (h₁.1.queue rfl).trans hqueue
  refine (Monitor.allows_call (by decide) (by decide)).mpr
    ⟨fun hg => absurd hg not_false, hqueue₁, ?_⟩
  rintro received v₂ rfl
  cases received with
  | none => exact ⟨rfl, fun v' hv _ _ => (hv.queue rfl).trans hqueue₁⟩
  | some msg => exact fine_taskHandle msg hqueue₁

theorem fine_taskBegin {v : View} (hqueue : v.data.queue = true) :
    monitor.Fine .server wifiManagerTaskBegin (monitor.Ended .server) 0 v := by
  unfold wifiManagerTaskBegin
  refine Monitor.fine_bind.mpr (fine_start ?_ fun _ v₁ h₁ => ?_)
  · simp [Orderly, wifiManagerWdtAddAndStart, Prog.perform, Prog.fold_call, Prog.fold_return,
      orderly, Free, Guarded]
  · refine fine_andThen (f := pure) fun v₂ h₂ => ?_
    have hqueue₂ : v₂.data.queue = true := (h₂.1.queue rfl).trans ((h₁.queue rfl).trans hqueue)
    refine (Monitor.allows_call (by decide) (by decide)).mpr
      ⟨fun hg => absurd hg not_false, rfl, ?_⟩
    rintro - v₃ rfl
    exact ⟨rfl, fun v' hv _ _ => (hv.queue rfl).trans hqueue₂⟩

theorem monitor_lawful : monitor.Lawful where
  view_arrive := by
    intro req x x' p h
    obtain ⟨⟨s', p'⟩, hs, heq⟩ := Option.map_eq_some_iff.mp h
    obtain ⟨rfl, rfl⟩ := Prod.mk.inj heq
    have hoccur := (arrive_eq hs).1
    have hagree : ∀ f ∈ [Field.msgQueue, .scanSyncSema, .apRecords, .apNum, .managerTask],
        x.1.Agree s' f := by
      intro f hf
      apply occur_agree hoccur
      intro hw
      cases req <;> simp [Request.writes] at hw <;> simp [hw] at hf
    have hqueue : s'.msgQueue = x.1.msgQueue := hagree .msgQueue (by simp)
    have hsema : s'.scanSyncSema = x.1.scanSyncSema := hagree .scanSyncSema (by simp)
    exact view_eq (by rw [hqueue]) (by rw [hsema]) (hagree .apRecords (by simp))
      (hagree .apNum (by simp)) rfl (hagree .managerTask (by simp))
  arrive := by
    intro req x x' p i v h
    obtain ⟨⟨s', p'⟩, hs, heq⟩ := Option.map_eq_some_iff.mp h
    obtain ⟨rfl, rfl⟩ := Prod.mk.inj heq
    obtain ⟨-, rfl⟩ := arrive_eq hs
    exact fine_client req.prog_client
      (fun _ _ => ⟨rfl, fun _ _ hserver => absurd hserver (by simp)⟩) v
  serve := by
    intro x p h hdone
    rcases serve_cases h with ⟨htask, rfl⟩ | ⟨htask, rfl⟩
    · exact fine_taskBegin (hdone rfl (by simp [monitor, view, htask]))
    · exact fine_taskRound (hdone rfl (by simp [monitor, view, htask]))

end SharedData

end WifiManager
end Esp32WifiManager
