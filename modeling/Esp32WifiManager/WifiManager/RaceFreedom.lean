import Esp32WifiManager.WifiManager.Recorded
import Esp32WifiManager.WifiManager.SharedData

/-!
# Tasks that meet on a variable

What the locks of the manager are good for, over all runs: two tasks never meet
on a plain variable that one of them writes, no handle is used that is not
there, and a list of access points is printed as one scan has left it.
-/

namespace Esp32WifiManager
namespace WifiManager

open CString TaskSystem WifiCall

/-- The plain variables that more than one function uses: `gh_wifiman_msg_queue`,
`g_wifiman_msg_flag_wdog_feed_active`, `g_wifi_ap_records` with `g_wifi_ap_num`,
`g_wifi_scan_info` and `g_p_scan_sync_sema`. -/
inductive SharedVar
  | msgQueue
  | wdogFeedActive
  | apList
  | scanInfo
  | scanSyncSema
  deriving DecidableEq

namespace WifiCall

/-- The plain variables that a call assigns. -/
def overwrites : WifiCall → List SharedVar
  | xQueueCreate | vQueueDelete => [.msgQueue]
  | setFlagWdogFeedActive _ => [.wdogFeedActive]
  | setApRecords _ | setApNum _ | espWifiScanGetApRecords => [.apList]
  | setScanInfo _ => [.scanInfo]
  | osSemaCreate | osSemaDelete => [.scanSyncSema]
  | _ => []

/-- The plain variables that a call reads or assigns. -/
def uses : WifiCall → List SharedVar
  | isMsgQueueNull | xQueueSend _ _ | xQueueReceive => [.msgQueue]
  | getFlagWdogFeedActive => [.wdogFeedActive]
  | getApRecords | getApNum => [.apList]
  | getScanInfo => [.scanInfo]
  | isScanSyncSemaNull | osSemaSignal | osSemaWait => [.scanSyncSema]
  | o => o.overwrites

/-- A call that goes through a handle finds it, and no handle is overwritten that is still in
use. -/
def HandleValid (s : WifiState) : WifiCall → Prop
  | xQueueSend _ _ | xQueueReceive | vQueueDelete => s.msgQueue ≠ none
  | xQueueCreate => s.msgQueue = none
  | osSemaSignal | osSemaWait | osSemaDelete => s.scanSyncSema ≠ none
  | osSemaCreate => s.scanSyncSema = none
  | _ => True

end WifiCall

/-- The description of a scan is the manager task's own. -/
theorem Client.not_scanInfo {posts : List QueueMessage} {α : Type} {p : WifiProg α}
    (hp : Client posts p) : p.All fun o => .scanInfo ∉ o.uses := by
  induction hp with
  | pure a => exact trivial
  | bind _ _ ih ihf => exact ih.bind ihf
  | @plain o ho =>
    refine .perform ?_
    cases o <;> first
      | exact absurd ho not_false
      | decide
      | exact List.not_mem_nil
  | @locked o ho =>
    refine .bind (.perform (by decide)) fun _ => .bind (.perform ?_) fun _ => .perform (by decide)
    cases o <;> first
      | exact absurd ho not_false
      | decide
      | exact List.not_mem_nil
  | send _ _ =>
    simp [Prog.All, wifimanMsgSend, wifimanMsgSendWithTimeout, Prog.perform, Prog.fold_call,
      Prog.fold_return, uses, overwrites]
  | connect _ =>
    simp [Prog.All, wifimanMsgSendCmdConnectSta, wifimanMsgSend, wifimanMsgSendWithTimeout,
      Prog.perform, Prog.fold_call, Prog.fold_return, uses, overwrites]
  | feed _ =>
    simp [Prog.All, wifimanMsgSendCmdTaskWatchdogFeed, wifimanMsgTrySendWithoutWaiting,
      wifimanMsgSendWithTimeout, Prog.perform, Prog.fold_call, Prog.fold_return, uses, overwrites]
  | scanSync _ =>
    simp [Prog.All, wifiManagerScanSync, wifimanMsgSendCmdStartWifiScan, wifimanMsgSend,
      wifimanMsgSendWithTimeout, Prog.perform, Prog.fold_call, Prog.fold_return, uses, overwrites]

namespace SharedData

variable {flag : Bool} {sta : WifimanConfigSta} {labels : List WifiLabel}

def ApListLog.empty : ApListLog := ⟨.server, fun _ => [], []⟩

theorem started_monitored (flag : Bool) (sta : WifimanConfigSta) :
    monitor.Monitored ((WifiConfig.started flag sta).withGhost ApListLog.empty) := by
  have hqueue : (WifiState.started flag sta).msgQueue.isSome = true := by
    simp only [WifiState.started]
    split
    · rfl
    · rfl
  refine ⟨(started_safe flag sta).toGuarded.withGhost _, ?_, fun _ => presentable_initial⟩
  intro t x htask
  cases t with
  | server =>
    obtain rfl := Option.some.inj htask
    exact ⟨rfl, fun v hv _ _ => (hv.queue rfl).trans hqueue⟩
  | client i => exact absurd htask (by simp [Config.withGhost, WifiConfig.started, Config.task])

theorem monitored {P : Config WifiCall WifiCall.Ret (WifiState × ApListLog) → WifiLabel → Prop}
    {cfg : Config WifiCall WifiCall.Ret (WifiState × ApListLog)}
    (hrun : Path (recording noteApList) P ((WifiConfig.started flag sta).withGhost ApListLog.empty)
      labels cfg) : monitor.Monitored cfg :=
  (started_monitored flag sta).path lawful.withGhost monitor_lawful hrun

/-- What holds of every run with a record holds of a run without one. -/
theorem exists_monitored {cfg : WifiConfig}
    (hrun : Path machine (fun _ _ => True) (WifiConfig.started flag sta) labels cfg) :
    ∃ g, monitor.Monitored (cfg.withGhost g) := by
  obtain ⟨g, hrun⟩ := @Path.withGhost _ _ _ _ _ _ machine noteApList _ _ _ _ hrun ApListLog.empty
  exact ⟨g, monitored hrun⟩

theorem nextCall_withGhost {cfg : WifiConfig} {g : ApListLog} (t : TaskId) :
    (cfg.withGhost g).nextCall t = cfg.nextCall t := by
  cases t <;> rfl

variable {cfg : Config WifiCall WifiCall.Ret (WifiState × ApListLog)} {t u : TaskId} {o o' : WifiCall}

/-- What is used without the mutex. -/
theorem guarded_or {x : SharedVar} (h : x ∈ o.uses) :
    Guarded o ∨ o = xQueueReceive ∧ x = .msgQueue ∨ o = osSemaWait ∧ x = .scanSyncSema ∨
      x = .scanInfo := by
  cases o <;> simp [uses, overwrites] at h <;> simp [Guarded, h]

theorem uses_of_overwrites {x : SharedVar} (h : x ∈ o.overwrites) : x ∈ o.uses := by
  cases o <;> simp [overwrites] at h <;> simp [uses, overwrites, h]

/-- A variable that is written is written by nobody but a task that may, or the manager task. -/
theorem writer_cases {x : SharedVar} (h : x ∈ o.overwrites) :
    x = .msgQueue ∧ (∀ t v, Needs t o v → t = .server) ∨
      x = .scanSyncSema ∧ (∀ t v, Needs t o v → v.data.sema = none ∨ v.data.sema = some t) ∨
      x = .wdogFeedActive ∨ x = .apList ∨ x = .scanInfo := by
  cases o <;> simp [overwrites] at h <;> simp [h, Needs]
  case xQueueCreate | vQueueDelete => exact fun t v ht _ => ht
  case osSemaCreate => exact fun t v hv => .inl hv
  case osSemaDelete => exact fun t v hv => .inr hv

/-- Two tasks on one variable that one of them writes are one task. -/
theorem meets_eq (hm : monitor.Monitored cfg) (hscan : ∀ {t o}, cfg.nextCall t = some o →
      .scanInfo ∈ o.uses → t = .server) (ht : cfg.nextCall t = some o)
    (hu : cfg.nextCall u = some o') {x : SharedVar} (hx : x ∈ o.overwrites) (hx' : x ∈ o'.uses) :
    u = t := by
  have hxo := uses_of_overwrites hx
  rcases guarded_or hxo with hg | ⟨rfl, -⟩ | ⟨rfl, -⟩ | rfl
  · have hneeds : Needs t o (monitor.view cfg.shared) :=
      hm.needs ht (guarded_kind hg).1 (guarded_kind hg).2
    rcases guarded_or hx' with hg' | ⟨rfl, rfl⟩ | ⟨rfl, rfl⟩ | rfl
    · exact hm.guarded_unique ht hu hg hg' guarded_kind
    · -- the manager task takes messages out of its queue, and it alone deletes it
      obtain ⟨k, w, htask⟩ := Config.of_nextCall hu
      have hserver : u = .server := (hm.balanced htask).1
      rcases writer_cases hx with ⟨-, hw⟩ | ⟨h, -⟩ | h | h | h
      · exact hserver.trans (hw t _ hneeds).symm
      all_goals exact absurd h (by decide)
    · -- who waits has created the semaphore, and it alone may delete it
      have hwait : (monitor.view cfg.shared).data.sema = some u :=
        hm.needs hu (by decide) (by decide)
      rcases writer_cases hx with ⟨h, -⟩ | ⟨-, hw⟩ | h | h | h
      · exact absurd h (by decide)
      · rcases hw t _ hneeds with hnone | hsome
        · exact absurd (hnone.symm.trans hwait) (by simp)
        · exact (Option.some.inj (hsome.symm.trans hwait)).symm
      all_goals exact absurd h (by decide)
    · exact (hscan hu hx').trans (hscan ht hxo).symm
  · exact absurd hx List.not_mem_nil
  · exact absurd hx List.not_mem_nil
  · exact (hscan hu hx').trans (hscan ht hxo).symm

theorem handleValid_of_needs {s : WifiState} {g : ApListLog} (h : Needs t o (view (s, g))) :
    o.HandleValid s := by
  cases o <;> try exact trivial
  case xQueueSend | xQueueReceive =>
    have hqueue : s.msgQueue.isSome = true := h
    exact Option.isSome_iff_ne_none.mp hqueue
  case vQueueDelete =>
    have hqueue : s.msgQueue.isSome = true := h.2
    exact Option.isSome_iff_ne_none.mp hqueue
  case xQueueCreate =>
    have hqueue : s.msgQueue.isSome = false := h.2
    exact Option.not_isSome_iff_eq_none.mp (by simp [hqueue])
  case osSemaCreate => exact Option.map_eq_none_iff.mp h
  case osSemaSignal =>
    have hsema : (s.scanSyncSema.map fun _ => g.owner).isSome = true := h
    rw [Option.isSome_map] at hsema
    exact Option.isSome_iff_ne_none.mp hsema
  case osSemaWait | osSemaDelete =>
    obtain ⟨signalled, hsema, -⟩ := Option.map_eq_some_iff.mp h
    exact fun hnone => absurd (hnone.symm.trans hsema) (by simp)

end SharedData

open SharedData

section Runs

variable {flag : Bool} {sta : WifimanConfigSta} {labels : List WifiLabel} {cfg : WifiConfig}
  {t u : TaskId} {o o' : WifiCall}

/-- No two tasks are about to use a plain variable of the manager that one of them assigns. -/
theorem race_free (hrun : Path machine (fun _ _ => True) (WifiConfig.started flag sta) labels cfg)
    (ht : cfg.nextCall t = some o) (hu : cfg.nextCall u = some o') (htu : t ≠ u) :
    ∀ x ∈ o.overwrites, x ∉ o'.uses := by
  intro x hx hx'
  obtain ⟨g, hm⟩ := SharedData.exists_monitored hrun
  have hclients : ClientsAll (fun o => SharedVar.scanInfo ∉ o.uses) cfg := by
    refine ClientsAll.path (fun ha => ?_) hrun (started_clientsAll _ flag sta)
    obtain ⟨-, rfl⟩ := arrive_eq ha
    exact (Request.prog_client _).not_scanInfo
  have hscan : ∀ {t o}, (cfg.withGhost g).nextCall t = some o → .scanInfo ∈ o.uses →
      t = .server := by
    intro t o ht hx
    rw [SharedData.nextCall_withGhost] at ht
    obtain ⟨k, w, htask⟩ := Config.of_nextCall ht
    cases t with
    | server => rfl
    | client i =>
      have hall := hclients htask
      exact absurd hx hall.1
  rw [← SharedData.nextCall_withGhost (g := g)] at ht hu
  exact htu (SharedData.meets_eq hm hscan ht hu hx hx').symm

/-- A client has found no semaphore and creates it while the manager task goes for a message. -/
def scanSyncLabels : List WifiLabel :=
  runs .server 5 ++ .arrive .scanSync :: runs (.client 0) 2

theorem race_free_scanSync : ∃ cfg : WifiConfig,
    cfg.nextCall .server = some xQueueReceive ∧ cfg.nextCall (.client 0) = some osSemaCreate ∧
      ∀ x ∈ osSemaCreate.overwrites, x ∉ xQueueReceive.uses := by
  have hsome : (runWhere machine (fun _ _ => true)
      (WifiConfig.started false WifiState.zero.config) scanSyncLabels).any (fun cfg =>
        cfg.nextCall .server = some xQueueReceive &&
          cfg.nextCall (.client 0) = some osSemaCreate) = true := by
    decide +kernel
  obtain ⟨cfg, hcfg, hnext⟩ := (Option.any_eq_true _ _).mp hsome
  simp only [Bool.and_eq_true, decide_eq_true_eq] at hnext
  obtain ⟨hserver, hclient⟩ := hnext
  have hrun : Path machine (fun _ _ => True) (WifiConfig.started false WifiState.zero.config)
      scanSyncLabels cfg := Path.of_runWhere (fun _ _ _ => trivial) hcfg
  exact ⟨cfg, hserver, hclient, race_free hrun hclient hserver (by decide)⟩

/-- Every call finds the handle it goes through, no handle is overwritten, and one task at most
waits for a scan. -/
theorem handles_valid
    (hrun : Path machine (fun _ _ => True) (WifiConfig.started flag sta) labels cfg) :
    (∀ t o, cfg.nextCall t = some o → o.HandleValid cfg.shared) ∧
      ∀ t u, cfg.nextCall t = some osSemaWait → cfg.nextCall u = some osSemaWait → u = t := by
  obtain ⟨g, hm⟩ := SharedData.exists_monitored hrun
  constructor
  · intro t o ht
    by_cases hlock : o.kind = .lock
    · rw [kind_eq_lock.mp hlock]
      exact trivial
    by_cases hunlock : o.kind = .unlock
    · rw [kind_eq_unlock.mp hunlock]
      exact trivial
    rw [← SharedData.nextCall_withGhost (g := g)] at ht
    exact SharedData.handleValid_of_needs (g := g) (hm.needs ht hlock hunlock)
  · intro t u ht hu
    rw [← SharedData.nextCall_withGhost (g := g)] at ht hu
    have howner : (SharedData.view (cfg.shared, g)).data.sema = some t :=
      hm.needs ht (by decide) (by decide)
    have howner' : (SharedData.view (cfg.shared, g)).data.sema = some u :=
      hm.needs hu (by decide) (by decide)
    exact Option.some.inj (howner'.symm.trans howner)

theorem handles_valid_scanSync : ∃ cfg : WifiConfig,
    cfg.nextCall (.client 0) = some osSemaWait ∧ cfg.shared.scanSyncSema ≠ none := by
  have hsome : (runWhere machine (fun _ _ => true)
      (WifiConfig.started false WifiState.zero.config) (scanSyncLabels ++ runs (.client 0) 6)).any
        (fun cfg => cfg.nextCall (.client 0) = some osSemaWait) = true := by
    decide +kernel
  obtain ⟨cfg, hcfg, hnext⟩ := (Option.any_eq_true _ _).mp hsome
  have hwait : cfg.nextCall (.client 0) = some osSemaWait := of_decide_eq_true hnext
  have hrun : Path machine (fun _ _ => True) (WifiConfig.started false WifiState.zero.config)
      (scanSyncLabels ++ runs (.client 0) 6) cfg := Path.of_runWhere (fun _ _ _ => trivial) hcfg
  exact ⟨cfg, hwait, (handles_valid hrun).1 _ _ hwait⟩

end Runs

end WifiManager
end Esp32WifiManager
