import Esp32WifiManager.WifiManager.Recorded

/-!
# The hotspot and the mode of the driver

The manager task changes the mode of the driver and `WIFI_MANAGER_AP_ACTIVE`
together. Three functions of the API change the mode alone. The record is of
the calls of `esp_wifi_set_mode` since the start, which has set the mode to STA.
-/

namespace Esp32WifiManager
namespace WifiManager

open CString TaskSystem WifiCall

/-- A call of `esp_wifi_set_mode`: whether it is of an order to the manager task. -/
structure ModeCall where
  byOrder : Bool
  mode : WifiMode
  err : EspErr

/-- The last call comes first. -/
abbrev ModeLog := List ModeCall

/-- The last mode given to the driver. -/
def lastMode : ModeLog → WifiMode
  | [] => .sta
  | x :: _ => x.mode

/-- The mode that the last order to start or to stop the hotspot stands for. -/
def lastOrder : ModeLog → WifiMode
  | [] => .sta
  | x :: log => if x.byOrder then x.mode else lastOrder log

def noteMode (t : TaskId) (o : WifiCall) (c : Reply) (_ : o.Ret) (log : ModeLog) : ModeLog :=
  match o with
  | driver (.espWifiSetMode mode) => ⟨decide (t = .server), mode, c.err⟩ :: log
  | _ => log

namespace DriverMode

/-- In the round of an order the mode is given before the bit is changed. -/
inductive Phase
  | rest
  | given (mode : WifiMode)
  | finishing
  | ended

def Inv : Phase → WifiState × ModeLog → Prop
  | .rest, x => x.1.eventBits .apActive = true ↔ lastOrder x.2 = .apsta
  | .given mode, x => lastOrder x.2 = mode
  | .finishing, _ => True
  | .ended, x => x.1.managerTask = .none

/-- A call that is not a part of starting or stopping the hotspot. -/
structure Quiet (o : WifiCall) : Prop where
  bit : .bit .apActive ∉ o.writes
  mode : ∀ mode, o ≠ driver (.espWifiSetMode mode)

variable {t : TaskId} {o : WifiCall} {c : Reply} {r : o.Ret} {x x' : WifiState × ModeLog}

theorem quiet_iff : Quiet o ↔
    .bit .apActive ∉ o.writes ∧ ∀ mode, o ≠ driver (.espWifiSetMode mode) :=
  ⟨fun ⟨hbit, hmode⟩ => ⟨hbit, hmode⟩, fun ⟨hbit, hmode⟩ => ⟨hbit, hmode⟩⟩

theorem note_quiet (h : ∀ mode, o ≠ driver (.espWifiSetMode mode)) (log : ModeLog) :
    noteMode t o c r log = log := by
  unfold noteMode
  split
  · exact absurd rfl (h _)
  · rfl

/-- A client gives no order. -/
theorem lastOrder_client (i : ℕ) (log : ModeLog) :
    lastOrder (noteMode (.client i) o c r log) = lastOrder log := by
  unfold noteMode
  split
  · simp [lastOrder]
  · rfl

/-- What the phases speak about is kept. -/
theorem inv_kept {φ : Phase} (hbit : x.1.Agree x'.1 (.bit .apActive))
    (htask : x.1.Agree x'.1 .managerTask) (hlog : lastOrder x'.2 = lastOrder x.2) (h : Inv φ x) :
    Inv φ x' := by
  have hbit : x'.1.eventBits .apActive = x.1.eventBits .apActive := hbit
  have htask : x'.1.managerTask = x.1.managerTask := htask
  cases φ with
  | rest =>
    have hrest : x.1.eventBits .apActive = true ↔ lastOrder x.2 = .apsta := h
    change x'.1.eventBits .apActive = true ↔ lastOrder x'.2 = .apsta
    rw [hbit, hlog]
    exact hrest
  | given mode => exact hlog.trans h
  | finishing => exact trivial
  | ended => exact htask.trans h

theorem inv_client {i : ℕ} {φ : Phase} (ho : o.IsClientCall) (h : Inv φ x)
    (he : (recording noteMode).exec (.client i) o c x = some (r, x')) : Inv φ x' := by
  obtain ⟨he, hlog⟩ := exec_withGhost he
  have hagree : x.1.AgreeInside x'.1 := agreeInside_exec ho he
  refine inv_kept (hagree _ (by decide)) (hagree _ (by decide)) ?_ h
  rw [hlog]
  exact lastOrder_client i x.2

def recordInvariant : RecordInvariant noteMode Phase where
  inv := Inv
  rest φ := φ = .rest ∨ φ = .ended
  assume _ _ _ := True
  client ho h _ he := inv_client ho h he
  occur {φ s s' g} _ hagree _ h :=
    @inv_kept (s, g) (s', g) φ (hagree _ (by decide)) (hagree _ (by decide)) rfl h

theorem frames_rest (ho : Quiet o) : recordInvariant.contract.Frames .rest o := by
  intro x w hinv
  refine ⟨trivial, fun c r x' _ h => ?_⟩
  obtain ⟨he, hlog⟩ := exec_withGhost h
  have hsame : x'.2 = x.2 := hlog.trans (note_quiet ho.mode x.2)
  have hbit : x'.1.eventBits .apActive = x.1.eventBits .apActive := machine_agree he ho.bit
  have hrest : x.1.eventBits .apActive = true ↔ lastOrder x.2 = .apsta := hinv
  change x'.1.eventBits .apActive = true ↔ lastOrder x'.2 = .apsta
  rw [hbit, hsame]
  exact hrest

/-- The handlers of the other messages have nothing to do with the hotspot. -/
theorem handleMsg_quiet {msg : QueueMessage} (hstart : ∀ flag, msg ≠ .orderStartAp flag)
    (hstop : msg ≠ .orderStopAp) : (wifiManagerHandleMsg msg).All Quiet := by
  refine (wifiManagerHandleMsg_allThen msg).all.mono ?_
  intro o ho
  cases msg
  case orderStartAp flag => exact absurd rfl (hstart flag)
  case orderStopAp => exact absurd rfl hstop
  all_goals
    revert o
    simp [QueueMessage.MayCall, OfSender, OfLossUpdate, or_imp, forall_and]
    try simp [quiet_iff, writes, DriverCall.writes]

/-- An order gives its mode. -/
theorem performs_setMode {mode : WifiMode} {X : EspErr → Phase → Prop}
    (hX : ∀ err, X err (.given mode)) :
    recordInvariant.contract.Performs (driver (.espWifiSetMode mode)) X .rest := by
  intro x w _
  refine ⟨trivial, fun c r x' _ h => ⟨.given mode, ?_, hX r⟩⟩
  obtain ⟨-, hlog⟩ := exec_withGhost h
  have hlog : x'.2 = ⟨decide (TaskId.server = .server), mode, c.err⟩ :: x.2 := hlog
  change lastOrder x'.2 = mode
  rw [hlog]
  simp [lastOrder]

theorem startAp_keeps (flagBlockReqFromLan : Bool) :
    recordInvariant.contract.Keeps (wifiHandleCmdStartAp flagBlockReqFromLan)
      (fun _ φ => φ = .rest) .rest := by
  unfold wifiHandleCmdStartAp
  apply Contract.keeps_perform
  apply performs_setMode
  intro _
  apply Contract.keeps_perform
  intro x w hinv
  refine ⟨trivial, fun c bits x' _ h => ⟨.rest, ?_, ?_⟩⟩
  · obtain ⟨he, hlog⟩ := exec_withGhost h
    have hlog : x'.2 = x.2 := hlog
    have hbit := bit_of_set (t := .server) (c := c) (b := .apActive) he (by simp)
    have horder : lastOrder x.2 = .apsta := hinv
    exact ⟨fun _ => hlog ▸ horder, fun _ => hbit⟩
  · exact Contract.performs_frame (frames_rest (by simp [quiet_iff, writes])) fun _ => rfl

theorem stopAp_keeps :
    recordInvariant.contract.Keeps wifiHandleCmdStopAp (fun _ φ => φ = .rest) .rest := by
  unfold wifiHandleCmdStopAp
  apply Contract.keeps_perform
  apply performs_setMode
  intro _
  apply Contract.keeps_perform
  intro x w hinv
  refine ⟨trivial, fun c bits x' _ h => ⟨.rest, ?_, ?_⟩⟩
  · obtain ⟨he, hlog⟩ := exec_withGhost h
    have hlog : x'.2 = x.2 := hlog
    have hbit := bit_of_clear (t := .server) (c := c) (b := .apActive) he (by simp)
    have horder : lastOrder x.2 = .sta := hinv
    have horder' : lastOrder x'.2 = .sta := hlog ▸ horder
    change x'.1.eventBits .apActive = true ↔ lastOrder x'.2 = .apsta
    simp [hbit, horder']
  · exact Contract.performs_frame (frames_rest (by simp [quiet_iff, writes])) fun _ => rfl

theorem finish_keeps : recordInvariant.contract.Keeps (wifiManagerTaskHandle .orderStopAndDestroy)
    (fun _ φ => φ = .ended) .finishing := by
  refine RecordInvariant.finish_keeps (fun o x w _ => ?_) fun _ hnone => hnone
  exact ⟨trivial, fun _ _ _ _ _ => trivial⟩

/-- The handler of every message but the last. -/
theorem handleMsg_keeps (msg : QueueMessage) :
    recordInvariant.contract.Keeps (wifiManagerHandleMsg msg) (fun _ φ => φ = .rest) .rest := by
  by_cases hstart : ∃ flag, msg = .orderStartAp flag
  · obtain ⟨flag, rfl⟩ := hstart
    apply Contract.keeps_bind.mpr
    exact (startAp_keeps flag).mono fun _ _ hφ => hφ
  by_cases hstop : msg = .orderStopAp
  · subst hstop
    apply Contract.keeps_bind.mpr
    exact stopAp_keeps.mono fun _ _ hφ => hφ
  · refine Contract.keeps_frame ?_ fun _ => rfl
    exact (handleMsg_quiet (fun flag h => hstart ⟨flag, h⟩) hstop).mono fun _ => frames_rest

theorem taskRound_keeps : recordInvariant.contract.Keeps wifiManagerTaskRound
    (fun _ => recordInvariant.rest) .rest := by
  rw [wifiManagerTaskRound_eq]
  intro x w hinv
  refine ⟨trivial, fun c received x' _ h => ?_⟩
  obtain ⟨msg, rfl, -⟩ := queued_receive (t := .server) (c := c) (exec_withGhost h).1
  by_cases hstop : msg = .orderStopAndDestroy
  · subst hstop
    exact ⟨.finishing, trivial, finish_keeps.mono fun _ _ hφ => .inr hφ⟩
  · refine ⟨.rest, ?_, ?_⟩
    · have hreceive : Quiet xQueueReceive := by simp [quiet_iff, writes]
      exact ((frames_rest hreceive) x w hinv).2 c (some msg) x' trivial h
    · apply keeps_taskHandle hstop
      apply (handleMsg_keeps msg).mono
      rintro _ _ rfl
      exact ⟨.inl rfl, frames_rest (by simp [quiet_iff, writes])⟩

theorem sound : recordInvariant.contract.Sound := by
  apply RecordInvariant.sound
  rintro φ x p (rfl | rfl) hinv hp
  · rcases serve_cases hp with ⟨-, rfl⟩ | ⟨-, rfl⟩
    · refine Contract.keeps_frame (Prog.All.mono (fun _ => frames_rest) ?_) fun _ => .inl rfl
      unfold Prog.All
      simp [wifiManagerTaskBegin, wifiManagerWdtAddAndStart, Prog.perform, Prog.fold_call,
        Prog.fold_return, quiet_iff, writes, DriverCall.writes]
    · exact taskRound_keeps
  · have hnone : x.1.managerTask = .none := hinv
    rcases serve_cases hp with ⟨htask, -⟩ | ⟨htask, -⟩
    · exact absurd (hnone.symm.trans htask) (by simp)
    · exact absurd (hnone.symm.trans htask) (by simp)

end DriverMode

/-- The start of a run with a record of the modes. -/
def modeStart (flag : Bool) (sta : WifimanConfigSta) :
    Config WifiCall WifiCall.Ret (WifiState × ModeLog) :=
  (WifiConfig.started flag sta).withGhost []

/-- Whenever the manager task has handled a message, the bit follows the last mode given to the
driver if and only if that is the mode of the last order about the hotspot. -/
theorem ap_active_iff {flag : Bool} {sta : WifimanConfigSta} {labels : List WifiLabel}
    {cfg : Config WifiCall WifiCall.Ret (WifiState × ModeLog)}
    (h : Path (recording noteMode) (fun _ _ => True) (modeStart flag sta) labels cfg)
    (hdone : cfg.server.prog = .pure ()) (halive : cfg.shared.1.managerTask ≠ .none) :
    (cfg.shared.1.eventBits .apActive = true ↔ lastMode cfg.shared.2 = .apsta) ↔
      lastMode cfg.shared.2 = lastOrder cfg.shared.2 := by
  have hstart : DriverMode.Inv .rest (WifiState.started flag sta, []) := by
    have hclear : (WifiState.started flag sta).eventBits .apActive = false := by
      unfold WifiState.started
      dsimp only
      apply EventBits.set_of_notMem
      split_ifs <;> decide
    change (WifiState.started flag sta).eventBits .apActive = true ↔ lastOrder [] = .apsta
    simp [hclear, lastOrder]
  have hpromised : Path (recording noteMode) (Promised DriverMode.recordInvariant.assume)
      (modeStart flag sta) labels cfg := by
    refine h.mono fun cfg l _ => ?_
    cases l with
    | arrive req => exact trivial
    | run t c => exact fun _ _ _ _ => trivial
  obtain ⟨φ, hholds⟩ := RecordInvariant.holds_of_path DriverMode.sound (.inl rfl) hstart hpromised
  have hrest := hholds.server
  rw [hdone] at hrest
  have hinv := hholds.inv
  rcases hrest with rfl | rfl
  · have hbit : cfg.shared.1.eventBits .apActive = true ↔ lastOrder cfg.shared.2 = .apsta := hinv
    rw [hbit]
    cases lastOrder cfg.shared.2 <;> cases lastMode cfg.shared.2 <;> simp
  · exact absurd hinv halive

/-- The hotspot is started. -/
theorem ap_active_after_start : ∃ labels cfg,
    Path (recording noteMode) (fun _ _ => True) (modeStart false homeConfig) labels cfg ∧
      lastMode cfg.shared.2 = .apsta ∧ cfg.shared.1.eventBits .apActive = true := by
  have hrun : (runWhere (recording noteMode) (promisedTest fun _ _ _ => true)
      (modeStart false homeConfig) (runs .server 4 ++ .arrive (.startAp false) ::
        runs (.client 0) 4 ++ runs .server 6)).any (fun cfg => cfg.server.prog.next.isNone &&
          !decide (cfg.shared.1.managerTask = .none) && (decide (lastMode cfg.shared.2 = .apsta) &&
            decide (lastOrder cfg.shared.2 = .apsta))) = true := by
    decide +kernel
  obtain ⟨cfg, hpath, hdone, halive, hmodes⟩ := path_of_run (P := fun _ _ _ => True)
    (O := fun x => decide (lastMode x.2 = .apsta) && decide (lastOrder x.2 = .apsta))
    (fun _ _ _ _ => trivial) hrun
  simp only [Bool.and_eq_true, decide_eq_true_eq] at hmodes
  have hpath := hpath.mono (Q := fun _ _ => True) fun _ _ _ => trivial
  have hactive := (ap_active_iff hpath hdone halive).mpr (hmodes.1.trans hmodes.2.symm)
  exact ⟨_, cfg, hpath, hmodes.1, hactive.mpr hmodes.1⟩

/-- The access point is configured while the hotspot is not active. -/
theorem ap_not_active_after_config : ¬ ∀ (flag : Bool) (sta : WifimanConfigSta)
    (labels : List WifiLabel) (cfg : Config WifiCall WifiCall.Ret (WifiState × ModeLog)),
    Path (recording noteMode) (fun _ _ => True) (modeStart flag sta) labels cfg →
      cfg.server.prog = .pure () → cfg.shared.1.managerTask ≠ .none →
        (∀ x ∈ cfg.shared.2, x.err = espOk) →
          (cfg.shared.1.eventBits .apActive = true ↔ lastMode cfg.shared.2 = .apsta) := by
  intro hclaim
  have hrun : (runWhere (recording noteMode) (promisedTest fun _ _ _ => true)
      (modeStart false homeConfig) (runs .server 4 ++ .arrive .setConfigAp ::
        runs (.client 0) 3)).any (fun cfg => cfg.server.prog.next.isNone &&
          !decide (cfg.shared.1.managerTask = .none) && (decide (lastMode cfg.shared.2 = .apsta) &&
            !cfg.shared.1.eventBits .apActive &&
              cfg.shared.2.all fun x => decide (x.err = espOk))) = true := by
    decide +kernel
  obtain ⟨cfg, hpath, hdone, halive, hmodes⟩ := path_of_run (P := fun _ _ _ => True)
    (O := fun x => decide (lastMode x.2 = .apsta) && !x.1.eventBits .apActive &&
      x.2.all fun y => decide (y.err = espOk))
    (fun _ _ _ _ => trivial) hrun
  simp only [Bool.and_eq_true, decide_eq_true_eq, Bool.not_eq_true', List.all_eq_true] at hmodes
  obtain ⟨⟨hmode, hclear⟩, hok⟩ := hmodes
  have hpath := hpath.mono (Q := fun _ _ => True) fun _ _ _ => trivial
  have hactive := (hclaim _ _ _ cfg hpath hdone halive hok).mpr hmode
  exact absurd (hclear.symm.trans hactive) (by simp)

end WifiManager
end Esp32WifiManager
