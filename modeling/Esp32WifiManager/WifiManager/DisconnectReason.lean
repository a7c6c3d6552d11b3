import Esp32WifiManager.WifiManager.StickyDisconnect

/-!
# The reason reported after a disconnect by the user

`ORDER_DISCONNECT_STA` sets `REQUEST_DISCONNECT_BIT` for the station-disconnected
event that answers it, and clears the bit again before the event can be handled.
-/

namespace Esp32WifiManager
namespace WifiManager

open CString TaskSystem WifiCall

/-- The manager task is about to handle the event that answers a disconnect order: the order was
handled on an established connection, and no connect request of the user is pending. -/
structure AnswersDisconnect (reason : WifiErrReason) (cfg : WifiConfig) : Prop where
  handles : cfg.server.prog = wifiManagerTaskHandle (.eventStaDisconnected reason)
  noRequest : cfg.shared.eventBits .requestStaConnect = false
  ordered : ∃ cfg₀ labels, Reachable cfg₀ ∧
    cfg₀.server.prog = wifiManagerTaskHandle .orderDisconnectSta ∧
    cfg₀.shared.eventBits .wifiConnected = true ∧
    cfg₀.shared.eventBits .requestStaConnect = false ∧
    .arrive (.wifiEventStaDisconnected reason) ∈ labels ∧
    Path machine (fun _ _ => True) cfg₀ labels cfg

/-- The round of the manager task that starts at `cfg` leaves `code` in the status record. -/
def Reports (cfg : WifiConfig) (code : UpdateReasonCode) : Prop :=
  ∃ c c' cfg₁ labels cfg₂ cfg₃ ssid info written,
    Step machine cfg (.run .server c) cfg₁ ∧
    Path machine (fun cfg _ => cfg.server.prog.next.isSome) cfg₁ labels cfg₂ ∧
    cfg₂.server.prog.next = some (jsonNetworkInfoUpdate ssid info written) ∧
    Step machine cfg₂ (.run .server c') cfg₃ ∧
    cfg₃.shared.networkInfo.updateReasonCode = code

namespace DisconnectReason

/-- The bits that the station-disconnected handler reads and clears first. -/
def clearedBits : List EventBit := [.scan, .initialConnection, .staActive, .wifiConnected]

/-- `REQUEST_DISCONNECT_BIT` is clear, or the disconnect handler has just set it. -/
inductive Phase
  | free
  | asking

def taskInvariant : TaskInvariant Phase where
  inv φ s := φ = .free → s.eventBits .requestDisconnect = false
  rest φ := φ = .free
  demand o s := o = xEventGroupClearBits clearedBits → s.eventBits .requestDisconnect = false
  frame := by
    intro φ s s' hagree hinv hφ
    have hbit : s'.eventBits .requestDisconnect = s.eventBits .requestDisconnect :=
      hagree (.bit .requestDisconnect) (by decide)
    rw [hbit]
    exact hinv hφ

/-- A call that does not ask for a disconnect. -/
def NoAsk (o : WifiCall) : Prop := ∀ mask, o = xEventGroupSetBits mask → .requestDisconnect ∉ mask

/-- A call that stores no other reason than a lost connection. -/
def StoresLost (o : WifiCall) : Prop :=
  ∀ ssid info code, o = jsonNetworkInfoUpdate ssid info code → code = .lostConnection

section Keeps

variable {o : WifiCall}

theorem frames_free (ho : NoAsk o) : taskInvariant.contract.Frames .free o := by
  intro s w hinv
  exact ⟨fun _ => hinv rfl, fun c r s' _ h _ => bit_stays_clear h ho (hinv rfl)⟩

theorem frames_asking (ho : o ≠ xEventGroupClearBits clearedBits) :
    taskInvariant.contract.Frames .asking o := by
  intro s w _
  exact ⟨fun heq => absurd heq ho, fun c r s' _ _ hφ => absurd hφ (by simp)⟩

theorem keeps_free {α : Type} {p : WifiProg α} (hp : p.All NoAsk) :
    taskInvariant.contract.Keeps p (fun _ φ => φ = .free) .free :=
  Contract.keeps_frame (hp.mono fun _ ho => frames_free ho) fun _ => rfl

/-- The disconnect handler sets the bit and clears it. -/
theorem disconnect_keeps : taskInvariant.contract.Keeps wifiHandleCmdDisconnectSta
    (fun _ φ => φ = .free) .free := by
  unfold wifiHandleCmdDisconnectSta
  apply Contract.performs_frame (frames_free (by simp [NoAsk]))
  intro _
  apply keeps_call
  intro s w hinv
  refine ⟨nofun, fun c bits s' _ _ => ⟨.asking, nofun, ?_⟩⟩
  iterate 3
    apply Contract.performs_frame (frames_asking (by simp [clearedBits]))
    intro _
  apply keeps_call
  intro s w hinv
  refine ⟨fun h => absurd h (by simp [clearedBits]), fun c r s' _ h => ?_⟩
  refine ⟨.free, fun _ => bit_of_clear h (by simp), ?_⟩
  apply keeps_free
  unfold Prog.All
  simp [wifimanMsgSendCmdConnectSta, wifimanMsgSend, wifimanMsgSendWithTimeout, Prog.perform,
    Prog.fold_call, Prog.fold_return, NoAsk]

theorem handleMsg_keeps (msg : QueueMessage) :
    taskInvariant.contract.Keeps (wifiManagerHandleMsg msg) (fun _ φ => φ = .free) .free := by
  by_cases hmsg : msg = .orderDisconnectSta
  · subst hmsg
    exact Contract.keeps_bind.mpr (disconnect_keeps.mono fun _ _ hφ => hφ)
  · apply keeps_free
    refine (wifiManagerHandleMsg_allThen msg).all.mono ?_
    cases msg
    case orderDisconnectSta => exact absurd rfl hmsg
    all_goals
      simp [QueueMessage.MayCall, OfSender, OfLossUpdate, or_imp, forall_and]
      try simp [NoAsk]

theorem taskRound_keeps : taskInvariant.contract.Keeps wifiManagerTaskRound
    (fun _ => taskInvariant.rest) .free := by
  apply keeps_taskRound
  intro s w hinv
  refine ⟨fun h => absurd h (by simp), fun c msg s' _ h _ => ⟨.free, ?_, ?_⟩⟩
  · exact fun _ => bit_stays_clear (b := .requestDisconnect) h (by simp) (hinv rfl)
  · by_cases hstop : msg = .orderStopAndDestroy
    · subst hstop
      apply keeps_free
      refine (wifiManagerTaskHandle_all _).mono ?_
      simp [QueueMessage.RoundCall, QueueMessage.MayCall, OfFinish, or_imp, forall_and]
      simp [NoAsk]
    · apply keeps_taskHandle hstop
      apply (handleMsg_keeps msg).mono
      rintro _ _ rfl
      exact ⟨rfl, frames_free (by simp [NoAsk])⟩

theorem sound : taskInvariant.contract.Sound := by
  apply TaskInvariant.sound
  · rintro _ rfl
    apply keeps_free
    unfold Prog.All
    simp [wifiManagerTaskBegin, wifiManagerWdtAddAndStart, Prog.perform, Prog.fold_call,
      Prog.fold_return, NoAsk]
  · rintro _ rfl
    exact taskRound_keeps

/-- With both request bits clear the handler takes the event for a lost connection. -/
theorem disconnected_call (reason : WifiErrReason) :
    ∃ f, wifiManagerTaskHandle (.eventStaDisconnected reason) =
        call (xEventGroupClearBits clearedBits) >>= f ∧
      ∀ bits, bits .requestStaConnect = false → bits .requestDisconnect = false →
        (f bits).All StoresLost := by
  simp only [wifiManagerTaskHandle, wifiManagerHandleMsg, wifiHandleEvStaDisconnected,
    Prog.bind_bind]
  refine ⟨_, rfl, ?_⟩
  intro bits hrequest hdisconnect
  unfold Prog.All
  simp [wifiStaDisconnectedReason, hrequest, hdisconnect, wifiHandleEvStaHandleLostConnection,
    wifimanConfigStaGetSsid, wifiManagerUpdateNetworkConnectionInfo, wifiStaDisconnectedReconnect,
    Prog.perform, Prog.fold_call, Prog.fold_return, StoresLost]

theorem started_free (flag : Bool) (sta : WifimanConfigSta) :
    (WifiState.started flag sta).eventBits .requestDisconnect = false := by
  unfold WifiState.started
  dsimp only
  apply EventBits.set_of_notMem
  split_ifs <;> decide

end Keeps

end DisconnectReason

/-- The station-disconnected event that answers a disconnect order is always reported as a lost
connection. -/
theorem disconnect_reported_lost {reason : WifiErrReason} {cfg : WifiConfig}
    {code : UpdateReasonCode} (hreach : Reachable cfg) (hanswer : AnswersDisconnect reason cfg)
    (hreports : Reports cfg code) : code = .lostConnection := by
  obtain ⟨flag, sta, labels₀, hrun₀⟩ := hreach
  obtain ⟨φ, h⟩ := TaskInvariant.holds_of_path DisconnectReason.sound rfl
    (fun _ => DisconnectReason.started_free flag sta) hrun₀
  obtain ⟨f, hf, hlost⟩ := DisconnectReason.disconnected_call reason
  have hprog := hanswer.handles.trans hf
  have hdisconnect := h.demand hprog rfl
  obtain ⟨c, c', cfg₁, labels, cfg₂, cfg₃, ssid, info, written, hstart, hround, hnext, hstore, rfl⟩ :=
    hreports
  rcases hstart.server_call hprog with ⟨bits, s, he, rfl⟩ | ⟨he, -⟩
  · obtain ⟨rfl, rfl⟩ := Prod.mk.inj (Option.some.inj he)
    have hall := hround.server_all (hlost _ hanswer.noRequest hdisconnect)
    obtain ⟨k, hk⟩ := Prog.of_next hnext
    rw [hk] at hall
    obtain rfl := hall.1 ssid info written rfl
    rcases hstore.server_call hk with ⟨r, s, he, rfl⟩ | ⟨he, -⟩
    · obtain ⟨-, rfl⟩ := Prod.mk.inj (Option.some.inj he)
      rfl
    · exact absurd he (by simp [machine, exec])
  · exact absurd he (by simp [machine, exec])

/-! ### A run in which the user disconnects -/

/-- The saved network is connected, the user disconnects, and the order has been received. -/
def orderedLabels : List WifiLabel :=
  runs .server 15 ++ .arrive (.ipEventStaGotIp 1) :: runs (.client 0) 4 ++ runs .server 11 ++
    .arrive .disconnectWifi :: runs (.client 1) 4 ++ runs .server 2

/-- The order is handled, and the event that answers it has been received. -/
def answerLabels : List WifiLabel :=
  runs .server 7 ++ .arrive (.wifiEventStaDisconnected 8) :: runs (.client 2) 4 ++ runs .server 2

def roundInProgress (cfg : WifiConfig) (_ : WifiLabel) : Bool := cfg.server.prog.next.isSome

/-- The station is connected and no connect request of the user is pending. -/
def connectedAlone (cfg : WifiConfig) : Bool :=
  cfg.shared.eventBits .wifiConnected && !cfg.shared.eventBits .requestStaConnect

/-- The call that stores a lost connection in the status record. -/
def homeLost : WifiCall :=
  jsonNetworkInfoUpdate (some (CharBuf.ofStr 32 (ascii "home")))
    ⟨ascii "0", ascii "0", ascii "0", []⟩ .lostConnection

/-- The round goes on to the call that stores the reason, which is not the user's disconnect. -/
def storesLostNext (cfg : WifiConfig) : Bool :=
  (step machine cfg (.run .server .ok)).any fun cfg₁ =>
    (runWhere machine roundInProgress cfg₁ (runs .server 4)).any fun cfg₂ =>
      decide (cfg₂.server.prog.next = some homeLost) &&
        (step machine cfg₂ (.run .server .ok)).any fun cfg₃ =>
          cfg₃.shared.networkInfo.updateReasonCode = .lostConnection

theorem reports_of_test {cfg : WifiConfig} (h : storesLostNext cfg = true) :
    Reports cfg .lostConnection := by
  obtain ⟨cfg₁, h₁, h⟩ := (Option.any_eq_true _ _).mp h
  obtain ⟨cfg₂, h₂, h⟩ := (Option.any_eq_true _ _).mp h
  obtain ⟨hnext, h⟩ := Bool.and_eq_true_iff.mp h
  obtain ⟨cfg₃, h₃, h⟩ := (Option.any_eq_true _ _).mp h
  exact ⟨.ok, .ok, cfg₁, _, cfg₂, cfg₃, _, _, _, .of_step h₁,
    Path.of_runWhere (fun _ _ hok => hok) h₂, of_decide_eq_true hnext, .of_step h₃,
    of_decide_eq_true h⟩

theorem answered_run : ∃ cfg, Reachable cfg ∧ AnswersDisconnect 8 cfg ∧
    Reports cfg .lostConnection := by
  have hordered : (runWhere machine (fun _ _ => true) (WifiConfig.started true homeConfig)
      orderedLabels).map (fun cfg => cfg.server.prog) =
        some (wifiManagerTaskHandle .orderDisconnectSta) := by
    rfl
  have hanswer : (runWhere machine (fun _ _ => true) (WifiConfig.started true homeConfig)
      (orderedLabels ++ answerLabels)).map (fun cfg => cfg.server.prog) =
        some (wifiManagerTaskHandle (.eventStaDisconnected 8)) := by
    rfl
  have hconnected : (runWhere machine (fun _ _ => true) (WifiConfig.started true homeConfig)
      orderedLabels).all connectedAlone = true := by
    decide +kernel
  have hstores : (runWhere machine (fun _ _ => true) (WifiConfig.started true homeConfig)
      (orderedLabels ++ answerLabels)).any (fun cfg =>
        !cfg.shared.eventBits .requestStaConnect && storesLostNext cfg) = true := by
    decide +kernel
  obtain ⟨cfg, hcfg, hstores⟩ := (Option.any_eq_true _ _).mp hstores
  obtain ⟨cfg₀, h₀, hrest⟩ := runWhere_append.mp hcfg
  rw [h₀] at hordered hconnected
  rw [hcfg] at hanswer
  simp only [Option.all_some, connectedAlone, Bool.and_eq_true, Bool.not_eq_true']
    at hconnected hstores
  have hreach₀ : Reachable cfg₀ := ⟨_, _, _, Path.of_runWhere (fun _ _ _ => trivial) h₀⟩
  refine ⟨cfg, ⟨_, _, _, Path.of_runWhere (fun _ _ _ => trivial) hcfg⟩, ?_,
    reports_of_test hstores.2⟩
  refine ⟨Option.some.inj hanswer, hstores.1, cfg₀, answerLabels, hreach₀, Option.some.inj hordered,
    hconnected.1, hconnected.2, ?_, Path.of_runWhere (fun _ _ _ => trivial) hrest⟩
  simp [answerLabels]

theorem disconnect_reported_lost_home : ∃ cfg code,
    AnswersDisconnect 8 cfg ∧ Reports cfg code ∧ code = .lostConnection := by
  obtain ⟨cfg, hreach, hanswer, hreports⟩ := answered_run
  exact ⟨cfg, _, hanswer, hreports, disconnect_reported_lost hreach hanswer hreports⟩

theorem disconnect_not_reported : ¬ ∀ (reason : WifiErrReason) (cfg : WifiConfig)
    (code : UpdateReasonCode), Reachable cfg → AnswersDisconnect reason cfg → Reports cfg code →
      code = .userDisconnect := by
  intro hclaim
  obtain ⟨cfg, hreach, hanswer, hreports⟩ := answered_run
  exact absurd (hclaim 8 cfg .lostConnection hreach hanswer hreports) (by simp)

end WifiManager
end Esp32WifiManager
