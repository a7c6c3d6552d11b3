import Esp32WifiManager.WifiManager.Handlers

/-!
# What happens after a disconnect by the user

The handler of `ORDER_DISCONNECT_STA` stops the reconnect timer, disconnects and
posts a new connect order when a connection attempt by the user is under way.
The station stays disconnected when no other connect order is left over.
-/

namespace Esp32WifiManager
namespace WifiManager

open CString TaskSystem WifiCall

/-- The call puts a connect order into the queue whose kind satisfies `K`. -/
def PostsConnect (K : ConnectionRequest → Prop) (o : WifiCall) : Prop :=
  ∃ connReq timeout, K connReq ∧ o = xQueueSend (.orderConnectSta connReq) timeout

/-- No connect order of such a kind is in the queue, and no client is about to post one. -/
structure NoConnectLeft (K : ConnectionRequest → Prop) (cfg : WifiConfig) : Prop where
  queued : ∀ connReq, K connReq → .orderConnectSta connReq ∉ cfg.shared.queued
  posted : ClientsAll (fun o => ¬ PostsConnect K o) cfg

/-- A connect request by the user, by WPS or by the application arrives. -/
def WifiLabel.RequestsConnect : WifiLabel → Prop
  | .arrive req => ∃ connReq ≠ .autoReconnect, .orderConnectSta connReq ∈ req.posts
  | .run _ _ => False

/-- The state in which nothing brings a connection back: but for `STA_ACTIVE_BIT` it is reached
when the disconnect handler has stopped the timer. -/
structure WifiState.Disconnecting (s : WifiState) : Prop where
  timer : s.reconnectTimer = none
  noRequest : s.eventBits .requestStaConnect = false
  noOrder : ∀ connReq, .orderConnectSta connReq ∉ s.queued

namespace StickyDisconnect

inductive Phase
  | handling
  | disconnected

/-- Calls that bring no connection back. -/
def Harmless : WifiCall → Prop
  | xEventGroupSetBits mask => .staActive ∉ mask ∧ .requestStaConnect ∉ mask
  | xQueueSend msg _ => ∀ connReq, msg ≠ .orderConnectSta connReq
  | startTimerReconnectSta _ => False
  | driver .espWifiConnect => False
  | _ => True

/-- Bits that are read while nothing brings a connection back. -/
def Answers (φ : Phase) : (o : WifiCall) → o.Ret → Prop
  | xEventGroupSetBits _, bits | xEventGroupClearBits _, bits | xEventGroupGetBits, bits =>
    bits .requestStaConnect = false ∧ (φ = .disconnected → bits .staActive = false)
  | _, _ => True

/-- The credit of a client tells whether it may still post a connect order. -/
noncomputable def contract : Contract machine Phase ℕ where
  inv φ s w := s.Disconnecting ∧ w = 0 ∧ (φ = .disconnected → s.eventBits .staActive = false)
  rest φ := φ = .disconnected
  assume _ _ _ _ _ := True
  assumeArrive req _ _ := ¬ WifiLabel.RequestsConnect (.arrive req)
  demand o _ _ := o ≠ driver .espWifiConnect
  credit p := p.mayMake (PostsConnect fun _ => True)
  client p := p.All WifiCall.IsClientCall

section Calls

variable {t : TaskId} {o : WifiCall} {c : Reply} {s s' : WifiState} {r : o.Ret} {φ : Phase}

theorem Harmless.sets (ho : Harmless o) {mask : List EventBit} (h : o = xEventGroupSetBits mask) :
    .staActive ∉ mask ∧ .requestStaConnect ∉ mask := by
  subst h
  exact ho

theorem exec_disconnecting (h : exec t o c s = some (r, s')) (ho : Harmless o)
    (hs : s.Disconnecting) : s'.Disconnecting where
  timer := by
    refine reconnectTimer_stays_none h ?_ hs.timer
    rintro delayMs rfl
    exact ho
  noRequest := bit_stays_clear h (fun _ hmask => (ho.sets hmask).2) hs.noRequest
  noOrder := by
    intro connReq hmsg
    rcases queued_of_exec h hmsg with hold | ⟨timeout, rfl⟩
    · exact hs.noOrder connReq hold
    · exact ho connReq rfl

theorem exec_staActive (h : exec t o c s = some (r, s')) (ho : Harmless o)
    (hs : s.eventBits .staActive = false) : s'.eventBits .staActive = false :=
  bit_stays_clear h (fun _ hmask => (ho.sets hmask).1) hs

/-- A harmless call keeps the invariant and reads harmless bits. -/
theorem performs_harmless (ho : Harmless o) :
    contract.Performs o (fun r φ' => φ' = φ ∧ Answers φ o r) φ := by
  rintro s w ⟨hs, rfl, hactive⟩
  refine ⟨?_, ?_⟩
  · rintro rfl
    exact ho
  · intro c r s' _ h
    have hs' := exec_disconnecting h ho hs
    have hactive' : φ = .disconnected → s'.eventBits .staActive = false :=
      fun hφ => exec_staActive h ho (hactive hφ)
    refine ⟨φ, ⟨hs', rfl, hactive'⟩, rfl, ?_⟩
    cases o <;> try exact trivial
    case xEventGroupSetBits mask =>
      obtain ⟨rfl, rfl⟩ := Prod.mk.inj (Option.some.inj h)
      exact ⟨hs'.noRequest, hactive'⟩
    case xEventGroupClearBits mask =>
      obtain ⟨rfl, rfl⟩ := Prod.mk.inj (Option.some.inj h)
      exact ⟨hs.noRequest, hactive⟩
    case xEventGroupGetBits =>
      obtain ⟨rfl, rfl⟩ := Prod.mk.inj (Option.some.inj h)
      exact ⟨hs.noRequest, hactive⟩

/-- A client that will not post a connect order is harmless. -/
theorem harmless_of_client (ho : o.IsClientCall) (hpost : ¬ PostsConnect (fun _ => True) o) :
    Harmless o := by
  obtain ⟨posts, ho⟩ := ho
  cases o <;> try exact trivial
  case xEventGroupSetBits mask => rcases ho with rfl | rfl | rfl | rfl <;> exact ⟨by decide, by decide⟩
  case xQueueSend msg timeout =>
    rintro connReq rfl
    exact hpost ⟨connReq, timeout, trivial, rfl⟩
  case startTimerReconnectSta => exact ho
  case driver d =>
    cases d <;> first | exact trivial | exact ho

end Calls

section Handlers

attribute [local simp] Prog.perform Prog.fold_call Prog.fold_return wifimanMsgSend
  wifimanMsgSendWithTimeout Harmless Answers

/-- The station-disconnected event does not start the timer. -/
theorem wifiHandleEvStaDisconnected_harmless (reason : WifiErrReason) :
    (wifiHandleEvStaDisconnected reason).AllGiven (Answers .disconnected) Harmless := by
  refine .perform_bind trivial fun bits hbits => ?_
  obtain ⟨hrequest, hactive⟩ := hbits
  have hactive := hactive rfl
  unfold Prog.AllGiven
  simp [wifiStaDisconnectedReason, wifiHandleEvStaHandleLostConnection, hrequest, hactive,
    wifimanConfigStaGetSsid, wifiManagerUpdateNetworkConnectionInfo, wifiStaDisconnectedReconnect]

/-- A disconnect order does not post a new connect order. -/
theorem wifiHandleCmdDisconnectSta_harmless :
    wifiHandleCmdDisconnectSta.AllGiven (Answers .disconnected) Harmless := by
  unfold Prog.AllGiven
  simp +contextual [wifiHandleCmdDisconnectSta]

end Handlers

/-- Every message but a connect order is handled harmlessly once the station is disconnected. -/
theorem handleMsg_harmless {msg : QueueMessage}
    (hmsg : ∀ connReq, msg ≠ .orderConnectSta connReq) :
    (wifiManagerHandleMsg msg).AllGiven (Answers .disconnected) Harmless := by
  have hall := (wifiManagerHandleMsg_allThen msg).all.given (Answers .disconnected)
  cases msg
  case orderConnectSta connReq => exact absurd rfl (hmsg connReq)
  case orderDisconnectSta => exact wifiHandleCmdDisconnectSta_harmless.bind fun _ => trivial
  case eventStaDisconnected reason =>
    exact (wifiHandleEvStaDisconnected_harmless reason).bind fun _ => trivial
  all_goals
    refine hall.mono ?_
    simp [QueueMessage.MayCall, OfSender, or_imp, forall_and, Harmless]

theorem frames_of_harmless {φ : Phase} {o : WifiCall} (ho : Harmless o) : contract.Frames φ o := by
  intro s w hinv
  obtain ⟨hd, hcall⟩ := performs_harmless ho s w hinv
  refine ⟨hd, fun c r s' ha he => ?_⟩
  obtain ⟨φ', hinv', rfl, -⟩ := hcall c r s' ha he
  exact hinv'

theorem taskHandle_keeps {msg : QueueMessage} (hmsg : ∀ connReq, msg ≠ .orderConnectSta connReq) :
    contract.Keeps (wifiManagerTaskHandle msg) (fun _ => contract.rest) .disconnected := by
  by_cases hstop : msg = .orderStopAndDestroy
  · subst hstop
    refine Contract.keeps_frame ((wifiManagerTaskHandle_all _).mono ?_) fun _ => rfl
    intro o ho
    apply frames_of_harmless
    revert o
    simp [QueueMessage.RoundCall, QueueMessage.MayCall, OfFinish, or_imp, forall_and, Harmless]
  · apply keeps_taskHandle hstop
    apply Contract.keeps_given ((handleMsg_harmless hmsg).mono fun o ho => performs_harmless ho)
    intro _
    exact ⟨rfl, frames_of_harmless trivial⟩

/-- A round that starts after the disconnect finds no connect order in the queue. -/
theorem taskRound_keeps :
    contract.Keeps wifiManagerTaskRound (fun _ => contract.rest) .disconnected := by
  apply keeps_taskRound
  rintro s w ⟨hs, rfl, hactive⟩
  refine ⟨nofun, fun c msg s' _ h hq => ?_⟩
  refine ⟨.disconnected, ⟨exec_disconnecting h trivial hs, rfl, fun _ => ?_⟩, ?_⟩
  · exact exec_staActive h trivial (hactive rfl)
  · apply taskHandle_keeps
    rintro connReq rfl
    exact hs.noOrder connReq (hq ▸ List.mem_cons_self ..)

/-- A harmless call, and what it reads. -/
theorem keeps_harmless {α : Type} {φ : Phase} {o : WifiCall} {f : o.Ret → WifiProg α}
    {post : α → Phase → Prop} (ho : Harmless o)
    (hf : ∀ r, Answers φ o r → contract.Keeps (f r) post φ) :
    contract.Keeps (call o >>= f) post φ := by
  apply keeps_call
  intro s w hinv
  obtain ⟨hd, hcall⟩ := performs_harmless ho s w hinv
  refine ⟨hd, fun c r s' ha he => ?_⟩
  obtain ⟨φ', hinv', rfl, hr⟩ := hcall c r s' ha he
  exact ⟨φ', hinv', hf r hr⟩

/-- The disconnect handler ends in a state in which the station is disconnected. -/
theorem disconnect_keeps :
    contract.Keeps (wifiManagerTaskHandle .orderDisconnectSta) (fun _ => contract.rest)
      .handling := by
  apply keeps_taskHandle (by simp)
  apply Contract.keeps_bind.mpr
  unfold wifiHandleCmdDisconnectSta
  apply keeps_harmless (by exact trivial)
  intro _ _
  apply keeps_harmless (by simp [Harmless])
  rintro bits ⟨hbits, -⟩
  apply keeps_call
  rintro s w ⟨hs, rfl, -⟩
  refine ⟨nofun, fun c _ s' _ he => ?_⟩
  have hs' : s'.Disconnecting := exec_disconnecting he trivial hs
  refine ⟨.disconnected, ⟨hs', rfl, fun _ => bit_of_clear he (by simp)⟩, ?_⟩
  apply keeps_harmless (by exact trivial)
  intro _ _
  apply keeps_harmless (by exact trivial)
  intro _ _
  apply keeps_harmless (by exact trivial)
  intro _ _
  rw [hbits]
  exact ⟨rfl, frames_of_harmless trivial⟩

theorem taskBegin_keeps :
    contract.Keeps wifiManagerTaskBegin (fun _ => contract.rest) .disconnected := by
  apply Contract.keeps_bind.mpr
  apply keeps_harmless (by exact trivial)
  intro _ _
  apply keeps_harmless (by exact trivial)
  intro _ _
  apply keeps_harmless (by exact trivial)
  intro _ _
  exact rfl

/-- No request but a connect request, and an expired reconnect timer, posts a connect order. -/
theorem never_posts {req : Request} {s s' : WifiState} (hoccur : req.occur s = some s')
    (htimer : s.reconnectTimer = none) (hreq : ¬ WifiLabel.RequestsConnect (.arrive req)) :
    req.prog.Never (PostsConnect fun _ => True) := by
  refine req.prog_ofClient.mono ?_
  rintro _ ho ⟨connReq, timeout, -, rfl⟩
  have hpost : QueueMessage.orderConnectSta connReq ∈ req.posts := ho
  by_cases hauto : connReq = .autoReconnect
  · subst hauto
    cases req <;> simp [Request.posts] at hpost
    simp [Request.occur, htimer] at hoccur
  · exact hreq ⟨connReq, hauto, hpost⟩

theorem occur_disconnecting {req : Request} {s s' : WifiState} (hoccur : req.occur s = some s')
    (hs : s.Disconnecting) : s'.Disconnecting ∧ s'.eventBits = s.eventBits := by
  have hqueue : s'.msgQueue = s.msgQueue := occur_agree (f := .msgQueue) hoccur (by
    cases req <;> simp [Request.writes])
  have hbits : s'.eventBits = s.eventBits := by
    funext b
    exact occur_agree (f := .bit b) hoccur (by cases req <;> simp [Request.writes])
  refine ⟨⟨?_, hbits ▸ hs.noRequest, ?_⟩, hbits⟩
  · by_cases hw : Field.reconnectTimer ∈ req.writes
    · cases req <;> simp [Request.writes] at hw
      simp [Request.occur, hs.timer] at hoccur
    · have htimer : s'.reconnectTimer = s.reconnectTimer := occur_agree hoccur hw
      rw [htimer]
      exact hs.timer
  · unfold WifiState.queued
    rw [hqueue]
    exact hs.noOrder

theorem contract_sound : contract.Sound where
  call := by
    rintro φ i o k c r s s' w hclient ⟨hs, hw, hactive⟩ - he
    obtain ⟨rfl, hcredit⟩ : w = 0 ∧ contract.credit (.call o k) = 0 := by omega
    have hnever := Prog.mayMake_eq_zero.mp hcredit
    have ho := harmless_of_client hclient.1 hnever.1
    refine ⟨⟨exec_disconnecting he ho hs, ?_, fun hφ => exec_staActive he ho (hactive hφ)⟩,
      hclient.2 r⟩
    exact Nat.add_eq_zero_iff.mpr ⟨rfl, Prog.mayMake_eq_zero.mpr (hnever.2 r)⟩
  arrive := by
    rintro φ req s s' p w ⟨hs, rfl, hactive⟩ hreq ha
    obtain ⟨hoccur, rfl⟩ := arrive_eq ha
    obtain ⟨hs', hbits⟩ := occur_disconnecting hoccur hs
    have hnever := never_posts hoccur hs.timer hreq
    refine ⟨⟨hs', ?_, fun hφ => hbits ▸ hactive hφ⟩, (arrive_all ha)⟩
    exact Nat.add_eq_zero_iff.mpr ⟨rfl, Prog.mayMake_eq_zero.mpr hnever⟩
  serve := by
    rintro φ s p w rfl hinv hp
    rcases serve_cases hp with ⟨-, rfl⟩ | ⟨-, rfl⟩
    · exact ⟨.disconnected, hinv, taskBegin_keeps⟩
    · exact ⟨.disconnected, hinv, taskRound_keeps⟩

/-- The system when the disconnect handler has stopped the timer. -/
theorem holds_of_stop {cfg₀ cfg : WifiConfig} {c : Reply} (hreach : Reachable cfg₀)
    (hhandle : cfg₀.server.prog = wifiManagerTaskHandle .orderDisconnectSta)
    (hrequest : cfg₀.shared.eventBits .requestStaConnect = false)
    (hleft : NoConnectLeft (fun _ => True) cfg₀)
    (hstop : Step machine cfg₀ (.run .server c) cfg) : ∃ φ, contract.Holds φ cfg := by
  obtain ⟨k, hk⟩ : ∃ k, wifiManagerTaskHandle .orderDisconnectSta = .call stopTimerReconnectSta k :=
    ⟨_, rfl⟩
  have hload : contract.load cfg₀ = 0 :=
    Contract.load_eq_zero.mpr fun i x hx => Prog.mayMake_eq_zero.mpr (hleft.posted hx)
  rcases hstop.server_call (hhandle.trans hk) with ⟨r, s, he, rfl⟩ | ⟨he, -⟩
  · obtain ⟨-, rfl⟩ := Prod.mk.inj (Option.some.inj he)
    have hs : WifiState.Disconnecting { cfg₀.shared with reconnectTimer := none } :=
      ⟨rfl, hrequest, fun connReq => hleft.queued connReq trivial⟩
    -- the call that has just been made, made once more
    have hkeeps := disconnect_keeps
    rw [hk] at hkeeps
    obtain ⟨φ, hinv, hrest⟩ := (hkeeps _ 0 ⟨hs, rfl, nofun⟩).2 c () _ trivial rfl
    refine ⟨φ, ⟨?_, hrest, fun hx => hreach.clientsAll hx⟩⟩
    rw [Contract.load_setTask_server, Contract.load_setShared, hload, Config.setTask_shared]
    exact hinv
  · exact absurd he (by simp [machine, exec])

end StickyDisconnect

/-- After a disconnect order whose handler has found no connect request of the user under way and
no connect order left over, the manager task does not connect until a connect request arrives. -/
theorem disconnect_sticks {cfg₀ cfg₁ cfg : WifiConfig} {c : Reply} {labels : List WifiLabel}
    (hreach : Reachable cfg₀)
    (hhandle : cfg₀.server.prog = wifiManagerTaskHandle .orderDisconnectSta)
    (hrequest : cfg₀.shared.eventBits .requestStaConnect = false)
    (hleft : NoConnectLeft (fun _ => True) cfg₀)
    (hstop : Step machine cfg₀ (.run .server c) cfg₁)
    (hrun : Path machine (fun _ l => ¬ WifiLabel.RequestsConnect l) cfg₁ labels cfg) :
    cfg.server.prog.next ≠ some (driver .espWifiConnect) := by
  obtain ⟨φ₁, h₁⟩ := StickyDisconnect.holds_of_stop hreach hhandle hrequest hleft hstop
  have hmeets : ∀ (cfg : WifiConfig) (l : WifiLabel), ¬ l.RequestsConnect →
      StickyDisconnect.contract.Meets cfg l := by
    intro cfg l hl
    cases l with
    | arrive req => exact hl
    | run t reply => exact fun _ _ _ _ => trivial
  obtain ⟨φ, h⟩ := h₁.path StickyDisconnect.contract_sound hmeets hrun
  intro hnext
  cases hprog : cfg.server.prog with
  | pure a => rw [hprog] at hnext; exact absurd hnext (by simp [Prog.next])
  | call o k =>
    rw [hprog] at hnext
    obtain rfl := Option.some.inj hnext
    exact h.demand hprog rfl

instance (l : WifiLabel) : Decidable l.RequestsConnect :=
  match l with
  | .run _ _ => inferInstanceAs (Decidable False)
  | .arrive req => decidable_of_iff
      (req.posts.any fun msg => match msg with
        | .orderConnectSta connReq => connReq ≠ .autoReconnect
        | _ => false) (by
      simp only [List.any_eq_true, WifiLabel.RequestsConnect]
      constructor
      · rintro ⟨msg, hmsg, h⟩
        split at h
        · rename_i connReq
          exact ⟨connReq, by simpa using h, hmsg⟩
        · exact absurd h (by simp)
      · rintro ⟨connReq, hne, hmsg⟩
        exact ⟨_, hmsg, by simpa using hne⟩)

/-- Runs in which nobody requests a connection. -/
def withoutRequest (_ : WifiConfig) (l : WifiLabel) : Bool := decide ¬ l.RequestsConnect

theorem path_withoutRequest {cfg cfg' : WifiConfig} {labels : List WifiLabel}
    (h : runWhere machine withoutRequest cfg labels = some cfg') :
    Path machine (fun _ l => ¬ WifiLabel.RequestsConnect l) cfg labels cfg' :=
  Path.of_runWhere (fun _ _ hl => of_decide_eq_true hl) h

theorem reachable_withoutRequest {flag : Bool} {sta : WifimanConfigSta} {cfg : WifiConfig}
    {labels : List WifiLabel}
    (h : runWhere machine withoutRequest (WifiConfig.started flag sta) labels = some cfg) :
    Reachable cfg :=
  ⟨flag, sta, labels, (path_withoutRequest h).mono fun _ _ _ => trivial⟩

/-- The user disconnects, and the manager task has received the order. -/
def disconnectLabels : List WifiLabel :=
  runs .server 4 ++ .arrive .disconnectWifi :: runs (.client 0) 4 ++ runs .server 2

/-- Nothing in the state or on its way connects the station. -/
def nothingLeft (cfg : WifiConfig) : Bool :=
  !cfg.shared.eventBits .requestStaConnect && cfg.shared.queued.isEmpty && clientsDone cfg

theorem disconnect_sticks_alone :
    ∃ cfg₀ cfg₁ cfg : WifiConfig,
      cfg₀.server.prog = wifiManagerTaskHandle .orderDisconnectSta ∧
      Step machine cfg₀ (.run .server .ok) cfg₁ ∧
      Path machine (fun _ l => ¬ WifiLabel.RequestsConnect l) cfg₁
        (runs .server 7 ++ .arrive .stopAp :: runs (.client 1) 4 ++ runs .server 2) cfg ∧
      cfg.server.prog.next ≠ some (driver .espWifiConnect) := by
  have hsome : (runWhere machine withoutRequest (WifiConfig.started false WifiState.zero.config)
      (disconnectLabels ++ .run .server .ok ::
        (runs .server 7 ++ .arrive .stopAp :: runs (.client 1) 4 ++ runs .server 2))).isSome := by
    decide +kernel
  have hprog : (runWhere machine withoutRequest (WifiConfig.started false WifiState.zero.config)
      disconnectLabels).map (fun cfg => cfg.server.prog) =
        some (wifiManagerTaskHandle .orderDisconnectSta) := by
    rfl
  have hleft : (runWhere machine withoutRequest (WifiConfig.started false WifiState.zero.config)
      disconnectLabels).all nothingLeft = true := by
    decide +kernel
  obtain ⟨cfg, hcfg⟩ := Option.isSome_iff_exists.mp hsome
  obtain ⟨cfg₀, h₀, hrest⟩ := runWhere_append.mp hcfg
  obtain ⟨cfg₁, hstop, hrest⟩ := runWhere_cons hrest
  rw [h₀] at hprog hleft
  have hhandle := Option.some.inj hprog
  simp only [nothingLeft, Option.all_some, Bool.and_eq_true, Bool.not_eq_true',
    List.isEmpty_iff] at hleft
  obtain ⟨⟨hrequest, hqueue⟩, hdone⟩ := hleft
  have hrun := path_withoutRequest hrest
  have hleft : NoConnectLeft (fun _ => True) cfg₀ :=
    ⟨fun _ _ => by simp [hqueue], ClientsAll.of_done hdone⟩
  exact ⟨cfg₀, cfg₁, cfg, hhandle, hstop, hrun,
    disconnect_sticks (reachable_withoutRequest h₀) hhandle hrequest hleft hstop hrun⟩

/-- The station has lost its connection, the user disconnects, and the reconnect timer expires
before the order is handled. -/
def reconnectLabels : List WifiLabel :=
  runs .server 15 ++ .arrive (.wifiEventStaDisconnected 201) :: runs (.client 0) 4 ++
    runs .server 10 ++ .arrive .disconnectWifi :: runs (.client 1) 4 ++
    .arrive .reconnectTimerExpired :: runs (.client 2) 5 ++ runs .server 2

/-- What is left over is an automatic reconnect. -/
def reconnectLeft (cfg : WifiConfig) : Bool :=
  decide (cfg.shared.queued = [.orderConnectSta .autoReconnect]) && clientsDone cfg

theorem disconnect_undone :
    ¬ ∀ (cfg₀ cfg₁ cfg : WifiConfig) (c : Reply) (labels : List WifiLabel),
      Reachable cfg₀ → cfg₀.server.prog = wifiManagerTaskHandle .orderDisconnectSta →
      NoConnectLeft (· ≠ .autoReconnect) cfg₀ → Step machine cfg₀ (.run .server c) cfg₁ →
      Path machine (fun _ l => ¬ WifiLabel.RequestsConnect l) cfg₁ labels cfg →
      cfg.server.prog.next ≠ some (driver .espWifiConnect) := by
  intro hclaim
  have hnext : (runWhere machine withoutRequest (WifiConfig.started true homeConfig)
      (reconnectLabels ++ .run .server .ok :: runs .server 14)).any
        (fun cfg => cfg.server.prog.next = some (driver .espWifiConnect)) = true := by
    decide +kernel
  have hprog : (runWhere machine withoutRequest (WifiConfig.started true homeConfig)
      reconnectLabels).map (fun cfg => cfg.server.prog) =
        some (wifiManagerTaskHandle .orderDisconnectSta) := by
    rfl
  have hleft : (runWhere machine withoutRequest (WifiConfig.started true homeConfig)
      reconnectLabels).all reconnectLeft = true := by
    decide +kernel
  obtain ⟨cfg, hcfg, hnext⟩ := (Option.any_eq_true _ _).mp hnext
  obtain ⟨cfg₀, h₀, hrest⟩ := runWhere_append.mp hcfg
  obtain ⟨cfg₁, hstop, hrest⟩ := runWhere_cons hrest
  rw [h₀] at hprog hleft
  have hhandle := Option.some.inj hprog
  simp only [reconnectLeft, Option.all_some, Bool.and_eq_true, decide_eq_true_eq] at hleft
  obtain ⟨hqueue, hdone⟩ := hleft
  have hleft : NoConnectLeft (· ≠ .autoReconnect) cfg₀ := by
    refine ⟨?_, ClientsAll.of_done hdone⟩
    intro connReq hne
    simpa [hqueue] using hne
  exact hclaim cfg₀ cfg₁ cfg .ok _ (reachable_withoutRequest h₀) hhandle hleft hstop
    (path_withoutRequest hrest) (of_decide_eq_true hnext)

end WifiManager
end Esp32WifiManager
