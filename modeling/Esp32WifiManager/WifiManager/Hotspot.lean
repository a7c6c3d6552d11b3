import Esp32WifiManager.WifiManager.Recorded
import Esp32WifiManager.WifiManager.StickyDisconnect

/-!
# The stations of the hotspot

The manager handles the stations that join and leave its hotspot with one bit and
one request to the DNS server. The record counts the stations.
-/

namespace Esp32WifiManager
namespace WifiManager

open CString TaskSystem WifiCall

inductive DnsRequest
  | start
  | stop
  deriving DecidableEq, Repr

/-- What the manager task has done about the stations: the events it has received, its last request
to the DNS server, whether the handler of the last join may still start that server, and whether a
stop was requested while a station was connected. -/
structure HotspotRecord where
  joined : ℕ
  left : ℕ
  dnsRequest : Option DnsRequest
  mayStart : Bool
  stoppedEarly : Bool
  deriving DecidableEq

namespace HotspotRecord

def empty : HotspotRecord := ⟨0, 0, none, false, false⟩

def receive (g : HotspotRecord) (msg : QueueMessage) : HotspotRecord :=
  if msg = .eventApStaConnected then { g with joined := g.joined + 1, mayStart := true }
  else if msg = .eventApStaDisconnected then { g with left := g.left + 1 }
  else g

/-- The handler of a join does not start the DNS server when it finds Wi-Fi connected. -/
def look (g : HotspotRecord) (bits : EventBits) : HotspotRecord :=
  { g with mayStart := g.mayStart && !bits .wifiConnected }

def startDns (g : HotspotRecord) : HotspotRecord :=
  { g with dnsRequest := some .start, mayStart := false }

def stopDns (g : HotspotRecord) : HotspotRecord :=
  { g with dnsRequest := some .stop, stoppedEarly := g.stoppedEarly || decide (g.left < g.joined) }

end HotspotRecord

def noteHotspot (t : TaskId) (o : WifiCall) (_ : Reply) (r : o.Ret) (g : HotspotRecord) :
    HotspotRecord :=
  match t with
  | .client _ => g
  | .server =>
    match o, r with
    | xQueueReceive, some msg => g.receive msg
    | xEventGroupGetBits, bits => g.look bits
    | dnsServerStart, _ => g.startDns
    | dnsServerStop, _ => g.stopDns
    | _, _ => g

/-- The bit tells whether a station is connected; while one is, and Wi-Fi is not, the last request
was to start the DNS server, which has been stopped only after the last station. -/
structure TracksStations (x : WifiState × HotspotRecord) : Prop where
  bit : x.1.eventBits .apStaConnected = true ↔ x.2.left < x.2.joined
  dns : x.2.left < x.2.joined → x.1.eventBits .wifiConnected = false → x.2.dnsRequest = some .start
  stops : x.2.stoppedEarly = false

/-- A station leaves. -/
def Leaves (o : WifiCall) (x : WifiState × HotspotRecord) : Prop :=
  o = xQueueReceive ∧ x.1.queued.head? = some .eventApStaDisconnected

instance (o : WifiCall) (x : WifiState × HotspotRecord) : Decidable (Leaves o x) :=
  inferInstanceAs (Decidable (_ ∧ _))

/-- Wi-Fi is lost, not by the end of the manager task. -/
def LosesWifi (o : WifiCall) (x : WifiState × HotspotRecord) : Prop :=
  x.1.eventBits .wifiConnected = true ∧
    ∃ mask, o = xEventGroupClearBits mask ∧ .wifiConnected ∈ mask ∧ .isWorking ∉ mask

/-- Each station that leaves has joined before. -/
def Matched (_ : TaskId) (o : WifiCall) (x : WifiState × HotspotRecord) : Prop :=
  Leaves o x → x.2.left < x.2.joined

/-- No station leaves while another one stays, and Wi-Fi is not lost while a station is connected
for which the DNS server has not been started. -/
structure OneAtATime (t : TaskId) (o : WifiCall) (x : WifiState × HotspotRecord) : Prop where
  leaves : Leaves o x → x.2.joined = x.2.left + 1
  wifi : LosesWifi o x → x.2.left < x.2.joined → x.2.dnsRequest = some .start ∨ x.2.mayStart = true

namespace Hotspot

/-- Between its rounds the manager task tracks the stations. In the round of a join it first sets
the bit and then may start the DNS server; in the round of a leave it clears the bit. -/
inductive Phase
  | rest
  | joining
  | joined
  | leaving
  | left
  | finishing
  | ended

def Inv : Phase → WifiState × HotspotRecord → Prop
  | .rest, x => TracksStations x ∧ x.2.left ≤ x.2.joined ∧ x.2.mayStart = false
  | .joining, x => x.2.left < x.2.joined ∧ x.2.stoppedEarly = false
  | .joined, x => x.1.eventBits .apStaConnected = true ∧ x.2.left < x.2.joined ∧
      x.2.stoppedEarly = false
  | .leaving, x => x.2.joined = x.2.left ∧ x.2.stoppedEarly = false ∧ x.2.mayStart = false
  | .left, x => x.1.eventBits .apStaConnected = false ∧ x.2.joined = x.2.left ∧
      x.2.stoppedEarly = false ∧ x.2.mayStart = false
  | .finishing, _ => True
  | .ended, x => x.1.managerTask = .none

variable {t : TaskId} {o : WifiCall} {c : Reply} {r : o.Ret} {x x' : WifiState × HotspotRecord}

/-- A lost connection is noticed in the state before the call. -/
theorem losesWifi_of_exec (he : exec t o c x.1 = some (r, x'.1))
    (ho : ∀ mask, o = xEventGroupClearBits mask → .isWorking ∉ mask)
    (hbefore : x.1.eventBits .wifiConnected = true) (hafter : x'.1.eventBits .wifiConnected = false) :
    LosesWifi o x := by
  by_contra hno
  have hkept := bit_stays_set (b := .wifiConnected) he
    (fun mask hmask hmem => hno ⟨hbefore, mask, hmask, hmem, ho mask hmask⟩) hbefore
  exact absurd (hkept.symm.trans hafter) (by simp)

/-- A call that neither changes the bit nor the record leaves the stations tracked. -/
theorem rest_exec (he : exec t o c x.1 = some (r, x'.1)) (hrec : x'.2 = x.2)
    (hbit : .bit .apStaConnected ∉ o.writes)
    (ho : ∀ mask, o = xEventGroupClearBits mask → .isWorking ∉ mask) (hone : OneAtATime t o x)
    (h : Inv .rest x) : Inv .rest x' := by
  obtain ⟨htracks, hle, hmay⟩ := h
  have hkept : x'.1.eventBits .apStaConnected = x.1.eventBits .apStaConnected := exec_agree he hbit
  refine ⟨⟨?_, ?_, ?_⟩, ?_, ?_⟩
  · rw [hkept, hrec]
    exact htracks.bit
  · rw [hrec]
    intro hsome hafter
    cases hbefore : x.1.eventBits .wifiConnected with
    | false => exact htracks.dns hsome hbefore
    | true =>
      have hlost := losesWifi_of_exec he ho hbefore hafter
      rcases hone.wifi hlost hsome with hstart | hstart
      · exact hstart
      · exact absurd (hmay.symm.trans hstart) (by simp)
  · rw [hrec]
    exact htracks.stops
  · rw [hrec]
    exact hle
  · rw [hrec]
    exact hmay

/-- Within a round the invariant speaks about the record, the bit and the task. -/
theorem inv_kept {φ : Phase} (hφ : φ ≠ .rest) (hrec : x'.2 = x.2)
    (hbit : x'.1.eventBits .apStaConnected = x.1.eventBits .apStaConnected)
    (htask : x'.1.managerTask = x.1.managerTask) (h : Inv φ x) : Inv φ x' := by
  obtain ⟨s, g⟩ := x
  obtain ⟨s', g'⟩ := x'
  obtain rfl : g' = g := hrec
  cases φ with
  | rest => exact absurd rfl hφ
  | joining => exact h
  | joined => exact ⟨hbit.trans h.1, h.2⟩
  | leaving => exact h
  | left => exact ⟨hbit.trans h.1, h.2⟩
  | finishing => exact trivial
  | ended => exact htask.trans h

theorem inv_client {i : ℕ} {φ : Phase} (ho : o.IsClientCall) (h : Inv φ x)
    (hone : OneAtATime (.client i) o x)
    (he : (recording noteHotspot).exec (.client i) o c x = some (r, x')) : Inv φ x' := by
  obtain ⟨he, hrec⟩ := exec_withGhost he
  have hagree : x.1.AgreeInside x'.1 := agreeInside_exec ho he
  by_cases hφ : φ = .rest
  · subst hφ
    obtain ⟨posts, hposts⟩ := ho
    refine rest_exec he hrec (fun hw => absurd (hposts.writes hw) (by decide)) ?_ hone h
    rintro mask rfl
    obtain rfl : mask = [.wifiConnected, .ethConnected] := hposts
    decide
  · exact inv_kept hφ hrec (hagree (.bit .apStaConnected) (by decide))
      (hagree .managerTask (by decide)) h

theorem inv_occur {φ : Phase} {s s' : WifiState} {g : HotspotRecord}
    (hbits : ∀ b, s'.eventBits b = s.eventBits b) (hagree : s.AgreeInside s')
    (h : Inv φ (s, g)) : Inv φ (s', g) := by
  by_cases hφ : φ = .rest
  · subst hφ
    obtain ⟨⟨hbit, hdns, hstops⟩, hrest⟩ := h
    refine ⟨⟨?_, ?_, hstops⟩, hrest⟩
    · exact (hbits .apStaConnected).symm ▸ hbit
    · exact (hbits .wifiConnected).symm ▸ hdns
  · exact @inv_kept (s, g) (s', g) φ hφ rfl (hbits .apStaConnected)
      (hagree .managerTask (by decide)) h

def recordInvariant : RecordInvariant noteHotspot Phase where
  inv := Inv
  rest φ := φ = .rest ∨ φ = .ended
  assume := OneAtATime
  client ho h hone he := inv_client ho h hone he
  occur hbits hagree _ h := inv_occur hbits hagree h

/-- A call of a handler of another message. -/
structure Quiet (o : WifiCall) : Prop where
  bit : .bit .apStaConnected ∉ o.writes
  receive : o ≠ xQueueReceive
  start : o ≠ dnsServerStart
  stop : o ≠ dnsServerStop
  mask : ∀ mask, o = xEventGroupClearBits mask → .isWorking ∉ mask

theorem quiet_iff : Quiet o ↔ .bit .apStaConnected ∉ o.writes ∧ o ≠ xQueueReceive ∧
    o ≠ dnsServerStart ∧ o ≠ dnsServerStop ∧
    ∀ mask, o = xEventGroupClearBits mask → .isWorking ∉ mask :=
  ⟨fun ⟨h₁, h₂, h₃, h₄, h₅⟩ => ⟨h₁, h₂, h₃, h₄, h₅⟩, fun ⟨h₁, h₂, h₃, h₄, h₅⟩ => ⟨h₁, h₂, h₃, h₄, h₅⟩⟩

/-- The record after a call of such a handler. -/
theorem note_quiet (ho : Quiet o) (g : HotspotRecord) :
    noteHotspot .server o c r g = g ∨
      ∃ bits, o = xEventGroupGetBits ∧ noteHotspot .server o c r g = g.look bits := by
  cases o
  case xQueueReceive => exact absurd rfl ho.receive
  case dnsServerStart => exact absurd rfl ho.start
  case dnsServerStop => exact absurd rfl ho.stop
  case xEventGroupGetBits => exact .inr ⟨r, rfl, rfl⟩
  all_goals exact .inl rfl

theorem frames_rest (ho : Quiet o) : recordInvariant.contract.Frames .rest o := by
  intro x w hinv
  refine ⟨trivial, fun c r x' hone h => ?_⟩
  obtain ⟨he, hrec⟩ := exec_withGhost h
  rcases @note_quiet o c r ho x.2 with hsame | ⟨bits, rfl, hlook⟩
  · exact rest_exec he (hrec.trans hsame) ho.bit ho.mask hone hinv
  · obtain ⟨s', g'⟩ := x'
    obtain rfl : x.1 = s' := (Prod.mk.inj (Option.some.inj he)).2
    obtain rfl : g' = x.2.look bits := hrec.trans hlook
    obtain ⟨⟨hbit, hdns, hstops⟩, hle, hmay⟩ := hinv
    have hmay' : (x.2.look bits).mayStart = false := by simp [HotspotRecord.look, hmay]
    exact ⟨⟨hbit, hdns, hstops⟩, hle, hmay'⟩

theorem keeps_quiet {α : Type} {p : WifiProg α} (hp : p.All Quiet) :
    recordInvariant.contract.Keeps p (fun _ φ => φ = .rest) .rest :=
  Contract.keeps_frame (hp.mono fun _ ho => frames_rest ho) fun _ => rfl

/-- The handlers of the other messages have nothing to do with the stations. -/
theorem handleMsg_quiet {msg : QueueMessage} (hjoin : msg ≠ .eventApStaConnected)
    (hleave : msg ≠ .eventApStaDisconnected) : (wifiManagerHandleMsg msg).All Quiet := by
  refine (wifiManagerHandleMsg_allThen msg).all.mono ?_
  intro o ho
  cases msg
  case eventApStaConnected => exact absurd rfl hjoin
  case eventApStaDisconnected => exact absurd rfl hleave
  all_goals
    revert o
    simp [QueueMessage.MayCall, OfSender, OfLossUpdate, or_imp, forall_and]
    try simp [quiet_iff, writes, DriverCall.writes]

/-- Within a round a quiet call other than a read of the bits leaves the invariant alone. -/
theorem frames_round {φ : Phase} (hφ : φ ≠ .rest) (ho : Quiet o) (hread : o ≠ xEventGroupGetBits)
    (htask : .managerTask ∉ o.writes) : recordInvariant.contract.Frames φ o := by
  intro x w hinv
  refine ⟨trivial, fun c r x' hone h => ?_⟩
  obtain ⟨he, hrec⟩ := exec_withGhost h
  have hsame : noteHotspot .server o c r x.2 = x.2 := by
    rcases @note_quiet o c r ho x.2 with hsame | ⟨bits, hbits, -⟩
    · exact hsame
    · exact absurd hbits hread
  exact inv_kept hφ (hrec.trans hsame) (exec_agree he ho.bit) (exec_agree he htask) hinv

/-- The DNS server is started. -/
theorem startDns_keeps :
    recordInvariant.contract.Keeps (call dnsServerStart) (fun _ φ => φ = .rest) .joined := by
  rintro x w ⟨hbit, hsome, hstops⟩
  refine ⟨trivial, fun c r x' _ h => ⟨.rest, ?_, rfl⟩⟩
  obtain ⟨he, hrec⟩ := exec_withGhost h
  obtain ⟨s', g'⟩ := x'
  obtain rfl : g' = x.2.startDns := hrec
  have hkept : s'.eventBits .apStaConnected = x.1.eventBits .apStaConnected :=
    recorded_agree (f := .bit .apStaConnected) h (by simp [writes])
  exact ⟨⟨⟨fun _ => hsome, fun _ => hkept.trans hbit⟩, fun _ _ => rfl, hstops⟩, hsome.le, rfl⟩

/-- The handler of a join. -/
theorem handleJoin_keeps :
    recordInvariant.contract.Keeps wifiHandleEvApStaConnected (fun _ φ => φ = .rest) .joining := by
  have hclear : Quiet (xEventGroupClearBits [.apStaIpAssigned, .initialConnection]) := by
    simp [quiet_iff, writes]
  have hcallback : Quiet (callback .onApStaConnected) := by simp [quiet_iff, writes]
  unfold wifiHandleEvApStaConnected
  apply Contract.performs_frame (frames_round (φ := .joining) (by simp) hclear (by simp) (by simp [writes]))
  intro _
  apply Contract.keeps_perform
  intro x w hinv
  refine ⟨trivial, fun c bits x' _ h => ⟨.joined, ?_, ?_⟩⟩
  · obtain ⟨he, hrec⟩ := exec_withGhost h
    have hrec : x'.2 = x.2 := hrec
    have hbit := bit_of_set (t := .server) (c := c) (b := .apStaConnected) he (by simp)
    exact ⟨hbit, hrec ▸ hinv⟩
  apply Contract.performs_frame (frames_round (φ := .joined) (by simp) hcallback (by simp) (by simp [writes]))
  intro _
  apply Contract.keeps_perform
  intro x w hinv
  refine ⟨trivial, fun c bits x' _ h => ?_⟩
  obtain ⟨he, hrec⟩ := exec_withGhost h
  obtain ⟨s', g'⟩ := x'
  obtain ⟨rfl, rfl⟩ := Prod.mk.inj (Option.some.inj he)
  obtain rfl : g' = x.2.look x.1.eventBits := hrec
  obtain ⟨hbit, hsome, hstops⟩ := hinv
  cases hwifi : x.1.eventBits .wifiConnected with
  | true =>
    refine ⟨.rest, ⟨⟨⟨fun _ => hsome, fun _ => hbit⟩, ?_, hstops⟩, hsome.le, ?_⟩, ?_⟩
    · intro _ hnot
      exact absurd (hwifi.symm.trans hnot) (by simp)
    · simp [HotspotRecord.look, hwifi]
    · change recordInvariant.contract.Keeps
        (if (!x.1.eventBits .wifiConnected) = true then call dnsServerStart else pure ()) _ .rest
      rw [hwifi]
      exact Contract.keeps_pure rfl
  | false =>
    refine ⟨.joined, ⟨hbit, hsome, hstops⟩, ?_⟩
    change recordInvariant.contract.Keeps
      (if (!x.1.eventBits .wifiConnected) = true then call dnsServerStart else pure ()) _ .joined
    rw [hwifi]
    exact startDns_keeps

/-- The handler of a leave. -/
theorem handleLeave_keeps :
    recordInvariant.contract.Keeps wifiHandleEvApStaDisconnected (fun _ φ => φ = .rest) .leaving := by
  have hcallback : Quiet (callback .onApStaDisconnected) := by simp [quiet_iff, writes]
  unfold wifiHandleEvApStaDisconnected
  apply Contract.keeps_perform
  intro x w hinv
  refine ⟨trivial, fun c bits x' _ h => ⟨.left, ?_, ?_⟩⟩
  · obtain ⟨he, hrec⟩ := exec_withGhost h
    have hrec : x'.2 = x.2 := hrec
    have hbit := bit_of_clear (t := .server) (c := c) (b := .apStaConnected) he (by simp)
    exact ⟨hbit, hrec ▸ hinv⟩
  apply Contract.keeps_perform
  rintro x w ⟨hbit, hnone, hstops, hmay⟩
  refine ⟨trivial, fun c r x' _ h => ⟨.rest, ?_, ?_⟩⟩
  · obtain ⟨he, hrec⟩ := exec_withGhost h
    obtain ⟨s', g'⟩ := x'
    obtain rfl : g' = x.2.stopDns := hrec
    have hkept : s'.eventBits .apStaConnected = x.1.eventBits .apStaConnected :=
      recorded_agree (f := .bit .apStaConnected) h (by simp [writes])
    have hclear : s'.eventBits .apStaConnected = false := hkept.trans hbit
    have hnot : ¬ x.2.left < x.2.joined := Nat.not_lt.mpr hnone.le
    refine ⟨⟨?_, fun hsome => absurd hsome hnot, ?_⟩, hnone.ge, hmay⟩
    · exact ⟨fun hset => absurd (hclear.symm.trans hset) (by simp), fun hsome => absurd hsome hnot⟩
    · simp [HotspotRecord.stopDns, hstops, hnone]
  · exact Contract.performs_frame (frames_rest hcallback) fun _ => rfl

theorem finish_keeps : recordInvariant.contract.Keeps (wifiManagerTaskHandle .orderStopAndDestroy)
    (fun _ φ => φ = .ended) .finishing := by
  refine RecordInvariant.finish_keeps (fun o x w _ => ?_) fun _ hnone => hnone
  exact ⟨trivial, fun _ _ _ _ _ => trivial⟩

theorem frames_onMessage (msg : QueueMessage) :
    recordInvariant.contract.Frames .rest (callback (.onMessage msg)) :=
  frames_rest (by simp [quiet_iff, writes])

/-- The round of a message whose handler keeps the stations tracked. -/
theorem round_keeps {msg : QueueMessage} {φ : Phase} (hmsg : msg ≠ .orderStopAndDestroy)
    (h : recordInvariant.contract.Keeps (wifiManagerHandleMsg msg) (fun _ φ => φ = .rest) φ) :
    recordInvariant.contract.Keeps (wifiManagerTaskHandle msg) (fun _ => recordInvariant.rest) φ := by
  apply keeps_taskHandle hmsg
  apply h.mono
  rintro _ _ rfl
  exact ⟨.inl rfl, frames_onMessage msg⟩

theorem taskRound_keeps : recordInvariant.contract.Keeps wifiManagerTaskRound
    (fun _ => recordInvariant.rest) .rest := by
  rw [wifiManagerTaskRound_eq]
  rintro x w ⟨htracks, hle, hmay⟩
  refine ⟨trivial, fun c received x' hone h => ?_⟩
  obtain ⟨he, hrec⟩ := exec_withGhost h
  obtain ⟨msg, rfl, hqueue⟩ := queued_receive (t := .server) (c := c) he
  have hrec : x'.2 = x.2.receive msg := hrec
  have hbits : ∀ b, x'.1.eventBits b = x.1.eventBits b := fun b =>
    recorded_agree (f := .bit b) h (by simp [writes])
  obtain ⟨s', g'⟩ := x'
  obtain rfl : g' = x.2.receive msg := hrec
  by_cases hjoin : msg = .eventApStaConnected
  · subst hjoin
    refine ⟨.joining, ⟨?_, htracks.stops⟩, round_keeps (by simp) (Contract.keeps_bind.mpr ?_)⟩
    · change x.2.left < x.2.joined + 1
      omega
    · exact handleJoin_keeps.mono fun _ _ hφ => hφ
  by_cases hleave : msg = .eventApStaDisconnected
  · subst hleave
    have hlast := hone.leaves ⟨rfl, by rw [hqueue]; rfl⟩
    refine ⟨.leaving, ⟨hlast, htracks.stops, hmay⟩, round_keeps (by simp) (Contract.keeps_bind.mpr ?_)⟩
    exact handleLeave_keeps.mono fun _ _ hφ => hφ
  by_cases hstop : msg = .orderStopAndDestroy
  · subst hstop
    exact ⟨.finishing, trivial, finish_keeps.mono fun _ _ hφ => .inr hφ⟩
  · have hsame : x.2.receive msg = x.2 := by
      simp [HotspotRecord.receive, hjoin, hleave]
    rw [hsame]
    refine ⟨.rest, ⟨⟨?_, ?_, htracks.stops⟩, hle, hmay⟩, ?_⟩
    · exact (hbits .apStaConnected).symm ▸ htracks.bit
    · exact (hbits .wifiConnected).symm ▸ htracks.dns
    · exact round_keeps hstop (keeps_quiet (handleMsg_quiet hjoin hleave))

theorem sound : recordInvariant.contract.Sound := by
  apply RecordInvariant.sound
  rintro φ x p hrest hinv hp
  rcases hrest with rfl | rfl
  · rcases serve_cases hp with ⟨-, rfl⟩ | ⟨-, rfl⟩
    · refine (keeps_quiet ?_).mono fun _ _ hφ => .inl hφ
      unfold Prog.All
      simp [wifiManagerTaskBegin, wifiManagerWdtAddAndStart, Prog.perform, Prog.fold_call,
        Prog.fold_return, quiet_iff, writes, DriverCall.writes]
    · exact taskRound_keeps
  · have hnone : x.1.managerTask = .none := hinv
    rcases serve_cases hp with ⟨htask, -⟩ | ⟨htask, -⟩
    · exact absurd (hnone.symm.trans htask) (by simp)
    · exact absurd (hnone.symm.trans htask) (by simp)

end Hotspot

/-- The start of a run with a record of the stations. -/
def hotspotStart (flag : Bool) (sta : WifimanConfigSta) :
    Config WifiCall WifiCall.Ret (WifiState × HotspotRecord) :=
  (WifiConfig.started flag sta).withGhost .empty

/-- In a run in which no station leaves while another one stays, and Wi-Fi is not lost while a station
is connected for which the DNS server has not been started, the manager task tracks the stations
whenever it has handled a message. -/
theorem stations_tracked {flag : Bool} {sta : WifimanConfigSta} {labels : List WifiLabel}
    {cfg : Config WifiCall WifiCall.Ret (WifiState × HotspotRecord)}
    (h : Path (recording noteHotspot) (Promised OneAtATime) (hotspotStart flag sta) labels cfg)
    (hdone : cfg.server.prog = .pure ()) (halive : cfg.shared.1.managerTask ≠ .none) :
    TracksStations cfg.shared := by
  have hclear : (WifiState.started flag sta).eventBits .apStaConnected = false := by
    unfold WifiState.started
    dsimp only
    apply EventBits.set_of_notMem
    split_ifs <;> decide
  have hstart : Hotspot.Inv .rest (WifiState.started flag sta, HotspotRecord.empty) := by
    have hnone : ¬ HotspotRecord.empty.left < HotspotRecord.empty.joined := by decide
    refine ⟨⟨?_, fun hsome => absurd hsome hnone, rfl⟩, le_rfl, rfl⟩
    exact ⟨fun hset => absurd (hclear.symm.trans hset) (by simp), fun hsome => absurd hsome hnone⟩
  obtain ⟨φ, hholds⟩ := RecordInvariant.holds_of_path Hotspot.sound (.inl rfl) hstart h
  have hrest := hholds.server
  rw [hdone] at hrest
  have hinv := hholds.inv
  rcases hrest with rfl | rfl
  · exact hinv.1
  · exact absurd hinv halive

/-! ### Runs with one station and with two -/

def matchedTest (_ : TaskId) (o : WifiCall) (x : WifiState × HotspotRecord) : Bool :=
  !decide (Leaves o x) || decide (x.2.left < x.2.joined)

theorem matched_of_test (t : TaskId) (o : WifiCall) (x : WifiState × HotspotRecord)
    (h : matchedTest t o x = true) : Matched t o x := by
  intro hleaves
  simpa [matchedTest, hleaves] using h

/-- Wi-Fi is never connected, and no station leaves while another one stays. -/
def oneTest (_ : TaskId) (o : WifiCall) (x : WifiState × HotspotRecord) : Bool :=
  !x.1.eventBits .wifiConnected && (!decide (Leaves o x) || decide (x.2.joined = x.2.left + 1))

theorem oneAtATime_of_test (t : TaskId) (o : WifiCall) (x : WifiState × HotspotRecord)
    (h : oneTest t o x = true) : OneAtATime t o x := by
  obtain ⟨hwifi, hlast⟩ := Bool.and_eq_true_iff.mp h
  refine ⟨fun hleaves => by simpa [hleaves] using hlast, ?_⟩
  rintro ⟨hconnected, -⟩
  simp [hconnected] at hwifi

/-- The `i`-th station joins: its event arrives and is handled. -/
def joins (i : ℕ) : List WifiLabel :=
  .arrive .wifiEventApStaConnected :: runs (.client i) 4 ++ runs .server 8

def leaves (i : ℕ) : List WifiLabel :=
  .arrive .wifiEventApStaDisconnected :: runs (.client i) 4 ++ runs .server 6

def hotspotRun (test : TaskId → WifiCall → WifiState × HotspotRecord → Bool)
    (events : List WifiLabel) : Option (Config WifiCall WifiCall.Ret (WifiState × HotspotRecord)) :=
  runWhere (recording noteHotspot) (promisedTest test) (hotspotStart false homeConfig)
    (runs .server 4 ++ events)

/-- A run whose events have been handled. -/
theorem hotspotRun_spec {test : TaskId → WifiCall → WifiState × HotspotRecord → Bool}
    {P : TaskId → WifiCall → WifiState × HotspotRecord → Prop}
    (htest : ∀ t o x, test t o x = true → P t o x) {events : List WifiLabel}
    {O : WifiState × HotspotRecord → Bool}
    (h : (hotspotRun test events).any (fun cfg => cfg.server.prog.next.isNone &&
      !decide (cfg.shared.1.managerTask = .none) && O cfg.shared) = true) :
    ∃ labels cfg, Path (recording noteHotspot) (Promised P) (hotspotStart false homeConfig) labels cfg ∧
      cfg.server.prog = .pure () ∧ cfg.shared.1.managerTask ≠ .none ∧ O cfg.shared = true := by
  obtain ⟨cfg, hpath, hdone, halive, hok⟩ := path_of_run htest h
  exact ⟨_, cfg, hpath, hdone, halive, hok⟩

/-- A station joins, leaves and joins again. -/
theorem stations_tracked_one : ∃ labels cfg,
    Path (recording noteHotspot) (Promised OneAtATime) (hotspotStart false homeConfig) labels cfg ∧
      cfg.shared.2.joined = 2 ∧ TracksStations cfg.shared := by
  have hrun : (hotspotRun oneTest (joins 0 ++ leaves 1 ++ joins 2)).any (fun cfg =>
      cfg.server.prog.next.isNone && !decide (cfg.shared.1.managerTask = .none) &&
        decide (cfg.shared.2.joined = 2)) = true := by
    decide +kernel
  obtain ⟨labels, cfg, hpath, hdone, halive, hjoined⟩ :=
    hotspotRun_spec (O := fun x => decide (x.2.joined = 2)) oneAtATime_of_test hrun
  exact ⟨labels, cfg, hpath, of_decide_eq_true hjoined, stations_tracked hpath hdone halive⟩

/-- Two stations join and one of them leaves. -/
theorem stations_not_tracked : ¬ ∀ (flag : Bool) (sta : WifimanConfigSta) (labels : List WifiLabel)
    (cfg : Config WifiCall WifiCall.Ret (WifiState × HotspotRecord)),
    Path (recording noteHotspot) (Promised Matched) (hotspotStart flag sta) labels cfg →
      cfg.server.prog = .pure () → cfg.shared.1.managerTask ≠ .none → TracksStations cfg.shared := by
  intro hclaim
  have hrun : (hotspotRun matchedTest (joins 0 ++ joins 1 ++ leaves 2)).any (fun cfg =>
      cfg.server.prog.next.isNone && !decide (cfg.shared.1.managerTask = .none) &&
        (decide (cfg.shared.2.left < cfg.shared.2.joined) &&
          !cfg.shared.1.eventBits .apStaConnected)) = true := by
    decide +kernel
  obtain ⟨labels, cfg, hpath, hdone, halive, hlost⟩ := hotspotRun_spec
    (O := fun x => decide (x.2.left < x.2.joined) && !x.1.eventBits .apStaConnected)
    matched_of_test hrun
  simp only [Bool.and_eq_true, decide_eq_true_eq, Bool.not_eq_true'] at hlost
  have htracks := hclaim _ _ labels cfg hpath hdone halive
  exact absurd (hlost.2.symm.trans (htracks.bit.mpr hlost.1)) (by simp)

end WifiManager
end Esp32WifiManager
