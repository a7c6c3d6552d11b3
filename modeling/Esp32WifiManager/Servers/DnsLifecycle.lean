import Esp32WifiManager.Lib.Handover
import Esp32WifiManager.Servers.Registration

/-!
# Who serves after the last request

One caller starts and stops the DNS server, and the tasks it creates begin to
run at any time. A start only creates a task and a stop only tells the task that
is registered, so that what is left in the end depends on when the tasks
register.
-/

namespace Esp32WifiManager
namespace Servers

open TaskSystem ServerCall Handover

def dnsPerform : DnsRequest → ServerProg Unit
  | .start => do let _ ← dnsServerStart
  | .stop => dnsServerStop

/-- One call of `dns_server_start` or `dns_server_stop`. -/
def dnsCaller : ServerProg Unit := do
  let request ← call nextRequest
  dnsPerform request

/-- The caller is the server task of the system; a task that has been created begins to run. -/
def dnsMachine (S : OsSignal) : Machine ServerCall ServerCall.Ret Reply Unit (ServerState S) where
  exec := exec S
  arrive _ s :=
    if s.created = 0 then none else some ({ s with created := s.created - 1 }, dnsServerTask)
  serve _ := some dnsCaller

/-! ### Stages -/

def StageNeeds : ServerCall → Handover.Stage → Prop
  | osSignalRegisterCurThread, st => st = .before
  | serveUntilStop, st => st = .serving
  | osSignalUnregisterCurThread, st => st = .stopping
  | nextRequest, st => st = .idle
  | osTaskCreate, st => st = .starting
  | osSignalIsAnyThreadRegistered, st => st = .asking
  | osSignalSendStop, st => st = .telling
  | _, _ => True

def stageAfter : (o : ServerCall) → o.Ret → Handover.Stage → Handover.Stage
  | osSignalRegisterCurThread, registered, _ => if registered then .serving else .done
  | serveUntilStop, _, _ => .stopping
  | osSignalUnregisterCurThread, _, _ => .done
  | nextRequest, request, _ => if decide (request = .start) then .starting else .asking
  | osTaskCreate, _, _ | osSignalSendStop, _, _ => .idle
  | osSignalIsAnyThreadRegistered, isAny, _ => if isAny then .telling else .idle
  | _, _, st => st

/-- The stage of a task, and whether it has the mutex. -/
structure DnsPlace where
  stage : Handover.Stage
  held : Bool
  deriving DecidableEq

def NeedsHeld : ServerCall → Bool → Prop
  | osMutexLock, held | serveUntilStop, held => held = false
  | osMutexUnlock, held | osSignalRegisterCurThread, held | osSignalUnregisterCurThread, held
  | osSignalIsAnyThreadRegistered, held | osSignalSendStop, held => held = true
  | _, _ => True

def heldAfter : ServerCall → Bool → Bool
  | osMutexLock, _ => true
  | osMutexUnlock, _ => false
  | _, held => held

/-- Calls that need a socket, memory or a thread succeed. -/
def Granted : (o : ServerCall) → o.Ret → Prop
  | socket, r | setsockopt, r | bindSocket, r | osCalloc, r | osTaskCreate, r => r = true
  | _, _ => True

/-- Stage and mutex from call to call, when every resource is granted. -/
def dnsWay : Typestate ServerCall ServerCall.Ret Unit DnsPlace where
  needs o w := StageNeeds o w.stage ∧ NeedsHeld o w.held
  answers o _ r := Granted o r
  after o _ r w := ⟨stageAfter o r w.stage, heldAfter o w.held⟩

/-- Beside the places of the tasks: the last request, and the tasks that a stop has found. -/
structure DnsRecord where
  place : TaskId → DnsPlace
  last : DnsRequest
  told : List TaskId

def lastAfter : (o : ServerCall) → o.Ret → DnsRequest → DnsRequest
  | nextRequest, request, _ => request
  | _, _, last => last

def toldAfter (S : OsSignal) (s : ServerState S) : ServerCall → List TaskId → List TaskId
  | osSignalIsAnyThreadRegistered, told => ((S.view s.sig).map Prod.fst).toList ++ told
  | _, told => told

def dnsRecord (S : OsSignal) : dnsWay.Record (dnsMachine S) DnsRecord where
  note t o s r g :=
    { place := Function.update g.place t (dnsWay.after o () r (g.place t))
      last := lastAfter o r g.last
      told := toldAfter S s o g.told }
  place := DnsRecord.place
  sees _ := ()
  place_own := Function.update_self ..
  place_other hut := Function.update_of_ne hut ..

/-! ### Runs -/

abbrev recordedDns (S : OsSignal) := (dnsMachine S).withTrace (dnsRecord S).note

abbrev DnsConfig (S : OsSignal) := Config ServerCall ServerCall.Ret (ServerState S × DnsRecord)

abbrev DnsLabel := Label Reply Unit

/-- After `dns_server_init`: nothing is requested, as after a stop. -/
def dnsInit (S : OsSignal) : DnsConfig S where
  shared :=
    (⟨none, S.createStatic, 0⟩,
      { place := fun t => if t = .server then ⟨.idle, false⟩ else ⟨.before, false⟩
        last := .stop
        told := [] })
  server := ⟨.pure (), false⟩
  clients := []

/-- What decides who serves. -/
def seat {S : OsSignal} (cfg : DnsConfig S) : Handover.State TaskId where
  stage t := (cfg.shared.2.place t).stage
  present t := (cfg.task t).isSome
  told t := t ∈ cfg.shared.2.told
  wanted := cfg.shared.2.last = .start
  owner := S.view cfg.shared.1.sig
  spare := cfg.shared.1.created

/-- Task `t` does not find the signal free after a stop has asked who is registered, and after a
start it is not turned away by a task that is told to stop, or not as the last one. -/
structure RegistersInTime {S : OsSignal} (cfg : DnsConfig S) (t : TaskId) : Prop where
  free : (seat cfg).owner = none → ¬ ((seat cfg).Settled .server ∧ (seat cfg).wanted = false)
  taken : ∀ {u b}, (seat cfg).owner = some (u, b) → (seat cfg).told u →
    (seat cfg).Settled .server → (seat cfg).wanted = true →
      0 < (seat cfg).spare ∨ ∃ x ≠ t, (seat cfg).Waiting x

/-- All resources are granted. -/
def Succeeds {S : OsSignal} (_ : DnsConfig S) : DnsLabel → Prop
  | .arrive _ => True
  | .run _ c => c.success = true

/-- All resources are granted, and every task registers in time. -/
def InTime {S : OsSignal} (cfg : DnsConfig S) : DnsLabel → Prop
  | .arrive _ => True
  | .run t c => c.success = true ∧
    ∀ k w, cfg.task t = some ⟨.call osSignalRegisterCurThread k, w⟩ → RegistersInTime cfg t

/-- The caller has returned, every created task has begun, and none can make a step. -/
structure AtRest {S : OsSignal} (cfg : DnsConfig S) : Prop where
  caller : cfg.server.prog.next = none
  created : cfg.shared.1.created = 0
  blocked : ∀ {i o k w c}, cfg.task (.client i) = some ⟨.call o k, w⟩ →
    exec S (.client i) o c cfg.shared.1 = none

/-- The task is in its loop. -/
def Running {S : OsSignal} (cfg : DnsConfig S) (i : ℕ) : Prop :=
  ∃ x, cfg.task (.client i) = some x ∧ x.prog.next = some serveUntilStop

/-- The task is registered. -/
def PastRegistration {S : OsSignal} (cfg : DnsConfig S) (t : TaskId) : Prop :=
  ((seat cfg).stage t).own = true

section Programs

theorem dnsServerTask_way :
    dnsWay.Follows (fun _ w => w = ⟨.done, false⟩) dnsServerTask ⟨.before, false⟩ := by
  simp only [dnsServerTask, dnsServerSigRegisterCurThread, dnsServerSigUnregisterCurThread,
    dnsServerWdtAddAndStart, sigRegisterCurThread, sigUnregisterCurThread, taskWdtAddAndStart,
    call, Prog.perform, Typestate.follows_bind, Typestate.follows_call, Typestate.follows_ite,
    Typestate.follows_pure, Typestate.follows_return, dnsWay, StageNeeds, NeedsHeld, Granted,
    stageAfter, heldAfter]
  simp

theorem dnsCaller_way :
    dnsWay.Follows (fun _ w => w = ⟨.idle, false⟩) dnsCaller ⟨.idle, false⟩ := by
  simp only [dnsCaller, call, Prog.perform, Typestate.follows_bind, Typestate.follows_call,
    Typestate.follows_return]
  refine ⟨⟨rfl, trivial⟩, ?_⟩
  intro b request _
  cases request <;>
    simp only [dnsPerform, dnsServerStart, dnsServerStop, serverStop, call, Prog.perform,
      Typestate.follows_bind, Typestate.follows_call, Typestate.follows_ite,
      Typestate.follows_pure, Typestate.follows_return, dnsWay, StageNeeds, NeedsHeld, Granted,
      stageAfter, heldAfter]
  · simp
  · simp

end Programs

section Exec

variable {S : OsSignal} {t : TaskId} {o : ServerCall} {c : Reply} {r : o.Ret} {s s' : ServerState S}

theorem granted_of_exec (hc : c.success = true) (he : exec S t o c s = some (r, s')) :
    Granted o r := by
  cases o <;> try exact trivial
  case osTaskCreate =>
    simp only [exec, hc, if_true] at he
    exact (Prod.mk.inj (Option.some.inj he)).1.symm
  all_goals exact (Prod.mk.inj (Option.some.inj he)).1.symm.trans hc

/-- Only the mutex and the loop make a task wait. -/
theorem exec_none (he : exec S t o c s = none) :
    o = osMutexLock ∧ (∃ u, s.mutex = some u) ∨
      o = serveUntilStop ∧ (S.waitStop t s.sig).1 = false := by
  cases o <;> simp only [exec] at he
  case osMutexLock =>
    split at he
    · exact absurd he (by simp)
    · rename_i hmutex
      exact .inl ⟨rfl, Option.ne_none_iff_exists'.mp hmutex⟩
  case serveUntilStop =>
    split at he
    · exact absurd he (by simp)
    · rename_i hstop
      exact .inr ⟨rfl, by simpa using hstop⟩
  case osTaskCreate => split at he <;> exact absurd he (by simp)
  all_goals exact absurd he (by simp)

end Exec

section Steps

variable {S : OsSignal} {cfg cfg' : DnsConfig S} {t : TaskId} {o : ServerCall} {c : Reply}
  {r : o.Ret} {s : ServerState S} {k : o.Ret → ServerProg Unit} {w : Bool}

/-- What decides who serves after a call. -/
def seatAfter (cfg : DnsConfig S) (t : TaskId) (o : ServerCall) (r : o.Ret) (s : ServerState S) :
    Handover.State TaskId where
  stage := Function.update (seat cfg).stage t (stageAfter o r ((seat cfg).stage t))
  present := (seat cfg).present
  told u := u ∈ toldAfter S cfg.shared.1 o cfg.shared.2.told
  wanted := lastAfter o r cfg.shared.2.last = .start
  owner := S.view s.sig
  spare := s.created

theorem seat_answer (htask : cfg.task t = some ⟨.call o k, w⟩) :
    seat ((cfg.setShared (s, (dnsRecord S).note t o cfg.shared.1 r cfg.shared.2)).setTask
      ⟨k r, false⟩ t) = seatAfter cfg t o r s := by
  have htask' : (cfg.setShared (s, (dnsRecord S).note t o cfg.shared.1 r cfg.shared.2)).task t =
      some ⟨.call o k, w⟩ := by simpa using htask
  have hshared : ∀ x, ((cfg.setShared x).setTask ⟨k r, false⟩ t).shared = x := by simp
  ext u
  · simp only [seat, seatAfter, hshared, dnsRecord]
    by_cases hu : u = t
    · subst hu
      simp [dnsWay]
    · simp [hu]
  · simp only [seat, seatAfter]
    by_cases hu : u = t
    · subst hu
      rw [Config.setTask_self htask', htask]
      rfl
    · rw [Config.setTask_other hu, Config.setShared_task]
  · simp only [seat, seatAfter, hshared, dnsRecord]
  · simp only [seat, seatAfter, hshared, dnsRecord]
  · simp only [seat, seatAfter, hshared]
  · simp only [seat, seatAfter, hshared]

/-- The caller is the only one who makes the caller's calls. -/
theorem server_of_manager (hsound : Sound .server (seat cfg)) {st : Handover.Stage}
    (hstage : (seat cfg).stage t = st) (hst : st.isManager = true) : t = .server := by
  apply (hsound.manager t).mp
  rw [hstage]
  exact hst

/-- The calls of the tasks and of the caller that count. -/
def Counts (o : ServerCall) : Prop :=
  ChangesSignal o ∨ o = nextRequest ∨ o = osTaskCreate ∨ o = osSignalIsAnyThreadRegistered

/-- Any other call decides nothing. -/
theorem seatAfter_of_not_counts (ho : ¬ Counts o) (he : exec S t o c cfg.shared.1 = some (r, s)) :
    seatAfter cfg t o r s = seat cfg := by
  obtain ⟨hsig, hcreated, -⟩ := exec_frame he
  simp only [Counts, not_or] at ho
  have hstage : stageAfter o r ((seat cfg).stage t) = (seat cfg).stage t := by
    cases o <;> first | rfl | exact absurd ho (by simp [ChangesSignal])
  have htold : toldAfter S cfg.shared.1 o cfg.shared.2.told = cfg.shared.2.told := by
    cases o <;> first | rfl | exact absurd ho (by simp)
  have hlast : lastAfter o r cfg.shared.2.last = cfg.shared.2.last := by
    cases o <;> first | rfl | exact absurd ho (by simp)
  simp only [seatAfter, seat, hsig ho.1, hcreated ho.2.2.1, htold, hlast]
  congr 1
  rw [show stageAfter o r (cfg.shared.2.place t).stage = (cfg.shared.2.place t).stage from hstage]
  exact Function.update_eq_self t _

/-- Every call that counts is a move in time. -/
theorem move_of_answer (hsound : Sound .server (seat cfg)) (ho : Counts o)
    (hneeds : StageNeeds o ((seat cfg).stage t)) (hgranted : Granted o r)
    (htime : o = osSignalRegisterCurThread → RegistersInTime cfg t)
    (he : exec S t o c cfg.shared.1 = some (r, s)) :
    Move .server (seat cfg) (seatAfter cfg t o r s) := by
  rcases ho with (rfl | rfl | rfl | rfl) | rfl | rfl | rfl
  · obtain ⟨rfl, rfl⟩ := Prod.mk.inj (Option.some.inj he)
    obtain ⟨hfree, htaken⟩ := htime rfl
    cases hview : S.view cfg.shared.1.sig with
    | none =>
      obtain ⟨hregistered, hnew⟩ := S.register_free (t := t) hview
      have hmove : Move TaskId.server (seat cfg) _ := Move.register hneeds hview (hfree hview)
      simp only [seatAfter, hregistered, hnew]
      exact hmove
    | some x =>
      have hne : x.1 ≠ t := by
        intro hx
        have hown := (hsound.owner t).mpr ⟨x.2, hview.trans (by rw [← hx])⟩
        rw [show (seat cfg).stage t = .before from hneeds] at hown
        exact absurd hown (by simp [Handover.Stage.own])
      obtain ⟨hregistered, hkeep⟩ := S.register_taken hview hne
      have hmove : Move TaskId.server (seat cfg) _ := Move.refuse hneeds hview (htaken hview)
      simp only [seatAfter, hregistered, hkeep]
      exact hmove
  · obtain ⟨rfl, rfl⟩ := Prod.mk.inj (Option.some.inj he)
    obtain ⟨b, hb⟩ := (hsound.owner t).mp (by rw [show (seat cfg).stage t = _ from hneeds]; rfl)
    have hmove : Move TaskId.server (seat cfg) _ := Move.unregister hneeds hb
    simp only [seatAfter, S.unregister_own hb]
    exact hmove
  · obtain ⟨rfl, rfl⟩ := Prod.mk.inj (Option.some.inj he)
    obtain rfl := server_of_manager hsound hneeds rfl
    have hmove : Move TaskId.server (seat cfg) _ := Move.tell hneeds
    have hsend : S.view (S.sendStop cfg.shared.1.sig).2 =
        (seat cfg).owner.map fun x => (x.1, true) := by
      cases hview : S.view cfg.shared.1.sig with
      | none => simp [seat, hview, S.send_free hview]
      | some x => simp [seat, hview, (S.send_registered hview).2]
    simp only [seatAfter, hsend]
    exact hmove
  · simp only [exec] at he
    split at he
    · rename_i hstop
      obtain ⟨rfl, rfl⟩ := Prod.mk.inj (Option.some.inj he)
      obtain ⟨b, hb⟩ := (hsound.owner t).mp (by rw [show (seat cfg).stage t = _ from hneeds]; rfl)
      obtain ⟨hpending, hwait⟩ := S.wait_own hb
      rw [hstop] at hpending
      subst hpending
      have hmove : Move TaskId.server (seat cfg) _ := Move.leave hneeds hb
      simp only [seatAfter, hwait]
      exact hmove
    · exact absurd he (by simp)
  · obtain ⟨rfl, rfl⟩ := Prod.mk.inj (Option.some.inj he)
    obtain rfl := server_of_manager hsound hneeds rfl
    exact Move.request _ hneeds
  · obtain rfl := server_of_manager hsound hneeds rfl
    obtain rfl : r = true := hgranted
    have hmove : Move TaskId.server (seat cfg) _ := Move.create hneeds
    simp only [exec] at he
    split at he
    · obtain ⟨-, rfl⟩ := Prod.mk.inj (Option.some.inj he)
      exact hmove
    · exact absurd he (by simp)
  · obtain ⟨rfl, rfl⟩ := Prod.mk.inj (Option.some.inj he)
    obtain rfl := server_of_manager hsound hneeds rfl
    have hmove : Move TaskId.server (seat cfg) _ := Move.ask hneeds
    have htold : (fun u => u ∈ toldAfter S cfg.shared.1 osSignalIsAnyThreadRegistered
        cfg.shared.2.told) = fun u => (seat cfg).told u ∨ ∃ b, (seat cfg).owner = some (u, b) := by
      funext u
      simp [toldAfter, seat, or_comm]
    simp only [seatAfter, htold, S.isAny_eq]
    exact hmove

theorem seat_setTask {old x : Task ServerCall ServerCall.Ret} (htask : cfg.task t = some old) :
    seat (cfg.setTask x t) = seat cfg := by
  ext u
  · simp only [seat, Config.setTask_shared]
  · simp only [seat]
    by_cases hu : u = t
    · subst hu
      rw [Config.setTask_self htask, htask]
      rfl
    · rw [Config.setTask_other hu]
  all_goals simp only [seat, Config.setTask_shared]

end Steps

/-- Where a task is when its program is at its end. -/
def dnsEnd : TaskId → DnsPlace → Prop
  | .server, w => w = ⟨.idle, false⟩
  | .client _, w => w = ⟨.done, false⟩

/-- Tasks and caller are on their way, the tasks know who is registered, and the holder of the mutex
knows that it has it. -/
structure DnsInv {S : OsSignal} (cfg : DnsConfig S) : Prop where
  way : Typestate.OnTheWay (dnsRecord S) ⟨.before, false⟩ dnsEnd cfg
  sound : Sound .server (seat cfg)
  mutex : ∀ t, (cfg.shared.2.place t).held = true ↔ cfg.shared.1.mutex = some t

section Runs

variable {S : OsSignal} {cfg cfg' : DnsConfig S} {l : DnsLabel}

theorem DnsInv.init : DnsInv (dnsInit S) := by
  constructor
  · constructor
    · intro t x hx
      cases t with
      | server =>
        obtain rfl := Option.some.inj hx
        exact rfl
      | client i => exact absurd hx (by simp [dnsInit, Config.task])
    · intro t ht
      cases t with
      | server => exact absurd ht (by simp [Config.task])
      | client i => rfl
  · have hview : S.view S.createStatic = none := S.view_createStatic
    constructor <;> simp only [seat, dnsInit, hview, State.Settled]
    case manager =>
      intro t
      by_cases ht : t = .server <;> simp [ht, Handover.Stage.isManager]
    case owner =>
      intro t
      by_cases ht : t = .server <;> simp [ht, Handover.Stage.own]
    case stopping =>
      intro t ht
      by_cases hs : t = .server <;> simp [hs] at ht
    all_goals simp
  · intro t
    by_cases ht : t = .server <;> simp [dnsInit, ht]

/-- The calls of a step: every resource is granted, and a task registers in time. -/
theorem DnsInv.answer {t : TaskId} {o : ServerCall} {k : o.Ret → ServerProg Unit} {w : Bool}
    {c : Reply} {r : o.Ret} {s : ServerState S} (h : DnsInv cfg) (hc : c.success = true)
    (htime : o = osSignalRegisterCurThread → RegistersInTime cfg t)
    (htask : cfg.task t = some ⟨.call o k, w⟩) (he : exec S t o c cfg.shared.1 = some (r, s)) :
    Sound .server (seatAfter cfg t o r s) ∧
      ∀ u, (Function.update cfg.shared.2.place t (dnsWay.after o () r (cfg.shared.2.place t)) u).held =
        true ↔ s.mutex = some u := by
  obtain ⟨⟨hstage, hheld⟩, -⟩ := h.way.follows htask
  constructor
  · by_cases ho : Counts o
    · exact h.sound.move (move_of_answer h.sound ho hstage (granted_of_exec hc he) htime he)
    · rw [seatAfter_of_not_counts ho he]
      exact h.sound
  · obtain ⟨-, -, hmutex⟩ := exec_frame he
    have hold := h.mutex
    intro u
    rw [hmutex]
    by_cases hlock : o = osMutexLock
    · subst hlock
      have hnone : cfg.shared.1.mutex = none := by
        by_contra hsome
        simp only [exec, hsome, if_false] at he
        exact absurd he (by simp)
      by_cases hu : u = t
      · subst hu
        simp [dnsWay, heldAfter, mutexAfter]
      · have hfree : (cfg.shared.2.place u).held = false := by
          rw [← Bool.not_eq_true, hold u, hnone]
          simp
        simp [hu, Ne.symm hu, mutexAfter, hfree]
    · by_cases hunlock : o = osMutexUnlock
      · subst hunlock
        have hmine := (hold t).mp hheld
        by_cases hu : u = t
        · subst hu
          simp [dnsWay, heldAfter, mutexAfter, hmine]
        · have hfree : (cfg.shared.2.place u).held = false := by
            rw [← Bool.not_eq_true, hold u, hmine]
            simp [Ne.symm hu]
          simp [hu, mutexAfter, hmine, hfree]
      · have hsame : heldAfter o (cfg.shared.2.place t).held = (cfg.shared.2.place t).held := by
          cases o <;> first | rfl | contradiction
        have hkeep : mutexAfter t o cfg.shared.1.mutex = cfg.shared.1.mutex := by
          cases o <;> first | rfl | contradiction
        rw [hkeep, ← hold u]
        by_cases hu : u = t
        · subst hu
          simp [dnsWay, hsame]
        · simp [hu]

theorem DnsInv.step (h : DnsInv cfg) (hl : InTime cfg l) (hs : Step (recordedDns S) cfg l cfg') :
    DnsInv cfg' := by
  have hway : Typestate.OnTheWay (dnsRecord S) ⟨.before, false⟩ dnsEnd cfg' := by
    refine h.way.step ?_ ?_ ?_ hs
    · intro req s s' p i ha
      simp only [dnsMachine] at ha
      split at ha
      · exact absurd ha (by simp)
      · obtain ⟨-, rfl⟩ := Prod.mk.inj (Option.some.inj ha)
        exact dnsServerTask_way
    · rintro s p w hp rfl
      obtain rfl := Option.some.inj hp
      exact dnsCaller_way
    · rintro t o k w c r s rfl - he
      exact granted_of_exec hl.1 he
  cases hs with
  | @answer t o k w c r x htask he =>
    obtain ⟨he, hnote⟩ := exec_withTrace he
    obtain ⟨s, g⟩ := x
    obtain rfl : g = _ := hnote
    have htime : o = osSignalRegisterCurThread → RegistersInTime cfg t := by
      rintro rfl
      exact hl.2 k w htask
    obtain ⟨hsound, hmutex⟩ := h.answer hl.1 htime htask he
    refine ⟨hway, ?_, ?_⟩
    · rw [seat_answer htask]
      exact hsound
    · rw [Config.setTask_shared]
      exact hmutex
  | wait htask he =>
    refine ⟨hway, ?_, ?_⟩
    · rw [seat_setTask htask]
      exact h.sound
    · rw [Config.setTask_shared]
      exact h.mutex
  | @serve a w c p hserver hp =>
    refine ⟨hway, ?_, h.mutex⟩
    have htask : cfg.task .server = some ⟨.pure a, w⟩ := congrArg some hserver
    rw [seat_setTask htask]
    exact h.sound
  | @arrive _ x p ha =>
    obtain ⟨ha, hrecord⟩ := arrive_withTrace ha
    obtain ⟨s, g⟩ := x
    obtain rfl : g = _ := hrecord
    simp only [dnsMachine] at ha
    split at ha
    · exact absurd ha (by simp)
    · rename_i hcreated
      obtain ⟨rfl, rfl⟩ := Prod.mk.inj (Option.some.inj ha)
      refine ⟨hway, ?_, h.mutex⟩
      have hnew : cfg.task (.client cfg.clients.length) = none := by simp [Config.task]
      have hbefore := congrArg DnsPlace.stage (h.way.absent hnew)
      have hspare : cfg.shared.1.created = cfg.shared.1.created - 1 + 1 := by omega
      have hmove : Move TaskId.server (seat cfg) (seat (cfg.enter
          ({ cfg.shared.1 with created := cfg.shared.1.created - 1 }, cfg.shared.2)
          dnsServerTask)) := by
        apply Move.enter hspare hbefore
        · intro u hu
          obtain ⟨x, hx⟩ := Option.isSome_iff_exists.mp hu
          exact Option.isSome_iff_exists.mpr ⟨x, Config.enter_old hx⟩
        · simp [Config.enter, Config.task]
      exact h.sound.move hmove

/-- At rest nobody has the mutex. -/
theorem DnsInv.mutex_atRest (h : DnsInv cfg) (hrest : AtRest cfg) : cfg.shared.1.mutex = none := by
  by_contra hsome
  obtain ⟨u, hu⟩ := Option.ne_none_iff_exists'.mp hsome
  have hheld := (h.mutex u).mpr hu
  cases hx : cfg.task u with
  | none => exact absurd ((congrArg DnsPlace.held (h.way.absent hx)).symm.trans hheld) (by simp)
  | some x =>
    have hfollows := h.way.follows hx
    obtain ⟨p, w⟩ := x
    cases p with
    | pure a =>
      have hend : dnsEnd u (cfg.shared.2.place u) := hfollows
      cases u <;> exact absurd ((congrArg DnsPlace.held hend).symm.trans hheld) (by simp)
    | call o k =>
      obtain ⟨⟨-, hneeds⟩, -⟩ := hfollows
      cases u with
      | server =>
        have hcaller := hrest.caller
        rw [show cfg.server.prog = .call o k from congrArg Task.prog (Option.some.inj hx)] at hcaller
        exact absurd hcaller (by simp [Prog.next])
      | client i =>
        have hfree : (cfg.shared.2.place (.client i)).held = false := by
          rcases exec_none (hrest.blocked (c := ⟨true, .start⟩) hx) with ⟨rfl, -⟩ | ⟨rfl, -⟩
          · exact hneeds
          · exact hneeds
        exact absurd (hfree.symm.trans hheld) (by simp)

/-- At rest every task has ended or is in its loop with nothing to do. -/
theorem DnsInv.client_atRest (h : DnsInv cfg) (hrest : AtRest cfg) {i : ℕ}
    {x : Task ServerCall ServerCall.Ret} (hx : cfg.task (.client i) = some x) :
    (seat cfg).stage (.client i) = .done ∧ x.prog.next = none ∨
      (seat cfg).stage (.client i) = .serving ∧ x.prog.next = some serveUntilStop ∧
        (seat cfg).owner = some (.client i, false) := by
  have hfollows := h.way.follows hx
  obtain ⟨p, w⟩ := x
  cases p with
  | pure a =>
    have hend : dnsEnd (.client i) (cfg.shared.2.place (.client i)) := hfollows
    exact .inl ⟨congrArg DnsPlace.stage hend, rfl⟩
  | call o k =>
    obtain ⟨⟨hneeds, -⟩, -⟩ := hfollows
    rcases exec_none (hrest.blocked (c := ⟨true, .start⟩) hx) with ⟨rfl, u, hu⟩ | ⟨rfl, hwait⟩
    · exact absurd ((h.mutex_atRest hrest).symm.trans hu) (by simp)
    · have hserving : (seat cfg).stage (.client i) = .serving := hneeds
      obtain ⟨b, hb⟩ := (h.sound.owner (.client i)).mp (by rw [hserving]; rfl)
      have hpending := (S.wait_own hb).1.symm.trans hwait
      exact .inr ⟨hserving, rfl, hpending ▸ hb⟩

/-- After every run in which the tasks register in time, at most one task is past its registration,
and when everything has come to rest a task is in its loop if and only if the last request was
`dns_server_start`. -/
theorem dns_as_requested {labels : List DnsLabel}
    (hrun : Path (recordedDns S) InTime (dnsInit S) labels cfg) :
    (∀ t u, PastRegistration cfg t → PastRegistration cfg u → t = u) ∧
      (AtRest cfg → ((∃ i, Running cfg i) ↔ cfg.shared.2.last = .start)) := by
  have h : DnsInv cfg := hrun.invariant (fun h hl hs => h.step hl hs) .init
  refine ⟨fun t u ht hu => h.sound.unique ht hu, ?_⟩
  intro hrest
  have hidle : (seat cfg).stage .server = .idle := by
    have hfollows := h.way.follows (t := .server) rfl
    have hcaller := hrest.caller
    cases hp : cfg.server.prog with
    | pure a =>
      rw [hp] at hfollows
      exact congrArg DnsPlace.stage hfollows
    | call o k =>
      rw [hp] at hcaller
      exact absurd hcaller (by simp [Prog.next])
  have hpresent : ∀ t, (seat cfg).stage t ≠ .before → (seat cfg).stage t ≠ .idle →
      ∃ i x, t = .client i ∧ cfg.task (.client i) = some x := by
    intro t hbefore hne
    cases t with
    | server => exact absurd hidle hne
    | client i =>
      cases hx : cfg.task (.client i) with
      | none => exact absurd (congrArg DnsPlace.stage (h.way.absent hx)) hbefore
      | some x => exact ⟨i, x, rfl, hx⟩
  have hwaiting : ∀ t, ¬ (seat cfg).Waiting t := by
    rintro t ⟨hthere, hbefore⟩
    cases t with
    | server => exact absurd (hidle.symm.trans hbefore) (by simp)
    | client i =>
      obtain ⟨x, hx⟩ := Option.isSome_iff_exists.mp hthere
      rcases h.client_atRest hrest hx with ⟨hdone, -⟩ | ⟨hserving, -⟩
      · exact absurd (hdone.symm.trans hbefore) (by simp)
      · exact absurd (hserving.symm.trans hbefore) (by simp)
  have hstopping : ∀ t, (seat cfg).stage t ≠ .stopping := by
    intro t hstopping
    obtain ⟨i, x, rfl, hx⟩ := hpresent t (by simp [hstopping]) (by simp [hstopping])
    rcases h.client_atRest hrest hx with ⟨hdone, -⟩ | ⟨hserving, -⟩
    · exact absurd (hdone.symm.trans hstopping) (by simp)
    · exact absurd (hserving.symm.trans hstopping) (by simp)
  have hserving : ∀ t, (seat cfg).stage t = .serving → (seat cfg).owner ≠ some (t, true) := by
    intro t hserving howner
    obtain ⟨i, x, rfl, hx⟩ := hpresent t (by simp [hserving]) (by simp [hserving])
    rcases h.client_atRest hrest hx with ⟨hdone, -⟩ | ⟨-, -, hfree⟩
    · exact absurd (hdone.symm.trans hserving) (by simp)
    · exact absurd (hfree.symm.trans howner) (by simp)
  have hiff := h.sound.atRest hidle hrest.created hwaiting hstopping hserving
  have hwanted : (seat cfg).wanted = true ↔ cfg.shared.2.last = .start := decide_eq_true_iff
  rw [← hwanted, ← hiff]
  constructor
  · rintro ⟨i, x, hx, hnext⟩
    rcases h.client_atRest hrest hx with ⟨-, hend⟩ | ⟨hserving, -⟩
    · exact absurd (hend.symm.trans hnext) (by simp)
    · exact ⟨_, hserving⟩
  · rintro ⟨t, hserving⟩
    obtain ⟨i, x, rfl, hx⟩ := hpresent t (by simp [hserving]) (by simp [hserving])
    rcases h.client_atRest hrest hx with ⟨hdone, -⟩ | ⟨-, hnext, -⟩
    · exact absurd (hdone.symm.trans hserving) (by simp)
    · exact ⟨i, x, hx, hnext⟩

end Runs

/-! ### Two runs -/

def dnsRuns (t : TaskId) (n : ℕ) (request : DnsRequest) : List DnsLabel :=
  List.replicate n (.run t ⟨true, request⟩)

/-- The next call of the step, if it registers, finds the signal free when a task is wanted. -/
def inTimeTest (cfg : DnsConfig .register) : DnsLabel → Bool
  | .arrive _ => true
  | .run t c => c.success &&
    (cfg.task t).all fun x => x.prog.next ≠ some osSignalRegisterCurThread ||
      cfg.shared.1.sig.isNone && cfg.shared.2.last = .start

theorem inTime_of_test {cfg : DnsConfig .register} {l : DnsLabel} (h : inTimeTest cfg l = true) :
    InTime cfg l := by
  cases l with
  | arrive req => exact trivial
  | run t c =>
    obtain ⟨hc, htest⟩ := Bool.and_eq_true_iff.mp h
    refine ⟨hc, ?_⟩
    intro k w htask
    rw [htask] at htest
    simp only [Option.all_some, Prog.next, ne_eq, not_true_eq_false, decide_false, Bool.false_or,
      Bool.and_eq_true, decide_eq_true_eq] at htest
    obtain ⟨hnone, hlast⟩ := htest
    have hfree : (seat cfg).owner = none := Option.isNone_iff_eq_none.mp hnone
    constructor
    · rintro - ⟨-, hunwanted⟩
      exact absurd hlast (by simpa [seat] using hunwanted)
    · intro u b howner
      exact absurd (hfree.symm.trans howner) (by simp)

def succeedsTest (_ : DnsConfig .register) : DnsLabel → Bool
  | .arrive _ => true
  | .run _ c => c.success

/-- Everybody has come to rest, and a task is in its loop exactly if `running`. -/
def restTest (running : Bool) (cfg : DnsConfig .register) : Bool :=
  cfg.server.prog.next.isNone && (cfg.shared.1.created = 0) &&
    (cfg.clients.all fun x => x.prog.next = none || x.prog.next = some serveUntilStop) &&
    (cfg.shared.1.sig.all fun x => !x.2) &&
    ((cfg.clients.any fun x => x.prog.next = some serveUntilStop) == running)

theorem atRest_of_test {running : Bool} {cfg : DnsConfig .register}
    (h : restTest running cfg = true) : AtRest cfg ∧ ((∃ i, Running cfg i) ↔ running = true) := by
  simp only [restTest, Bool.and_eq_true, Option.isNone_iff_eq_none, decide_eq_true_eq,
    List.all_eq_true, Bool.or_eq_true, beq_iff_eq] at h
  obtain ⟨⟨⟨⟨hcaller, hcreated⟩, hclients⟩, hpending⟩, hrunning⟩ := h
  constructor
  · refine ⟨hcaller, hcreated, ?_⟩
    intro i o k w c hx
    have hnext := hclients _ (List.mem_of_getElem? hx)
    simp only [Prog.next, reduceCtorEq, Option.some.injEq, false_or] at hnext
    subst hnext
    have hwait : (OsSignal.register.waitStop (.client i) cfg.shared.1.sig).1 = false := by
      cases hsig : cfg.shared.1.sig with
      | none => rfl
      | some x =>
        rw [hsig] at hpending
        simp only [Option.all_some, Bool.not_eq_true'] at hpending
        simp only [OsSignal.register]
        split <;> simp [hpending]
    simp only [exec, hwait]
    simp
  · rw [← hrunning, List.any_eq_true]
    constructor
    · rintro ⟨i, x, hx, hnext⟩
      exact ⟨x, List.mem_of_getElem? hx, by simpa using hnext⟩
    · rintro ⟨x, hx, hnext⟩
      obtain ⟨i, hi⟩ := List.getElem?_of_mem hx
      exact ⟨i, x, hi, by simpa using hnext⟩

/-- A start, and the task comes to its loop. -/
def dnsStarted : List DnsLabel :=
  dnsRuns .server 3 .start ++ .arrive () :: dnsRuns (.client 0) 10 .start

theorem dns_as_requested_started : ∃ cfg : DnsConfig .register,
    Path (recordedDns .register) InTime (dnsInit .register) dnsStarted cfg ∧ AtRest cfg ∧
      cfg.shared.2.last = .start := by
  have htest : (runWhere (recordedDns .register) inTimeTest (dnsInit .register) dnsStarted).any
      (restTest true) = true := by decide +kernel
  obtain ⟨cfg, hcfg, htest⟩ := (Option.any_eq_true _ _).mp htest
  obtain ⟨hrest, hrunning⟩ := atRest_of_test htest
  have hrun := Path.of_runWhere (fun _ _ => inTime_of_test) hcfg
  exact ⟨cfg, hrun, hrest, ((dns_as_requested hrun).2 hrest).mp (hrunning.mpr rfl)⟩

/-- A start and a stop, before the task begins: it registers after the stop has found nobody. -/
def dnsStopMissed : List DnsLabel :=
  dnsRuns .server 3 .start ++ dnsRuns .server 5 .stop ++ .arrive () :: dnsRuns (.client 0) 10 .start

theorem dns_stop_missed : ¬ ∀ (S : OsSignal) (labels : List DnsLabel) (cfg : DnsConfig S),
    Path (recordedDns S) Succeeds (dnsInit S) labels cfg → AtRest cfg →
      ((∃ i, Running cfg i) ↔ cfg.shared.2.last = .start) := by
  intro hclaim
  have htest : (runWhere (recordedDns .register) succeedsTest (dnsInit .register)
      dnsStopMissed).any (fun cfg => restTest true cfg && cfg.shared.2.last = .stop) = true := by
    decide +kernel
  obtain ⟨cfg, hcfg, htest⟩ := (Option.any_eq_true _ _).mp htest
  obtain ⟨hrest, hlast⟩ := Bool.and_eq_true_iff.mp htest
  obtain ⟨hrest, hrunning⟩ := atRest_of_test hrest
  have hrun : Path (recordedDns .register) Succeeds (dnsInit .register) dnsStopMissed cfg := by
    apply Path.of_runWhere _ hcfg
    intro cfg l hl
    cases l with
    | arrive req => exact trivial
    | run t c => exact hl
  have hstart := (hclaim _ _ cfg hrun hrest).mp (hrunning.mpr rfl)
  exact absurd (hstart.symm.trans (by simpa using hlast)) (by simp)

end Servers
end Esp32WifiManager
