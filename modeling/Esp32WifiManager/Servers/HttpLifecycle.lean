import Esp32WifiManager.Servers.Registration

/-!
# Start and end of the HTTP server

`http_server_start` may be called at any time, and the tasks it creates run at
any time. Each call is logged with its success and with whether a thread was
registered, and what a task or a call of `http_server_start` has undone is read
off its log.
-/

namespace Esp32WifiManager
namespace Servers

open TaskSystem ServerCall

/-- Somebody calls `http_server_start` or `http_server_stop`, or a task that has been created
begins to run. -/
inductive HttpRequest
  | start
  | stop
  | task
  deriving DecidableEq, Repr

def HttpRequest.prog : HttpRequest → ServerProg Unit
  | start => httpServerStart
  | stop => httpServerStop
  | task => httpServerTask

def httpMachine (S : OsSignal) : Machine ServerCall ServerCall.Ret Reply HttpRequest (ServerState S)
    where
  exec := exec S
  arrive
    | .start, s => some (s, httpServerStart)
    | .stop, s => some (s, httpServerStop)
    | .task, s =>
      if s.created = 0 then none else some ({ s with created := s.created - 1 }, httpServerTask)
  serve _ := none

/-! ### The log of a task -/

/-- A call as it has been answered; `registered` tells whether a thread was registered before. -/
structure ServerEvent where
  call : ServerCall
  success : Bool
  registered : Bool
  deriving DecidableEq

/-- Calls without a result succeed. -/
def ServerCall.succeeded : (o : ServerCall) → o.Ret → Bool
  | osSignalRegisterCurThread, r | osSignalIsAnyThreadRegistered, r | osSignalSendStop, r
  | osTaskCreate, r | socket, r | setsockopt, r | bindSocket, r | osCalloc, r | netconnNew, r
  | netconnListen, r => r
  | _, _ => true

abbrev ServerLog := List ServerEvent

def Made (o : ServerCall) (log : ServerLog) : Prop := ∃ e ∈ log, e.call = o

def Succeeded (o : ServerCall) (log : ServerLog) : Prop := ∃ e ∈ log, e.call = o ∧ e.success = true

@[simp] theorem made_nil (o : ServerCall) : ¬ Made o [] := by
  simp [Made]

@[simp] theorem made_append (o : ServerCall) (log : ServerLog) (e : ServerEvent) :
    Made o (log ++ [e]) ↔ Made o log ∨ e.call = o := by
  simp [Made, or_and_right, exists_or]

@[simp] theorem succeeded_nil (o : ServerCall) : ¬ Succeeded o [] := by
  simp [Succeeded]

@[simp] theorem succeeded_append (o : ServerCall) (log : ServerLog) (e : ServerEvent) :
    Succeeded o (log ++ [e]) ↔ Succeeded o log ∨ e.call = o ∧ e.success = true := by
  simp [Succeeded, or_and_right, exists_or]

/-- The task has unregistered its thread, and closed and deleted the netconn it had created. -/
structure Undone (log : ServerLog) : Prop where
  unregistered : Made osSignalUnregisterCurThread log
  closed : Succeeded netconnNew log → Made netconnClose log
  deleted : Succeeded netconnNew log → Made netconnDelete log

theorem undone_iff {log : ServerLog} :
    Undone log ↔ Made osSignalUnregisterCurThread log ∧
      (Succeeded netconnNew log → Made netconnClose log ∧ Made netconnDelete log) := by
  constructor
  · intro h
    exact ⟨h.unregistered, fun hnew => ⟨h.closed hnew, h.deleted hnew⟩⟩
  · rintro ⟨hunregistered, hclosed⟩
    exact ⟨hunregistered, fun hnew => (hclosed hnew).1, fun hnew => (hclosed hnew).2⟩

/-- Where a task is: what it has done, and whether it is registered. -/
structure Place where
  log : ServerLog
  own : Bool

/-- The only question about the registration is answered by it. -/
def AnsweredBy : (o : ServerCall) → Bool → o.Ret → Prop
  | osSignalIsAnyThreadRegistered, registered, r => r = registered
  | _, _, _ => True

/-- Every task logs its calls. -/
def logging : Typestate ServerCall ServerCall.Ret Bool Place where
  needs o w := NeedsOwn o w.own
  answers := AnsweredBy
  after o registered r w :=
    { log := w.log ++ [⟨o, o.succeeded r, registered⟩], own := ownAfter o r w.own }

def httpRecord (S : OsSignal) : logging.Record (httpMachine S) (TaskId → Place) where
  note t o s r places u :=
    if u = t then logging.after o (S.view s.sig).isSome r (places t) else places u
  place places := places
  sees s := (S.view s.sig).isSome
  place_own := if_pos rfl
  place_other hut := if_neg hut

/-- The HTTP server with the logs of all tasks. -/
abbrev loggedHttp (S : OsSignal) := (httpMachine S).withTrace (httpRecord S).note

abbrev HttpConfig (S : OsSignal) := Config ServerCall ServerCall.Ret (ServerState S × (TaskId → Place))

abbrev HttpLabel := Label Reply HttpRequest

/-- After `http_server_init`. -/
def httpInit (S : OsSignal) : HttpConfig S where
  shared := (⟨none, S.createStatic, 0⟩, fun _ => ⟨[], false⟩)
  server := ⟨.pure (), false⟩
  clients := []

abbrev HttpPath (S : OsSignal) := Path (loggedHttp S) fun _ _ => True

/-- A call of `http_server_start`, or a task, from its beginning to its end. -/
structure HttpLife (S : OsSignal) (req : HttpRequest) (cfg : HttpConfig S) (i : ℕ) : Prop where
  life : ∃ before begun labels labels', HttpPath S (httpInit S) labels before ∧
    Step (loggedHttp S) before (.arrive req) begun ∧ i = before.clients.length ∧
      HttpPath S begun labels' cfg
  ended : ∃ w, cfg.task (.client i) = some ⟨.pure (), w⟩

def clientLog {S : OsSignal} (cfg : HttpConfig S) (i : ℕ) : ServerLog :=
  (cfg.shared.2 (.client i)).log

def unlocks (log : ServerLog) : ℕ := log.countP fun e => e.call = osMutexUnlock

/-- A task that has registered undoes what it has acquired. A call of `http_server_start` releases
the mutex once, and creates no task while a thread is registered. -/
def LifeBalanced {S : OsSignal} (req : HttpRequest) (cfg : HttpConfig S) (i : ℕ) : Prop :=
  match req with
  | .task =>
    Succeeded osSignalRegisterCurThread (clientLog cfg i) →
      Undone (clientLog cfg i) ∧ ∀ b, S.view cfg.shared.1.sig ≠ some (.client i, b)
  | .start =>
    unlocks (clientLog cfg i) = 1 ∧
      ∀ e ∈ clientLog cfg i, e.call = osTaskCreate → e.success = true → e.registered = false
  | .stop => unlocks (clientLog cfg i) = 1

/-- The netconn of the task has been created and listens. -/
def Listens (log : ServerLog) : Prop := Succeeded netconnNew log ∧ Succeeded netconnListen log

/-- The netconn of a task that has registered listens. No thread is registered when
`http_server_start` asks for one, nor when it creates the task. -/
def LifeSmooth (req : HttpRequest) (log : ServerLog) : Prop :=
  match req with
  | .task =>
    Succeeded osSignalRegisterCurThread log → Listens log
  | .start =>
    ∀ e ∈ log, e.call = osSignalIsAnyThreadRegistered ∨ e.call = osTaskCreate ∧ e.success = true →
      e.registered = false
  | .stop => True

section Programs

@[simp] theorem logging_needs (o : ServerCall) (w : Place) :
    logging.needs o w = NeedsOwn o w.own := rfl

@[simp] theorem logging_answers : logging.answers = AnsweredBy := rfl

@[simp] theorem logging_after (o : ServerCall) (b : Bool) (r : o.Ret) (w : Place) :
    logging.after o b r w = ⟨w.log ++ [⟨o, o.succeeded r, b⟩], ownAfter o r w.own⟩ := rfl

/-- A registered task closes and deletes its netconn if it listens, and otherwise it just returns. -/
theorem httpServerTask_follows :
    logging.Follows (fun _ w => Succeeded osSignalRegisterCurThread w.log →
      (Undone w.log ↔ Listens w.log) ∧ (w.own = false ↔ Listens w.log)) httpServerTask ⟨[], false⟩ := by
  simp only [httpServerTask, httpServerSigRegisterCurThread, httpServerSigUnregisterCurThread,
    httpServerTaskWdtAddAndStart, sigRegisterCurThread, sigUnregisterCurThread, taskWdtAddAndStart,
    call, Prog.perform, Typestate.follows_bind, Typestate.follows_call, Typestate.follows_ite,
    Typestate.follows_pure, Typestate.follows_return, logging_needs, logging_answers, logging_after,
    NeedsOwn, AnsweredBy, ownAfter, ServerCall.succeeded, undone_iff, Listens, made_append, made_nil,
    succeeded_append, succeeded_nil]
  simp

/-- A call of `http_server_start` releases the mutex a second time when it finds a thread. -/
theorem httpServerStart_follows :
    logging.Follows (fun _ w => (unlocks w.log = 1 ∧
      (∀ e ∈ w.log, e.call = osTaskCreate → e.success = true → e.registered = false) ↔
        LifeSmooth .start w.log)) httpServerStart ⟨[], false⟩ := by
  simp only [httpServerStart, call, Prog.perform, Typestate.follows_bind, Typestate.follows_call,
    Typestate.follows_ite, Typestate.follows_pure, Typestate.follows_return, logging_needs,
    logging_answers, logging_after, NeedsOwn, AnsweredBy, ownAfter, ServerCall.succeeded, LifeSmooth]
  simp [unlocks]

theorem httpServerStop_follows :
    logging.Follows (fun _ w => unlocks w.log = 1) httpServerStop ⟨[], false⟩ := by
  simp only [httpServerStop, serverStop, call, Prog.perform, Typestate.follows_bind,
    Typestate.follows_call, Typestate.follows_ite, Typestate.follows_return, logging_needs,
    logging_answers, logging_after, NeedsOwn, AnsweredBy, ownAfter, ServerCall.succeeded]
  simp [unlocks]

/-- The DNS task closes its socket and unregisters wherever it gives up. -/
theorem dnsServerTask_follows :
    logging.Follows (fun _ w => Succeeded osSignalRegisterCurThread w.log →
      Made osSignalUnregisterCurThread w.log ∧ w.own = false ∧
        (Succeeded socket w.log → Made close w.log) ∧ (Succeeded osCalloc w.log → Made osFree w.log))
      dnsServerTask ⟨[], false⟩ := by
  simp only [dnsServerTask, dnsServerSigRegisterCurThread, dnsServerSigUnregisterCurThread,
    dnsServerWdtAddAndStart, sigRegisterCurThread, sigUnregisterCurThread, taskWdtAddAndStart,
    call, Prog.perform, Typestate.follows_bind, Typestate.follows_call, Typestate.follows_ite,
    Typestate.follows_pure, Typestate.follows_return, logging_needs, logging_answers, logging_after,
    NeedsOwn, AnsweredBy, ownAfter, ServerCall.succeeded, made_append, made_nil, succeeded_append,
    succeeded_nil]
  simp

/-- A program that meets the needs of its calls does so whatever is asked of its end. -/
theorem follows_true {α : Type} {post : α → Place → Prop} {p : ServerProg α} {w : Place}
    (h : logging.Follows post p w) : logging.Follows (fun _ _ => True) p w := by
  induction p generalizing w with
  | pure a => exact trivial
  | call o k ih => exact ⟨h.1, fun b r hr => ih r (h.2 b r hr)⟩

end Programs

section Runs

variable {S : OsSignal} {cfg cfg' : HttpConfig S} {i : ℕ} {req : HttpRequest}

theorem answeredBy_of_exec {t : TaskId} {o : ServerCall} {c : Reply} {r : o.Ret}
    {s s' : ServerState S} (he : exec S t o c s = some (r, s')) :
    AnsweredBy o (S.view s.sig).isSome r := by
  cases o <;> try exact trivial
  obtain ⟨rfl, -⟩ := Prod.mk.inj (Option.some.inj he)
  exact S.isAny_eq s.sig

/-- What `http_server_start` and the tasks have in common at their ends. -/
def EndsWell : HttpRequest → Place → Prop
  | .task, w => Succeeded osSignalRegisterCurThread w.log →
      (Undone w.log ↔ Listens w.log) ∧ (w.own = false ↔ Listens w.log)
  | .start, w => (unlocks w.log = 1 ∧
      (∀ e ∈ w.log, e.call = osTaskCreate → e.success = true → e.registered = false) ↔
        LifeSmooth .start w.log)
  | .stop, w => unlocks w.log = 1

theorem prog_follows (req : HttpRequest) :
    logging.Follows (fun _ => EndsWell req) req.prog ⟨[], false⟩ := by
  cases req with
  | start => exact httpServerStart_follows
  | stop => exact httpServerStop_follows
  | task => exact httpServerTask_follows

theorem arrive_prog {s s' : ServerState S} {p : ServerProg Unit}
    (h : (httpMachine S).arrive req s = some (s', p)) : p = req.prog ∧ s'.sig = s.sig := by
  cases req with
  | start | stop =>
    obtain ⟨rfl, rfl⟩ := Prod.mk.inj (Option.some.inj h)
    exact ⟨rfl, rfl⟩
  | task =>
    simp only [httpMachine] at h
    split at h
    · exact absurd h (by simp)
    · obtain ⟨rfl, rfl⟩ := Prod.mk.inj (Option.some.inj h)
      exact ⟨rfl, rfl⟩

/-- All tasks are on their way, and know who is registered. -/
structure HttpInv (cfg : HttpConfig S) : Prop where
  way : Typestate.OnTheWay (httpRecord S) ⟨[], false⟩ (fun _ _ => True) cfg
  owner : OwnerKnown S (fun t => (cfg.shared.2 t).own) cfg.shared.1

theorem HttpInv.init : HttpInv (httpInit S) := by
  constructor
  · constructor
    · intro t x hx
      cases t with
      | server =>
        obtain rfl := Option.some.inj hx
        exact trivial
      | client i => exact absurd hx (by simp [httpInit, Config.task])
    · exact fun _ => rfl
  · exact .of_free S.view_createStatic fun _ => rfl

theorem HttpInv.step {l : HttpLabel} (h : HttpInv cfg) (hs : Step (loggedHttp S) cfg l cfg') :
    HttpInv cfg' := by
  constructor
  · refine h.way.step ?_ ?_ ?_ hs
    · intro req s s' p i ha
      obtain ⟨rfl, -⟩ := arrive_prog ha
      exact follows_true (prog_follows req)
    · exact fun hp => absurd hp (by simp [httpMachine])
    · exact fun _ _ he => answeredBy_of_exec he
  · cases hs with
    | @answer t o k w c r s htask he =>
      obtain ⟨he, hnote⟩ := exec_withTrace he
      have hfollows := h.way.follows htask
      rw [Config.setTask_shared, Config.setShared_shared, hnote]
      refine h.owner.exec (t := t) (r := r) hfollows.1 ?_ ?_ he
      · exact congrArg Place.own (httpRecord S).place_own
      · exact fun u hut => congrArg Place.own ((httpRecord S).place_other hut)
    | wait htask he =>
      rw [Config.setTask_shared]
      exact h.owner
    | serve hserver hp => exact absurd hp (by simp [httpMachine, Machine.withTrace])
    | arrive ha =>
      obtain ⟨ha, hrecord⟩ := arrive_withTrace ha
      obtain ⟨-, hsig⟩ := arrive_prog ha
      intro t
      have hown := h.owner t
      rw [← hsig, ← hrecord] at hown
      exact hown

/-- The log of a call or a task that has come to its end. -/
theorem HttpLife.endsWell (h : HttpLife S req cfg i) :
    HttpInv cfg ∧ EndsWell req (cfg.shared.2 (.client i)) := by
  obtain ⟨⟨before, begun, labels, labels', hbefore, hbegin, rfl, hlife⟩, w, hend⟩ := h
  have hinv : HttpInv before := hbefore.invariant (fun h _ hs => h.step hs) .init
  have hinv' : HttpInv begun := hinv.step hbegin
  refine ⟨hlife.invariant (fun h _ hs => h.step hs) hinv', ?_⟩
  cases hbegin with
  | @arrive _ s p ha =>
    obtain ⟨ha, hrecord⟩ := arrive_withTrace ha
    obtain ⟨rfl, -⟩ := arrive_prog ha
    have htask : (before.enter s req.prog).task (.client before.clients.length) =
        some ⟨req.prog, false⟩ := by simp [Config.enter, Config.task]
    have hplace : (before.enter s req.prog).shared.2 (.client before.clients.length) =
        ⟨[], false⟩ := by
      have habsent := hinv.way.absent (t := .client before.clients.length)
        (by simp [Config.task])
      exact (congrFun hrecord _).trans habsent
    have hfollows := prog_follows req
    rw [← hplace] at hfollows
    obtain ⟨x, hx, hpost⟩ := Typestate.Follows.path (N := httpRecord S) answeredBy_of_exec
      hfollows htask hlife
    obtain rfl := Option.some.inj (hend.symm.trans hx)
    exact hpost

/-- A call or a task is balanced if and only if nothing fails after the registration, and no thread
is registered where `http_server_start` should give up. -/
theorem http_lifecycle (h : HttpLife S req cfg i) :
    LifeBalanced req cfg i ↔ LifeSmooth req (clientLog cfg i) := by
  obtain ⟨hinv, hends⟩ := h.endsWell
  cases req with
  | start => exact hends
  | stop => exact iff_of_true hends trivial
  | task =>
    apply forall_congr'
    intro hregistered
    obtain ⟨hundone, hown⟩ := hends hregistered
    have hfree : (cfg.shared.2 (.client i)).own = false ↔
        ∀ b, S.view cfg.shared.1.sig ≠ some (.client i, b) := by
      rw [← Bool.not_eq_true, hinv.owner (.client i)]
      exact not_exists
    rw [← hfree]
    constructor
    · rintro ⟨-, hfalse⟩
      exact hown.mp hfalse
    · intro hlistens
      exact ⟨hundone.mpr hlistens, hown.mpr hlistens⟩

/-- A task that has come to its end stays where it is. -/
theorem step_ended {l : HttpLabel} {w : Bool} (hend : cfg.task (.client i) = some ⟨.pure (), w⟩)
    (hs : Step (loggedHttp S) cfg l cfg') :
    cfg'.task (.client i) = some ⟨.pure (), w⟩ ∧
      cfg'.shared.2 (.client i) = cfg.shared.2 (.client i) := by
  have hl : ∀ c, l ≠ .run (.client i) c := by
    rintro c rfl
    cases hs with
    | answer htask he => exact absurd (hend.symm.trans htask) (by simp)
    | wait htask he => exact absurd (hend.symm.trans htask) (by simp)
  refine ⟨hs.task_other hl hend, ?_⟩
  cases hs with
  | @answer t o k w c r s htask he =>
    obtain ⟨-, hnote⟩ := exec_withTrace he
    rw [Config.setTask_shared, Config.setShared_shared, hnote]
    apply (httpRecord S).place_other
    rintro rfl
    exact hl c rfl
  | wait htask he => rw [Config.setTask_shared]
  | serve hserver hp => exact absurd hp (by simp [httpMachine, Machine.withTrace])
  | arrive ha =>
    obtain ⟨-, hrecord⟩ := arrive_withTrace ha
    exact congrFun hrecord _

/-- After a task that has registered and does not listen no other task can register. -/
theorem http_server_stays_down {labels : List HttpLabel} {t : TaskId} {c : Reply}
    {registered : Bool} {s : ServerState S} (h : HttpLife S .task cfg i)
    (hregistered : Succeeded osSignalRegisterCurThread (clientLog cfg i))
    (hlistens : ¬ Listens (clientLog cfg i)) (hp : HttpPath S cfg labels cfg') (ht : t ≠ .client i)
    (he : exec S t osSignalRegisterCurThread c cfg'.shared.1 = some (registered, s)) :
    registered = false := by
  obtain ⟨hinv, hends⟩ := h.endsWell
  obtain ⟨w, hend⟩ := h.ended
  have hown : (cfg.shared.2 (.client i)).own = true := by
    rw [← Bool.not_eq_false, (hends hregistered).2]
    exact hlistens
  clear h hregistered hlistens hends
  induction hp with
  | nil =>
    obtain ⟨b, hb⟩ := (hinv.owner (.client i)).mp hown
    obtain ⟨rfl, -⟩ := Prod.mk.inj (Option.some.inj he)
    exact (S.register_taken hb ht.symm).1
  | cons hs _ _ ih =>
    obtain ⟨hend', hplace⟩ := step_ended hend hs
    apply ih he (hinv.step hs) hend'
    rw [hplace]
    exact hown

end Runs

/-! ### Three lives -/

def runs (t : TaskId) (n : ℕ) : List HttpLabel := List.replicate n (.run t ⟨true, .start⟩)

/-- A run up to a request, and the life that begins with it. -/
def lifeTest (req : HttpRequest) (labels labels' : List HttpLabel) (test : ServerLog → Bool) : Bool :=
  (runWhere (loggedHttp .register) (fun _ _ => true) (httpInit .register) labels).any fun before =>
    (runWhere (loggedHttp .register) (fun _ _ => true) before (.arrive req :: labels')).any fun cfg =>
      (cfg.task (.client before.clients.length)).any (fun x => x.prog.next.isNone) &&
        test (clientLog cfg before.clients.length)

theorem exists_life (req : HttpRequest) (labels labels' : List HttpLabel) (test : ServerLog → Bool)
    (h : lifeTest req labels labels' test = true) :
    ∃ (cfg : HttpConfig .register) (i : ℕ), HttpLife .register req cfg i ∧
      test (clientLog cfg i) = true := by
  obtain ⟨before, hbefore, h⟩ := (Option.any_eq_true _ _).mp h
  obtain ⟨cfg, hcfg, h⟩ := (Option.any_eq_true _ _).mp h
  obtain ⟨hend, htest⟩ := Bool.and_eq_true_iff.mp h
  obtain ⟨begun, hbegin, hlife⟩ := runWhere_cons hcfg
  obtain ⟨⟨p, w⟩, hx, hdone⟩ := (Option.any_eq_true _ _).mp hend
  refine ⟨cfg, before.clients.length, ⟨⟨before, begun, labels, labels', ?_, hbegin, rfl, ?_⟩, w, ?_⟩,
    htest⟩
  · exact .of_runWhere (fun _ _ _ => trivial) hbefore
  · exact .of_runWhere (fun _ _ _ => trivial) hlife
  · cases p with
    | pure a => exact hx
    | call o k => exact absurd hdone (by simp [Prog.next])

/-- `http_server_start` has created a task. -/
def startedLabels : List HttpLabel := .arrive .start :: runs (.client 0) 4

/-- The task serves until it is told to stop. -/
theorem http_lifecycle_served : ∃ (cfg : HttpConfig .register) (i : ℕ),
    HttpLife .register .task cfg i ∧ Succeeded netconnListen (clientLog cfg i) ∧
      LifeBalanced .task cfg i := by
  obtain ⟨cfg, i, hlife, htest⟩ := exists_life .task startedLabels
    (runs (.client 1) 10 ++ .arrive .stop :: runs (.client 2) 4 ++ runs (.client 1) 9)
    (fun log => log.contains ⟨netconnNew, true, true⟩ && log.contains ⟨netconnListen, true, true⟩)
    (by decide +kernel)
  simp only [Bool.and_eq_true, List.contains_iff_mem] at htest
  have hlisten : Succeeded netconnListen (clientLog cfg i) := ⟨_, htest.2, rfl, rfl⟩
  exact ⟨cfg, i, hlife, hlisten, (http_lifecycle hlife).mpr fun _ => ⟨⟨_, htest.1, rfl, rfl⟩, hlisten⟩⟩

/-- The netconn does not listen, and the task returns. Another task serves, and another call of
`http_server_start` creates one more. -/
theorem http_lifecycle_unbalanced :
    (¬ ∀ (S : OsSignal) (cfg : HttpConfig S) (i : ℕ), HttpLife S .task cfg i →
      LifeBalanced .task cfg i) ∧
    ¬ ∀ (S : OsSignal) (cfg : HttpConfig S) (i : ℕ), HttpLife S .start cfg i →
      LifeBalanced .start cfg i := by
  constructor
  · intro hclaim
    obtain ⟨cfg, i, hlife, htest⟩ := exists_life .task startedLabels
      (runs (.client 1) 5 ++ [.run (.client 1) ⟨false, .start⟩])
      (fun log => log.any (fun e => e.call = osSignalRegisterCurThread ∧ e.success = true) &&
        log.all fun e => e.call ≠ osSignalUnregisterCurThread) (by decide +kernel)
    obtain ⟨hregistered, hnever⟩ := Bool.and_eq_true_iff.mp htest
    obtain ⟨e, he, hcall⟩ := List.any_eq_true.mp hregistered
    obtain ⟨e', he', hcall'⟩ := (hclaim _ cfg i hlife ⟨e, he, by simpa using hcall⟩).1.unregistered
    exact absurd hcall' (by simpa using List.all_eq_true.mp hnever e' he')
  · intro hclaim
    obtain ⟨cfg, i, hlife, htest⟩ := exists_life .start
      (startedLabels ++ .arrive .task :: runs (.client 1) 3) (runs (.client 2) 5)
      (fun log => unlocks log = 2) (by decide +kernel)
    have hone := (hclaim _ cfg i hlife).1
    exact absurd (hone.symm.trans (by simpa using htest)) (by simp)

end Servers
end Esp32WifiManager
