import Esp32WifiManager.Lib.Ghost

/-!
# The tasks of the DNS and the HTTP server

Start and stop of the two servers and the life of their tasks, from
`dns_server.c` and `http_server.c`. A task registers with the signal of its
server, serves until the signal tells it to stop and unregisters; the signal
itself is a parameter.
-/

namespace Esp32WifiManager
namespace Servers

open TaskSystem

/-- `os_signal_t` with its signal `STOP`; the other signals only feed the watchdog or the
application. `view` is the thread that is registered with whether `STOP` is pending for it. -/
structure OsSignal where
  State : Type
  createStatic : State
  registerCurThread : TaskId → State → Bool × State
  unregisterCurThread : TaskId → State → State
  isAnyThreadRegistered : State → Bool
  sendStop : State → Bool × State
  waitStop : TaskId → State → Bool × State
  view : State → Option (TaskId × Bool)
  view_createStatic : view createStatic = none
  register_free : ∀ {t s}, view s = none →
    (registerCurThread t s).1 = true ∧ view (registerCurThread t s).2 = some (t, false)
  register_taken : ∀ {t u b s}, view s = some (u, b) → u ≠ t →
    (registerCurThread t s).1 = false ∧ view (registerCurThread t s).2 = view s
  unregister_own : ∀ {t b s}, view s = some (t, b) → view (unregisterCurThread t s) = none
  isAny_eq : ∀ s, isAnyThreadRegistered s = (view s).isSome
  send_registered : ∀ {t b s}, view s = some (t, b) →
    (sendStop s).1 = true ∧ view (sendStop s).2 = some (t, true)
  send_free : ∀ {s}, view s = none → view (sendStop s).2 = none
  wait_own : ∀ {t b s}, view s = some (t, b) →
    (waitStop t s).1 = b ∧ view (waitStop t s).2 = some (t, false)

/-- The signal as a register for one thread with one pending bit. -/
def OsSignal.register : OsSignal where
  State := Option (TaskId × Bool)
  createStatic := none
  registerCurThread t s :=
    match s with
    | none => (true, some (t, false))
    | some (u, b) => (u = t, some (u, b))
  unregisterCurThread t s := if s.map Prod.fst = some t then none else s
  isAnyThreadRegistered s := s.isSome
  sendStop s := (s.isSome, s.map fun x => (x.1, true))
  waitStop t s :=
    match s with
    | none => (false, none)
    | some (u, b) => if u = t then (b, some (u, false)) else (false, some (u, b))
  view := id
  view_createStatic := rfl
  register_free := by
    rintro t s rfl
    exact ⟨rfl, rfl⟩
  register_taken := by
    rintro t u b s rfl hne
    exact ⟨decide_eq_false hne, rfl⟩
  unregister_own := by
    rintro t b s rfl
    exact if_pos rfl
  isAny_eq _ := rfl
  send_registered := by
    rintro t b s rfl
    exact ⟨rfl, rfl⟩
  send_free := by
    rintro s rfl
    rfl
  wait_own := by
    rintro t b s rfl
    simp

/-! ### Calls -/

inductive DnsRequest
  | start
  | stop
  deriving DecidableEq, Repr

inductive ServerCall
  | osMutexLock
  | osMutexUnlock
  | osSignalRegisterCurThread
  | osSignalUnregisterCurThread
  | osSignalIsAnyThreadRegistered
  | osSignalSendStop
  | serveUntilStop
  | osTaskCreate
  | nextRequest
  | socket
  | setsockopt
  | bindSocket
  | close
  | osCalloc
  | osFree
  | netconnNew
  | netconnBind
  | netconnListen
  | netconnSetRecvtimeout
  | netconnClose
  | netconnDelete
  | osTimerCreate
  | osTimerStart
  | osTimerStop
  | osTimerDelete
  | espTaskWdtAdd
  | espTaskWdtDelete
  deriving DecidableEq, Repr

@[reducible] def ServerCall.Ret : ServerCall → Type
  | .osSignalRegisterCurThread | .osSignalIsAnyThreadRegistered | .osSignalSendStop | .osTaskCreate
  | .socket | .setsockopt | .bindSocket | .osCalloc | .netconnNew | .netconnListen => Bool
  | .nextRequest => DnsRequest
  | _ => Unit

/-- What the environment answers: whether a call succeeds, and the next request. -/
structure Reply where
  success : Bool
  request : DnsRequest

/-- `created` counts the tasks that have been created and have not run yet. -/
structure ServerState (S : OsSignal) where
  mutex : Option TaskId
  sig : S.State
  created : ℕ

open ServerCall in
/-- One call of task `t`. The loop of a server task is a single call, which waits until it has
received `STOP`. -/
def exec (S : OsSignal) (t : TaskId) :
    (o : ServerCall) → Reply → ServerState S → Option (o.Ret × ServerState S)
  | osMutexLock, _, s => if s.mutex = none then some ((), { s with mutex := some t }) else none
  | osMutexUnlock, _, s => some ((), { s with mutex := if s.mutex = some t then none else s.mutex })
  | osSignalRegisterCurThread, _, s =>
    let (registered, sig) := S.registerCurThread t s.sig
    some (registered, { s with sig := sig })
  | osSignalUnregisterCurThread, _, s =>
    some ((), { s with sig := S.unregisterCurThread t s.sig })
  | osSignalIsAnyThreadRegistered, _, s => some (S.isAnyThreadRegistered s.sig, s)
  | osSignalSendStop, _, s =>
    let (sent, sig) := S.sendStop s.sig
    some (sent, { s with sig := sig })
  | serveUntilStop, _, s =>
    let (flagStop, sig) := S.waitStop t s.sig
    if flagStop then some ((), { s with sig := sig }) else none
  | osTaskCreate, c, s =>
    if c.success then some (true, { s with created := s.created + 1 }) else some (false, s)
  | nextRequest, c, s => some (c.request, s)
  | socket, c, s | setsockopt, c, s | bindSocket, c, s | osCalloc, c, s | netconnNew, c, s
  | netconnListen, c, s => some (c.success, s)
  | close, _, s | osFree, _, s | netconnBind, _, s | netconnSetRecvtimeout, _, s
  | netconnClose, _, s | netconnDelete, _, s | osTimerCreate, _, s | osTimerStart, _, s
  | osTimerStop, _, s | osTimerDelete, _, s | espTaskWdtAdd, _, s | espTaskWdtDelete, _, s =>
    some ((), s)

abbrev ServerProg := Prog ServerCall ServerCall.Ret

abbrev call (o : ServerCall) : ServerProg o.Ret := Prog.perform o

section Functions

open ServerCall

/-! ### What the servers have in common -/

def sigRegisterCurThread : ServerProg Bool := do
  call osMutexLock
  let registered ← call osSignalRegisterCurThread
  if !registered then
    call osMutexUnlock
    return false
  call osMutexUnlock
  return true

def sigUnregisterCurThread : ServerProg Unit := do
  call osMutexLock
  call osSignalUnregisterCurThread
  call osMutexUnlock

/-- Tells the registered thread, if there is one, to stop. -/
def serverStop : ServerProg Unit := do
  call osMutexLock
  let isAny ← call osSignalIsAnyThreadRegistered
  if isAny then
    let _ ← call osSignalSendStop
  call osMutexUnlock

def taskWdtAddAndStart : ServerProg Unit := do
  call espTaskWdtAdd
  call osTimerStart

/-! ### `dns_server.c` -/

def dnsServerSigRegisterCurThread : ServerProg Bool := sigRegisterCurThread

def dnsServerSigUnregisterCurThread : ServerProg Unit := sigUnregisterCurThread

def dnsServerWdtAddAndStart : ServerProg Unit := taskWdtAddAndStart

def dnsServerTask : ServerProg Unit := do
  let registered ← dnsServerSigRegisterCurThread
  if !registered then
    return
  let opened ← call socket
  if !opened then
    dnsServerSigUnregisterCurThread
    return
  let isSet ← call setsockopt
  if !isSet then
    call close
    dnsServerSigUnregisterCurThread
    return
  let bound ← call bindSocket
  if !bound then
    call close
    dnsServerSigUnregisterCurThread
    return
  let allocated ← call osCalloc
  if !allocated then
    call close
    dnsServerSigUnregisterCurThread
    return
  call osTimerCreate
  dnsServerWdtAddAndStart
  call serveUntilStop
  call osFree
  call espTaskWdtDelete
  call osTimerStop
  call osTimerDelete
  call close
  dnsServerSigUnregisterCurThread

def dnsServerStart : ServerProg Bool := do
  let created ← call osTaskCreate
  return created

def dnsServerStop : ServerProg Unit := serverStop

/-! ### `http_server.c` -/

def httpServerSigRegisterCurThread : ServerProg Bool := sigRegisterCurThread

def httpServerSigUnregisterCurThread : ServerProg Unit := sigUnregisterCurThread

def httpServerTaskWdtAddAndStart : ServerProg Unit := taskWdtAddAndStart

def httpServerTask : ServerProg Unit := do
  let registered ← httpServerSigRegisterCurThread
  if !registered then
    return
  let opened ← call netconnNew
  if !opened then
    return
  call netconnBind
  let listening ← call netconnListen
  if !listening then
    return
  call netconnSetRecvtimeout
  call osTimerCreate
  httpServerTaskWdtAddAndStart
  call serveUntilStop
  call espTaskWdtDelete
  call osTimerStop
  call osTimerDelete
  call netconnClose
  call netconnDelete
  httpServerSigUnregisterCurThread

/-- When a thread is registered the mutex is released, and the function goes on. -/
def httpServerStart : ServerProg Unit := do
  call osMutexLock
  let isAny ← call osSignalIsAnyThreadRegistered
  if isAny then
    call osMutexUnlock
  call osMutexUnlock
  let _ ← call osTaskCreate

def httpServerStop : ServerProg Unit := serverStop

end Functions

end Servers
end Esp32WifiManager
