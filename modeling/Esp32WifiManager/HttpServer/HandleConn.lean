import Esp32WifiManager.HttpReq

/-!
# Receiving one request

The request buffer is an allocated block of bytes; what the allocator answers,
including the old contents of fresh memory, is an input of every step. A netbuf
is a non-empty list of fragments, and one connection is the list of what the
receive loop meets: the time passed, then a netbuf or an error.
-/

namespace Esp32WifiManager
namespace HandleConn

open CString HttpReq

def httpServerMaxRequestSize : ℕ := 4 * 1024
def httpServerMaxUnencryptedContentSize : ℕ := 8 * 1024
def httpServerMaxEncryptedContentSize : ℕ := httpServerMaxUnencryptedContentSize * 4 / 3 + 512

def httpServerRequestTimeoutMs : ℕ := 5 * 1000
def httpServerContentTimeoutMs : ℕ := 30 * 1000

/-! ### The allocator -/

/-- One answer of the allocator: failure, or memory with some old contents. -/
abbrev HeapAnswer := Option (ℕ → UInt8)

def osMalloc (heap : HeapAnswer) (size : ℕ) : Option Bytes :=
  heap.map fun junk => (List.range size).map junk

/-- On failure the old block is freed and the pointer becomes `NULL`. -/
def osReallocSafeAndClean (heap : HeapAnswer) (old : Bytes) (size : ℕ) : Option Bytes :=
  heap.map fun junk => old.take size ++ (List.range (size - old.length)).map junk

def memcpyAt (mem : Bytes) (offset : ℕ) (src : Bytes) : Bytes :=
  mem.take offset ++ src ++ mem.drop (offset + src.length)

/-- The answers to the allocations one fragment may need: for its bytes, then for the body. -/
structure HeapAnswers where
  buf : HeapAnswer
  content : HeapAnswer

def HeapAnswers.Succeed (heap : HeapAnswers) : Prop := heap.buf.isSome ∧ heap.content.isSome

/-! ### `http_server_handle_received_buf` -/

structure HttpServerRecvCtx where
  reqBuf : Option Bytes
  reqBufSize : ℕ
  accumLen : ℕ
  headerLen : ℕ
  contentLen : ℕ
  expectedLen : ℕ
  isReady : Bool
  isHeaderCompleted : Bool

def HttpServerRecvCtx.zero : HttpServerRecvCtx where
  reqBuf := none
  reqBufSize := 0
  accumLen := 0
  headerLen := 0
  contentLen := 0
  expectedLen := 0
  isReady := false
  isHeaderCompleted := false

/-- The block behind `p_req_buf`. -/
def HttpServerRecvCtx.mem (ctx : HttpServerRecvCtx) : Bytes := ctx.reqBuf.getD []

def headerEnd : Bytes := ascii "\r\n\r\n"

/-- Offset of the body, `strstr` plus the length of the mark it looks for. -/
def getHttpBody (msg : Bytes) : Option ℕ := (strstr (text msg) headerEnd).map (· + headerEnd.length)

def httpServerHandleReceivedBufAllocMemForFirstFrame (heap : HeapAnswer) (buflen : ℕ)
    (ctx : HttpServerRecvCtx) : Bool × HttpServerRecvCtx :=
  let ctx := { ctx with isHeaderCompleted := false }
  if buflen > httpServerMaxRequestSize then (false, ctx)
  else match osMalloc heap (buflen + 1) with
    | none => (false, { ctx with reqBuf := none })
    | some mem => (true, { ctx with reqBuf := some mem, reqBufSize := buflen })

def httpServerHandleReceivedBufAllocMemForNonFirstFrame (heap : HeapAnswer) (buflen : ℕ)
    (ctx : HttpServerRecvCtx) : Bool × HttpServerRecvCtx :=
  if ctx.reqBufSize = ctx.accumLen then
    let newSize := ctx.reqBufSize + buflen
    if newSize > httpServerMaxRequestSize then (false, ctx)
    else match osReallocSafeAndClean heap ctx.mem (newSize + 1) with
      | none => (false, { ctx with reqBuf := none })
      | some mem => (true, { ctx with reqBuf := some mem, reqBufSize := ctx.reqBufSize + buflen })
  else (true, ctx)

/-- The allocation at the start of `http_server_handle_received_buf`. -/
def allocMem (heap : HeapAnswer) (buflen : ℕ) (ctx : HttpServerRecvCtx) : Bool × HttpServerRecvCtx :=
  if ctx.reqBuf.isNone then httpServerHandleReceivedBufAllocMemForFirstFrame heap buflen ctx
  else httpServerHandleReceivedBufAllocMemForNonFirstFrame heap buflen ctx

def httpServerHandleRequestContentLen (heap : HeapAnswer) (contentLenStr : Bytes)
    (ctx : HttpServerRecvCtx) : Bool × HttpServerRecvCtx :=
  let ctx := { ctx with contentLen := strtoul contentLenStr }
  if ctx.contentLen > httpServerMaxEncryptedContentSize then (false, ctx)
  else
    let ctx := { ctx with expectedLen := ctx.headerLen + ctx.contentLen }
    -- the excess bytes are only cut off the count: no terminator is written behind the request
    let ctx := if ctx.accumLen > ctx.expectedLen then { ctx with accumLen := ctx.expectedLen } else ctx
    if ctx.reqBufSize ≠ ctx.expectedLen then
      match osReallocSafeAndClean heap ctx.mem (ctx.expectedLen + 1) with
      | none => (false, { ctx with reqBuf := none })
      | some mem => (true, { ctx with reqBuf := some mem, reqBufSize := ctx.expectedLen })
    else (true, ctx)

/-- `memcpy` of the fragment behind the bytes collected so far, and the terminator. -/
def appendFragment (buf : Bytes) (ctx : HttpServerRecvCtx) : HttpServerRecvCtx :=
  let mem := memcpyAt ctx.mem ctx.accumLen buf
  let accumLen := ctx.accumLen + buf.length
  { ctx with reqBuf := some (mem.set accumLen 0), accumLen := accumLen }

def completeHeader (ctx : HttpServerRecvCtx) : HttpServerRecvCtx :=
  if ctx.isHeaderCompleted then ctx
  else match getHttpBody ctx.mem with
    | none => ctx
    | some body => { ctx with isHeaderCompleted := true, headerLen := body }

/-- The field is looked up in the header alone, terminated in place for the call. -/
def contentLenField (ctx : HttpServerRecvCtx) : Option HttpReqField :=
  httpReqHeaderGetField (text (ctx.mem.set ctx.headerLen 0)) (ascii "Content-Length:")

/-- The last part of `http_server_handle_received_buf`. -/
def checkReady (ctx : HttpServerRecvCtx) : Bool × HttpServerRecvCtx :=
  if ctx.accumLen < ctx.expectedLen then (true, ctx) else (true, { ctx with isReady := true })

/-- What follows the copy of the fragment: the header, its `Content-Length`, the body. -/
def handleHeader (heap : HeapAnswer) (ctx : HttpServerRecvCtx) : Bool × HttpServerRecvCtx :=
  let ctx := completeHeader ctx
  if !ctx.isHeaderCompleted then (true, ctx)
  else if ctx.contentLen = 0 then
    match contentLenField ctx with
    | some field =>
      -- `p_content_len_str` points into the buffer, whose byte behind the header is back in place
      let res := httpServerHandleRequestContentLen heap (ctx.mem.drop field.ptr) ctx
      if !res.1 then res else checkReady res.2
    | none => (true, { ctx with isReady := true })
  else checkReady ctx

def httpServerHandleReceivedBuf (heap : HeapAnswers) (buf : Bytes) (ctx : HttpServerRecvCtx) :
    Bool × HttpServerRecvCtx :=
  let res := allocMem heap.buf buf.length ctx
  if !res.1 then res
  else if res.2.accumLen + buf.length > res.2.reqBufSize then (false, res.2)
  else handleHeader heap.content (appendFragment buf res.2)

/-! ### `http_server_recv_and_handle` and `http_server_netconn_serve` -/

/-- A fragment of a netbuf with the allocator's answers while it is handled. -/
structure Fragment where
  data : Bytes
  heap : HeapAnswers

/-- What `netbuf_data` returns: an error, or a fragment. -/
abbrev NetbufData := Option Fragment

/-- What `netconn_recv` returns: an error, or a netbuf with at least one fragment. -/
inductive NetconnRecv
  | err
  | ok (first : NetbufData) (rest : List NetbufData)

/-- One call of `http_server_handle_received_buf`: the context before, the fragment, the answer. -/
structure HandledFragment where
  before : HttpServerRecvCtx
  fragment : Fragment
  accepted : Bool

/-- The context of the receive loop together with the calls made so far. -/
structure Reception where
  ctx : HttpServerRecvCtx
  handled : List HandledFragment

def Reception.start : Reception := ⟨HttpServerRecvCtx.zero, []⟩

def Reception.handle (fragment : Fragment) (r : Reception) : Bool × Reception :=
  let res := httpServerHandleReceivedBuf fragment.heap fragment.data r.ctx
  (res.1, ⟨res.2, r.handled ++ [⟨r.ctx, fragment, res.1⟩]⟩)

/-- The `do … while (netbuf_next (…) >= 0)` loop. -/
def handleNetbuf (data : NetbufData) (rest : List NetbufData) (r : Reception) : Bool × Reception :=
  match data with
  | none => (false, r)
  | some fragment =>
    let res := r.handle fragment
    if !res.1 then res
    else match rest with
      | [] => res
      | data :: rest => handleNetbuf data rest res.2

def httpServerRecvAndHandle (recv : NetconnRecv) (r : Reception) : Bool × Reception :=
  match recv with
  | .err => (false, r)
  | .ok first rest => handleNetbuf first rest r

/-- One turn of the receive loop: the ticks since the connection was accepted, and the answer
of `netconn_recv`. -/
structure Attempt where
  elapsedTicks : ℕ
  recv : NetconnRecv

/-- An accepted connection. Its receive timeout makes `netconn_recv` fail behind the last attempt. -/
structure Connection where
  configTickRateHz : ℕ
  isPcbTcpNull : Bool
  attempts : List Attempt

def pdMsToTicks (configTickRateHz ms : ℕ) : ℕ := ms * configTickRateHz / 1000

def timeoutTicks (configTickRateHz : ℕ) (ctx : HttpServerRecvCtx) : ℕ :=
  if ctx.isHeaderCompleted then pdMsToTicks configTickRateHz httpServerContentTimeoutMs
  else pdMsToTicks configTickRateHz httpServerRequestTimeoutMs

def receiveLoop (configTickRateHz : ℕ) : List Attempt → Reception → Reception
  | [], r => r
  | attempt :: attempts, r =>
    if r.ctx.isReady then r
    else if attempt.elapsedTicks > timeoutTicks configTickRateHz r.ctx then r
    else
      let res := httpServerRecvAndHandle attempt.recv r
      if !res.1 then res.2 else receiveLoop configTickRateHz attempts res.2

/-- The reception at the call of `http_server_netconn_serve_handle_req` on `ctx.p_req_buf`, or
`none` when the call is not made. -/
def httpServerNetconnServe (conn : Connection) : Option Reception :=
  if conn.isPcbTcpNull then none
  else
    let r := receiveLoop conn.configTickRateHz conn.attempts Reception.start
    if r.ctx.isReady then some r else none

/-! ### One turn of the loops -/

section Turn

variable {r : Reception} {fragment : Fragment}

theorem handleNetbuf_stop (hres : (r.handle fragment).1 = false) (rest : List NetbufData) :
    handleNetbuf (some fragment) rest r = r.handle fragment := by
  unfold handleNetbuf
  simp [hres]

theorem handleNetbuf_last (fragment : Fragment) (r : Reception) :
    handleNetbuf (some fragment) [] r = r.handle fragment := by
  unfold handleNetbuf
  cases hres : (r.handle fragment).1 <;> simp [hres]

theorem handleNetbuf_next (hres : (r.handle fragment).1 = true) (next : NetbufData)
    (rest : List NetbufData) :
    handleNetbuf (some fragment) (next :: rest) r =
      handleNetbuf next rest (r.handle fragment).2 := by
  rw [handleNetbuf]
  simp [hres]

theorem receiveLoop_cons (configTickRateHz : ℕ) (attempt : Attempt) (attempts : List Attempt)
    (r : Reception) :
    receiveLoop configTickRateHz (attempt :: attempts) r = r ∨
    ((httpServerRecvAndHandle attempt.recv r).1 = false ∧
      receiveLoop configTickRateHz (attempt :: attempts) r =
        (httpServerRecvAndHandle attempt.recv r).2) ∨
    ((httpServerRecvAndHandle attempt.recv r).1 = true ∧
      receiveLoop configTickRateHz (attempt :: attempts) r =
        receiveLoop configTickRateHz attempts (httpServerRecvAndHandle attempt.recv r).2) := by
  rw [receiveLoop]
  by_cases hready : r.ctx.isReady = true
  · exact Or.inl (if_pos hready)
  by_cases htime : attempt.elapsedTicks > timeoutTicks configTickRateHz r.ctx
  · exact Or.inl (by rw [if_neg hready, if_pos htime])
  · rw [if_neg hready, if_neg htime]
    cases hres : (httpServerRecvAndHandle attempt.recv r).1 with
    | false => exact Or.inr (Or.inl ⟨rfl, by simp [hres]⟩)
    | true => exact Or.inr (Or.inr ⟨rfl, by simp [hres]⟩)

theorem httpServerNetconnServe_eq_some {conn : Connection} :
    httpServerNetconnServe conn = some r ↔
      conn.isPcbTcpNull = false ∧
      receiveLoop conn.configTickRateHz conn.attempts Reception.start = r ∧
      r.ctx.isReady = true := by
  unfold httpServerNetconnServe
  cases htcp : conn.isPcbTcpNull with
  | true => simp
  | false =>
    simp only [Bool.false_eq_true, if_false, true_and]
    constructor
    · intro hserve
      split at hserve
      · next hready =>
        obtain rfl := Option.some.inj hserve
        exact ⟨rfl, hready⟩
      · exact absurd hserve (by simp)
    · rintro ⟨rfl, hready⟩
      exact if_pos hready

end Turn

end HandleConn
end Esp32WifiManager
