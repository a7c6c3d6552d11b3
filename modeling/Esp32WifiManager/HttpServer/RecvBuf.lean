import Esp32WifiManager.HttpServer.HandleConn

/-!
# What one fragment does to the buffer

The block behind `p_req_buf` always has one byte more than `req_buf_size`. It is
written `w ++ x :: pad`: the `accum_len` bytes of the request so far, the byte
where the terminator belongs, and the rest. Each lemma computes one path of
`http_server_handle_received_buf` on such a block.
-/

namespace Esp32WifiManager
namespace HandleConn

open CString HttpReq

/-- The block is `w ++ x :: pad` and the counters say so. -/
structure Holds (w : Bytes) (x : UInt8) (pad : Bytes) (ctx : HttpServerRecvCtx) : Prop where
  reqBuf : ctx.reqBuf = some (w ++ x :: pad)
  reqBufSize : ctx.reqBufSize = w.length + pad.length
  accumLen : ctx.accumLen = w.length

namespace Holds

variable {w pad : Bytes} {x : UInt8} {ctx : HttpServerRecvCtx}

theorem mem_eq (h : Holds w x pad ctx) : ctx.mem = w ++ x :: pad := by
  simp [HttpServerRecvCtx.mem, h.reqBuf]

theorem isNone_eq (h : Holds w x pad ctx) : ctx.reqBuf.isNone = false := by simp [h.reqBuf]

end Holds

/-! ### Storing a fragment -/

theorem memcpyAt_set (w d rest : Bytes) (h : d.length < rest.length) :
    (memcpyAt (w ++ rest) w.length d).set (w.length + d.length) 0 =
      w ++ d ++ 0 :: rest.drop (d.length + 1) := by
  have htake : (w ++ rest).take w.length = w := by simp
  have hdrop : (w ++ rest).drop (w.length + d.length) =
      rest[d.length] :: rest.drop (d.length + 1) := by
    rw [← List.drop_eq_getElem_cons h]
    simp [List.drop_append]
  rw [memcpyAt, htake, hdrop, List.set_append_right _ _ (by simp), List.length_append,
    Nat.sub_self, List.set_cons_zero]

/-- The context after `v` is stored with `pad` behind its terminator. -/
def storedCtx (ctx : HttpServerRecvCtx) (v pad : Bytes) : HttpServerRecvCtx :=
  { ctx with
    reqBuf := some (v ++ 0 :: pad), reqBufSize := v.length + pad.length, accumLen := v.length }

theorem storedCtx_holds (ctx : HttpServerRecvCtx) (v pad : Bytes) :
    Holds v 0 pad (storedCtx ctx v pad) := ⟨rfl, rfl, rfl⟩

theorem httpServerHandleReceivedBuf_of_alloc {heap : HeapAnswers} {w d rest : Bytes}
    {ctx ctx₁ : HttpServerRecvCtx} (halloc : allocMem heap.buf d.length ctx = (true, ctx₁))
    (hmem : ctx₁.reqBuf = some (w ++ rest)) (haccum : ctx₁.accumLen = w.length)
    (hsize : ctx₁.reqBufSize + 1 = w.length + rest.length) (hd : d.length < rest.length) :
    httpServerHandleReceivedBuf heap d ctx =
      handleHeader heap.content (storedCtx ctx₁ (w ++ d) (rest.drop (d.length + 1))) := by
  have hroom : ¬ ctx₁.reqBufSize < w.length + d.length := by omega
  have hstored : appendFragment d ctx₁ = storedCtx ctx₁ (w ++ d) (rest.drop (d.length + 1)) := by
    have hlen : ctx₁.reqBufSize = w.length + d.length + (rest.length - (d.length + 1)) := by omega
    simp [appendFragment, storedCtx, HttpServerRecvCtx.mem, hmem, haccum, memcpyAt_set w d rest hd,
      ← hlen]
  simp [httpServerHandleReceivedBuf, halloc, haccum, hroom, hstored]

theorem httpServerHandleReceivedBuf_of_alloc_reject {heap : HeapAnswers} {d : Bytes}
    {ctx ctx₁ : HttpServerRecvCtx} (halloc : allocMem heap.buf d.length ctx = (false, ctx₁)) :
    httpServerHandleReceivedBuf heap d ctx = (false, ctx₁) := by
  simp [httpServerHandleReceivedBuf, halloc]

/-- The first fragment is stored in a fresh block of its own size. -/
theorem httpServerHandleReceivedBuf_first {heap : HeapAnswers} {junk : ℕ → UInt8}
    (hheap : heap.buf = some junk) {d : Bytes} (hd : d.length ≤ httpServerMaxRequestSize) :
    httpServerHandleReceivedBuf heap d HttpServerRecvCtx.zero =
      handleHeader heap.content (storedCtx HttpServerRecvCtx.zero d []) := by
  have hlen : ((List.range (d.length + 1)).map junk).length = d.length + 1 := by simp
  have halloc : allocMem heap.buf d.length HttpServerRecvCtx.zero =
      (true, { HttpServerRecvCtx.zero with
        reqBuf := some ([] ++ (List.range (d.length + 1)).map junk), reqBufSize := d.length }) := by
    simp [allocMem, HttpServerRecvCtx.zero, httpServerHandleReceivedBufAllocMemForFirstFrame,
      Nat.not_lt.mpr hd, osMalloc, hheap]
  rw [httpServerHandleReceivedBuf_of_alloc halloc rfl rfl (by simp) (by omega),
    List.drop_of_length_le (by omega)]
  rfl

/-- A first fragment above the maximum is rejected before anything is allocated. -/
theorem httpServerHandleReceivedBuf_first_reject (heap : HeapAnswers) {d : Bytes}
    (hd : httpServerMaxRequestSize < d.length) :
    httpServerHandleReceivedBuf heap d HttpServerRecvCtx.zero =
      (false, HttpServerRecvCtx.zero) := by
  apply httpServerHandleReceivedBuf_of_alloc_reject
  simp [allocMem, HttpServerRecvCtx.zero, httpServerHandleReceivedBufAllocMemForFirstFrame, hd]

/-- A full block grows by the size of the fragment. -/
theorem httpServerHandleReceivedBuf_grow {heap : HeapAnswers} {junk : ℕ → UInt8}
    (hheap : heap.buf = some junk) {w d : Bytes} {x : UInt8} {ctx : HttpServerRecvCtx}
    (hctx : Holds w x [] ctx) (hd : w.length + d.length ≤ httpServerMaxRequestSize) :
    httpServerHandleReceivedBuf heap d ctx =
      handleHeader heap.content (storedCtx ctx (w ++ d) []) := by
  have hlen : (x :: (List.range d.length).map junk).length = d.length + 1 := by simp
  have hrealloc : osReallocSafeAndClean heap.buf (w ++ [x]) (w.length + d.length + 1) =
      some (w ++ x :: (List.range d.length).map junk) := by
    have htake : (w ++ [x]).take (w.length + d.length + 1) = w ++ [x] :=
      List.take_of_length_le (by simp only [List.length_append, List.length_singleton]; omega)
    have hsub : w.length + d.length + 1 - (w ++ [x]).length = d.length := by
      simp only [List.length_append, List.length_singleton]; omega
    rw [osReallocSafeAndClean, hheap, Option.map_some, htake, hsub, List.append_assoc]
    rfl
  have hsize : ctx.reqBufSize = ctx.accumLen := by simp [hctx.reqBufSize, hctx.accumLen]
  have halloc : allocMem heap.buf d.length ctx =
      (true, { ctx with
        reqBuf := some (w ++ x :: (List.range d.length).map junk)
        reqBufSize := w.length + d.length }) := by
    simp [allocMem, hctx.isNone_eq, httpServerHandleReceivedBufAllocMemForNonFirstFrame, hsize,
      hctx.accumLen, hctx.mem_eq, hrealloc, Nat.not_lt.mpr hd]
  rw [httpServerHandleReceivedBuf_of_alloc halloc rfl hctx.accumLen (by simp; omega) (by simp),
    List.drop_of_length_le (by omega)]
  rfl

/-- A full block that would grow beyond the maximum is left alone. -/
theorem httpServerHandleReceivedBuf_grow_reject (heap : HeapAnswers) {w d : Bytes} {x : UInt8}
    {ctx : HttpServerRecvCtx} (hctx : Holds w x [] ctx)
    (hd : httpServerMaxRequestSize < w.length + d.length) :
    httpServerHandleReceivedBuf heap d ctx = (false, ctx) := by
  have hsize : ctx.reqBufSize = ctx.accumLen := by simp [hctx.reqBufSize, hctx.accumLen]
  apply httpServerHandleReceivedBuf_of_alloc_reject
  simp [allocMem, hctx.isNone_eq, httpServerHandleReceivedBufAllocMemForNonFirstFrame, hsize,
    hctx.accumLen, hd]

section Room

variable {w d pad : Bytes} {x : UInt8} {ctx : HttpServerRecvCtx}

/-- A block with room behind the terminator does not grow. -/
theorem allocMem_room (heap : HeapAnswer) (buflen : ℕ) (hctx : Holds w x pad ctx)
    (hpad : pad ≠ []) : allocMem heap buflen ctx = (true, ctx) := by
  have hpos : 0 < pad.length := List.length_pos_iff.mpr hpad
  have hne : ctx.reqBufSize ≠ ctx.accumLen := by rw [hctx.reqBufSize, hctx.accumLen]; omega
  simp [allocMem, hctx.isNone_eq, httpServerHandleReceivedBufAllocMemForNonFirstFrame, hne]

theorem httpServerHandleReceivedBuf_fit (heap : HeapAnswers) (hctx : Holds w x pad ctx)
    (hpad : pad ≠ []) (hd : d.length ≤ pad.length) :
    httpServerHandleReceivedBuf heap d ctx =
      handleHeader heap.content (storedCtx ctx (w ++ d) (pad.drop d.length)) := by
  rw [httpServerHandleReceivedBuf_of_alloc (allocMem_room heap.buf d.length hctx hpad) hctx.reqBuf
    hctx.accumLen (by simp [hctx.reqBufSize, Nat.add_assoc])
    (by simp only [List.length_cons]; omega)]
  rfl

/-- A fragment that does not fit into the room left is rejected. -/
theorem httpServerHandleReceivedBuf_fit_reject (heap : HeapAnswers) (hctx : Holds w x pad ctx)
    (hpad : pad ≠ []) (hd : pad.length < d.length) :
    httpServerHandleReceivedBuf heap d ctx = (false, ctx) := by
  have hroom : ctx.reqBufSize < ctx.accumLen + d.length := by
    rw [hctx.reqBufSize, hctx.accumLen]; omega
  simp [httpServerHandleReceivedBuf, allocMem_room heap.buf d.length hctx hpad, hroom]

end Room

/-! ### The header of what is stored -/

theorem handleHeader_incomplete (heap : HeapAnswer) {ctx : HttpServerRecvCtx}
    (hc : ctx.isHeaderCompleted = false) (hbody : getHttpBody ctx.mem = none) :
    handleHeader heap ctx = (true, ctx) := by
  simp [handleHeader, completeHeader, hc, hbody]

/-- Finding the end of the header is the same as having found it before. -/
theorem handleHeader_found (heap : HeapAnswer) {ctx : HttpServerRecvCtx} {body : ℕ}
    (hc : ctx.isHeaderCompleted = false) (hbody : getHttpBody ctx.mem = some body) :
    handleHeader heap ctx =
      handleHeader heap { ctx with isHeaderCompleted := true, headerLen := body } := by
  simp [handleHeader, completeHeader, hc, hbody]

theorem handleHeader_body (heap : HeapAnswer) {ctx : HttpServerRecvCtx}
    (hc : ctx.isHeaderCompleted = true) (hlen : ctx.contentLen ≠ 0) :
    handleHeader heap ctx = checkReady ctx := by
  simp [handleHeader, completeHeader, hc, hlen]

theorem checkReady_wait {ctx : HttpServerRecvCtx} (hlt : ctx.accumLen < ctx.expectedLen) :
    checkReady ctx = (true, ctx) := by
  simp [checkReady, hlt]

theorem checkReady_ready {ctx : HttpServerRecvCtx} (hle : ctx.expectedLen ≤ ctx.accumLen) :
    checkReady ctx = (true, { ctx with isReady := true }) := by
  simp [checkReady, Nat.not_lt.mpr hle]

/-- A part of the body that leaves the request incomplete. -/
theorem handleHeader_stored_wait (heap : HeapAnswer) {ctx : HttpServerRecvCtx} {v : Bytes} (pad : Bytes)
    (hc : ctx.isHeaderCompleted = true) (hlen : ctx.contentLen ≠ 0)
    (hlt : v.length < ctx.expectedLen) :
    handleHeader heap (storedCtx ctx v pad) = (true, storedCtx ctx v pad) := by
  have hwait : (storedCtx ctx v pad).accumLen < (storedCtx ctx v pad).expectedLen := hlt
  have hbody : handleHeader heap (storedCtx ctx v pad) = checkReady (storedCtx ctx v pad) :=
    handleHeader_body heap hc hlen
  exact hbody.trans (checkReady_wait hwait)

/-- Bytes that complete the body, or come behind it. -/
theorem handleHeader_stored_ready (heap : HeapAnswer) {ctx : HttpServerRecvCtx} {v : Bytes} (pad : Bytes)
    (hc : ctx.isHeaderCompleted = true) (hlen : ctx.contentLen ≠ 0)
    (hle : ctx.expectedLen ≤ v.length) :
    handleHeader heap (storedCtx ctx v pad) =
      (true, { storedCtx ctx v pad with isReady := true }) := by
  have hfull : (storedCtx ctx v pad).expectedLen ≤ (storedCtx ctx v pad).accumLen := hle
  have hbody : handleHeader heap (storedCtx ctx v pad) = checkReady (storedCtx ctx v pad) :=
    handleHeader_body heap hc hlen
  exact hbody.trans (checkReady_ready hfull)

theorem handleHeader_noField (heap : HeapAnswer) {ctx : HttpServerRecvCtx}
    (hc : ctx.isHeaderCompleted = true) (hlen : ctx.contentLen = 0)
    (hfield : contentLenField ctx = none) :
    handleHeader heap ctx = (true, { ctx with isReady := true }) := by
  simp [handleHeader, completeHeader, hc, hlen, hfield]

section Declared

variable {heap : HeapAnswer} {ctx : HttpServerRecvCtx} {field : HttpReqField} {v pad : Bytes}
  {x : UInt8} {n : ℕ}

/-- The context after a declared length `n` is found, before the block is resized. -/
def declaredCtx (ctx : HttpServerRecvCtx) (n : ℕ) : HttpServerRecvCtx :=
  { ctx with contentLen := n, expectedLen := ctx.headerLen + n }

theorem handleHeader_tooLong (hc : ctx.isHeaderCompleted = true) (hlen : ctx.contentLen = 0)
    (hfield : contentLenField ctx = some field) (hn : strtoul (ctx.mem.drop field.ptr) = n)
    (hmax : httpServerMaxEncryptedContentSize < n) :
    handleHeader heap ctx = (false, { ctx with contentLen := n }) := by
  simp [handleHeader, completeHeader, hc, hlen, hfield, httpServerHandleRequestContentLen, hn, hmax]

/-- Everything declared has arrived and nothing else: the block stays as it is. -/
theorem handleHeader_exact (hc : ctx.isHeaderCompleted = true) (hlen : ctx.contentLen = 0)
    (hfield : contentLenField ctx = some field) (hn : strtoul (ctx.mem.drop field.ptr) = n)
    (hmax : n ≤ httpServerMaxEncryptedContentSize) (hctx : Holds v x [] ctx)
    (hv : v.length = ctx.headerLen + n) :
    handleHeader heap ctx = (true, { declaredCtx ctx n with isReady := true }) := by
  have hsize : ctx.reqBufSize = ctx.headerLen + n := by simp [hctx.reqBufSize, hv]
  have haccum : ctx.accumLen = ctx.headerLen + n := by rw [hctx.accumLen, hv]
  simp [handleHeader, completeHeader, hc, hlen, hfield, httpServerHandleRequestContentLen, hn,
    Nat.not_lt.mpr hmax, hsize, haccum, checkReady, declaredCtx]

/-- More than declared has arrived: the block is cut behind the byte that follows the request. -/
theorem handleHeader_trim {junk : ℕ → UInt8} (hheap : heap = some junk)
    (hc : ctx.isHeaderCompleted = true) (hlen : ctx.contentLen = 0)
    (hfield : contentLenField ctx = some field) (hn : strtoul (ctx.mem.drop field.ptr) = n)
    (hmax : n ≤ httpServerMaxEncryptedContentSize) (hctx : Holds v x [] ctx)
    {s u : Bytes} {y : UInt8} (hv : v = s ++ y :: u) (hs : s.length = ctx.headerLen + n) :
    handleHeader heap ctx =
      (true, { declaredCtx ctx n with
        reqBuf := some (s ++ [y]), reqBufSize := s.length, accumLen := s.length,
        isReady := true }) := by
  have hlong : v.length = ctx.headerLen + n + u.length + 1 := by
    rw [hv, List.length_append, List.length_cons]; omega
  have hsize : ctx.reqBufSize = ctx.headerLen + n + u.length + 1 := by
    simp [hctx.reqBufSize, hlong]
  have haccum : ctx.accumLen = ctx.headerLen + n + u.length + 1 := by rw [hctx.accumLen, hlong]
  have hcut : osReallocSafeAndClean heap (v ++ [x]) (ctx.headerLen + n + 1) = some (s ++ [y]) := by
    have htake : (v ++ [x]).take (ctx.headerLen + n + 1) = s ++ [y] := by
      have : v ++ [x] = (s ++ [y]) ++ (u ++ [x]) := by simp [hv]
      rw [this, List.take_left' (by simp [hs])]
    have hzero : ctx.headerLen + n + 1 - (v ++ [x]).length = 0 := by
      rw [List.length_append, List.length_singleton, hlong]; omega
    rw [osReallocSafeAndClean, hheap, Option.map_some, htake, hzero]
    simp
  have hmem : ctx.reqBuf = some (v ++ [x]) := hctx.reqBuf
  have hread : strtoul ((v ++ [x]).drop field.ptr) = n := by rw [← hctx.mem_eq]; exact hn
  have hover : ctx.headerLen + n < ctx.headerLen + n + u.length + 1 := by omega
  have hne : ¬ ctx.headerLen + n + u.length + 1 = ctx.headerLen + n := by omega
  simp [handleHeader, completeHeader, hc, hlen, hfield, httpServerHandleRequestContentLen, hread,
    Nat.not_lt.mpr hmax, hsize, haccum, hover, hne, HttpServerRecvCtx.mem, hmem, hcut, checkReady,
    declaredCtx, hs]

/-- Less than declared has arrived: the block grows to exactly the size of the request. -/
theorem handleHeader_wait {junk : ℕ → UInt8} (hheap : heap = some junk)
    (hc : ctx.isHeaderCompleted = true) (hlen : ctx.contentLen = 0)
    (hfield : contentLenField ctx = some field) (hn : strtoul (ctx.mem.drop field.ptr) = n)
    (hmax : n ≤ httpServerMaxEncryptedContentSize) (hctx : Holds v x [] ctx)
    (hv : v.length < ctx.headerLen + n) :
    handleHeader heap ctx =
      (true, { declaredCtx ctx n with
        reqBuf := some (v ++ x :: (List.range (ctx.headerLen + n - v.length)).map junk)
        reqBufSize := ctx.headerLen + n }) := by
  have hsize : ctx.reqBufSize = v.length := by simp [hctx.reqBufSize]
  have hgrow : osReallocSafeAndClean heap (v ++ [x]) (ctx.headerLen + n + 1) =
      some (v ++ x :: (List.range (ctx.headerLen + n - v.length)).map junk) := by
    have htake : (v ++ [x]).take (ctx.headerLen + n + 1) = v ++ [x] :=
      List.take_of_length_le (by simp only [List.length_append, List.length_singleton]; omega)
    have hsub : ctx.headerLen + n + 1 - (v ++ [x]).length = ctx.headerLen + n - v.length := by
      simp only [List.length_append, List.length_singleton]; omega
    rw [osReallocSafeAndClean, hheap, Option.map_some, htake, hsub, List.append_assoc]
    rfl
  have hmem : ctx.reqBuf = some (v ++ [x]) := hctx.reqBuf
  have hread : strtoul ((v ++ [x]).drop field.ptr) = n := by rw [← hctx.mem_eq]; exact hn
  have hover : ¬ ctx.headerLen + n < v.length := by omega
  have hne : ¬ v.length = ctx.headerLen + n := by omega
  simp [handleHeader, completeHeader, hc, hlen, hfield, httpServerHandleRequestContentLen, hread,
    Nat.not_lt.mpr hmax, hsize, hctx.accumLen, hover, hne, HttpServerRecvCtx.mem, hmem, hgrow,
    checkReady, declaredCtx, hv]

end Declared

end HandleConn
end Esp32WifiManager
