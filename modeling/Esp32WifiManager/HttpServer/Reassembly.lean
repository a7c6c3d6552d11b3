import Esp32WifiManager.HttpServer.RecvBuf
import Esp32WifiManager.HttpServer.Request

/-!
# Reassembly of a request

The bytes of a request received so far determine the context up to the old
contents of the block: `Pending` says so before the request is complete and
`Complete` afterwards. One fragment keeps the relation; a list of fragments is
then fed by induction.
-/

namespace Esp32WifiManager
namespace HandleConn

open CString HttpReq

variable {h b : Bytes}

/-- The bytes `v` are stored, and no header has been found in them. -/
structure Collected (v : Bytes) (ctx : HttpServerRecvCtx) : Prop where
  holds : Holds v 0 [] ctx
  notCompleted : ctx.isHeaderCompleted = false
  contentLen : ctx.contentLen = 0
  expectedLen : ctx.expectedLen = 0
  notReady : ctx.isReady = false

/-- `v`, a proper prefix of the request, has been received. -/
inductive Pending (h b v : Bytes) (ctx : HttpServerRecvCtx) : Prop
  | zero (received : v = []) (zeroed : ctx = HttpServerRecvCtx.zero)
  | collecting (isPrefix : v <+: h) (short : v.length < h.length) (collected : Collected v ctx)
  | waiting (pad : Bytes) (isPrefix : h <+: v) (room : pad ≠ []) (holds : Holds v 0 pad ctx)
      (size : v.length + pad.length = (h ++ b).length) (completed : ctx.isHeaderCompleted = true)
      (headerLen : ctx.headerLen = h.length) (contentLen : ctx.contentLen = b.length)
      (expectedLen : ctx.expectedLen = (h ++ b).length) (notReady : ctx.isReady = false)

/-- The request is complete, and the block is `w` with the byte `x` behind it. -/
structure Complete (h b w : Bytes) (x : UInt8) (ctx : HttpServerRecvCtx) : Prop where
  holds : Holds w x [] ctx
  isPrefix : h <+: w
  isReady : ctx.isReady = true
  completed : ctx.isHeaderCompleted = true
  headerLen : ctx.headerLen = h.length
  contentLen : ctx.contentLen = b.length
  expectedLen : ctx.expectedLen ≤ w.length

theorem Pending.notReady {v : Bytes} {ctx : HttpServerRecvCtx} (hp : Pending h b v ctx) :
    ctx.isReady = false := by
  cases hp with
  | zero _ hz => rw [hz]; rfl
  | collecting _ _ hc => exact hc.notReady
  | waiting _ _ _ _ _ _ _ _ _ hr => exact hr

/-- Whether the header has a `Content-Length`. -/
def declares (h : Bytes) : Bool := (httpReqHeaderGetField h (ascii "Content-Length:")).isSome

theorem Request.framing_cases (hr : Request h b) :
    (∃ field, declares h = true ∧
        httpReqHeaderGetField h (ascii "Content-Length:") = some field ∧
        (∀ t, strtoul ((h ++ t).drop field.ptr) = b.length) ∧
        b.length ≤ httpServerMaxEncryptedContentSize) ∨
      declares h = false ∧ httpReqHeaderGetField h (ascii "Content-Length:") = none ∧ b = [] := by
  rcases hr.framing with ⟨hd, hmax⟩ | ⟨hnone, hb⟩
  · have hulong : b.length ≤ ulongMax := hmax.trans (by decide)
    obtain ⟨field, hfield, hvalue⟩ := hd.field hulong
    exact Or.inl ⟨field, by simp [declares, hfield], hfield, hvalue, hmax⟩
  · have hfield := httpReqHeaderGetField_of_none hnone
    exact Or.inr ⟨by simp [declares, hfield], hfield, hb⟩

/-- What the block holds when the header and `t` behind it have arrived: the bytes counted by
`accum_len`, and the byte behind them. -/
def completedBuf (h b t : Bytes) : Bytes × UInt8 :=
  if declares h then (h ++ b, (t.drop b.length).headD 0) else (h ++ t, 0)

/-- The lookup reads the header alone. -/
theorem contentLenField_of_header (hnul : (0 : UInt8) ∉ h) {t : Bytes} {ctx : HttpServerRecvCtx}
    (hmem : ctx.mem = h ++ t) (ht : t ≠ []) (hlen : ctx.headerLen = h.length) :
    contentLenField ctx = httpReqHeaderGetField h (ascii "Content-Length:") := by
  obtain ⟨y, t, rfl⟩ := List.exists_cons_of_ne_nil ht
  have hset : ctx.mem.set ctx.headerLen 0 = h ++ 0 :: t := by
    rw [hmem, hlen, List.set_append_right _ _ le_rfl, Nat.sub_self, List.set_cons_zero]
  rw [contentLenField, hset, text_append_nul, text_eq_self hnul]

/-! ### One fragment before the request is complete -/

section Stored

variable {heap : HeapAnswer} {ctx : HttpServerRecvCtx}

/-- The header has not arrived. -/
theorem handleHeader_collecting (hr : Request h b) {v : Bytes} (hv : v <+: h)
    (hlt : v.length < h.length) (hctx : Collected v ctx) : handleHeader heap ctx = (true, ctx) := by
  apply handleHeader_incomplete heap hctx.notCompleted
  rw [hctx.holds.mem_eq]
  exact hr.header.getHttpBody_of_isPrefix hv hlt []

/-- The header has arrived, and less than its body: the block is made as large as the request. -/
theorem handleHeader_partial (hr : Request h b) (hheap : heap.isSome) {t : Bytes}
    (hlt : t.length < b.length) (hctx : Collected (h ++ t) ctx) :
    ∃ ctx', handleHeader heap ctx = (true, ctx') ∧ Pending h b (h ++ t) ctx' := by
  obtain ⟨junk, hjunk⟩ := Option.isSome_iff_exists.mp hheap
  have hmem : ctx.mem = h ++ (t ++ [0]) := by rw [hctx.holds.mem_eq, List.append_assoc]
  have hbody : getHttpBody ctx.mem = some h.length := by
    rw [hmem]
    exact hr.header.getHttpBody_append _
  rcases hr.framing_cases with ⟨field, -, hfield, hvalue, hmax⟩ | ⟨-, -, rfl⟩
  · rw [handleHeader_found heap hctx.notCompleted hbody]
    set ctx₁ : HttpServerRecvCtx := { ctx with isHeaderCompleted := true, headerLen := h.length }
    have hholds : Holds (h ++ t) 0 [] ctx₁ := ⟨hctx.holds.reqBuf, hctx.holds.reqBufSize, hctx.holds.accumLen⟩
    have hmem₁ : ctx₁.mem = h ++ (t ++ [0]) := hmem
    have hfound : contentLenField ctx₁ = some field := by
      rw [contentLenField_of_header hr.header.nulFree hmem₁ (by simp) rfl, hfield]
    have hn : strtoul (ctx₁.mem.drop field.ptr) = b.length := by rw [hmem₁]; exact hvalue _
    have hshort : (h ++ t).length < ctx₁.headerLen + b.length := by
      simp only [List.length_append, ctx₁]; omega
    refine ⟨_, handleHeader_wait hjunk rfl hctx.contentLen hfound hn hmax hholds hshort, ?_⟩
    have hpad : (List.range (ctx₁.headerLen + b.length - (h ++ t).length)).map junk ≠ [] := by
      simp only [ne_eq, List.map_eq_nil_iff, List.range_eq_nil]
      omega
    refine Pending.waiting _ (List.prefix_append h t) hpad ⟨rfl, ?_, hctx.holds.accumLen⟩ ?_ rfl rfl rfl
      List.length_append.symm hctx.notReady
    · simp only [List.length_map, List.length_range]
      omega
    · simp only [List.length_map, List.length_range, List.length_append, ctx₁] at hshort ⊢
      omega
  · exact absurd hlt (by simp)

/-- All of the request has arrived, and perhaps more. -/
theorem handleHeader_complete (hr : Request h b) (hheap : heap.isSome) {t : Bytes}
    (ht : b <+: t) (hctx : Collected (h ++ t) ctx) :
    ∃ ctx', handleHeader heap ctx = (true, ctx') ∧
      Complete h b (completedBuf h b t).1 (completedBuf h b t).2 ctx' := by
  obtain ⟨junk, hjunk⟩ := Option.isSome_iff_exists.mp hheap
  have hmem : ctx.mem = h ++ (t ++ [0]) := by rw [hctx.holds.mem_eq, List.append_assoc]
  have hbody : getHttpBody ctx.mem = some h.length := by
    rw [hmem]
    exact hr.header.getHttpBody_append _
  rw [handleHeader_found heap hctx.notCompleted hbody]
  set ctx₁ : HttpServerRecvCtx := { ctx with isHeaderCompleted := true, headerLen := h.length }
  have hdone : ctx₁.isHeaderCompleted = true := rfl
  have hholds : Holds (h ++ t) 0 [] ctx₁ := ⟨hctx.holds.reqBuf, hctx.holds.reqBufSize, hctx.holds.accumLen⟩
  have hmem₁ : ctx₁.mem = h ++ (t ++ [0]) := hmem
  have hlook := contentLenField_of_header hr.header.nulFree hmem₁ (by simp) rfl
  obtain ⟨u, rfl⟩ := ht
  rcases hr.framing_cases with ⟨field, hdecl, hfield, hvalue, hmax⟩ | ⟨hdecl, hfield, rfl⟩
  · rw [hfield] at hlook
    have hn : strtoul (ctx₁.mem.drop field.ptr) = b.length := by rw [hmem₁]; exact hvalue _
    have hbuf : completedBuf h b (b ++ u) = (h ++ b, u.headD 0) := by simp [completedBuf, hdecl]
    have hreq : (h ++ b).length = ctx₁.headerLen + b.length := by simp [ctx₁]
    rw [hbuf]
    cases u with
    | nil =>
      have hsize : (h ++ (b ++ [])).length = ctx₁.headerLen + b.length := by
        rw [List.append_nil]; exact hreq
      rw [List.append_nil] at hholds
      refine ⟨_, handleHeader_exact hdone hctx.contentLen hlook hn hmax hholds hreq, ?_⟩
      exact ⟨⟨hholds.reqBuf, hholds.reqBufSize, hholds.accumLen⟩, List.prefix_append h b, rfl, rfl,
        rfl, rfl, hreq.symm.le⟩
    | cons y u =>
      have hshape : h ++ (b ++ y :: u) = (h ++ b) ++ y :: u := by rw [List.append_assoc]
      refine ⟨_, handleHeader_trim hjunk hdone hctx.contentLen hlook hn hmax hholds hshape hreq, ?_⟩
      exact ⟨⟨rfl, rfl, rfl⟩, List.prefix_append h b, rfl, rfl, rfl, rfl, hreq.symm.le⟩
  · rw [hfield] at hlook
    have hbuf : completedBuf h [] ([] ++ u) = (h ++ u, 0) := by simp [completedBuf, hdecl]
    rw [hbuf]
    refine ⟨_, handleHeader_noField heap hdone hctx.contentLen hlook, ?_⟩
    refine ⟨⟨hholds.reqBuf, hholds.reqBufSize, hholds.accumLen⟩, List.prefix_append h u, rfl, rfl,
      rfl, hctx.contentLen, ?_⟩
    have : ctx₁.expectedLen = 0 := hctx.expectedLen
    exact this.symm ▸ Nat.zero_le _

end Stored

section Step

variable {ctx : HttpServerRecvCtx} {heap : HeapAnswers} {v d : Bytes}

/-- While the header is incomplete every fragment is stored in a block of the total size. -/
theorem Pending.store (hp : Pending h b v ctx) (hshort : v.length < h.length)
    (hheap : heap.Succeed) (hfit : (v ++ d).length ≤ httpServerMaxRequestSize) :
    ∃ ctx', httpServerHandleReceivedBuf heap d ctx = handleHeader heap.content ctx' ∧
      Collected (v ++ d) ctx' := by
  obtain ⟨junk, hjunk⟩ := Option.isSome_iff_exists.mp hheap.1
  rw [List.length_append] at hfit
  cases hp with
  | zero hv hz =>
    subst hv hz
    rw [List.nil_append]
    exact ⟨_, httpServerHandleReceivedBuf_first hjunk (by simpa using hfit),
      storedCtx_holds _ _ _, rfl, rfl, rfl, rfl⟩
  | collecting _ _ hc =>
    exact ⟨_, httpServerHandleReceivedBuf_grow hjunk hc.holds hfit, storedCtx_holds _ _ _,
      hc.notCompleted, hc.contentLen, hc.expectedLen, hc.notReady⟩
  | waiting _ hpre _ _ _ _ _ _ _ _ => exact absurd hpre.length_le (by omega)

/-- A fragment that takes the received bytes above the maximum ends the reception. -/
theorem Pending.reject_large (hp : Pending h b v ctx) (hshort : v.length < h.length)
    (hlarge : httpServerMaxRequestSize < (v ++ d).length) :
    httpServerHandleReceivedBuf heap d ctx = (false, ctx) := by
  rw [List.length_append] at hlarge
  cases hp with
  | zero hv hz =>
    subst hv hz
    exact httpServerHandleReceivedBuf_first_reject heap (by simpa using hlarge)
  | collecting _ _ hc => exact httpServerHandleReceivedBuf_grow_reject heap hc.holds hlarge
  | waiting _ hpre _ _ _ _ _ _ _ _ => exact absurd hpre.length_le (by omega)

/-- A fragment that crosses the end of the request, the header being complete, is rejected. -/
theorem Pending.reject_crossing (hp : Pending h b v ctx) (hlong : h.length ≤ v.length)
    (hpos : 0 < h.length) (hcross : (h ++ b).length < (v ++ d).length) :
    httpServerHandleReceivedBuf heap d ctx = (false, ctx) := by
  have hvd : (v ++ d).length = v.length + d.length := List.length_append
  cases hp with
  | zero hv _ =>
    subst hv
    exact absurd hlong (by rw [List.length_nil]; omega)
  | collecting _ hlt _ => exact absurd hlong (by omega)
  | waiting pad _ hroom hctx hsize _ _ _ _ _ =>
    exact httpServerHandleReceivedBuf_fit_reject heap hctx hroom (by omega)

/-- A fragment that leaves the request incomplete is stored. -/
theorem Pending.step (hr : Request h b) (hp : Pending h b v ctx) (hheap : heap.Succeed)
    (hin : v ++ d <+: h ++ b) (hlt : (v ++ d).length < (h ++ b).length)
    (hfit : v.length < h.length → (v ++ d).length ≤ httpServerMaxRequestSize) :
    ∃ ctx', httpServerHandleReceivedBuf heap d ctx = (true, ctx') ∧ Pending h b (v ++ d) ctx' := by
  by_cases hshort : v.length < h.length
  · obtain ⟨ctx₁, hstore, hcol⟩ := hp.store hshort hheap (hfit hshort)
    rw [hstore]
    by_cases hpart : (v ++ d).length < h.length
    · have hpre : v ++ d <+: h :=
        List.prefix_of_prefix_length_le hin (List.prefix_append h b) hpart.le
      exact ⟨ctx₁, handleHeader_collecting hr hpre hpart hcol, .collecting hpre hpart hcol⟩
    · have hpre : h <+: v ++ d :=
        List.prefix_of_prefix_length_le (List.prefix_append h b) hin (Nat.not_lt.mp hpart)
      obtain ⟨t, ht⟩ := hpre
      rw [← ht] at hcol hlt ⊢
      have htlt : t.length < b.length := by simpa using hlt
      exact handleHeader_partial hr hheap.2 htlt hcol
  · cases hp with
    | zero hv _ =>
      subst hv
      exact absurd hr.header.length_pos hshort
    | collecting _ hlt' _ => exact absurd hlt' hshort
    | waiting pad hpre hroom hctx hsize hcomp hheader hlen hexp hready =>
      have hvd : (v ++ d).length = v.length + d.length := List.length_append
      have hne : b.length ≠ 0 := by
        intro hzero
        have hle := hpre.length_le
        have hhb : (h ++ b).length = h.length + b.length := List.length_append
        omega
      have hd : d.length ≤ pad.length := by omega
      have hstore := httpServerHandleReceivedBuf_fit heap hctx hroom hd
      have hbody := handleHeader_stored_wait heap.content (pad.drop d.length) hcomp (hlen ▸ hne)
        (hexp ▸ hlt)
      refine ⟨_, hstore.trans hbody, .waiting (pad.drop d.length) ?_ ?_ (storedCtx_holds _ _ _) ?_
        hcomp hheader hlen hexp hready⟩
      · exact hpre.trans (List.prefix_append v d)
      · intro hnil
        have := List.drop_eq_nil_iff.mp hnil
        omega
      · simp only [List.length_append, List.length_drop] at hsize ⊢
        omega

/-- The fragment that completes the request is stored, unless it crosses the end of a request whose
header has arrived before it. -/
theorem Pending.finish (hr : Request h b) (hp : Pending h b v ctx) (hheap : heap.Succeed) {t : Bytes}
    (hv : v.length < (h ++ b).length) (heq : v ++ d = h ++ t) (ht : b <+: t)
    (hfit : v.length < h.length → (v ++ d).length ≤ httpServerMaxRequestSize)
    (hend : h.length ≤ v.length → t = b) :
    ∃ ctx', httpServerHandleReceivedBuf heap d ctx = (true, ctx') ∧
      Complete h b (completedBuf h b t).1 (completedBuf h b t).2 ctx' := by
  by_cases hshort : v.length < h.length
  · obtain ⟨ctx₁, hstore, hcol⟩ := hp.store hshort hheap (hfit hshort)
    rw [hstore]
    rw [heq] at hcol
    exact handleHeader_complete hr hheap.2 ht hcol
  · obtain rfl := hend (Nat.not_lt.mp hshort)
    have hbuf : completedBuf h t t = (h ++ t, 0) := by
      simp [completedBuf]
    cases hp with
    | zero hv _ =>
      subst hv
      exact absurd hr.header.length_pos hshort
    | collecting _ hlt' _ => exact absurd hlt' hshort
    | waiting pad hpre hroom hctx hsize hcomp hheader hlen hexp hready =>
      have hd : d.length = pad.length := by
        have hvd : (v ++ d).length = v.length + d.length := List.length_append
        rw [heq] at hvd
        omega
      have hne : t.length ≠ 0 := by
        intro hzero
        have := hpre.length_le
        rw [List.length_append] at hv
        omega
      have hstore := httpServerHandleReceivedBuf_fit heap hctx hroom hd.le
      rw [List.drop_of_length_le hd.ge, heq] at hstore
      have hbody := handleHeader_stored_ready heap.content [] hcomp (hlen ▸ hne) hexp.le
      rw [hbuf]
      exact ⟨_, hstore.trans hbody, ⟨rfl, rfl, rfl⟩, List.prefix_append h t, rfl, hcomp, hheader, hlen,
        hexp.le⟩

end Step

/-! ### Feeding fragments one by one -/

/-- `http_server_handle_received_buf` on each fragment; `none` once it has returned false. -/
def feed : List Fragment → HttpServerRecvCtx → Option HttpServerRecvCtx
  | [], ctx => some ctx
  | fragment :: fragments, ctx =>
    let res := httpServerHandleReceivedBuf fragment.heap fragment.data ctx
    if res.1 then feed fragments res.2 else none

def received (fragments : List Fragment) : Bytes := (fragments.map Fragment.data).flatten

/-- Behind `v`, the fragments up to the one that completes the header stay within the maximum. -/
def HeaderFits (h v : Bytes) (fragments : List Fragment) : Prop :=
  ∀ k < fragments.length, (v ++ received (fragments.take k)).length < h.length →
    (v ++ received (fragments.take (k + 1))).length ≤ httpServerMaxRequestSize

@[simp] theorem received_nil : received [] = [] := rfl

@[simp] theorem received_cons (fragment : Fragment) (fragments : List Fragment) :
    received (fragment :: fragments) = fragment.data ++ received fragments := rfl

@[simp] theorem received_append (fs gs : List Fragment) :
    received (fs ++ gs) = received fs ++ received gs := by
  simp [received]

theorem received_length_pos {fs : List Fragment} (hne : ∀ f ∈ fs, f.data ≠ []) (hfs : fs ≠ []) :
    0 < (received fs).length := by
  obtain ⟨f, fs, rfl⟩ := List.exists_cons_of_ne_nil hfs
  have hf := List.length_pos_iff.mpr (hne f List.mem_cons_self)
  rw [received_cons, List.length_append]
  omega

theorem HeaderFits.head {v : Bytes} {f : Fragment} {fs : List Fragment}
    (hfit : HeaderFits h v (f :: fs)) (hlt : v.length < h.length) :
    (v ++ f.data).length ≤ httpServerMaxRequestSize := by
  have := hfit 0 (by simp) (by simpa using hlt)
  simpa using this

theorem HeaderFits.tail {v : Bytes} {f : Fragment} {fs : List Fragment}
    (hfit : HeaderFits h v (f :: fs)) : HeaderFits h (v ++ f.data) fs := by
  intro k hk hlt
  have := hfit (k + 1) (by simpa using hk)
  simp only [List.take_succ_cons, received_cons, ← List.append_assoc] at this
  exact this hlt

theorem HeaderFits.left {v : Bytes} {fs gs : List Fragment} (hfit : HeaderFits h v (fs ++ gs)) :
    HeaderFits h v fs := by
  intro k hk hlt
  have hpre : ∀ j ≤ fs.length, (fs ++ gs).take j = fs.take j := fun j hj =>
    List.take_append_of_le_length hj
  have := hfit k (by rw [List.length_append]; omega)
  rw [hpre k hk.le, hpre (k + 1) hk] at this
  exact this hlt

theorem HeaderFits.right {v : Bytes} {fs gs : List Fragment} (hfit : HeaderFits h v (fs ++ gs)) :
    HeaderFits h (v ++ received fs) gs := by
  induction fs generalizing v with
  | nil => simpa using hfit
  | cons f fs ih =>
    have := ih hfit.tail
    rwa [List.append_assoc] at this

theorem HeaderFits.cons {v : Bytes} {f : Fragment} {fs : List Fragment}
    (hfit : HeaderFits h (v ++ f.data) fs)
    (hf : v.length < h.length → (v ++ f.data).length ≤ httpServerMaxRequestSize) :
    HeaderFits h v (f :: fs) := by
  intro k hk hlt
  cases k with
  | zero => simpa using hf (by simpa using hlt)
  | succ k =>
    simp only [List.take_succ_cons, received_cons, ← List.append_assoc] at hlt ⊢
    exact hfit k (by simpa using hk) hlt

theorem HeaderFits.append {v : Bytes} {fs gs : List Fragment} (hfs : HeaderFits h v fs)
    (hgs : HeaderFits h (v ++ received fs) gs) : HeaderFits h v (fs ++ gs) := by
  induction fs generalizing v with
  | nil => simpa using hgs
  | cons f fs ih =>
    rw [received_cons, ← List.append_assoc] at hgs
    exact (ih hfs.tail hgs).cons hfs.head

theorem feed_append (fs gs : List Fragment) (ctx : HttpServerRecvCtx) :
    feed (fs ++ gs) ctx = (feed fs ctx).bind (feed gs) := by
  induction fs generalizing ctx with
  | nil => rfl
  | cons f fs ih =>
    simp only [List.cons_append, feed]
    split
    · exact ih _
    · rfl

/-- Fragments that leave the request incomplete are stored one behind the other. -/
theorem feed_pending (hr : Request h b) {fs : List Fragment} {v : Bytes} {ctx : HttpServerRecvCtx}
    (hp : Pending h b v ctx) (hheap : ∀ f ∈ fs, f.heap.Succeed)
    (hin : v ++ received fs <+: h ++ b) (hlt : (v ++ received fs).length < (h ++ b).length)
    (hfit : HeaderFits h v fs) :
    ∃ ctx', feed fs ctx = some ctx' ∧ Pending h b (v ++ received fs) ctx' := by
  induction fs generalizing v ctx with
  | nil => exact ⟨ctx, rfl, by simpa using hp⟩
  | cons f fs ih =>
    rw [received_cons, ← List.append_assoc] at hin hlt ⊢
    have hpre : v ++ f.data <+: v ++ f.data ++ received fs := List.prefix_append _ _
    obtain ⟨ctx₁, hstep, hp₁⟩ := hp.step hr (hheap f List.mem_cons_self) (hpre.trans hin)
      (lt_of_le_of_lt hpre.length_le hlt) hfit.head
    obtain ⟨ctx₂, hrun, hp₂⟩ := ih hp₁ (fun g hg => hheap g (List.mem_cons_of_mem f hg)) hin hlt
      hfit.tail
    exact ⟨ctx₂, by simp [feed, hstep, hrun], hp₂⟩

/-- A request cut into non-empty fragments is reassembled: every fragment is accepted, the last one
and no other makes the request ready, and the block then holds the request and its terminator. -/
theorem feed_reassembles (hr : Request h b) {fs : List Fragment} (hcut : received fs = h ++ b)
    (hne : ∀ f ∈ fs, f.data ≠ []) (hheap : ∀ f ∈ fs, f.heap.Succeed) (hfit : HeaderFits h [] fs) :
    (∀ k ≤ fs.length, ∃ ctx, feed (fs.take k) HttpServerRecvCtx.zero = some ctx ∧
      (ctx.isReady = true ↔ k = fs.length)) ∧
    ∃ ctx, feed fs HttpServerRecvCtx.zero = some ctx ∧
      ctx.reqBuf = some (h ++ b ++ [0]) ∧ ctx.accumLen = (h ++ b).length := by
  have hproper : ∀ k < fs.length, ∃ ctx, feed (fs.take k) HttpServerRecvCtx.zero = some ctx ∧
      Pending h b (received (fs.take k)) ctx ∧ (received (fs.take k)).length < (h ++ b).length := by
    intro k hk
    have hsplit : received (fs.take k) ++ received (fs.drop k) = h ++ b := by
      rw [← received_append, List.take_append_drop, hcut]
    have hpos : 0 < (received (fs.drop k)).length := by
      apply received_length_pos (fun f hf => hne f (List.mem_of_mem_drop hf))
      intro hnil
      have := List.drop_eq_nil_iff.mp hnil
      omega
    have hlt : (received (fs.take k)).length < (h ++ b).length := by
      rw [← hsplit, List.length_append]
      omega
    have hfit' : HeaderFits h [] (fs.take k ++ fs.drop k) := by rwa [List.take_append_drop]
    obtain ⟨ctx, hfeed, hp⟩ := feed_pending hr (.zero rfl rfl)
      (fun f hf => hheap f (List.mem_of_mem_take hf)) (by rw [List.nil_append]; exact ⟨_, hsplit⟩)
      (by rwa [List.nil_append]) hfit'.left
    exact ⟨ctx, hfeed, by simpa using hp, hlt⟩
  have hfs : fs ≠ [] := by
    rintro rfl
    have := hr.header.length_pos
    rw [received_nil] at hcut
    rw [(List.append_eq_nil_iff.mp hcut.symm).1] at this
    exact absurd this (by simp)
  have hlast : ∃ ctx, feed fs HttpServerRecvCtx.zero = some ctx ∧
      Complete h b (h ++ b) 0 ctx := by
    obtain ⟨init, f, rfl⟩ := List.eq_nil_or_concat' fs |>.resolve_left hfs
    have hk : init.length < (init ++ [f]).length := by simp
    obtain ⟨ctx, hfeed, hp, hlt⟩ := hproper init.length hk
    rw [List.take_left] at hfeed hp hlt
    have heq : received init ++ f.data = h ++ b := by simpa using hcut
    have hbuf : completedBuf h b b = (h ++ b, 0) := by simp [completedBuf]
    obtain ⟨ctx', hstep, hc⟩ := hp.finish hr (hheap f (by simp)) hlt heq (List.prefix_refl b)
      (by simpa using hfit.right.head) (fun _ => rfl)
    rw [hbuf] at hc
    refine ⟨ctx', ?_, hc⟩
    rw [feed_append, hfeed, Option.bind_some]
    simp [feed, hstep]
  obtain ⟨last, hfeed, hc⟩ := hlast
  refine ⟨?_, last, hfeed, ?_, hc.holds.accumLen⟩
  · intro k hk
    rcases Nat.lt_or_eq_of_le hk with hlt | rfl
    · obtain ⟨ctx, hctx, hp, -⟩ := hproper k hlt
      refine ⟨ctx, hctx, ?_⟩
      simp only [hp.notReady, Bool.false_eq_true, false_iff]
      omega
    · exact ⟨last, by rw [List.take_length]; exact hfeed, by simp [hc.isReady]⟩
  · exact hc.holds.reqBuf

/-- An allocator that succeeds and hands out dirty memory. -/
def dirtyHeap : HeapAnswers := ⟨some fun _ => 255, some fun _ => 255⟩

/-- The small request, cut inside its header mark and inside its body. -/
def postFragments : List Fragment :=
  [⟨postHeader.take 40, dirtyHeap⟩, ⟨postHeader.drop 40 ++ postBody.take 1, dirtyHeap⟩,
    ⟨postBody.drop 1, dirtyHeap⟩]

theorem feed_reassembles_post :
    (∀ k ≤ postFragments.length,
      ∃ ctx, feed (postFragments.take k) HttpServerRecvCtx.zero = some ctx ∧
        (ctx.isReady = true ↔ k = postFragments.length)) ∧
    ∃ ctx, feed postFragments HttpServerRecvCtx.zero = some ctx ∧
      ctx.reqBuf = some (postHeader ++ postBody ++ [0]) ∧
      ctx.accumLen = (postHeader ++ postBody).length := by
  apply feed_reassembles postRequest
  · decide
  · decide
  · simp [postFragments, HeapAnswers.Succeed, dirtyHeap]
  · unfold HeaderFits
    decide

end HandleConn
end Esp32WifiManager
