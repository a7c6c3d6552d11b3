import Esp32WifiManager.HttpServer.Reassembly

/-!
# Data behind the request

The bytes that come behind a complete request are handled by three different
paths, and none of them writes a terminator at the end of the request. Which
byte ends up there depends on how the excess data was cut into fragments.
-/

namespace Esp32WifiManager
namespace HandleConn

open CString HttpReq

variable {h b : Bytes}

/-! ### Fragments of one netbuf -/

/-- The netbuf loop on the context alone. -/
def handleFragments : List Fragment → HttpServerRecvCtx → Bool × HttpServerRecvCtx
  | [], ctx => (true, ctx)
  | fragment :: fragments, ctx =>
    let res := httpServerHandleReceivedBuf fragment.heap fragment.data ctx
    if res.1 then handleFragments fragments res.2 else res

theorem handleFragments_of_feed {fs : List Fragment} {ctx ctx' : HttpServerRecvCtx}
    (hfeed : feed fs ctx = some ctx') (gs : List Fragment) :
    handleFragments (fs ++ gs) ctx = handleFragments gs ctx' := by
  induction fs generalizing ctx with
  | nil =>
    obtain rfl : ctx = ctx' := by simpa [feed] using hfeed
    rfl
  | cons f fs ih =>
    simp only [feed] at hfeed
    split at hfeed
    · next hok => simpa [handleFragments, hok] using ih hfeed
    · exact absurd hfeed (by simp)

/-! ### A complete request -/

section Complete

variable {heap : HeapAnswers} {w g : Bytes} {x : UInt8} {ctx : HttpServerRecvCtx}

/-- A fragment behind the request that would exceed the maximum changes nothing. -/
theorem Complete.reject (hc : Complete h b w x ctx)
    (hlarge : httpServerMaxRequestSize < w.length + g.length) :
    httpServerHandleReceivedBuf heap g ctx = (false, ctx) :=
  httpServerHandleReceivedBuf_grow_reject heap hc.holds hlarge

/-- Behind a body, and behind a header without `Content-Length`, a fragment lengthens the request. -/
theorem Complete.append (hr : Request h b) (hc : Complete h b w x ctx) (hheap : heap.Succeed)
    (hkind : b ≠ [] ∨ declares h = false) (hfit : w.length + g.length ≤ httpServerMaxRequestSize) :
    ∃ ctx', httpServerHandleReceivedBuf heap g ctx = (true, ctx') ∧
      Complete h b (w ++ g) 0 ctx' := by
  obtain ⟨junk, hjunk⟩ := Option.isSome_iff_exists.mp hheap.1
  rw [httpServerHandleReceivedBuf_grow hjunk hc.holds hfit]
  have hexp : ctx.expectedLen ≤ (w ++ g).length := by
    have := hc.expectedLen
    rw [List.length_append]
    omega
  have hpre : h <+: w ++ g := hc.isPrefix.trans (List.prefix_append w g)
  by_cases hb : b = []
  · have hdecl : declares h = false := hkind.resolve_left (fun hne => hne hb)
    have hlen : ctx.contentLen = 0 := by rw [hc.contentLen, hb]; rfl
    obtain ⟨t, ht⟩ := hpre
    have hmem : (storedCtx ctx (w ++ g) []).mem = h ++ (t ++ [0]) := by
      rw [(storedCtx_holds ctx (w ++ g) []).mem_eq, ← ht, List.append_assoc]
    have hfield : contentLenField (storedCtx ctx (w ++ g) []) = none := by
      rw [contentLenField_of_header hr.header.nulFree hmem (by simp) hc.headerLen]
      simpa [declares] using hdecl
    refine ⟨_, handleHeader_noField heap.content hc.completed hlen hfield, ?_⟩
    exact ⟨⟨rfl, rfl, rfl⟩, ⟨t, ht⟩, rfl, hc.completed, hc.headerLen, hc.contentLen, hexp⟩
  · have hlen : ctx.contentLen ≠ 0 := by
      rw [hc.contentLen]
      exact fun hzero => hb (List.length_eq_zero_iff.mp hzero)
    refine ⟨_, handleHeader_stored_ready heap.content [] hc.completed hlen hexp, ?_⟩
    exact ⟨⟨rfl, rfl, rfl⟩, hpre, rfl, hc.completed, hc.headerLen, hc.contentLen, hexp⟩

/-- Behind a header that declares no body a fragment is cut off again, all but its first byte. -/
theorem Complete.trim (hr : Request h []) (hc : Complete h [] h x ctx) (hheap : heap.Succeed)
    (hdecl : declares h = true) (hg : g ≠ [])
    (hfit : h.length + g.length ≤ httpServerMaxRequestSize) :
    ∃ ctx', httpServerHandleReceivedBuf heap g ctx = (true, ctx') ∧
      Complete h [] h (g.headD 0) ctx' := by
  obtain ⟨junk, hjunk⟩ := Option.isSome_iff_exists.mp hheap.1
  obtain ⟨junk', hjunk'⟩ := Option.isSome_iff_exists.mp hheap.2
  rw [httpServerHandleReceivedBuf_grow hjunk hc.holds hfit]
  set ctx₁ := storedCtx ctx (h ++ g) []
  have hholds : Holds (h ++ g) 0 [] ctx₁ := storedCtx_holds ctx (h ++ g) []
  have hmem : ctx₁.mem = h ++ (g ++ [0]) := by rw [hholds.mem_eq, List.append_assoc]
  have hcomp : ctx₁.isHeaderCompleted = true := hc.completed
  have hlook := contentLenField_of_header hr.header.nulFree hmem (by simp) hc.headerLen
  have hlen : ctx₁.contentLen = 0 := hc.contentLen
  have hheader : ctx₁.headerLen = h.length := hc.headerLen
  rcases hr.framing_cases with ⟨field, -, hfield, hvalue, hmax⟩ | ⟨hnot, -, -⟩
  · rw [hfield] at hlook
    have hn : strtoul (ctx₁.mem.drop field.ptr) = 0 := by rw [hmem]; exact hvalue _
    obtain ⟨y, u, rfl⟩ := List.exists_cons_of_ne_nil hg
    refine ⟨_, handleHeader_trim hjunk' hcomp hlen hlook hn hmax hholds rfl hheader.symm, ?_⟩
    exact ⟨⟨rfl, rfl, rfl⟩, List.prefix_refl h, rfl, hcomp, hheader, rfl, hheader.le⟩
  · rw [hdecl] at hnot
    exact absurd hnot (by simp)

end Complete

/-! ### The rest of the netbuf that completes the request -/

/-- The fragments that are stored behind a request of `len` bytes, as long as they fit. -/
def storedBehind (len : ℕ) (fragments : List Fragment) : List Bytes :=
  (fragments.map Fragment.data).takeWhile (fun g => len + g.length ≤ httpServerMaxRequestSize)

/-- The byte right behind the request when the netbuf that completed it has been handled: `part` is
what its completing fragment brought beyond the request, `fragments` what came in the same netbuf. -/
def byteBehind (h b part : Bytes) (fragments : List Fragment) : UInt8 :=
  let behind := storedBehind (h ++ b).length fragments
  if !declares h then (part ++ behind.head?.getD []).headD 0
  else if b = [] then (behind.getLast?.getD [] ++ part).headD 0
  else (behind.head?.getD [] ++ part).headD 0

theorem storedBehind_cons_of_le {len : ℕ} {g : Fragment} (gs : List Fragment)
    (hfit : len + g.data.length ≤ httpServerMaxRequestSize) :
    storedBehind len (g :: gs) = g.data :: storedBehind len gs := by
  simp [storedBehind, hfit]

theorem storedBehind_cons_of_lt {len : ℕ} {g : Fragment} (gs : List Fragment)
    (hlarge : httpServerMaxRequestSize < len + g.data.length) :
    storedBehind len (g :: gs) = [] := by
  simp [storedBehind, hlarge]

theorem ne_nil_of_mem_storedBehind {len : ℕ} {gs : List Fragment} (hne : ∀ g ∈ gs, g.data ≠ [])
    {z : Bytes} (hz : z ∈ storedBehind len gs) : z ≠ [] := by
  obtain ⟨g, hg, rfl⟩ := List.mem_map.mp ((List.takeWhile_prefix _).subset hz)
  exact hne g hg

theorem headD_append {z : Bytes} (hz : z ≠ []) (t : Bytes) : (z ++ t).headD 0 = z.headD 0 := by
  obtain ⟨y, u, rfl⟩ := List.exists_cons_of_ne_nil hz
  rfl

section Rest

variable {ctx : HttpServerRecvCtx} {w : Bytes} {x : UInt8}

/-- Whatever follows, the block keeps what it holds, up to the byte behind it. -/
theorem Complete.rest_append (hr : Request h b) (hc : Complete h b w x ctx)
    (hkind : b ≠ [] ∨ declares h = false) {gs : List Fragment} (hheap : ∀ g ∈ gs, g.heap.Succeed)
    (hne : ∀ g ∈ gs, g.data ≠ []) :
    ∃ w' x' t, Complete h b w' x' (handleFragments gs ctx).2 ∧ w' ++ [x'] = w ++ t ∧
      t.head? = some (((storedBehind w.length gs).head?.getD [] ++ [x]).headD 0) := by
  induction gs generalizing ctx w x with
  | nil => exact ⟨w, x, [x], hc, rfl, rfl⟩
  | cons g gs ih =>
    by_cases hfit : w.length + g.data.length ≤ httpServerMaxRequestSize
    · obtain ⟨ctx₁, hstep, hc₁⟩ := hc.append hr (hheap g List.mem_cons_self) hkind hfit
      obtain ⟨w', x', t, hc', ht, -⟩ := ih hc₁ (fun f hf => hheap f (List.mem_cons_of_mem g hf))
        (fun f hf => hne f (List.mem_cons_of_mem g hf))
      obtain ⟨y, u, hy⟩ := List.exists_cons_of_ne_nil (hne g List.mem_cons_self)
      have hhead : ((storedBehind w.length (g :: gs)).head?.getD [] ++ [x]).headD 0 = y := by
        rw [storedBehind_cons_of_le gs hfit, hy]
        rfl
      have hrun : handleFragments (g :: gs) ctx = handleFragments gs ctx₁ := by
        simp [handleFragments, hstep]
      rw [hrun, hhead]
      exact ⟨w', x', g.data ++ t, hc', by rw [ht, List.append_assoc], by rw [hy]; rfl⟩
    · have hrun : handleFragments (g :: gs) ctx = (false, ctx) := by
        simp [handleFragments, hc.reject (Nat.not_le.mp hfit)]
      have hhead : ((storedBehind w.length (g :: gs)).head?.getD [] ++ [x]).headD 0 = x := by
        rw [storedBehind_cons_of_lt gs (Nat.not_le.mp hfit)]
        rfl
      rw [hrun, hhead]
      exact ⟨w, x, [x], hc, rfl, rfl⟩

theorem Complete.rest_trim (hr : Request h []) (hc : Complete h [] h x ctx)
    (hdecl : declares h = true) {gs : List Fragment} (hheap : ∀ g ∈ gs, g.heap.Succeed)
    (hne : ∀ g ∈ gs, g.data ≠ []) :
    Complete h [] h (((storedBehind h.length gs).getLast?.getD [] ++ [x]).headD 0)
      (handleFragments gs ctx).2 := by
  induction gs generalizing ctx x with
  | nil => exact hc
  | cons g gs ih =>
    by_cases hfit : h.length + g.data.length ≤ httpServerMaxRequestSize
    · have hg := hne g List.mem_cons_self
      obtain ⟨ctx₁, hstep, hc₁⟩ := hc.trim hr (hheap g List.mem_cons_self) hdecl hg hfit
      have hc' := ih hc₁ (fun f hf => hheap f (List.mem_cons_of_mem g hf))
        (fun f hf => hne f (List.mem_cons_of_mem g hf))
      have hrun : handleFragments (g :: gs) ctx = handleFragments gs ctx₁ := by
        simp [handleFragments, hstep]
      have hlast : ((storedBehind h.length (g :: gs)).getLast?.getD [] ++ [x]).headD 0 =
          ((storedBehind h.length gs).getLast?.getD [] ++ [g.data.headD 0]).headD 0 := by
        rw [storedBehind_cons_of_le gs hfit, List.getLast?_cons]
        cases hlast : (storedBehind h.length gs).getLast? with
        | none => exact headD_append hg _
        | some z =>
          have hz := ne_nil_of_mem_storedBehind (fun f hf => hne f (List.mem_cons_of_mem g hf))
            (List.mem_of_getLast? hlast)
          exact (headD_append hz _).trans (headD_append hz _).symm
      rw [hrun, hlast]
      exact hc'
    · have hrun : handleFragments (g :: gs) ctx = (false, ctx) := by
        simp [handleFragments, hc.reject (Nat.not_le.mp hfit)]
      have hlast : ((storedBehind h.length (g :: gs)).getLast?.getD [] ++ [x]).headD 0 = x := by
        rw [storedBehind_cons_of_lt gs (Nat.not_le.mp hfit)]
        rfl
      rw [hrun, hlast]
      exact hc

theorem headD_append_headD (z p : Bytes) : (z ++ [p.headD 0]).headD 0 = (z ++ p).headD 0 := by
  cases z with
  | nil => rfl
  | cons y u => rfl

/-- The block at the end of the netbuf that completed the request. -/
theorem Complete.rest (hr : Request h b) {part : Bytes}
    (hc : Complete h b (completedBuf h b (b ++ part)).1 (completedBuf h b (b ++ part)).2 ctx)
    {gs : List Fragment} (hheap : ∀ g ∈ gs, g.heap.Succeed) (hne : ∀ g ∈ gs, g.data ≠ []) :
    (handleFragments gs ctx).2.isReady = true ∧
    ∃ t, (handleFragments gs ctx).2.reqBuf = some (h ++ b ++ t) ∧
      t.head? = some (byteBehind h b part gs) := by
  rcases hr.framing_cases with ⟨-, hdecl, -, -, -⟩ | ⟨hdecl, -, rfl⟩
  · have hbuf : completedBuf h b (b ++ part) = (h ++ b, part.headD 0) := by
      simp [completedBuf, hdecl]
    simp only [hbuf] at hc
    by_cases hb : b = []
    · subst hb
      rw [List.append_nil] at hc
      have hlast := hc.rest_trim hr hdecl hheap hne
      have hbyte : ((storedBehind h.length gs).getLast?.getD [] ++ [part.headD 0]).headD 0 =
          byteBehind h [] part gs := by
        rw [headD_append_headD]
        simp [byteBehind, hdecl]
      rw [hbyte] at hlast
      refine ⟨hlast.isReady, [byteBehind h [] part gs], ?_, rfl⟩
      rw [List.append_nil]
      exact hlast.holds.reqBuf
    · obtain ⟨w', x', t, hlast, ht, hhead⟩ := hc.rest_append hr (Or.inl hb) hheap hne
      refine ⟨hlast.isReady, t, ?_, ?_⟩
      · rw [← ht]
        exact hlast.holds.reqBuf
      · rw [hhead, headD_append_headD]
        simp [byteBehind, hdecl, hb]
  · have hbuf : completedBuf h [] ([] ++ part) = (h ++ part, 0) := by simp [completedBuf, hdecl]
    simp only [hbuf] at hc
    obtain ⟨w', x', t, hlast, ht, hhead⟩ := hc.rest_append hr (Or.inr hdecl) hheap hne
    refine ⟨hlast.isReady, part ++ t, ?_, ?_⟩
    · rw [List.append_nil, ← List.append_assoc, ← ht]
      exact hlast.holds.reqBuf
    · have hbyte : byteBehind h [] part gs =
          (part ++ (storedBehind h.length gs).head?.getD []).headD 0 := by
        simp [byteBehind, hdecl]
      rw [hbyte]
      cases part with
      | nil =>
        rw [List.append_nil] at hhead
        exact hhead.trans (congrArg some ((headD_append_headD _ []).trans (by simp)))
      | cons y u => rfl

end Rest

/-! ### The netbufs of a connection -/

/-- A netbuf has at least one fragment. -/
structure Netbuf where
  first : Fragment
  rest : List Fragment

def Netbuf.fragments (netbuf : Netbuf) : List Fragment := netbuf.first :: netbuf.rest

def Netbuf.recv (netbuf : Netbuf) : NetconnRecv := .ok (some netbuf.first) (netbuf.rest.map some)

/-- The connection brings the netbufs in time, and without errors. -/
structure Delivers (conn : Connection) (netbufs : List Netbuf) : Prop where
  tcp : conn.isPcbTcpNull = false
  recv : conn.attempts.map Attempt.recv = netbufs.map Netbuf.recv
  inTime : ∀ attempt ∈ conn.attempts,
    attempt.elapsedTicks ≤ pdMsToTicks conn.configTickRateHz httpServerRequestTimeoutMs

/-- The handler is called on a block that starts with the string `r` and its terminator. -/
def Serves (conn : Connection) (r : Bytes) : Prop :=
  ∃ reception mem, httpServerNetconnServe conn = some reception ∧
    reception.ctx.reqBuf = some mem ∧ text mem = r ∧ mem[r.length]? = some 0

/-- The receive loop on the context alone, without errors and timeouts. -/
def receiveNetbufs : List (List Fragment) → HttpServerRecvCtx → HttpServerRecvCtx
  | [], ctx => ctx
  | fragments :: netbufs, ctx =>
    if ctx.isReady then ctx
    else
      let res := handleFragments fragments ctx
      if res.1 then receiveNetbufs netbufs res.2 else res.2

theorem receiveNetbufs_of_isReady {ctx : HttpServerRecvCtx} (hready : ctx.isReady = true)
    (netbufs : List (List Fragment)) : receiveNetbufs netbufs ctx = ctx := by
  cases netbufs with
  | nil => rfl
  | cons fs netbufs => simp [receiveNetbufs, hready]

theorem handleNetbuf_fragments (f : Fragment) (fs : List Fragment) (r : Reception) :
    (handleNetbuf (some f) (fs.map some) r).1 = (handleFragments (f :: fs) r.ctx).1 ∧
    (handleNetbuf (some f) (fs.map some) r).2.ctx = (handleFragments (f :: fs) r.ctx).2 := by
  induction fs generalizing f r with
  | nil =>
    cases hres : (httpServerHandleReceivedBuf f.heap f.data r.ctx).1 <;>
      simp [handleNetbuf, handleFragments, Reception.handle, hres]
  | cons g gs ih =>
    cases hres : (httpServerHandleReceivedBuf f.heap f.data r.ctx).1 with
    | false => simp [handleNetbuf, handleFragments, Reception.handle, hres]
    | true =>
      have := ih g (r.handle f).2
      simpa [handleNetbuf, handleFragments, Reception.handle, hres] using this

theorem timeoutTicks_ge (configTickRateHz : ℕ) (ctx : HttpServerRecvCtx) :
    pdMsToTicks configTickRateHz httpServerRequestTimeoutMs ≤ timeoutTicks configTickRateHz ctx := by
  unfold timeoutTicks
  split
  · exact Nat.div_le_div_right (Nat.mul_le_mul_right _ (by decide))
  · exact le_rfl

theorem receiveLoop_netbufs {configTickRateHz : ℕ} {netbufs : List Netbuf}
    {attempts : List Attempt} (hrecv : attempts.map Attempt.recv = netbufs.map Netbuf.recv)
    (htime : ∀ attempt ∈ attempts,
      attempt.elapsedTicks ≤ pdMsToTicks configTickRateHz httpServerRequestTimeoutMs)
    (r : Reception) :
    (receiveLoop configTickRateHz attempts r).ctx =
      receiveNetbufs (netbufs.map Netbuf.fragments) r.ctx := by
  induction netbufs generalizing attempts r with
  | nil =>
    obtain rfl : attempts = [] := by simpa using hrecv
    rfl
  | cons netbuf netbufs ih =>
    cases attempts with
    | nil => simp at hrecv
    | cons attempt attempts =>
      simp only [List.map_cons, List.cons.injEq] at hrecv
      have hintime : ¬ attempt.elapsedTicks > timeoutTicks configTickRateHz r.ctx :=
        Nat.not_lt.mpr ((htime attempt List.mem_cons_self).trans (timeoutTicks_ge _ _))
      obtain ⟨hfst, hsnd⟩ := handleNetbuf_fragments netbuf.first netbuf.rest r
      simp only [receiveLoop, hintime, if_false, hrecv.1, Netbuf.recv, httpServerRecvAndHandle,
        hfst, List.map_cons, receiveNetbufs, Netbuf.fragments]
      cases r.ctx.isReady with
      | true => rfl
      | false =>
        cases hres : (handleFragments (netbuf.first :: netbuf.rest) r.ctx).1 with
        | false => simpa [hres] using hsnd
        | true =>
          have := ih hrecv.2 (fun a ha => htime a (List.mem_cons_of_mem attempt ha))
            (handleNetbuf (some netbuf.first) (netbuf.rest.map some) r).2
          rw [hsnd] at this
          simpa [hres] using this

section Reject

variable {ctx : HttpServerRecvCtx} {v : Bytes}

/-- A netbuf that makes the header exceed the maximum is not handled to its end. -/
theorem handleFragments_reject (hr : Request h b) {fs : List Fragment} (hp : Pending h b v ctx)
    (hheap : ∀ f ∈ fs, f.heap.Succeed) (hin : v ++ received fs <+: h ++ b)
    (hlt : (v ++ received fs).length < (h ++ b).length) (hfit : ¬ HeaderFits h v fs)
    (rest : List Fragment) :
    ∃ ctx', handleFragments (fs ++ rest) ctx = (false, ctx') ∧ ctx'.isReady = false := by
  induction fs generalizing v ctx with
  | nil => exact absurd (fun k hk => absurd hk (by simp)) hfit
  | cons f fs ih =>
    rw [received_cons, ← List.append_assoc] at hin hlt
    by_cases hstep : v.length < h.length → (v ++ f.data).length ≤ httpServerMaxRequestSize
    · have hpre : v ++ f.data <+: v ++ f.data ++ received fs := List.prefix_append _ _
      obtain ⟨ctx₁, hok, hp₁⟩ := hp.step hr (hheap f List.mem_cons_self) (hpre.trans hin)
        (lt_of_le_of_lt hpre.length_le hlt) hstep
      have hfit' : ¬ HeaderFits h (v ++ f.data) fs := fun hfits => hfit (hfits.cons hstep)
      obtain ⟨ctx', hrun, hready⟩ := ih hp₁ (fun g hg => hheap g (List.mem_cons_of_mem f hg)) hin
        hlt hfit'
      exact ⟨ctx', by simpa [handleFragments, hok] using hrun, hready⟩
    · obtain ⟨hshort, hlarge⟩ := Classical.not_imp.mp hstep
      have hrej : httpServerHandleReceivedBuf f.heap f.data ctx = (false, ctx) :=
        hp.reject_large hshort (Nat.not_le.mp hlarge)
      exact ⟨ctx, by simp [handleFragments, hrej], hp.notReady⟩

/-- Netbufs that leave the request incomplete. -/
theorem receiveNetbufs_pending (hr : Request h b) {before : List (List Fragment)}
    (hp : Pending h b v ctx) (hheap : ∀ f ∈ before.flatten, f.heap.Succeed)
    (hin : v ++ received before.flatten <+: h ++ b)
    (hlt : (v ++ received before.flatten).length < (h ++ b).length)
    (hfit : HeaderFits h v before.flatten) (rest : List (List Fragment)) :
    ∃ ctx', receiveNetbufs (before ++ rest) ctx = receiveNetbufs rest ctx' ∧
      Pending h b (v ++ received before.flatten) ctx' := by
  induction before generalizing v ctx with
  | nil => exact ⟨ctx, rfl, by simpa using hp⟩
  | cons fs before ih =>
    rw [List.flatten_cons] at hheap hfit
    rw [List.flatten_cons, received_append, ← List.append_assoc] at hin hlt ⊢
    have hpre : v ++ received fs <+: v ++ received fs ++ received before.flatten :=
      List.prefix_append _ _
    obtain ⟨ctx₁, hfeed, hp₁⟩ := feed_pending hr hp
      (fun f hf => hheap f (List.mem_append_left _ hf)) (hpre.trans hin)
      (lt_of_le_of_lt hpre.length_le hlt) hfit.left
    have hrun : handleFragments fs ctx = (true, ctx₁) := by
      simpa [handleFragments] using handleFragments_of_feed hfeed []
    obtain ⟨ctx₂, hrest, hp₂⟩ := ih hp₁ (fun f hf => hheap f (List.mem_append_right fs hf)) hin hlt
      hfit.right
    exact ⟨ctx₂, by simpa [receiveNetbufs, hp.notReady, hrun] using hrest, hp₂⟩

theorem receiveNetbufs_reject (hr : Request h b) {before : List (List Fragment)}
    (hp : Pending h b v ctx) (hheap : ∀ f ∈ before.flatten, f.heap.Succeed)
    (hin : v ++ received before.flatten <+: h ++ b)
    (hlt : (v ++ received before.flatten).length < (h ++ b).length)
    (hfit : ¬ HeaderFits h v before.flatten) (rest : List (List Fragment)) :
    (receiveNetbufs (before ++ rest) ctx).isReady = false := by
  induction before generalizing v ctx with
  | nil => exact absurd (fun k hk => absurd hk (by simp)) hfit
  | cons fs before ih =>
    rw [List.flatten_cons] at hheap hfit
    rw [List.flatten_cons, received_append, ← List.append_assoc] at hin hlt
    have hpre : v ++ received fs <+: v ++ received fs ++ received before.flatten :=
      List.prefix_append _ _
    have hheap₁ : ∀ f ∈ fs, f.heap.Succeed := fun f hf => hheap f (List.mem_append_left _ hf)
    have hlt₁ := lt_of_le_of_lt hpre.length_le hlt
    by_cases hfirst : HeaderFits h v fs
    · obtain ⟨ctx₁, hfeed, hp₁⟩ := feed_pending hr hp hheap₁ (hpre.trans hin) hlt₁ hfirst
      have hrun : handleFragments fs ctx = (true, ctx₁) := by
        simpa [handleFragments] using handleFragments_of_feed hfeed []
      have := ih hp₁ (fun f hf => hheap f (List.mem_append_right fs hf)) hin hlt
        (fun hfits => hfit (hfirst.append hfits))
      simpa [receiveNetbufs, hp.notReady, hrun] using this
    · obtain ⟨ctx₁, hrun, hready⟩ := handleFragments_reject hr hp hheap₁ (hpre.trans hin) hlt₁
        hfirst []
      rw [List.append_nil] at hrun
      simpa [receiveNetbufs, hp.notReady, hrun] using hready

end Reject

/-! ### The fragment that completes the request -/

/-- The fragments of a connection around one of them. -/
structure Split where
  before : List (List Fragment)
  same : List Fragment
  last : Fragment
  rest : List Fragment
  after : List (List Fragment)

def Split.netbufs (c : Split) : List (List Fragment) :=
  c.before ++ (c.same ++ c.last :: c.rest) :: c.after

def Split.receivedBefore (c : Split) : Bytes := received c.before.flatten ++ received c.same

/-- The fragment `last` completes a request of `len` bytes. -/
def Split.Completes (c : Split) (len : ℕ) : Prop :=
  c.receivedBefore.length < len ∧ len ≤ (c.receivedBefore ++ c.last.data).length

/-- What the completing fragment brings beyond the request. -/
def Split.part (c : Split) (len : ℕ) : Bytes := (c.receivedBefore ++ c.last.data).drop len

/-- The excess data is discarded: the header stays within the maximum together with what arrives in
its last fragment, no fragment crosses the end of the request unless it completes the header, and
the byte that ends up behind the request happens to be a terminator. -/
structure Split.Discards (c : Split) (h b : Bytes) : Prop where
  completes : c.Completes (h ++ b).length
  fits : HeaderFits h [] (c.before.flatten ++ (c.same ++ [c.last]))
  crossing : h.length ≤ c.receivedBefore.length → c.part (h ++ b).length = []
  terminated : byteBehind h b (c.part (h ++ b).length) c.rest = 0

theorem exists_crossing {len : ℕ} {fs : List Fragment} {v : Bytes} (hlt : v.length < len)
    (hle : len ≤ (v ++ received fs).length) :
    ∃ same last rest, fs = same ++ last :: rest ∧ (v ++ received same).length < len ∧
      len ≤ (v ++ received same ++ last.data).length := by
  induction fs generalizing v with
  | nil =>
    rw [received_nil, List.append_nil] at hle
    omega
  | cons f fs ih =>
    rw [received_cons, ← List.append_assoc] at hle
    by_cases hf : len ≤ (v ++ f.data).length
    · exact ⟨[], f, fs, rfl, by simpa using hlt, by simpa using hf⟩
    · obtain ⟨same, last, rest, rfl, hbefore, hlast⟩ := ih (Nat.not_le.mp hf) hle
      exact ⟨f :: same, last, rest, rfl, by simpa using hbefore, by simpa using hlast⟩

/-- Some fragment completes the request. -/
theorem exists_split {len : ℕ} {netbufs : List (List Fragment)} (hpos : 0 < len)
    (hle : len ≤ (received netbufs.flatten).length) :
    ∃ c : Split, c.netbufs = netbufs ∧ c.Completes len := by
  suffices ∀ v : Bytes, v.length < len → len ≤ (v ++ received netbufs.flatten).length →
      ∃ before same last rest after, netbufs = before ++ (same ++ last :: rest) :: after ∧
        (v ++ received before.flatten ++ received same).length < len ∧
        len ≤ (v ++ received before.flatten ++ received same ++ last.data).length by
    obtain ⟨before, same, last, rest, after, rfl, hlt, hge⟩ := this [] hpos (by simpa using hle)
    exact ⟨⟨before, same, last, rest, after⟩, rfl, hlt, hge⟩
  clear hle
  induction netbufs with
  | nil =>
    intro v hlt hle
    rw [List.flatten_nil, received_nil, List.append_nil] at hle
    omega
  | cons fs netbufs ih =>
    intro v hlt hle
    rw [List.flatten_cons, received_append, ← List.append_assoc] at hle
    by_cases hfs : len ≤ (v ++ received fs).length
    · obtain ⟨same, last, rest, rfl, hbefore, hlast⟩ := exists_crossing hlt hfs
      exact ⟨[], same, last, rest, netbufs, rfl, by simpa using hbefore, by simpa using hlast⟩
    · obtain ⟨before, same, last, rest, after, rfl, hbefore, hlast⟩ :=
        ih (v ++ received fs) (Nat.not_le.mp hfs) hle
      exact ⟨fs :: before, same, last, rest, after, rfl, by simpa using hbefore,
        by simpa using hlast⟩

section Split

variable {e : Bytes} {c : Split}

theorem Split.receivedBefore_isPrefix (hcut : received c.netbufs.flatten = h ++ b ++ e)
    (hc : c.Completes (h ++ b).length) : c.receivedBefore <+: h ++ b := by
  have hall : received c.netbufs.flatten =
      c.receivedBefore ++ (c.last.data ++ received (c.rest ++ c.after.flatten)) := by
    simp [Split.netbufs, Split.receivedBefore]
  have hpre : c.receivedBefore <+: h ++ b ++ e := ⟨_, by rw [← hall, hcut]⟩
  exact List.prefix_of_prefix_length_le hpre (List.prefix_append _ e) hc.1.le

theorem Split.part_spec (hcut : received c.netbufs.flatten = h ++ b ++ e)
    (hc : c.Completes (h ++ b).length) :
    c.receivedBefore ++ c.last.data = h ++ (b ++ c.part (h ++ b).length) := by
  have hall : received c.netbufs.flatten =
      c.receivedBefore ++ c.last.data ++ received (c.rest ++ c.after.flatten) := by
    simp [Split.netbufs, Split.receivedBefore]
  have hpre : c.receivedBefore ++ c.last.data <+: h ++ b ++ e := ⟨_, by rw [← hall, hcut]⟩
  obtain ⟨u, hu⟩ := List.prefix_of_prefix_length_le (List.prefix_append (h ++ b) e) hpre hc.2
  rw [Split.part, ← hu, List.drop_left, List.append_assoc]

/-- The reception when the header fits and the completing fragment may complete it. -/
theorem Split.receive (hr : Request h b) (hcut : received c.netbufs.flatten = h ++ b ++ e)
    (hc : c.Completes (h ++ b).length) (hne : ∀ f ∈ c.netbufs.flatten, f.data ≠ [])
    (hheap : ∀ f ∈ c.netbufs.flatten, f.heap.Succeed)
    (hfits : HeaderFits h [] (c.before.flatten ++ (c.same ++ [c.last])))
    (hcross : h.length ≤ c.receivedBefore.length → c.part (h ++ b).length = []) :
    (receiveNetbufs c.netbufs HttpServerRecvCtx.zero).isReady = true ∧
    ∃ t, (receiveNetbufs c.netbufs HttpServerRecvCtx.zero).reqBuf = some (h ++ b ++ t) ∧
      t.head? = some (byteBehind h b (c.part (h ++ b).length) c.rest) := by
  have hpre := Split.receivedBefore_isPrefix hcut hc
  have hspec := Split.part_spec hcut hc
  have hlt := hc.1
  have hpreBefore : received c.before.flatten <+: c.receivedBefore := List.prefix_append _ _
  obtain ⟨ctx₁, hbefore, hp₁⟩ := receiveNetbufs_pending hr (.zero rfl rfl)
    (fun f hf => hheap f (by simp [Split.netbufs, List.mem_flatten.mp hf]))
    (by rw [List.nil_append]; exact hpreBefore.trans hpre)
    (by rw [List.nil_append]; exact lt_of_le_of_lt hpreBefore.length_le hlt) hfits.left
    ((c.same ++ c.last :: c.rest) :: c.after)
  rw [List.nil_append] at hp₁
  have hfits₁ : HeaderFits h (received c.before.flatten) (c.same ++ [c.last]) := by
    simpa using hfits.right
  obtain ⟨ctx₂, hsame, hp₂⟩ := feed_pending hr hp₁
    (fun f hf => hheap f (by simp [Split.netbufs, hf])) hpre hlt hfits₁.left
  obtain ⟨ctx₃, hlast, hdone⟩ := hp₂.finish hr (hheap c.last (by simp [Split.netbufs])) hlt hspec
    (List.prefix_append b _) hfits₁.right.head (fun hlong => by rw [hcross hlong, List.append_nil])
  have hheapRest : ∀ f ∈ c.rest, f.heap.Succeed := fun f hf =>
    hheap f (by simp [Split.netbufs, hf])
  have hneRest : ∀ f ∈ c.rest, f.data ≠ [] := fun f hf => hne f (by simp [Split.netbufs, hf])
  have hrest := hdone.rest hr hheapRest hneRest
  have hrun : handleFragments (c.same ++ c.last :: c.rest) ctx₁ = handleFragments c.rest ctx₃ := by
    rw [handleFragments_of_feed hsame]
    simp [handleFragments, hlast]
  have hend : receiveNetbufs c.netbufs HttpServerRecvCtx.zero = (handleFragments c.rest ctx₃).2 := by
    rw [Split.netbufs, hbefore, receiveNetbufs, hp₁.notReady, hrun]
    cases hres : (handleFragments c.rest ctx₃).1 with
    | false => simp [hres]
    | true => simp [hres, receiveNetbufs_of_isReady hrest.1]
  rw [hend]
  exact hrest

/-- Otherwise the request is rejected. -/
theorem Split.receive_reject (hr : Request h b) (hcut : received c.netbufs.flatten = h ++ b ++ e)
    (hc : c.Completes (h ++ b).length) (hheap : ∀ f ∈ c.netbufs.flatten, f.heap.Succeed)
    (hnot : ¬ (HeaderFits h [] (c.before.flatten ++ (c.same ++ [c.last])) ∧
      (h.length ≤ c.receivedBefore.length → c.part (h ++ b).length = []))) :
    (receiveNetbufs c.netbufs HttpServerRecvCtx.zero).isReady = false := by
  have hpre := Split.receivedBefore_isPrefix hcut hc
  have hspec := Split.part_spec hcut hc
  have hlt := hc.1
  have hpreBefore : received c.before.flatten <+: c.receivedBefore := List.prefix_append _ _
  have hheapBefore : ∀ f ∈ c.before.flatten, f.heap.Succeed := fun f hf =>
    hheap f (by simp [Split.netbufs, List.mem_flatten.mp hf])
  have hheapSame : ∀ f ∈ c.same, f.heap.Succeed := fun f hf =>
    hheap f (by simp [Split.netbufs, hf])
  have hinBefore : [] ++ received c.before.flatten <+: h ++ b := by
    rw [List.nil_append]
    exact hpreBefore.trans hpre
  have hltBefore : ([] ++ received c.before.flatten).length < (h ++ b).length := by
    rw [List.nil_append]
    exact lt_of_le_of_lt hpreBefore.length_le hlt
  by_cases hfits : HeaderFits h [] c.before.flatten
  · obtain ⟨ctx₁, hbefore, hp₁⟩ := receiveNetbufs_pending hr (.zero rfl rfl) hheapBefore hinBefore
      hltBefore hfits ((c.same ++ c.last :: c.rest) :: c.after)
    rw [List.nil_append] at hp₁
    suffices ∃ ctx', handleFragments (c.same ++ c.last :: c.rest) ctx₁ = (false, ctx') ∧
        ctx'.isReady = false by
      obtain ⟨ctx', hrun, hready⟩ := this
      rw [Split.netbufs, hbefore, receiveNetbufs, hp₁.notReady, hrun]
      exact hready
    by_cases hsameFits : HeaderFits h (received c.before.flatten) c.same
    · obtain ⟨ctx₂, hsame, hp₂⟩ := feed_pending hr hp₁ hheapSame hpre hlt hsameFits
      refine ⟨ctx₂, ?_, hp₂.notReady⟩
      suffices httpServerHandleReceivedBuf c.last.heap c.last.data ctx₂ = (false, ctx₂) by
        rw [handleFragments_of_feed hsame]
        simp [handleFragments, this]
      by_cases hshort : c.receivedBefore.length < h.length
      · apply hp₂.reject_large hshort
        by_contra hle
        refine hnot ⟨hfits.append ?_, fun hlong => absurd hlong (Nat.not_le.mpr hshort)⟩
        rw [List.nil_append]
        exact hsameFits.append (HeaderFits.cons (fun k hk => absurd hk (by simp))
          fun _ => Nat.not_lt.mp hle)
      · apply hp₂.reject_crossing (Nat.not_lt.mp hshort) hr.header.length_pos
        by_contra hle
        refine hnot ⟨hfits.append ?_, fun _ => List.drop_eq_nil_iff.mpr (Nat.not_lt.mp hle)⟩
        rw [List.nil_append]
        exact hsameFits.append (HeaderFits.cons (fun k hk => absurd hk (by simp))
          fun hlt' => absurd hlt' hshort)
    · exact handleFragments_reject hr hp₁ hheapSame hpre hlt hsameFits _
  · exact receiveNetbufs_reject hr (.zero rfl rfl) hheapBefore hinBefore hltBefore hfits _

end Split

theorem httpServerNetconnServe_eq {conn : Connection} {netbufs : List Netbuf}
    (hconn : Delivers conn netbufs) :
    (httpServerNetconnServe conn).map Reception.ctx =
      let ctx := receiveNetbufs (netbufs.map Netbuf.fragments) HttpServerRecvCtx.zero
      if ctx.isReady then some ctx else none := by
  have hloop := receiveLoop_netbufs hconn.recv hconn.inTime Reception.start
  have hstart : Reception.start.ctx = HttpServerRecvCtx.zero := rfl
  rw [hstart] at hloop
  simp only [httpServerNetconnServe, hconn.tcp, Bool.false_eq_true, if_false, hloop]
  split
  · rw [Option.map_some, hloop]
  · rfl

/-- A NUL-free string is what stands in front of a block exactly when a terminator follows it. -/
theorem text_append_eq_iff {r t : Bytes} {y : UInt8} (hr : (0 : UInt8) ∉ r)
    (ht : t.head? = some y) : text (r ++ t) = r ∧ (r ++ t)[r.length]? = some 0 ↔ y = 0 := by
  obtain ⟨u, rfl⟩ : ∃ u, t = y :: u := by
    cases t with
    | nil => simp at ht
    | cons z u => exact ⟨u, by rw [Option.some.inj ht]⟩
  have hget : (r ++ y :: u)[r.length]? = some y := by simp
  rw [hget]
  constructor
  · rintro ⟨-, hy⟩
    exact Option.some.inj hy
  · rintro rfl
    exact ⟨by rw [text_append_nul, text_eq_self hr], rfl⟩

/-- The request is served as it is exactly when the excess data is discarded. -/
theorem serves_iff_discards {conn : Connection} {netbufs : List Netbuf} {e : Bytes}
    (hr : Request h b) (hconn : Delivers conn netbufs)
    (hcut : received (netbufs.map Netbuf.fragments).flatten = h ++ b ++ e)
    (hne : ∀ f ∈ (netbufs.map Netbuf.fragments).flatten, f.data ≠ [])
    (hheap : ∀ f ∈ (netbufs.map Netbuf.fragments).flatten, f.heap.Succeed) :
    Serves conn (h ++ b) ↔
      ∃ c : Split, c.netbufs = netbufs.map Netbuf.fragments ∧ c.Discards h b := by
  have hnul : (0 : UInt8) ∉ h ++ b := by
    simpa using ⟨hr.header.nulFree, hr.bodyNulFree⟩
  have hserve := httpServerNetconnServe_eq hconn
  have hpos : 0 < (h ++ b).length := by
    have := hr.header.length_pos
    rw [List.length_append]
    omega
  constructor
  · rintro ⟨reception, mem, hcall, hmem, htext, hend⟩
    have hreaches : (h ++ b).length ≤ (received (netbufs.map Netbuf.fragments).flatten).length :=
      hcut ▸ (List.prefix_append (h ++ b) e).length_le
    obtain ⟨c, hsplit, hc⟩ := exists_split hpos hreaches
    rw [← hsplit] at hcut hne hheap hserve
    simp only [hcall, Option.map_some] at hserve
    have hready : (receiveNetbufs c.netbufs HttpServerRecvCtx.zero).isReady = true := by
      by_contra hnot
      rw [if_neg hnot] at hserve
      exact absurd hserve (by simp)
    rw [if_pos hready, Option.some.injEq] at hserve
    have hkeeps : HeaderFits h [] (c.before.flatten ++ (c.same ++ [c.last])) ∧
        (h.length ≤ c.receivedBefore.length → c.part (h ++ b).length = []) := by
      by_contra hnot
      rw [Split.receive_reject hr hcut hc hheap hnot] at hready
      exact absurd hready (by simp)
    obtain ⟨-, t, hbuf, hhead⟩ := Split.receive hr hcut hc hne hheap hkeeps.1 hkeeps.2
    rw [← hserve, hmem, Option.some.injEq] at hbuf
    subst hbuf
    exact ⟨c, hsplit, hc, hkeeps.1, hkeeps.2, (text_append_eq_iff hnul hhead).mp ⟨htext, hend⟩⟩
  · rintro ⟨c, hsplit, hc⟩
    rw [← hsplit] at hcut hne hheap hserve
    obtain ⟨hready, t, hbuf, hhead⟩ := Split.receive hr hcut hc.completes hne hheap hc.fits hc.crossing
    rw [if_pos hready] at hserve
    obtain ⟨reception, hcall, hctx⟩ := Option.map_eq_some_iff.mp hserve
    obtain ⟨htext, hend⟩ := (text_append_eq_iff hnul hhead).mpr hc.terminated
    exact ⟨reception, h ++ b ++ t, hcall, by rw [hctx, hbuf], htext, hend⟩

/-! ### One request with and without excess data -/

/-- The small request in one fragment, with the data `e` behind it. -/
def oneNetbuf (e : Bytes) : Netbuf := ⟨⟨postHeader ++ postBody ++ e, dirtyHeap⟩, []⟩

def oneNetbufConn (e : Bytes) : Connection where
  configTickRateHz := 1000
  isPcbTcpNull := false
  attempts := [⟨0, (oneNetbuf e).recv⟩]

theorem oneNetbufConn_delivers (e : Bytes) : Delivers (oneNetbufConn e) [oneNetbuf e] where
  tcp := rfl
  recv := rfl
  inTime := by simp [oneNetbufConn]

theorem serves_iff_discards_post :
    Serves (oneNetbufConn []) (postHeader ++ postBody) ↔
      ∃ c : Split, c.netbufs = [oneNetbuf []].map Netbuf.fragments ∧
        c.Discards postHeader postBody := by
  have hcut : received ([oneNetbuf []].map Netbuf.fragments).flatten =
      postHeader ++ postBody ++ [] := by decide
  apply serves_iff_discards postRequest (oneNetbufConn_delivers []) hcut
  · decide
  · simp [oneNetbuf, Netbuf.fragments, HeapAnswers.Succeed, dirtyHeap]

/-- The next request of a pipelining client, in the same fragment, lengthens the first one. -/
theorem excess_data_served :
    ¬ ∀ (h b e : Bytes) (conn : Connection) (netbufs : List Netbuf), Request h b →
      Delivers conn netbufs →
      received (netbufs.map Netbuf.fragments).flatten = h ++ b ++ e →
      (∀ f ∈ (netbufs.map Netbuf.fragments).flatten, f.data ≠ []) →
      (∀ f ∈ (netbufs.map Netbuf.fragments).flatten, f.heap.Succeed) →
      Serves conn (h ++ b) := by
  intro hall
  obtain ⟨reception, mem, hcall, hmem, -, hend⟩ :=
    hall postHeader postBody (ascii "GET") (oneNetbufConn (ascii "GET")) [oneNetbuf (ascii "GET")]
      postRequest (oneNetbufConn_delivers _) (by decide) (by decide)
      (by simp [oneNetbuf, Netbuf.fragments, HeapAnswers.Succeed, dirtyHeap])
  have hserved : (httpServerNetconnServe (oneNetbufConn (ascii "GET"))).map (fun r => r.ctx.reqBuf) =
      some (some (postHeader ++ postBody ++ ascii "G")) := by decide +kernel
  rw [hcall, Option.map_some, hmem, Option.some.injEq, Option.some.injEq] at hserved
  rw [hserved] at hend
  exact absurd hend (by decide)

end HandleConn
end Esp32WifiManager
