import Esp32WifiManager.HttpServer.Reassembly

/-!
# The buffer of a served request

`Sound` is what the context looks like while every fragment has been accepted,
whatever the bytes are. A fragment keeps it, or is rejected before the request
is ready, unless it reaches one of two defects: a fragment that is rejected
although the request is ready, and excess data cut off without a terminator.
-/

namespace Esp32WifiManager
namespace HandleConn

open CString HttpReq

/-! ### The end of the header in a growing block -/

theorem getHttpBody_length_le {v : Bytes} {p : ℕ} (hbody : getHttpBody (v ++ [0]) = some p) :
    p ≤ v.length := by
  rw [getHttpBody, text_append_nul] at hbody
  obtain ⟨i, hi, rfl⟩ := Option.map_eq_some_iff.mp hbody
  exact (strstr_length_le hi).trans (text_length_le v)

theorem getHttpBody_append {v : Bytes} {p : ℕ} (hbody : getHttpBody (v ++ [0]) = some p)
    (d : Bytes) : getHttpBody (v ++ d ++ [0]) = some p := by
  rw [getHttpBody, text_append_nul] at hbody ⊢
  obtain ⟨i, hi, rfl⟩ := Option.map_eq_some_iff.mp hbody
  obtain ⟨t, ht⟩ := text_prefix_append v d
  rw [← ht, strstr_append hi, Option.map_some]

theorem getHttpBody_of_append {v u : Bytes} {p : ℕ} (hbody : getHttpBody (v ++ u ++ [0]) = some p)
    (hp : p ≤ v.length) : getHttpBody (v ++ [0]) = some p := by
  rw [getHttpBody, text_append_nul] at hbody ⊢
  obtain ⟨i, hi, rfl⟩ := Option.map_eq_some_iff.mp hbody
  by_cases h : (0 : UInt8) ∈ v
  · rw [text_append_of_mem h] at hi
    rw [hi, Option.map_some]
  · rw [text_append h] at hi
    rw [text_eq_self h, strstr_of_append hi hp, Option.map_some]

theorem contentLenField_of_getHttpBody {w : Bytes} {ctx : HttpServerRecvCtx}
    (hctx : Holds w 0 [] ctx) (hbody : getHttpBody (w ++ [0]) = some ctx.headerLen) :
    contentLenField ctx =
      httpReqHeaderGetField ((w ++ [0]).take ctx.headerLen) (ascii "Content-Length:") := by
  have hle := getHttpBody_length_le hbody
  have hlt : ctx.headerLen < (w ++ [0]).length := by
    rw [List.length_append, List.length_singleton]
    omega
  have hnul : (0 : UInt8) ∉ (w ++ [0]).take ctx.headerLen := by
    obtain ⟨i, hi, hp⟩ := Option.map_eq_some_iff.mp hbody
    have hin : ctx.headerLen ≤ (text (w ++ [0])).length := hp ▸ strstr_length_le hi
    obtain ⟨t, ht⟩ := text_isPrefix (w ++ [0])
    rw [← ht, List.take_append_of_le_length hin]
    exact fun hmem => nul_notMem_text (w ++ [0]) (List.mem_of_mem_take hmem)
  apply contentLenField_of_header hnul
  · rw [hctx.mem_eq]
    exact (List.take_append_drop ctx.headerLen (w ++ [0])).symm
  · exact fun hnil => absurd (List.drop_eq_nil_iff.mp hnil) (Nat.not_le.mpr hlt)
  · rw [List.length_take]
    omega

/-! ### The context while fragments are accepted -/

inductive Sound (ctx : HttpServerRecvCtx) : Prop
  | zero (zeroed : ctx = HttpServerRecvCtx.zero)
  | collecting (v : Bytes) (collected : Collected v ctx)
  | waiting (v pad : Bytes) (holds : Holds v 0 pad ctx) (room : pad ≠ [])
      (completed : ctx.isHeaderCompleted = true)
      (header : getHttpBody (v ++ [0]) = some ctx.headerLen) (contentLen : ctx.contentLen ≠ 0)
      (expectedLen : ctx.expectedLen = v.length + pad.length)
  | ready (v : Bytes) (holds : Holds v 0 [] ctx) (completed : ctx.isHeaderCompleted = true)
      (header : getHttpBody (v ++ [0]) = some ctx.headerLen) (isReady : ctx.isReady = true)
      (expectedLen : ctx.contentLen ≠ 0 → ctx.expectedLen ≤ v.length)

/-- What a call leaves behind: it accepts, or the request is not ready. -/
def Kept (res : Bool × HttpServerRecvCtx) : Prop :=
  (res.1 = true ∧ Sound res.2) ∨ (res.1 = false ∧ res.2.isReady = false)

/-- The block has room for the fragment, or can be given it. -/
def HasRoom (ctx : HttpServerRecvCtx) (fragment : Fragment) : Prop :=
  if ctx.reqBufSize = ctx.accumLen then
    ctx.reqBufSize + fragment.data.length ≤ httpServerMaxRequestSize ∧ fragment.heap.buf.isSome
  else ctx.accumLen + fragment.data.length ≤ ctx.reqBufSize

/-- The bytes collected when the fragment has been stored. -/
def collectedWith (ctx : HttpServerRecvCtx) (fragment : Fragment) : Bytes :=
  ctx.mem.take ctx.accumLen ++ fragment.data

/-- The fragment reaches neither defect: when it brings more than the declared length, a NUL
stands behind the request, and it is not rejected once the request is ready. -/
structure LeavesIntact (ctx : HttpServerRecvCtx) (fragment : Fragment) : Prop where
  terminated : HasRoom ctx fragment → ctx.contentLen = 0 → ∀ headerLen contentLen,
    declaredLen (collectedWith ctx fragment ++ [0]) = some (headerLen, contentLen) →
    contentLen ≤ httpServerMaxEncryptedContentSize → fragment.heap.content.isSome →
    headerLen + contentLen < (collectedWith ctx fragment).length →
    (collectedWith ctx fragment)[headerLen + contentLen]? = some 0
  room : ctx.isReady = true → HasRoom ctx fragment
  content : ctx.isReady = true → ctx.contentLen = 0 → ∀ headerLen contentLen,
    declaredLen (collectedWith ctx fragment ++ [0]) = some (headerLen, contentLen) →
    contentLen ≤ httpServerMaxEncryptedContentSize ∧
    (headerLen + contentLen ≠ (collectedWith ctx fragment).length → fragment.heap.content.isSome)

/-! ### One fragment -/

section Lookup

variable {heap : HeapAnswer} {ctx : HttpServerRecvCtx} {w : Bytes}

/-- The block cannot be resized to the declared length. -/
theorem handleHeader_resize_fails {field : HttpReqField} {n : ℕ} (hheap : heap = none)
    (hc : ctx.isHeaderCompleted = true) (hlen : ctx.contentLen = 0)
    (hfield : contentLenField ctx = some field) (hn : strtoul (ctx.mem.drop field.ptr) = n)
    (hmax : n ≤ httpServerMaxEncryptedContentSize) (hctx : Holds w 0 [] ctx)
    (hne : w.length ≠ ctx.headerLen + n) :
    (handleHeader heap ctx).1 = false ∧ (handleHeader heap ctx).2.isReady = ctx.isReady := by
  have hsize : ctx.reqBufSize = w.length := hctx.reqBufSize
  have hmem : ctx.reqBuf = some (w ++ [0]) := hctx.reqBuf
  have hread : strtoul ((w ++ [0]).drop field.ptr) = n := by rw [← hctx.mem_eq]; exact hn
  by_cases hover : ctx.headerLen + n < w.length
  · simp [handleHeader, completeHeader, hc, hlen, hfield, httpServerHandleRequestContentLen, hread,
      Nat.not_lt.mpr hmax, hsize, hctx.accumLen, hover, hne, HttpServerRecvCtx.mem, hmem, hheap,
      osReallocSafeAndClean]
  · simp [handleHeader, completeHeader, hc, hlen, hfield, httpServerHandleRequestContentLen, hread,
      Nat.not_lt.mpr hmax, hsize, hctx.accumLen, hover, hne, HttpServerRecvCtx.mem, hmem, hheap,
      osReallocSafeAndClean]

theorem notReady_of_resize_fails {n : ℕ}
    (hready : ctx.isReady = true → ∀ n, declaredLen (w ++ [0]) = some (ctx.headerLen, n) →
      n ≤ httpServerMaxEncryptedContentSize ∧ (ctx.headerLen + n ≠ w.length → heap.isSome))
    (hdecl : declaredLen (w ++ [0]) = some (ctx.headerLen, n)) (hheap : heap = none)
    (hne : ctx.headerLen + n ≠ w.length) : ctx.isReady = false := by
  by_contra hr
  have := (hready (by simpa using hr) n hdecl).2 hne
  rw [hheap] at this
  exact absurd this (by simp)

theorem exists_split_at {n : ℕ} (hn : n < w.length) :
    ∃ s y u, w = s ++ y :: u ∧ s.length = n := by
  refine ⟨w.take n, w[n], w.drop (n + 1), ?_, by rw [List.length_take]; omega⟩
  rw [← List.drop_eq_getElem_cons hn, List.take_append_drop]

/-- The header is known and its `Content-Length`, if any, is looked up. -/
theorem handleHeader_lookup (hc : ctx.isHeaderCompleted = true) (hlen : ctx.contentLen = 0)
    (hctx : Holds w 0 [] ctx) (hbody : getHttpBody (w ++ [0]) = some ctx.headerLen)
    (hterm : ∀ n, declaredLen (w ++ [0]) = some (ctx.headerLen, n) →
      n ≤ httpServerMaxEncryptedContentSize → heap.isSome →
      ctx.headerLen + n < w.length → w[ctx.headerLen + n]? = some 0)
    (hready : ctx.isReady = true → ∀ n, declaredLen (w ++ [0]) = some (ctx.headerLen, n) →
      n ≤ httpServerMaxEncryptedContentSize ∧ (ctx.headerLen + n ≠ w.length → heap.isSome)) :
    Kept (handleHeader heap ctx) := by
  have hfieldEq := contentLenField_of_getHttpBody hctx hbody
  cases hfield : contentLenField ctx with
  | none =>
    rw [handleHeader_noField heap hc hlen hfield]
    exact Or.inl ⟨rfl, .ready w ⟨hctx.reqBuf, hctx.reqBufSize, hctx.accumLen⟩ hc hbody rfl
      (fun hne => absurd hlen hne)⟩
  | some field =>
    obtain ⟨n, hn⟩ : ∃ n, strtoul (ctx.mem.drop field.ptr) = n := ⟨_, rfl⟩
    have hdecl : declaredLen (w ++ [0]) = some (ctx.headerLen, n) := by
      have hread : strtoul ((w ++ [0]).drop field.ptr) = n := by rw [← hctx.mem_eq]; exact hn
      rw [hfieldEq] at hfield
      simp [declaredLen, hbody, hfield, hread]
    by_cases hmax : n ≤ httpServerMaxEncryptedContentSize
    · rcases Nat.lt_trichotomy w.length (ctx.headerLen + n) with hlt | heq | hgt
      · cases hheap : heap with
        | none =>
          have hrej := handleHeader_resize_fails hheap hc hlen hfield hn hmax hctx hlt.ne
          have hnot := notReady_of_resize_fails hready hdecl hheap hlt.ne'
          exact Or.inr ⟨hheap ▸ hrej.1, (hheap ▸ hrej.2).trans hnot⟩
        | some junk =>
          rw [handleHeader_wait rfl hc hlen hfield hn hmax hctx hlt]
          refine Or.inl ⟨rfl, .waiting w _ ⟨rfl, ?_, hctx.accumLen⟩ ?_ hc hbody ?_ ?_⟩
          · simp only [List.length_map, List.length_range]
            omega
          · simp only [ne_eq, List.map_eq_nil_iff, List.range_eq_nil]
            omega
          · have hle := getHttpBody_length_le hbody
            intro hzero
            have : n = 0 := hzero
            omega
          · simp only [List.length_map, List.length_range, declaredCtx]
            omega
      · rw [handleHeader_exact hc hlen hfield hn hmax hctx heq]
        exact Or.inl ⟨rfl, .ready w ⟨hctx.reqBuf, hctx.reqBufSize, hctx.accumLen⟩ hc hbody rfl
          (fun _ => heq.ge)⟩
      · cases hheap : heap with
        | none =>
          have hrej := handleHeader_resize_fails hheap hc hlen hfield hn hmax hctx hgt.ne'
          have hnot := notReady_of_resize_fails hready hdecl hheap hgt.ne
          exact Or.inr ⟨hheap ▸ hrej.1, (hheap ▸ hrej.2).trans hnot⟩
        | some junk =>
          obtain ⟨s, y, u, hw, hs⟩ := exists_split_at hgt
          have hy := hterm n hdecl hmax (by simp [hheap]) hgt
          rw [hw, ← hs] at hy
          obtain rfl : y = 0 := by simpa using hy
          rw [handleHeader_trim rfl hc hlen hfield hn hmax hctx hw hs]
          refine Or.inl ⟨rfl, .ready s ⟨rfl, rfl, rfl⟩ hc ?_ rfl (fun _ => hs.ge)⟩
          have hcut : w ++ [0] = s ++ (0 :: u) ++ [0] := by rw [hw]
          rw [hcut] at hbody
          have hle : ctx.headerLen ≤ s.length := by omega
          exact getHttpBody_of_append hbody hle
    · rw [handleHeader_tooLong hc hlen hfield hn (Nat.not_le.mp hmax)]
      refine Or.inr ⟨rfl, ?_⟩
      by_contra hr
      exact hmax (hready (by simpa using hr) n hdecl).1

end Lookup

section Step

variable {ctx : HttpServerRecvCtx} {fragment : Fragment}

theorem collectedWith_eq {v pad : Bytes} {x : UInt8} (hctx : Holds v x pad ctx) :
    collectedWith ctx fragment = v ++ fragment.data := by
  rw [collectedWith, hctx.mem_eq, hctx.accumLen, List.take_left]

/-- A fragment stored before any header has been found. -/
theorem handleHeader_collected {w : Bytes} {ctx' : HttpServerRecvCtx} {heap : HeapAnswer}
    (hc : Collected w ctx')
    (hterm : ∀ p n, declaredLen (w ++ [0]) = some (p, n) →
      n ≤ httpServerMaxEncryptedContentSize → heap.isSome →
      p + n < w.length → w[p + n]? = some 0) :
    Kept (handleHeader heap ctx') := by
  cases hbody : getHttpBody (w ++ [0]) with
  | none =>
    rw [← hc.holds.mem_eq] at hbody
    rw [handleHeader_incomplete heap hc.notCompleted hbody]
    exact Or.inl ⟨rfl, .collecting w hc⟩
  | some p =>
    have hmem := hc.holds.mem_eq ▸ hbody
    rw [handleHeader_found heap hc.notCompleted hmem]
    set ctx₁ : HttpServerRecvCtx := { ctx' with isHeaderCompleted := true, headerLen := p }
    have hdone : ctx₁.isHeaderCompleted = true := rfl
    have hlen : ctx₁.contentLen = 0 := hc.contentLen
    have hholds : Holds w 0 [] ctx₁ := ⟨hc.holds.reqBuf, hc.holds.reqBufSize, hc.holds.accumLen⟩
    have hnot : ctx₁.isReady = false := hc.notReady
    exact handleHeader_lookup hdone hlen hholds hbody (hterm p)
      (fun hready => absurd hready (by simp [hnot]))

/-- The block is as large as what it holds: it grows, or the fragment is rejected. -/
theorem grow_or_reject {v : Bytes} (hctx : Holds v 0 [] ctx) :
    (HasRoom ctx fragment ∧
      httpServerHandleReceivedBuf fragment.heap fragment.data ctx =
        handleHeader fragment.heap.content (storedCtx ctx (v ++ fragment.data) [])) ∨
    (¬ HasRoom ctx fragment ∧
      (httpServerHandleReceivedBuf fragment.heap fragment.data ctx).1 = false ∧
      (httpServerHandleReceivedBuf fragment.heap fragment.data ctx).2.isReady = ctx.isReady) := by
  have hsize : ctx.reqBufSize = v.length := hctx.reqBufSize
  have hfull : ctx.reqBufSize = ctx.accumLen := hsize.trans hctx.accumLen.symm
  have hroom : HasRoom ctx fragment ↔
      v.length + fragment.data.length ≤ httpServerMaxRequestSize ∧ fragment.heap.buf.isSome := by
    rw [HasRoom, if_pos hfull, hsize]
  by_cases hfit : v.length + fragment.data.length ≤ httpServerMaxRequestSize
  · cases hheap : fragment.heap.buf with
    | none =>
      refine Or.inr ⟨by simp [hroom, hheap], ?_⟩
      have halloc : allocMem fragment.heap.buf fragment.data.length ctx =
          (false, { ctx with reqBuf := none }) := by
        simp [allocMem, hctx.isNone_eq, httpServerHandleReceivedBufAllocMemForNonFirstFrame, hfull,
          hctx.accumLen, Nat.not_lt.mpr hfit, hheap, osReallocSafeAndClean]
      rw [httpServerHandleReceivedBuf_of_alloc_reject halloc]
      exact ⟨rfl, rfl⟩
    | some junk =>
      exact Or.inl ⟨hroom.mpr ⟨hfit, by simp [hheap]⟩,
        httpServerHandleReceivedBuf_grow hheap hctx hfit⟩
  · refine Or.inr ⟨fun hr => hfit (hroom.mp hr).1, ?_⟩
    rw [httpServerHandleReceivedBuf_grow_reject fragment.heap hctx (Nat.not_le.mp hfit)]
    exact ⟨rfl, rfl⟩

/-- The first fragment is stored, or rejected. -/
theorem first_or_reject :
    (HasRoom HttpServerRecvCtx.zero fragment ∧
      httpServerHandleReceivedBuf fragment.heap fragment.data HttpServerRecvCtx.zero =
        handleHeader fragment.heap.content
          (storedCtx HttpServerRecvCtx.zero fragment.data [])) ∨
    ((httpServerHandleReceivedBuf fragment.heap fragment.data HttpServerRecvCtx.zero).1 = false ∧
      (httpServerHandleReceivedBuf fragment.heap fragment.data
        HttpServerRecvCtx.zero).2.isReady = false) := by
  by_cases hfit : fragment.data.length ≤ httpServerMaxRequestSize
  · cases hheap : fragment.heap.buf with
    | none =>
      have halloc : allocMem fragment.heap.buf fragment.data.length HttpServerRecvCtx.zero =
          (false, HttpServerRecvCtx.zero) := by
        simp [allocMem, HttpServerRecvCtx.zero, httpServerHandleReceivedBufAllocMemForFirstFrame,
          Nat.not_lt.mpr hfit, osMalloc, hheap]
      rw [httpServerHandleReceivedBuf_of_alloc_reject halloc]
      exact Or.inr ⟨rfl, rfl⟩
    | some junk =>
      refine Or.inl ⟨?_, httpServerHandleReceivedBuf_first hheap hfit⟩
      simp [HasRoom, HttpServerRecvCtx.zero, hfit, hheap]
  · rw [httpServerHandleReceivedBuf_first_reject fragment.heap (Nat.not_le.mp hfit)]
    exact Or.inr ⟨rfl, rfl⟩

/-- One fragment keeps the context sound, or is rejected before the request is ready. -/
theorem Sound.step (hs : Sound ctx) (hok : LeavesIntact ctx fragment) :
    Kept (httpServerHandleReceivedBuf fragment.heap fragment.data ctx) := by
  cases hs with
  | zero hz =>
    subst hz
    have hcol : collectedWith HttpServerRecvCtx.zero fragment = fragment.data := rfl
    rcases first_or_reject with ⟨hroom, hrun⟩ | hrej
    · rw [hrun]
      have hterm := hok.terminated hroom rfl
      rw [hcol] at hterm
      exact handleHeader_collected ⟨storedCtx_holds _ _ _, rfl, rfl, rfl, rfl⟩ hterm
    · exact Or.inr hrej
  | collecting v hc =>
    have hcol : collectedWith ctx fragment = v ++ fragment.data := collectedWith_eq hc.holds
    rcases grow_or_reject hc.holds with ⟨hroom, hrun⟩ | ⟨-, hrej, hsame⟩
    · rw [hrun]
      have hterm := hok.terminated hroom hc.contentLen
      rw [hcol] at hterm
      exact handleHeader_collected ⟨storedCtx_holds _ _ _, hc.notCompleted, hc.contentLen,
        hc.expectedLen, hc.notReady⟩ hterm
    · exact Or.inr ⟨hrej, hsame.trans hc.notReady⟩
  | waiting v pad hctx hpad hcomp hbody hlen hexp =>
    by_cases hfit : fragment.data.length ≤ pad.length
    · rw [httpServerHandleReceivedBuf_fit fragment.heap hctx hpad hfit]
      have hvd : (v ++ fragment.data).length = v.length + fragment.data.length := List.length_append
      have hholds := storedCtx_holds ctx (v ++ fragment.data) (pad.drop fragment.data.length)
      have hbody' := getHttpBody_append hbody fragment.data
      by_cases hall : fragment.data.length = pad.length
      · rw [List.drop_of_length_le hall.ge] at hholds ⊢
        rw [handleHeader_stored_ready _ [] hcomp hlen (by omega)]
        exact Or.inl ⟨rfl, .ready _ ⟨rfl, rfl, rfl⟩ hcomp hbody' rfl (fun _ => by
          have : ctx.expectedLen ≤ (v ++ fragment.data).length := by omega
          exact this)⟩
      · rw [handleHeader_stored_wait _ _ hcomp hlen (by omega)]
        refine Or.inl ⟨rfl, .waiting _ _ hholds ?_ hcomp hbody' hlen ?_⟩
        · intro hnil
          have := List.drop_eq_nil_iff.mp hnil
          omega
        · rw [List.length_drop]
          have : ctx.expectedLen =
              (v ++ fragment.data).length + (pad.length - fragment.data.length) := by omega
          exact this
    · have hlong := Nat.not_le.mp hfit
      rw [httpServerHandleReceivedBuf_fit_reject fragment.heap hctx hpad hlong]
      refine Or.inr ⟨rfl, ?_⟩
      by_contra hr
      have hroom := hok.room (by simpa using hr)
      have hpos := List.length_pos_iff.mpr hpad
      rw [HasRoom, if_neg (by rw [hctx.reqBufSize, hctx.accumLen]; omega), hctx.reqBufSize,
        hctx.accumLen] at hroom
      omega
  | ready v hctx hcomp hbody hready hexp =>
    have hcol : collectedWith ctx fragment = v ++ fragment.data := collectedWith_eq hctx
    rcases grow_or_reject hctx with ⟨hroom, hrun⟩ | ⟨hnot, -⟩
    · rw [hrun]
      have hholds := storedCtx_holds ctx (v ++ fragment.data) []
      have hbody' := getHttpBody_append hbody fragment.data
      by_cases hlen : ctx.contentLen = 0
      · have hterm := hok.terminated hroom hlen ctx.headerLen
        have hcontent := hok.content hready hlen ctx.headerLen
        rw [hcol] at hterm hcontent
        exact handleHeader_lookup hcomp hlen hholds hbody' hterm (fun _ => hcontent)
      · have hle : ctx.expectedLen ≤ (v ++ fragment.data).length := by
          have := hexp hlen
          rw [List.length_append]
          omega
        rw [handleHeader_stored_ready _ [] hcomp hlen hle]
        exact Or.inl ⟨rfl, .ready _ ⟨rfl, rfl, rfl⟩ hcomp hbody' rfl (fun _ => hle)⟩
    · exact absurd (hok.room hready) hnot

end Step

/-! ### A whole connection -/

/-- Every call so far has accepted its fragment. -/
structure Accepted (r : Reception) : Prop where
  sound : Sound r.ctx
  accepted : ∀ call ∈ r.handled, call.accepted = true

theorem Reception.handled_isPrefix (r : Reception) (fragment : Fragment) :
    r.handled <+: (r.handle fragment).2.handled := List.prefix_append _ _

theorem handleNetbuf_handled_isPrefix (data : NetbufData) (rest : List NetbufData) (r : Reception) :
    r.handled <+: (handleNetbuf data rest r).2.handled := by
  induction rest generalizing data r with
  | nil =>
    cases data with
    | none => exact List.prefix_refl _
    | some fragment =>
      rw [handleNetbuf_last]
      exact r.handled_isPrefix fragment
  | cons next rest ih =>
    cases data with
    | none => exact List.prefix_refl _
    | some fragment =>
      cases hres : (r.handle fragment).1 with
      | false =>
        rw [handleNetbuf_stop hres]
        exact r.handled_isPrefix fragment
      | true =>
        rw [handleNetbuf_next hres]
        exact (r.handled_isPrefix fragment).trans (ih next _)

theorem httpServerRecvAndHandle_handled_isPrefix (recv : NetconnRecv) (r : Reception) :
    r.handled <+: (httpServerRecvAndHandle recv r).2.handled := by
  cases recv with
  | err => exact List.prefix_refl _
  | ok first rest => exact handleNetbuf_handled_isPrefix first rest r

theorem receiveLoop_handled_isPrefix (configTickRateHz : ℕ) (attempts : List Attempt)
    (r : Reception) : r.handled <+: (receiveLoop configTickRateHz attempts r).handled := by
  induction attempts generalizing r with
  | nil => exact List.prefix_refl _
  | cons attempt attempts ih =>
    have hturn := httpServerRecvAndHandle_handled_isPrefix attempt.recv r
    rcases receiveLoop_cons configTickRateHz attempt attempts r with hstop | ⟨-, hend⟩ | ⟨-, hnext⟩
    · exact hstop.symm ▸ List.prefix_refl _
    · exact hend.symm ▸ hturn
    · exact hnext.symm ▸ hturn.trans (ih _)

theorem Accepted.handle {r : Reception} {fragment : Fragment} (ha : Accepted r)
    (hok : LeavesIntact r.ctx fragment) :
    ((r.handle fragment).1 = true ∧ Accepted (r.handle fragment).2) ∨
    ((r.handle fragment).1 = false ∧ (r.handle fragment).2.ctx.isReady = false) := by
  rcases ha.sound.step hok with ⟨hres, hs⟩ | ⟨hres, hnot⟩
  · refine Or.inl ⟨hres, hs, ?_⟩
    intro call hcall
    rcases List.mem_append.mp hcall with hold | hnew
    · exact ha.accepted call hold
    · rw [List.mem_singleton.mp hnew]
      exact hres
  · exact Or.inr ⟨hres, hnot⟩

theorem Accepted.handleNetbuf {data : NetbufData} {rest : List NetbufData} {r : Reception}
    (ha : Accepted r)
    (hok : ∀ call ∈ (handleNetbuf data rest r).2.handled, LeavesIntact call.before call.fragment) :
    Accepted (handleNetbuf data rest r).2 ∨
    ((handleNetbuf data rest r).1 = false ∧
      (handleNetbuf data rest r).2.ctx.isReady = false) := by
  have hlast : ∀ (fragment : Fragment) (r : Reception),
      ⟨r.ctx, fragment, (r.handle fragment).1⟩ ∈ (r.handle fragment).2.handled :=
    fun _ _ => List.mem_append_right _ List.mem_cons_self
  induction rest generalizing data r with
  | nil =>
    cases data with
    | none => exact Or.inl ha
    | some fragment =>
      rw [handleNetbuf_last] at hok ⊢
      exact (ha.handle (hok _ (hlast fragment r))).imp And.right id
  | cons next rest ih =>
    cases data with
    | none => exact Or.inl ha
    | some fragment =>
      cases hres : (r.handle fragment).1 with
      | false =>
        rw [handleNetbuf_stop hres] at hok ⊢
        exact (ha.handle (hok _ (hlast fragment r))).imp And.right id
      | true =>
        rw [handleNetbuf_next hres] at hok ⊢
        have hmem := (handleNetbuf_handled_isPrefix next rest (r.handle fragment).2).subset
        rcases ha.handle (hok _ (hmem (hlast fragment r))) with ⟨-, hacc⟩ | ⟨hrej, -⟩
        · exact ih hacc hok
        · rw [hres] at hrej
          exact absurd hrej (by simp)

theorem Accepted.recvAndHandle {recv : NetconnRecv} {r : Reception} (ha : Accepted r)
    (hok : ∀ call ∈ (httpServerRecvAndHandle recv r).2.handled,
      LeavesIntact call.before call.fragment) :
    Accepted (httpServerRecvAndHandle recv r).2 ∨
    ((httpServerRecvAndHandle recv r).1 = false ∧
      (httpServerRecvAndHandle recv r).2.ctx.isReady = false) := by
  cases recv with
  | err => exact Or.inl ha
  | ok first rest => exact ha.handleNetbuf hok

theorem Accepted.receiveLoop {configTickRateHz : ℕ} {attempts : List Attempt} {r : Reception}
    (ha : Accepted r)
    (hok : ∀ call ∈ (receiveLoop configTickRateHz attempts r).handled,
      LeavesIntact call.before call.fragment) :
    Accepted (receiveLoop configTickRateHz attempts r) ∨
    (receiveLoop configTickRateHz attempts r).ctx.isReady = false := by
  induction attempts generalizing r with
  | nil => exact Or.inl ha
  | cons attempt attempts ih =>
    rcases receiveLoop_cons configTickRateHz attempt attempts r with
      hstop | ⟨-, hend⟩ | ⟨hres, hnext⟩
    · exact Or.inl (hstop.symm ▸ ha)
    · rw [hend] at hok ⊢
      exact (ha.recvAndHandle hok).imp id And.right
    · rw [hnext] at hok ⊢
      have hmem := (receiveLoop_handled_isPrefix configTickRateHz attempts
        (httpServerRecvAndHandle attempt.recv r).2).subset
      rcases ha.recvAndHandle (fun call hcall => hok call (hmem hcall)) with hacc | ⟨hrej, -⟩
      · exact ih hacc hok
      · rw [hres] at hrej
        exact absurd hrej (by simp)

/-- A ready context with every fragment accepted has its header and its terminator in the buffer. -/
theorem Sound.intact {ctx : HttpServerRecvCtx} (hs : Sound ctx) (hready : ctx.isReady = true) :
    ∃ mem, ctx.reqBuf = some mem ∧ ctx.headerLen ≤ ctx.accumLen ∧
      ctx.accumLen ≤ ctx.reqBufSize ∧ mem[ctx.accumLen]? = some 0 := by
  have hblock : ∀ {v pad : Bytes}, Holds v 0 pad ctx →
      getHttpBody (v ++ [0]) = some ctx.headerLen →
      ∃ mem, ctx.reqBuf = some mem ∧ ctx.headerLen ≤ ctx.accumLen ∧
        ctx.accumLen ≤ ctx.reqBufSize ∧ mem[ctx.accumLen]? = some 0 := by
    intro v pad hctx hbody
    refine ⟨v ++ 0 :: pad, hctx.reqBuf, ?_, ?_, ?_⟩
    · rw [hctx.accumLen]
      exact getHttpBody_length_le hbody
    · rw [hctx.accumLen, hctx.reqBufSize]
      exact Nat.le_add_right _ _
    · rw [hctx.accumLen]
      simp
  cases hs with
  | zero hz =>
    rw [hz] at hready
    exact absurd hready (by decide)
  | collecting v hc =>
    rw [hc.notReady] at hready
    exact absurd hready (by simp)
  | waiting v pad hctx _ _ hbody _ _ => exact hblock hctx hbody
  | ready v hctx _ hbody _ _ => exact hblock hctx hbody

/-- A request is served from an intact buffer when no fragment reaches a defect. -/
theorem served_intact {conn : Connection} {r : Reception}
    (hserve : httpServerNetconnServe conn = some r)
    (hok : ∀ call ∈ r.handled, LeavesIntact call.before call.fragment) :
    (∀ call ∈ r.handled, call.accepted = true) ∧
    ∃ mem, r.ctx.reqBuf = some mem ∧ r.ctx.headerLen ≤ r.ctx.accumLen ∧
      r.ctx.accumLen ≤ r.ctx.reqBufSize ∧ mem[r.ctx.accumLen]? = some 0 := by
  obtain ⟨-, rfl, hready⟩ := httpServerNetconnServe_eq_some.mp hserve
  have hstart : Accepted Reception.start := ⟨.zero rfl, by simp [Reception.start]⟩
  rcases hstart.receiveLoop hok with hacc | hnot
  · exact ⟨hacc.accepted, hacc.sound.intact hready⟩
  · rw [hnot] at hready
    exact absurd hready (by simp)

/-! ### One connection with and without a lost buffer -/

/-- The small request, and the fragments of the same netbuf behind it. -/
def postConn (rest : List NetbufData) : Connection where
  configTickRateHz := 1000
  isPcbTcpNull := false
  attempts := [⟨0, .ok (some ⟨postHeader ++ postBody, dirtyHeap⟩) rest⟩]

def postReception : Reception :=
  receiveLoop (postConn []).configTickRateHz (postConn []).attempts Reception.start

theorem served_intact_post :
    (∀ call ∈ postReception.handled, call.accepted = true) ∧
    ∃ mem, postReception.ctx.reqBuf = some mem ∧
      postReception.ctx.headerLen ≤ postReception.ctx.accumLen ∧
      postReception.ctx.accumLen ≤ postReception.ctx.reqBufSize ∧
      mem[postReception.ctx.accumLen]? = some 0 := by
  have hready : postReception.ctx.isReady = true := by decide +kernel
  apply served_intact (httpServerNetconnServe_eq_some.mpr ⟨rfl, rfl, hready⟩ :
    httpServerNetconnServe (postConn []) = some postReception)
  intro call hcall
  have hcalls : postReception.handled =
      [⟨HttpServerRecvCtx.zero, ⟨postHeader ++ postBody, dirtyHeap⟩, true⟩] := rfl
  rw [hcalls, List.mem_singleton] at hcall
  subst hcall
  have hnot : HttpServerRecvCtx.zero.isReady ≠ true := by decide
  refine ⟨?_, fun h => absurd h hnot, fun h => absurd h hnot⟩
  intro _ _ headerLen contentLen hdecl _ _ hlt
  have : declaredLen (postHeader ++ postBody ++ [0]) = some (postHeader.length, 2) := by
    decide +kernel
  obtain ⟨rfl, rfl⟩ : postHeader.length = headerLen ∧ 2 = contentLen := by
    simpa using this.symm.trans hdecl
  exact absurd hlt (by decide)

/-- A fragment behind the complete request, whose memory cannot be allocated: the request is served
all the same, with `p_req_buf` being `NULL`. -/
theorem served_without_buffer :
    ¬ ∀ (conn : Connection) (r : Reception), httpServerNetconnServe conn = some r →
      (∀ call ∈ r.handled, call.accepted = true) ∧
      ∃ mem, r.ctx.reqBuf = some mem ∧ r.ctx.headerLen ≤ r.ctx.accumLen ∧
        r.ctx.accumLen ≤ r.ctx.reqBufSize ∧ mem[r.ctx.accumLen]? = some 0 := by
  intro hall
  have hserved : (httpServerNetconnServe (postConn [some ⟨ascii "GET", none, none⟩])).map
      (fun r => r.ctx.reqBuf) = some none := by decide +kernel
  obtain ⟨r, hserve, hbuf⟩ := Option.map_eq_some_iff.mp hserved
  obtain ⟨-, mem, hmem, -⟩ := hall _ r hserve
  rw [hbuf] at hmem
  exact absurd hmem (by simp)

end HandleConn
end Esp32WifiManager
