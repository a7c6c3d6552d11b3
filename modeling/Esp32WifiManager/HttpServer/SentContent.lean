import Esp32WifiManager.HttpServer.NetconnResp

/-!
# The content on the connection

The writers of the content put a prefix of it on the connection, whatever the
outcomes of their calls. The first outcomes tell whether anything is put there
at all, and where no call fails it is the whole content.
-/

namespace Esp32WifiManager
namespace Auth

open CString

/-- The selected location delivers as many bytes as the response says. -/
structure HttpServerResp.Delivers (resp : HttpServerResp) : Prop where
  length : resp.content.length = resp.contentLen
  noContent : resp.contentLocation = .noContent → resp.content = []

/-! ### Outcomes -/

/-- The outcomes that are left when `n` bytes, at least one, are given up before their end. -/
def cutShort : ℕ → List WritePartly → Option (List WritePartly)
  | _, [] => none
  | n, w :: ws =>
    if n ≤ w.bytes then none
    else if w.failed || w.timedOut then some ws
    else cutShort (n - w.bytes) ws

/-- Writing at least one byte puts some byte on the connection. -/
def putsSome : List WritePartly → Bool
  | [] => false
  | w :: ws => decide (0 < w.bytes) || (!w.failed && !w.timedOut && putsSome ws)

/-- The source of the content has its first bytes ready. -/
def sourceReady (resp : HttpServerResp) (o : SendOutcomes) : Bool :=
  match resp.contentLocation with
  | .noContent => false
  | .flashMem | .staticMem | .heap => true
  | .fatfs =>
    let numBytes := fatfsNumBytes resp.contentLen
    decide (o.allocs.head? = some true) &&
      o.reads.head?.any fun r => decide (r.value numBytes = (numBytes : ℤ))
  | .jsonGenerator => o.chunks.head?.any Option.isSome

/-- Sending the content puts some byte on the connection. -/
def contentStarts (resp : HttpServerResp) (o : SendOutcomes) : Bool :=
  decide (0 < resp.contentLen) && sourceReady resp o && putsSome o.writes

/-- No call fails. -/
structure SendOutcomes.Succeed (o : SendOutcomes) : Prop where
  writes : ∀ w ∈ o.writes, w.failed = false ∧ w.timedOut = false
  allocs : ∀ a ∈ o.allocs, a = true
  reads : ∀ r ∈ o.reads, r = .all
  chunks : ∀ k ∈ o.chunks, k.isSome = true

namespace RespFraming

variable {buf : List SentByte} {ws ws' : List WritePartly} {conn : Netconn}

/-! ### One write -/

/-- What one call of `netconn_write_partly` does to the loop. -/
theorem writeLoop_cons (buf : List SentByte) (w : WritePartly) (ws : List WritePartly) :
    httpServerNetconnWriteLoop buf (w :: ws) =
      if w.failed || w.timedOut then (some false, buf.take w.bytes, ws)
      else if buf.length ≤ w.bytes then (some true, buf, ws)
      else ((httpServerNetconnWriteLoop (buf.drop w.bytes) ws).1,
        buf.take w.bytes ++ (httpServerNetconnWriteLoop (buf.drop w.bytes) ws).2.1,
        (httpServerNetconnWriteLoop (buf.drop w.bytes) ws).2.2) := by
  rw [httpServerNetconnWriteLoop]
  cases hfailed : w.failed with
  | true => simp
  | false =>
    cases htimeout : w.timedOut with
    | true => simp
    | false =>
      by_cases hlen : buf.length ≤ w.bytes
      · simp [hlen]
      · simp [hlen]

theorem writeLoop_prefix (buf : List SentByte) (ws : List WritePartly) :
    (httpServerNetconnWriteLoop buf ws).2.1 <+: buf := by
  induction ws generalizing buf with
  | nil => simp [httpServerNetconnWriteLoop]
  | cons w ws ih =>
    rw [writeLoop_cons]
    split_ifs with hstop hall
    · exact List.take_prefix _ _
    · exact List.prefix_rfl
    · have hmore := ih (buf.drop w.bytes)
      have hjoin := (List.prefix_append_right_inj (buf.take w.bytes)).mpr hmore
      rwa [List.take_append_drop] at hjoin

theorem writeLoop_true (h : (httpServerNetconnWriteLoop buf ws).1 = some true) :
    (httpServerNetconnWriteLoop buf ws).2.1 = buf := by
  induction ws generalizing buf with
  | nil => simp [httpServerNetconnWriteLoop] at h
  | cons w ws ih =>
    rw [writeLoop_cons] at h ⊢
    split_ifs at h ⊢ with hstop hall
    · simp at h
    · rfl
    · rw [ih h, List.take_append_drop]

theorem writeLoop_cut (h : cutShort buf.length ws = some ws') :
    (httpServerNetconnWriteLoop buf ws).1 = some false ∧
      (httpServerNetconnWriteLoop buf ws).2.1.length < buf.length ∧
      (httpServerNetconnWriteLoop buf ws).2.2 = ws' := by
  induction ws generalizing buf with
  | nil => simp [cutShort] at h
  | cons w ws ih =>
    rw [cutShort] at h
    rw [writeLoop_cons]
    split_ifs at h with hall hstop
    · have hput : (buf.take w.bytes).length < buf.length := by
        rw [List.length_take]
        omega
      rw [if_pos hstop]
      exact ⟨rfl, hput, Option.some.inj h⟩
    · have hdrop : (buf.drop w.bytes).length = buf.length - w.bytes := List.length_drop
      rw [← hdrop] at h
      obtain ⟨hres, hlen, hrest⟩ := ih h
      rw [if_neg hstop, if_neg hall]
      refine ⟨hres, ?_, hrest⟩
      rw [List.length_append, List.length_take]
      omega

/-- A write that is not cut short and that returns puts everything on the connection. -/
theorem writeLoop_uncut (h : cutShort buf.length ws = none)
    (hres : (httpServerNetconnWriteLoop buf ws).1 ≠ none) :
    (httpServerNetconnWriteLoop buf ws).2.1 = buf := by
  induction ws generalizing buf with
  | nil => simp [httpServerNetconnWriteLoop] at hres
  | cons w ws ih =>
    rw [cutShort] at h
    rw [writeLoop_cons] at hres ⊢
    split_ifs at h with hall hstop
    · split_ifs
      · exact List.take_of_length_le hall
      · rfl
    · rw [if_neg hstop, if_neg hall] at hres ⊢
      rw [← List.length_drop] at h
      rw [ih h hres, List.take_append_drop]

theorem writeLoop_puts (hbuf : buf ≠ []) :
    (httpServerNetconnWriteLoop buf ws).2.1 ≠ [] ↔ putsSome ws = true := by
  have hlen : buf.length ≠ 0 := mt List.length_eq_zero_iff.mp hbuf
  induction ws with
  | nil => simp [httpServerNetconnWriteLoop, putsSome]
  | cons w ws ih =>
    rw [writeLoop_cons, putsSome]
    rcases Nat.eq_zero_or_pos w.bytes with hzero | hpos
    · simp only [hzero, List.take_zero, List.drop_zero, Nat.le_zero, hlen, if_false,
        List.nil_append, lt_irrefl, decide_false, Bool.false_or]
      split_ifs with hstop
      · rcases Bool.or_eq_true_iff.mp hstop with hfailed | htimeout
        · simp [hfailed]
        · simp [htimeout]
      · have hgoes : w.failed = false ∧ w.timedOut = false := by simpa using hstop
        simpa [hgoes.1, hgoes.2] using ih
    · have hput : buf.take w.bytes ≠ [] := by
        intro hnil
        rcases List.take_eq_nil_iff.mp hnil with h0 | hb
        · omega
        · exact hbuf hb
      simp only [hpos, decide_true, Bool.true_or, iff_true]
      split_ifs
      · exact hput
      · exact hbuf
      · exact List.append_ne_nil_of_left_ne_nil hput _

theorem writeLoop_suffix (buf : List SentByte) (ws : List WritePartly) :
    (httpServerNetconnWriteLoop buf ws).2.2 <:+ ws := by
  induction ws generalizing buf with
  | nil => exact List.suffix_rfl
  | cons w ws ih =>
    rw [writeLoop_cons]
    split_ifs
    · exact List.suffix_cons _ _
    · exact List.suffix_cons _ _
    · exact (ih (buf.drop w.bytes)).trans (List.suffix_cons _ _)

/-- Where no call fails, a write that returns has succeeded. -/
theorem writeLoop_succeeds (hok : ∀ w ∈ ws, w.failed = false ∧ w.timedOut = false)
    (hres : (httpServerNetconnWriteLoop buf ws).1 ≠ none) :
    (httpServerNetconnWriteLoop buf ws).1 = some true := by
  induction ws generalizing buf with
  | nil => simp [httpServerNetconnWriteLoop] at hres
  | cons w ws ih =>
    obtain ⟨⟨hfailed, htimeout⟩, htail⟩ := List.forall_mem_cons.mp hok
    rw [writeLoop_cons] at hres ⊢
    simp only [hfailed, htimeout, Bool.or_self, Bool.false_eq_true, if_false] at hres ⊢
    split_ifs at hres ⊢ with hall
    · rfl
    · exact ih htail hres

/-- Each call takes a byte at least, so that as many calls as bytes are enough. -/
theorem writeLoop_ends (hprogress : ∀ w ∈ ws, 0 < w.bytes)
    (hok : ∀ w ∈ ws, w.failed = false ∧ w.timedOut = false)
    (hlen : max buf.length 1 ≤ ws.length) :
    (httpServerNetconnWriteLoop buf ws).1 ≠ none ∧
      ws.length ≤ (httpServerNetconnWriteLoop buf ws).2.2.length + max buf.length 1 := by
  induction ws generalizing buf with
  | nil =>
    simp only [List.length_nil] at hlen
    omega
  | cons w ws ih =>
    obtain ⟨⟨hfailed, htimeout⟩, htail⟩ := List.forall_mem_cons.mp hok
    obtain ⟨hpos, hprogress⟩ := List.forall_mem_cons.mp hprogress
    rw [writeLoop_cons]
    simp only [hfailed, htimeout, Bool.or_self, Bool.false_eq_true, if_false]
    simp only [List.length_cons] at hlen ⊢
    split_ifs with hall
    · simp only [ne_eq, reduceCtorEq, not_false_eq_true, true_and]
      omega
    · have hdrop : (buf.drop w.bytes).length = buf.length - w.bytes := List.length_drop
      have henough : max (buf.drop w.bytes).length 1 ≤ ws.length := by omega
      obtain ⟨hres, hrest⟩ := ih hprogress htail henough
      refine ⟨hres, ?_⟩
      simp only
      omega

/-! ### Pieces of a response -/

/-- `conn'` comes from `conn` by putting a prefix of `buf` on the connection. -/
def Puts (conn : Netconn) (buf : List SentByte) (conn' : Netconn) : Prop :=
  ∃ put, conn'.sent = conn.sent ++ put ∧ put <+: buf

theorem Puts.refl (conn : Netconn) (buf : List SentByte) : Puts conn buf conn :=
  ⟨[], (List.append_nil _).symm, List.nil_prefix⟩

theorem Puts.append {conn conn' conn'' : Netconn} {a b : List SentByte}
    (hall : conn'.sent = conn.sent ++ a) (h : Puts conn' b conn'') : Puts conn (a ++ b) conn'' := by
  obtain ⟨put, hsent, hput⟩ := h
  refine ⟨a ++ put, ?_, (List.prefix_append_right_inj a).mpr hput⟩
  rw [hsent, hall, List.append_assoc]

theorem Puts.mono {conn conn' : Netconn} {a b : List SentByte} (h : Puts conn a conn') :
    Puts conn (a ++ b) conn' := by
  obtain ⟨put, hsent, hput⟩ := h
  exact ⟨put, hsent, hput.trans (List.prefix_append _ _)⟩

theorem write_puts (buf : List SentByte) (conn : Netconn) :
    Puts conn buf (httpServerNetconnWrite buf conn).2 :=
  ⟨_, rfl, writeLoop_prefix buf conn.outcomes.writes⟩

theorem write_true (conn : Netconn)
    (h : (httpServerNetconnWrite buf conn).1 = some true) :
    (httpServerNetconnWrite buf conn).2.sent = conn.sent ++ buf :=
  congrArg (conn.sent ++ ·) (writeLoop_true h)

theorem write_sent_ne (hbuf : buf ≠ []) :
    (httpServerNetconnWrite buf conn).2.sent ≠ conn.sent ↔ putsSome conn.outcomes.writes = true := by
  rw [← writeLoop_puts hbuf]
  exact not_congr List.append_right_eq_self

/-- The remaining outcomes are among the earlier ones. -/
theorem write_succeed (h : conn.outcomes.Succeed) :
    (httpServerNetconnWrite buf conn).2.outcomes.Succeed where
  writes w hw := h.writes w ((writeLoop_suffix buf conn.outcomes.writes).subset hw)
  allocs := h.allocs
  reads := h.reads
  chunks := h.chunks

/-- A piece of the content, and what follows unless it fails. -/
def orBreak (buf : List SentByte) (next : Netconn → Option Unit × Netconn) (conn : Netconn) :
    Option Unit × Netconn :=
  match httpServerNetconnWrite buf conn with
  | (none, conn) => (none, conn)
  | (some false, conn) => (some (), conn)
  | (some true, conn) => next conn

section OrBreak

variable {next : Netconn → Option Unit × Netconn} {rest : List SentByte}

theorem orBreak_of_true (h : (httpServerNetconnWrite buf conn).1 = some true) :
    orBreak buf next conn = next (httpServerNetconnWrite buf conn).2 := by
  unfold orBreak
  rcases hw : httpServerNetconnWrite buf conn with ⟨_ | _ | _, conn'⟩
  · simp [hw] at h
  · simp [hw] at h
  · rfl

theorem orBreak_of_not_true (h : (httpServerNetconnWrite buf conn).1 ≠ some true) :
    (orBreak buf next conn).2 = (httpServerNetconnWrite buf conn).2 ∧
      ((orBreak buf next conn).1 = none ↔ (httpServerNetconnWrite buf conn).1 = none) := by
  unfold orBreak
  rcases hw : httpServerNetconnWrite buf conn with ⟨_ | _ | _, conn'⟩
  · simp
  · simp
  · simp [hw] at h

theorem orBreak_puts (hnext : ∀ conn, Puts conn rest (next conn).2) :
    Puts conn (buf ++ rest) (orBreak buf next conn).2 := by
  by_cases h : (httpServerNetconnWrite buf conn).1 = some true
  · rw [orBreak_of_true h]
    exact Puts.append (write_true conn h) (hnext _)
  · rw [(orBreak_of_not_true h).1]
    exact (write_puts buf conn).mono

/-- What follows puts more on the connection at most. -/
theorem orBreak_sent_ne (hbuf : buf ≠ []) (hnext : ∀ conn, Puts conn rest (next conn).2) :
    (orBreak buf next conn).2.sent ≠ conn.sent ↔ putsSome conn.outcomes.writes = true := by
  rw [← write_sent_ne hbuf]
  by_cases h : (httpServerNetconnWrite buf conn).1 = some true
  · rw [orBreak_of_true h]
    obtain ⟨put, hsent, -⟩ := hnext (httpServerNetconnWrite buf conn).2
    rw [hsent, write_true conn h, List.append_assoc]
    simp [hbuf]
  · rw [(orBreak_of_not_true h).1]

theorem orBreak_whole (hok : conn.outcomes.Succeed)
    (hnext : ∀ conn, conn.outcomes.Succeed → (next conn).1 = some () →
      (next conn).2.sent = conn.sent ++ rest)
    (hres : (orBreak buf next conn).1 = some ()) :
    (orBreak buf next conn).2.sent = conn.sent ++ (buf ++ rest) := by
  have hwrite : (httpServerNetconnWrite buf conn).1 = some true := by
    refine writeLoop_succeeds hok.writes ?_
    intro hnone
    have hne : (httpServerNetconnWrite buf conn).1 ≠ some true := by
      intro h
      exact absurd (hnone.symm.trans h) (by simp)
    rw [(orBreak_of_not_true hne).2.mpr hnone] at hres
    simp at hres
  rw [orBreak_of_true hwrite] at hres ⊢
  rw [hnext _ (write_succeed hok) hres, write_true conn hwrite, List.append_assoc]

/-- No call of those that follow fails, and the writes are enough for `n` bytes. -/
structure Ready (n : ℕ) (conn : Netconn) : Prop where
  succeed : conn.outcomes.Succeed
  progress : ∀ w ∈ conn.outcomes.writes, 0 < w.bytes
  writes : n ≤ conn.outcomes.writes.length

theorem write_ready {n : ℕ} (h : Ready (max buf.length 1 + n) conn) :
    (httpServerNetconnWrite buf conn).1 = some true ∧
      Ready n (httpServerNetconnWrite buf conn).2 := by
  have hlen : max buf.length 1 ≤ conn.outcomes.writes.length := by
    have := h.writes
    omega
  obtain ⟨hres, hrest⟩ := writeLoop_ends h.progress h.succeed.writes hlen
  refine ⟨writeLoop_succeeds h.succeed.writes hres, write_succeed h.succeed, ?_, ?_⟩
  · intro w hw
    exact h.progress w ((writeLoop_suffix buf conn.outcomes.writes).subset hw)
  · have henough := h.writes
    have : n ≤ (httpServerNetconnWriteLoop buf conn.outcomes.writes).2.2.length := by omega
    exact this

theorem orBreak_ends {n : ℕ} (hbuf : buf ≠ []) (h : Ready (buf.length + n) conn)
    (hnext : ∀ conn, Ready n conn → (next conn).1 = some ()) :
    (orBreak buf next conn).1 = some () := by
  have hlen : max buf.length 1 = buf.length := by
    have := List.length_pos_iff.mpr hbuf
    omega
  rw [← hlen] at h
  obtain ⟨htrue, hready⟩ := write_ready h
  rw [orBreak_of_true htrue]
  exact hnext _ hready

end OrBreak

/-! ### A file -/

theorem bytes_append (part : RespPart) (a b : Bytes) :
    part.bytes (a ++ b) = part.bytes a ++ part.bytes b :=
  List.map_append

theorem bytes_take_drop (part : RespPart) (n : ℕ) (m : Bytes) :
    part.bytes m = part.bytes (m.take n) ++ part.bytes (m.drop n) := by
  rw [← bytes_append, List.take_append_drop]

theorem bytes_eq_nil {part : RespPart} {m : Bytes} : part.bytes m = [] ↔ m = [] :=
  List.map_eq_nil_iff

@[simp] theorem length_bytes (part : RespPart) (m : Bytes) : (part.bytes m).length = m.length :=
  List.length_map _

theorem fatfsNumBytes_pos {n : ℕ} (h : 0 < n) : 0 < fatfsNumBytes n := by
  unfold fatfsNumBytes httpServerTxChunkSize
  split_ifs
  · exact h
  · simp

variable {r : FileRead} {rs : List FileRead} {rem : Bytes}

/-- A block that is read in full is written, and then the next one follows. -/
theorem fatfsLoop_cons (hrem : rem ≠ []) :
    writeContentFromFatfsLoop (r :: rs) rem conn =
      if r.value (fatfsNumBytes rem.length) = (fatfsNumBytes rem.length : ℤ) then
        orBreak (RespPart.body.bytes (rem.take (fatfsNumBytes rem.length)))
          (writeContentFromFatfsLoop rs (rem.drop (fatfsNumBytes rem.length))) conn
      else (some (), conn) := by
  obtain ⟨c, rest, rfl⟩ := List.exists_cons_of_ne_nil hrem
  rw [writeContentFromFatfsLoop]
  by_cases hall : r.value (fatfsNumBytes (c :: rest).length) = (fatfsNumBytes (c :: rest).length : ℤ)
  · have hpos : ¬ r.value (fatfsNumBytes (c :: rest).length) < 0 := by omega
    rw [if_neg hpos, if_pos hall, if_neg (not_not.mpr hall)]
    rfl
  · rw [if_neg hall, if_pos hall, ite_self]

theorem fatfsLoop_all (hrem : rem ≠ []) :
    writeContentFromFatfsLoop (.all :: rs) rem conn =
      orBreak (RespPart.body.bytes (rem.take (fatfsNumBytes rem.length)))
        (writeContentFromFatfsLoop rs (rem.drop (fatfsNumBytes rem.length))) conn := by
  have hall : FileRead.all.value (fatfsNumBytes rem.length) = (fatfsNumBytes rem.length : ℤ) := rfl
  rw [fatfsLoop_cons hrem, if_pos hall]

theorem fatfsLoop_puts (rs : List FileRead) (rem : Bytes) (conn : Netconn) :
    Puts conn (RespPart.body.bytes rem) (writeContentFromFatfsLoop rs rem conn).2 := by
  induction rs generalizing rem conn with
  | nil => cases rem <;> exact Puts.refl _ _
  | cons r rs ih =>
    by_cases hrem : rem = []
    · subst hrem
      exact Puts.refl _ _
    · rw [fatfsLoop_cons hrem]
      split_ifs
      · rw [bytes_take_drop .body (fatfsNumBytes rem.length) rem]
        exact orBreak_puts (ih _)
      · exact Puts.refl _ _

theorem block_ne_nil (hrem : rem ≠ []) :
    RespPart.body.bytes (rem.take (fatfsNumBytes rem.length)) ≠ [] := by
  have hlen := List.length_pos_iff.mpr hrem
  have hpos := fatfsNumBytes_pos hlen
  rw [Ne, bytes_eq_nil, List.take_eq_nil_iff]
  rintro (h0 | hnil)
  · omega
  · exact hrem hnil

theorem fatfsLoop_sent_ne (hrem : rem ≠ []) :
    (writeContentFromFatfsLoop rs rem conn).2.sent ≠ conn.sent ↔
      (rs.head?.any fun r =>
        decide (r.value (fatfsNumBytes rem.length) = (fatfsNumBytes rem.length : ℤ))) = true ∧
        putsSome conn.outcomes.writes = true := by
  cases rs with
  | nil =>
    obtain ⟨c, rest, rfl⟩ := List.exists_cons_of_ne_nil hrem
    simp [writeContentFromFatfsLoop]
  | cons r rs =>
    rw [fatfsLoop_cons hrem]
    split_ifs with hall
    · rw [orBreak_sent_ne (block_ne_nil hrem) (fatfsLoop_puts rs _)]
      simp [hall]
    · simp [hall]

theorem fatfsLoop_whole (hreads : ∀ r ∈ rs, r = .all) (hok : conn.outcomes.Succeed)
    (hres : (writeContentFromFatfsLoop rs rem conn).1 = some ()) :
    (writeContentFromFatfsLoop rs rem conn).2.sent = conn.sent ++ RespPart.body.bytes rem := by
  induction rs generalizing rem conn with
  | nil =>
    cases rem with
    | nil => simp [writeContentFromFatfsLoop, RespPart.bytes]
    | cons c rest => simp [writeContentFromFatfsLoop] at hres
  | cons r rs ih =>
    obtain ⟨rfl, htail⟩ := List.forall_mem_cons.mp hreads
    by_cases hrem : rem = []
    · subst hrem
      simp [writeContentFromFatfsLoop, RespPart.bytes]
    · rw [fatfsLoop_all hrem] at hres ⊢
      rw [orBreak_whole hok (fun conn hok hres => ih htail hok hres) hres]
      rw [← bytes_take_drop]

/-- Every block has a byte at least. -/
theorem fatfsLoop_ends (hreads : ∀ r ∈ rs, r = .all) (hlen : rem.length ≤ rs.length)
    (h : Ready rem.length conn) : (writeContentFromFatfsLoop rs rem conn).1 = some () := by
  induction rs generalizing rem conn with
  | nil =>
    obtain rfl : rem = [] := List.length_eq_zero_iff.mp (Nat.le_zero.mp hlen)
    rfl
  | cons r rs ih =>
    obtain ⟨rfl, htail⟩ := List.forall_mem_cons.mp hreads
    by_cases hrem : rem = []
    · subst hrem
      rfl
    · rw [fatfsLoop_all hrem]
      have hpos := fatfsNumBytes_pos (List.length_pos_iff.mpr hrem)
      have hsplit : rem.length = (RespPart.body.bytes (rem.take (fatfsNumBytes rem.length))).length +
          (rem.drop (fatfsNumBytes rem.length)).length := by
        rw [length_bytes, ← List.length_append, List.take_append_drop]
      rw [hsplit] at h
      refine orBreak_ends (block_ne_nil hrem) h ?_
      intro conn hready
      have hshort : (rem.drop (fatfsNumBytes rem.length)).length ≤ rs.length := by
        simp only [List.length_cons] at hlen
        rw [List.length_drop]
        omega
      exact ih htail hshort hready

/-! ### A JSON generator -/

variable {k : Option ℕ} {ks : List (Option ℕ)}

theorem jsonLoop_cons (k : ℕ) (hrem : rem ≠ []) :
    writeContentFromJsonGeneratorLoop (some k :: ks) rem conn =
      orBreak (RespPart.body.bytes (rem.take (k + 1)))
        (writeContentFromJsonGeneratorLoop ks (rem.drop (k + 1))) conn := by
  obtain ⟨c, rest, rfl⟩ := List.exists_cons_of_ne_nil hrem
  rw [writeContentFromJsonGeneratorLoop]
  rfl

theorem jsonLoop_nil (k : ℕ) :
    writeContentFromJsonGeneratorLoop (some k :: ks) [] conn = (some (), conn) := by
  rw [writeContentFromJsonGeneratorLoop]
  rfl

theorem chunk_ne_nil (k : ℕ) (hrem : rem ≠ []) :
    RespPart.body.bytes (rem.take (k + 1)) ≠ [] := by
  rw [Ne, bytes_eq_nil, List.take_eq_nil_iff]
  rintro (h0 | hnil)
  · omega
  · exact hrem hnil

theorem jsonLoop_puts (ks : List (Option ℕ)) (rem : Bytes) (conn : Netconn) :
    Puts conn (RespPart.body.bytes rem) (writeContentFromJsonGeneratorLoop ks rem conn).2 := by
  induction ks generalizing rem conn with
  | nil => exact Puts.refl _ _
  | cons k ks ih =>
    cases k with
    | none => exact Puts.refl _ _
    | some k =>
      by_cases hrem : rem = []
      · subst hrem
        rw [jsonLoop_nil]
        exact Puts.refl _ _
      · rw [jsonLoop_cons k hrem, bytes_take_drop .body (k + 1) rem]
        exact orBreak_puts (ih _)

theorem jsonLoop_sent_ne (hrem : rem ≠ []) :
    (writeContentFromJsonGeneratorLoop ks rem conn).2.sent ≠ conn.sent ↔
      ks.head?.any Option.isSome = true ∧ putsSome conn.outcomes.writes = true := by
  cases ks with
  | nil => simp [writeContentFromJsonGeneratorLoop]
  | cons k ks =>
    cases k with
    | none => simp [writeContentFromJsonGeneratorLoop]
    | some k =>
      rw [jsonLoop_cons k hrem, orBreak_sent_ne (chunk_ne_nil k hrem) (jsonLoop_puts ks _)]
      simp

theorem jsonLoop_whole (hchunks : ∀ k ∈ ks, k.isSome = true) (hok : conn.outcomes.Succeed)
    (hres : (writeContentFromJsonGeneratorLoop ks rem conn).1 = some ()) :
    (writeContentFromJsonGeneratorLoop ks rem conn).2.sent =
      conn.sent ++ RespPart.body.bytes rem := by
  induction ks generalizing rem conn with
  | nil => simp [writeContentFromJsonGeneratorLoop] at hres
  | cons k ks ih =>
    obtain ⟨hk, htail⟩ := List.forall_mem_cons.mp hchunks
    obtain ⟨k, rfl⟩ := Option.isSome_iff_exists.mp hk
    by_cases hrem : rem = []
    · subst hrem
      rw [jsonLoop_nil]
      simp [RespPart.bytes]
    · rw [jsonLoop_cons k hrem] at hres ⊢
      rw [orBreak_whole hok (fun conn hok hres => ih htail hok hres) hres]
      rw [← bytes_take_drop]

theorem jsonLoop_ends (hchunks : ∀ k ∈ ks, k.isSome = true) (hlen : rem.length < ks.length)
    (h : Ready rem.length conn) : (writeContentFromJsonGeneratorLoop ks rem conn).1 = some () := by
  induction ks generalizing rem conn with
  | nil => simp at hlen
  | cons k ks ih =>
    obtain ⟨hk, htail⟩ := List.forall_mem_cons.mp hchunks
    obtain ⟨k, rfl⟩ := Option.isSome_iff_exists.mp hk
    by_cases hrem : rem = []
    · subst hrem
      rw [jsonLoop_nil]
    · rw [jsonLoop_cons k hrem]
      have hpos := List.length_pos_iff.mpr hrem
      have hsplit : rem.length = (RespPart.body.bytes (rem.take (k + 1))).length +
          (rem.drop (k + 1)).length := by
        rw [length_bytes, ← List.length_append, List.take_append_drop]
      rw [hsplit] at h
      refine orBreak_ends (chunk_ne_nil k hrem) h ?_
      intro conn hready
      have hshort : (rem.drop (k + 1)).length < ks.length := by
        simp only [List.length_cons] at hlen
        rw [List.length_drop]
        omega
      exact ih htail hshort hready

/-! ### The content of a response -/

variable {resp : HttpServerResp}

theorem memContent_eq (conn : Netconn) :
    (writeContentFromMem resp conn).2 =
        (httpServerNetconnWrite (RespPart.body.bytes resp.content) conn).2 ∧
      ((writeContentFromMem resp conn).1 = none ↔
        (httpServerNetconnWrite (RespPart.body.bytes resp.content) conn).1 = none) := by
  unfold writeContentFromMem
  rcases httpServerNetconnWrite (RespPart.body.bytes resp.content) conn with ⟨_ | b, conn'⟩
  · simp
  · simp

theorem memContent_puts (conn : Netconn) :
    Puts conn (RespPart.body.bytes resp.content) (writeContentFromMem resp conn).2 := by
  rw [(memContent_eq conn).1]
  exact write_puts _ conn

theorem memContent_whole (hok : conn.outcomes.Succeed)
    (hres : (writeContentFromMem resp conn).1 = some ()) :
    (writeContentFromMem resp conn).2.sent = conn.sent ++ RespPart.body.bytes resp.content := by
  rw [(memContent_eq conn).1]
  refine write_true conn (writeLoop_succeeds hok.writes ?_)
  intro hnone
  rw [(memContent_eq conn).2.mpr hnone] at hres
  simp at hres

theorem memContent_ends (h : Ready (max resp.content.length 1) conn) :
    (writeContentFromMem resp conn).1 = some () := by
  rw [← length_bytes .body, ← Nat.add_zero (max _ 1)] at h
  cases hres : (writeContentFromMem resp conn).1 with
  | none =>
    rw [(memContent_eq conn).2, (write_ready h).1] at hres
    simp at hres
  | some u => rfl

theorem content_puts (resp : HttpServerResp) (conn : Netconn) :
    Puts conn (RespPart.body.bytes resp.content) (httpServerWriteContent resp conn).2 := by
  unfold httpServerWriteContent
  cases resp.contentLocation with
  | noContent => exact Puts.refl _ _
  | flashMem => exact memContent_puts conn
  | staticMem => exact memContent_puts conn
  | heap => exact memContent_puts conn
  | fatfs =>
    simp only [writeContentFromFatfs, osMalloc]
    rcases conn.outcomes.allocs with _ | ⟨_ | _, as⟩
    · exact Puts.refl _ _
    · exact Puts.refl _ _
    · exact fatfsLoop_puts _ _ _
  | jsonGenerator => exact jsonLoop_puts _ _ _

theorem content_sent_ne (hdel : resp.Delivers) (conn : Netconn) :
    (httpServerWriteContent resp conn).2.sent ≠ conn.sent ↔
      contentStarts resp conn.outcomes = true := by
  unfold contentStarts sourceReady
  by_cases hnil : resp.content = []
  · have hlen : resp.contentLen = 0 := by rw [← hdel.length, hnil]; rfl
    obtain ⟨put, hsent, hput⟩ := content_puts resp conn
    rw [hnil] at hput
    rw [hsent, List.prefix_nil.mp hput, hlen]
    simp
  · have hbuf : RespPart.body.bytes resp.content ≠ [] := mt bytes_eq_nil.mp hnil
    have hpos : 0 < resp.contentLen := by
      rw [← hdel.length]
      exact List.length_pos_iff.mpr hnil
    simp only [hpos, decide_true, Bool.true_and]
    unfold httpServerWriteContent
    cases hloc : resp.contentLocation with
    | noContent => exact absurd (hdel.noContent hloc) hnil
    | flashMem =>
      simpa [writeContentFromFlash, (memContent_eq conn).1] using write_sent_ne hbuf
    | staticMem =>
      simpa [writeContentFromStaticMem, (memContent_eq conn).1] using write_sent_ne hbuf
    | heap =>
      simpa [writeContentFromHeap, (memContent_eq conn).1] using write_sent_ne hbuf
    | fatfs =>
      simp only [writeContentFromFatfs, osMalloc]
      rcases hallocs : conn.outcomes.allocs with _ | ⟨_ | _, as⟩
      · simp
      · simp
      · rw [fatfsLoop_sent_ne hnil, hdel.length]
        simp
    | jsonGenerator =>
      rw [writeContentFromJsonGenerator, jsonLoop_sent_ne hnil]
      simp

theorem content_whole (hdel : resp.Delivers) (hok : conn.outcomes.Succeed)
    (hres : (httpServerWriteContent resp conn).1 = some ()) :
    (httpServerWriteContent resp conn).2.sent =
      conn.sent ++ RespPart.body.bytes resp.content := by
  unfold httpServerWriteContent at hres ⊢
  cases hloc : resp.contentLocation with
  | noContent => simp [hdel.noContent hloc, RespPart.bytes]
  | flashMem =>
    rw [hloc] at hres
    exact memContent_whole hok hres
  | staticMem =>
    rw [hloc] at hres
    exact memContent_whole hok hres
  | heap =>
    rw [hloc] at hres
    exact memContent_whole hok hres
  | fatfs =>
    simp only [hloc, writeContentFromFatfs, osMalloc] at hres ⊢
    have hallocs := hok.allocs
    rcases hal : conn.outcomes.allocs with _ | ⟨a, as⟩
    · simp [hal] at hres
    · rw [hal] at hallocs
      obtain ⟨rfl, htail⟩ := List.forall_mem_cons.mp hallocs
      simp only [hal] at hres
      exact fatfsLoop_whole hok.reads ⟨hok.writes, htail, hok.reads, hok.chunks⟩ hres
  | jsonGenerator =>
    simp only [hloc] at hres
    exact jsonLoop_whole hok.chunks hok hres

theorem content_ends (h : Ready (max resp.content.length 1) conn)
    (hallocs : conn.outcomes.allocs ≠ []) (hreads : resp.content.length ≤ conn.outcomes.reads.length)
    (hchunks : resp.content.length < conn.outcomes.chunks.length) :
    (httpServerWriteContent resp conn).1 = some () := by
  have hready : Ready resp.content.length conn :=
    ⟨h.succeed, h.progress, le_trans (le_max_left _ _) h.writes⟩
  unfold httpServerWriteContent
  cases resp.contentLocation with
  | noContent => rfl
  | flashMem => exact memContent_ends h
  | staticMem => exact memContent_ends h
  | heap => exact memContent_ends h
  | fatfs =>
    simp only [writeContentFromFatfs, osMalloc]
    obtain ⟨a, as, hal⟩ := List.exists_cons_of_ne_nil hallocs
    have hok := h.succeed.allocs
    rw [hal] at hok
    obtain ⟨rfl, htail⟩ := List.forall_mem_cons.mp hok
    simp only [hal]
    refine fatfsLoop_ends h.succeed.reads hreads ?_
    exact ⟨⟨h.succeed.writes, htail, h.succeed.reads, h.succeed.chunks⟩, hready.progress,
      hready.writes⟩
  | jsonGenerator => exact jsonLoop_ends h.succeed.chunks hchunks hready

end RespFraming

end Auth
end Esp32WifiManager
