import Esp32WifiManager.HttpServer.SentContent

/-!
# The framing of a response

What is put on the connection is compared with the header and the body of the
response: it is a prefix of them unless the header is given up half-way and the
content is sent nevertheless.
-/

namespace Esp32WifiManager
namespace Auth

open CString

/-! ### What a response consists of -/

/-- The header block and the body of a response, the length that the header declares, and whether
the body is sent apart from the header. -/
structure RespText where
  header : Bytes
  body : Bytes
  declared : Option ℕ
  separate : Bool

namespace RespText

/-- The bytes of the response, in the order in which they belong on the connection. -/
def bytes (t : RespText) : List SentByte :=
  RespPart.header.bytes t.header ++ RespPart.body.bytes t.body

def withContent (resp : HttpServerResp) (extraHeaderFields : Bytes) (respCode : HttpRespCode)
    (statusMsg date : Bytes) : RespText where
  header := headerWithContent resp extraHeaderFields respCode statusMsg date
  body := resp.content
  declared := if resp.contentLen ≠ sizeMax then some resp.contentLen else none
  separate := true

def withoutContent (respCode : HttpRespCode) (statusMsg : Bytes) : RespText where
  header := headerWithoutContent respCode statusMsg
  body := emptyJson
  declared := some emptyJson.length
  separate := false

def authHtml (extraHeaderFields : Bytes) (respCode : HttpRespCode) (statusMsg hostname : Bytes) :
    RespText where
  header := headerAuthHtml extraHeaderFields respCode statusMsg hostname
  body := []
  declared := none
  separate := false

def withCode (resp : HttpServerResp) (respCode : HttpRespCode) (statusMsg date : Bytes) :
    RespText :=
  if resp.contentLen = 0 then withoutContent respCode statusMsg
  else withContent resp [] respCode statusMsg date

/-- The text of the response that `http_server_netconn_resp` sends. -/
def ofResp (resp : HttpServerResp) (extraHeaderFields hostname date : Bytes) : RespText :=
  match resp.httpRespCode with
  | .c206 | .c200 | .c299 => withContent resp extraHeaderFields .c200 (ascii "OK") date
  | .c301 => authHtml extraHeaderFields .c301 (ascii "Moved Permanently") hostname
  | .c302 => authHtml extraHeaderFields .c302 (ascii "Found") hostname
  | .c400 => withCode resp .c400 (ascii "Bad Request") date
  | .c401 => withContent resp extraHeaderFields .c401 (ascii "Unauthorized") date
  | .c403 => withContent resp extraHeaderFields .c403 (ascii "Forbidden") date
  | .c404 => withCode resp .c404 (ascii "Not Found") date
  | .c409 => withCode resp .c409 (ascii "Conflict") date
  | .c429 => withCode resp .c429 (ascii "Too Many Requests") date
  | .c500 => withCode resp .c500 (ascii "Internal Server Error") date
  | .c502 => withCode resp .c502 (ascii "Bad Gateway") date
  | .c503 => withCode resp .c503 (ascii "Service Unavailable") date
  | .c504 => withCode resp .c504 (ascii "Gateway timeout") date

/-- The header, and the body apart from it or in the same piece. -/
def send (resp : HttpServerResp) (t : RespText) (conn : Netconn) : Option Unit × Netconn :=
  if t.separate then
    match httpServerNetconnPrintf (RespPart.header.bytes t.header) conn with
    | (none, conn) => (none, conn)
    | (some _, conn) => httpServerWriteContent resp conn
  else
    match httpServerNetconnPrintf t.bytes conn with
    | (none, conn) => (none, conn)
    | (some _, conn) => (some (), conn)

end RespText

/-! ### Framing -/

/-- The outcomes that are left when a header of `n` bytes is given up before its end. -/
def headerCut (n : ℕ) (o : SendOutcomes) : Option SendOutcomes :=
  match o.allocs with
  | [] => none
  | false :: as => some { o with allocs := as }
  | true :: as => (cutShort n o.writes).map fun ws => { o with writes := ws, allocs := as }

/-- The header is given up half-way, and the content of the response, which is not printed with the
header, starts after that. -/
def ContentAfterCut (resp : HttpServerResp) (t : RespText) (o : SendOutcomes) : Prop :=
  t.separate = true ∧ ∃ o', headerCut t.header.length o = some o' ∧ contentStarts resp o' = true

/-- There are outcomes enough for `n` bytes, and every write makes progress. -/
structure SendOutcomes.Enough (n : ℕ) (o : SendOutcomes) : Prop where
  progress : ∀ w ∈ o.writes, 0 < w.bytes
  writes : n < o.writes.length
  allocs : 2 ≤ o.allocs.length
  reads : n ≤ o.reads.length
  chunks : n < o.chunks.length

/-- What the response promises, for the text `t` and the outcomes `o` of its calls: what is put on
the connection is a prefix of the header and the body; when no call fails it is the whole of them,
and the sending ends; the declared length is the one of the body. -/
structure Framed (t : RespText) (o : SendOutcomes) (run : Option Unit × Netconn) : Prop where
  inOrder : run.2.sent <+: t.bytes
  whole : o.Succeed → run.1 = some () → run.2.sent = t.bytes
  ends : o.Succeed → o.Enough t.bytes.length → run.1 = some ()
  declared : ∀ n ∈ t.declared,
    (∃ before behind, t.header = before ++ contentLenBuf n ++ behind) ∧ t.body.length = n

namespace RespFraming

variable {buf : List SentByte} {conn : Netconn} {resp : HttpServerResp}

/-! ### The header of a response -/

theorem printf_puts (buf : List SentByte) (conn : Netconn) :
    Puts conn buf (httpServerNetconnPrintf buf conn).2 := by
  unfold httpServerNetconnPrintf osMalloc
  rcases conn.outcomes.allocs with _ | ⟨_ | _, as⟩
  · exact Puts.refl _ _
  · exact Puts.refl _ _
  · exact write_puts buf ⟨_, conn.sent⟩

/-- A header that is not given up and that is done with has been sent. -/
theorem printf_uncut (conn : Netconn) (h : headerCut buf.length conn.outcomes = none)
    (hres : (httpServerNetconnPrintf buf conn).1 ≠ none) :
    (httpServerNetconnPrintf buf conn).2.sent = conn.sent ++ buf := by
  unfold headerCut at h
  unfold httpServerNetconnPrintf osMalloc at hres ⊢
  rcases hal : conn.outcomes.allocs with _ | ⟨_ | _, as⟩
  · simp [hal] at hres
  · simp [hal] at h
  · simp only [hal, Option.map_eq_none_iff] at h hres ⊢
    exact congrArg (conn.sent ++ ·) (writeLoop_uncut h hres)

theorem printf_cut {o : SendOutcomes} (conn : Netconn) (hbuf : buf ≠ [])
    (h : headerCut buf.length conn.outcomes = some o) :
    (httpServerNetconnPrintf buf conn).1 = some false ∧
      (httpServerNetconnPrintf buf conn).2.outcomes = o ∧
      (httpServerNetconnPrintf buf conn).2.sent.length < conn.sent.length + buf.length := by
  unfold headerCut at h
  unfold httpServerNetconnPrintf osMalloc
  rcases hal : conn.outcomes.allocs with _ | ⟨_ | _, as⟩
  · simp [hal] at h
  · simp only [hal, Option.some.injEq] at h ⊢
    have := List.length_pos_iff.mpr hbuf
    exact ⟨trivial, h, by omega⟩
  · simp only [hal] at h ⊢
    obtain ⟨ws, hcut, rfl⟩ := Option.map_eq_some_iff.mp h
    obtain ⟨hres, hlen, hrest⟩ := writeLoop_cut hcut
    refine ⟨hres, ?_, ?_⟩
    · simp [httpServerNetconnWrite, hrest]
    · simpa [httpServerNetconnWrite] using hlen

theorem printf_whole (conn : Netconn) (hok : conn.outcomes.Succeed)
    (hres : (httpServerNetconnPrintf buf conn).1 ≠ none) :
    (httpServerNetconnPrintf buf conn).2.sent = conn.sent ++ buf ∧
      (httpServerNetconnPrintf buf conn).2.outcomes.Succeed := by
  unfold httpServerNetconnPrintf osMalloc at hres ⊢
  have hallocs := hok.allocs
  rcases hal : conn.outcomes.allocs with _ | ⟨a, as⟩
  · simp [hal] at hres
  · rw [hal] at hallocs
    obtain ⟨rfl, htail⟩ := List.forall_mem_cons.mp hallocs
    simp only [hal] at hres ⊢
    constructor
    · exact write_true ⟨_, conn.sent⟩ (writeLoop_succeeds hok.writes hres)
    · exact write_succeed ⟨hok.writes, htail, hok.reads, hok.chunks⟩

theorem printf_ends {n : ℕ} (h : Ready (max buf.length 1 + n) conn)
    (hallocs : conn.outcomes.allocs ≠ []) :
    (httpServerNetconnPrintf buf conn).1 = some true ∧
      Ready n (httpServerNetconnPrintf buf conn).2 ∧
      (httpServerNetconnPrintf buf conn).2.outcomes.allocs = conn.outcomes.allocs.tail ∧
      (httpServerNetconnPrintf buf conn).2.outcomes.reads = conn.outcomes.reads ∧
      (httpServerNetconnPrintf buf conn).2.outcomes.chunks = conn.outcomes.chunks := by
  obtain ⟨a, as, hal⟩ := List.exists_cons_of_ne_nil hallocs
  have hok := h.succeed.allocs
  rw [hal] at hok
  obtain ⟨rfl, htail⟩ := List.forall_mem_cons.mp hok
  have hready : Ready (max buf.length 1 + n) ⟨{ conn.outcomes with allocs := as }, conn.sent⟩ :=
    ⟨⟨h.succeed.writes, htail, h.succeed.reads, h.succeed.chunks⟩, h.progress, h.writes⟩
  unfold httpServerNetconnPrintf osMalloc
  simp only [hal, List.tail_cons]
  obtain ⟨hres, hrest⟩ := write_ready hready
  exact ⟨hres, hrest, rfl, rfl, rfl⟩

/-- The body does not continue a header that has been given up. -/
theorem not_prefix_of_cut {header body : Bytes} {put more : List SentByte}
    (hput : put <+: RespPart.header.bytes header) (hlen : put.length < header.length)
    (hmore : more <+: RespPart.body.bytes body) (hne : more ≠ []) :
    ¬ put ++ more <+: RespPart.header.bytes header ++ RespPart.body.bytes body := by
  intro hpre
  obtain ⟨rest, hrest⟩ := hput
  rw [← hrest, List.append_assoc, List.prefix_append_right_inj] at hpre
  obtain ⟨x, xs, rfl⟩ := List.exists_cons_of_ne_nil hne
  have hrestne : rest ≠ [] := by
    rintro rfl
    rw [List.append_nil] at hrest
    rw [hrest, length_bytes] at hlen
    omega
  obtain ⟨y, ys, rfl⟩ := List.exists_cons_of_ne_nil hrestne
  have hhead : x = y := (List.cons_prefix_cons.mp hpre).1
  have hx : x ∈ RespPart.body.bytes body := hmore.subset List.mem_cons_self
  have hy : y ∈ RespPart.header.bytes header := by
    rw [← hrest]
    exact List.mem_append_right _ List.mem_cons_self
  obtain ⟨c, -, rfl⟩ := List.mem_map.mp hx
  obtain ⟨d, -, rfl⟩ := List.mem_map.mp hy
  simp at hhead

/-! ### The response -/

section Response

variable (resp : HttpServerResp) (extraHeaderFields hostname date : Bytes)

/-- A response has its content apart, or `{}` in its place, or it sends to the login page. -/
theorem ofResp_cases {P : RespText → Prop}
    (hwith : ∀ extra code msg, P (.withContent resp extra code msg date))
    (hwithout : ∀ code msg, P (.withoutContent code msg))
    (hauth : ∀ extra code msg, P (.authHtml extra code msg hostname)) :
    P (.ofResp resp extraHeaderFields hostname date) := by
  have hcode : ∀ code msg, P (.withCode resp code msg date) := by
    intro code msg
    unfold RespText.withCode
    split_ifs
    · exact hwithout code msg
    · exact hwith [] code msg
  unfold RespText.ofResp
  cases resp.httpRespCode with
  | c200 => exact hwith _ _ _
  | c206 => exact hwith _ _ _
  | c299 => exact hwith _ _ _
  | c301 => exact hauth _ _ _
  | c302 => exact hauth _ _ _
  | c401 => exact hwith _ _ _
  | c403 => exact hwith _ _ _
  | c400 => exact hcode _ _
  | c404 => exact hcode _ _
  | c409 => exact hcode _ _
  | c429 => exact hcode _ _
  | c500 => exact hcode _ _
  | c502 => exact hcode _ _
  | c503 => exact hcode _ _
  | c504 => exact hcode _ _

variable (conn : Netconn)

theorem send_withContent (extra : Bytes) (code : HttpRespCode) (msg : Bytes) :
    (RespText.withContent resp extra code msg date).send resp conn =
      httpServerNetconnRespWithContent resp date conn extra code msg := rfl

theorem send_withoutContent (code : HttpRespCode) (msg : Bytes) :
    (RespText.withoutContent code msg).send resp conn =
      httpServerNetconnRespWithoutContent conn code msg := rfl

theorem send_authHtml (code : HttpRespCode) (msg : Bytes) :
    (RespText.authHtml extraHeaderFields code msg hostname).send resp conn =
      httpServerNetconnRespAuthHtml extraHeaderFields hostname conn code msg := by
  have hbytes : (RespText.authHtml extraHeaderFields code msg hostname).bytes =
      RespPart.header.bytes (headerAuthHtml extraHeaderFields code msg hostname) :=
    List.append_nil _
  unfold RespText.send httpServerNetconnRespAuthHtml
  rw [hbytes]
  rfl

theorem send_withCode (code : HttpRespCode) (msg : Bytes) :
    (RespText.withCode resp code msg date).send resp conn =
      httpServerNetconnRespWithCode resp date conn code msg := by
  unfold RespText.withCode httpServerNetconnRespWithCode
  split_ifs
  · exact send_withoutContent resp conn code msg
  · exact send_withContent resp date conn [] code msg

theorem httpServerNetconnResp_eq :
    httpServerNetconnResp resp extraHeaderFields hostname date conn =
      (RespText.ofResp resp extraHeaderFields hostname date).send resp conn := by
  unfold httpServerNetconnResp RespText.ofResp
  cases resp.httpRespCode with
  | c200 => exact (send_withContent _ _ _ _ _ _).symm
  | c206 => exact (send_withContent _ _ _ _ _ _).symm
  | c299 => exact (send_withContent _ _ _ _ _ _).symm
  | c301 => exact (send_authHtml _ _ _ _ _ _).symm
  | c302 => exact (send_authHtml _ _ _ _ _ _).symm
  | c401 => exact (send_withContent _ _ _ _ _ _).symm
  | c403 => exact (send_withContent _ _ _ _ _ _).symm
  | c400 => exact (send_withCode _ _ _ _ _).symm
  | c404 => exact (send_withCode _ _ _ _ _).symm
  | c409 => exact (send_withCode _ _ _ _ _).symm
  | c429 => exact (send_withCode _ _ _ _ _).symm
  | c500 => exact (send_withCode _ _ _ _ _).symm
  | c502 => exact (send_withCode _ _ _ _ _).symm
  | c503 => exact (send_withCode _ _ _ _ _).symm
  | c504 => exact (send_withCode _ _ _ _ _).symm

end Response

/-- What a response has to satisfy to be sent, apart from the outcomes. -/
structure Sendable (resp : HttpServerResp) (t : RespText) : Prop where
  header : t.header ≠ []
  body : t.separate = true → t.body = resp.content
  declared : ∀ n ∈ t.declared,
    (∃ before behind, t.header = before ++ contentLenBuf n ++ behind) ∧ t.body.length = n

theorem sendable_ofResp (hdel : resp.Delivers) (extraHeaderFields hostname date : Bytes) :
    Sendable resp (.ofResp resp extraHeaderFields hostname date) := by
  apply ofResp_cases
  · intro extra code msg
    refine ⟨by simp [RespText.withContent, headerWithContent, ascii], fun _ => rfl, ?_⟩
    intro n hn
    unfold RespText.withContent at hn
    split_ifs at hn with hlen
    · obtain rfl : resp.contentLen = n := Option.some.inj hn
      refine ⟨?_, hdel.length⟩
      exact ⟨statusLine code msg ++ serverLine ++ httpServerGenHeaderDateStr date ++
          contentTypeLine resp,
        extra ++ httpGetContentEncodingStr resp ++ httpGetCacheControlStr resp ++ ascii "\r\n",
        by simp [RespText.withContent, headerWithContent, List.append_assoc]⟩
    · simp at hn
  · intro code msg
    refine ⟨by simp [RespText.withoutContent, headerWithoutContent, ascii], ?_, ?_⟩
    · simp [RespText.withoutContent]
    · intro n hn
      obtain rfl : emptyJson.length = n := Option.some.inj hn
      refine ⟨?_, rfl⟩
      exact ⟨statusLine code msg ++ serverLine ++ (ascii "Content-type: " ++
        httpGetContentTypeStr .applicationJson ++ ascii "; charset=utf-8\r\n"), ascii "\r\n", rfl⟩
  · intro extra code msg
    refine ⟨by simp [RespText.authHtml, headerAuthHtml, ascii], ?_, ?_⟩
    · simp [RespText.authHtml]
    · simp [RespText.authHtml]

section Send

variable {t : RespText} {o : SendOutcomes}

theorem send_separate (h : t.separate = true) :
    t.send resp conn =
      match httpServerNetconnPrintf (RespPart.header.bytes t.header) conn with
      | (none, conn) => (none, conn)
      | (some _, conn) => httpServerWriteContent resp conn := by
  rw [RespText.send, if_pos h]

/-- A response in one piece is sent as one buffer. -/
theorem send_joined (h : t.separate = false) :
    (t.send resp conn).2 = (httpServerNetconnPrintf t.bytes conn).2 ∧
      ((t.send resp conn).1 = none ↔ (httpServerNetconnPrintf t.bytes conn).1 = none) := by
  rw [RespText.send, if_neg (by simp [h])]
  rcases httpServerNetconnPrintf t.bytes conn with ⟨_ | b, conn'⟩
  · simp
  · simp

/-- Where the printing of the header does not return, nothing more is sent. -/
theorem send_of_none (h : t.separate = true)
    (hnone : (httpServerNetconnPrintf (RespPart.header.bytes t.header) conn).1 = none) :
    t.send resp conn =
      (none, (httpServerNetconnPrintf (RespPart.header.bytes t.header) conn).2) := by
  rw [send_separate h]
  rcases hp : httpServerNetconnPrintf (RespPart.header.bytes t.header) conn with ⟨_ | b, conn'⟩
  · rfl
  · simp [hp] at hnone

theorem send_of_some (h : t.separate = true)
    (hsome : (httpServerNetconnPrintf (RespPart.header.bytes t.header) conn).1 ≠ none) :
    t.send resp conn =
      httpServerWriteContent resp
        (httpServerNetconnPrintf (RespPart.header.bytes t.header) conn).2 := by
  rw [send_separate h]
  rcases hp : httpServerNetconnPrintf (RespPart.header.bytes t.header) conn with ⟨_ | b, conn'⟩
  · simp [hp] at hsome
  · rfl

theorem send_inOrder_iff (hdel : resp.Delivers) (hsend : Sendable resp t) :
    (t.send resp ⟨o, []⟩).2.sent <+: t.bytes ↔ ¬ ContentAfterCut resp t o := by
  cases hsep : t.separate with
  | false =>
    refine iff_of_true ?_ ?_
    · rw [(send_joined hsep).1]
      obtain ⟨put, hsent, hput⟩ := printf_puts t.bytes ⟨o, []⟩
      rwa [hsent]
    · rintro ⟨htrue, -⟩
      simp [hsep] at htrue
  | true =>
    have hbody := hsend.body hsep
    have hheader : RespPart.header.bytes t.header ≠ [] := mt bytes_eq_nil.mp hsend.header
    obtain ⟨put, hsent, hput⟩ := printf_puts (RespPart.header.bytes t.header) ⟨o, []⟩
    rw [List.nil_append] at hsent
    unfold ContentAfterCut RespText.bytes
    rw [hbody]
    cases hcut : headerCut t.header.length o with
    | none =>
      refine iff_of_true ?_ (by simp)
      by_cases hres :
          (httpServerNetconnPrintf (RespPart.header.bytes t.header) ⟨o, []⟩).1 = none
      · rw [send_of_none hsep hres, hsent]
        exact hput.trans (List.prefix_append _ _)
      · rw [← length_bytes .header] at hcut
        have hall := printf_uncut ⟨o, []⟩ hcut hres
        obtain ⟨more, hmore, hpre⟩ := content_puts resp
          (httpServerNetconnPrintf (RespPart.header.bytes t.header) ⟨o, []⟩).2
        rw [send_of_some hsep hres, hmore, hall, List.nil_append]
        exact (List.prefix_append_right_inj _).mpr hpre
    | some o' =>
      rw [← length_bytes .header] at hcut
      obtain ⟨hres, houtcomes, hlen⟩ := printf_cut ⟨o, []⟩ hheader hcut
      rw [hsent, length_bytes, List.length_nil, Nat.zero_add] at hlen
      rw [send_of_some hsep (by rw [hres]; simp)]
      obtain ⟨more, hmore, hpre⟩ := content_puts resp
        (httpServerNetconnPrintf (RespPart.header.bytes t.header) ⟨o, []⟩).2
      have hstarts := content_sent_ne hdel
        (httpServerNetconnPrintf (RespPart.header.bytes t.header) ⟨o, []⟩).2
      rw [houtcomes, hmore, Ne, List.append_right_eq_self] at hstarts
      rw [hmore, hsent]
      cases hstart : contentStarts resp o' with
      | true =>
        refine iff_of_false ?_ (by simp [hsep, hstart])
        exact not_prefix_of_cut hput hlen hpre (hstarts.mpr hstart)
      | false =>
        refine iff_of_true ?_ (by simp [hstart])
        have hnil : more = [] := by
          by_contra hne
          rw [hstarts.mp hne] at hstart
          simp at hstart
        rw [hnil, List.append_nil]
        exact hput.trans (List.prefix_append _ _)

theorem send_whole (hdel : resp.Delivers) (hsend : Sendable resp t) (hok : o.Succeed)
    (hres : (t.send resp ⟨o, []⟩).1 = some ()) : (t.send resp ⟨o, []⟩).2.sent = t.bytes := by
  cases hsep : t.separate with
  | false =>
    have hprinted : (httpServerNetconnPrintf t.bytes ⟨o, []⟩).1 ≠ none := by
      intro hnone
      rw [(send_joined hsep).2.mpr hnone] at hres
      simp at hres
    rw [(send_joined hsep).1]
    exact (printf_whole ⟨o, []⟩ hok hprinted).1
  | true =>
    have hprinted :
        (httpServerNetconnPrintf (RespPart.header.bytes t.header) ⟨o, []⟩).1 ≠ none := by
      intro hnone
      rw [send_of_none hsep hnone] at hres
      simp at hres
    obtain ⟨hall, hok'⟩ := printf_whole ⟨o, []⟩ hok hprinted
    rw [send_of_some hsep hprinted] at hres ⊢
    rw [content_whole hdel hok' hres, hall, List.nil_append, RespText.bytes, hsend.body hsep]

theorem send_ends (hsend : Sendable resp t) (hok : o.Succeed)
    (henough : o.Enough t.bytes.length) : (t.send resp ⟨o, []⟩).1 = some () := by
  have hlen : t.bytes.length = t.header.length + t.body.length := by
    rw [RespText.bytes, List.length_append, length_bytes, length_bytes]
  have hheader := List.length_pos_iff.mpr hsend.header
  have hwrites := henough.writes
  have htwo := henough.allocs
  have hallocs : o.allocs ≠ [] := by
    rw [← List.length_pos_iff]
    omega
  cases hsep : t.separate with
  | false =>
    have hready : Ready (max t.bytes.length 1 + 0) ⟨o, []⟩ := by
      refine ⟨hok, henough.progress, ?_⟩
      simp only
      omega
    obtain ⟨hres, -⟩ := printf_ends hready hallocs
    cases hsent : (t.send resp ⟨o, []⟩).1 with
    | none =>
      rw [(send_joined hsep).2, hres] at hsent
      simp at hsent
    | some u => rfl
  | true =>
    have hready : Ready (max (RespPart.header.bytes t.header).length 1 +
        max resp.content.length 1) ⟨o, []⟩ := by
      refine ⟨hok, henough.progress, ?_⟩
      rw [length_bytes, ← hsend.body hsep]
      simp only
      omega
    obtain ⟨hres, hrest, hal, hreads, hchunks⟩ := printf_ends hready hallocs
    rw [send_of_some hsep (by rw [hres]; simp)]
    refine content_ends hrest ?_ ?_ ?_
    · rw [hal, ← List.length_pos_iff, List.length_tail]
      simp only
      omega
    · rw [hreads, ← hsend.body hsep]
      exact le_trans (by omega) henough.reads
    · rw [hchunks, ← hsend.body hsep]
      exact lt_of_le_of_lt (by omega) henough.chunks

end Send

end RespFraming

open RespFraming

/-- A response keeps its framing just when its content does not follow a header that has been given
up half-way. -/
theorem resp_framing (resp : HttpServerResp) (extraHeaderFields hostname date : Bytes)
    (o : SendOutcomes) (hdel : resp.Delivers) :
    Framed (.ofResp resp extraHeaderFields hostname date) o
        (httpServerNetconnResp resp extraHeaderFields hostname date ⟨o, []⟩) ↔
      ¬ ContentAfterCut resp (.ofResp resp extraHeaderFields hostname date) o := by
  have hsend := sendable_ofResp hdel extraHeaderFields hostname date
  rw [httpServerNetconnResp_eq]
  constructor
  · intro h
    exact (send_inOrder_iff hdel hsend).mp h.inOrder
  · intro h
    exact ⟨(send_inOrder_iff hdel hsend).mpr h, send_whole hdel hsend, send_ends hsend,
      hsend.declared⟩

/-- A response with four bytes of content in static memory. -/
def dataResp : HttpServerResp :=
  { httpServerResp200Json (ascii "data") with contentType := .textPlain, flagNoCache := false }

theorem resp_framing_data :
    let t := RespText.ofResp dataResp [] (ascii "myhost.local") (ascii "Thu, 01 Jan 1970 00:00:00")
    let o : SendOutcomes := ⟨[⟨false, 100, false⟩, ⟨false, 100, false⟩], [true], [], []⟩
    dataResp.Delivers ∧ ¬ ContentAfterCut dataResp t o ∧
      Framed t o (httpServerNetconnResp dataResp [] (ascii "myhost.local")
        (ascii "Thu, 01 Jan 1970 00:00:00") ⟨o, []⟩) := by
  intro t o
  have hdel : dataResp.Delivers := ⟨rfl, by simp [dataResp, httpServerResp200Json]⟩
  have hcut : ¬ ContentAfterCut dataResp t o := by
    rintro ⟨-, o', hcut, -⟩
    have hnone : headerCut t.header.length o = none := by decide +kernel
    rw [hnone] at hcut
    simp at hcut
  exact ⟨hdel, hcut, (resp_framing dataResp [] (ascii "myhost.local")
    (ascii "Thu, 01 Jan 1970 00:00:00") o hdel).mpr hcut⟩

/-- There is no memory for the header, and the content is sent all the same. -/
theorem resp_without_header :
    (httpServerNetconnResp dataResp [] (ascii "myhost.local") (ascii "Thu, 01 Jan 1970 00:00:00")
      ⟨⟨[⟨false, 4, false⟩], [false], [], []⟩, []⟩).2.sent = RespPart.body.bytes (ascii "data") ∧
    ¬ ∀ (resp : HttpServerResp) (extraHeaderFields hostname date : Bytes) (o : SendOutcomes),
      resp.Delivers → Framed (.ofResp resp extraHeaderFields hostname date) o
        (httpServerNetconnResp resp extraHeaderFields hostname date ⟨o, []⟩) := by
  constructor
  · decide +kernel
  · intro h
    have hframed := h dataResp [] (ascii "myhost.local") (ascii "Thu, 01 Jan 1970 00:00:00")
      ⟨[⟨false, 4, false⟩], [false], [], []⟩ ⟨rfl, by simp [dataResp, httpServerResp200Json]⟩
    have hprefix := hframed.inOrder
    revert hprefix
    decide +kernel

end Auth
end Esp32WifiManager
