import Esp32WifiManager.Lib.CheckedMem
import Mathlib.Data.List.GetD

/-!
# A request to the DNS server

Every query is answered with the address of the access point. The reply is the
query with another header and one record behind it, built in an array beside the
one of the query. Every access is inside the two arrays.
-/

namespace Esp32WifiManager
namespace Servers

open CString CheckedMem

/-! ### dns_server.h -/

def dnsQueryMaxSize : ℕ := 80

def dnsAnswerMaxSize : ℕ := dnsQueryMaxSize + 16

/-- The bytes of a `uint16_t` in memory. -/
def le16 (x : UInt16) : Bytes := [x.toUInt8, (x >>> 8).toUInt8]

def le32 (x : UInt32) : Bytes :=
  [x.toUInt8, (x >>> 8).toUInt8, (x >>> 16).toUInt8, (x >>> 24).toUInt8]

/-- The `uint16_t` at an offset. -/
def le16At (b : Bytes) (i : ℕ) : UInt16 := (b.getD i 0).toUInt16 + 256 * (b.getD (i + 1) 0).toUInt16

def htons (x : UInt16) : UInt16 := x <<< 8 ||| x >>> 8

/-- `dns_header_t`; the first bit field of a byte has its lowest bits. -/
structure DnsHeader where
  identifier : UInt16
  flagRecursionDesired : BitVec 1
  flagTruncation : BitVec 1
  flagAuthoritativeAnswer : BitVec 1
  operationCode : BitVec 4
  flagQueryResponse : BitVec 1
  responseOde : BitVec 4
  zeroBits : BitVec 3
  flagRecursionAvailable : BitVec 1
  questionCount : UInt16
  answerRecordCount : UInt16
  authorityRecordCount : UInt16
  additionalRecordCount : UInt16

def sizeofDnsHeader : ℕ := 12

namespace DnsHeader

def ofBytes (b : Bytes) : DnsHeader :=
  let flags := (b.getD 2 0).toBitVec
  let codes := (b.getD 3 0).toBitVec
  { identifier := le16At b 0
    flagRecursionDesired := flags.extractLsb' 0 1
    flagTruncation := flags.extractLsb' 1 1
    flagAuthoritativeAnswer := flags.extractLsb' 2 1
    operationCode := flags.extractLsb' 3 4
    flagQueryResponse := flags.extractLsb' 7 1
    responseOde := codes.extractLsb' 0 4
    zeroBits := codes.extractLsb' 4 3
    flagRecursionAvailable := codes.extractLsb' 7 1
    questionCount := le16At b 4
    answerRecordCount := le16At b 6
    authorityRecordCount := le16At b 8
    additionalRecordCount := le16At b 10 }

def toBytes (h : DnsHeader) : Bytes :=
  le16 h.identifier ++
    [⟨h.flagQueryResponse ++ h.operationCode ++ h.flagAuthoritativeAnswer ++ h.flagTruncation ++
        h.flagRecursionDesired⟩,
      ⟨h.flagRecursionAvailable ++ h.zeroBits ++ h.responseOde⟩] ++
    le16 h.questionCount ++ le16 h.answerRecordCount ++ le16 h.authorityRecordCount ++
    le16 h.additionalRecordCount

end DnsHeader

def dnsReplyCodeNoError : BitVec 4 := 0

def dnsOpcodeQuery : BitVec 4 := 0

def dnsAnswerTypeA : UInt16 := 1

def dnsAnswerClassIn : UInt16 := 1

/-- `dns_answer_t`. -/
structure DnsAnswer where
  domainName : UInt16
  dnsResponseType : UInt16
  dnsResponseClass : UInt16
  timeToLiveSeconds : UInt32
  dnsResponseDataLength : UInt16
  dnsResponseData : UInt32

def sizeofDnsAnswer : ℕ := 16

def DnsAnswer.toBytes (a : DnsAnswer) : Bytes :=
  le16 a.domainName ++ le16 a.dnsResponseType ++ le16 a.dnsResponseClass ++
    le32 a.timeToLiveSeconds ++ le16 a.dnsResponseDataLength ++ le32 a.dnsResponseData

/-! ### dns_server.c -/

/-- The buffers of `dns_server_tmp_buf_t` that hold a query and its reply. -/
structure DnsServerTmpBuf where
  data : Block (dnsQueryMaxSize + 1)
  response : Block dnsAnswerMaxSize

/-- The arrays before the first request, which `os_calloc` has filled with zeros. -/
def DnsServerTmpBuf.zero : DnsServerTmpBuf := ⟨Block.zero _, Block.zero _⟩

/-- Up to the NUL that the loop finds. -/
def replaceNonAsciiWithDots {n : ℕ} (data : Block n) (pDomain : ℕ) : Checked (Block n) :=
  match _hget : data.get pDomain with
  | .error e => .error e
  | .ok c =>
    if c = 0 then .ok data
    else
      match if c < 32 ∨ 122 < c then data.write pDomain [46] else .ok data with
      | .error e => .error e
      | .ok data => replaceNonAsciiWithDots data (pDomain + 1)
termination_by n - pDomain
decreasing_by
  have := Block.get_ok _hget
  omega

/-- At most `size` bytes of a datagram, the rest is dropped; `none` is the timeout. -/
def recvfrom {n : ℕ} (datagram : Option Bytes) (buf : Block n) (size : ℕ) :
    Checked (ℤ × Block n) :=
  match datagram with
  | none => .ok (-1, buf)
  | some d => do
    let buf ← buf.write 0 (d.take size)
    return ((d.take size).length, buf)

def replyHeader (dnsHeader : DnsHeader) : DnsHeader :=
  { dnsHeader with
    flagQueryResponse := 1
    operationCode := dnsOpcodeQuery
    flagAuthoritativeAnswer := 1
    responseOde := dnsReplyCodeNoError
    flagTruncation := 0
    flagRecursionDesired := 0
    answerRecordCount := dnsHeader.questionCount
    authorityRecordCount := 0
    additionalRecordCount := 0 }

def dnsAnswerOf (addr : UInt32) : DnsAnswer where
  domainName := htons 0xC00C
  dnsResponseType := htons dnsAnswerTypeA
  dnsResponseClass := htons dnsAnswerClassIn
  timeToLiveSeconds := 0
  dnsResponseDataLength := htons 4
  dnsResponseData := addr

/-- The reply to the `length` bytes that were received. -/
def dnsServerReply (addr : UInt32) (length : ℕ) (data : Block (dnsQueryMaxSize + 1))
    (response : Block dnsAnswerMaxSize) : Checked (Bytes × DnsServerTmpBuf) := do
  let data ← data.write length [0]
  -- the header
  let response ← response.write 0 (← data.read 0 sizeofDnsHeader)
  let dnsHeader := DnsHeader.ofBytes (← response.read 0 sizeofDnsHeader)
  let response ← response.write 0 (replyHeader dnsHeader).toBytes
  -- the rest of the query
  let response ← response.write sizeofDnsHeader
    (← data.read sizeofDnsHeader (length - sizeofDnsHeader))
  -- the domain for the log
  let data ← replaceNonAsciiWithDots data (sizeofDnsHeader + 1)
  let response ← response.write length (dnsAnswerOf addr).toBytes
  return (← response.read 0 (length + sizeofDnsAnswer), ⟨data, response⟩)

/-- What is sent to the client, and the buffers afterwards. -/
def dnsServerHandleReq (addr : UInt32) (datagram : Option Bytes) (pTmpBuf : DnsServerTmpBuf) :
    Checked (Option Bytes × DnsServerTmpBuf) := do
  let (length, data) ← recvfrom datagram (Block.zero (dnsQueryMaxSize + 1)) dnsQueryMaxSize
  if length < 0 then return (none, ⟨data, pTmpBuf.response⟩)
  else if length.toNat < sizeofDnsHeader then return (none, ⟨data, pTmpBuf.response⟩)
  else if length.toNat > dnsAnswerMaxSize - sizeofDnsAnswer then
    return (none, ⟨data, pTmpBuf.response⟩)
  else do
    let (sent, tmpBuf) ← dnsServerReply addr length.toNat data pTmpBuf.response
    return (some sent, tmpBuf)

section Handler

@[simp] theorem length_le16 (x : UInt16) : (le16 x).length = 2 := rfl

@[simp] theorem length_le32 (x : UInt32) : (le32 x).length = 4 := rfl

theorem DnsHeader.length_toBytes (h : DnsHeader) : h.toBytes.length = sizeofDnsHeader := by
  simp [toBytes, sizeofDnsHeader]

theorem DnsAnswer.length_toBytes (a : DnsAnswer) : a.toBytes.length = sizeofDnsAnswer := by
  simp [toBytes, sizeofDnsAnswer]

theorem getD_eq_zero {t : Bytes} (h : ∀ c ∈ t, c = 0) (i : ℕ) : t.getD i 0 = 0 := by
  rw [List.getD_eq_getElem?_getD]
  cases hc : t[i]? with
  | none => rfl
  | some c => exact h c (List.mem_of_getElem? hc)

/-- The loop has stopped at a NUL of the block, and what stands before it can be printed. -/
def StopsAtNul {n : ℕ} (data : Block n) (pDomain : ℕ) : Prop :=
  ∃ k, pDomain ≤ k ∧ k < n ∧ data.1.getD k 0 = 0 ∧
    ∀ m, pDomain ≤ m → m < k → 32 ≤ data.1.getD m 0 ∧ data.1.getD m 0 ≤ 122

/-- The byte of one pass is printable afterwards, and the other bytes are as before. -/
theorem exists_dot {n : ℕ} {i : ℕ} (data : Block n) (hi : i < n) :
    ∃ data', (if data.1.getD i 0 < 32 ∨ 122 < data.1.getD i 0 then data.write i [46]
        else .ok data) = .ok data' ∧
      (32 ≤ data'.1.getD i 0 ∧ data'.1.getD i 0 ≤ 122) ∧
      ∀ j ≠ i, data'.1.getD j 0 = data.1.getD j 0 := by
  split_ifs with hdot
  · obtain ⟨data', hwrite, hbyte, hkeep⟩ := Block.write_byte hi 46 (b := data)
    refine ⟨data', hwrite, ?_, hkeep⟩
    rw [hbyte]
    decide
  · rw [not_or, UInt8.not_lt, UInt8.not_lt] at hdot
    exact ⟨data, rfl, hdot, fun _ _ => rfl⟩

/-- The loop ends when there is a NUL at its start or behind it. -/
theorem exists_replaceNonAsciiWithDots {n : ℕ} {i j : ℕ} {data : Block n} (hij : i ≤ j) (hj : j < n)
    (hnul : data.1.getD j 0 = 0) :
    ∃ data', replaceNonAsciiWithDots data i = .ok data' ∧ StopsAtNul data' i ∧
      ∀ m < i, data'.1.getD m 0 = data.1.getD m 0 := by
  induction hk : j - i generalizing i data with
  | zero =>
    obtain rfl : i = j := by omega
    rw [replaceNonAsciiWithDots]
    split
    · next e he => exact absurd ((Block.get_eq hj).symm.trans he) (by simp)
    · next c hc =>
      rw [Block.get_eq hj, hnul, Except.ok.injEq] at hc
      exact ⟨data, if_pos hc.symm, ⟨i, le_rfl, hj, hnul, fun m _ _ => by omega⟩, fun _ _ => rfl⟩
  | succ k ih =>
    have hi : i < n := by omega
    rw [replaceNonAsciiWithDots]
    split
    · next e he => exact absurd ((Block.get_eq hi).symm.trans he) (by simp)
    · next c hc =>
      rw [Block.get_eq hi, Except.ok.injEq] at hc
      subst hc
      by_cases hzero : data.1.getD i 0 = 0
      · rw [if_pos hzero]
        exact ⟨data, rfl, ⟨i, le_rfl, hi, hzero, fun m _ _ => by omega⟩, fun _ _ => rfl⟩
      · obtain ⟨data₁, hdot, hbyte, hkeep⟩ := exists_dot data hi
        obtain ⟨data', hloop, ⟨l, hil, hln, hstop, hprint⟩, hsame⟩ :=
          ih (i := i + 1) (by omega) ((hkeep j (by omega)).trans hnul) (by omega)
        simp only [if_neg hzero, hdot]
        refine ⟨data', hloop, ⟨l, by omega, hln, hstop, ?_⟩, ?_⟩
        · intro m him hml
          rcases Nat.eq_or_lt_of_le him with rfl | hlt
          · rw [hsame i (by omega)]
            exact hbyte
          · exact hprint m hlt hml
        · intro m hm
          rw [hsame m (by omega), hkeep m (by omega)]

/-- What is sent for a query. -/
def replyTo (addr : UInt32) (q : Bytes) : Bytes :=
  (replyHeader (.ofBytes (q.take sizeofDnsHeader))).toBytes ++
    (q.drop sizeofDnsHeader ++ (dnsAnswerOf addr).toBytes)

/-- The last byte of the array stays a NUL when a terminator is written into it. -/
theorem getD_terminated {n : ℕ} {data data₁ : Block (n + 1)} {q t : Bytes}
    (hdata : data.1 = q ++ t) (hdata₁ : data₁.1 = q ++ ([0] ++ t.drop 1)) (hmax : q.length ≤ n)
    (hlast : data.1.getD n 0 = 0) : data₁.1.getD n 0 = 0 := by
  rw [hdata₁, List.getD_append_right _ _ _ _ hmax]
  rw [hdata, List.getD_append_right _ _ _ _ hmax] at hlast
  cases hk : n - q.length with
  | zero => rfl
  | succ k =>
    rw [hk] at hlast
    cases t with
    | nil => simp
    | cons c t => simpa using hlast

/-- A query that fits is answered, and every access is inside the buffers. -/
theorem dnsServerReply_eq (addr : UInt32) {data : Block (dnsQueryMaxSize + 1)}
    (response : Block dnsAnswerMaxSize) {header rest t : Bytes}
    (hdata : data.1 = header ++ rest ++ t) (hlast : data.1.getD dnsQueryMaxSize 0 = 0)
    (hheader : header.length = sizeofDnsHeader)
    (hmax : (header ++ rest).length ≤ dnsQueryMaxSize) :
    ∃ tmpBuf, dnsServerReply addr (header ++ rest).length data response =
        .ok (replyTo addr (header ++ rest), tmpBuf) ∧
      StopsAtNul tmpBuf.data (sizeofDnsHeader + 1) := by
  have hroom := congrArg List.length hdata
  rw [data.2, List.length_append] at hroom
  have hresponse := response.2
  -- the terminator
  obtain ⟨data₁, hwrite, hdata₁⟩ := Block.write_behind (d := [0]) hdata (by simp; omega)
  have hreadHeader : data₁.read 0 sizeofDnsHeader = .ok header := by
    rw [← hheader]
    exact Block.read_behind (w := []) (by rw [hdata₁, List.append_assoc]; rfl)
  have hreadRest : data₁.read sizeofDnsHeader ((header ++ rest).length - sizeofDnsHeader) =
      .ok rest := by
    rw [← hheader, List.length_append, Nat.add_sub_cancel_left]
    exact Block.read_behind (by rw [hdata₁, List.append_assoc])
  -- the header
  obtain ⟨response₁, hresponse₁, hmem₁⟩ :=
    Block.write_behind (b := response) (w := []) (d := header) rfl
      (by rw [hresponse, hheader]; decide)
  have hreadBack : response₁.read 0 sizeofDnsHeader = .ok header := by
    rw [← hheader]
    exact Block.read_behind (w := []) hmem₁
  have hpatched := (replyHeader (.ofBytes header)).length_toBytes
  set patched := (replyHeader (.ofBytes header)).toBytes with hpatchedDef
  obtain ⟨response₂, hresponse₂, hmem₂⟩ :=
    Block.write_behind (w := []) (d := patched) hmem₁
      (by rw [hpatched, ← hheader]; simp)
  have hrestDrop : (header ++ response.1.drop header.length).drop patched.length =
      response.1.drop sizeofDnsHeader := by
    rw [hpatched, ← hheader, List.drop_left]
  rw [hrestDrop, List.nil_append] at hmem₂
  -- the rest of the query, and the answer behind it
  have hlen : (header ++ rest).length = (patched ++ rest).length := by
    rw [List.length_append, List.length_append, hheader, hpatched]
  have hspace : (patched ++ rest).length + (response.1.drop sizeofDnsHeader).length =
      rest.length + dnsAnswerMaxSize := by
    rw [List.length_append, hpatched, List.length_drop, hresponse]
    simp only [sizeofDnsHeader, dnsAnswerMaxSize, dnsQueryMaxSize]
    omega
  have hanswer := (dnsAnswerOf addr).length_toBytes
  simp only [hlen, dnsQueryMaxSize] at hmax
  simp only [dnsAnswerMaxSize, dnsQueryMaxSize] at hspace
  obtain ⟨response₃, hresponse₃, hmem₃⟩ :=
    Block.write_behind (d := rest) hmem₂ (by rw [List.length_append] at hspace hmax; omega)
  rw [← List.append_assoc] at hmem₃
  obtain ⟨response₄, hresponse₄, hmem₄⟩ :=
    Block.write_behind (d := (dnsAnswerOf addr).toBytes) hmem₃
      (by rw [hanswer, List.length_drop, sizeofDnsAnswer]; omega)
  have hsend : response₄.read 0 ((header ++ rest).length + sizeofDnsAnswer) =
      .ok (patched ++ (rest ++ (dnsAnswerOf addr).toBytes)) := by
    rw [hlen, ← hanswer, ← List.length_append, List.append_assoc]
    exact Block.read_behind (w := [])
      (by rw [hmem₄]; simp only [List.append_assoc, List.nil_append]; rfl)
  -- the last byte of the array of the query is a NUL
  have hlast₁ : data₁.1.getD dnsQueryMaxSize 0 = 0 :=
    getD_terminated hdata hdata₁ (by rw [hlen]; exact hmax) hlast
  obtain ⟨data₂, hdots, hstops, -⟩ :=
    exists_replaceNonAsciiWithDots (i := sizeofDnsHeader + 1) (by decide) (by decide) hlast₁
  refine ⟨⟨data₂, response₄⟩, ?_, hstops⟩
  have hreply : replyTo addr (header ++ rest) = patched ++ (rest ++ (dnsAnswerOf addr).toBytes) := by
    rw [replyTo, ← hheader, List.take_left, List.drop_left]
  rw [hpatched] at hresponse₃
  rw [← hlen] at hresponse₄
  simp only [List.length_nil] at hresponse₁ hresponse₂
  simp only [dnsServerReply, hwrite, hreadHeader, hresponse₁, hreadBack, ← hpatchedDef, hresponse₂,
    hreadRest, hresponse₃, hdots, hresponse₄, hsend, hreply, bind, Except.bind, pure, Except.pure]

/-- A datagram is cut off at the size of the query; what is left is answered if it has a header. -/
theorem dnsServerHandleReq_some (addr : UInt32) (d : Bytes) (pTmpBuf : DnsServerTmpBuf) :
    ∃ tmpBuf, dnsServerHandleReq addr (some d) pTmpBuf =
      .ok (if (d.take dnsQueryMaxSize).length < sizeofDnsHeader then none
        else some (replyTo addr (d.take dnsQueryMaxSize)), tmpBuf) := by
  have hmax : (d.take dnsQueryMaxSize).length ≤ dnsQueryMaxSize := by
    rw [List.length_take]
    exact Nat.min_le_left _ _
  set q := d.take dnsQueryMaxSize
  obtain ⟨data, hwrite, hdata⟩ := Block.write_behind (b := Block.zero (dnsQueryMaxSize + 1))
    (w := []) (d := q) (t := List.replicate (dnsQueryMaxSize + 1) 0) rfl
    (by rw [List.length_replicate]; omega)
  have hrecv : recvfrom (some d) (Block.zero (dnsQueryMaxSize + 1)) dnsQueryMaxSize =
      .ok ((q.length : ℤ), data) := by
    simp only [List.length_nil] at hwrite
    simp only [recvfrom, hwrite, bind, Except.bind, pure, Except.pure, q]
  have hnonneg : ¬ (q.length : ℤ) < 0 := by omega
  have hallowed : ¬ q.length > dnsAnswerMaxSize - sizeofDnsAnswer := by
    simp only [dnsAnswerMaxSize, sizeofDnsAnswer]
    omega
  simp only [dnsServerHandleReq, hrecv, bind, Except.bind, pure, Except.pure, hnonneg, if_false,
    Int.toNat_natCast, hallowed]
  by_cases hmin : q.length < sizeofDnsHeader
  · simp only [hmin, if_true]
    exact ⟨_, rfl⟩
  · have hq : q.take sizeofDnsHeader ++ q.drop sizeofDnsHeader = q := List.take_append_drop _ _
    have hheader : (q.take sizeofDnsHeader).length = sizeofDnsHeader := by
      rw [List.length_take]
      omega
    have hlast : data.1.getD dnsQueryMaxSize 0 = 0 := by
      rw [hdata, List.nil_append, List.getD_append_right _ _ _ _ hmax]
      exact getD_eq_zero (fun c hc => List.eq_of_mem_replicate (List.mem_of_mem_drop hc)) _
    rw [List.nil_append, ← hq] at hdata
    rw [← hq] at hmax
    obtain ⟨tmpBuf, hreply, -⟩ := dnsServerReply_eq addr pTmpBuf.response hdata hlast
      hheader hmax
    rw [hq] at hreply
    simp only [hmin, if_false, hreply]
    exact ⟨tmpBuf, rfl⟩

end Handler

end Servers
end Esp32WifiManager
