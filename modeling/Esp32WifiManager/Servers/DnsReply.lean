import Esp32WifiManager.Lib.DnsMessage
import Esp32WifiManager.Servers.DnsRequest

/-!
# The reply of the DNS server as a message

Of the counts of a query only the number of the questions is looked at, and the
bytes of its other sections are copied all the same. The reply can be read
exactly when the query has one record fewer than it has questions. A query that
is too long for the array is answered after it has been cut off.
-/

namespace Esp32WifiManager
namespace Servers

open CString CheckedMem DnsMessage

/-! ### The reply as a message -/

theorem le16_le16At (b : Bytes) (i : ℕ) : le16 (le16At b i) = [b.getD i 0, b.getD (i + 1) 0] := by
  simp only [le16, le16At]
  generalize b.getD i 0 = lo
  generalize b.getD (i + 1) 0 = hi
  have hlo := lo.toNat_lt
  have hhi := hi.toNat_lt
  congr 1
  · rw [← UInt8.toNat_inj]
    simp
  · congr 1
    rw [← UInt8.toNat_inj]
    simp
    omega

/-- The second byte of the flags: two fields of it are the query's. -/
def replyCodes (dnsHeader : DnsHeader) : UInt8 :=
  ⟨dnsHeader.flagRecursionAvailable ++ dnsHeader.zeroBits ++ dnsReplyCodeNoError⟩

/-- The header of the reply: the identifier and the number of the questions are the query's. -/
theorem toBytes_replyHeader (i i' f f' qd qd' an an' ns ns' ar ar' : UInt8) :
    (replyHeader (.ofBytes [i, i', f, f', qd, qd', an, an', ns, ns', ar, ar'])).toBytes =
      [i, i', 0x84, replyCodes (.ofBytes [i, i', f, f', qd, qd', an, an', ns, ns', ar, ar']), qd,
        qd', qd, qd', 0, 0, 0, 0] := by
  simp only [DnsHeader.toBytes, replyHeader, DnsHeader.ofBytes, le16_le16At]
  rfl

/-- The record says that the name of the first question has the address. -/
def IsAddressOf (addr : UInt32) (query : Message) (a : Record) : Prop :=
  query.questions.head?.map (·.name) = some a.name ∧ a.type = 1 ∧ a.cls = 1 ∧ a.data = le32 addr

instance {addr : UInt32} {query : Message} {a : Record} : Decidable (IsAddressOf addr query a) :=
  inferInstanceAs (Decidable (_ ∧ _ ∧ _ ∧ _))

/-- A reply to the query that has nothing but the address as answer. -/
structure IsReplyTo (addr : UInt32) (query reply : Message) : Prop where
  id : reply.id = query.id
  isResponse : reply.isResponse = true
  questions : reply.questions = query.questions
  answers : reply.answers ≠ [] ∧ ∀ a ∈ reply.answers, IsAddressOf addr query a
  authority : reply.authority = []
  additional : reply.additional = []

/-- All the records of a message. -/
def records (m : Message) : List Record := m.answers ++ (m.authority ++ m.additional)

theorem parse_eq_some {q : Bytes} {m : Message} (h : parse q = some m) :
    ∃ i i' f f' qd qd' an an' ns ns' ar ar' body,
      q = i :: i' :: f :: f' :: qd :: qd' :: an :: an' :: ns :: ns' :: ar :: ar' :: body ∧
      m.id = i.toNat * 256 + i'.toNat ∧
      sections (qd.toNat * 256 + qd'.toNat) (an.toNat * 256 + an'.toNat)
        (ns.toNat * 256 + ns'.toNat) (ar.toNat * 256 + ar'.toNat) body =
        some (m.questions, m.answers, m.authority, m.additional) := by
  rw [parse.eq_def] at h
  split at h
  · next i i' f f' qd qd' an an' ns ns' ar ar' body =>
    obtain ⟨s, hs, rfl⟩ := Option.map_eq_some_iff.mp h
    exact ⟨i, i', f, f', qd, qd', an, an', ns, ns', ar, ar', body, rfl, rfl, hs⟩
  · exact absurd h (by simp)

theorem toBytes_dnsAnswerOf (addr : UInt32) : (dnsAnswerOf addr).toBytes =
    192 :: 12 :: ([0, 1] ++ ([0, 1] ++ ([0, 0, 0, 0] ++ ([0, 4] ++ le32 addr)))) := by
  have hpointer : le16 (htons 0xC00C) = [192, 12] := by decide
  have hone : le16 (htons 1) = [0, 1] := by decide
  have hlength : le16 (htons 4) = [0, 4] := by decide
  have httl : le32 0 = [0, 0, 0, 0] := by decide
  simp only [DnsAnswer.toBytes, dnsAnswerOf, dnsAnswerTypeA, dnsAnswerClassIn, hpointer, hone,
    hlength, httl]
  simp

/-- The reply says what it should exactly when the query has one record fewer than questions, and
each of them is such an answer already. -/
theorem replyTo_iff (addr : UInt32) {q : Bytes} {m : Message} (hparse : parse q = some m) :
    (∃ r, parse (replyTo addr q) = some r ∧ IsReplyTo addr m r) ↔
      (records m).length + 1 = m.questions.length ∧ ∀ a ∈ records m, IsAddressOf addr m a := by
  obtain ⟨i, i', f, f', qd, qd', an, an', ns, ns', ar, ar', body, rfl, hid, hsections⟩ :=
    parse_eq_some hparse
  obtain ⟨hcount, -⟩ := sections_length hsections
  have hreply : replyTo addr
      (i :: i' :: f :: f' :: qd :: qd' :: an :: an' :: ns :: ns' :: ar :: ar' :: body) =
      [i, i', 0x84, replyCodes (.ofBytes [i, i', f, f', qd, qd', an, an', ns, ns', ar, ar']), qd,
        qd', qd, qd', 0, 0, 0, 0] ++ (body ++ (dnsAnswerOf addr).toBytes) := by
    rw [← toBytes_replyHeader i i' f f' qd qd' an an' ns ns' ar ar']
    rfl
  rw [hreply]
  cases hfirst : m.questions.head? with
  | none =>
    have hnil : m.questions = [] := List.head?_eq_none_iff.mp hfirst
    rw [hnil] at hcount
    constructor
    · rintro ⟨r, hr, hrep⟩
      obtain ⟨s, hs, rfl⟩ := Option.map_eq_some_iff.mp hr
      have hempty := (sections_length hs).2.trans hcount.symm
      exact absurd (List.length_eq_zero_iff.mp hempty) hrep.answers.1
    · rintro ⟨hlen, -⟩
      rw [hnil] at hlen
      exact absurd hlen (by simp)
  | some first =>
    obtain ⟨e, hname⟩ := sections_first_name hsections hfirst
    have hrecord := record_run_pointer [0, 1] [0, 1] [0, 0, 0, 0] [0, 4] (le32 addr) hname rfl rfl
      rfl rfl (by rw [length_le32]; decide)
    rw [← toBytes_dnsAnswerOf] at hrecord
    have hwhole := @sections_append_record _ _ _ _ body _ _ _ _ _
      (qd.toNat * 256 + qd'.toNat) _ hsections hrecord
    have hrecords : (records m).length =
        m.answers.length + (m.authority.length + m.additional.length) := by
      simp [records]
    have hlast : IsAddressOf addr m ⟨first.name, 1, 1, 0, le32 addr⟩ := by
      simp [IsAddressOf, hfirst]
    rw [← hcount] at hwhole
    rw [hrecords]
    constructor
    · rintro ⟨r, hr, hrep⟩
      obtain ⟨s, hs, rfl⟩ := Option.map_eq_some_iff.mp hr
      obtain ⟨hn, rfl⟩ := hwhole.mp (by rw [hcount]; exact hs)
      refine ⟨hn.symm, fun a ha => hrep.answers.2 a ?_⟩
      exact List.mem_append_left _ ha
    · rintro ⟨hn, hall⟩
      have hs := hwhole.mpr ⟨hn.symm, rfl⟩
      rw [hcount] at hs
      refine ⟨_, Option.map_eq_some_iff.mpr ⟨_, hs, rfl⟩, ?_⟩
      refine ⟨hid.symm, rfl, rfl, ⟨by simp, ?_⟩, rfl, rfl⟩
      intro a ha
      rcases List.mem_append.mp ha with ha | ha
      · exact hall a ha
      · obtain rfl := List.mem_singleton.mp ha
        exact hlast

/-- Every query that fits is answered. The reply is a message with the same questions and the
address as its only answers if and only if the query has one record fewer than questions, and each
of its records is the address already. -/
theorem dns_reply_well_formed_iff (addr : UInt32) (pTmpBuf : DnsServerTmpBuf) (q : Bytes)
    (m : Message) (hparse : parse q = some m) (hsize : q.length ≤ dnsQueryMaxSize) :
    ∃ sent tmpBuf, dnsServerHandleReq addr (some q) pTmpBuf = .ok (some sent, tmpBuf) ∧
      ((∃ r, parse sent = some r ∧ IsReplyTo addr m r) ↔
        (records m).length + 1 = m.questions.length ∧ ∀ a ∈ records m, IsAddressOf addr m a) := by
  obtain ⟨tmpBuf, hhandle⟩ := dnsServerHandleReq_some addr q pTmpBuf
  have hheader : ¬ q.length < sizeofDnsHeader := by
    obtain ⟨i, i', f, f', qd, qd', an, an', ns, ns', ar, ar', body, rfl, -⟩ := parse_eq_some hparse
    simp [sizeofDnsHeader]
  rw [List.take_of_length_le hsize, if_neg hheader] at hhandle
  exact ⟨replyTo addr q, tmpBuf, hhandle, replyTo_iff addr hparse⟩

/-- A query for the address of `a`, and the message it is. -/
def plainQuery : Bytes := [0x12, 0x34, 1, 0, 0, 1, 0, 0, 0, 0, 0, 0, 1, 97, 0, 0, 1, 0, 1]

def plainMessage : Message where
  id := 0x1234
  isResponse := false
  opcode := 0
  isAuthoritative := false
  isTruncated := false
  recursionDesired := true
  recursionAvailable := false
  rcode := 0
  questions := [⟨[[97]], 1, 1⟩]
  answers := []
  authority := []
  additional := []

theorem dns_reply_well_formed_iff_plain :
    ∃ sent tmpBuf, dnsServerHandleReq 0x01000A0A (some plainQuery) .zero = .ok (some sent, tmpBuf) ∧
      ∃ r, parse sent = some r ∧ IsReplyTo 0x01000A0A plainMessage r := by
  obtain ⟨sent, tmpBuf, hhandle, hiff⟩ := dns_reply_well_formed_iff 0x01000A0A .zero plainQuery
    plainMessage (by decide +kernel) (by decide)
  exact ⟨sent, tmpBuf, hhandle, hiff.mpr (by decide)⟩

/-- The same query from a client that announces its buffer in an additional record. -/
def ednsQuery : Bytes :=
  [0x12, 0x34, 1, 0, 0, 1, 0, 0, 0, 0, 0, 1, 1, 97, 0, 0, 1, 0, 1] ++
    [0, 0, 41, 16, 0, 0, 0, 0, 0, 0, 0]

/-- The reply to a query with an additional record cannot be read. -/
theorem dns_reply_edns_malformed :
    (parse ednsQuery).isSome = true ∧ ednsQuery.length ≤ dnsQueryMaxSize ∧
      ∃ sent tmpBuf, dnsServerHandleReq 0x01000A0A (some ednsQuery) .zero =
        .ok (some sent, tmpBuf) ∧ parse sent = none := by
  refine ⟨by decide +kernel, by decide, ?_⟩
  obtain ⟨tmpBuf, hhandle⟩ := dnsServerHandleReq_some 0x01000A0A ednsQuery .zero
  have hsmall : ednsQuery.take dnsQueryMaxSize = ednsQuery := by decide
  rw [hsmall, if_neg (by decide)] at hhandle
  exact ⟨_, tmpBuf, hhandle, by decide +kernel⟩

/-! ### Datagrams that do not fit -/

/-- A datagram that is longer than the array is never ignored: it is answered like the query that
its first bytes are. -/
theorem dns_oversize_answered (addr : UInt32) (pTmpBuf : DnsServerTmpBuf) (d : Bytes)
    (hsize : dnsQueryMaxSize < d.length) :
    ∃ sent tmpBuf, dnsServerHandleReq addr (some d) pTmpBuf = .ok (some sent, tmpBuf) ∧
      dnsServerHandleReq addr (some (d.take dnsQueryMaxSize)) pTmpBuf =
        .ok (some sent, tmpBuf) := by
  obtain ⟨tmpBuf, hhandle⟩ := dnsServerHandleReq_some addr d pTmpBuf
  have hheader : ¬ (d.take dnsQueryMaxSize).length < sizeofDnsHeader := by
    rw [List.length_take, Nat.min_eq_left hsize.le]
    decide
  rw [if_neg hheader] at hhandle
  have hrecv : recvfrom (some (d.take dnsQueryMaxSize)) (Block.zero (dnsQueryMaxSize + 1))
      dnsQueryMaxSize = recvfrom (some d) (Block.zero (dnsQueryMaxSize + 1)) dnsQueryMaxSize := by
    simp only [recvfrom, List.take_take, Nat.min_self]
  refine ⟨_, tmpBuf, hhandle, ?_⟩
  rw [dnsServerHandleReq, hrecv]
  exact hhandle

theorem dns_oversize_answered_filler :
    ∃ sent tmpBuf, dnsServerHandleReq 0x01000A0A (some (plainQuery ++ List.replicate 62 0)) .zero =
      .ok (some sent, tmpBuf) := by
  obtain ⟨sent, tmpBuf, hhandle, -⟩ :=
    dns_oversize_answered 0x01000A0A .zero (plainQuery ++ List.replicate 62 0) (by decide)
  exact ⟨sent, tmpBuf, hhandle⟩

/-- An answer is sent to a datagram of 81 bytes. -/
theorem dns_oversize_not_ignored :
    (plainQuery ++ List.replicate 62 0).length = dnsQueryMaxSize + 1 ∧
      ¬ ∃ tmpBuf, dnsServerHandleReq 0x01000A0A (some (plainQuery ++ List.replicate 62 0)) .zero =
        .ok (none, tmpBuf) := by
  refine ⟨by decide, ?_⟩
  rintro ⟨tmpBuf, hhandle⟩
  obtain ⟨tmpBuf', hanswer⟩ :=
    dnsServerHandleReq_some 0x01000A0A (plainQuery ++ List.replicate 62 0) .zero
  rw [hhandle, if_neg (by decide)] at hanswer
  exact absurd (Prod.mk.inj (Except.ok.inj hanswer)).1 (by simp)

end Servers
end Esp32WifiManager
