import Esp32WifiManager.Servers.DnsRequest

/-!
# The arrays of the DNS server

The bounds of the handler do not depend on `recvfrom` being right about the
number of bytes: whatever it returns, and whatever it has put into the first
bytes of the array, the checks of the handler keep every access inside the two
arrays.
-/

namespace Esp32WifiManager
namespace Servers

open CString CheckedMem

/-- What `recvfrom` has done: its result, and the bytes it has put into the buffer. -/
structure SocketRecv (size : ℕ) where
  result : ℤ
  bytes : Bytes
  fits : bytes.length ≤ size

/-- The result for a datagram, whose end may be cut off; `none` is the timeout. -/
def SocketRecv.ofDatagram (size : ℕ) : Option Bytes → SocketRecv size
  | none => ⟨-1, [], Nat.zero_le _⟩
  | some d => ⟨(d.take size).length, d.take size, List.length_take_le _ _⟩

/-- `dns_server_handle_req` for any outcome of `recvfrom`. -/
def dnsServerHandleRecv (addr : UInt32) (recv : SocketRecv dnsQueryMaxSize)
    (pTmpBuf : DnsServerTmpBuf) : Checked (Option Bytes × DnsServerTmpBuf) := do
  let data ← (Block.zero (dnsQueryMaxSize + 1)).write 0 recv.bytes
  if recv.result < 0 then return (none, ⟨data, pTmpBuf.response⟩)
  else if recv.result.toNat < sizeofDnsHeader then return (none, ⟨data, pTmpBuf.response⟩)
  else if recv.result.toNat > dnsAnswerMaxSize - sizeofDnsAnswer then
    return (none, ⟨data, pTmpBuf.response⟩)
  else do
    let (sent, tmpBuf) ← dnsServerReply addr recv.result.toNat data pTmpBuf.response
    return (some sent, tmpBuf)

theorem Block.write_nil {n : ℕ} (b : Block n) : b.write 0 [] = .ok b := by
  simp [Block.write]

theorem dnsServerHandleReq_eq (addr : UInt32) (datagram : Option Bytes)
    (pTmpBuf : DnsServerTmpBuf) :
    dnsServerHandleReq addr datagram pTmpBuf =
      dnsServerHandleRecv addr (.ofDatagram dnsQueryMaxSize datagram) pTmpBuf := by
  cases datagram with
  | none =>
    simp only [dnsServerHandleReq, dnsServerHandleRecv, recvfrom, SocketRecv.ofDatagram,
      Block.write_nil, bind, Except.bind]
    rfl
  | some d =>
    simp only [dnsServerHandleReq, dnsServerHandleRecv, recvfrom, SocketRecv.ofDatagram, bind,
      Except.bind]
    cases (Block.zero (dnsQueryMaxSize + 1)).write 0 (d.take dnsQueryMaxSize) <;> rfl

/-- The array is the accepted length of bytes, and something behind them. -/
theorem exists_query {n length : ℕ} (data : Block n) (hmin : sizeofDnsHeader ≤ length)
    (hmax : length ≤ n) :
    ∃ header rest t, data.1 = header ++ rest ++ t ∧ header.length = sizeofDnsHeader ∧
      (header ++ rest).length = length := by
  have hlen := data.2
  have htake : (data.1.take length).take sizeofDnsHeader ++
      (data.1.take length).drop sizeofDnsHeader = data.1.take length := List.take_append_drop _ _
  refine ⟨(data.1.take length).take sizeofDnsHeader, (data.1.take length).drop sizeofDnsHeader,
    data.1.drop length, ?_, ?_, ?_⟩
  · rw [htake, List.take_append_drop]
  · rw [List.length_take, List.length_take]
    omega
  · rw [htake, List.length_take]
    omega

theorem length_replyTo (addr : UInt32) {q : Bytes} (hmin : sizeofDnsHeader ≤ q.length) :
    (replyTo addr q).length = q.length + sizeofDnsAnswer := by
  rw [replyTo, List.length_append, DnsHeader.length_toBytes, List.length_append,
    DnsAnswer.length_toBytes, List.length_drop]
  omega

/-- Every access of the handler is inside its array, what it sends fits the array of the reply, and
the loop over the domain stops at a NUL inside the array of the query. -/
theorem dns_handler_in_bounds (addr : UInt32) (recv : SocketRecv dnsQueryMaxSize)
    (pTmpBuf : DnsServerTmpBuf) :
    ∃ sent tmpBuf, dnsServerHandleRecv addr recv pTmpBuf = .ok (sent, tmpBuf) ∧
      ∀ m ∈ sent, m.length ≤ dnsAnswerMaxSize ∧ StopsAtNul tmpBuf.data (sizeofDnsHeader + 1) := by
  obtain ⟨data, hwrite, hdata⟩ := Block.write_behind (b := Block.zero (dnsQueryMaxSize + 1))
    (w := []) (d := recv.bytes) (t := List.replicate (dnsQueryMaxSize + 1) 0) rfl
    (by rw [List.length_replicate]; exact Nat.le_succ_of_le recv.fits)
  have hlast : data.1.getD dnsQueryMaxSize 0 = 0 := by
    rw [hdata, List.nil_append, List.getD_append_right _ _ _ _ recv.fits]
    exact getD_eq_zero (fun c hc => List.eq_of_mem_replicate (List.mem_of_mem_drop hc)) _
  simp only [List.length_nil] at hwrite
  simp only [dnsServerHandleRecv, hwrite, bind, Except.bind, pure, Except.pure]
  by_cases hneg : recv.result < 0
  · simp only [if_pos hneg]
    exact ⟨_, _, rfl, by simp⟩
  by_cases hshort : recv.result.toNat < sizeofDnsHeader
  · simp only [if_neg hneg, if_pos hshort]
    exact ⟨_, _, rfl, by simp⟩
  by_cases hlong : recv.result.toNat > dnsAnswerMaxSize - sizeofDnsAnswer
  · simp only [if_neg hneg, if_neg hshort, if_pos hlong]
    exact ⟨_, _, rfl, by simp⟩
  -- what is left fits the array of the query, since the record takes what the reply has more
  have hmin : sizeofDnsHeader ≤ recv.result.toNat := Nat.not_lt.mp hshort
  have hmax : recv.result.toNat ≤ dnsQueryMaxSize := Nat.not_lt.mp hlong
  obtain ⟨header, rest, t, hsplit, hheader, hlen⟩ :=
    exists_query data hmin (Nat.le_succ_of_le hmax)
  obtain ⟨tmpBuf, hreply, hstops⟩ :=
    dnsServerReply_eq addr pTmpBuf.response hsplit hlast hheader (by rw [hlen]; exact hmax)
  rw [hlen] at hreply
  simp only [if_neg hneg, if_neg hshort, if_neg hlong, hreply]
  refine ⟨_, _, rfl, ?_⟩
  intro m hm
  obtain rfl := Option.some.inj hm
  refine ⟨?_, hstops⟩
  rw [length_replyTo addr (by rw [hlen]; exact hmin), hlen]
  exact Nat.add_le_add_right hmax sizeofDnsAnswer

end Servers
end Esp32WifiManager
