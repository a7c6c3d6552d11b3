import Esp32WifiManager.HttpServer.NetconnResp
import Mathlib.Algebra.BigOperators.Group.List.Basic
import Mathlib.Algebra.GroupWithZero.Nat

/-!
# Writing a buffer in parts

The loop of `http_server_netconn_write` with its offset and the tick counter,
which wraps around. The slices that are accepted never overlap and leave nothing
out. What the function returns is not always what has happened to the buffer:
the timeout is looked at before the end of the buffer.
-/

namespace Esp32WifiManager
namespace Auth
namespace NetconnWrite

open CString

/-- The error codes of lwIP. -/
inductive ErrEnum
  | ok | mem | buf | timeout | rte | inprogress | val | wouldblock | use | already | isconn | conn
  | netif | abrt | rst | clsd | arg
  deriving DecidableEq, Repr

/-- One call of `netconn_write_partly`, which accepts up to `bytes` bytes of those it is given when
there is no error, and the tick counter afterwards. -/
structure WriteCall where
  err : ErrEnum
  bytes : ℕ
  tick : BitVec 32
  deriving DecidableEq, Repr

/-- An error other than `ERR_WOULDBLOCK`. -/
def WriteCall.failed (call : WriteCall) : Bool := call.err ≠ .ok && call.err ≠ .wouldblock

def WriteCall.offered (call : WriteCall) : ℕ := if call.failed then 0 else call.bytes

/-- `send_timeout_ticks` and `tick_start`. -/
structure SendTimeout where
  ticks : BitVec 32
  start : BitVec 32
  deriving DecidableEq, Repr

/-- `pdMsToTicks` is the macro of the operating system. -/
def SendTimeout.of (pdMsToTicks : ℤ → BitVec 32) (sendTimeout : ℤ) (tickStart : BitVec 32) :
    SendTimeout where
  ticks := if sendTimeout ≠ 0 then pdMsToTicks sendTimeout else 0
  start := tickStart

def SendTimeout.passed (timeout : SendTimeout) (tick : BitVec 32) : Bool :=
  timeout.ticks ≠ 0 && timeout.ticks < tick - timeout.start

variable {α : Type*}

/-- What one call has accepted of the buffer. -/
structure Slice (α : Type*) where
  offset : ℕ
  content : List α
  deriving DecidableEq, Repr

/-- The loop from an offset on; `none` where the calls are used up. -/
def writeFrom (timeout : SendTimeout) (buf : List α) : ℕ → List WriteCall →
    Option Bool × List (Slice α)
  | _, [] => (none, [])
  | offset, call :: calls =>
    if call.failed then (some false, [])
    else
      let bytesWritten := min call.bytes (buf.length - offset)
      let slice : Slice α := ⟨offset, (buf.drop offset).take bytesWritten⟩
      let offset := offset + bytesWritten
      if timeout.passed call.tick then (some false, [slice])
      else if offset ≠ buf.length then
        let (res, slices) := writeFrom timeout buf offset calls
        (res, slice :: slices)
      else (some true, [slice])

def httpServerNetconnWriteCalls (timeout : SendTimeout) (buf : List α) (calls : List WriteCall) :
    Option Bool × List (Slice α) :=
  writeFrom timeout buf 0 calls

/-! ### The slices -/

def accepted (slices : List (Slice α)) : List α := slices.flatMap Slice.content

/-- From an offset on, each slice starts where the one before it has ended, inside the buffer. -/
def Contiguous (buf : List α) : ℕ → List (Slice α) → Prop
  | _, [] => True
  | offset, slice :: slices =>
    slice.offset = offset ∧ offset + slice.content.length ≤ buf.length ∧
      slice.content <+: buf.drop offset ∧
      Contiguous buf (offset + slice.content.length) slices

/-- One slice after the other, they are the buffer from the offset on, up to some point. -/
theorem Contiguous.accepted_isPrefix {buf : List α} {offset : ℕ} {slices : List (Slice α)}
    (h : Contiguous buf offset slices) : accepted slices <+: buf.drop offset := by
  induction slices generalizing offset with
  | nil => exact List.nil_prefix
  | cons slice slices ih =>
    obtain ⟨-, -, ⟨rest, hcontent⟩, hslices⟩ := h
    have hrest := ih hslices
    rw [← List.drop_drop, ← hcontent, List.drop_left] at hrest
    rw [accepted, List.flatMap_cons, ← hcontent]
    exact (List.prefix_append_right_inj _).mpr hrest

section Loop

variable (timeout : SendTimeout) (buf : List α) {offset : ℕ}

theorem length_content (call : WriteCall) (offset : ℕ) :
    ((buf.drop offset).take (min call.bytes (buf.length - offset))).length =
      min call.bytes (buf.length - offset) := by
  rw [List.length_take, List.length_drop]
  omega

theorem contiguous_writeFrom (calls : List WriteCall) (hoffset : offset ≤ buf.length) :
    Contiguous buf offset (writeFrom timeout buf offset calls).2 := by
  induction calls generalizing offset with
  | nil => trivial
  | cons call calls ih =>
    have hlen := length_content buf call offset
    have hle : offset + min call.bytes (buf.length - offset) ≤ buf.length := by omega
    have hpre := List.take_prefix (min call.bytes (buf.length - offset)) (buf.drop offset)
    rw [writeFrom]
    dsimp only
    split_ifs
    · trivial
    · exact ⟨rfl, by rw [hlen]; exact hle, hpre, trivial⟩
    · exact ⟨rfl, by rw [hlen]; exact hle, hpre, by rw [hlen]; exact ih hle⟩
    · exact ⟨rfl, by rw [hlen]; exact hle, hpre, trivial⟩

/-! ### The result -/

/-- The call ends the loop before its end is looked at. -/
def Stops (call : WriteCall) : Prop := call.failed = true ∨ timeout.passed call.tick = true

def offeredBefore (calls : List WriteCall) : ℕ := (calls.map WriteCall.offered).sum

/-- The call with which the last of `size` bytes is accepted. -/
def IsLast (size : ℕ) (before : List WriteCall) (call : WriteCall) : Prop :=
  (before = [] ∨ offeredBefore before < size) ∧ size ≤ offeredBefore before + call.offered

/-- The call with which the last byte is accepted comes in time and is no error. -/
def LastInTime (size : ℕ) (calls : List WriteCall) : Prop :=
  ∀ before call after, calls = before ++ call :: after → (∀ c ∈ before, ¬ Stops timeout c) →
    IsLast size before call → ¬ Stops timeout call

/-- The result says whether the rest of the buffer has been accepted. -/
def ReportsRest (size : ℕ) (res : Option Bool × List (Slice α)) : Prop :=
  ∀ b, res.1 = some b → (b = true ↔ (accepted res.2).length = size)

theorem lastInTime_nil (size : ℕ) : LastInTime timeout size [] := by
  intro before call after h
  simp at h

/-- Where the loop stops, only the first call matters. -/
theorem lastInTime_cons_of_stops {call : WriteCall} (calls : List WriteCall) {size : ℕ}
    (hstops : Stops timeout call) :
    LastInTime timeout size (call :: calls) ↔ call.offered < size := by
  constructor
  · intro h
    by_contra hle
    exact h [] call calls rfl (by simp) ⟨.inl rfl, by simp [offeredBefore]; omega⟩ hstops
  · intro hlt before c after hsplit hbefore hlast
    cases before with
    | nil =>
      obtain ⟨rfl, rfl⟩ := List.cons.inj hsplit
      have hle := hlast.2
      simp only [offeredBefore, List.map_nil, List.sum_nil] at hle
      omega
    | cons d before =>
      obtain ⟨rfl, -⟩ := List.cons.inj hsplit
      exact absurd hstops (hbefore _ List.mem_cons_self)

/-- Where the loop goes on, the calls that follow count for the rest. -/
theorem lastInTime_cons {call : WriteCall} (calls : List WriteCall) {size : ℕ}
    (hstops : ¬ Stops timeout call) (hlt : call.offered < size) :
    LastInTime timeout size (call :: calls) ↔
      LastInTime timeout (size - call.offered) calls := by
  constructor
  · intro h before c after hsplit hbefore hlast
    refine h (call :: before) c after (by rw [hsplit]; rfl) ?_ ?_
    · exact List.forall_mem_cons.mpr ⟨hstops, hbefore⟩
    · obtain ⟨hstart, hend⟩ := hlast
      have hsum : offeredBefore (call :: before) = call.offered + offeredBefore before := by
        simp [offeredBefore]
      refine ⟨.inr ?_, by omega⟩
      rcases hstart with rfl | hstart
      · simpa [offeredBefore] using hlt
      · omega
  · intro h before c after hsplit hbefore hlast
    cases before with
    | nil =>
      obtain ⟨rfl, -⟩ := List.cons.inj hsplit
      exact hstops
    | cons d before =>
      obtain ⟨rfl, rfl⟩ := List.cons.inj hsplit
      obtain ⟨-, hrest⟩ := List.forall_mem_cons.mp hbefore
      have hsum : offeredBefore (call :: before) = call.offered + offeredBefore before := by
        simp [offeredBefore]
      obtain ⟨hstart, hend⟩ := hlast
      refine h before c after rfl hrest ⟨?_, by omega⟩
      rcases hstart with hnil | hstart
      · exact absurd hnil (by simp)
      · exact .inr (by omega)

/-- Nothing is left for a call that follows the last one. -/
theorem lastInTime_of_last {call : WriteCall} (calls : List WriteCall) {size : ℕ}
    (hstops : ¬ Stops timeout call) (hle : size ≤ call.offered) :
    LastInTime timeout size (call :: calls) := by
  intro before c after hsplit hbefore hlast
  cases before with
  | nil =>
    obtain ⟨rfl, -⟩ := List.cons.inj hsplit
    exact hstops
  | cons d before =>
    obtain ⟨rfl, -⟩ := List.cons.inj hsplit
    have hsum : offeredBefore (call :: before) = call.offered + offeredBefore before := by
      simp [offeredBefore]
    rcases hlast.1 with hnil | hstart
    · exact absurd hnil (by simp)
    · omega

theorem reportsRest_writeFrom_iff (calls : List WriteCall) (hoffset : offset ≤ buf.length) :
    ReportsRest (buf.length - offset) (writeFrom timeout buf offset calls) ↔
      LastInTime timeout (buf.length - offset) calls := by
  induction calls generalizing offset with
  | nil => exact iff_of_true (by simp [ReportsRest, writeFrom]) (lastInTime_nil timeout _)
  | cons call calls ih =>
    have hlen := length_content buf call offset
    rw [writeFrom]
    dsimp only
    split_ifs with hfailed htimeout hmore
    · have hoffered : call.offered = 0 := if_pos hfailed
      rw [lastInTime_cons_of_stops timeout calls (.inl hfailed), hoffered]
      simp only [ReportsRest, accepted, List.flatMap_nil, List.length_nil, Option.some.injEq,
        forall_eq', Bool.false_eq_true, false_iff]
      omega
    · have hoffered : call.offered = call.bytes := if_neg hfailed
      rw [lastInTime_cons_of_stops timeout calls (.inr htimeout), hoffered]
      simp only [ReportsRest, accepted, List.flatMap_cons, List.flatMap_nil, List.append_nil, hlen,
        Option.some.injEq, forall_eq', Bool.false_eq_true, false_iff]
      omega
    · have hoffered : call.offered = call.bytes := if_neg hfailed
      have hgoes : ¬ Stops timeout call := by simp [Stops, hfailed, htimeout]
      have hlt : call.bytes < buf.length - offset := by omega
      have hmin : min call.bytes (buf.length - offset) = call.bytes := by omega
      rw [lastInTime_cons timeout calls hgoes (by rw [hoffered]; exact hlt), hoffered,
        Nat.sub_sub, ← ih (by omega)]
      rw [hmin] at hlen ⊢
      simp only [ReportsRest, accepted, List.flatMap_cons, List.length_append, hlen]
      refine forall₂_congr fun b _ => iff_congr Iff.rfl ?_
      omega
    · have hoffered : call.offered = call.bytes := if_neg hfailed
      have hgoes : ¬ Stops timeout call := by simp [Stops, hfailed, htimeout]
      refine iff_of_true ?_ (lastInTime_of_last timeout calls hgoes (by omega))
      simp only [ReportsRest, accepted, List.flatMap_cons, List.flatMap_nil, List.append_nil, hlen,
        Option.some.injEq, forall_eq', true_iff]
      omega

end Loop

/-! ### The loop of the responses -/

/-- The outcome of a call for the loop that keeps no offset. -/
def WriteCall.toPart (timeout : SendTimeout) (call : WriteCall) : WritePartly where
  failed := call.failed
  bytes := call.offered
  timedOut := timeout.passed call.tick

/-- Both loops return the same and put the same bytes on the connection. -/
theorem httpServerNetconnWriteLoop_toPart (timeout : SendTimeout) (buf : List SentByte) {offset : ℕ}
    (calls : List WriteCall) (hoffset : offset ≤ buf.length) :
    let res := httpServerNetconnWriteLoop (buf.drop offset) (calls.map (WriteCall.toPart timeout))
    (res.1, res.2.1) = ((writeFrom timeout buf offset calls).1,
      accepted (writeFrom timeout buf offset calls).2) := by
  induction calls generalizing offset with
  | nil => rfl
  | cons call calls ih =>
    have htake : (buf.drop offset).take (min call.bytes (buf.length - offset)) =
        (buf.drop offset).take call.bytes := by
      rw [← List.length_drop, ← List.take_take, List.take_length]
    rw [List.map_cons, httpServerNetconnWriteLoop, writeFrom]
    simp only [WriteCall.toPart, WriteCall.offered]
    by_cases hfailed : call.failed = true
    · simp [hfailed, accepted]
    · simp only [hfailed, Bool.false_eq_true, if_false, htake]
      by_cases htimeout : timeout.passed call.tick = true
      · simp [htimeout, accepted]
      · simp only [htimeout, Bool.false_eq_true, if_false, List.drop_drop, List.isEmpty_iff,
          List.drop_eq_nil_iff]
        by_cases hmore : offset + min call.bytes (buf.length - offset) ≠ buf.length
        · have hlt : offset + call.bytes ≤ buf.length := by omega
          have hmin : min call.bytes (buf.length - offset) = call.bytes := by omega
          have hrest := ih hlt
          simp only [Prod.mk.injEq] at hrest
          rw [hmin] at hmore ⊢
          rw [if_neg (by omega), if_pos hmore]
          simp only [hrest.1, hrest.2, accepted, List.flatMap_cons]
        · rw [if_pos (by omega), if_neg hmore]
          simp [accepted]

/-! ### The function -/

/-- What is accepted is a prefix of the buffer, slice by slice, and `true` is returned just when it
is all of it. -/
structure WriteSound (buf : Bytes) (res : Option Bool × List (Slice UInt8)) : Prop where
  contiguous : Contiguous buf 0 res.2
  accepted_isPrefix : accepted res.2 <+: buf
  reports : ReportsRest buf.length res

/-- A buffer is never sent with a gap or twice in part; what is returned is right just when the
call that accepts the last byte comes in time and is no error. -/
theorem netconn_write_sound_iff (timeout : SendTimeout) (buf : Bytes) (calls : List WriteCall) :
    WriteSound buf (httpServerNetconnWriteCalls timeout buf calls) ↔
      LastInTime timeout buf.length calls := by
  have hslices := contiguous_writeFrom timeout buf calls (Nat.zero_le _)
  have hreports := reportsRest_writeFrom_iff timeout buf calls (Nat.zero_le _)
  rw [Nat.sub_zero] at hreports
  rw [← hreports]
  exact ⟨WriteSound.reports, fun h => ⟨hslices, hslices.accepted_isPrefix, h⟩⟩

/-- The only byte is accepted one tick after the timeout. -/
theorem netconn_write_late :
    httpServerNetconnWriteCalls ⟨1000, 4294967295⟩ [72] [⟨.ok, 1, 1000⟩] =
      (some false, [(⟨0, [72]⟩ : Slice UInt8)]) ∧
    ¬ ∀ (timeout : SendTimeout) (buf : Bytes) (calls : List WriteCall),
      WriteSound buf (httpServerNetconnWriteCalls timeout buf calls) := by
  have hrun : httpServerNetconnWriteCalls ⟨1000, 4294967295⟩ [72] [⟨.ok, 1, 1000⟩] =
      (some false, [(⟨0, [72]⟩ : Slice UInt8)]) := by decide
  refine ⟨hrun, ?_⟩
  intro h
  have hreports := (h ⟨1000, 4294967295⟩ [72] [⟨.ok, 1, 1000⟩]).reports
  rw [hrun] at hreports
  exact absurd ((hreports false rfl).mpr rfl) (by decide)

end NetconnWrite
end Auth
end Esp32WifiManager
