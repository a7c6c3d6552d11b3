import Esp32WifiManager.HttpServer.SoundLogin
import Esp32WifiManager.HttpServer.StaticMem
import Esp32WifiManager.Lib.BorrowedMemory
import Esp32WifiManager.Lib.FoldRuns

/-!
# Responses that share a buffer

A response in static memory is handed to the network stack by reference. The
stack transmits it from its buffer, and again when an acknowledgement is
missing, while the server closes the connection and goes on with the next
request.
-/

namespace Esp32WifiManager
namespace Auth

open CString HttpReq BorrowedMemory FoldRuns

/-! ### The server and the network stack -/

/-- What is left to do for a request: to fill a buffer with a text, and to send the response with
the text that stands in a buffer. -/
inductive ServerAction
  | fill (b : StaticBuf) (text : Bytes)
  | send (b : StaticBuf) (text : Bytes)
  deriving DecidableEq

/-- `bytes` have been transmitted for the part of a response that starts at `start`. -/
structure Transmission where
  produced : Bytes
  start : ℕ
  size : ℕ
  bytes : Bytes
  deriving DecidableEq

/-- The loans of `memory` are the responses that have been written with `NETCONN_NOCOPY`, with what
their peers have acknowledged. -/
structure SendState where
  server : HttpServerState
  memory : Memory StaticBuf UInt8
  actions : List ServerAction
  wire : List Transmission

namespace SendState

def start (server : HttpServerState) : SendState where
  server := server
  memory := ⟨fun _ => [], []⟩
  actions := []
  wire := []

end SendState

/-- The server prints into the buffer that it fills, or completes its next action, where a response
hands over `n` bytes; the peer of the response `i` acknowledges `n` bytes more; `n` bytes of it,
starting at `start`, are transmitted. -/
inductive SendEvent
  | setAuth (args : SetAuthArgs)
  | request (param : HttpServerHandleReqParam) (out : Outcomes)
  | print (m : Bytes)
  | act (n : ℕ)
  | ack (i n : ℕ)
  | transmit (i start n : ℕ)

/-- The buffer after a string has been written to its start. -/
def poke (text old : Bytes) : Bytes := text ++ 0 :: old.drop (text.length + 1)

section Step

variable (plat : Platform)

def requestActions (out : Outcomes) (param : HttpServerHandleReqParam) (s : HttpServerState) :
    List ServerAction :=
  let use := httpServerHandleReqUse plat out param s
  let resp := (httpServerHandleReq plat out param s).1
  use.fills.map (fun f => .fill f.1 f.2) ++
    (use.respBuf.map fun b => ServerAction.send b resp.content).toList

/-- The server takes a request when it is done with the one before. Events that cannot happen
change nothing. -/
def SendState.step (s : SendState) : SendEvent → SendState
  | .setAuth args => { s with server := httpServerSetAuth args s.server }
  | .request param out =>
    match s.actions with
    | [] =>
      { s with
        server := (httpServerHandleReq plat out param s.server).2
        actions := requestActions plat out param s.server }
    | _ :: _ => s
  | .print m =>
    match s.actions with
    | .fill b _ :: _ => { s with memory := s.memory.write b m }
    | _ => s
  | .act n =>
    match s.actions with
    | [] => s
    | .fill b text :: actions =>
      { s with memory := s.memory.write b (poke text (s.memory.cells b)), actions := actions }
    | .send b text :: actions =>
      { s with memory := s.memory.lend b (text.take n), actions := actions }
  | .ack i n => { s with memory := s.memory.giveBack i n }
  | .transmit i start n =>
    match s.memory.loans[i]? with
    | none => s
    | some l =>
      if l.back ≤ start then
        { s with wire := ⟨l.data, start, n, s.memory.read l start n⟩ :: s.wire }
      else s

end Step

/-! ### Isolation -/

/-- Every transmission has carried what was produced for its request, and what has not been
acknowledged yet still stands in its buffer. -/
structure SendState.Isolated (s : SendState) : Prop where
  transmitted : ∀ t ∈ s.wire, t.bytes = (t.produced.drop t.start).take t.size
  referenced : s.memory.Intact

/-- The buffer to which the server writes next. -/
def filledBy (s : SendState) : SendEvent → Option StaticBuf
  | .print _ =>
    match s.actions with
    | .fill b _ :: _ => some b
    | _ => none
  | .act _ =>
    match s.actions with
    | .fill b _ :: _ => some b
    | _ => none
  | _ => none

/-- When the server is about to write to a buffer, everything that has been sent from it is
acknowledged. -/
def FillsFree (s : SendState) (e : SendEvent) : Prop := ∀ b ∈ filledBy s e, s.memory.Free b

instance (s : SendState) (e : SendEvent) : Decidable (FillsFree s e) :=
  inferInstanceAs (Decidable (∀ b ∈ filledBy s e, s.memory.Free b))

namespace RespIsolation

variable {plat : Platform} {cells : StaticBuf → Bytes} {b : StaticBuf} {text : Bytes}

/-- When its turn comes, the text that is sent stands in its buffer, whatever the buffers hold at
first. -/
def Supplies : (StaticBuf → Bytes) → List ServerAction → Prop
  | _, [] => True
  | cells, .fill b text :: actions =>
    ∀ old, Supplies (Function.update cells b (poke text old)) actions
  | cells, .send b text :: actions => text <+: cells b ∧ Supplies cells actions

theorem prefix_poke (text old : Bytes) : text <+: poke text old := List.prefix_append _ _

theorem supplies_fills (fills : List (StaticBuf × Bytes)) (cells : StaticBuf → Bytes) :
    Supplies cells (fills.map fun f => .fill f.1 f.2) := by
  induction fills generalizing cells with
  | nil => trivial
  | cons f fills ih =>
    intro old
    exact ih _

/-- Fills of other buffers do not touch the text. -/
theorem supplies_later {later : List (StaticBuf × Bytes)} (hlater : ∀ f ∈ later, f.1 ≠ b)
    (h : text <+: cells b) :
    Supplies cells ((later.map fun f => ServerAction.fill f.1 f.2) ++ [.send b text]) := by
  induction later generalizing cells with
  | nil => exact ⟨h, trivial⟩
  | cons f later ih =>
    obtain ⟨hf, hlater⟩ := List.forall_mem_cons.mp hlater
    intro old
    refine ih hlater ?_
    rw [Function.update_of_ne hf.symm]
    exact h

theorem supplies_of_supplied {fills : List (StaticBuf × Bytes)} (h : Supplied fills b text)
    (cells : StaticBuf → Bytes) :
    Supplies cells ((fills.map fun f => ServerAction.fill f.1 f.2) ++ [.send b text]) := by
  obtain ⟨earlier, later, rfl, hlater⟩ := h
  induction earlier generalizing cells with
  | nil =>
    intro old
    refine supplies_later hlater ?_
    rw [Function.update_self]
    exact prefix_poke text old
  | cons f earlier ih =>
    intro old
    exact ih _

theorem supplies_request (out : Outcomes) (param : HttpServerHandleReqParam)
    (s : HttpServerState) (cells : StaticBuf → Bytes) :
    Supplies cells (requestActions plat out param s) := by
  have htells := @StaticMem.tells_handleReq plat out param s
  unfold requestActions
  simp only
  cases hbuf : (httpServerHandleReqUse plat out param s).respBuf with
  | none =>
    rw [Option.map_none, Option.toList_none, List.append_nil]
    exact supplies_fills _ _
  | some b => exact supplies_of_supplied (htells b hbuf) cells

/-- What holds in every state of a run in which buffers are free when they are filled. -/
structure Sound (s : SendState) : Prop where
  isolated : s.Isolated
  supplies : Supplies s.memory.cells s.actions

theorem sound_start (server : HttpServerState) : Sound (.start server) where
  isolated := ⟨by simp [SendState.start], by simp [SendState.start, Memory.Intact]⟩
  supplies := trivial

/-- The server writes to a buffer that is free, and what it sends has been filled there. -/
theorem sound_act {s : SendState} (h : Sound s) (n : ℕ) (hfree : FillsFree s (.act n)) :
    Sound (s.step plat (.act n)) := by
  have hsupplies := h.supplies
  unfold SendState.step
  cases hactions : s.actions with
  | nil => exact h
  | cons action actions =>
    rw [hactions] at hsupplies
    cases action with
    | fill b text =>
      have hb : s.memory.Free b := hfree b (by simp [filledBy, hactions])
      exact ⟨⟨h.isolated.transmitted, intact_write h.isolated.referenced hb⟩,
        hsupplies (s.memory.cells b)⟩
    | send b text =>
      have hdata : text.take n <+: s.memory.cells b := (List.take_prefix n text).trans hsupplies.1
      exact ⟨⟨h.isolated.transmitted, intact_lend h.isolated.referenced hdata⟩, hsupplies.2⟩

theorem sound_print {s : SendState} (h : Sound s) (m : Bytes) (hfree : FillsFree s (.print m)) :
    Sound (s.step plat (.print m)) := by
  have hsupplies := h.supplies
  unfold SendState.step
  cases hactions : s.actions with
  | nil => exact h
  | cons action actions =>
    rw [hactions] at hsupplies
    cases action with
    | fill b text =>
      have hb : s.memory.Free b := hfree b (by simp [filledBy, hactions])
      refine ⟨⟨h.isolated.transmitted, intact_write h.isolated.referenced hb⟩, ?_⟩
      intro old
      have hcells : Function.update (s.memory.write b m).cells b (poke text old) =
          Function.update s.memory.cells b (poke text old) :=
        Function.update_idem _ _ _
      rw [hcells]
      exact hsupplies old
    | send b text => exact h

/-- What is read from a buffer for a response is what was sent. -/
theorem sound_transmit {s : SendState} (h : Sound s) (i start n : ℕ) :
    Sound (s.step plat (.transmit i start n)) := by
  cases hl : s.memory.loans[i]? with
  | none =>
    simp only [SendState.step, hl]
    exact h
  | some l =>
    simp only [SendState.step, hl]
    split_ifs with hback
    · refine ⟨⟨?_, h.isolated.referenced⟩, h.supplies⟩
      intro t ht
      rcases List.mem_cons.mp ht with rfl | hold
      · exact read_eq h.isolated.referenced (List.mem_of_getElem? hl) hback n
      · exact h.isolated.transmitted t hold
    · exact h

theorem sound_step {s : SendState} (e : SendEvent) (h : Sound s) (hfree : FillsFree s e) :
    Sound (s.step plat e) := by
  cases e with
  | setAuth args => exact ⟨⟨h.isolated.transmitted, h.isolated.referenced⟩, h.supplies⟩
  | request param out =>
    unfold SendState.step
    cases hactions : s.actions with
    | nil =>
      exact ⟨⟨h.isolated.transmitted, h.isolated.referenced⟩, supplies_request out param _ _⟩
    | cons action actions => exact h
  | print m => exact sound_print h m hfree
  | act n => exact sound_act h n hfree
  | ack i n =>
    exact ⟨⟨h.isolated.transmitted, intact_giveBack h.isolated.referenced i n⟩, h.supplies⟩
  | transmit i start n => exact sound_transmit h i start n

end RespIsolation

open RespIsolation

/-- Responses are isolated in every run in which the server writes to a static buffer only when
everything that was sent from it has been acknowledged. -/
theorem responses_isolated (plat : Platform) (server : HttpServerState) (events : List SendEvent)
    (h : EveryStep (SendState.step plat) FillsFree (.start server) events) :
    Always (SendState.step plat) SendState.Isolated (.start server) events := by
  have hsound : Always (SendState.step plat) Sound (.start server) events :=
    always_of_everyStep (fun s e => sound_step e) (sound_start server) h
  exact hsound.imp fun s hs => hs.isolated

/-- `GET /auth` over the hotspot and from LAN. -/
def authOverAp : SendEvent :=
  .request ⟨⟨ascii "GET", ascii "/auth", none, [], []⟩, sampleIp, false⟩ sampleOutcomes

def authFromLan : SendEvent :=
  .request ⟨⟨ascii "GET", ascii "/auth", none, [], []⟩, sampleIp, true⟩ sampleOutcomes

/-- A server that denies access from LAN. -/
def denyStart : HttpServerState :=
  httpServerSetAuth ⟨.deny, none, none, none, none⟩ (.start sampleHostinfo sampleRandom)

/-- The second request comes when the first response is acknowledged. -/
theorem responses_isolated_acknowledged :
    let events := [authOverAp, .act 0, .act 300, .transmit 0 0 300, .ack 0 300,
      authFromLan, .act 0, .act 300, .transmit 1 0 300]
    EveryStep (SendState.step (samplePlatform [])) FillsFree (.start denyStart) events ∧
      Always (SendState.step (samplePlatform [])) SendState.Isolated (.start denyStart) events := by
  intro events
  have hfree : EveryStep (SendState.step (samplePlatform [])) FillsFree (.start denyStart) events := by
    decide +kernel
  exact ⟨hfree, responses_isolated (samplePlatform []) denyStart events hfree⟩

/-- The first response is transmitted, or transmitted again, after the second request has been
handled. -/
def overtaken : SendState :=
  [authOverAp, .act 0, .act 300, authFromLan, .act 0, .transmit 0 0 300].foldl
    (SendState.step (samplePlatform [])) (.start denyStart)

theorem response_overtaken :
    overtaken.wire =
      [⟨ascii "\x7b\"gateway_name\": \"RuuviGateway\", \"fw_ver\": \"v1.15.0\", " ++
          ascii "\"nrf52_fw_ver\": \"v1.0.0\", \"lan_auth_type\": \"lan_auth_allow\", " ++
          ascii "\"lan\": false\x7d", 0, 300,
        ascii "\x7b\"gateway_name\": \"RuuviGateway\", \"lan_auth_type\": " ++
          ascii "\"lan_auth_deny\", \"lan\": true\x7d" ++ [0] ++
          ascii "\"lan_auth_type\": \"lan_auth_allow\", \"lan\": false\x7d"⟩] ∧
    ¬ ∀ (plat : Platform) (server : HttpServerState) (events : List SendEvent),
      Always (SendState.step plat) SendState.Isolated (.start server) events := by
  constructor
  · decide +kernel
  · intro h
    have hrun := always_iff_prefix.mp (h (samplePlatform []) denyStart
      [authOverAp, .act 0, .act 300, authFromLan, .act 0, .transmit 0 0 300]) _ List.prefix_rfl
    have hwire := hrun.transmitted
    revert hwire
    decide +kernel

end Auth
end Esp32WifiManager
