import Esp32WifiManager.HttpServer.EmptySecret
import Esp32WifiManager.Lib.ResourceTrace

/-!
# The heap of a login

`POST /auth` allocates the parsed request, the JSON tree and the buffer of the
password hash. The handler is run here together with what it does with these
blocks: a refused login keeps the parsed request.
-/

namespace Esp32WifiManager
namespace Auth
namespace AuthHeap

open CString ResourceTrace

inductive AuthBlock
  | authReq
  | jsonRoot
  | passwordHash
  deriving DecidableEq, Repr

abbrev HeapTrace := List (ResourceTrace.Event AuthBlock)

section Traced

variable (plat : Platform) (out : Outcomes)

def jsonRuuviAuthParseHttpBodyTraced (body : Bytes) : Option HttpServerAuthRuuviReq × HeapTrace :=
  match cJsonParse plat out body with
  | none => (none, [])
  | some jsonRoot =>
    (jsonRuuviAuthParse jsonRoot,
      [.acquire .jsonRoot, .use .jsonRoot, .use .authReq, .release .jsonRoot])

def httpServerHandleReqPostAuthCheckAuthTraced (authType : HttpServerAuthType)
    (remoteIp : CharBuf 17) (httpBody : Bytes) (s : HttpServerState) :
    (HttpServerResp × HttpServerState) × HeapTrace :=
  let rejected (errMessage : Option Bytes) : HttpServerResp × HttpServerState :=
    httpServerResp401AuthRuuviWithNewSessionId plat out remoteIp authType errMessage s
  match jsonRuuviAuthParseHttpBodyTraced plat out httpBody with
  | (none, trace) => (rejected none, trace)
  | (some authReq, trace) =>
    let trace := trace ++ [.use .authReq]
    if authReq.username = [] then (rejected (some (ascii "The username is empty")), trace)
    else if s.authInfo.authUser ≠ authReq.username then
      (rejected (some (ascii "Incorrect username")), trace)
    else if !out.callocPasswordHash then ((httpServerResp500, s), trace)
    else
      let trace := trace ++ [.acquire .passwordHash]
      match httpServerAuthRuuviGenHashedPassword plat out s.ruuvi.loginSession.challenge.str
          s.authInfo.authPass with
      | none => (rejected none, trace ++ [.release .passwordHash])
      | some passwordHash =>
        let trace := trace ++ [.use .passwordHash, .use .authReq]
        if passwordHash.str ≠ authReq.password then
          (rejected (some (ascii "Incorrect password")), trace ++ [.release .passwordHash])
        else ((httpServerResp200Json (ascii "\x7b\x7d"), s), trace ++ [.release .passwordHash])

def httpServerHandleReqPostAuthTraced (flagAccessFromLan : Bool) (httpHeader : Bytes)
    (remoteIp : CharBuf 17) (httpBody : Bytes) (s : HttpServerState) :
    (HttpServerResp × HttpServerState) × HeapTrace :=
  let authType := s.authInfo.authType
  let authJson :=
    httpServerFillAuthJson plat s.hostinfo authType flagAccessFromLan none true
  if !flagAccessFromLan then ((httpServerResp200Json authJson, s), [])
  else if authType ≠ .ruuvi ∧ authType ≠ .default then ((httpServerResp503, s), [])
  else
    match httpServerAuthRuuviGetSessionIdFromCookies httpHeader with
    | (false, _) =>
      (httpServerResp401AuthRuuviWithNewSessionId plat out remoteIp authType none s, [])
    | (true, sessionId) =>
      let prevUrl := httpServerAuthRuuviGetPrevUrlFromCookies httpHeader
      match httpServerHandleReqPostAuthCheckLoginSession plat out sessionId remoteIp authType s with
      | some res => (res, [])
      | none =>
        if !out.callocAuthReq then ((httpServerResp500, s), [])
        else
          let (checked, trace) :=
            httpServerHandleReqPostAuthCheckAuthTraced plat out authType remoteIp httpBody s
          let trace := .acquire .authReq :: trace
          -- here the source returns without `os_free(p_auth_req)`
          if checked.1.httpRespCode ≠ .c200 then (checked, trace)
          else
            let trace := trace ++ [.release .authReq]
            let s := checked.2.authorize sessionId remoteIp
            let s :=
              if prevUrl.isEmpty then s
              else s.printExtraHeaderFields
                (ascii "Ruuvi-prev-url: " ++ prevUrl.str ++ ascii "\r\n" ++ ascii "Set-Cookie: " ++
                  httpServerAuthRuuviCookiePrevUrl ++
                  ascii "=; Max-Age=-1; Expires=Thu, 01 Jan 1970 00:00:00 GMT\r\n")
            ((httpServerResp200Json authJson, s), trace)

/-! ### The handler computes what it computes without the trace -/

theorem jsonRuuviAuthParseHttpBodyTraced_value (body : Bytes) :
    (jsonRuuviAuthParseHttpBodyTraced plat out body).1 = jsonRuuviAuthParseHttpBody plat out body := by
  unfold jsonRuuviAuthParseHttpBodyTraced jsonRuuviAuthParseHttpBody
  cases cJsonParse plat out body <;> rfl

theorem checkAuthTraced_value (authType : HttpServerAuthType) (remoteIp : CharBuf 17)
    (httpBody : Bytes) (s : HttpServerState) :
    (httpServerHandleReqPostAuthCheckAuthTraced plat out authType remoteIp httpBody s).1 =
      httpServerHandleReqPostAuthCheckAuth plat out authType remoteIp httpBody s := by
  unfold httpServerHandleReqPostAuthCheckAuthTraced httpServerHandleReqPostAuthCheckAuth
  rw [← jsonRuuviAuthParseHttpBodyTraced_value]
  rcases jsonRuuviAuthParseHttpBodyTraced plat out httpBody with ⟨_ | authReq, trace⟩
  · dsimp only
  · cases httpServerAuthRuuviGenHashedPassword plat out s.ruuvi.loginSession.challenge.str
      s.authInfo.authPass with
    | none => simp only [apply_ite Prod.fst]
    | some passwordHash => simp only [apply_ite Prod.fst]

theorem postAuthTraced_value (flagAccessFromLan : Bool) (httpHeader : Bytes)
    (remoteIp : CharBuf 17) (httpBody : Bytes) (s : HttpServerState) :
    (httpServerHandleReqPostAuthTraced plat out flagAccessFromLan httpHeader remoteIp httpBody s).1 =
      httpServerHandleReqPostAuth plat out flagAccessFromLan httpHeader remoteIp httpBody s := by
  unfold httpServerHandleReqPostAuthTraced httpServerHandleReqPostAuth
  dsimp only
  rw [← checkAuthTraced_value]
  rcases httpServerAuthRuuviGetSessionIdFromCookies httpHeader with ⟨_ | _, sessionId⟩
  · simp only [apply_ite Prod.fst]
  · dsimp only
    cases httpServerHandleReqPostAuthCheckLoginSession plat out sessionId remoteIp
        s.authInfo.authType s with
    | some res => simp only [apply_ite Prod.fst]
    | none => simp only [apply_ite Prod.fst]

end Traced

/-! ### Which blocks are left -/

/-- A call of the handler. -/
structure Attempt where
  out : Outcomes
  flagAccessFromLan : Bool
  httpHeader : Bytes
  remoteIp : CharBuf 17
  httpBody : Bytes

section Attempts

variable (plat : Platform)

def Attempt.trace (a : Attempt) (s : HttpServerState) : HeapTrace :=
  (httpServerHandleReqPostAuthTraced plat a.out a.flagAccessFromLan a.httpHeader a.remoteIp a.httpBody
    s).2

def Attempt.after (a : Attempt) (s : HttpServerState) : HttpServerState :=
  (httpServerHandleReqPostAuth plat a.out a.flagAccessFromLan a.httpHeader a.remoteIp a.httpBody s).2

/-- The attempt gets as far as the credentials. -/
structure Attempt.Checked (a : Attempt) (s : HttpServerState) : Prop where
  lan : a.flagAccessFromLan = true
  authType : s.authInfo.authType = .ruuvi ∨ s.authInfo.authType = .default
  session : ∃ sessionId, httpServerAuthRuuviGetSessionIdFromCookies a.httpHeader = (true, sessionId) ∧
    s.ruuvi.loginSession.matches sessionId a.remoteIp = true
  memory : a.out.callocAuthReq = true

/-- Only the configured credentials are let to be checked. -/
def Attempt.KeepsHeap (a : Attempt) (s : HttpServerState) : Prop :=
  a.Checked s → LoginOver plat a.out a.httpBody s.authInfo.authPass s

end Attempts

section Blocks

variable {plat : Platform} {out : Outcomes} {authType : HttpServerAuthType} {remoteIp : CharBuf 17}
  {httpBody : Bytes} {s : HttpServerState} {a : Attempt}

theorem parseTraced_live (plat : Platform) (out : Outcomes) (body : Bytes) :
    liveAfter {.authReq} (jsonRuuviAuthParseHttpBodyTraced plat out body).2 = some {.authReq} := by
  unfold jsonRuuviAuthParseHttpBodyTraced
  cases cJsonParse plat out body <;> rfl

/-- The check of the credentials uses the parsed request and leaves nothing of its own. -/
theorem checkAuthTraced_live (plat : Platform) (out : Outcomes) (authType : HttpServerAuthType)
    (remoteIp : CharBuf 17) (httpBody : Bytes) (s : HttpServerState) :
    liveAfter {.authReq}
      (httpServerHandleReqPostAuthCheckAuthTraced plat out authType remoteIp httpBody s).2 =
        some {.authReq} := by
  have hparse := parseTraced_live plat out httpBody
  unfold httpServerHandleReqPostAuthCheckAuthTraced
  generalize jsonRuuviAuthParseHttpBodyTraced plat out httpBody = parsed at hparse ⊢
  obtain ⟨_ | authReq, trace⟩ := parsed
  · exact hparse
  · dsimp only at hparse ⊢
    have hafter (more : HeapTrace) (h : liveAfter {.authReq} more = some {.authReq}) :
        liveAfter {.authReq} (trace ++ more) = some {.authReq} := by
      rw [liveAfter_append, hparse]
      exact h
    simp only [List.append_assoc]
    split
    · exact hafter _ rfl
    · split
      · exact hafter _ rfl
      · split
        · exact hafter _ rfl
        · split
          · exact hafter _ rfl
          · split <;> exact hafter _ rfl

/-- What the check of the credentials of an attempt does. -/
def Attempt.checkTrace (plat : Platform) (a : Attempt) (s : HttpServerState) : HeapTrace :=
  (httpServerHandleReqPostAuthCheckAuthTraced plat a.out s.authInfo.authType a.remoteIp a.httpBody
    s).2

theorem trace_checked (plat : Platform) (h : a.Checked s) :
    a.trace plat s = .acquire .authReq :: a.checkTrace plat s ∧
        ¬ LoginOver plat a.out a.httpBody s.authInfo.authPass s ∨
      a.trace plat s = .acquire .authReq :: (a.checkTrace plat s ++ [.release .authReq]) ∧
        LoginOver plat a.out a.httpBody s.authInfo.authPass s := by
  obtain ⟨sessionId, hcookie, hpending⟩ := h.session
  have htype : ¬ (s.authInfo.authType ≠ .ruuvi ∧ s.authInfo.authType ≠ .default) :=
    fun hnot => h.authType.elim hnot.1 hnot.2
  have hlogin : (httpServerHandleReqPostAuthCheckAuth plat a.out s.authInfo.authType a.remoteIp
      a.httpBody s).1.httpRespCode = .c200 ↔
        LoginOver plat a.out a.httpBody s.authInfo.authPass s := EmptySecret.postAuthCheckAuth_iff
  rw [← checkAuthTraced_value] at hlogin
  unfold Attempt.trace Attempt.checkTrace httpServerHandleReqPostAuthTraced
  simp only [h.lan, h.memory, Bool.not_true, Bool.false_eq_true, if_false]
  rw [if_neg htype, hcookie]
  dsimp only
  rw [postAuthCheckLoginSession_eq_none plat a.out hpending]
  dsimp only
  by_cases hcode : (httpServerHandleReqPostAuthCheckAuthTraced plat a.out s.authInfo.authType
      a.remoteIp a.httpBody s).1.1.httpRespCode = .c200
  · rw [if_neg (not_not.mpr hcode)]
    exact .inr ⟨rfl, hlogin.mp hcode⟩
  · rw [if_pos hcode]
    exact .inl ⟨rfl, mt hlogin.mpr hcode⟩

theorem trace_unchecked (plat : Platform) (h : ¬ a.Checked s) : a.trace plat s = [] := by
  unfold Attempt.trace httpServerHandleReqPostAuthTraced
  dsimp only
  by_cases hlan : a.flagAccessFromLan = true
  · simp only [hlan, Bool.not_true, Bool.false_eq_true, if_false]
    by_cases htype : s.authInfo.authType ≠ .ruuvi ∧ s.authInfo.authType ≠ .default
    · rw [if_pos htype]
    · rw [if_neg htype]
      split
      · rfl
      · rename_i sessionId hcookie
        by_cases hpending : s.ruuvi.loginSession.matches sessionId a.remoteIp = true
        · have hcalloc : a.out.callocAuthReq = false := by
            by_contra hmemory
            refine h ⟨hlan, ?_, ⟨sessionId, hcookie, hpending⟩, by simpa using hmemory⟩
            by_contra hnot
            exact htype (not_or.mp hnot)
          rw [postAuthCheckLoginSession_eq_none plat a.out hpending]
          simp only [hcalloc, Bool.not_false, if_true]
        · rw [postAuthCheckLoginSession_eq_some plat a.out hpending]
  · simp only [hlan, Bool.not_false, if_true]

/-- One attempt leaves nothing, or the parsed request. -/
theorem trace_live (plat : Platform) (a : Attempt) (s : HttpServerState) :
    a.KeepsHeap plat s ∧ liveAfter ∅ (a.trace plat s) = some ∅ ∨
      ¬ a.KeepsHeap plat s ∧ liveAfter ∅ (a.trace plat s) = some {.authReq} := by
  have hcheck : liveAfter {.authReq} (a.checkTrace plat s) = some {.authReq} :=
    checkAuthTraced_live plat a.out s.authInfo.authType a.remoteIp a.httpBody s
  by_cases h : a.Checked s
  · rcases trace_checked plat h with ⟨htrace, hlogin⟩ | ⟨htrace, hlogin⟩
    · refine .inr ⟨fun hkeeps => hlogin (hkeeps h), ?_⟩
      rw [htrace]
      exact hcheck
    · refine .inl ⟨fun _ => hlogin, ?_⟩
      have hlive : liveAfter ∅ (a.trace plat s) =
          liveAfter {.authReq} (a.checkTrace plat s ++ [.release .authReq]) := by
        rw [htrace]
        rfl
      rw [hlive, liveAfter_append, hcheck]
      rfl
  · refine .inl ⟨fun hchecked => absurd hchecked h, ?_⟩
    rw [trace_unchecked plat h, liveAfter_nil]

theorem parseTraced_count (plat : Platform) (out : Outcomes) (body : Bytes) (block : AuthBlock) :
    (jsonRuuviAuthParseHttpBodyTraced plat out body).2.count (.acquire block) ≤
      if block = .jsonRoot then 1 else 0 := by
  unfold jsonRuuviAuthParseHttpBodyTraced
  cases cJsonParse plat out body with
  | none => exact Nat.zero_le _
  | some jsonRoot =>
    dsimp only
    cases block <;> decide

theorem checkAuthTraced_count (plat : Platform) (out : Outcomes) (authType : HttpServerAuthType)
    (remoteIp : CharBuf 17) (httpBody : Bytes) (s : HttpServerState) (block : AuthBlock) :
    (httpServerHandleReqPostAuthCheckAuthTraced plat out authType remoteIp httpBody s).2.count
      (.acquire block) ≤ if block = .authReq then 0 else 1 := by
  have hparse := parseTraced_count plat out httpBody block
  unfold httpServerHandleReqPostAuthCheckAuthTraced
  generalize jsonRuuviAuthParseHttpBodyTraced plat out httpBody = parsed at hparse ⊢
  obtain ⟨_ | authReq, trace⟩ := parsed
  · cases block <;> simp at hparse ⊢ <;> omega
  · dsimp only at hparse ⊢
    have hafter (more : HeapTrace)
        (h : more.count (.acquire block) ≤ if block = .passwordHash then 1 else 0) :
        (trace ++ more).count (.acquire block) ≤ if block = .authReq then 0 else 1 := by
      rw [List.count_append]
      cases block <;> simp at hparse h ⊢ <;> omega
    simp only [List.append_assoc]
    split
    · exact hafter _ (by cases block <;> decide)
    · split
      · exact hafter _ (by cases block <;> decide)
      · split
        · exact hafter _ (by cases block <;> decide)
        · split
          · exact hafter _ (by cases block <;> decide)
          · split <;> exact hafter _ (by cases block <;> decide)

/-- Every block is acquired once at most. -/
theorem trace_count (plat : Platform) (a : Attempt) (s : HttpServerState) (block : AuthBlock) :
    (a.trace plat s).count (.acquire block) ≤ 1 := by
  have hcheck : (a.checkTrace plat s).count (.acquire block) ≤ if block = .authReq then 0 else 1 :=
    checkAuthTraced_count plat a.out s.authInfo.authType a.remoteIp a.httpBody s block
  by_cases h : a.Checked s
  · rcases trace_checked plat h with ⟨htrace, -⟩ | ⟨htrace, -⟩ <;> rw [htrace] <;>
      cases block <;> simp at hcheck ⊢ <;> omega
  · rw [trace_unchecked plat h]
    exact Nat.zero_le _

end Blocks

/-! ### Runs -/

section Runs

variable (plat : Platform)

/-- The blocks of an attempt are told apart from those of the others by its number. -/
def attemptsTrace : ℕ → List Attempt → HttpServerState → List (ResourceTrace.Event (ℕ × AuthBlock))
  | _, [], _ => []
  | i, a :: rest, s =>
    (a.trace plat s).map (Event.map (i, ·)) ++ attemptsTrace (i + 1) rest (a.after plat s)

/-- Every attempt satisfies `P` in the state in which it finds the server. -/
def EveryAttempt (P : Attempt → HttpServerState → Prop) : List Attempt → HttpServerState → Prop
  | [], _ => True
  | a :: rest, s => P a s ∧ EveryAttempt P rest (a.after plat s)

variable {plat}

/-- The heap only grows over a run, and stays as it is just when no attempt leaves anything. -/
theorem attempts_live {heap : Finset (ℕ × AuthBlock)} (attempts : List Attempt) {i : ℕ}
    (hheap : ∀ block ∈ heap, block.1 < i) (s : HttpServerState) :
    ∃ after, liveAfter heap (attemptsTrace plat i attempts s) = some after ∧ heap ⊆ after ∧
      (after = heap ↔ EveryAttempt plat (Attempt.KeepsHeap plat) attempts s) := by
  induction attempts generalizing heap i s with
  | nil => exact ⟨heap, rfl, Finset.Subset.refl heap, iff_of_true rfl trivial⟩
  | cons a rest ih =>
    have hfresh (block : AuthBlock) : (i, block) ∉ heap := fun hmem => absurd (hheap _ hmem) (by simp)
    have hfirst := liveAfter_map (f := fun block => (i, block)) (Prod.mk_right_injective i) hfresh ∅
      (a.trace plat s)
    rw [Finset.image_empty, Finset.union_empty] at hfirst
    unfold attemptsTrace
    rw [liveAfter_append, hfirst]
    rcases trace_live plat a s with ⟨hkeeps, hlive⟩ | ⟨hleaks, hlive⟩
    · have hnext (block : ℕ × AuthBlock) (hmem : block ∈ heap) : block.1 < i + 1 :=
        Nat.lt_succ_of_lt (hheap block hmem)
      obtain ⟨after, hafter, hsub, hiff⟩ := ih hnext (a.after plat s)
      refine ⟨after, ?_, hsub, hiff.trans ⟨fun h => ⟨hkeeps, h⟩, fun h => h.2⟩⟩
      rw [hlive, Option.map_some, Finset.image_empty, Finset.union_empty]
      exact hafter
    · have hnext (block : ℕ × AuthBlock) (hmem : block ∈ heap ∪ {(i, .authReq)}) : block.1 < i + 1 := by
        rcases Finset.mem_union.mp hmem with hold | hnew
        · exact Nat.lt_succ_of_lt (hheap block hold)
        · rw [Finset.mem_singleton.mp hnew]
          exact Nat.lt_succ_self i
      obtain ⟨after, hafter, hsub, -⟩ := ih hnext (a.after plat s)
      refine ⟨after, ?_, Finset.union_subset_left hsub, ?_⟩
      · rw [hlive, Option.map_some, Finset.image_singleton]
        exact hafter
      · refine iff_of_false ?_ fun h => hleaks h.1
        rintro rfl
        exact hfresh .authReq (hsub (Finset.mem_union_right _ (Finset.mem_singleton_self _)))

/-- A call frees every block that it has allocated exactly once if and only if wrong credentials do
not get as far as they are compared, and the heap is the same after any number of calls if and only
if this is so for each of them. -/
theorem login_heap_iff (plat : Platform) :
    (∀ a s, FreedOnce (Attempt.trace plat a s) ↔ a.KeepsHeap plat s) ∧
    ∀ (heap : Finset (ℕ × AuthBlock)) (i : ℕ) (attempts : List Attempt) (s : HttpServerState),
      (∀ block ∈ heap, block.1 < i) →
        (liveAfter heap (attemptsTrace plat i attempts s) = some heap ↔
          EveryAttempt plat (Attempt.KeepsHeap plat) attempts s) := by
  refine ⟨fun a s => ?_, fun heap i attempts s hheap => ?_⟩
  · rcases trace_live plat a s with ⟨hkeeps, hlive⟩ | ⟨hleaks, hlive⟩
    · exact iff_of_true (freedOnce_of_ends hlive (trace_count plat a s)) hkeeps
    · refine iff_of_false (fun hfreed => ?_) hleaks
      have hends := hfreed.ends
      rw [hlive] at hends
      exact absurd (Option.some.inj hends) (by decide)
  · obtain ⟨after, hafter, -, hiff⟩ := attempts_live attempts hheap s
    rw [hafter, ← hiff]
    exact ⟨Option.some.inj, congrArg some⟩

end Runs

/-! ### A login without a body -/

/-- The server has given `AAAAAAAAAAAAAAAA` to a client that has yet to log in. -/
def pendingState : HttpServerState :=
  sampleRun (ascii "admin") [sampleSetAuth .ruuvi (ascii "admin"), sampleEvent "POST" [] []]

def emptyLogin : Attempt :=
  ⟨sampleOutcomes, true, sampleCookie "AAAAAAAAAAAAAAAA", sampleIp, []⟩

theorem emptyLogin_leaks : ¬ emptyLogin.KeepsHeap (samplePlatform (ascii "admin")) pendingState := by
  have hchecked : emptyLogin.Checked pendingState := by
    refine ⟨rfl, .inl (by decide +kernel), ⟨.ofStr 17 (ascii "AAAAAAAAAAAAAAAA"), ?_, ?_⟩, rfl⟩
    · decide +kernel
    · decide +kernel
  intro hkeeps
  obtain ⟨authReq, hparse, -⟩ := hkeeps hchecked
  have hnone : jsonRuuviAuthParseHttpBody (samplePlatform (ascii "admin")) sampleOutcomes [] = none := by
    decide +kernel
  exact absurd (hnone.symm.trans hparse) (by simp)

theorem login_heap_iff_empty :
    liveAfter ∅ (attemptsTrace (samplePlatform (ascii "admin")) 0 [emptyLogin] pendingState) = some ∅ ↔
      EveryAttempt (samplePlatform (ascii "admin"))
        (Attempt.KeepsHeap (samplePlatform (ascii "admin"))) [emptyLogin] pendingState :=
  (login_heap_iff (samplePlatform (ascii "admin"))).2 ∅ 0 [emptyLogin] pendingState
    fun _ hmem => absurd hmem (Finset.notMem_empty _)

/-- The parsed request of a login with an empty body is not freed. -/
theorem login_heap_leaks : ¬ ∀ (plat : Platform) (a : Attempt) (s : HttpServerState),
    FreedOnce (a.trace plat s) := by
  intro h
  have hends := (h (samplePlatform (ascii "admin")) emptyLogin pendingState).ends
  rcases trace_live (samplePlatform (ascii "admin")) emptyLogin pendingState with
    ⟨hkeeps, -⟩ | ⟨-, hlive⟩
  · exact emptyLogin_leaks hkeeps
  · rw [hlive] at hends
    exact absurd (Option.some.inj hends) (by decide)

end AuthHeap
end Auth
end Esp32WifiManager
