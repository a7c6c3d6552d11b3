import Esp32WifiManager.WifiManager.Recorded

/-!
# The order of the messages

The queue of the manager task against a record of all that was put into it and
taken out of it, and of the messages that the application was told of. Nothing
is lost, doubled or overtaken, whatever the tasks do between two calls.
-/

namespace Esp32WifiManager
namespace WifiManager

open CString TaskSystem WifiCall

/-- What the queue has accepted, what the manager task has taken out of it, and the messages that
the callback of the application was called with, the oldest one first. -/
structure MessageLog where
  sent : List QueueMessage
  received : List QueueMessage
  told : List QueueMessage

def noteMessage (t : TaskId) (o : WifiCall) (_ : Reply) (r : o.Ret) (g : MessageLog) :
    MessageLog :=
  match o, r with
  | xQueueSend msg _, true => { g with sent := g.sent ++ [msg] }
  | xQueueReceive, some msg => { g with received := g.received ++ [msg] }
  | callback (.onMessage msg), _ =>
    if t = .server then { g with told := g.told ++ [msg] } else g
  | _, _ => g

/-- The handler of the message may decide against the callback. -/
def QueueMessage.mayBeSilent : QueueMessage → Bool
  | .eventStaDisconnected _ => true
  | _ => false

/-- The application is told of the handled messages, each one once and in their order; only
messages that may be silent are left out. -/
structure Told (handled told : List QueueMessage) : Prop where
  sublist : told.Sublist handled
  all : told.filter (!·.mayBeSilent) = handled.filter (!·.mayBeSilent)

theorem Told.nil : Told [] [] := ⟨.slnil, rfl⟩

theorem Told.concat {handled told : List QueueMessage} (h : Told handled told)
    (msg : QueueMessage) : Told (handled ++ [msg]) (told ++ [msg]) :=
  ⟨h.sublist.append_right [msg], by rw [List.filter_append, List.filter_append, h.all]⟩

theorem Told.concat_silent {handled told : List QueueMessage} (h : Told handled told)
    {msg : QueueMessage} (hmsg : msg.mayBeSilent = true) : Told (handled ++ [msg]) told := by
  refine ⟨h.sublist.trans (List.sublist_append_left _ _), ?_⟩
  rw [List.filter_append, h.all]
  simp [hmsg]

namespace MessageOrder

/-- What has been accepted and not yet received is in the queue. -/
def Stored (s : WifiState) (g : MessageLog) : Prop :=
  match s.msgQueue with
  | some q => g.sent = g.received ++ q.items
  | none => g.received <+: g.sent

/-- `handling` lasts until the callback is called or left out. -/
inductive Phase
  | rest
  | handling (msg : QueueMessage)
  | stopping
  | ended

/-- The order to stop has not been received. -/
def Running (received : List QueueMessage) : Prop := .orderStopAndDestroy ∉ received

/-- The order to stop has been received last. -/
def Stopped (received : List QueueMessage) : Prop :=
  ∃ before, received = before ++ [.orderStopAndDestroy] ∧ Running before

def Inv (φ : Phase) (x : WifiState × MessageLog) : Prop :=
  Stored x.1 x.2 ∧
    match φ with
    | .rest => Running x.2.received ∧ Told x.2.received x.2.told
    | .handling msg => ∃ before, x.2.received = before ++ [msg] ∧ Running before ∧ Told before x.2.told
    | .stopping => Stopped x.2.received ∧ Told x.2.received x.2.told
    | .ended => Stopped x.2.received ∧ Told x.2.received x.2.told ∧ x.1.managerTask = .none

/-- A call that has nothing to do with the queue. -/
structure Quiet (o : WifiCall) : Prop where
  queue : .msgQueue ∉ o.writes
  callback : ∀ msg, o ≠ callback (.onMessage msg)

variable {t : TaskId} {o : WifiCall} {c : Reply} {r : o.Ret} {x x' : WifiState × MessageLog}
  {φ : Phase}

theorem stored_some {s : WifiState} {g : MessageLog} {q : MsgQueue}
    (hq : s.msgQueue = some q) : Stored s g ↔ g.sent = g.received ++ q.items := by
  unfold Stored
  rw [hq]

theorem stored_none {s : WifiState} {g : MessageLog} (hq : s.msgQueue = none) :
    Stored s g ↔ g.received <+: g.sent := by
  unfold Stored
  rw [hq]

theorem Stored.isPrefix {s : WifiState} {g : MessageLog} (h : Stored s g) :
    g.received <+: g.sent := by
  cases hq : s.msgQueue with
  | none => exact (stored_none hq).mp h
  | some q =>
    rw [(stored_some hq).mp h]
    exact List.prefix_append _ _

theorem note_quiet (h : Quiet o) (g : MessageLog) : noteMessage t o c r g = g := by
  have hqueue := h.queue
  have hcallback := h.callback
  unfold noteMessage
  split
  · exact absurd (by simp [writes]) hqueue
  · exact absurd (by simp [writes]) hqueue
  · exact absurd rfl (hcallback _)
  · rfl

theorem Stored.congr {s s' : WifiState} {g g' : MessageLog} (hq : s'.msgQueue = s.msgQueue)
    (hsent : g'.sent = g.sent) (hreceived : g'.received = g.received) (h : Stored s g) :
    Stored s' g' := by
  unfold Stored at h ⊢
  rwa [hq, hsent, hreceived]

/-- A step that leaves the queue, the record and the task alone. -/
theorem inv_kept (hq : x'.1.msgQueue = x.1.msgQueue) (htask : x'.1.managerTask = x.1.managerTask)
    (hlog : x'.2 = x.2) (h : Inv φ x) : Inv φ x' := by
  obtain ⟨hstored, hphase⟩ := h
  refine ⟨hstored.congr hq (by rw [hlog]) (by rw [hlog]), ?_⟩
  rw [hlog]
  cases φ with
  | ended => exact ⟨hphase.1, hphase.2.1, htask.trans hphase.2.2⟩
  | _ => exact hphase

/-- A send adds to both ends or changes nothing. -/
theorem inv_send {msg : QueueMessage} {timeout : Timeout} {sent : Bool}
    (he : (recording noteMessage).exec t (xQueueSend msg timeout) c x = some (sent, x'))
    (h : Inv φ x) : Inv φ x' := by
  obtain ⟨he, hlog⟩ := exec_withGhost he
  rcases exec_xQueueSend (t := t) (c := c) he with ⟨hs, rfl, -⟩ | ⟨q, q', hq, hpush, rfl, hs⟩
  · exact inv_kept (by rw [hs]) (by rw [hs]) hlog h
  · obtain ⟨hstored, hphase⟩ := h
    have hlog : x'.2 = { x.2 with sent := x.2.sent ++ [msg] } := hlog
    have hsent : x'.2.sent = x.2.sent ++ [msg] := by rw [hlog]
    have hreceived : x'.2.received = x.2.received := by rw [hlog]
    have htold : x'.2.told = x.2.told := by rw [hlog]
    have htask : x'.1.managerTask = x.1.managerTask := by rw [hs]
    have hq' : x'.1.msgQueue = some q' := by rw [hs]
    constructor
    · rw [stored_some hq', hsent, hreceived, BoundedQueue.items_push hpush, ← List.append_assoc,
        ← (stored_some hq).mp hstored]
    · rw [hreceived, htold, htask]
      exact hphase

theorem inv_client {i : ℕ} (ho : o.IsClientCall) (h : Inv φ x)
    (he : (recording noteMessage).exec (.client i) o c x = some (r, x')) : Inv φ x' := by
  by_cases hsend : ∃ msg timeout, o = xQueueSend msg timeout
  · obtain ⟨msg, timeout, rfl⟩ := hsend
    exact inv_send he h
  obtain ⟨he, hlog⟩ := exec_withGhost he
  have hqueue : .msgQueue ∉ o.writes := by
    intro hw
    obtain ⟨posts, ho⟩ := ho
    rcases writes_msgQueue hw with rfl | hsend' | rfl | rfl
    · exact ho
    · exact hsend hsend'
    · exact ho
    · exact ho
  have hagree : x.1.AgreeInside x'.1 := agreeInside_exec ho he
  refine inv_kept (machine_agree he hqueue) (hagree .managerTask (by decide)) ?_ h
  rw [hlog]
  unfold noteMessage
  split
  · exact absurd (by simp [writes]) hqueue
  · exact absurd (by simp [writes]) hqueue
  · rfl
  · rfl

def contract : Contract (recording noteMessage) Phase ℕ where
  inv φ x _ := Inv φ x
  rest φ := φ = .rest ∨ φ = .ended ∨ ∃ msg, msg.mayBeSilent = true ∧ φ = .handling msg
  assume _ _ _ _ _ := True
  assumeArrive _ _ _ := True
  demand _ _ _ := True
  credit _ := 0
  client p := p.All WifiCall.IsClientCall

theorem frames_quiet (hφ : φ ≠ .ended) (ho : Quiet o) : contract.Frames φ o := by
  intro x w hinv
  refine ⟨trivial, fun c r x' _ h => ?_⟩
  obtain ⟨he, hlog⟩ := exec_withGhost h
  have hq : x'.1.msgQueue = x.1.msgQueue := machine_agree he ho.queue
  have hsame : x'.2 = x.2 := hlog.trans (note_quiet ho x.2)
  obtain ⟨hstored, hphase⟩ := hinv
  refine ⟨hstored.congr hq (by rw [hsame]) (by rw [hsame]), ?_⟩
  rw [hsame]
  cases φ with
  | ended => exact absurd rfl hφ
  | _ => exact hphase

theorem frames_send {msg : QueueMessage} {timeout : Timeout} :
    contract.Frames φ (xQueueSend msg timeout) := by
  intro x w hinv
  exact ⟨trivial, fun c r x' _ h => inv_send h hinv⟩

/-- What a handler does to the queue is to send. -/
theorem frames_mayCall {msg : QueueMessage} (hφ : φ ≠ .ended) (ho : msg.MayCall o) :
    contract.Frames φ o := by
  by_cases hw : .msgQueue ∈ o.writes
  · rcases ho.send hw with rfl | rfl | ⟨rfl, -⟩
    · exact frames_send
    · exact frames_send
    · exact frames_send
  · refine frames_quiet hφ ⟨hw, ?_⟩
    rintro m rfl
    cases msg <;> simp [QueueMessage.MayCall, OfSender, OfLossUpdate] at ho

theorem all_true {α : Type} (p : WifiProg α) : p.All fun _ => True := by
  induction p with
  | pure a => exact trivial
  | call o k ih => exact ⟨trivial, ih⟩

/-- Only the handler of a message that may be silent decides against the callback, and only the
order to stop ends the loop. -/
theorem handleMsg_returns (msg : QueueMessage) :
    (wifiManagerHandleMsg msg).AllThen (fun _ => True) (fun x =>
      (x.1 = true ↔ msg = .orderStopAndDestroy) ∧ (x.2 = false → msg.mayBeSilent = true)) := by
  cases msg
  case orderStopAndDestroy => exact ⟨by simp, by simp⟩
  case eventStaDisconnected reason => exact (all_true _).bind_allThen fun _ => ⟨by simp, fun _ => rfl⟩
  case orderTaskWatchdogFeed =>
    exact (all_true _).bind_allThen fun _ => (all_true _).bind_allThen fun _ => ⟨by simp, by simp⟩
  all_goals exact (all_true _).bind_allThen fun _ => ⟨by simp, by simp⟩

/-- The callback is called for the message that is being handled. -/
theorem performs_callback {msg : QueueMessage} {X : Unit → Phase → Prop}
    (hrest : msg ≠ .orderStopAndDestroy → X () .rest)
    (hstop : msg = .orderStopAndDestroy → X () .stopping) :
    contract.Performs (callback (.onMessage msg)) X (.handling msg) := by
  intro x w hinv
  refine ⟨trivial, fun c r x' _ h => ?_⟩
  obtain ⟨he, hlog⟩ := exec_withGhost h
  have hlog : x'.2 = { x.2 with told := x.2.told ++ [msg] } := hlog
  have hsame : x'.1 = x.1 := (Prod.mk.inj (Option.some.inj he)).2.symm
  obtain ⟨hstored, before, hreceived, hrunning, htold⟩ := hinv
  have hstored' : Stored x'.1 x'.2 :=
    hstored.congr (by rw [hsame]) (by rw [hlog]) (by rw [hlog])
  have htold' : Told x'.2.received x'.2.told := by
    rw [hlog, hreceived]
    exact htold.concat msg
  by_cases hmsg : msg = .orderStopAndDestroy
  · refine ⟨.stopping, ⟨hstored', ⟨before, ?_, hrunning⟩, htold'⟩, hstop hmsg⟩
    rw [hlog, hreceived, hmsg]
  · refine ⟨.rest, ⟨hstored', ?_, htold'⟩, hrest hmsg⟩
    rw [hlog, hreceived, Running, List.mem_append, List.mem_singleton]
    rintro (hmem | rfl)
    · exact hrunning hmem
    · exact hmsg rfl

/-- A handled message that was silent is behind the manager task as well. -/
theorem inv_rest (hφ : contract.rest φ) (h : Inv φ x) : Inv .rest x ∨ φ = .ended := by
  rcases hφ with rfl | rfl | ⟨msg, hmsg, rfl⟩
  · exact .inl h
  · exact .inr rfl
  · obtain ⟨hstored, before, hreceived, hrunning, htold⟩ := h
    refine .inl ⟨hstored, ?_, ?_⟩
    · rw [hreceived, Running, List.mem_append, List.mem_singleton]
      rintro (hmem | rfl)
      · exact hrunning hmem
      · exact absurd hmsg (by decide)
    · rw [hreceived]
      exact htold.concat_silent hmsg

theorem handleMsg_keeps (msg : QueueMessage) :
    contract.Keeps (wifiManagerHandleMsg msg) (fun x φ => φ = .handling msg ∧
      (x.1 = true ↔ msg = .orderStopAndDestroy) ∧ (x.2 = false → msg.mayBeSilent = true))
      (.handling msg) := by
  have hne : Phase.handling msg ≠ .ended := by simp
  refine Contract.Keeps.and_allThen ?_ (handleMsg_returns msg)
  exact Contract.keeps_frame ((wifiManagerHandleMsg_allThen msg).all.mono fun o ho =>
    frames_mayCall hne ho) fun _ => rfl

/-- The last calls of the manager task, up to the one that ends it. -/
theorem finish_keeps : contract.Keeps (wifiManagerTaskFinish >>= fun _ =>
    call (setManagerTask .none)) (fun _ => contract.rest) .stopping := by
  have hframes : wifiManagerTaskFinish.All (contract.Frames .stopping) := by
    refine wifiManagerTaskFinish_all.mono fun o ho => ?_
    by_cases hdelete : o = vQueueDelete
    · subst hdelete
      intro x w hinv
      refine ⟨trivial, fun c r x' _ h => ?_⟩
      obtain ⟨he, hlog⟩ := exec_withGhost h
      have hlog : x'.2 = x.2 := hlog
      have hnone : x'.1.msgQueue = none := by rw [← (Prod.mk.inj (Option.some.inj he)).2]
      obtain ⟨hstored, hphase⟩ := hinv
      refine ⟨(stored_none hnone).mpr ?_, ?_⟩
      · rw [hlog]
        exact hstored.isPrefix
      · rw [hlog]
        exact hphase
    · refine frames_quiet (by simp) ⟨fun hw => ?_, ?_⟩
      · rcases writes_msgQueue hw with rfl | ⟨msg, timeout, rfl⟩ | rfl | rfl
        · simp [OfFinish] at ho
        · simp [OfFinish] at ho
        · simp [OfFinish] at ho
        · exact hdelete rfl
      · rintro msg rfl
        simp [OfFinish] at ho
  refine Contract.keeps_bind.mpr (Contract.keeps_frame hframes fun _ => ?_)
  intro x w hinv
  refine ⟨trivial, fun c r x' _ h => ⟨.ended, ?_, .inr (.inl rfl)⟩⟩
  obtain ⟨he, hlog⟩ := exec_withGhost h
  have hlog : x'.2 = x.2 := hlog
  have hs : x'.1 = { x.1 with managerTask := .none } := (Prod.mk.inj (Option.some.inj he)).2.symm
  obtain ⟨hstored, hstopped, htold⟩ := hinv
  refine ⟨hstored.congr (by rw [hs]) (by rw [hlog]) (by rw [hlog]), ?_⟩
  rw [hlog, hs]
  exact ⟨hstopped, htold, rfl⟩

theorem taskHandle_keeps (msg : QueueMessage) :
    contract.Keeps (wifiManagerTaskHandle msg) (fun _ => contract.rest) (.handling msg) := by
  refine Contract.keeps_bind.mpr (Contract.keeps_bind.mpr ?_)
  refine (handleMsg_keeps msg).mono ?_
  rintro ⟨flagTerminate, callCb⟩ φ ⟨rfl, hstop, hsilent⟩
  cases callCb with
  | false =>
    have hmsg := hsilent rfl
    cases flagTerminate with
    | false => exact .inr (.inr ⟨msg, hmsg, rfl⟩)
    | true =>
      obtain rfl := hstop.mp rfl
      exact absurd hmsg (by decide)
  | true =>
    refine performs_callback (fun hmsg => ?_) fun hmsg => ?_
    · cases flagTerminate with
      | false => exact .inl rfl
      | true => exact absurd (hstop.mp rfl) hmsg
    · cases flagTerminate with
      | false => exact absurd (hstop.mpr hmsg) (by simp)
      | true => exact finish_keeps

theorem taskRound_keeps :
    contract.Keeps wifiManagerTaskRound (fun _ => contract.rest) .rest := by
  rw [wifiManagerTaskRound_eq]
  intro x w hinv
  refine ⟨trivial, fun c received x' _ h => ?_⟩
  obtain ⟨he, hlog⟩ := exec_withGhost h
  obtain ⟨q, msg, q', hq, hpop, rfl, hs⟩ := exec_xQueueReceive (t := .server) (c := c) he
  have hlog : x'.2 = { x.2 with received := x.2.received ++ [msg] } := hlog
  obtain ⟨hstored, hrunning, htold⟩ := hinv
  refine ⟨.handling msg, ⟨?_, x.2.received, ?_, hrunning, ?_⟩, taskHandle_keeps msg⟩
  · have hq' : x'.1.msgQueue = some q' := by rw [hs]
    rw [stored_some hq', hlog, (stored_some hq).mp hstored, BoundedQueue.items_pop hpop]
    simp
  · rw [hlog]
  · rw [hlog]
    exact htold

theorem sound : contract.Sound where
  call := by
    intro φ i o k c r x x' w hclient hinv _ he
    exact ⟨inv_client hclient.1 hinv he, hclient.2 r⟩
  arrive := by
    intro φ req x x' p w hinv _ ha
    obtain ⟨⟨s', p'⟩, hs, heq⟩ := Option.map_eq_some_iff.mp ha
    obtain ⟨rfl, rfl⟩ := Prod.mk.inj heq
    have hoccur := (arrive_eq hs).1
    have hq : s'.msgQueue = x.1.msgQueue :=
      occur_agree (f := .msgQueue) hoccur (by cases req <;> simp [Request.writes])
    have htask : s'.managerTask = x.1.managerTask :=
      agreeInside_occur hoccur .managerTask (by decide)
    exact ⟨inv_kept hq htask rfl hinv, arrive_all hs⟩
  serve := by
    intro φ x p w hrest hinv hp
    rcases inv_rest hrest hinv with hinv' | rfl
    · refine ⟨.rest, hinv', ?_⟩
      rcases serve_cases hp with ⟨-, rfl⟩ | ⟨-, rfl⟩
      · have hne : Phase.rest ≠ .ended := by simp
        refine Contract.keeps_frame (Prog.All.mono (fun _ => frames_quiet hne) ?_) fun _ => .inl rfl
        have hadd : Quiet (driver .espTaskWdtAdd) :=
          ⟨by simp [writes, DriverCall.writes], by simp⟩
        have htimer : Quiet wdogTimerStart := ⟨by simp [writes], by simp⟩
        have hset : Quiet (setManagerTask .looping) := ⟨by simp [writes], by simp⟩
        exact ⟨hadd, fun _ => ⟨htimer, fun _ => ⟨hset, fun _ => trivial⟩⟩⟩
      · exact taskRound_keeps
    · have hnone : x.1.managerTask = .none := hinv.2.2.2
      rcases serve_cases hp with ⟨htask, -⟩ | ⟨htask, -⟩
      · exact absurd (hnone.symm.trans htask) (by simp)
      · exact absurd (hnone.symm.trans htask) (by simp)

/-- The messages behind the manager task. -/
theorem Inv.handled (h : Inv φ x) : ∃ handled, Told handled x.2.told ∧
    (x.2.received = handled ∨ ∃ msg, φ = .handling msg ∧ x.2.received = handled ++ [msg]) := by
  obtain ⟨-, hphase⟩ := h
  cases φ with
  | rest => exact ⟨x.2.received, hphase.2, .inl rfl⟩
  | handling msg =>
    obtain ⟨before, hreceived, -, htold⟩ := hphase
    exact ⟨before, htold, .inr ⟨msg, rfl, hreceived⟩⟩
  | stopping => exact ⟨x.2.received, hphase.2, .inl rfl⟩
  | ended => exact ⟨x.2.received, hphase.2.1, .inl rfl⟩

end MessageOrder

end WifiManager
end Esp32WifiManager
