import Esp32WifiManager.Lib.Typestate
import Esp32WifiManager.Servers.ServerTasks

/-!
# Who is registered

The signal of a server knows one thread. A task that registers only while it is
not registered, and waits and unregisters only while it is, always knows itself
whether it is the one.
-/

namespace Esp32WifiManager
namespace Servers

open TaskSystem ServerCall

/-- What a call needs of the task's own registration. -/
def NeedsOwn : ServerCall → Bool → Prop
  | osSignalRegisterCurThread, own => own = false
  | osSignalUnregisterCurThread, own | serveUntilStop, own => own = true
  | _, _ => True

/-- The task's own registration after the call. -/
def ownAfter : (o : ServerCall) → o.Ret → Bool → Bool
  | osSignalRegisterCurThread, registered, _ => registered
  | osSignalUnregisterCurThread, _, _ => false
  | _, _, own => own

/-- The tasks know who is registered. -/
def OwnerKnown (S : OsSignal) (own : TaskId → Bool) (s : ServerState S) : Prop :=
  ∀ t, own t = true ↔ ∃ b, S.view s.sig = some (t, b)

section Exec

variable {S : OsSignal} {own own' : TaskId → Bool} {t : TaskId} {o : ServerCall} {c : Reply}
  {r : o.Ret} {s s' : ServerState S}

/-- The calls of the signal that change it. -/
def ChangesSignal (o : ServerCall) : Prop :=
  o = osSignalRegisterCurThread ∨ o = osSignalUnregisterCurThread ∨ o = osSignalSendStop ∨
    o = serveUntilStop

def mutexAfter (t : TaskId) : ServerCall → Option TaskId → Option TaskId
  | osMutexLock, _ => some t
  | osMutexUnlock, m => if m = some t then none else m
  | _, m => m

/-- What a call leaves as it is. -/
theorem exec_frame (he : exec S t o c s = some (r, s')) :
    (¬ ChangesSignal o → s'.sig = s.sig) ∧ (o ≠ osTaskCreate → s'.created = s.created) ∧
      s'.mutex = mutexAfter t o s.mutex := by
  cases o <;> simp only [exec] at he
  case osMutexLock | serveUntilStop =>
    split at he
    · obtain ⟨-, rfl⟩ := Prod.mk.inj (Option.some.inj he)
      simp [mutexAfter, ChangesSignal]
    · exact absurd he (by simp)
  case osTaskCreate =>
    split at he <;> obtain ⟨-, rfl⟩ := Prod.mk.inj (Option.some.inj he) <;>
      simp [mutexAfter]
  all_goals
    obtain ⟨-, rfl⟩ := Prod.mk.inj (Option.some.inj he)
    simp [mutexAfter, ChangesSignal]

theorem OwnerKnown.none (h : OwnerKnown S own s) (hview : S.view s.sig = none) (u : TaskId) :
    own u = false := by
  rw [Bool.eq_false_iff]
  intro hown
  obtain ⟨b, hb⟩ := (h u).mp hown
  exact absurd (hview.symm.trans hb) (by simp)

theorem OwnerKnown.of_free (hview : S.view s.sig = .none) (hown : ∀ u, own u = false) :
    OwnerKnown S own s := by
  intro u
  simp [hview, hown u]

theorem OwnerKnown.unique {u : TaskId} (h : OwnerKnown S own s) (ht : own t = true)
    (hu : own u = true) : t = u := by
  obtain ⟨b, hb⟩ := (h t).mp ht
  obtain ⟨b', hb'⟩ := (h u).mp hu
  exact congrArg Prod.fst (Option.some.inj (hb.symm.trans hb'))

theorem OwnerKnown.of_view {b : Bool} (hview : S.view s.sig = some (t, b)) (hown : own t = true)
    (hothers : ∀ u ≠ t, own u = false) : OwnerKnown S own s := by
  intro u
  by_cases hut : u = t
  · subst hut
    exact iff_of_true hown ⟨b, hview⟩
  · have hne : ∀ b', S.view s.sig ≠ some (u, b') := by
      intro b' hb'
      exact hut (congrArg Prod.fst (Option.some.inj (hb'.symm.trans hview)))
    rw [hothers u hut]
    simp [hne]

theorem OwnerKnown.others {b : Bool} (h : OwnerKnown S own s) (hview : S.view s.sig = some (t, b)) :
    own t = true ∧ ∀ u ≠ t, own u = false := by
  have ht := (h t).mpr ⟨b, hview⟩
  refine ⟨ht, fun u hut => ?_⟩
  rw [Bool.eq_false_iff]
  exact fun hu => hut (h.unique hu ht)

/-- Every call leaves it known who is registered. -/
theorem OwnerKnown.exec (h : OwnerKnown S own s) (hneeds : NeedsOwn o (own t))
    (hself : own' t = ownAfter o r (own t)) (hother : ∀ u ≠ t, own' u = own u)
    (he : exec S t o c s = some (r, s')) : OwnerKnown S own' s' := by
  have hsame : S.view s'.sig = S.view s.sig → ownAfter o r (own t) = own t →
      OwnerKnown S own' s' := by
    intro hview hkeep u
    rw [hview, ← h u]
    by_cases hut : u = t
    · rw [hut, hself, hkeep]
    · rw [hother u hut]
  by_cases ho : ChangesSignal o
  · rcases ho with rfl | rfl | rfl | rfl
    · obtain ⟨rfl, rfl⟩ := Prod.mk.inj (Option.some.inj he)
      cases hview : S.view s.sig with
      | none =>
        obtain ⟨hregistered, hnew⟩ := S.register_free (t := t) hview
        refine .of_view hnew (hself.trans hregistered) ?_
        intro u hut
        rw [hother u hut]
        exact h.none hview u
      | some x =>
        have hne : x.1 ≠ t := by
          intro hx
          have hown := (h t).mpr ⟨x.2, hview.trans (by rw [← hx])⟩
          exact absurd (hneeds.symm.trans hown) (by simp)
        obtain ⟨hregistered, hkeep⟩ := S.register_taken hview hne
        exact hsame hkeep (hregistered.trans hneeds.symm)
    · obtain ⟨rfl, rfl⟩ := Prod.mk.inj (Option.some.inj he)
      obtain ⟨b, hb⟩ := (h t).mp hneeds
      apply OwnerKnown.of_free (S.unregister_own hb)
      intro u
      by_cases hut : u = t
      · rw [hut, hself]
        rfl
      · rw [hother u hut]
        exact (h.others hb).2 u hut
    · obtain ⟨rfl, rfl⟩ := Prod.mk.inj (Option.some.inj he)
      cases hview : S.view s.sig with
      | none => exact hsame ((S.send_free hview).trans hview.symm) rfl
      | some x =>
        obtain ⟨hown, hothers⟩ := h.others hview
        have hkeep : ∀ u, own' u = own u := by
          intro u
          by_cases hut : u = t
          · rw [hut, hself]
            rfl
          · exact hother u hut
        refine .of_view (S.send_registered hview).2 ((hkeep x.1).trans hown) ?_
        intro u hu
        exact (hkeep u).trans (hothers u hu)
    · simp only [Servers.exec] at he
      split at he
      · obtain ⟨-, rfl⟩ := Prod.mk.inj (Option.some.inj he)
        obtain ⟨b, hb⟩ := (h t).mp hneeds
        refine .of_view (S.wait_own hb).2 (hself.trans hneeds) ?_
        intro u hut
        rw [hother u hut]
        exact (h.others hb).2 u hut
      · exact absurd he (by simp)
  · have hkeep : ownAfter o r (own t) = own t := by
      cases o <;> first | rfl | exact absurd (by simp [ChangesSignal]) ho
    exact hsame (by rw [(exec_frame he).1 ho]) hkeep

end Exec

end Servers
end Esp32WifiManager
