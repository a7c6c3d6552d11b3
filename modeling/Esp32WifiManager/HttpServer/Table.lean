import Esp32WifiManager.HttpServer.Sessions
import Esp32WifiManager.Lib.SlotTable

/-!
# The table of authorized sessions

The four slots as a `SlotTable`: a slot with an empty session id is free, the
others hold the strings of a session id and an address.
-/

namespace Esp32WifiManager
namespace Auth

open CString HttpReq

/-- Session id and remote address. -/
abbrev SessionKey := Bytes × Bytes

def HttpServerAuthRuuviAuthorizedSession.entry (slot : HttpServerAuthRuuviAuthorizedSession) :
    Option SessionKey :=
  if slot.sessionId.isEmpty then none else some (slot.sessionId.str, slot.remoteIp.str)

def HttpServerAuthRuuvi.table (ruuvi : HttpServerAuthRuuvi) : List (Option SessionKey) :=
  ruuvi.authorizedSessions.toList.map HttpServerAuthRuuviAuthorizedSession.entry

/-- The authorized sessions, the latest one first. -/
def HttpServerAuthRuuvi.entries (ruuvi : HttpServerAuthRuuvi) : List SessionKey :=
  ruuvi.table.reduceOption

section Slots

variable {slot : HttpServerAuthRuuviAuthorizedSession} {sessionId remoteIp : CharBuf 17}

theorem entry_eq_some_iff {key : SessionKey} :
    slot.entry = some key ↔
      slot.sessionId.str ≠ [] ∧ slot.sessionId.str = key.1 ∧ slot.remoteIp.str = key.2 := by
  unfold HttpServerAuthRuuviAuthorizedSession.entry
  by_cases h : slot.sessionId.isEmpty = true
  · have := CharBuf.isEmpty_iff.mp h
    simp [h, this]
  · have hne : slot.sessionId.str ≠ [] := fun he => h (CharBuf.isEmpty_iff.mpr he)
    simp [h, hne, Prod.ext_iff]

theorem holds_iff :
    slot.holds sessionId remoteIp = true ↔ slot.entry = some (sessionId.str, remoteIp.str) := by
  rw [entry_eq_some_iff, HttpServerAuthRuuviAuthorizedSession.holds]
  by_cases h : slot.sessionId.isEmpty = true
  · have := CharBuf.isEmpty_iff.mp h
    simp [h, this]
  · have hne : slot.sessionId.str ≠ [] := fun he => h (CharBuf.isEmpty_iff.mpr he)
    simp [h, hne, staIpCmp]

theorem entry_of_str_ne_nil (h : sessionId.str ≠ []) :
    (HttpServerAuthRuuviAuthorizedSession.mk sessionId remoteIp).entry =
      some (sessionId.str, remoteIp.str) :=
  entry_eq_some_iff.mpr ⟨h, rfl, rfl⟩

theorem entry_clear :
    (HttpServerAuthRuuviAuthorizedSession.mk sessionId.clear remoteIp).entry = none := by
  have : (CharBuf.clear sessionId).isEmpty = true := CharBuf.isEmpty_iff.mpr (CharBuf.str_clear _)
  simp [HttpServerAuthRuuviAuthorizedSession.entry, this]

theorem matches_iff {session : HttpServerAuthRuuviLoginSession} :
    session.matches sessionId remoteIp = true ↔
      session.sessionId.str ≠ [] ∧ session.sessionId.str = sessionId.str ∧
        session.remoteIp.str = remoteIp.str := by
  unfold HttpServerAuthRuuviLoginSession.matches
  by_cases h : session.sessionId.isEmpty = true
  · have := CharBuf.isEmpty_iff.mp h
    simp [h, this]
  · have hne : session.sessionId.str ≠ [] := fun he => h (CharBuf.isEmpty_iff.mpr he)
    simp only [h, Bool.false_eq_true, if_false, staIpCmp, hne, ne_eq, not_false_iff, true_and]
    by_cases hid : session.sessionId.str = sessionId.str
    · simp [hid]
    · simp [hid]

theorem matches_str_ne_nil {session : HttpServerAuthRuuviLoginSession}
    (h : session.matches sessionId remoteIp = true) : sessionId.str ≠ [] := by
  obtain ⟨hne, heq, -⟩ := matches_iff.mp h
  exact heq ▸ hne

end Slots

section Table

variable (ruuvi : HttpServerAuthRuuvi) (sessionId remoteIp : CharBuf 17)

theorem table_length : ruuvi.table.length = httpServerAuthRuuviMaxNumSessions := by
  simp [HttpServerAuthRuuvi.table]

theorem table_getElem? (i : Fin httpServerAuthRuuviMaxNumSessions) :
    ruuvi.table[i.1]? = some (ruuvi.authorizedSessions.get i).entry := by
  simp [HttpServerAuthRuuvi.table]
  rfl

theorem table_zero : HttpServerAuthRuuvi.zero.table = [none, none, none, none] := by
  decide

theorem table_add :
    (httpServerAuthRuuviAddAuthorizedSession sessionId remoteIp ruuvi).table =
      ((HttpServerAuthRuuviAuthorizedSession.mk sessionId remoteIp).entry :: ruuvi.table).dropLast :=
    by
  obtain ⟨session, t, ht⟩ := ruuvi
  obtain ⟨l, hl⟩ : ∃ l, t = l.toArray := ⟨t.toList, rfl⟩
  subst hl
  match l, ht with
  | [a, b, c, d], _ => rfl

theorem table_deleteSlot (i : Fin httpServerAuthRuuviMaxNumSessions) :
    (ruuvi.deleteSlot i).table = SlotTable.free ruuvi.table i := by
  unfold HttpServerAuthRuuvi.deleteSlot HttpServerAuthRuuvi.table SlotTable.free
  simp only [Vector.toList_set, List.map_set, entry_clear]

theorem table_insert (h : sessionId.str ≠ []) :
    (httpServerAuthRuuviAddAuthorizedSession sessionId remoteIp ruuvi).table =
      SlotTable.insert (sessionId.str, remoteIp.str) ruuvi.table := by
  rw [table_add, entry_of_str_ne_nil h, SlotTable.insert]

theorem mem_entries_iff {key : SessionKey} :
    key ∈ ruuvi.entries ↔
      ∃ i : Fin httpServerAuthRuuviMaxNumSessions, (ruuvi.authorizedSessions.get i).entry = some key := by
  unfold HttpServerAuthRuuvi.entries
  rw [List.reduceOption_mem_iff, List.mem_iff_getElem?]
  constructor
  · rintro ⟨i, hi⟩
    have hlt : i < httpServerAuthRuuviMaxNumSessions := by
      rw [← table_length ruuvi]
      exact (List.getElem?_eq_some_iff.mp hi).1
    have := table_getElem? ruuvi ⟨i, hlt⟩
    exact ⟨⟨i, hlt⟩, Option.some.inj (this.symm.trans hi)⟩
  · rintro ⟨i, hi⟩
    exact ⟨i, by rw [table_getElem?, hi]⟩

variable {ruuvi sessionId remoteIp}

/-- The search finds the first slot that holds the session. -/
theorem findAuthorizedSession_eq_some {i : Fin httpServerAuthRuuviMaxNumSessions}
    (h : httpServerAuthRuuviFindAuthorizedSession sessionId remoteIp ruuvi = some i) :
    ruuvi.table[i.1]? = some (some (sessionId.str, remoteIp.str)) ∧
      ∀ j < i.1, ruuvi.table[j]? ≠ some (some (sessionId.str, remoteIp.str)) := by
  unfold httpServerAuthRuuviFindAuthorizedSession at h
  obtain ⟨hi, k, hk, rfl, hpre⟩ := List.find?_eq_some_iff_getElem.mp h
  simp only [List.getElem_finRange, Fin.val_cast] at hi hpre ⊢
  refine ⟨by rw [← holds_iff.mp hi]; exact table_getElem? ruuvi ⟨k, _⟩, ?_⟩
  intro j hj hget
  have hlt : j < httpServerAuthRuuviMaxNumSessions := by
    rw [List.length_finRange] at hk
    omega
  have hentry := table_getElem? ruuvi ⟨j, hlt⟩
  have hholds := holds_iff.mpr (Option.some.inj (hentry.symm.trans hget))
  have hnot := hpre j hj
  simp only [Bool.not_eq_true'] at hnot
  exact absurd (hholds.symm.trans hnot) (by decide)

theorem findAuthorizedSession_isSome_iff :
    (httpServerAuthRuuviFindAuthorizedSession sessionId remoteIp ruuvi).isSome = true ↔
      (sessionId.str, remoteIp.str) ∈ ruuvi.entries := by
  unfold httpServerAuthRuuviFindAuthorizedSession
  rw [List.find?_isSome, mem_entries_iff]
  simp only [List.mem_finRange, true_and, holds_iff]

end Table

end Auth
end Esp32WifiManager
