import Esp32WifiManager.Lib.Ghost
import Esp32WifiManager.WifiManager.Handlers

/-!
# Invariants that speak about a record

The system with a record of what its calls have done. A client leaves the parts
of the state alone that it does not write, and an invariant says what it needs
of the calls of the clients and what a run promises of all calls.
-/

namespace Esp32WifiManager
namespace WifiManager

open TaskSystem

/-- A machine of the manager with a record of type `γ`. -/
abbrev recording {γ : Type} (note : TaskId → (o : WifiCall) → Reply → o.Ret → γ → γ) :
    Machine WifiCall WifiCall.Ret Reply Request (WifiState × γ) := machine.withGhost note

/-- A call leaves what it does not write as it is. -/
theorem recorded_agree {γ : Type} {note : TaskId → (o : WifiCall) → Reply → o.Ret → γ → γ}
    {t : TaskId} {o : WifiCall} {c : Reply} {r : o.Ret} {x x' : WifiState × γ}
    (h : (recording note).exec t o c x = some (r, x')) {f : Field} (hf : f ∉ o.writes) :
    x.1.Agree x'.1 f := exec_agree (exec_withGhost h).1 hf

/-- An invariant of state and record in the phases of the manager task. `assume` is what a run
promises of a call before it is made. -/
structure RecordInvariant {γ : Type} (note : TaskId → (o : WifiCall) → Reply → o.Ret → γ → γ)
    (Φ : Type) where
  inv : Φ → WifiState × γ → Prop
  rest : Φ → Prop
  assume : TaskId → WifiCall → WifiState × γ → Prop
  client : ∀ {φ i o c r x x'}, o.IsClientCall → inv φ x → assume (.client i) o x →
    (recording note).exec (.client i) o c x = some (r, x') → inv φ x'
  occur : ∀ {φ s s' g}, (∀ b, s'.eventBits b = s.eventBits b) → s.AgreeInside s' →
    s'.driver.mode = s.driver.mode → inv φ (s, g) → inv φ (s', g)

namespace RecordInvariant

variable {γ Φ : Type} {note : TaskId → (o : WifiCall) → Reply → o.Ret → γ → γ}
  (I : RecordInvariant note Φ)

def contract : Contract (recording note) Φ ℕ where
  inv φ x _ := I.inv φ x
  rest := I.rest
  assume t o _ x _ := I.assume t o x
  assumeArrive _ _ _ := True
  demand _ _ _ := True
  credit _ := 0
  client p := p.All WifiCall.IsClientCall

variable {I}

theorem sound
    (hserve : ∀ {φ x p}, I.rest φ → I.inv φ x → machine.serve x.1 = some p →
      I.contract.Keeps p (fun _ => I.rest) φ) : I.contract.Sound where
  call := by
    intro φ i o k c r x x' w hclient hinv hassume he
    exact ⟨I.client hclient.1 hinv hassume he, hclient.2 r⟩
  arrive := by
    intro φ req x x' p w hinv _ ha
    obtain ⟨⟨s', p'⟩, hs, heq⟩ := Option.map_eq_some_iff.mp ha
    obtain ⟨rfl, rfl⟩ := Prod.mk.inj heq
    have hoccur := (arrive_eq hs).1
    have hbits : ∀ b, s'.eventBits b = x.1.eventBits b := fun b =>
      occur_agree (f := .bit b) hoccur (by cases req <;> simp [Request.writes])
    have hmode : s'.driver.mode = x.1.driver.mode :=
      occur_agree (f := .driverMode) hoccur (by cases req <;> simp [Request.writes])
    exact ⟨I.occur hbits (agreeInside_occur hoccur) hmode hinv, arrive_all hs⟩
  serve := by
    intro φ x p w hrest hinv hp
    exact ⟨φ, hinv, hserve hrest hinv hp⟩

/-- A run from a start that keeps its promises keeps the invariant. -/
theorem holds_of_path (hI : I.contract.Sound) {φ₀ : Φ} {flag : Bool} {sta : WifimanConfigSta} {g : γ}
    (hrest : I.rest φ₀) (hinv : I.inv φ₀ (WifiState.started flag sta, g))
    {cfg : Config WifiCall WifiCall.Ret (WifiState × γ)} {labels : List WifiLabel}
    (hrun : Path (recording note) (Promised I.assume) ((WifiConfig.started flag sta).withGhost g)
      labels cfg) : ∃ φ, I.contract.Holds φ cfg := by
  have hstart : I.contract.Holds φ₀ ((WifiConfig.started flag sta).withGhost g) := by
    refine ⟨hinv, hrest, fun {i x} hx => ?_⟩
    exact absurd hx (by simp [Config.withGhost, WifiConfig.started, Config.task])
  refine hstart.path hI (fun cfg l hl => ?_) hrun
  cases l with
  | arrive req => exact trivial
  | run t c => exact hl

/-- When nothing is asked of the end of the manager task but that it is noted. -/
theorem finish_keeps {φ φ' : Φ} (hframe : ∀ o, I.contract.Frames φ o)
    (hended : ∀ x : WifiState × γ, x.1.managerTask = .none → I.inv φ' x) :
    I.contract.Keeps (wifiManagerTaskHandle .orderStopAndDestroy) (fun _ ψ => ψ = φ') φ := by
  change I.contract.Keeps (call (.callback (.onMessage .orderStopAndDestroy)) >>=
    fun _ => wifiManagerTaskFinish >>= fun _ => call (.setManagerTask .none)) _ _
  apply Contract.performs_frame (hframe _)
  intro _
  apply Contract.keeps_bind.mpr
  apply Contract.keeps_frame (wifiManagerTaskFinish_all.mono fun o _ => hframe o)
  intro _ x w _
  refine ⟨trivial, fun c r x' _ h => ⟨φ', hended x' ?_, rfl⟩⟩
  obtain ⟨he, -⟩ := exec_withGhost h
  obtain ⟨s', g'⟩ := x'
  obtain ⟨-, rfl⟩ := Prod.mk.inj (Option.some.inj he)
  rfl

end RecordInvariant

/-- A run after which the manager task waits for the next message. -/
theorem path_of_run {γ : Type} {note : TaskId → (o : WifiCall) → Reply → o.Ret → γ → γ} {g : γ}
    {flag : Bool} {sta : WifimanConfigSta} {test : TaskId → WifiCall → WifiState × γ → Bool}
    {P : TaskId → WifiCall → WifiState × γ → Prop}
    (htest : ∀ t o x, test t o x = true → P t o x) {labels : List WifiLabel}
    {O : WifiState × γ → Bool}
    (h : (runWhere (recording note) (promisedTest test) ((WifiConfig.started flag sta).withGhost g)
      labels).any (fun cfg => cfg.server.prog.next.isNone &&
        !decide (cfg.shared.1.managerTask = .none) && O cfg.shared) = true) :
    ∃ cfg, Path (recording note) (Promised P) ((WifiConfig.started flag sta).withGhost g) labels cfg ∧
      cfg.server.prog = .pure () ∧ cfg.shared.1.managerTask ≠ .none ∧ O cfg.shared = true := by
  obtain ⟨cfg, hrun, hany⟩ := (Option.any_eq_true _ _).mp h
  simp only [Bool.and_eq_true, Bool.not_eq_true', decide_eq_false_iff_not] at hany
  obtain ⟨⟨hnext, halive⟩, hok⟩ := hany
  refine ⟨cfg, Path.of_runWhere (fun _ _ hl => promised_of_test htest hl) hrun, ?_, halive, hok⟩
  cases hprog : cfg.server.prog with
  | pure a => rfl
  | call o k =>
    rw [hprog] at hnext
    exact absurd hnext (by simp [Prog.next])

end WifiManager
end Esp32WifiManager
