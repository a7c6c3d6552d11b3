import Esp32WifiManager.Lib.TaskSystem
import Mathlib.Logic.Function.Basic

/-!
# The calls of one run of a program

Once it is fixed how each call is answered, a program makes one list of calls
and comes to one result. This is enough for a program that makes no call twice,
and what holds for all answers holds of every run.
-/

namespace TaskSystem

variable {Op : Type} {Ret : Op → Type}

namespace Prog

variable {α β : Type}

/-- The calls that are made under these answers. -/
def trace (ans : (o : Op) → Ret o) : Prog Op Ret α → List Op
  | .pure _ => []
  | .call o k => o :: trace ans (k (ans o))

/-- The result under these answers. -/
def value (ans : (o : Op) → Ret o) : Prog Op Ret α → α
  | .pure a => a
  | .call o k => value ans (k (ans o))

variable (ans : (o : Op) → Ret o)

@[simp] theorem trace_pure (a : α) : trace ans (Pure.pure a : Prog Op Ret α) = [] := rfl

@[simp] theorem value_pure (a : α) : value ans (Pure.pure a : Prog Op Ret α) = a := rfl

@[simp] theorem trace_perform (o : Op) : trace ans (perform o : Prog Op Ret (Ret o)) = [o] := rfl

@[simp] theorem value_perform (o : Op) : value ans (perform o : Prog Op Ret (Ret o)) = ans o := rfl

@[simp] theorem trace_bind (p : Prog Op Ret α) (f : α → Prog Op Ret β) :
    trace ans (p >>= f) = trace ans p ++ trace ans (f (value ans p)) := by
  induction p with
  | pure a => rfl
  | call o k ih => exact congrArg (o :: ·) (ih (ans o))

@[simp] theorem value_bind (p : Prog Op Ret α) (f : α → Prog Op Ret β) :
    value ans (p >>= f) = value ans (f (value ans p)) := by
  induction p with
  | pure a => rfl
  | call o k ih => exact ih (ans o)

@[simp] theorem trace_ite (c : Prop) [Decidable c] (p q : Prog Op Ret α) :
    trace ans (if c then p else q) = if c then trace ans p else trace ans q :=
  apply_ite _ _ _ _

@[simp] theorem value_ite (c : Prop) [Decidable c] (p q : Prog Op Ret α) :
    value ans (if c then p else q) = if c then value ans p else value ans q :=
  apply_ite _ _ _ _

end Prog

end TaskSystem
