import Mathlib.Logic.Basic

/-! Computations on a state that may unwind with an error and keep what they have done to the state. -/

namespace Unwinding

variable {ε σ α β : Type}

/-- A computation returns a value or unwinds with an error, and in both cases leaves a state. -/
abbrev Unwind (ε σ α : Type) := ExceptT ε (StateM σ) α

def exec (program : Unwind ε σ α) (s : σ) : Except ε α × σ := program.run.run s

@[simp] theorem exec_pure (value : α) (s : σ) : exec (pure value : Unwind ε σ α) s = (.ok value, s) := rfl

theorem exec_bind (program : Unwind ε σ α) (next : α → Unwind ε σ β) (s : σ) :
    exec (program >>= next) s =
      match exec program s with
      | (.ok value, t) => exec (next value) t
      | (.error error, t) => (.error error, t) := by
  show StateT.bind program (ExceptT.bindCont next) s = _
  simp only [StateT.bind, exec, ExceptT.run, StateT.run]
  rcases program s with ⟨error | value, t⟩
  · rfl
  · rfl

/-- The states before and after the computation are related however it ends. -/
def Moves (R : σ → σ → Prop) (program : Unwind ε σ α) : Prop := ∀ s, R s (exec program s).2

variable {R : σ → σ → Prop}

theorem Moves.pure (same : ∀ s, R s s) (value : α) : Moves R (Pure.pure value : Unwind ε σ α) := same

theorem Moves.bind (joined : ∀ s t u, R s t → R t u → R s u) {program : Unwind ε σ α} {next : α → Unwind ε σ β}
    (first : Moves R program) (rest : ∀ value, Moves R (next value)) : Moves R (program >>= next) := by
  intro s
  have moved := first s
  rw [exec_bind]
  cases ended : exec program s with
  | mk outcome t =>
    rw [ended] at moved
    cases outcome with
    | error error => exact moved
    | ok value => exact joined s t _ moved (rest value t)

end Unwinding
