import Allgres.Sandbox.Process

/-! What the worker leaves behind after a statement of an agent. -/

namespace Allgres

open Jsonb Unwinding

namespace Sandbox

variable {server : Server} {p q r : Process}

theorem Process.Ticks.refl (p : Process) : p.Ticks p := ⟨rfl, .inl rfl⟩

theorem Process.Ticks.trans (first : p.Ticks q) (second : q.Ticks r) : p.Ticks r := by
  refine ⟨second.1.trans first.1, ?_⟩
  rcases second.2 with same | expired
  · rw [same]
    exact first.2
  · exact .inr expired

theorem Process.Level.refl (p : Process) : p.Level p := ⟨rfl, .refl p⟩

theorem Process.Level.trans (first : p.Level q) (second : q.Level r) : p.Level r :=
  ⟨second.1.trans first.1, first.2.trans second.2⟩

/-- The state in which the closure runs. -/
def entered (server : Server) (p : Process) : Process :=
  { server.beginInternalSubTransaction p with memoryContext := p.memoryContext }

/-- The state after a closure that ended in `q`: whichever way out was taken. -/
def left (server : Server) (p q : Process) : Except CaughtError (Except String Json) → Process
  | .ok (.ok _) =>
    { server.releaseCurrentSubTransaction { q with memoryContext := p.memoryContext } with
      memoryContext := p.memoryContext
      resourceOwner := p.resourceOwner }
  | .ok (.error _) => q
  | .error _ =>
    { server.rollbackAndReleaseCurrentSubTransaction { q with memoryContext := p.memoryContext } with
      memoryContext := p.memoryContext
      resourceOwner := p.resourceOwner }

variable {prepare : Step Bool} {unavailable : String} {timeoutMs : Nat} {call : Statement (Option Json)}
  {nothing : Except String Json}

/-- The state in which the closure of `BackgroundWorker::transaction(|| run_in_subtransaction(..))` runs. -/
def started (server : Server) (p : Process) : Process := entered server (server.startTransactionCommand p)

def answered {α : Type} (outcome : Except CaughtError (Except String α)) : Statement α :=
  ⟨match outcome with
    | .ok answer => pure answer
    | .error caught => throw caught, by
    intro p
    cases outcome with
    | ok answer => exact .refl p
    | error caught => exact .refl p⟩

end Sandbox

end Allgres
