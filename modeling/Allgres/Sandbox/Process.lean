import Allgres.Lib.Jsonb
import Allgres.Lib.Unwinding

/-! The worker's process while it runs the statements of agents. -/

namespace Allgres

open Jsonb Unwinding

namespace Sandbox

/-- `STATEMENT_TIMEOUT` while it is pending: which arming it is of, and its delay. -/
structure Timer where
  number : Nat
  delayMs : Nat

/-- The state of the server that a backend process carries from one statement to the next: the
nesting level, `CurrentMemoryContext`, `CurrentResourceOwner` and the statement timer. -/
structure Process where
  depth : Nat
  memoryContext : Nat
  resourceOwner : Nat
  armings : Nat
  timer : Option Timer
  armed : ∀ t, timer = some t → t.number ≤ armings

/-- Between its transactions, no timer pending. -/
def Process.idle : Process where
  depth := 0
  memoryContext := 0
  resourceOwner := 0
  armings := 0
  timer := none
  armed := nofun

inductive CaughtError where
  | postgresError (message : String)
  | errorReport (message : String)
  | rustPanic (message : String)

def CaughtError.message : CaughtError → String
  | .postgresError message | .errorReport message | .rustPanic message => message

abbrev Step := Unwind CaughtError Process

/-- The timer is not armed, and if it was pending it still is or has expired. -/
def Process.Ticks (p q : Process) : Prop := q.armings = p.armings ∧ (q.timer = p.timer ∨ q.timer = none)

/-- A statement leaves the nesting level as it found it, also when an error unwinds out of it. -/
def Process.Level (p q : Process) : Prop := q.depth = p.depth ∧ p.Ticks q

/-- A statement issued through SPI. -/
abbrev Statement (α : Type) := { step : Step (Except String α) // Moves Process.Level step }

/-- What the worker uses of the server, with what is documented of it. A transaction command
neither arms nor disarms the statement timer; in which context and with which owner a
subtransaction begins and ends is not relied on. -/
structure Server where
  beginInternalSubTransaction : Process → Process
  begin_depth : ∀ p, (beginInternalSubTransaction p).depth = p.depth + 1
  begin_ticks : ∀ p : Process, p.Ticks (beginInternalSubTransaction p)
  releaseCurrentSubTransaction : Process → Process
  release_depth : ∀ p, (releaseCurrentSubTransaction p).depth = p.depth - 1
  release_timer : ∀ p, (releaseCurrentSubTransaction p).timer = p.timer
  rollbackAndReleaseCurrentSubTransaction : Process → Process
  rollback_depth : ∀ p, (rollbackAndReleaseCurrentSubTransaction p).depth = p.depth - 1
  rollback_timer : ∀ p, (rollbackAndReleaseCurrentSubTransaction p).timer = p.timer
  startTransactionCommand : Process → Process
  start_ticks : ∀ p : Process, p.Ticks (startTransactionCommand p)
  commitTransactionCommand : Process → Process
  commit_timer : ∀ p, (commitTransactionCommand p).timer = p.timer
  run : String → Statement Unit
  runWithArgs : String → List Json → Statement Unit
  getOneBool : String → Statement (Option Bool)
  getOneWithArgs : String → List Json → Statement (Option Json)
  /-- `ALLGRES_DROP_PRIVILEGES` is `0`. -/
  keepPrivileges : Bool

variable (server : Server)

def isOk {α : Type} (statement : Statement α) : Step Bool := return (← statement.val).isOk

end Sandbox

end Allgres
