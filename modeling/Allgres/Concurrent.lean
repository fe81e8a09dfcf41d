import Allgres.Session
import Allgres.Writes.Core
import Allgres.Lib.Versions

/-! `fn_continue_session` statement by statement, next to other calls of it and
to the transactions of the worker. -/

namespace Allgres

open Relational Jsonb Sql

/-- Each call of `fn_continue_session` has a backend of its own; the worker runs
one transaction at a time. -/
inductive Tx
  | backend (x : Nat)
  | worker
deriving DecidableEq

/-- The statement of `fn_continue_session` that comes next, with the variables it
needs: the row `s`, and later `v_tid`. -/
inductive Point
  | findSession
  | checkAgent (session : SessionRow)
  | checkTurn (session : SessionRow)
  | reopen (session : SessionRow)
  | insertTask (session : SessionRow)
  | insertLog (taskId : Nat)
  | commit (taskId : Nat)

/-- The call has found no turn in progress. -/
def Point.checked : Point → Bool
  | reopen _ | insertTask _ | insertLog _ | commit _ => true
  | _ => false

structure Continuation where
  env : Env
  sessionId : Nat
  message : String
  point : Point

/-- The tables that the calls work on, and the calls that have not ended. -/
structure Shared where
  agents : Table AgentRow
  policies : Table PolicyRow
  sessions : Table (Cell Tx SessionRow)
  tasks : Table (Cell Tx TaskRow)
  logs : List (Cell Tx LogRow)
  turn : Nat → Option Continuation

def TaskRow.turnOf (task : TaskRow) (s : Nat) : Bool :=
  task.sessionId == s && task.parentTaskId.isNone && !task.status.terminal

namespace Shared

/-- The tables while no transaction is open. -/
def ofCore (core : Core) : Shared where
  agents := core.agents
  policies := core.policies
  sessions := core.sessions.map .stored
  tasks := core.tasks.map .stored
  logs := core.logs.map .stored
  turn _ := none

def commit (σ : Shared) (tx : Tx) : Shared :=
  { σ with
    sessions := σ.sessions.map (Cell.commit tx)
    tasks := σ.tasks.map (Cell.commit tx)
    logs := σ.logs.map (Cell.commit tx) }

def rollback (σ : Shared) (tx : Tx) : Shared :=
  { σ with
    sessions := σ.sessions.map (Cell.rollback tx)
    tasks := σ.tasks.map (Cell.rollback tx)
    logs := σ.logs.map (Cell.rollback tx) }

def setTurn (σ : Shared) (x : Nat) (turn : Option Continuation) : Shared :=
  { σ with turn := Function.update σ.turn x turn }

def goto (σ : Shared) (x : Nat) (turn : Continuation) (point : Point) : Shared :=
  σ.setTurn x (some { turn with point := point })

/-- An exception ends the call and takes back what it has written. -/
def raise (σ : Shared) (x : Nat) : Shared :=
  (σ.rollback (.backend x)).setTurn x none

/-- The rows that a statement of the transaction reads. -/
def session? (σ : Shared) (tx : Tx) (s : Nat) : Option SessionRow :=
  (σ.sessions.get? s).bind fun cell => cell.seen tx

def task? (σ : Shared) (tx : Tx) (t : Nat) : Option TaskRow :=
  (σ.tasks.get? t).bind fun cell => cell.seen tx

def liveTurn (σ : Shared) (tx : Tx) (s : Nat) : Bool :=
  σ.tasks.exists? fun _ cell => (cell.seen tx).any fun task => task.turnOf s

def writeSession (σ : Shared) (tx : Tx) (s : Nat) (set : SessionRow → SessionRow) : Shared :=
  { σ with sessions := σ.sessions.modify s (Cell.write tx set) }

def insertTask (σ : Shared) (tx : Tx) (row : TaskRow) : Shared :=
  { σ with tasks := σ.tasks.insert (.inserted tx row) }

def insertLog (σ : Shared) (tx : Tx) (row : LogRow) : Shared :=
  { σ with logs := σ.logs ++ [.inserted tx row] }

def turnTask (σ : Shared) (turn : Continuation) (agentId : Nat) : TaskRow where
  sessionId := turn.sessionId
  agentId := agentId
  parentTaskId := none
  status := .queued
  stepCount := 0
  input := .build [("goal", .str turn.message)]
  output := none
  error := none
  createdAt := turn.env.now
  updatedAt := turn.env.now
  startedAt := none
  delegationDepth := 0
  policyGeneration := (policyIn σ.policies agentId).map PolicyRow.generation
  functionOverrideState := none

/-- The next statement of a call. The `UPDATE` of the session's row waits while
another transaction holds the row's lock. -/
def continueTurn (σ : Shared) (x : Nat) (turn : Continuation) : Option Shared :=
  match turn.point with
  | .findSession =>
    match σ.session? (.backend x) turn.sessionId with
    | none => some (σ.raise x)
    | some session => some (σ.goto x turn (.checkAgent session))
  | .checkAgent session =>
    if (σ.agents.get? session.agentId).any AgentRow.isActive then some (σ.goto x turn (.checkTurn session))
    else some (σ.raise x)
  | .checkTurn session =>
    if σ.liveTurn (.backend x) turn.sessionId then some (σ.raise x)
    else some (σ.goto x turn (.reopen session))
  | .reopen session =>
    if (σ.sessions.get? turn.sessionId).all fun cell => cell.free (.backend x) then
      some ((σ.writeSession (.backend x) turn.sessionId fun session =>
        { session with status := .opened, completedAt := none }).goto x turn (.insertTask session))
    else none
  | .insertTask session =>
    some ((σ.insertTask (.backend x) (σ.turnTask turn session.agentId)).goto x turn (.insertLog σ.tasks.next))
  | .insertLog taskId =>
    some ((σ.insertLog (.backend x) ⟨taskId, 0, .user, .str turn.message, turn.env.now⟩).goto x turn
      (.commit taskId))
  | .commit _ => some ((σ.commit (.backend x)).setTurn x none)

/-- The statements of the worker's transactions that write one of these tables. -/
inductive Statement
  | updateTask (t : Nat) (row : TaskRow)
  | spawn (child : TaskRow)
  | openSession (row : SessionRow)
  | openTask (row : TaskRow)
  | updateSession (s : Nat) (set : SessionRow → SessionRow)
  | insertLog (row : LogRow)
  | commit
  | rollback

/-- The worker updates tasks that it has found, under their lock, not to be over,
delegates to children, and opens sessions with a task each. -/
inductive Works (σ : Shared) : Statement → Shared → Prop
  | updateTask {t : Nat} {cell : Cell Tx TaskRow} {old : TaskRow} (row : TaskRow) : σ.tasks.get? t = some cell →
      cell.free .worker = true → cell.seen .worker = some old → old.status.terminal = false → Kin old row →
      Works σ (.updateTask t row) { σ with tasks := σ.tasks.modify t (Cell.write .worker fun _ => row) }
  | spawn (child : TaskRow) : child.parentTaskId.isSome → (σ.session? .worker child.sessionId).isSome →
      Works σ (.spawn child) (σ.insertTask .worker child)
  | openSession (row : SessionRow) :
      Works σ (.openSession row) { σ with sessions := σ.sessions.insert (.inserted .worker row) }
  | openTask {cell : Cell Tx SessionRow} (row : TaskRow) : σ.sessions.get? row.sessionId = some cell →
      cell.committed = none → (cell.seen .worker).isSome →
      (∀ t task, σ.task? .worker t = some task → task.sessionId ≠ row.sessionId) →
      Works σ (.openTask row) (σ.insertTask .worker row)
  | updateSession {s : Nat} {cell : Cell Tx SessionRow} (set : SessionRow → SessionRow) :
      σ.sessions.get? s = some cell → cell.free .worker = true →
      Works σ (.updateSession s set) (σ.writeSession .worker s set)
  | insertLog (row : LogRow) : Works σ (.insertLog row) (σ.insertLog .worker row)
  | commit : Works σ .commit (σ.commit .worker)
  | rollback : Works σ .rollback (σ.rollback .worker)

inductive Label
  | call (x : Nat) (env : Env) (sessionId : Nat) (message : Option String)
  | statement (x : Nat)
  | abort (x : Nat)
  | work (statement : Statement)
  | configure

/-- `configure` stands for whatever else changes the agents or their policies. -/
inductive Step : Label → Shared → Shared → Prop
  | call {σ : Shared} {x : Nat} (env : Env) (sessionId : Nat) {message : Option String} : σ.turn x = none →
      btrim (message.getD "") ≠ "" →
      Step (.call x env sessionId message) σ
        (σ.setTurn x (some ⟨env, sessionId, btrim (message.getD ""), .findSession⟩))
  | statement {σ σ' : Shared} {x : Nat} {turn : Continuation} : σ.turn x = some turn →
      σ.continueTurn x turn = some σ' → Step (.statement x) σ σ'
  | abort {σ : Shared} {x : Nat} : Step (.abort x) σ (σ.raise x)
  | work {σ σ' : Shared} {statement : Statement} : Works σ statement σ' → Step (.work statement) σ σ'
  | configure {σ : Shared} (agents : Table AgentRow) (policies : Table PolicyRow) :
      Step .configure σ { σ with agents := agents, policies := policies }

end Shared

end Allgres
