import Allgres.Permission

namespace Allgres

open Relational Jsonb Sql

/-- What one `UPDATE` of a task row adds to the history of status writes. -/
def statusWrites (t : Nat) (old new : TaskStatus) : List StatusWrite :=
  if old = new then [] else [⟨t, old, new⟩]

namespace Db

/-- `UPDATE tasks SET … WHERE task_id = t`. The trigger `tasks_touch` sets `updated_at`. -/
def updateTask (db : Db) (env : Env) (t : Nat) (set : TaskRow → TaskRow) : Db :=
  match db.tasks.get? t with
  | none => db
  | some row =>
    { db with
      tasks := db.tasks.modify t fun row => { set row with updatedAt := env.now }
      journal := db.journal ++ statusWrites t row.status (set row).status }

def bumpStep (db : Db) (env : Env) (t : Nat) : Db :=
  db.updateTask env t fun row => { row with stepCount := row.stepCount + 1 }

def insertTask (db : Db) (env : Env) (sessionId agentId : Nat) (parentTaskId : Option Nat) (input : Json)
    (delegationDepth : Nat) (policyGeneration : Option Nat) : Db :=
  { db with tasks := db.tasks.insert ({
        sessionId := sessionId, agentId := agentId, parentTaskId := parentTaskId, status := .queued,
        stepCount := 0, input := input, output := none, error := none, createdAt := env.now, updatedAt := env.now,
        startedAt := none, delegationDepth := delegationDepth, policyGeneration := policyGeneration,
        functionOverrideState := none } : TaskRow) }

def updateSession (db : Db) (s : Nat) (set : SessionRow → SessionRow) : Db :=
  { db with sessions := db.sessions.modify s set }

def appendLog (db : Db) (env : Env) (taskId stepNumber : Nat) (role : Role) (content : Json) : Db :=
  { db with logs := db.logs ++ [⟨taskId, stepNumber, role, content, env.now⟩] }

def audit (db : Db) (action : String) (details : Json) : Db :=
  { db with auditLog := db.auditLog.insert ⟨action, details⟩ }

/-- The calls of the four task queues, inserted as `queued`. -/
def newCall {β : Type} (env : Env) (taskId : Nat) (body : β) : CallRow β :=
  ⟨taskId, .queued, env.now, env.now, body⟩

def insertOutbound (db : Db) (env : Env) (taskId : Nat) (body : OutboundBody) : Db :=
  { db with outboundCalls := db.outboundCalls.insert (newCall env taskId body) }

def insertSql (db : Db) (env : Env) (taskId : Nat) (body : SqlBody) : Db :=
  { db with sqlCalls := db.sqlCalls.insert (newCall env taskId body) }

def insertFunctionCall (db : Db) (env : Env) (taskId : Nat) (body : BodyCall) : Db :=
  { db with functionCalls := db.functionCalls.insert (newCall env taskId body) }

def insertProcedureCall (db : Db) (env : Env) (taskId : Nat) (body : BodyCall) : Db :=
  { db with procedureCalls := db.procedureCalls.insert (newCall env taskId body) }

def insertApproval (db : Db) (env : Env) (taskId : Nat) (payload : Json) (expiresAt : Time) : Db :=
  { db with approvals := db.approvals.insert ⟨taskId, .pending, payload, none, env.now, none, some expiresAt⟩ }

def outstandingOf {β : Type} (calls : Table (CallRow β)) (t : Nat) : Bool :=
  calls.exists? fun _ call => call.taskId == t && call.status.outstanding

/-- Some call of the task is queued or in flight, in any of the four queues. -/
def hasOutstanding (db : Db) (t : Nat) : Bool :=
  outstandingOf db.outboundCalls t || outstandingOf db.sqlCalls t ||
    outstandingOf db.functionCalls t || outstandingOf db.procedureCalls t

def agentNamed (db : Db) (name : String) : Option (Nat × AgentRow) :=
  db.agents.find? fun _ agent => agent.name == name

def isActiveAgent (db : Db) (agentId : Nat) : Bool :=
  (db.agents.get? agentId).any AgentRow.isActive

def generationOf (db : Db) (agentId : Nat) : Option Nat :=
  (db.policyOf agentId).map PolicyRow.generation

/-- The provider that serves embeddings: the oldest enabled one. -/
def embeddingProvider (db : Db) : Option (Nat × ProviderRow) :=
  (((db.providers.select fun _ provider => provider.purpose == .embedding && provider.isEnabled).insertionSort
    fun a b => a.2.createdAt ≤ b.2.createdAt)).head?

end Db

def idJson (id : Nat) : Json := .str (uuidText id)

def optIdJson : Option Nat → Json := .ofOption idJson

end Allgres
