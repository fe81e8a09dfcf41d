import Allgres.Complete

namespace Allgres

open Relational Jsonb Sql

/-- `GREATEST(floor, COALESCE(p_timeout_seconds, 90))`. -/
def patience (least : Int) (timeout : Option Int) : Time :=
  seconds (max least (timeout.getD 90))

/-- The call is in flight and nobody has touched it for that long. -/
def CallRow.overdue {β : Type} (env : Env) (wait : Time) (call : CallRow β) : Bool :=
  call.status == .inFlight && decide (call.updatedAt < env.now - wait)

def overdueCalls {β : Type} (env : Env) (calls : Table (CallRow β)) (wait : Time) : List (Nat × CallRow β) :=
  calls.select fun _ call => call.overdue env wait

/-! ### Reclaiming calls -/

def loseOutboundCall (env : Env) (call : CallRow OutboundBody) : CallRow OutboundBody :=
  { retire env .lost call with
    body := { call.body with
      error := some "timeout"
      outcome := if call.body.procedureFunctionId.isSome then some .failure else call.body.outcome } }

/-- The call may have changed something at its destination. -/
def OutboundBody.ambiguous (body : OutboundBody) : Bool :=
  (body.kind == .function || body.kind == .mcp) && body.method != .get

def pauseReason (callId : Nat) (body : OutboundBody) : Json :=
  .build [("reason", .str ("An outbound " ++ body.method.text ++ " call to " ++ body.url ++
      " timed out without confirmation -- it may already have executed on the destination. Confirm whether it is " ++
      "safe to retry before the agent proceeds.")),
    ("ambiguous_outbound_call_id", idJson callId)]

def pauseForHuman (env : Env) (db : Db) (t : Nat) (payload : Json) : Db :=
  (db.updateTask env t fun task => { task with status := .waitingHuman }).insertApproval env t payload
    (env.now + seconds 86400)

def reclaimOutbound (env : Env) (db : Db) (selected : Nat × CallRow OutboundBody) : Db :=
  let (callId, call) := selected
  let db := { db with outboundCalls := db.outboundCalls.modify callId (loseOutboundCall env) }
  if db.isRunning call.taskId && call.body.ambiguous then
    pauseForHuman env db call.taskId (pauseReason callId call.body)
  else (submitFor env db (.outbound, callId) call.taskId (errorPayload "outbound timeout")).2

def reclaimSql (env : Env) (db : Db) (selected : Nat × CallRow SqlBody) : Db :=
  let (callId, call) := selected
  let db := { db with sqlCalls := db.sqlCalls.modify callId (retire env .lost) }
  (submitFor env db (.sql, callId) call.taskId (errorPayload "sql execution timeout")).2

def reclaimFunctionCall (env : Env) (db : Db) (selected : Nat × CallRow BodyCall) : Db :=
  let (callId, call) := selected
  let db := { db with functionCalls := db.functionCalls.modify callId (retire env .lost) }
  (submitFor env db (.function, callId) call.taskId (errorPayload "function execution timeout")).2

def reclaimProcedureCall (env : Env) (db : Db) (selected : Nat × CallRow BodyCall) : Db :=
  let (callId, call) := selected
  let db := { db with procedureCalls := db.procedureCalls.modify callId (retire env .lost) }
  (submitFor env db (.procedure, callId) call.taskId (errorPayload "procedure execution timeout")).2

/-! ### Builds and the queues without a task -/

def reclaimBuilds (env : Env) (db : Db) (wait : Time) : Db :=
  { db with
    functions := db.functions.update
      (fun _ function => function.buildStatus == .building && decide (function.updatedAt < env.now - wait))
      (fun _ function => { function with buildStatus := .pending, updatedAt := env.now }) }

def reclaimProcedureBuilds (env : Env) (db : Db) (wait : Time) : Db :=
  { db with
    procedures := db.procedures.update
      (fun _ procedure => procedure.buildStatus == .building && decide (procedure.updatedAt < env.now - wait))
      (fun _ procedure => { procedure with buildStatus := .pending, updatedAt := env.now }) }

def ServiceCall.overdue (env : Env) (wait : Time) (call : ServiceCall) : Bool :=
  call.status == .inFlight && decide (call.updatedAt < env.now - wait)

def loseService (env : Env) (calls : Table ServiceCall) (wait : Time) : Table ServiceCall :=
  calls.update (fun _ call => call.overdue env wait)
    (fun _ call => { call with status := .lost, error := some "timeout", updatedAt := env.now })

def loseOauth (env : Env) (calls : Table OauthCallRow) (wait : Time) : Table OauthCallRow :=
  calls.update (fun _ call => call.overdue env wait)
    (fun _ call => { call with status := .lost, error := some "timeout", updatedAt := env.now })

def reclaimServices (env : Env) (db : Db) (wait : Time) : Db :=
  { db with
    oauthCalls := loseOauth env db.oauthCalls wait
    embeddingCalls := loseService env db.embeddingCalls wait
    providerProbes := loseService env db.providerProbes wait }

/-! ### Tasks that waited too long -/

def ApprovalRow.expired (env : Env) (approval : ApprovalRow) : Bool :=
  approval.status == .pending && approval.expiresAt.any fun time => decide (time < env.now)

def expiredApprovals (env : Env) (db : Db) : List (Nat × ApprovalRow) :=
  db.approvals.select fun _ approval => approval.expired env

def rejectExpired (env : Env) (db : Db) (approvalId : Nat) : Db :=
  { db with
    approvals := db.approvals.modify approvalId fun row =>
      { row with status := .rejected, replyText := some "approval_timeout", decidedAt := some env.now } }

def failUnanswered (env : Env) (db : Db) (t : Nat) (task : TaskRow) : Db :=
  let db := db.appendLog env t (task.stepCount + 1) .operator (.str "No response before the approval expired.")
  let db := db.updateTask env t fun row =>
    { row with status := .failed, error := some "approval_timeout", stepCount := row.stepCount + 1 }
  maybeCompleteSession env db task.sessionId

def expireApproval (env : Env) (db : Db) (selected : Nat × ApprovalRow) : Db :=
  let (approvalId, approval) := selected
  let db := rejectExpired env db approvalId
  match (db.tasks.get? approval.taskId).filter fun task => task.status == .waitingHuman with
  | none => db
  | some task => failUnanswered env db approval.taskId task

/-- The task has outlived its agent's `max_turn_seconds`. -/
def turnExpired (env : Env) (db : Db) (task : TaskRow) : Bool :=
  (task.status == .running || task.status == .waitingHuman || task.status == .waitingChildren) &&
  match (db.policyOf task.agentId).bind PolicyRow.maxTurnSeconds, task.startedAt with
  | some limit, some started => decide (started < env.now - seconds limit)
  | _, _ => false

def overdueTasks (env : Env) (db : Db) : List (Nat × TaskRow) :=
  db.tasks.select fun _ task => turnExpired env db task

def timeOutTask (env : Env) (db : Db) (selected : Nat × TaskRow) : Db :=
  let (t, task) := selected
  let db := db.appendLog env t (task.stepCount + 1) .error (.build [("reason", .str "turn_timeout")])
  let db := db.updateTask env t fun row =>
    { row with status := .failed, error := some "turn_timeout", stepCount := row.stepCount + 1 }
  let db := (db.loseOutbound env (· == t) "turn_timeout").loseSql env (· == t)
  maybeCompleteSession env db task.sessionId

def awaitedTasks (db : Db) : List (Nat × TaskRow) :=
  db.tasks.select fun t task => task.status == .waitingChildren &&
    !db.tasks.exists? fun _ child => child.parentTaskId == some t && !child.status.terminal

def delegateResults (db : Db) (t : Nat) : Json :=
  let children := (db.tasks.select fun _ child => child.parentTaskId == some t).insertionSort
    fun a b => a.2.createdAt ≤ b.2.createdAt
  .arr (children.filterMap fun child => (db.agents.get? child.2.agentId).map fun agent =>
    .build [("agent", .str agent.name), ("status", .str child.2.status.text),
      ("output", child.2.output.getD .null), ("error", .optStr child.2.error)])

def wakeTask (env : Env) (db : Db) (selected : Nat × TaskRow) : Db :=
  let (t, task) := selected
  (db.appendLog env t (task.stepCount + 1) .function (.build [("delegate_results", delegateResults db t)])).updateTask
    env t fun row => { row with status := .queued, stepCount := row.stepCount + 1 }

def dropExpiredMemories (env : Env) (db : Db) : Db :=
  { db with
    memories := db.memories.delete fun _ memory => memory.expiresAt.any fun time => decide (time < env.now) }

/-! ### `fn_watchdog` -/

/-- The first half of the sweep: calls whose worker never came back. -/
def reclaimCalls (env : Env) (db : Db) (timeout : Option Int) : Db :=
  let db := (overdueCalls env db.outboundCalls (patience 15 timeout)).foldl (reclaimOutbound env) db
  let db := (overdueCalls env db.sqlCalls (patience 15 timeout)).foldl (reclaimSql env) db
  let db := (overdueCalls env db.functionCalls (patience 15 timeout)).foldl (reclaimFunctionCall env) db
  let db := reclaimBuilds env db (patience 15 timeout)
  let db := (overdueCalls env db.procedureCalls (patience 150 timeout)).foldl (reclaimProcedureCall env) db
  let db := reclaimProcedureBuilds env db (patience 15 timeout)
  reclaimServices env db (patience 15 timeout)

/-- The second half: tasks that wait for an answer, for their children, or just too long. -/
def sweepTasks (env : Env) (db : Db) : Db :=
  let db := (expiredApprovals env db).foldl (expireApproval env) db
  let db := (overdueTasks env db).foldl (timeOutTask env) db
  let db := (awaitedTasks db).foldl (wakeTask env) db
  dropExpiredMemories env db

def fnWatchdog (env : Env) (db : Db) (timeout : Option Int) : Db :=
  sweepTasks env (reclaimCalls env db timeout)

end Allgres
