import Allgres.Tables

namespace Allgres

open Relational Jsonb Sql

/-- The answer of the root task that was completed last. -/
def sessionAnswer (db : Db) (sessionId : Nat) : Option String :=
  let completed := db.tasks.select fun _ task =>
    task.sessionId == sessionId && task.status == .completed && task.parentTaskId.isNone
  ((completed.insertionSort fun a b => b.2.updatedAt ≤ a.2.updatedAt).head?).bind
    fun task => task.2.output.bind fun output => output.getText? "answer"

def maybeCompleteSession (env : Env) (db : Db) (sessionId : Nat) : Db :=
  let unfinished := db.tasks.count fun _ task => task.sessionId == sessionId && !task.status.terminal
  let failed := db.tasks.count fun _ task => task.sessionId == sessionId && task.status == .failed
  if 0 < unfinished then db
  else
    let answer := sessionAnswer db sessionId
    if 0 < failed ∧ answer.isNone then
      db.updateSession sessionId fun session => if session.status = .opened then
        { session with status := .failed, completedAt := some env.now } else session
    else
      db.updateSession sessionId fun session => if session.status = .opened then
        { session with
          status := .completed
          finalAnswer := answer.or session.finalAnswer
          completedAt := some env.now } else session

structure Created where
  sessionId : Nat
  taskId : Nat
  db : Db

def Created.toJson (created : Created) : Json :=
  .build [("ok", .bool true), ("session_id", idJson created.sessionId), ("task_id", idJson created.taskId)]

/-- A queued root task with the user's message as its first log row. -/
def openTurn (env : Env) (db : Db) (sessionId agentId : Nat) (message : String) : Created :=
  let taskId := db.tasks.next
  let db := db.insertTask env sessionId agentId none (.build [("goal", .str message)]) 0 (db.generationOf agentId)
  ⟨sessionId, taskId, db.appendLog env taskId 0 .user (.str message)⟩

def fnCreateSession (env : Env) (db : Db) (agentId : Nat) (goal : Option String) (projectId scheduleId : Option Nat) :
    Except String Created :=
  if btrim (goal.getD "") = "" then .error "goal required"
  else if !db.isActiveAgent agentId then .error "agent inactive or missing"
  else if projectId.any fun project => !(db.projects.get? project).any ProjectRow.isActive then
    .error "project inactive or missing"
  else
    let goal := btrim (goal.getD "")
    let sessionId := db.sessions.next
    let db := { db with
      sessions := db.sessions.insert ⟨agentId, goal, .opened, none, env.now, none, projectId, none, scheduleId⟩ }
    .ok (openTurn env db sessionId agentId goal)

def fnContinueSession (env : Env) (db : Db) (sessionId : Nat) (message : Option String) : Except String Created :=
  if btrim (message.getD "") = "" then .error "message required"
  else match db.sessions.get? sessionId with
    | none => .error "session not found"
    | some session =>
      if !db.isActiveAgent session.agentId then .error "agent inactive or missing"
      else if db.tasks.exists? fun _ task =>
          task.sessionId == sessionId && task.parentTaskId.isNone && !task.status.terminal then
        .error ("this session has a turn still in progress -- wait for it to finish before sending " ++
          "another message")
      else
        let db := db.updateSession sessionId fun session => { session with status := .opened, completedAt := none }
        .ok (openTurn env db sessionId session.agentId (btrim (message.getD "")))

def decideRow (env : Env) (db : Db) (approvalId : Nat) (accepted : Bool) (reply : Option String) : Db :=
  { db with
    approvals := db.approvals.modify approvalId fun approval =>
      { approval with
        status := if accepted then .approved else .rejected
        replyText := reply
        decidedAt := some env.now } }

/-- What a decision does to the task that waits for it. -/
def answerTask (env : Env) (db : Db) (t : Nat) (task : TaskRow) (accepted : Bool) (reply : Option String) : Db :=
  let said := (nonEmpty (reply.map btrim)).getD (if accepted then "Approved." else "Rejected.")
  let db := db.appendLog env t (task.stepCount + 1) .operator (.str said)
  if accepted then
    db.updateTask env t fun task => { task with status := .queued, stepCount := task.stepCount + 1 }
  else
    let db := db.updateTask env t fun task =>
      { task with status := .failed, error := some "human_rejected", stepCount := task.stepCount + 1 }
    maybeCompleteSession env db task.sessionId

def decided (db : Db) (approvalId : Nat) (accept : Option Bool) (updated : Bool) : Json × Db :=
  (.build [("ok", .bool true), ("task_updated", .bool updated)],
    db.audit "approvals.decide" (.build [("approval_id", idJson approvalId), ("accept", .ofOption .bool accept),
      ("task_updated", .bool updated)]))

def fnDecideApproval (env : Env) (db : Db) (approvalId : Nat) (accept : Option Bool) (reply : Option String) :
    Except String (Json × Db) :=
  match db.approvals.get? approvalId with
  | none => .error "approval not pending"
  | some approval =>
    if approval.status ≠ .pending then .error "approval not pending"
    else
      -- A missing `p_accept` takes the `ELSE` of every `CASE` and `IF`.
      let accepted := accept.getD false
      let db := decideRow env db approvalId accepted reply
      match (db.tasks.get? approval.taskId).filter fun task => task.status == .waitingHuman with
      | none => .ok (decided db approvalId accept false)
      | some task => .ok (decided (answerTask env db approval.taskId task accepted reply) approvalId accept true)

/-- The row is one of the session's tasks, as the database stands. -/
def Db.ownedBy (db : Db) (sessionId taskId : Nat) : Bool :=
  (db.tasks.get? taskId).any fun task => task.sessionId == sessionId

/-- The outstanding `outbound_calls` of the given tasks are lost. -/
def Db.loseOutbound (db : Db) (env : Env) (cond : Nat → Bool) (error : String) : Db :=
  { db with
    outboundCalls := db.outboundCalls.update
      (fun _ call => cond call.taskId && call.status.outstanding)
      (fun _ call => { call with
        status := .lost, updatedAt := env.now, body := { call.body with error := some error } }) }

def Db.loseSql (db : Db) (env : Env) (cond : Nat → Bool) : Db :=
  { db with
    sqlCalls := db.sqlCalls.update
      (fun _ call => cond call.taskId && call.status.outstanding)
      (fun _ call => { call with status := .lost, updatedAt := env.now }) }

def Db.rejectPending (db : Db) (env : Env) (cond : Nat → Bool) : Db :=
  { db with
    approvals := db.approvals.update
      (fun _ approval => cond approval.taskId && approval.status == .pending)
      (fun _ approval => { approval with
        status := .rejected, replyText := some "session_cancelled", decidedAt := some env.now }) }

/-- One pass of the loop of `fn_cancel_session`. -/
def cancelTask (env : Env) (reason : String) (db : Db) (selected : Nat × TaskRow) : Db :=
  (db.appendLog env selected.1 (selected.2.stepCount + 1) .operator (.str reason)).updateTask env selected.1
    fun task => { task with
      status := .cancelled, error := some "operator_cancelled", stepCount := task.stepCount + 1 }

def fnCancelSession (env : Env) (db : Db) (sessionId : Nat) (reason : Option String) : Except String (Json × Db) :=
  if (db.sessions.get? sessionId).isNone then .error "session not found"
  else
    let reason := (nonEmpty (reason.map btrim)).getD "Cancelled by operator."
    let live := db.tasks.select fun _ task => task.sessionId == sessionId && !task.status.terminal
    let db := live.foldl (cancelTask env reason) db
    let owned := db.ownedBy sessionId
    let db := ((db.loseOutbound env owned "session_cancelled").loseSql env owned).rejectPending env owned
    let db := db.updateSession sessionId fun session => if session.status = .opened then
      { session with status := .cancelled, completedAt := some env.now } else session
    let db := db.audit "sessions.cancel" (.build [("session_id", idJson sessionId), ("reason", .str reason),
      ("tasks_cancelled", .ofNat live.length)])
    .ok (.build [("ok", .bool true), ("tasks_cancelled", .ofNat live.length)], db)

/-! ### Schedules -/

/-- `max_runs`, `ends_at` or `max_cost_usd` has been reached. -/
def ScheduleRow.stopped (schedule : ScheduleRow) (now : Time) : Bool :=
  schedule.maxRuns.any (fun runs => runs ≤ schedule.runCount) ||
  schedule.endsAt.any (fun time => time ≤ now) ||
  schedule.maxCostUsd.any (fun cost => cost ≤ schedule.spentCostUsd)

def ScheduleRow.due (schedule : ScheduleRow) (now : Time) : Bool :=
  schedule.isActive && decide (schedule.nextRunAt ≤ now)

/-- A schedule after it has fired and created the given session. -/
def ScheduleRow.fired (schedule : ScheduleRow) (now : Time) (sessionId : Nat) : ScheduleRow :=
  { schedule with
    runCount := schedule.runCount + 1
    lastRunAt := some now
    lastSessionId := some sessionId
    nextRunAt := now + seconds schedule.intervalSeconds
    isActive := !{ schedule with runCount := schedule.runCount + 1 }.stopped now }

/-- One pass of the loop of `fn_run_schedules`. -/
def runSchedule (env : Env) (state : Nat × Db) (selected : Nat × ScheduleRow) : Nat × Db :=
  let (count, db) := state
  let (scheduleId, schedule) := selected
  if schedule.stopped env.now then
    (count, { db with schedules := db.schedules.modify scheduleId fun row => { row with isActive := false } })
  else match fnCreateSession env db schedule.agentId (some schedule.goal) none (some scheduleId) with
    | .error _ =>
      (count, { db with
        schedules := db.schedules.modify scheduleId fun row =>
          { row with nextRunAt := env.now + seconds schedule.intervalSeconds } })
    | .ok created =>
      (count + 1, { created.db with
        schedules := created.db.schedules.modify scheduleId fun row => row.fired env.now created.sessionId })

def fnRunSchedules (env : Env) (db : Db) : Nat × Db :=
  (db.schedules.select fun _ schedule => schedule.due env.now).foldl (runSchedule env) (0, db)

end Allgres
