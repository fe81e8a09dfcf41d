import Allgres.Dashboard.Pages

/-! The listings of what the agents have done: sessions, tasks, logs, memories, approvals
and the audit log. -/

namespace Allgres

open Relational Jsonb Sql

/-- `sessions.goal NOT LIKE 'selftest%'`, of the session that a row is joined with. -/
def goalShown (db : Db) (sessionId : Nat) : Bool :=
  (db.sessions.get? sessionId).any fun session => notSelftest session.goal

def taskShown (db : Db) (taskId : Nat) : Bool := (db.tasks.get? taskId).any fun task => goalShown db task.sessionId

def TaskStatus.live (status : TaskStatus) : Bool := !status.terminal

/-! ### The overview and the event stream -/

/-- The tasks of the sessions that are shown, the last updated first. -/
def recentTasks (db : Db) (count : Nat) : List (Nat × TaskRow) :=
  (newest (fun row => row.2.updatedAt) (db.tasks.select fun _ task =>
    goalShown db task.sessionId && (db.agents.get? task.agentId).isSome)).take count

def sessionGoal (db : Db) (sessionId : Nat) : Json := .optStr ((db.sessions.get? sessionId).map SessionRow.goal)

def overviewPage (env : WebEnv) (site : Site) : Json :=
  let db := site.db
  .build (env.serverFacts ++ [("ok", .bool true), ("server_time", env.timeJson env.now),
    ("agents", .ofNat (db.agents.count fun _ agent => notSelftest agent.name)),
    ("active_agents", .ofNat (db.agents.count fun _ agent => agent.isActive && notSelftest agent.name)),
    ("running_tasks", .ofNat (db.tasks.count fun _ task => task.status.live && goalShown db task.sessionId)),
    ("queued_outbound", .ofNat (db.outboundCalls.count fun _ call =>
      call.status == .queued && taskShown db call.taskId)),
    ("queued_sql", .ofNat (db.sqlCalls.count fun _ call => call.status == .queued && taskShown db call.taskId)),
    ("pending_approvals", .ofNat (db.approvals.count fun _ approval =>
      approval.status == .pending && taskShown db approval.taskId)),
    ("failed_tasks", .ofNat (db.tasks.count fun _ task => task.status == .failed && goalShown db task.sessionId)),
    ("sessions", .ofNat (db.sessions.count fun _ session => notSelftest session.goal)),
    ("secret_storage", .str env.secretStorageMode),
    ("recent_tasks", .arr ((recentTasks db 8).map fun (taskId, task) =>
      .build [("task_id", idJson taskId), ("agent", agentName db task.agentId), ("status", .str task.status.text),
        ("step_count", .ofNat task.stepCount), ("goal", sessionGoal db task.sessionId),
        ("error", .optStr task.error), ("created_at", env.timeJson task.createdAt),
        ("updated_at", env.timeJson task.updatedAt)]))])

/-- The log rows with their ids, the latest first. -/
def newestLogs (db : Db) (shown : LogRow → Bool) (count : Nat) : List (LogRow × Nat) :=
  (newest (fun row => row.1.createdAt) ((db.logs.zipIdx 1).filter fun row => shown row.1)).take count

def logJson (env : WebEnv) (log : LogRow) (logId : Nat) : List (String × Json) :=
  [("log_id", .ofNat logId), ("task_id", idJson log.taskId), ("step_number", .ofNat log.stepNumber),
    ("role", .str log.role.text), ("content", log.content), ("created_at", env.timeJson log.createdAt)]

def eventsPage (env : WebEnv) (site : Site) : Json :=
  let db := site.db
  .build [("ok", .bool true), ("server_time", env.timeJson env.now),
    ("tasks", .arr ((recentTasks db 12).map fun (taskId, task) =>
      .build [("task_id", idJson taskId), ("agent", agentName db task.agentId), ("status", .str task.status.text),
        ("step_count", .ofNat task.stepCount), ("updated_at", env.timeJson task.updatedAt),
        ("error", .str (left (task.error.getD "") 240))])),
    ("logs", .arr ((newestLogs db (fun log => taskShown db log.taskId) 15).map fun (log, logId) =>
      .build (logJson env log logId)))]

/-- `ILIKE '%selftest%'`. -/
def mentionsSelftest (pg : Pg) (text : String) : Bool :=
  (pg.lower text).toList.tails.any fun rest => "selftest".toList.isPrefixOf rest

/-- The rows of the audit log are in the order in which they were written. -/
def auditPage (env : WebEnv) (site : Site) (count : Nat) : Json :=
  let shown := site.db.auditLog.select fun _ row => !mentionsSelftest env.pg row.details.text
  listing "entries" ((shown.reverse.take count).map fun (auditId, row) =>
    .build [("audit_id", idJson auditId), ("action", .str row.action), ("details", row.details)])

/-! ### Sessions, tasks and logs -/

def sessionJson (env : WebEnv) (db : Db) (sessionId : Nat) (session : SessionRow) : Json :=
  .build [("session_id", idJson sessionId), ("agent_id", idJson session.agentId),
    ("agent", agentName db session.agentId), ("project_id", optIdJson session.projectId), ("goal", .str session.goal),
    ("status", .str session.status.text), ("final_answer", .optStr session.finalAnswer),
    ("started_at", env.timeJson session.startedAt), ("completed_at", .ofOption env.timeJson session.completedAt)]

def sessionsPage (env : WebEnv) (site : Site) (request : Json) (projectId : Option Nat) (count : Nat) : Json :=
  let db := site.db
  let shown := db.sessions.select fun _ session => notSelftest session.goal &&
    (!request.hasKey "project_id" || session.projectId == projectId) && (db.agents.get? session.agentId).isSome
  listing "sessions" (((newest (fun row => row.2.startedAt) shown).take count).map fun row =>
    sessionJson env db row.1 row.2)

def outcomeJson (env : WebEnv) (taskId : Nat) (task : TaskRow) : List (String × Json) :=
  [("task_id", idJson taskId), ("parent_task_id", optIdJson task.parentTaskId), ("status", .str task.status.text),
    ("step_count", .ofNat task.stepCount), ("output", task.output.getD .null), ("error", .optStr task.error),
    ("created_at", env.timeJson task.createdAt), ("updated_at", env.timeJson task.updatedAt)]

def sessionPage (env : WebEnv) (site : Site) (sessionId : Option Nat) : Json :=
  let db := site.db
  match sessionId.bind fun id => (db.sessions.get? id).map fun row => (id, row) with
  | none => .build [("ok", .bool false), ("error", .str "session_not_found")]
  | some (sessionId, session) =>
    let tasks := (db.tasks.select fun _ task => task.sessionId == sessionId).insertionSort fun a b =>
      a.2.createdAt ≤ b.2.createdAt
    let logs := ((db.logs.zipIdx 1).filter fun row => db.ownedBy sessionId row.1.taskId).insertionSort fun a b =>
      a.1.createdAt ≤ b.1.createdAt
    .build [("ok", .bool true), ("session", sessionJson env db sessionId session),
      ("tasks", .arr (tasks.map fun row => .build (outcomeJson env row.1 row.2))),
      ("logs", .arr (logs.map fun row => .build (logJson env row.1 row.2)))]

def tasksPage (env : WebEnv) (site : Site) (count : Nat) : Json :=
  let db := site.db
  listing "tasks" ((recentTasks db count).map fun (taskId, task) =>
    .build ([("session_id", idJson task.sessionId), ("agent_id", idJson task.agentId),
      ("agent", agentName db task.agentId), ("goal", sessionGoal db task.sessionId),
      ("final_answer", .optStr ((db.sessions.get? task.sessionId).bind SessionRow.finalAnswer))] ++
      outcomeJson env taskId task))

def logsPage (env : WebEnv) (site : Site) (count : Nat) : Json :=
  let db := site.db
  let agentOf (log : LogRow) : Option AgentRow := (db.tasks.get? log.taskId).bind fun task => db.agents.get? task.agentId
  listing "logs" ((newestLogs db (fun log => taskShown db log.taskId && (agentOf log).isSome) count).map fun (log, logId) =>
    .build (("agent", .optStr ((agentOf log).map AgentRow.name)) :: logJson env log logId))

/-! ### Memories, approvals and the search -/

/-- `NULLIF(p_request->>key, '') IS NULL OR column = (p_request->>key)::uuid`. -/
def matchesId (wanted : Option Nat) (value : Option Nat) : Bool := wanted.isNone || value == wanted

def memoriesPage (env : WebEnv) (site : Site) (scope : Option (List Nat)) (agentId : Option Nat) (count : Nat) : Json :=
  let db := site.db
  let shown := db.memories.select fun _ memory =>
    matchesId agentId (some memory.agentId) && inScope scope memory.agentId && (db.agents.get? memory.agentId).isSome
  let ranked := (newest (fun row => row.2.createdAt) shown).insertionSort fun a b => b.2.importance ≤ a.2.importance
  listing "memories" ((ranked.take count).map fun (memoryId, memory) =>
    .build [("memory_id", idJson memoryId), ("agent_id", idJson memory.agentId),
      ("agent", agentName db memory.agentId), ("subject_id", .optStr memory.subjectId),
      ("memory_type", .str memory.memoryType), ("content", .str memory.content),
      ("importance", env.numericJson memory.importance), ("source_session_id", optIdJson memory.sourceSessionId),
      ("created_at", env.timeJson memory.createdAt),
      ("last_accessed_at", .ofOption env.timeJson memory.lastAccessedAt),
      ("expires_at", .ofOption env.timeJson memory.expiresAt)])

def approvalsPage (env : WebEnv) (site : Site) (scope : Option (List Nat)) (count : Nat) : Json :=
  let db := site.db
  let taskOf (approval : ApprovalRow) : Option TaskRow := (db.tasks.get? approval.taskId).filter fun task =>
    (db.agents.get? task.agentId).isSome && (db.sessions.get? task.sessionId).isSome && inScope scope task.agentId
  let shown := (db.approvals.select fun _ approval => approval.status == .pending).filterMap fun row =>
    (taskOf row.2).map fun task => (row.1, row.2, task)
  let oldest := shown.insertionSort fun a b => a.2.1.createdAt ≤ b.2.1.createdAt
  listing "approvals" ((oldest.take count).map fun (approvalId, approval, task) =>
    .build [("approval_id", idJson approvalId), ("task_id", idJson approval.taskId),
      ("session_id", idJson task.sessionId), ("agent", agentName db task.agentId),
      ("goal", sessionGoal db task.sessionId), ("reason", .optStr (approval.payload.getText? "reason")),
      ("created_at", env.timeJson approval.createdAt), ("expires_at", .ofOption env.timeJson approval.expiresAt)])

/-- What a search narrows down, next to the words. -/
structure Search where
  query : String
  scope : Option (List Nat)
  agentId : Option Nat
  projectId : Option Nat

/-- A row that is found, and the agent, the session and the text by which it is. -/
structure Hit where
  source : String
  refId : Json
  agentId : Nat
  sessionId : Option Nat
  taskId : Option Nat
  kind : String
  text : String
  createdAt : Time

def memoryHits (db : Db) : List Hit :=
  db.memories.rows.map fun (memoryId, memory) =>
    ⟨"memory", idJson memoryId, memory.agentId, memory.sourceSessionId, memory.sourceTaskId, memory.memoryType,
      memory.content, memory.createdAt⟩

def failureHits (db : Db) : List Hit :=
  ((db.logs.zipIdx 1).filter fun row => row.1.role == .error).filterMap fun (log, logId) =>
    (db.tasks.get? log.taskId).map fun task =>
      ⟨"failure", .ofNat logId, task.agentId, some task.sessionId, some log.taskId, "error", log.content.text,
        log.createdAt⟩

def decisionHits (db : Db) : List Hit :=
  db.sessions.rows.filterMap fun (sessionId, session) => session.finalAnswer.map fun answer =>
    ⟨"decision", idJson sessionId, session.agentId, some sessionId, none, session.status.text, answer,
      session.completedAt.getD session.startedAt⟩

/-- A memory need not come from a session, the other rows do. -/
def Search.finds (search : Search) (env : WebEnv) (db : Db) (hit : Hit) : Bool :=
  let session := hit.sessionId.bind db.sessions.get?
  env.textMatches hit.text search.query && inScope search.scope hit.agentId &&
    matchesId search.agentId (some hit.agentId) && matchesId search.projectId (session.bind SessionRow.projectId) &&
    session.all (fun session => notSelftest session.goal) && (session.isSome || hit.source == "memory") &&
    (db.agents.get? hit.agentId).isSome

def historyPage (env : WebEnv) (site : Site) (search : Search) (count : Nat) : Json :=
  let db := site.db
  let found := (memoryHits db ++ failureHits db ++ decisionHits db).filter (search.finds env db)
  listing "results" (((newest Hit.createdAt found).take count).map fun hit =>
    .build [("source", .str hit.source), ("ref_id", hit.refId), ("agent_id", idJson hit.agentId),
      ("agent", agentName db hit.agentId), ("session_id", optIdJson hit.sessionId), ("task_id", optIdJson hit.taskId),
      ("kind", .str hit.kind), ("snippet", .str (left hit.text 400)), ("created_at", env.timeJson hit.createdAt)])

/-! ### The messenger -/

def replyJson (db : Db) (key : String) (sessionId : Option Nat) : List (String × Json) :=
  let session := sessionId.bind db.sessions.get?
  [("reply_status", .optStr (session.map fun row => row.status.text)), (key, .optStr (session.bind SessionRow.finalAnswer))]

/-- The answer of every agent that a message mentions. -/
def mentionedJson (site : Site) (message : ChannelMessageRow) : Json :=
  let db := site.db
  match (message.mentionedAgentIds.getD []).filter fun agent => (db.agents.get? agent).isSome with
  | [] => .null
  | agents => .arr (agents.map fun agent =>
      .build (("agent", agentName db agent) ::
        replyJson db "reply" (chatSession site.agentChats message.authorUserId agent)))

def messengerPage (env : WebEnv) (site : Site) (count : Nat) : Json :=
  let authorOf (message : ChannelMessageRow) : Option UserRow := site.users.get? message.authorUserId
  let written := site.messages.rows.filter fun row => (authorOf row.2).isSome
  let latest := ((newest (fun row => row.2.createdAt) written).take count).insertionSort fun a b =>
    a.2.createdAt ≤ b.2.createdAt
  listing "messages" (latest.map fun (messageId, message) =>
    .build ([("message_id", idJson messageId), ("content", .str message.content),
      ("created_at", env.timeJson message.createdAt),
      ("author", .optStr ((authorOf message).map UserRow.username)),
      ("mentioned_agent", optAgentName site.db message.mentionedAgentId),
      ("mentioned_agents", mentionedJson site message)] ++ replyJson site.db "reply" message.sessionId))

end Allgres
