import Allgres.Submit.Result

namespace Allgres

open Relational Jsonb Sql

/-! ### Compaction -/

/-- The logs of the tasks that the last compaction left in view. -/
def visibleLogs (db : Db) (taskIds : List Nat) (cutoff : Option Time) : List LogRow :=
  db.logs.filter fun log => taskIds.contains log.taskId && cutoff.all fun time => decide (time ≤ log.createdAt)

def newestFirst (logs : List LogRow) : List LogRow :=
  logs.insertionSort fun a b => b.createdAt ≤ a.createdAt

/-- The moment before which logs are compacted: all but the newest `keep` of them. -/
def compactionCutoff (env : Env) (logs : List LogRow) (keep : Int) : Option Time :=
  if keep ≤ 0 then some env.clock
  else ((newestFirst logs)[(keep - 1).toNat]?).map LogRow.createdAt

def latestSummary (db : Db) (compactor : Nat) (sessionId : Nat) : Option String :=
  ((db.memories.select fun _ memory =>
    memory.agentId == compactor && memory.subjectId == some (uuidText sessionId)).insertionSort
      fun a b => b.2.createdAt ≤ a.2.createdAt).head?.map fun memory => memory.2.content

def turnsJson (logs : List LogRow) : Json :=
  .arr ((logs.insertionSort fun a b => a.createdAt ≤ b.createdAt).map fun log =>
    .build [("role", .str log.role.text), ("content", log.content)])

def startCompaction (env : Env) (db : Db) (sessionId compactor : Nat) (logs : List LogRow)
    (current : Option Time) (cutoff : Time) : Except String Db :=
  let summary := current.bind fun _ => latestSummary db compactor sessionId
  match fnCreateSession env db compactor (some ("session_compact:" ++ uuidText sessionId)) none none with
  | .error message => .error message
  | .ok created =>
    let db := created.db.updateTask env created.taskId fun task =>
      { task with
        input := .build [("target_session_id", idJson sessionId),
          ("compact_cutoff", .str (env.pg.timestamptzOut cutoff))] }
    .ok (db.appendLog env created.taskId 1 .user (.build [("target_session_id", idJson sessionId),
      ("previous_summary", .optStr summary),
      ("turns", turnsJson (logs.filter fun log => decide (log.createdAt < cutoff)))]))

def maybeTriggerCompaction (env : Env) (db : Db) (sessionId : Nat) (taskIds : List Nat) : Except String Db :=
  match (db.agentNamed "session_compactor").filter fun agent => agent.2.isActive with
  | none => .ok db
  | some (compactor, agent) =>
    match castInt (agent.agentConfig.getText? "compaction_threshold") with
    | .error message => .error message
    | .ok threshold =>
      match castInt (agent.agentConfig.getText? "compaction_keep_recent") with
      | .error message => .error message
      | .ok keep =>
        let current := (db.sessions.get? sessionId).bind SessionRow.compactedBefore
        let logs := visibleLogs db taskIds current
        if (logs.length : Int) ≤ threshold.getD 60 then .ok db
        else if db.sessions.exists? fun _ session =>
            session.goal == "session_compact:" ++ uuidText sessionId && session.status == .opened then .ok db
        else match compactionCutoff env logs (keep.getD 10) with
          | none => .ok db
          | some cutoff => startCompaction env db sessionId compactor logs current cutoff

/-! ### The messages of one turn -/

private def actionGuide : String :=
  "\nPick action from final_answer | execute_sql | call_function | run_procedure | create_function | " ++
  "update_function | delegate | await_children | await_human | propose_change | remember." ++
  "\nFor numeric questions, execute_sql first. Do not invent keys." ++
  "\ncreate_function: \x7b\"action\":\"create_function\",\"name\":\"...\",\"description\":\"...\",\"body\":\"...\"," ++
  "\"param_schema\":\x7b...\x7d,\"reason\":\"...\"\x7d" ++
  " -- authors a new real PL/pgSQL Function. body is only the statements inside the function, never a full" ++
  " CREATE FUNCTION: it becomes the body of `CREATE FUNCTION allgres_functions.<generated>(p_args jsonb) RETURNS jsonb" ++
  " LANGUAGE plpgsql SECURITY INVOKER AS $$<body>$$`, so it must read its argument as the variable p_args (jsonb)" ++
  " and always RETURN a jsonb value. It runs later as whichever agent actually calls it, under that agent's own" ++
  " Postgres role -- it can only ever see what that role's own grants allow, the same as your own execute_sql" ++
  " action, so write it exactly as carefully. param_schema is a plain jsonb description of the args shape you" ++
  " expect callers to pass (shown back to them, never enforced) -- e.g. " ++
  "\x7b\"limit\":\"integer, optional, default 20\"\x7d." ++
  " It cannot declare SECURITY DEFINER or change role. Whether this applies immediately or waits for an operator" ++
  " to approve it depends on your own autonomy_level; either way you get the new function_id back, or an error" ++
  " if the body was rejected. Bind it to a procedure (an operator action) before any agent can actually call it." ++
  "\nrun_procedure: \x7b\"action\":\"run_procedure\",\"procedure\":\"<a name you were granted, shown in your " ++
  "procedures below>\",\"args\":\x7b...\x7d\x7d" ++
  " -- runs that procedure's real code to completion in one step (it calls whichever Functions it needs itself," ++
  " in order, with real branching -- you do not drive it call by call the way you would with call_function) and" ++
  " reports back once, as a procedure_result on your next turn. Requires the same procedure permission that" ++
  " already shows you its description below; only an operator can author or edit a procedure's real code." ++
  "\nupdate_function: \x7b\"action\":\"update_function\",\"function_id\":\"...\",\"description\":\"...\"," ++
  "\"body\":\"...\",\"param_schema\":\x7b...\x7d,\"reason\":\"...\"\x7d" ++
  " -- edits an existing plpgsql Function's body/description/param_schema (never its name) and re-queues its" ++
  " build; the previous version stays callable until the new build actually finishes. Same rules as create_function." ++
  "\nawait_children: \x7b\"action\":\"await_children\"\x7d -- pauses this task until every task you have delegated" ++
  " (however many, across however many turns) has finished; your next turn then sees what each one did." ++
  " Rejected if you have nothing pending to wait on." ++
  "\npropose_change: \x7b\"action\":\"propose_change\",\"changes\":\x7b\"system_prompt\":\"...\"\x7d," ++
  "\"reason\":\"...\"\x7d" ++
  " -- only system_prompt and llm_config.model/temperature/max_tokens may be proposed;" ++
  " an operator decides it later, it does not change your policy right now." ++
  "\nremember: \x7b\"action\":\"remember\",\"content\":\"...\",\"memory_type\":\"semantic|episodic|preference|" ++
  "instruction|relationship|working\",\"importance\":0.0-1.0,\"subject_id\":\"...\",\"expires_in_days\":N\x7d" ++
  " -- saves something worth recalling in a future session; memory_type and importance default to" ++
  " semantic/0.5 if omitted, expires_in_days is optional and unset means it never expires on its own." ++
  " Use it when you learn a durable fact, preference, or instruction, not for routine intermediate results."

/-- The memories that reach this prompt. -/
def recalledMemories (env : Env) (db : Db) (agentId : Nat) : List (Nat × MemoryRow) :=
  (rankedMemories db.memories fun memory =>
    memory.agentId == agentId && memory.expiresAt.all fun time => decide (env.now < time)).take 15

def memoriesJson (recalled : List (Nat × MemoryRow)) : Json :=
  .arr (recalled.map fun memory =>
    .build [("type", .str memory.2.memoryType), ("content", .str (left memory.2.content 500))])

def proceduresJson (db : Db) (agentId : Nat) : Json :=
  let granted := db.procedures.select fun procedureId _ => grantsProcedure db agentId procedureId
  .arr ((granted.insertionSort fun a b => a.2.name ≤ b.2.name).map fun procedure =>
    .build [("name", .str procedure.2.name), ("content", .str procedure.2.content)])

/-- The functions that the agent's procedures expose, one entry for each binding. -/
def boundFunctions (db : Db) (agentId : Nat) : List (FunctionRow × String) :=
  db.bindings.filterMap fun binding =>
    match db.functions.get? binding.2, db.procedures.get? binding.1 with
    | some function, some procedure =>
      if function.isActive && function.buildStatus != .failed && grantsProcedure db agentId binding.1 then
        some (function, procedure.name) else none
    | _, _ => none

def boundFunctionsJson (db : Db) (agentId : Nat) : Json :=
  .arr (((boundFunctions db agentId).insertionSort fun a b => a.1.name ≤ b.1.name).map fun entry =>
    .build [("name", .str entry.1.name), ("description", .str entry.1.description),
      ("handler", .str entry.1.handler.text),
      ("args", if entry.1.handler = .plpgsql then entry.1.paramSchema else entry.1.argsTemplate),
      ("procedure", .str entry.2)])

def refsJson (db : Db) (agentId : Nat) (resourceType : ResourceType) : Json :=
  .arr ((agentPermissionRefs db agentId resourceType).map .str)

def functionBounds (db : Db) (agentId : Nat) : Json :=
  (refsJson db agentId .function).concat (boundFunctionsJson db agentId)

def projectPreset (db : Db) (sessionId : Nat) : Option String :=
  ((db.sessions.get? sessionId).bind SessionRow.projectId).bind fun project =>
    (db.projects.get? project).bind ProjectRow.presetPrompt

def message (role : String) (content : Json) : Json :=
  .build [("role", .str role), ("content", content)]

def systemMessage (env : Env) (db : Db) (task : TaskRow) : Json :=
  let memories := memoriesJson (recalledMemories env db task.agentId)
  let procedures := proceduresJson db task.agentId
  message "system" (.ofOption (fun prompt => .str (
    prompt ++
    (match projectPreset db task.sessionId with
      | some preset => "\n\n# project preset\n" ++ preset
      | none => "") ++
    "\n\n# bounds (authoritative, from the database)\nviews: " ++ (refsJson db task.agentId .view).text ++
    "\nfunctions: " ++ (functionBounds db task.agentId).text ++ actionGuide ++
    (if memories.isEmptyArr then ""
      else "\n\n# memory (your own past recollections, most important first)\n" ++ memories.text) ++
    (if procedures.isEmptyArr then ""
      else "\n\n# procedures (reusable, curated by an operator -- follow these when they apply)\n" ++
        procedures.text))) (agentEffectivePrompt db task.agentId))

def logContentText : Json → String
  | .str text => text
  | other => other.text

/-- How a log row reaches the model. -/
def logMessage (log : LogRow) : Json :=
  match log.role with
  | .error => message "user" (.str ("Previous step error: " ++ logContentText log.content ++
      ". Reply with a valid action JSON."))
  | .function | .procedure | .operator => message "user" (.str (logContentText log.content))
  | role => message role.text (.str (logContentText log.content))

def logMessages (db : Db) (taskIds : List Nat) (cutoff : Option Time) : List Json :=
  ((visibleLogs db taskIds cutoff).insertionSort fun a b =>
    a.createdAt < b.createdAt ∨ (a.createdAt = b.createdAt ∧ a.stepNumber ≤ b.stepNumber)).map logMessage

/-- The task's own input, where no log row carries it yet. -/
def inputMessages (db : Db) (t : Nat) (task : TaskRow) : List Json :=
  let text := ((task.input.getText? "goal").or (task.input.getText? "text")).getD task.input.text
  let hasInput := db.logs.any fun log => log.taskId == t && log.role == .user
  if hasInput || text == "" || text == "\x7b\x7d" then [] else [message "user" (.str text)]

def summaryMessages (db : Db) (sessionId : Nat) (cutoff : Option Time) : List Json :=
  match cutoff.bind fun _ => (db.agentNamed "session_compactor").bind fun agent =>
      latestSummary db agent.1 sessionId with
  | none => []
  | some summary => [message "system" (.str ("# earlier in this conversation, summarized\n" ++ summary))]

/-! ### The model of one turn -/

/-- Which function's result this turn follows, and the model chosen for it. -/
structure Override where
  procedureFunctionId : Option Nat
  procedureId : Option Nat
  experimentId : Option Nat
  config : Option Json

def Override.none : Override := ⟨.none, .none, .none, .none⟩

/-- The last log row of the task that belongs to no failed attempt. -/
def lastLog (db : Db) (t : Nat) : Option LogRow :=
  let own := db.logs.filter fun log => log.taskId == t
  let failedSteps := (own.filter fun log => log.role == .error).map LogRow.stepNumber
  ((own.filter fun log => !failedSteps.contains log.stepNumber).insertionSort fun a b =>
    b.stepNumber < a.stepNumber ∨ (a.stepNumber = b.stepNumber ∧ b.createdAt ≤ a.createdAt)).head?

def modelJson (provider model : Json) : Json := .build [("provider", provider), ("model", model)]

/-- A decision frozen for retries of the same turn. -/
def frozenOverride (state : Json) (functionId : Nat) (procedureId : Option Nat) : Except String Override :=
  match castUuid (state.getText? "experiment_id") with
  | .error message => .error message
  | .ok experimentId =>
    .ok ⟨some functionId, procedureId, experimentId,
      if state.hasKey "provider" then
        some (modelJson (.optStr (state.getText? "provider")) (.optStr (state.getText? "model"))) else .none⟩

/-- A fresh decision: the function's override, its procedure's, or the canary's model. -/
def freshOverride (env : Env) (db : Db) (t functionId : Nat) (procedureId : Option Nat) : Override :=
  let configured := ((db.functions.get? functionId).bind FunctionRow.llmOverride).or
    (procedureId.bind fun id => (db.procedures.get? id).bind ProcedureRow.llmOverride)
  match db.experiments.find? fun _ experiment =>
      experiment.functionId == functionId && experiment.status == .running with
  | some (experimentId, experiment) =>
    if env.roll t < experiment.canaryPercent then
      ⟨some functionId, procedureId, some experimentId,
        some (modelJson (.str experiment.candidateProvider) (.str experiment.candidateModel))⟩
    else ⟨some functionId, procedureId, .none, configured⟩
  | none => ⟨some functionId, procedureId, .none, configured⟩

def overrideState (functionId : Nat) (override : Override) : Json :=
  ((Json.build [("procedure_function_id", idJson functionId)]).concat
    (.build [("experiment_id", optIdJson override.experimentId)])).concat (override.config.getD .emptyObj)

def resolveOverride (env : Env) (db : Db) (t : Nat) (task : TaskRow) : Except String (Override × Db) :=
  match (lastLog db t).filter fun log => log.role == .function with
  | none => .ok (.none, db)
  | some log =>
    match castUuid (log.content.getText? "procedure_function_id") with
    | .error message => .error message
    | .ok functionId =>
      match castUuid (log.content.getText? "procedure_id") with
      | .error message => .error message
      | .ok procedureId =>
        match functionId with
        | none => .ok (⟨none, procedureId, none, none⟩, db)
        | some functionId =>
          let isRetry := db.logs.any fun other =>
            other.taskId == t && other.role == .error && decide (log.stepNumber < other.stepNumber)
          let fresh := freshOverride env db t functionId procedureId
          let store := db.updateTask env t fun row =>
            { row with functionOverrideState := some (overrideState functionId fresh) }
          match task.functionOverrideState.filter fun _ => isRetry with
          | none => .ok (fresh, store)
          | some state =>
            match castOr "uuid" toUuid (state.getText? "procedure_function_id") with
            | .error message => .error message
            | .ok frozen =>
              if frozen = some functionId then
                match frozenOverride state functionId procedureId with
                | .error message => .error message
                | .ok override => .ok (override, db)
              else .ok (fresh, store)

/-! ### `fn_next_step` -/

/-- What a turn asks of the model. -/
structure LlmSpec where
  messages : List Json
  llmConfig : Json
  override : Override

inductive NextStep
  | done (reason : String)
  | callLlm (spec : LlmSpec)

def turnConfig (policy : PolicyRow) (override : Override) : Json :=
  sanitizeLlmConfig (match override.config with
    | none => policy.llmConfig
    | some config => policy.llmConfig.concat
        (modelJson (.optStr (config.getText? "provider")) (.optStr (config.getText? "model"))))

def touchMemories (env : Env) (db : Db) (recalled : List (Nat × MemoryRow)) : Db :=
  { db with
    memories := db.memories.update (fun memoryId _ => recalled.any fun memory => memory.1 == memoryId)
      fun _ memory => { memory with lastAccessedAt := some env.now } }

/-- The tasks whose logs the turn sees, and the tables after a compaction it may trigger. -/
def conversation (env : Env) (db : Db) (t : Nat) (task : TaskRow) : Except String (List Nat × Db) :=
  if task.parentTaskId.isNone then
    let taskIds := (db.tasks.select fun _ other =>
      other.sessionId == task.sessionId && other.parentTaskId.isNone).map Prod.fst
    match maybeTriggerCompaction env db task.sessionId taskIds with
    | .error message => .error message
    | .ok db => .ok (taskIds, db)
  else .ok ([t], db)

def prepareTurn (env : Env) (db : Db) (t : Nat) (task : TaskRow) (policy : PolicyRow) :
    Except String (NextStep × Db) :=
  let system := systemMessage env db task
  let db := touchMemories env db (recalledMemories env db task.agentId)
  match conversation env db t task with
  | .error message => .error message
  | .ok (taskIds, db) =>
    let cutoff := (db.sessions.get? task.sessionId).bind SessionRow.compactedBefore
    let messages := system :: summaryMessages db task.sessionId cutoff ++ logMessages db taskIds cutoff ++
      inputMessages db t task
    match resolveOverride env db t task with
    | .error message => .error message
    | .ok (override, db) => .ok (.callLlm ⟨messages, turnConfig policy override, override⟩, db)

def startTask (env : Env) (db : Db) (t : Nat) (task : TaskRow) : Db :=
  if task.status = .queued then
    db.updateTask env t fun row => { row with status := .running, startedAt := row.startedAt.or (some env.now) }
  else db

def fnNextStep (env : Env) (db : Db) (t : Nat) : Except String (NextStep × Db) :=
  match db.tasks.get? t with
  | none => .error "fn_next_step: task not found"
  | some task =>
    if task.status ≠ .queued ∧ task.status ≠ .running then
      .error ("fn_next_step: status " ++ task.status.text ++ " not runnable")
    else
      let db := startTask env db t task
      match (db.agents.get? task.agentId).filter AgentRow.isActive with
      | none => .ok (.done "agent_inactive", failTask env db t task "agent_inactive"
          [("reason", .str "agent_inactive")])
      | some _ =>
        match db.policyOf task.agentId with
        | none => .error "fn_next_step: policy missing"
        | some policy =>
          if policy.maxSteps ≤ task.stepCount then
            .ok (.done "max_steps", failTask env db t task "max_steps"
              [("reason", .str "max_steps"), ("max_steps", .ofNat policy.maxSteps)])
          else prepareTurn env db t task policy

end Allgres
