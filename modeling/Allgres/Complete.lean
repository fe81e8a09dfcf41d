import Allgres.Claim

namespace Allgres

open Relational Jsonb Sql

def skippedJson : Json := .build [("action", .str "skipped"), ("reason", .str "task_not_running")]

/-- Hands a call's payload to its task if the task is running. An exception
that `fn_submit_result` raises is swallowed; its effects are rolled back. -/
def submitFor (env : Env) (db : Db) (key : Queue × Nat) (t : Nat) (payload : Json) : Json × Db :=
  if db.isRunning t then
    let db := { db with submits := db.submits ++ [key] }
    match fnSubmitResult env db t payload with
    | .ok (reply, db) => (reply, db)
    | .error message => (.build [("action", .str "error"), ("message", .str message)], db)
  else (skippedJson, db)

def CallStatus.text : CallStatus → String
  | queued => "queued"
  | inFlight => "in_flight"
  | harvested => "harvested"
  | lost => "lost"

def completedJson (callId : Nat) (submit : Json) : Json :=
  .build [("submit", submit), ("call_id", idJson callId)]

/-- The answer to a completion whose call is not in flight any more. -/
def staleJson (callId : Nat) (status : CallStatus) : Json :=
  completedJson callId (.build [("action", .str "stale"), ("reason", .str "call_not_in_flight"),
    ("status", .str status.text)])

def retire {β : Type} (env : Env) (status : CallStatus) (call : CallRow β) : CallRow β :=
  { call with status := status, updatedAt := env.now }

def resultPayload (type : String) (content : Json) : Json :=
  .build [("type", .str type), ("content", content)]

/-! ### `fn_complete_outbound` -/

def llmTextFromHttp (body : Option String) : Option String :=
  match body.bind parse with
  | none => body
  | some value =>
    ((value.textAt? [.key "choices", .item 0, .key "message", .key "content"]).or
      (value.textAt? [.key "content", .item 0, .key "text"])).or body

structure Usage where
  promptTokens : Option Int
  completionTokens : Option Int

/-- The token counts of either response shape; a malformed block counts as none. -/
def llmUsageFromHttp (body : Option String) : Option Usage :=
  match body.bind parse with
  | none => none
  | some value =>
    let usage (prompt completion : String) : Option Usage :=
      match castInt (nonEmpty (value.textAt? [.key "usage", .key prompt])),
        castInt (nonEmpty (value.textAt? [.key "usage", .key completion])) with
      | .ok prompt, .ok completion => some ⟨prompt, completion⟩
      | _, _ => none
    if (value.textAt? [.key "usage", .key "prompt_tokens"]).isSome then usage "prompt_tokens" "completion_tokens"
    else if (value.textAt? [.key "usage", .key "input_tokens"]).isSome then usage "input_tokens" "output_tokens"
    else none

def isSuccess (status : Option Int) : Bool :=
  status.any fun code => decide (200 ≤ code ∧ code < 300)

def httpErrorPayload (source : String) (status : Option Int) (body : Option String) : Json :=
  errorPayload (source ++ " http " ++ (status.map toString).getD "0" ++ ": " ++ left (body.getD "") 2000)

def functionPayload (call : OutboundBody) (status : Option Int) (body : Option String) : Json :=
  resultPayload "function_result" (.build [("status", .ofOption (fun code => .num code 0) status),
    ("body", .str (left (body.getD "") 16000)), ("procedure_function_id", optIdJson call.procedureFunctionId),
    ("procedure_id", optIdJson call.procedureId)])

def mcpPayload (db : Db) (call : OutboundBody) (status : Option Int) (body : Option String) : Except String Json :=
  if !isSuccess status then .ok (httpErrorPayload "mcp" status body)
  else
    let name := (call.procedureFunctionId.bind fun id => db.functions.get? id).map FunctionRow.name
    let named := "mcp function " ++ name.getD "unknown"
    match body.bind parse with
    | none => .ok (errorPayload (named ++ " returned invalid JSON: " ++ left (body.getD "") 500))
    | some value =>
      if value.hasKey "error" then
        .ok (errorPayload (named ++ " failed: " ++
          (value.textAt? [.key "error", .key "message"]).getD "unknown error"))
      else match castBoolean (value.textAt? [.key "result", .key "isError"]) with
        | .error message => .error message
        | .ok flag =>
          if flag.getD false then
            .ok (errorPayload (named ++ " reported a tool error: " ++
              left ((value.textAt? [.key "result", .key "content", .index 0, .key "text"]).getD "") 500))
          else
            .ok (resultPayload "function_result" (.build [("function", .optStr name),
              ("result", ((value.at? [.key "result", .key "content"]).or
                (value.at? [.key "result"])).getD .null)]))

/-- The elements of `data[0].embedding`, converted to numbers. -/
def embeddingVector (env : Env) (value : Option Json) : Except String (Option Json) :=
  match value.bind fun value => value.at? [.key "data", .index 0, .key "embedding"] with
  | none => .ok none
  | some (.arr items) =>
    if items.isEmpty then .ok none
    else if items.all fun item => item.asText.all fun text => (env.pg.float8Json text).isSome then .ok (some (.arr items))
    else .error "invalid input syntax for type double precision"
  | some _ => .error "cannot extract elements from a scalar"

/-- `search_agents` and `recall` differ in the ranking. -/
def rankPayload (rank : Nat → Json → Option String → Except String Json) (env : Env) (db : Db) (taskId : Nat)
    (call : OutboundBody) (status : Option Int) (body : Option String) : Except String Json :=
  if !isSuccess status then .ok (httpErrorPayload "embedding" status body)
  else match embeddingVector env (body.bind parse) with
    | .error message => .error message
    | .ok none => .ok (errorPayload "embedding response had no usable data[0].embedding")
    | .ok (some vector) =>
      let requester := ((db.tasks.get? taskId).map TaskRow.agentId).getD 0
      let expected := (call.providerId.bind fun id => db.providers.get? id).bind fun provider =>
        (call.requestBody.getText? "model").map fun model => provider.name ++ ":" ++ model
      match rank requester vector expected with
      | .error message => .error message
      | .ok ranked =>
        .ok (resultPayload "function_result" (.build [("status", .ofOption (fun code => .num code 0) status),
          ("body", .str ranked.text)]))

def llmPayload (body : Option String) : Json :=
  let text := llmTextFromHttp body
  .build [("type", .str "llm_response"), ("content", .optStr text), ("parsed", (extractFirstJson text).getD .null)]

/-- `p_body ILIKE '%response_format.type%'`, where the underscore stands for any character. -/
def rejectsResponseFormat (pg : Pg) (body : Option String) : Bool :=
  let wanted := "response_format.type".toList
  let matchesAt (text : List Char) : Bool :=
    wanted.length ≤ text.length && (text.zip wanted).all fun pair => pair.2 == '_' || pair.1 == pair.2
  body.any fun text => ((pg.lower text).toList.tails).any matchesAt

def isLlmFailure (status : Option Int) : Bool :=
  !status.any fun code => decide (200 ≤ code ∧ code < 400)

def forgetResponseFormat (env : Env) (db : Db) (call : OutboundBody) (status : Option Int) (body : Option String) : Db :=
  if status = some 400 ∧ rejectsResponseFormat env.pg body then
    { db with
      providers := db.providers.update (fun id _ => call.providerId == some id) fun _ provider =>
        { provider with responseFormatJsonObject := false } }
  else db

def callCost (db : Db) (call : OutboundBody) (usage : Option Usage) : Option ℚ :=
  usage.bind fun usage =>
    (db.prices.find? fun price => some price.providerId == call.providerId &&
      some price.model == call.requestBody.getText? "model").map fun price =>
        ((usage.promptTokens.getD 0 : Int) : ℚ) / 1000 * price.inputPricePer1k +
          ((usage.completionTokens.getD 0 : Int) : ℚ) / 1000 * price.outputPricePer1k

/-- The cost is charged to the schedule whose run made the call. -/
def chargeSchedule (db : Db) (taskId : Nat) (cost : Option ℚ) : Db :=
  match cost, ((db.tasks.get? taskId).bind fun task => db.sessions.get? task.sessionId).bind SessionRow.scheduleId with
  | some cost, some scheduleId =>
    { db with
      schedules := db.schedules.modify scheduleId fun schedule =>
        let spent := schedule.spentCostUsd + cost
        { schedule with
          spentCostUsd := spent
          isActive := schedule.isActive && !schedule.maxCostUsd.any fun limit => decide (limit ≤ spent) } }
  | _, _ => db

def recordUsage (db : Db) (callId taskId : Nat) (call : OutboundBody) (body : Option String) : Db :=
  let usage := llmUsageFromHttp body
  let cost := callCost db call usage
  chargeSchedule { db with
    outboundCalls := db.outboundCalls.modify callId fun row =>
      { row with
        body := { row.body with
          promptTokens := usage.bind Usage.promptTokens
          completionTokens := usage.bind Usage.completionTokens
          costUsd := cost } } } taskId cost

/-- What the response means to the task, and what the call's kind records of it. -/
def outboundPayload (env : Env) (db : Db) (callId taskId : Nat) (call : OutboundBody) (status : Option Int)
    (body : Option String) : Except String (Json × Db) :=
  match call.kind with
  | .function => .ok (functionPayload call status body, db)
  | .mcp => (mcpPayload db call status body).map fun payload => (payload, db)
  | .embedding =>
    (rankPayload (env.rankAgentsByEmbedding db.agents db.permissions) env db taskId call status body).map
      fun payload => (payload, db)
  | .recallMemories =>
    (rankPayload (env.rankMemoriesByEmbedding db.memories) env db taskId call status body).map
      fun payload => (payload, db)
  | .llm =>
    if isLlmFailure status then
      .ok (httpErrorPayload "llm" status body, forgetResponseFormat env db call status body)
    else .ok (llmPayload body, recordUsage db callId taskId call body)

def harvestOutbound (env : Env) (db : Db) (callId : Nat) (status : Option Int) (body : Option String) : Db :=
  { db with
    outboundCalls := db.outboundCalls.modify callId fun row =>
      { retire env .harvested row with
        body := { row.body with responseStatus := status, responseBody := some (left (body.getD "") 200000) } } }

def replyOutcome (reply : Json) : CallOutcome :=
  if reply.getText? "action" = some "error" then .failure
  else if reply.getText? "action" = some "continue" ∧
      (reply.getText? "reason").any ["unknown_action", "payload_rejected", "final_answer_missing_answer"].contains then
    .failure
  else .success

/-- The outcome of an `llm` call that an experiment may be judged by. -/
def scoreCall (db : Db) (callId : Nat) (call : OutboundBody) (reply : Json) : Db :=
  if call.kind = .llm ∧ call.procedureFunctionId.isSome then
    { db with
      outboundCalls := db.outboundCalls.modify callId fun row =>
        { row with body := { row.body with outcome := some (replyOutcome reply) } } }
  else db

def fnCompleteOutbound (env : Env) (db : Db) (callId : Nat) (status : Option Int) (body : Option String) :
    Except String (Json × Db) :=
  match db.outboundCalls.get? callId with
  | none => .error "fn_complete_outbound: not found"
  | some call =>
    if call.status ≠ .inFlight then .ok (staleJson callId call.status, db)
    else match outboundPayload env (harvestOutbound env db callId status body) callId call.taskId call.body status body with
      | .error message => .error message
      | .ok (payload, db) =>
        let (reply, db) := submitFor env db (.outbound, callId) call.taskId payload
        .ok (completedJson callId reply, scoreCall db callId call.body reply)

/-! ### The other task queues -/

structure SqlOutcome where
  ok : Option Bool
  rows : Option Json
  rowCount : Option Int
  truncated : Option Bool
  error : Option String

def sqlPayload (sql : String) (outcome : SqlOutcome) : Json :=
  if outcome.ok.getD false then
    resultPayload "function_result" (.build [("sql", .str sql), ("result", .build [("ok", .bool true),
      ("row_count", .num (outcome.rowCount.getD 0) 0), ("truncated", .bool (outcome.truncated.getD false)),
      ("rows", outcome.rows.getD (.arr []))])])
  else errorPayload ("sql: " ++ left sql 200 ++ " -- " ++ outcome.error.getD "execution failed")

def fnCompleteSql (env : Env) (db : Db) (callId : Nat) (outcome : SqlOutcome) : Except String (Json × Db) :=
  match db.sqlCalls.get? callId with
  | none => .error "fn_complete_sql: not found"
  | some call =>
    if call.status ≠ .inFlight then .ok (staleJson callId call.status, db)
    else
      let db := { db with sqlCalls := db.sqlCalls.modify callId (retire env .harvested) }
      let (reply, db) := submitFor env db (.sql, callId) call.taskId (sqlPayload call.body.sql outcome)
      .ok (completedJson callId reply, db)

structure BodyOutcome where
  ok : Option Bool
  result : Option Json
  error : Option String

/-- Function and procedure results differ in the word that names them. -/
def bodyPayload (word : String) (name : Option String) (targetId : Nat) (outcome : BodyOutcome) : Json :=
  if outcome.ok.getD false then
    resultPayload (word ++ "_result") (.build [(word, .optStr name), ("result", outcome.result.getD .null)])
  else errorPayload (word ++ " " ++ name.getD (uuidText targetId) ++ " failed: " ++
    outcome.error.getD "execution failed")

def fnCompleteFunctionCall (env : Env) (db : Db) (callId : Nat) (outcome : BodyOutcome) : Except String (Json × Db) :=
  match db.functionCalls.get? callId with
  | none => .error "fn_complete_function_call: not found"
  | some call =>
    if call.status ≠ .inFlight then .ok (staleJson callId call.status, db)
    else
      let db := { db with functionCalls := db.functionCalls.modify callId (retire env .harvested) }
      let name := (db.functions.get? call.body.targetId).map FunctionRow.name
      let (reply, db) := submitFor env db (.function, callId) call.taskId
        (bodyPayload "function" name call.body.targetId outcome)
      .ok (completedJson callId reply, db)

def fnCompleteProcedureCall (env : Env) (db : Db) (callId : Nat) (outcome : BodyOutcome) :
    Except String (Json × Db) :=
  match db.procedureCalls.get? callId with
  | none => .error "fn_complete_procedure_call: not found"
  | some call =>
    if call.status ≠ .inFlight then .ok (staleJson callId call.status, db)
    else
      let db := { db with procedureCalls := db.procedureCalls.modify callId (retire env .harvested) }
      let name := (db.procedures.get? call.body.targetId).map ProcedureRow.name
      let (reply, db) := submitFor env db (.procedure, callId) call.taskId
        (bodyPayload "procedure" name call.body.targetId outcome)
      .ok (completedJson callId reply, db)

end Allgres
