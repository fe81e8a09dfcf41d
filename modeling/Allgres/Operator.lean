import Allgres.Memory
import Mathlib.Data.Rat.Floor

/-! The functions of the operator API that an agent's own actions reach. -/

namespace Allgres

open Relational Jsonb Sql

/-- `round(value, 3)` of a value that is not negative. -/
def roundMilli (value : ℚ) : ℚ :=
  ⌊value * 1000 + 1 / 2⌋ / 1000

/-- The share of successes, without a value where nothing was counted. -/
def successRate (succeeded decided : Nat) : Option ℚ :=
  if decided = 0 then none else some (roundMilli (succeeded / decided))

/-- The success rate of the last root tasks that ran under one policy generation. -/
def agentSuccessRateForGeneration (db : Db) (agentId generation limit : Nat) : Option ℚ :=
  let ran := db.tasks.select fun _ task =>
    task.agentId == agentId && task.parentTaskId.isNone && task.policyGeneration == some generation &&
      (db.sessions.get? task.sessionId).any fun session => !session.goal.startsWith "selftest"
  let recent := (ran.insertionSort fun a b => b.2.createdAt ≤ a.2.createdAt).take (max 1 limit)
  successRate (recent.countP fun task => task.2.status == .completed)
    (recent.countP fun task => task.2.status == .completed || task.2.status == .failed)

def sanitizeLlmConfig (config : Json) : Json :=
  .stripNulls (.build [
    ("model", .optStr (nonEmpty (config.getText? "model"))),
    ("temperature", (config.get? "temperature").getD .null),
    ("max_tokens", (config.get? "max_tokens").getD .null),
    ("provider", .optStr (nonEmpty (config.getText? "provider")))])

/-- The model configuration of a policy with the given fields replaced. -/
def mergedConfig (policy : PolicyRow) : Option Json → Json
  | none => policy.llmConfig
  | some config => sanitizeLlmConfig (policy.llmConfig.concat config)

/-- `fn_set_policy` with a prompt and a model configuration; the limits keep their values. -/
def fnSetPolicy (db : Db) (agentId : Nat) (prompt : Option String) (llmConfig : Option Json) :
    Except String (Json × Db) :=
  match db.policyOf agentId with
  | none => .error "policy not found"
  | some policy =>
    let newPrompt := (nonEmpty prompt).getD policy.systemPrompt
    let newConfig := mergedConfig policy llmConfig
    if newPrompt == policy.systemPrompt && newConfig.same policy.llmConfig then
      .ok (.build [("ok", .bool true), ("generation", .ofNat policy.generation), ("changed", .bool false)], db)
    else if db.policyHistory.exists? fun _ old =>
        old.policy.agentId == agentId && old.policy.generation == policy.generation then
      .error "duplicate key value violates unique constraint \"policy_history_agent_id_generation_key\""
    else
      let rate := agentSuccessRateForGeneration db agentId policy.generation 20
      let db := { db with
        policyHistory := db.policyHistory.insert ⟨policy, rate⟩
        policies := db.policies.update (fun _ row => row.agentId == agentId) fun _ row =>
          { row with systemPrompt := newPrompt, llmConfig := newConfig, generation := row.generation + 1 } }
      let db := db.audit "agents.update" (.build [("agent_id", idJson agentId), ("field", .str "policy"),
        ("generation", .ofNat (policy.generation + 1)), ("llm_config", newConfig),
        ("max_steps", .ofNat policy.maxSteps), ("max_retries", .ofNat policy.maxRetries),
        ("max_concurrent_tasks", .ofNat policy.maxConcurrentTasks),
        ("max_turn_seconds", .ofOption .ofNat policy.maxTurnSeconds),
        ("max_delegation_depth", .ofNat policy.maxDelegationDepth),
        ("max_session_tasks", .ofNat policy.maxSessionTasks)])
      .ok (.build [("ok", .bool true), ("generation", .ofNat (policy.generation + 1)), ("changed", .bool true)], db)

/-- The prompt that the trigger `ensure_policy` gives a new agent. -/
def defaultPrompt : String :=
  "You are an agent whose next action is decided only as JSON.\n" ++
  "Reply with a single JSON object, no markdown, no extra keys:\n" ++
  "\x7b\"action\":\"final_answer\",\"answer\":\"...\"\x7d\n" ++
  "\x7b\"action\":\"execute_sql\",\"sql\":\"SELECT ...\"\x7d\n" ++
  "\x7b\"action\":\"call_function\",\"function\":\"...\",\"args\":\x7b\x7d\x7d\n" ++
  "\x7b\"action\":\"delegate\",\"agent_name\":\"...\",\"input\":\x7b\x7d,\"wait\":false\x7d\n" ++
  "\x7b\"action\":\"await_children\"\x7d\n" ++
  "\x7b\"action\":\"await_human\",\"reason\":\"...\"\x7d\n" ++
  "SQL must be a single SELECT or WITH against schema-qualified views you were given.\n" ++
  "delegate's \"wait\" defaults to false (hand off and your turn ends); set it true to keep going instead of\n" ++
  "finishing, so you can delegate to more agents or later call await_children to pause until every agent you\n" ++
  "delegated to has finished, with what each one did visible on your next turn.\n"

def defaultPolicy (agentId : Nat) : PolicyRow where
  agentId := agentId
  systemPrompt := defaultPrompt
  maxSteps := 20
  maxRetries := 2
  llmConfig := .emptyObj
  generation := 1
  maxConcurrentTasks := 4
  maxTurnSeconds := none
  maxDelegationDepth := 5
  maxSessionTasks := 100

/-- The policy of a new agent: a prompt that is not blank replaces the default one. -/
def newPolicy (agentId : Nat) (prompt : Option String) : PolicyRow :=
  match prompt.filter fun text => btrim text != "" with
  | none => defaultPolicy agentId
  | some text => { defaultPolicy agentId with systemPrompt := text }

/-- `fn_create_agent` on behalf of no user. -/
def fnCreateAgent (env : Env) (db : Db) (name prompt : Option String) : Except String (Json × Db) :=
  let name := btrim (name.getD "")
  if name = "" then .error "agent name required"
  else if (db.agentNamed name).isSome then
    .error "duplicate key value violates unique constraint \"agents_name_key\""
  else
    let agentId := db.agents.next
    let db := { db with
      agents := db.agents.insert ⟨name, true, false, none, .adminApproval, .emptyObj⟩
      policies := db.policies.insert (newPolicy agentId prompt) }
    match env.provisionAgentRole agentId with
    | .error message => .error message
    | .ok role =>
      let db := queueAgentEmbedding env db agentId
      .ok (.build [("ok", .bool true), ("agent_id", idJson agentId), ("pg_role", .str role)],
        db.audit "agents.create" (.build [("agent_id", idJson agentId), ("name", .str name),
          ("created_by_user_id", .null)]))

def fnSetAgentActive (db : Db) (agentId : Nat) (active : Bool) : Except String (Json × Db) :=
  match db.agents.get? agentId with
  | none => .error "agent not found"
  | some _ =>
    let db := { db with agents := db.agents.modify agentId fun agent => { agent with isActive := active } }
    .ok (.build [("ok", .bool true), ("is_active", .bool active)],
      db.audit "agents.update" (.build [("agent_id", idJson agentId), ("is_active", .bool active)]))

/-- A missing argument compares with nothing, so nothing is deleted then. -/
def fnRevokePermission (db : Db) (agentId : Nat) (type ref : Option String) : Json × Db :=
  let revoked (grant : PermissionRow) : Bool :=
    grant.agentId == agentId && type.any (fun text => ResourceType.ofText text == some grant.resourceType) &&
      ref.any (fun text => text == grant.resourceRef)
  let db := { db with permissions := db.permissions.delete fun _ grant => revoked grant }
  (.build [("ok", .bool true)], db.audit "permissions.revoke" (.build [("agent_id", idJson agentId),
    ("type", .optStr type), ("ref", .optStr ref)]))

def applyFix (db : Db) (fixKind : FixKind) (targetAgentId : Nat) (detail : Json) : Except String (Json × Db) :=
  match fixKind with
  | .revokePermission =>
    .ok (fnRevokePermission db targetAgentId (detail.getText? "resource_type") (detail.getText? "resource_ref"))
  | .deactivateAgent => fnSetAgentActive db targetAgentId false

/-! ### Experiments with a function's model -/

/-- `min_sample_size` has a `CHECK` of its own, and only one experiment of a function may run. -/
def applyFunctionExperimentStart (db : Db) (functionId : Nat) (candidateProvider candidateModel : String)
    (canaryPercent : Int) (minSampleSize : Option Int) (proposedByAgentId : Nat) (reason : Option String) :
    Except String (Nat × Db) :=
  let history := db.outboundCalls.select fun _ call =>
    call.body.kind == .llm && call.body.procedureFunctionId == some functionId && call.body.experimentId.isNone
  let baseline := successRate (history.countP fun call => call.2.body.outcome == some .success)
    (history.countP fun call => call.2.body.outcome.isSome)
  let sample := minSampleSize.getD 20
  if canaryPercent ≤ 0 ∨ 100 < canaryPercent then
    .error "new row for relation \"model_experiments\" violates check constraint on canary_percent"
  else if sample ≤ 0 then
    .error "new row for relation \"model_experiments\" violates check constraint on min_sample_size"
  else if db.experiments.exists? fun _ other => other.functionId == functionId && other.status == .running then
    .error "duplicate key value violates unique constraint \"model_experiments_one_running_per_function\""
  else
    .ok (db.experiments.next, { db with
      experiments := db.experiments.insert ⟨functionId, candidateProvider, candidateModel, canaryPercent, .running,
        sample, baseline, some proposedByAgentId, reason, none⟩ })

def applyFunctionExperimentPromote (env : Env) (db : Db) (experimentId : Nat) : Except String Db :=
  match db.experiments.get? experimentId with
  | none => .error "candidate provider is no longer enabled -- fix it or reject this experiment instead"
  | some experiment =>
    if !db.providers.exists? fun _ provider =>
        provider.name == experiment.candidateProvider && provider.isEnabled then
      .error "candidate provider is no longer enabled -- fix it or reject this experiment instead"
    else
      .ok { db with
        functions := db.functions.modify experiment.functionId fun function =>
          { function with
            llmOverride := some (.build [("provider", .str experiment.candidateProvider),
              ("model", .str experiment.candidateModel)])
            updatedAt := env.now }
        experiments := db.experiments.modify experimentId fun row =>
          { row with status := .promoted, decidedAt := some env.now } }

def applyFunctionExperimentReject (env : Env) (db : Db) (experimentId : Nat) : Db :=
  { db with
    experiments := db.experiments.modify experimentId fun row =>
      { row with status := .rejected, decidedAt := some env.now } }

/-! ### Functions -/

private def sameLetter (a b : Char) : Bool := a.toLower == b.toLower

/-- The words of a phrase one after another, with blanks between them. -/
private def phraseAt (pg : Pg) : List (List Char) → List Char → Bool
  | [], _ => true
  | word :: rest, text =>
    if (text.take word.length).zipWith sameLetter word |>.all id then
      if word.length ≤ text.length then
        let after := text.drop word.length
        match rest with
        | [] => !after.head?.any pg.wordChar
        | _ :: _ => after.head?.any pg.spaceChar && phraseAt pg rest (after.dropWhile pg.spaceChar)
      else false
    else false

/-- A case-insensitive match of `\y`-delimited words somewhere in the text. -/
private def hasPhrase (pg : Pg) (words : List (List Char)) : Bool → List Char → Bool
  | _, [] => false
  | inWord, c :: rest => (!inWord && phraseAt pg words (c :: rest)) || hasPhrase pg words (pg.wordChar c) rest

def mentions (pg : Pg) (words : List String) (body : String) : Bool :=
  hasPhrase pg (words.map String.toList) false body.toList

def validateFunctionBody (pg : Pg) (body : Option String) : Except String Unit :=
  match body with
  | none => .error "function body is required"
  | some body =>
    if body.length = 0 then .error "function body is required"
    else if 20000 < body.length then .error "function body is too long (max 20000 characters)"
    else if mentions pg ["SECURITY", "DEFINER"] body then .error "function body may not declare SECURITY DEFINER"
    else if mentions pg ["SET", "ROLE"] body || mentions pg ["SET", "SESSION", "ROLE"] body ||
        mentions pg ["RESET", "ROLE"] body then
      .error "function body may not change role"
    else .ok ()

/-- `^[a-z][a-z0-9_]{0,62}$`. -/
def isFunctionName (name : String) : Bool :=
  match name.toList with
  | [] => false
  | first :: rest => first.isLower && rest.length ≤ 62 && rest.all plainChar

/-- `fn_create_function` with the handler `plpgsql`. -/
def fnCreateFunction (env : Env) (db : Db) (name description body : Option String) (paramSchema : Json)
    (createdByAgentId : Option Nat) : Except String (Json × Db) :=
  let name := env.pg.lower (btrim (name.getD ""))
  if !isFunctionName name then .error "function name must use lowercase letters, digits, and underscores"
  else if (nonEmpty (description.map btrim)).isNone then .error "function description is required"
  else match validateFunctionBody env.pg body with
    | .error message => .error message
    | .ok () =>
      if db.functions.exists? fun _ function => function.name == name then
        .error "duplicate key value violates unique constraint \"functions_name_key\""
      else
        let functionId := db.functions.next
        let db := { db with
          functions := db.functions.insert ⟨name, btrim (description.getD ""), .plpgsql, .emptyObj, body, paramSchema,
            .pending, none, createdByAgentId, true, none, none, env.now⟩ }
        .ok (.build [("ok", .bool true), ("function_id", idJson functionId)],
          db.audit "functions.create" (.build [("function_id", idJson functionId), ("name", .str name),
            ("handler", .str "plpgsql")]))

def fnUpdateFunction (env : Env) (db : Db) (functionId : Nat) (description body : Option String)
    (paramSchema : Option Json) : Except String (Json × Db) :=
  match db.functions.get? functionId with
  | none => .error "function not found"
  | some function =>
    if function.handler ≠ .plpgsql then
      .error "only a plpgsql function can be edited -- http_get is fixed at creation"
    else match (if body.isSome then validateFunctionBody env.pg body else .ok ()) with
      | .error message => .error message
      | .ok () =>
        let db := { db with
          functions := db.functions.modify functionId fun row =>
            { row with
              description := (nonEmpty (description.map btrim)).getD row.description
              body := body.or row.body
              paramSchema := paramSchema.getD row.paramSchema
              buildStatus := if body.isSome then .pending else row.buildStatus
              updatedAt := env.now } }
        .ok (.build [("ok", .bool true), ("function_id", idJson functionId)],
          db.audit "functions.update" (.build [("function_id", idJson functionId)]))

end Allgres
