import Allgres.Dashboard.Endpoints
import Allgres.Complete

/-! The listings of the configuration: agents, proposals, grants, projects, providers,
connections, procedures, functions and schedules. -/

namespace Allgres

open Relational Jsonb Sql

/-! ### Casts of a request's fields -/

/-- `(p_request->>key)::uuid`. -/
def uuidArg (request : Json) (key : String) : Except String (Option Nat) :=
  castOr "uuid" toUuid (request.getText? key)

/-- `NULLIF(p_request->>key, '')::uuid`. -/
def optUuidArg (request : Json) (key : String) : Except String (Option Nat) := castUuid (request.getText? key)

def intArg (request : Json) (key : String) : Except String (Option Int) := castInt (request.getText? key)

def optIntArg (request : Json) (key : String) : Except String (Option Int) :=
  castInt (nonEmpty (request.getText? key))

def boolArg (request : Json) (key : String) : Except String (Option Bool) := castBoolean (request.getText? key)

def numericArg (env : WebEnv) (request : Json) (key : String) : Except String (Option ℚ) :=
  castOr "numeric" env.numericIn (request.getText? key)

def optNumericArg (env : WebEnv) (request : Json) (key : String) : Except String (Option ℚ) :=
  castOr "numeric" env.numericIn (nonEmpty (request.getText? key))

def optTimeArg (env : WebEnv) (request : Json) (key : String) : Except String (Option Time) :=
  castOr "timestamp with time zone" env.pg.timestamptzIn (nonEmpty (request.getText? key))

/-- `LEAST(GREATEST(COALESCE((p_request->>'limit')::int, fallback), 1), most)`. -/
def limitArg (request : Json) (fallback most : Int) : Except String Nat :=
  (intArg request "limit").map fun limit => (min (max (limit.getD fallback) 1) most).toNat

/-! ### Rows as they are printed -/

def listing (key : String) (rows : List Json) : Json := .build [("ok", .bool true), (key, .arr rows)]

/-- `ORDER BY key`, in the collation of the database. -/
def byText {α : Type} (env : WebEnv) (key : α → String) (rows : List α) : List α :=
  rows.insertionSort fun a b => env.textBefore (key a) (key b)

/-- `ORDER BY time DESC`. -/
def newest {α : Type} (time : α → Time) (rows : List α) : List α :=
  rows.insertionSort fun a b => time b ≤ time a

/-- `NOT LIKE 'selftest%'`. -/
def notSelftest (text : String) : Bool := !text.startsWith "selftest"

/-- `v_scope IS NULL OR agent = ANY(v_scope)`. -/
def inScope (scope : Option (List Nat)) (agentId : Nat) : Bool := scope.all fun agents => agents.contains agentId

def agentName (db : Db) (agentId : Nat) : Json := .optStr ((db.agents.get? agentId).map AgentRow.name)

def optAgentName (db : Db) (agentId : Option Nat) : Json :=
  .optStr ((agentId.bind db.agents.get?).map AgentRow.name)

def ResourceType.text : ResourceType → String
  | view => "view"
  | function => "function"
  | agent => "agent"
  | httpHost => "http_host"
  | procedure => "procedure"

def ProposalKind.text : ProposalKind → String
  | policyChange => "policy_change"
  | createAgent => "create_agent"
  | functionOverride => "function_override"
  | createFunction => "create_function"
  | updateFunction => "update_function"

def FixKind.text : FixKind → String
  | revokePermission => "revoke_permission"
  | deactivateAgent => "deactivate_agent"

def ExperimentStatus.text : ExperimentStatus → String
  | running => "running"
  | promoted => "promoted"
  | rejected => "rejected"

def DeviceStatus.text : DeviceStatus → String
  | starting => "starting"
  | awaitingUser => "awaiting_user"
  | connected => "connected"
  | denied => "denied"
  | expired => "expired"
  | error => "error"

/-! ### Agents and their policies -/

def limitsJson (policy : PolicyRow) : List (String × Json) :=
  [("system_prompt", .str policy.systemPrompt), ("max_steps", .ofNat policy.maxSteps),
    ("max_retries", .ofNat policy.maxRetries), ("llm_config", policy.llmConfig),
    ("generation", .ofNat policy.generation), ("max_concurrent_tasks", .ofNat policy.maxConcurrentTasks),
    ("max_turn_seconds", .ofOption .ofNat policy.maxTurnSeconds),
    ("max_delegation_depth", .ofNat policy.maxDelegationDepth), ("max_session_tasks", .ofNat policy.maxSessionTasks)]

/-- The grants of one agent, by type and reference. -/
def grantsOf (env : WebEnv) (db : Db) (agentId : Option Nat) : List (Nat × PermissionRow) :=
  let held := db.permissions.select fun _ grant => some grant.agentId == agentId
  byText env (fun grant => grant.2.resourceType.text) (byText env (fun grant => grant.2.resourceRef) held)

def grantJson (grant : PermissionRow) : List (String × Json) :=
  [("type", .str grant.resourceType.text), ("ref", .str grant.resourceRef)]

/-- The agents with their policies, by name. -/
def policedAgents (env : WebEnv) (db : Db) (shown : Nat → AgentRow → Bool) : List (Nat × AgentRow × PolicyRow) :=
  byText env (fun row => row.2.1.name) ((db.agents.select shown).filterMap fun agent =>
    (db.policyOf agent.1).map fun policy => (agent.1, agent.2, policy))

def agentsPage (env : WebEnv) (site : Site) : Json :=
  let db := site.db
  listing "agents" ((policedAgents env db fun _ agent => notSelftest agent.name).map fun (agentId, agent, policy) =>
    .build ([("agent_id", idJson agentId), ("name", .str agent.name), ("is_active", .bool agent.isActive),
      ("is_system", .bool agent.isSystem), ("parent_agent_id", optIdJson agent.parentAgentId),
      ("parent_name", optAgentName db agent.parentAgentId), ("autonomy_level", .str agent.autonomyLevel.text),
      ("agent_config", agent.agentConfig),
      ("permissions", .arr ((grantsOf env db (some agentId)).map fun grant => .build (grantJson grant.2)))] ++
      limitsJson policy))

def policyHistoryPage (env : WebEnv) (site : Site) (agentId : Option Nat) : Json :=
  let filed := site.db.policyHistory.select fun _ old => some old.policy.agentId == agentId
  listing "history" ((newest (fun old => old.2.policy.generation) filed).map fun (versionId, old) =>
    .build ([("version_id", idJson versionId),
      ("success_rate_at_change", .ofOption env.numericJson old.successRateAtChange)] ++ limitsJson old.policy))

/-- The tasks that count for the success rate of one policy generation. -/
def ratedTasks (db : Db) (agentId generation limit : Nat) : List (Nat × TaskRow) :=
  let ran := db.tasks.select fun _ task =>
    task.agentId == agentId && task.parentTaskId.isNone && task.policyGeneration == some generation &&
      (db.sessions.get? task.sessionId).any fun session => notSelftest session.goal
  (ran.insertionSort fun a b => b.2.createdAt ≤ a.2.createdAt).take (max 1 limit)

/-- The success rate of a generation, and the number of tasks that it is taken from. -/
def sampledRate (db : Db) (agentId generation : Nat) : Option ℚ × Nat :=
  let recent := ratedTasks db agentId generation 20
  let decided := recent.countP fun task => task.2.status == .completed || task.2.status == .failed
  (successRate (recent.countP fun task => task.2.status == .completed) decided, decided)

/-- What the last change has done to the success rate, with five tasks at least on either side. -/
def changeVerdict (current before : Option ℚ × Nat) : String :=
  if current.2 < 5 ∨ before.2 < 5 then "insufficient_data"
  else if before.1.getD 0 < current.1.getD 0 then "improved"
  else if current.1.getD 0 < before.1.getD 0 then "regressed"
  else "unchanged"

def evaluation (env : WebEnv) (verdict : String) (current before : Option ℚ × Nat) (generation : Json) : Json :=
  .build [("ok", .bool true), ("verdict", .str verdict),
    ("current_success_rate", .ofOption env.numericJson current.1), ("current_sample_size", .ofNat current.2),
    ("success_rate_before_last_change", .ofOption env.numericJson before.1),
    ("before_sample_size", .ofNat before.2), ("min_samples_required", .ofNat 5),
    ("compared_to_generation", generation)]

def fnEvaluateLastChange (env : WebEnv) (db : Db) (agentId : Option Nat) : Except String Json :=
  match agentId.filter fun id => (db.agents.get? id).isSome with
  | none => .error "agent not found"
  | some agentId => match db.generationOf agentId with
    | none => .ok (evaluation env "no_change_recorded_yet" (none, 0) (none, 0) .null)
    | some generation =>
      let compared := Json.num (generation - 1) 0
      if db.policyHistory.exists? fun _ old =>
          old.policy.agentId == agentId && old.policy.generation + 1 == generation then
        let current := sampledRate db agentId generation
        let before := sampledRate db agentId (generation - 1)
        .ok (evaluation env (changeVerdict current before) current before compared)
      else .ok (evaluation env "no_change_recorded_yet" (none, 0) (none, 0) compared)

def agentsMinePage (env : WebEnv) (site : Site) (userId : Nat) (user : UserRow) : Json :=
  let mine := policedAgents env site.db fun agentId agent =>
    agent.isActive && (user.role == .admin || site.assignments.contains (userId, agentId))
  listing "agents" (mine.map fun (agentId, agent, policy) =>
    .build [("agent_id", idJson agentId), ("name", .str agent.name),
      ("provider", .optStr (policy.llmConfig.getText? "provider")),
      ("model", .optStr (policy.llmConfig.getText? "model"))])

/-! ### Proposals, fixes and experiments -/

/-- `NOT (p_request ? key) OR column = p_request->>key`. -/
def matchesField (request : Json) (key value : String) : Bool :=
  !request.hasKey key || request.getText? key == some value

def proposalsPage (site : Site) (request : Json) (scope : Option (List Nat)) (agentId : Option Nat) : Json :=
  let db := site.db
  let shown := db.proposals.select fun proposalId proposal =>
    (!request.hasKey "agent_id" || some proposal.agentId == agentId) &&
      matchesField request "status" (site.proposalDecision proposalId).status.text &&
      notSelftest (proposal.reason.getD "") &&
      (scope.isNone || proposal.kind == .policyChange &&
        inScope scope (proposal.targetAgentId.getD proposal.agentId)) && (db.agents.get? proposal.agentId).isSome
  listing "proposals" (shown.reverse.map fun (proposalId, proposal) =>
    let decision := site.proposalDecision proposalId
    .build [("proposal_id", idJson proposalId), ("agent_id", idJson proposal.agentId),
      ("agent", agentName db proposal.agentId), ("kind", .str proposal.kind.text),
      ("target_agent_id", optIdJson proposal.targetAgentId), ("target_agent", optAgentName db proposal.targetAgentId),
      ("task_id", optIdJson proposal.taskId), ("proposed_changes", proposal.proposedChanges),
      ("reason", .optStr proposal.reason), ("base_generation", .ofNat proposal.baseGeneration),
      ("status", .str decision.status.text), ("decided_reply", .optStr decision.decidedReply)])

def fixesPage (site : Site) (request : Json) (scope : Option (List Nat)) : Json :=
  let db := site.db
  let shown := db.fixes.select fun fixId fix =>
    matchesField request "status" (site.fixDecision fixId).status.text && notSelftest (fix.reason.getD "") &&
      inScope scope fix.targetAgentId && (db.agents.get? fix.agentId).isSome && (db.agents.get? fix.targetAgentId).isSome
  listing "fixes" (shown.reverse.map fun (fixId, fix) =>
    let decision := site.fixDecision fixId
    .build [("fix_id", idJson fixId), ("agent_id", idJson fix.agentId), ("agent", agentName db fix.agentId),
      ("fix_kind", .str fix.fixKind.text), ("target_agent_id", idJson fix.targetAgentId),
      ("target_agent", agentName db fix.targetAgentId), ("detail", fix.detail), ("reason", .optStr fix.reason),
      ("status", .str decision.status.text), ("decided_reply", .optStr decision.decidedReply)])

def experimentsPage (env : WebEnv) (site : Site) (request : Json) : Json :=
  let db := site.db
  let shown := db.experiments.select fun _ experiment =>
    matchesField request "status" experiment.status.text && (db.functions.get? experiment.functionId).isSome
  listing "experiments" (shown.reverse.map fun (experimentId, experiment) =>
    let calls := db.outboundCalls.select fun _ call =>
      call.body.experimentId == some experimentId && call.body.outcome.isSome
    let won := calls.countP fun call => call.2.body.outcome == some .success
    .build [("experiment_id", idJson experimentId), ("function_id", idJson experiment.functionId),
      ("function_name", .optStr ((db.functions.get? experiment.functionId).map FunctionRow.name)),
      ("candidate_provider", .str experiment.candidateProvider), ("candidate_model", .str experiment.candidateModel),
      ("canary_percent", .num experiment.canaryPercent 0), ("status", .str experiment.status.text),
      ("min_sample_size", .num experiment.minSampleSize 0),
      ("baseline_success_rate", .ofOption env.numericJson experiment.baselineSuccessRate),
      ("sample_size", .ofNat calls.length), ("success_count", .ofNat won),
      ("candidate_success_rate", .ofOption env.numericJson (successRate won calls.length)),
      ("reason", .optStr experiment.reason), ("decided_at", .ofOption env.timeJson experiment.decidedAt)])

/-! ### Grants and projects -/

def permissionsPage (env : WebEnv) (site : Site) (agentId : Option Nat) : Json :=
  listing "permissions" ((grantsOf env site.db agentId).map fun (permissionId, grant) =>
    .build (("permission_id", idJson permissionId) :: grantJson grant))

def permissionOptions (env : WebEnv) (site : Site) : Json :=
  let agents := (site.db.agents.select fun _ agent => agent.isActive).map fun agent => agent.2.name
  let procedures := (site.db.procedures.select fun _ procedure => procedure.isActive).map fun row => row.2.name
  .build [("ok", .bool true), ("views", .arr (env.publicViews.map .str)),
    ("functions", .arr [.str "http_get", .str "http_request"]),
    ("agents", .arr ((byText env id agents).map .str)), ("procedures", .arr ((byText env id procedures).map .str)),
    ("http_hosts", .str "free text -- any hostname the outbound guard allows")]

def allowlistPage (env : WebEnv) (site : Site) : Json :=
  listing "allowlist" ((byText env id site.db.sqlSandboxAllowlist).map .str)

def projectsPage (env : WebEnv) (site : Site) : Json :=
  let named := byText env (fun row => (site.projectInfo row.1).name) site.db.projects.rows
  listing "projects" (named.map fun (projectId, project) =>
    let info := site.projectInfo projectId
    .build [("project_id", idJson projectId), ("name", .str info.name), ("description", .optStr info.description),
      ("is_active", .bool project.isActive), ("agent_id", optIdJson info.agentId),
      ("agent", optAgentName site.db info.agentId), ("preset_prompt", .optStr project.presetPrompt)])

/-! ### Accounts -/

def usersPage (env : WebEnv) (site : Site) : Json :=
  let users := site.users.rows.insertionSort fun a b => a.2.createdAt ≤ b.2.createdAt
  listing "users" (users.map fun (userId, user) =>
    .build [("user_id", idJson userId), ("username", .str user.username), ("role", .str user.role.text),
      ("is_active", .bool user.isActive), ("created_at", env.timeJson user.createdAt)])

def assignmentsPage (site : Site) (userId : Option Nat) : Json :=
  listing "agent_ids" ((site.assignments.filter fun row => some row.1 == userId).map fun row => idJson row.2)

def assignedUsersPage (site : Site) (agentId : Option Nat) : Json :=
  listing "user_ids" ((site.assignments.filter fun row => some row.2 == agentId).map fun row => idJson row.1)

/-! ### Providers and connections -/

def hasText (text : Option String) : Bool := (nonEmpty text).isSome

def settingsPage (env : WebEnv) (site : Site) : Json :=
  let db := site.db
  let shown := byText env (fun row => row.2.name) (db.providers.select fun _ provider => notSelftest provider.name)
  .build [("ok", .bool true), ("secret_storage", .str env.secretStorageMode),
    ("providers", .arr (shown.map fun (providerId, provider) =>
      let columns := site.oauthColumns providerId
      let secret (holds : LlmSecretRow → Bool) : Json :=
        .bool (db.secrets.exists? fun _ row => row.providerId == providerId && holds row)
      .build [("provider_id", idJson providerId), ("name", .str provider.name), ("kind", .str provider.kind.text),
        ("purpose", .str provider.purpose.text), ("embedding_model", .optStr provider.embeddingModel),
        ("base_url", .str provider.baseUrl), ("is_enabled", .bool provider.isEnabled),
        ("allow_private_network", .bool provider.allowPrivateNetwork),
        ("response_format_json_object", .bool provider.responseFormatJsonObject),
        ("oauth_auth_url", .optStr columns.authUrl),
        ("oauth_flow", .str (if columns.deviceCode then "device_code" else "authorization_code")),
        ("oauth_device_url", .optStr columns.deviceUrl), ("oauth_token_url", .optStr provider.oauthTokenUrl),
        ("oauth_client_id", .optStr provider.oauthClientId), ("oauth_scope", .optStr columns.scope),
        ("has_secret", secret fun row => hasText row.apiKey || hasText row.accessToken || hasText row.oauthClientSecret),
        ("oauth_connected", secret fun row =>
          row.accessToken.isSome && row.expiresAt.all fun time => decide (env.now < time))]))]

def pricesPage (env : WebEnv) (site : Site) : Json :=
  let priced := site.db.prices.filterMap fun price =>
    (site.db.providers.get? price.providerId).map fun provider => (provider, price)
  let ordered := byText env (fun row => row.1.name) (byText env (fun row => row.2.model) priced)
  listing "prices" (ordered.map fun (provider, price) =>
    .build [("provider_id", idJson price.providerId), ("provider", .str provider.name), ("model", .str price.model),
      ("input_price_per_1k", env.numericJson price.inputPricePer1k),
      ("output_price_per_1k", env.numericJson price.outputPricePer1k)])

def connectionsPage (env : WebEnv) (site : Site) : Json :=
  listing "connections" ((byText env (fun row => row.2.name) site.db.connections.rows).map fun (connectionId, connection) =>
    .build [("connection_id", idJson connectionId), ("name", .str connection.name),
      ("base_url", .str connection.baseUrl), ("auth_kind", .str connection.authKind.text),
      ("is_enabled", .bool connection.isEnabled), ("allow_private_network", .bool connection.allowPrivateNetwork),
      ("has_secret", .bool (site.db.connectionSecrets.any fun secret => secret.1 == connectionId && hasText secret.2))])

def fnOauthDeviceStatus (env : WebEnv) (db : Db) (sessionId : Option Nat) : Except String Json :=
  match sessionId.bind fun id => (db.oauthDeviceSessions.get? id).map fun row => (id, row) with
  | none => .error "oauth device session not found"
  | some (sessionId, device) =>
    .ok (Json.stripNulls (.build [("ok", .bool true), ("session_id", idJson sessionId),
      ("provider_id", idJson device.providerId), ("status", .str device.status.text),
      ("expires_at", .ofOption env.timeJson device.expiresAt), ("error", .optStr device.error)]))

def fnProviderProbeStatus (db : Db) (callId : Option Nat) : Except String Json :=
  match callId.bind fun id => (db.providerProbes.get? id).map fun row => (id, row) with
  | none => .error "provider probe not found"
  | some (callId, probe) =>
    .ok (.build [("ok", .bool true), ("call_id", idJson callId), ("status", .str probe.status.text)])

/-! ### Procedures, functions and schedules -/

def procedureJson (procedureId : Nat) (procedure : ProcedureRow) : Json :=
  .build [("procedure_id", idJson procedureId), ("name", .str procedure.name), ("content", .str procedure.content),
    ("body", .optStr procedure.body), ("build_status", .str procedure.buildStatus.text),
    ("build_error", .optStr procedure.buildError), ("generation", .ofNat procedure.generation),
    ("is_active", .bool procedure.isActive)]

def proceduresPage (env : WebEnv) (site : Site) : Json :=
  listing "procedures" ((byText env (fun row => row.2.name) site.db.procedures.rows).map fun (procedureId, procedure) =>
    (procedureJson procedureId procedure).concat (.build [("updated_at", env.timeJson procedure.updatedAt)]))

def procedurePage (site : Site) (procedureId : Option Nat) : Json :=
  let filed := site.db.procedureHistory.select fun _ old => some old.procedureId == procedureId
  .build [("ok", .bool true),
    ("procedure", (procedureId.bind fun id => (site.db.procedures.get? id).map (procedureJson id)).getD .null),
    ("history", .arr ((newest (fun old => old.2.generation) filed).map fun (_, old) =>
      .build [("generation", .ofNat old.generation), ("content", .str old.content), ("body", .optStr old.body)]))]

def functionsPage (env : WebEnv) (site : Site) : Json :=
  let db := site.db
  listing "functions" ((byText env (fun row => row.2.name) db.functions.rows).map fun (functionId, function) =>
    let bound := db.bindings.filterMap fun binding =>
      if binding.2 = functionId then (db.procedures.get? binding.1).map ProcedureRow.name else none
    .build [("function_id", idJson functionId), ("name", .str function.name),
      ("description", .str function.description), ("handler", .str function.handler.text),
      ("args_template", function.argsTemplate), ("body", .optStr function.body),
      ("param_schema", function.paramSchema), ("mcp_connection_id", optIdJson function.mcpConnectionId),
      ("build_status", .str function.buildStatus.text), ("build_error", .optStr function.buildError),
      ("is_active", .bool function.isActive), ("procedures", .arr ((byText env id bound).map .str))])

def schedulesPage (env : WebEnv) (site : Site) : Json :=
  let db := site.db
  let shown := db.schedules.select fun _ schedule => (db.agents.get? schedule.agentId).isSome
  listing "schedules" ((byText env (fun row => row.2.name) shown).map fun (scheduleId, schedule) =>
    .build [("schedule_id", idJson scheduleId), ("name", .str schedule.name), ("agent_id", idJson schedule.agentId),
      ("agent", agentName db schedule.agentId), ("goal", .str schedule.goal),
      ("interval_seconds", .ofNat schedule.intervalSeconds), ("next_run_at", env.timeJson schedule.nextRunAt),
      ("is_active", .bool schedule.isActive), ("max_runs", .ofOption .ofNat schedule.maxRuns),
      ("run_count", .ofNat schedule.runCount), ("ends_at", .ofOption env.timeJson schedule.endsAt),
      ("last_run_at", .ofOption env.timeJson schedule.lastRunAt),
      ("last_session_id", optIdJson schedule.lastSessionId),
      ("max_cost_usd", .ofOption env.numericJson schedule.maxCostUsd),
      ("spent_cost_usd", env.numericJson schedule.spentCostUsd)])

end Allgres
