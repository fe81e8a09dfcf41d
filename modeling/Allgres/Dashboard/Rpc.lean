import Allgres.Dashboard.Records
import Allgres.Config
import Allgres.Schedule

/-! `dashboard_rpc`, the one function that the web server calls. -/

namespace Allgres

open Relational Jsonb Sql

/-! ### Actions

The labels of the `CASE` of `dashboard_rpc`, by the check with which their branch begins. -/

/-- Branches that only read and check nothing. -/
inductive OpenPage
  | overview | agentsList | policyHistory | agentsEvaluate | permissionsList | permissionsOptions | allowlistList
  | projectsList | authMe | auditList | settingsGet | connectionsList | proceduresList | proceduresGet
  | functionsList | schedulesList | events
  deriving DecidableEq

/-- Branches that only read, after `require_admin_if_accounts_exist`. -/
inductive AdminPage
  | experimentsList | sessionsList | sessionsGet | tasksList | logsList | pricesList | oauthDeviceStatus | probeStatus
  deriving DecidableEq

/-- Branches that change the configuration, after `require_admin_if_accounts_exist`. -/
inductive ConfigAction
  | agentsSetAutonomy | agentsSetPreset | agentsBulkSetModel | agentsCreate | allowlistAdd | allowlistRemove
  | projectsCreate | projectsUpdate | sqlExecute | providerUpdate | providerCreate | pricesSet | pricesDelete
  | connectionsCreate | connectionsUpdate | connectionsDelete | proceduresCreate | proceduresUpdate
  | proceduresRollback | functionsCreate | functionsUpdate | functionsBind | schedulesCreate | schedulesUpdate
  | schedulesDelete | schedulesRunNow | oauthStart | oauthDeviceStart | oauthCallback | probeStart
  deriving DecidableEq

/-- Branches that change what an agent is, after `forbid_system_agent_edit` and
`require_admin_if_accounts_exist`. -/
inductive IdentityAction
  | agentsUpdate | policyRollback | permissionsGrant | permissionsRevoke
  deriving DecidableEq

/-- Branches after `require_admin`. -/
inductive AccountAction
  | usersCreate | usersList | usersSetActive | usersSetRole | assignmentsSet | assignmentsList | assignmentsForAgent
  | assignmentsToggle
  deriving DecidableEq

/-- Branches in the scope of `visible_agent_ids`. -/
inductive ScopedAction
  | proposalsList | proposalsDecide | fixesList | fixesDecide | memoriesList | historySearch | approvalsList
  | approvalsDecide
  deriving DecidableEq

/-- Branches on one agent, after `require_agent_access_if_accounts_exist`. -/
inductive AgentAction
  | run | sessionsCancel | sessionsContinue | memoriesCreate | memoriesRemove
  deriving DecidableEq

/-- Branches of a user who is logged in; the functions that they call check the token. -/
inductive UserAction
  | projectChatSend | projectChatHistory | agentsMine | agentsSetMyModel | chatSend | chatHistory | messengerPost
  | messengerList
  deriving DecidableEq

inductive RpcAction
  | page (action : OpenPage)
  | adminPage (action : AdminPage)
  | config (action : ConfigAction)
  | identity (action : IdentityAction)
  | account (action : AccountAction)
  | visible (action : ScopedAction)
  | onAgent (action : AgentAction)
  | user (action : UserAction)
  | authLogin
  | authLogout
  | selftest
  deriving DecidableEq

/-- The labels with their actions, in the order of the `CASE`. -/
def rpcActions : List (String × RpcAction) := [
  ("overview", .page .overview), ("agents.list", .page .agentsList),
  ("agents.set_autonomy", .config .agentsSetAutonomy),
  ("agents.set_function_override_autonomy_preset", .config .agentsSetPreset),
  ("agents.bulk_set_model", .config .agentsBulkSetModel), ("agents.create", .config .agentsCreate),
  ("agents.update", .identity .agentsUpdate), ("policy.history", .page .policyHistory),
  ("policy.rollback", .identity .policyRollback), ("agents.evaluate", .page .agentsEvaluate),
  ("proposals.list", .visible .proposalsList), ("proposals.decide", .visible .proposalsDecide),
  ("function_experiments.list", .adminPage .experimentsList), ("fixes.list", .visible .fixesList),
  ("fixes.decide", .visible .fixesDecide), ("permissions.list", .page .permissionsList),
  ("permissions.grant", .identity .permissionsGrant), ("permissions.revoke", .identity .permissionsRevoke),
  ("permissions.options", .page .permissionsOptions), ("allowlist.list", .page .allowlistList),
  ("allowlist.add", .config .allowlistAdd), ("allowlist.remove", .config .allowlistRemove),
  ("projects.list", .page .projectsList), ("projects.create", .config .projectsCreate),
  ("projects.update", .config .projectsUpdate), ("project_chat.send", .user .projectChatSend),
  ("project_chat.history", .user .projectChatHistory), ("run", .onAgent .run),
  ("sessions.cancel", .onAgent .sessionsCancel), ("sessions.continue", .onAgent .sessionsContinue),
  ("auth.login", .authLogin), ("auth.logout", .authLogout), ("auth.me", .page .authMe),
  ("users.create", .account .usersCreate), ("users.list", .account .usersList),
  ("users.set_active", .account .usersSetActive), ("users.set_role", .account .usersSetRole),
  ("assignments.set", .account .assignmentsSet), ("assignments.list", .account .assignmentsList),
  ("assignments.for_agent", .account .assignmentsForAgent), ("assignments.toggle", .account .assignmentsToggle),
  ("agents.mine", .user .agentsMine), ("agents.set_my_model", .user .agentsSetMyModel),
  ("chat.send", .user .chatSend), ("chat.history", .user .chatHistory), ("messenger.post", .user .messengerPost),
  ("messenger.list", .user .messengerList), ("sessions.list", .adminPage .sessionsList),
  ("sessions.get", .adminPage .sessionsGet), ("tasks.list", .adminPage .tasksList),
  ("logs.list", .adminPage .logsList), ("memories.list", .visible .memoriesList),
  ("memories.create", .onAgent .memoriesCreate), ("memories.remove", .onAgent .memoriesRemove),
  ("history.search", .visible .historySearch), ("audit.list", .page .auditList),
  ("settings.get", .page .settingsGet), ("sql.execute", .config .sqlExecute),
  ("provider.update", .config .providerUpdate), ("provider.create", .config .providerCreate),
  ("model_prices.list", .adminPage .pricesList), ("model_prices.set", .config .pricesSet),
  ("model_prices.delete", .config .pricesDelete), ("connections.list", .page .connectionsList),
  ("connections.create", .config .connectionsCreate), ("connections.update", .config .connectionsUpdate),
  ("connections.delete", .config .connectionsDelete), ("procedures.list", .page .proceduresList),
  ("procedures.get", .page .proceduresGet), ("procedures.create", .config .proceduresCreate),
  ("procedures.update", .config .proceduresUpdate), ("procedures.rollback", .config .proceduresRollback),
  ("functions.list", .page .functionsList), ("functions.create", .config .functionsCreate),
  ("functions.update", .config .functionsUpdate), ("functions.bind", .config .functionsBind),
  ("schedules.list", .page .schedulesList), ("schedules.create", .config .schedulesCreate),
  ("schedules.update", .config .schedulesUpdate), ("schedules.delete", .config .schedulesDelete),
  ("schedules.run_now", .config .schedulesRunNow), ("providers.oauth_start", .config .oauthStart),
  ("providers.oauth_device_start", .config .oauthDeviceStart),
  ("providers.oauth_device_status", .adminPage .oauthDeviceStatus),
  ("providers.oauth_callback", .config .oauthCallback), ("providers.probe_start", .config .probeStart),
  ("providers.probe_status", .adminPage .probeStatus), ("events", .page .events),
  ("approvals.list", .visible .approvalsList), ("approvals.decide", .visible .approvalsDecide),
  ("selftest", .selftest)]

/-- A missing id finds no row, and neither does the id that is issued next. -/
def keyOf {α : Type} (table : Table α) (id : Option Nat) : Nat := id.getD table.next

/-- What an action gives back: the answer and the tables. -/
abbrev Answer := Except String (Json × Site)

/-- An action that only reads. -/
def Site.answers (site : Site) (reply : Json) : Answer := .ok (reply, site)

/-- A function of the control plane whose answer is put together by the action. -/
def Site.performs (site : Site) (result : Except String (Json × Db)) : Except String Site :=
  result.map fun result => site.withDb result.2

/-! ### Agents and proposals -/

/-- `agents.update`. -/
def updateAgent (env : WebEnv) (site : Site) (request : Json) (agentId : Option Nat) : Answer := do
  let active ← boolArg request "is_active"
  let site ← if request.hasKey "is_active" then site.performs (setAgentActive site.db agentId active) else .ok site
  let site ← if request.hasKey "agent_config" then
      site.performs (fnSetAgentConfig site.db (keyOf site.db.agents agentId) (request.get? "agent_config"))
    else .ok site
  let maxSteps ← intArg request "max_steps"
  let maxRetries ← intArg request "max_retries"
  let maxConcurrentTasks ← intArg request "max_concurrent_tasks"
  let maxTurnSeconds ← intArg request "max_turn_seconds"
  let maxDelegationDepth ← intArg request "max_delegation_depth"
  let maxSessionTasks ← intArg request "max_session_tasks"
  let prompt := nonEmpty (request.getText? "system_prompt")
  let site ← site.performs (fnSetPolicyFields site.db agentId {
    prompt := prompt
    maxSteps := maxSteps
    maxRetries := maxRetries
    llmConfig := request.get? "llm_config"
    maxConcurrentTasks := maxConcurrentTasks
    maxTurnSeconds := maxTurnSeconds
    clearMaxTurnSeconds := request.hasKey "max_turn_seconds" && (request.getText? "max_turn_seconds").isNone
    maxDelegationDepth := maxDelegationDepth
    maxSessionTasks := maxSessionTasks })
  let site := if prompt.isSome then site.withDb (queueAgentEmbedding env.toEnv site.db (keyOf site.db.agents agentId))
    else site
  .ok (.build [("ok", .bool true), ("agent_id", optIdJson agentId)], site)

/-- A caller whose scope is restricted decides on changes of the policies in it. -/
def decidesProposal (site : Site) (scope : Option (List Nat)) (proposalId : Option Nat) : Bool :=
  scope.isNone || (proposalId.bind site.db.proposals.get?).any fun proposal =>
    proposal.kind == .policyChange && inScope scope (proposal.targetAgentId.getD proposal.agentId)

def decidesFix (site : Site) (scope : Option (List Nat)) (fixId : Option Nat) : Bool :=
  scope.isNone || (fixId.bind site.db.fixes.get?).any fun fix => inScope scope fix.targetAgentId

def decidesApproval (site : Site) (scope : Option (List Nat)) (approvalId : Option Nat) : Bool :=
  scope.isNone || ((approvalId.bind site.db.approvals.get?).bind fun approval => site.db.tasks.get? approval.taskId).any
    fun task => inScope scope task.agentId

/-! ### Projects, sessions and accounts -/

/-- `projects.update`. -/
def updateProject (site : Site) (request : Json) (projectId : Option Nat) : Answer := do
  let active ← boolArg request "is_active"
  let site ← if request.hasKey "is_active" then (fnSetProjectActive site projectId active).map Prod.snd else .ok site
  let agentId ← optUuidArg request "agent_id"
  let site ← if request.hasKey "agent_id" || request.hasKey "preset_prompt" then
      (fnSetProjectConfig site projectId agentId (request.getText? "preset_prompt")).map Prod.snd
    else .ok site
  .ok (.build [("ok", .bool true), ("project_id", optIdJson projectId)], site)

/-- The agent of the session, if there is one. -/
def sessionAgent (db : Db) (sessionId : Option Nat) : Option Nat :=
  (sessionId.bind db.sessions.get?).map SessionRow.agentId

def memoryAgent (db : Db) (memoryId : Option Nat) : Option Nat :=
  (memoryId.bind db.memories.get?).map MemoryRow.agentId

/-- A new task, as an action answers with it. -/
def Site.opened (site : Site) (created : Except String Created) : Answer :=
  created.map fun created => (created.toJson, site.withDb created.db)

def authMe : Option (Nat × UserRow) → Json
  | none => .build [("ok", .bool true), ("logged_in", .bool false)]
  | some (userId, user) => .build [("ok", .bool true), ("logged_in", .bool true), ("user_id", idJson userId),
      ("username", .str user.username), ("role", .str user.role.text)]

/-- The user behind the token, for the pages that need one. -/
def loggedIn (env : WebEnv) (site : Site) (token : Option String) : Except String (Nat × UserRow) :=
  match (sessionUser env site token).1 with
  | none => .error "not logged in"
  | some user => .ok user

def castUuids : List Json → Except String (List (Option Nat))
  | [] => .ok []
  | item :: rest => do
    let id ← castOr "uuid" toUuid item.asText
    let ids ← castUuids rest
    .ok (id :: ids)

/-- `ARRAY(SELECT a::uuid FROM jsonb_array_elements_text(…) a)`. -/
def uuidItems : Option Json → Except String (List (Option Nat))
  | none => .ok []
  | some (.arr items) => castUuids items
  | some (.obj _) => .error "cannot extract elements from an object"
  | some _ => .error "cannot extract elements from a scalar"

/-! ### The console, providers, connections and schedules -/

/-- `regexp_replace(text, ';\s*$', '')`. -/
def withoutTerminator (pg : Pg) (text : String) : String :=
  let chars := text.toList.rdropWhile pg.spaceChar
  if chars.getLast? = some ';' then String.ofList chars.dropLast else text

/-- The query by which the console asks for the columns and rows of a statement. -/
def consoleQuery (sql : String) : String :=
  "WITH __allgres_console_q AS (" ++ sql ++ ") SELECT jsonb_build_object(
         'cols', (SELECT jsonb_agg(key ORDER BY ord) FROM
           (SELECT to_json(t) AS j FROM __allgres_console_q t LIMIT 1) r,
           json_each(r.j) WITH ORDINALITY AS e(key, value, ord)),
         'rows', (SELECT jsonb_agg(vals) FROM (
           SELECT (SELECT jsonb_agg(value ORDER BY ord) FROM
             json_each(to_json(t)) WITH ORDINALITY AS e(key, value, ord)) AS vals
           FROM __allgres_console_q t
         ) x)
       )"

/-- The text that the console audits and runs. -/
def consoleText (pg : Pg) (sql : Option String) : String :=
  withoutTerminator pg (btrim (sql.getD ""))

/-- A statement that returns no rows fails as a query, which undoes the query, and is run on its own. -/
def runConsole (env : WebEnv) (site : Site) (sql : String) : Answer :=
  match env.executeQuery (consoleQuery sql) site with
  | .ok answer => .ok answer
  | .error _ => do
    let (rows, site) ← env.executeStatement sql site
    .ok (.build [("ok", .bool true), ("rows_affected", .ofNat rows)], site)

def fnAdminExecuteSql (env : WebEnv) (site : Site) (sql : Option String) : Answer :=
  if btrim (sql.getD "") = "" then .error "sql required"
  else
    let text := consoleText env.pg sql
    let site := site.audit "sql_console.execute" (.build [("sql", .str text)])
    match env.pg.rawParser text with
    | .error message => .error message
    | .ok trees =>
      -- Where there is no statement the count is NULL, and NULL is not unequal to one.
      if trees.length > 1 then
        .error ("exactly one SQL statement per run (found " ++ toString trees.length ++ ")")
      else runConsole env site text

/-- `provider.update`. -/
def updateProvider (env : WebEnv) (site : Site) (request : Json) : Answer := do
  let providerId ← uuidArg request "provider_id"
  let enabled ← boolArg request "is_enabled"
  let allow ← boolArg request "allow_private_network"
  let jsonObject ← boolArg request "response_format_json_object"
  let (_, site) ← fnSetProvider env site providerId {
    baseUrl := nonEmpty (request.getText? "base_url")
    enabled := enabled
    allowPrivateNetwork := allow
    oauthAuthUrl := nonEmpty (request.getText? "oauth_auth_url")
    oauthTokenUrl := nonEmpty (request.getText? "oauth_token_url")
    oauthClientId := nonEmpty (request.getText? "oauth_client_id")
    oauthClientSecret := nonEmpty (request.getText? "oauth_client_secret")
    embeddingModel := nonEmpty (request.getText? "embedding_model")
    responseFormatJsonObject := jsonObject }
  let site ← match nonEmpty (request.getText? "api_key") with
    | none => .ok site
    | some key => site.performs (fnSetProviderSecret env site.db providerId (some key))
  .ok (.build [("ok", .bool true), ("provider_id", optIdJson providerId)], site)

/-- `provider.create`. -/
def createProvider (env : WebEnv) (site : Site) (request : Json) : Answer := do
  let allow ← boolArg request "allow_private_network"
  let jsonObject ← boolArg request "response_format_json_object"
  site.onDb (fnCreateProvider env site.db {
    name := request.getText? "name"
    kind := request.getText? "kind"
    baseUrl := request.getText? "base_url"
    apiKey := nonEmpty (request.getText? "api_key")
    allowPrivateNetwork := allow.getD false
    purpose := (nonEmpty (request.getText? "purpose")).getD "chat"
    embeddingModel := nonEmpty (request.getText? "embedding_model")
    responseFormatJsonObject := jsonObject.getD true })

/-- `connections.create`. -/
def createConnection (env : WebEnv) (site : Site) (request : Json) : Answer := do
  let allow ← boolArg request "allow_private_network"
  site.onDb (fnCreateConnection env site.db (request.getText? "name") (request.getText? "base_url")
    ((nonEmpty (request.getText? "auth_kind")).getD "none") (nonEmpty (request.getText? "api_key")) (allow.getD false))

/-- `connections.update`. -/
def updateConnection (env : WebEnv) (site : Site) (request : Json) : Answer := do
  let connectionId ← uuidArg request "connection_id"
  let enabled ← boolArg request "is_enabled"
  let allow ← boolArg request "allow_private_network"
  let site ← site.performs (fnSetConnection env site.db connectionId (nonEmpty (request.getText? "base_url"))
    (nonEmpty (request.getText? "auth_kind")) enabled allow)
  let site ← match nonEmpty (request.getText? "api_key") with
    | none => .ok site
    | some key => site.performs (fnSetConnectionSecret env site.db connectionId (some key))
  .ok (.build [("ok", .bool true), ("connection_id", optIdJson connectionId)], site)

/-- `schedules.create`. -/
def createSchedule (env : WebEnv) (site : Site) (request : Json) : Answer := do
  let agentId ← uuidArg request "agent_id"
  let interval ← intArg request "interval_seconds"
  let maxRuns ← optIntArg request "max_runs"
  let endsAt ← optTimeArg env request "ends_at"
  let startAt ← optTimeArg env request "start_at"
  let maxCost ← optNumericArg env request "max_cost_usd"
  site.onDb (fnCreateSchedule env.toEnv site.db (request.getText? "name") (keyOf site.db.agents agentId)
    (request.getText? "goal") interval maxRuns endsAt startAt maxCost)

/-- `schedules.update`. -/
def updateSchedule (env : WebEnv) (site : Site) (request : Json) : Answer := do
  let scheduleId ← uuidArg request "schedule_id"
  let interval ← optIntArg request "interval_seconds"
  let active ← boolArg request "is_active"
  let maxRuns ← optIntArg request "max_runs"
  let clearMaxRuns ← boolArg request "clear_max_runs"
  let endsAt ← optTimeArg env request "ends_at"
  let clearEndsAt ← boolArg request "clear_ends_at"
  let maxCost ← optNumericArg env request "max_cost_usd"
  let clearMaxCost ← boolArg request "clear_max_cost_usd"
  site.onDb (fnSetSchedule site.db (keyOf site.db.schedules scheduleId) {
    goal := nonEmpty (request.getText? "goal")
    intervalSeconds := interval
    isActive := active
    maxRuns := maxRuns
    clearMaxRuns := clearMaxRuns
    endsAt := endsAt
    clearEndsAt := clearEndsAt
    maxCostUsd := maxCost
    clearMaxCostUsd := clearMaxCost })

/-! ### The self test -/

/-- `selftest_cleanup`: what an earlier run has left behind is hidden and ended. -/
def selftestCleanup (env : Env) (db : Db) : Db :=
  let fixture (session : SessionRow) : Bool :=
    (db.agents.get? session.agentId).any fun agent => agent.name.startsWith "selftest"
  let db := { db with
    sessions := db.sessions.update (fun _ session => fixture session && notSelftest session.goal)
      fun _ session => { session with goal := "selftest " ++ session.goal } }
  let hidden (sessionId : Nat) : Bool := (db.sessions.get? sessionId).any fun session => !notSelftest session.goal
  let live := db.tasks.select fun _ task => hidden task.sessionId && !task.status.terminal
  let db := live.foldl (fun db task => db.updateTask env task.1 fun row =>
    { row with status := .failed, error := some "selftest" }) db
  { db with
    sessions := db.sessions.update (fun _ session => !notSelftest session.goal && session.status == .opened)
      fun _ session => { session with status := .cancelled, completedAt := some env.now } }

/-- `DELETE FROM functions WHERE name = name`. The foreign key of `outbound_calls` stands in the way; those of
`function_calls`, `change_proposals`, `model_experiments` and `procedure_function_bindings` cascade. -/
def deleteFunction (db : Db) (name : String) : Except String Db :=
  let gone (functionId : Nat) : Bool := (db.functions.get? functionId).any fun function => function.name == name
  if db.outboundCalls.exists? fun _ call => call.body.procedureFunctionId.any gone then
    .error "update or delete on table \"functions\" violates foreign key constraint on table \"outbound_calls\""
  else .ok { db with
    functions := db.functions.delete fun functionId _ => gone functionId
    functionCalls := db.functionCalls.delete fun _ call => gone call.body.targetId
    proposals := db.proposals.delete fun _ proposal => proposal.targetFunctionId.any gone
    experiments := db.experiments.delete fun _ experiment => gone experiment.functionId
    bindings := db.bindings.filter fun binding => !gone binding.2 }

/-- The policy and the session with which the first test case starts. -/
def firstCase (env : WebEnv) (db : Db) : Except String Db :=
  let analyst := (db.agentNamed "analyst").map Prod.fst
  let db := { db with
    policies := db.policies.update (fun _ policy => some policy.agentId == analyst) fun _ policy =>
      { policy with systemPrompt := "PROMPT_A_" ++ env.epochText env.now } }
  (fnCreateSession env.toEnv db (keyOf db.agents analyst) (some "selftest policy") none none).map Created.db

/-- `fn_selftest` up to the call of `fn_next_step` in its first case. -/
def selftestStart (env : WebEnv) (db : Db) : Except String Db := do
  let db ← deleteFunction (selftestCleanup env.toEnv db) "selftest_fixed_get"
  let marker := some "selftest_audit_origin_marker"
  let (_, db) ← fnAllowlistAdd db marker
  firstCase env (fnAllowlistDel db marker).2

def fnSelftest (env : WebEnv) (site : Site) : Answer := do
  let db ← selftestStart env site.db
  env.selftestCases.run (site.withDb db)

/-! ### The branches -/

def openPage (env : WebEnv) (site : Site) (request : Json) : OpenPage → Except String Json
  | .overview => .ok (overviewPage env site)
  | .agentsList => .ok (agentsPage env site)
  | .policyHistory => (uuidArg request "agent_id").map (policyHistoryPage env site)
  | .agentsEvaluate => do
    let agentId ← uuidArg request "agent_id"
    fnEvaluateLastChange env site.db agentId
  | .permissionsList => (uuidArg request "agent_id").map (permissionsPage env site)
  | .permissionsOptions => .ok (permissionOptions env site)
  | .allowlistList => .ok (allowlistPage env site)
  | .projectsList => .ok (projectsPage env site)
  | .authMe => .ok (authMe (sessionUser env site (request.getText? "session_token")).1)
  | .auditList => (limitArg request 200 1000).map (auditPage env site)
  | .settingsGet => .ok (settingsPage env site)
  | .connectionsList => .ok (connectionsPage env site)
  | .proceduresList => .ok (proceduresPage env site)
  | .proceduresGet => (uuidArg request "procedure_id").map (procedurePage site)
  | .functionsList => .ok (functionsPage env site)
  | .schedulesList => .ok (schedulesPage env site)
  | .events => .ok (eventsPage env site)

def adminPage (env : WebEnv) (site : Site) (request : Json) : AdminPage → Except String Json
  | .experimentsList => .ok (experimentsPage env site request)
  | .sessionsList => do
    let projectId ← optUuidArg request "project_id"
    let count ← limitArg request 100 500
    .ok (sessionsPage env site request projectId count)
  | .sessionsGet => (uuidArg request "session_id").map (sessionPage env site)
  | .tasksList => (limitArg request 100 500).map (tasksPage env site)
  | .logsList => (limitArg request 150 1000).map (logsPage env site)
  | .pricesList => .ok (pricesPage env site)
  | .oauthDeviceStatus => do
    let sessionId ← uuidArg request "session_id"
    fnOauthDeviceStatus env site.db sessionId
  | .probeStatus => do
    let callId ← uuidArg request "call_id"
    fnProviderProbeStatus site.db callId

def configBranch (env : WebEnv) (site : Site) (request : Json) : ConfigAction → Answer
  | .agentsSetAutonomy => do
    let agentId ← uuidArg request "agent_id"
    site.onDb (fnSetAgentAutonomy site.db agentId (request.getText? "autonomy_level"))
  | .agentsSetPreset => do
    let agentId ← uuidArg request "agent_id"
    site.onDb (fnSetFunctionOverrideAutonomyPreset site.db (keyOf site.db.agents agentId) (request.getText? "preset"))
  | .agentsBulkSetModel =>
    site.onDb (fnBulkSetModel site.db (request.getText? "provider") (request.getText? "model"))
  | .agentsCreate =>
    site.onDb (fnCreateAgent env.toEnv site.db (request.getText? "name") (request.getText? "system_prompt"))
  | .allowlistAdd => site.onDb (fnAllowlistAdd site.db (request.getText? "ref"))
  | .allowlistRemove => site.onDb (.ok (fnAllowlistDel site.db (request.getText? "ref")))
  | .projectsCreate => do
    let agentId ← optUuidArg request "agent_id"
    fnCreateProject site (request.getText? "name") (request.getText? "description") agentId
      (request.getText? "preset_prompt")
  | .projectsUpdate => do
    let projectId ← uuidArg request "project_id"
    updateProject site request projectId
  | .sqlExecute => do
    let (result, site) ← fnAdminExecuteSql env site (request.getText? "sql")
    site.answers ((Json.build [("ok", .bool true)]).concat result)
  | .providerUpdate => updateProvider env site request
  | .providerCreate => createProvider env site request
  | .pricesSet => do
    let providerId ← uuidArg request "provider_id"
    let input ← numericArg env request "input_price_per_1k"
    let output ← numericArg env request "output_price_per_1k"
    site.onDb (fnSetModelPrice site.db providerId (request.getText? "model") input output)
  | .pricesDelete => do
    let providerId ← uuidArg request "provider_id"
    site.onDb (fnDeleteModelPrice site.db providerId (request.getText? "model"))
  | .connectionsCreate => createConnection env site request
  | .connectionsUpdate => updateConnection env site request
  | .connectionsDelete => do
    let connectionId ← uuidArg request "connection_id"
    site.onDb (fnDeleteConnection site.db connectionId)
  | .proceduresCreate =>
    site.onDb (fnCreateProcedure env.toEnv site.db (request.getText? "name") (request.getText? "content")
      (request.getText? "body"))
  | .proceduresUpdate => do
    let procedureId ← uuidArg request "procedure_id"
    let active ← boolArg request "is_active"
    site.onDb (fnSetProcedure env.toEnv site.db (keyOf site.db.procedures procedureId)
      (nonEmpty (request.getText? "content")) active (request.getText? "body"))
  | .proceduresRollback => do
    let procedureId ← uuidArg request "procedure_id"
    let generation ← intArg request "generation"
    site.onDb (rollbackProcedure env.toEnv site.db procedureId generation)
  | .functionsCreate => do
    let connectionId ← optUuidArg request "mcp_connection_id"
    site.onDb (fnCreateFunctionFields env.toEnv site.db (request.getText? "name") (request.getText? "description")
      (request.getText? "handler") ((request.get? "args_template").getD .emptyObj) (request.getText? "body")
      (request.get? "param_schema") connectionId)
  | .functionsUpdate => do
    let functionId ← uuidArg request "function_id"
    site.onDb (fnUpdateFunction env.toEnv site.db (keyOf site.db.functions functionId)
      (request.getText? "description") (request.getText? "body") (request.get? "param_schema"))
  | .functionsBind => do
    let procedureId ← uuidArg request "procedure_id"
    let functionId ← uuidArg request "function_id"
    site.onDb (fnBindProcedureFunction site.db procedureId functionId)
  | .schedulesCreate => createSchedule env site request
  | .schedulesUpdate => updateSchedule env site request
  | .schedulesDelete => do
    let scheduleId ← uuidArg request "schedule_id"
    site.onDb (fnDeleteSchedule site.db (keyOf site.db.schedules scheduleId))
  | .schedulesRunNow => do
    let scheduleId ← uuidArg request "schedule_id"
    site.onDb (fnRunScheduleNow env.toEnv site.db (keyOf site.db.schedules scheduleId))
  | .oauthStart => do
    let providerId ← uuidArg request "provider_id"
    fnOauthStart env site providerId (request.getText? "redirect")
  | .oauthDeviceStart => do
    let providerId ← uuidArg request "provider_id"
    fnOauthDeviceStart env site providerId
  | .oauthCallback =>
    fnOauthTokenRequest env site (request.getText? "state") (request.getText? "code") (request.getText? "redirect")
  | .probeStart => do
    let providerId ← uuidArg request "provider_id"
    site.onDb (fnProviderProbeStart env site.db providerId)

/-- The agent is cast again by the call itself, to the same id. -/
def identityBranch (env : WebEnv) (site : Site) (request : Json) (agentId : Option Nat) : IdentityAction → Answer
  | .agentsUpdate => updateAgent env site request agentId
  | .policyRollback => do
    let generation ← intArg request "generation"
    site.onDb (fnRollbackPolicy site.db agentId generation)
  | .permissionsGrant => site.onDb (fnGrantPermission site.db agentId (request.getText? "type") (request.getText? "ref"))
  | .permissionsRevoke =>
    site.onDb (.ok (revokePermission site.db agentId (request.getText? "type") (request.getText? "ref")))

def accountBranch (env : WebEnv) (site : Site) (request : Json) : AccountAction → Answer
  | .usersCreate => fnCreateUser env site (request.getText? "username") (request.getText? "password")
      ((nonEmpty (request.getText? "role")).getD "user")
  | .usersList => site.answers (usersPage env site)
  | .usersSetActive => do
    let userId ← uuidArg request "user_id"
    let active ← boolArg request "is_active"
    fnSetUserActive site userId active
  | .usersSetRole => do
    let userId ← uuidArg request "user_id"
    fnSetUserRole site userId (request.getText? "role")
  | .assignmentsSet => do
    let userId ← uuidArg request "user_id"
    let agentIds ← uuidItems (request.get? "agent_ids")
    fnSetUserAssignments site userId agentIds
  | .assignmentsList => do
    let userId ← uuidArg request "user_id"
    site.answers (assignmentsPage site userId)
  | .assignmentsForAgent => do
    let agentId ← uuidArg request "agent_id"
    site.answers (assignedUsersPage site agentId)
  | .assignmentsToggle => do
    let userId ← uuidArg request "user_id"
    let agentId ← uuidArg request "agent_id"
    let assigned ← boolArg request "assigned"
    fnSetUserAssignment site userId agentId assigned

def scopedBranch (env : WebEnv) (site : Site) (request : Json) (scope : Option (List Nat)) : ScopedAction → Answer
  | .proposalsList => do
    let agentId ← uuidArg request "agent_id"
    site.answers (proposalsPage site request scope agentId)
  | .proposalsDecide => do
    let proposalId ← uuidArg request "proposal_id"
    if !decidesProposal site scope proposalId then .error "proposal not visible to this user"
    else
      let approve ← boolArg request "approve"
      fnDecideProposal env site proposalId approve (nonEmpty (request.getText? "reply"))
  | .fixesList => site.answers (fixesPage site request scope)
  | .fixesDecide => do
    let fixId ← uuidArg request "fix_id"
    if !decidesFix site scope fixId then .error "fix not visible to this user"
    else
      let approve ← boolArg request "approve"
      fnDecideFix env site fixId approve (nonEmpty (request.getText? "reply"))
  | .memoriesList => do
    let agentId ← optUuidArg request "agent_id"
    let count ← limitArg request 200 1000
    site.answers (memoriesPage env site scope agentId count)
  | .historySearch =>
    match nonEmpty ((request.getText? "query").map btrim) with
    | none => site.answers (.build [("ok", .bool false), ("error", .str "query_required")])
    | some _ => do
      let agentId ← optUuidArg request "agent_id"
      let projectId ← optUuidArg request "project_id"
      let count ← limitArg request 30 200
      site.answers (historyPage env site ⟨(request.getText? "query").getD "", scope, agentId, projectId⟩ count)
  | .approvalsList => do
    let count ← limitArg request 100 500
    site.answers (approvalsPage env site scope count)
  | .approvalsDecide => do
    let approvalId ← uuidArg request "approval_id"
    if !decidesApproval site scope approvalId then .error "approval not visible to this user"
    else
      let accept ← boolArg request "accept"
      site.onDb (fnDecideApproval env.toEnv site.db (keyOf site.db.approvals approvalId) accept
        (nonEmpty (request.getText? "reply")))

/-- The row that the request names, and the agent that it belongs to. -/
def agentOfRequest (site : Site) (request : Json) : AgentAction → Except String (Option Nat × Option Nat)
  | .run | .memoriesCreate => (uuidArg request "agent_id").map fun agentId => (agentId, agentId)
  | .sessionsCancel | .sessionsContinue =>
    (uuidArg request "session_id").map fun sessionId => (sessionId, sessionAgent site.db sessionId)
  | .memoriesRemove => (uuidArg request "memory_id").map fun memoryId => (memoryId, memoryAgent site.db memoryId)

def agentBranch (env : WebEnv) (site : Site) (request : Json) (id : Option Nat) : AgentAction → Answer
  | .run => do
    let projectId ← optUuidArg request "project_id"
    site.opened (fnCreateSession env.toEnv site.db (keyOf site.db.agents id) (request.getText? "goal") projectId none)
  | .sessionsCancel =>
    site.onDb (fnCancelSession env.toEnv site.db (keyOf site.db.sessions id) (request.getText? "reason"))
  | .sessionsContinue =>
    site.opened (fnContinueSession env.toEnv site.db (keyOf site.db.sessions id) (request.getText? "message"))
  | .memoriesCreate =>
    site.onDb (fnRemember env.toEnv site.db id (request.getText? "content") (nonEmpty (request.getText? "memory_type"))
      (request.getText? "importance") (request.getText? "subject_id") (request.getText? "expires_in_days"))
  | .memoriesRemove => site.onDb (.ok (fnForget site.db id))

def userBranch (env : WebEnv) (site : Site) (request : Json) (token : Option String) : UserAction → Answer
  | .projectChatSend => do
    let projectId ← uuidArg request "project_id"
    let sent ← fnProjectChatSend env site token projectId (request.getText? "message")
    sent.site.answers sent.toJson
  | .projectChatHistory => do
    let projectId ← uuidArg request "project_id"
    fnProjectChatHistory env site token projectId
  | .agentsMine => do
    let (userId, user) ← loggedIn env site token
    site.answers (agentsMinePage env site userId user)
  | .agentsSetMyModel => do
    let agentId ← uuidArg request "agent_id"
    fnSetMyModel env site token agentId (nonEmpty (request.getText? "provider")) (nonEmpty (request.getText? "model"))
  | .chatSend => do
    let agentId ← uuidArg request "agent_id"
    let sent ← fnChatSend env site token agentId (request.getText? "message")
    sent.site.answers sent.toJson
  | .chatHistory => do
    let agentId ← uuidArg request "agent_id"
    fnChatHistory env site token agentId
  | .messengerPost => fnMessengerPost env site token (request.getText? "text")
  | .messengerList => do
    let _ ← loggedIn env site token
    let count ← limitArg request 200 1000
    site.answers (messengerPage env site count)

/-- One branch of the `CASE`. The tables are those that `session_user` has left. -/
def branch (env : WebEnv) (site : Site) (request : Json) (token : Option String) : RpcAction → Answer
  | .page action => (openPage env site request action).map fun reply => (reply, site)
  | .adminPage action => do
    let site ← requireAdminIfAccountsExist env site token
    let reply ← adminPage env site request action
    site.answers reply
  | .config action => do
    let site ← requireAdminIfAccountsExist env site token
    configBranch env site request action
  | .identity action => do
    let agentId ← uuidArg request "agent_id"
    forbidSystemAgentEdit site agentId
    let site ← requireAdminIfAccountsExist env site token
    identityBranch env site request agentId action
  | .account action => do
    let site ← requireAdmin env site token
    accountBranch env site request action
  | .visible action =>
    let (scope, site) := visibleAgentIds env site token
    scopedBranch env site request scope action
  | .onAgent action => do
    let (id, agentId) ← agentOfRequest site request action
    let site ← requireAgentAccessIfAccountsExist env site token agentId
    agentBranch env site request id action
  | .user action => userBranch env site request token action
  | .authLogin => fnLogin env site (request.getText? "username") (request.getText? "password")
  | .authLogout => .ok (fnLogout site token)
  | .selftest => fnSelftest env site

/-- The action that a request names, if there is one. -/
def requestedAction (request : Json) : Option RpcAction := rpcActions.lookup ((request.getText? "action").getD "")

/-- The answer to a request, and the tables after it. An exception undoes everything that the request has done. -/
def dashboardRpc (env : WebEnv) (site : Site) (request : Json) : Json × Site :=
  let token := request.getText? "session_token"
  let seen := (sessionUser env site token).2
  match requestedAction request with
  | none => (.build [("ok", .bool false), ("error", .str "unknown_action"),
      ("action", .str ((request.getText? "action").getD ""))], seen)
  | some action => match branch env seen request token action with
    | .ok answer => answer
    | .error message => (.build [("ok", .bool false), ("error", .str message)], site)

end Allgres
