import Allgres.Submit.Turn
import Allgres.Operator

/-! The actions of an agent that hand work to another agent, change the
configuration or its memory, or wait. An `.error` is an exception that the
action raises. -/

namespace Allgres

open Relational Jsonb Sql

/-- `text::type` of an optional text, with the message of the failed conversion. -/
def castOr {α : Type} (kind : String) (convert : String → Option α) : Option String → Except String (Option α)
  | none => .ok none
  | some text => match convert text with
    | some value => .ok (some value)
    | none => .error ("invalid input syntax for type " ++ kind ++ ": \"" ++ text ++ "\"")

def castUuid (text : Option String) : Except String (Option Nat) := castOr "uuid" toUuid (nonEmpty text)

def castInt (text : Option String) : Except String (Option Int) := castOr "integer" toInt text

def castBoolean (text : Option String) : Except String (Option Bool) := castOr "boolean" toBoolean text

/-- `NULLIF(btrim(COALESCE(value ->> key, '')), '')`. -/
def filled (value : Json) (key : String) : Option String :=
  nonEmpty (some (btrim ((value.getText? key).getD "")))

def finalAnswer (env : Env) (db : Db) (turn : Turn) (parsed : Json) : Json × Db :=
  let answer := ((nonEmpty (parsed.getText? "answer")).or (nonEmpty (parsed.getText? "content"))).or
    (nonEmpty (parsed.getText? "final_answer"))
  match answer with
  | none =>
    turn.refuse env db [("reason", .str "final_answer_missing_answer"), ("parsed", parsed)]
      [("reason", .str "final_answer_missing_answer")]
  | some answer =>
    let db := db.updateTask env turn.taskId fun task =>
      { task with
        status := .completed
        output := some (.build [("answer", .str answer)])
        stepCount := task.stepCount + 1 }
    let db := db.updateSession turn.task.sessionId fun session => { session with finalAnswer := some answer }
    (.build [("action", .str "done")], maybeCompleteSession env db turn.task.sessionId)

/-! ### `delegate` -/

/-- The agents of a task and of the tasks above it. -/
def ancestorAgents (db : Db) : Nat → Nat → List Nat
  | 0, _ => []
  | fuel + 1, taskId =>
    match db.tasks.get? taskId with
    | none => []
    | some task =>
      task.agentId :: match task.parentTaskId with
        | none => []
        | some parent => ancestorAgents db fuel parent

/-- The reason why the target may not be delegated to, as a log row. -/
def delegateRefusal (env : Env) (db : Db) (turn : Turn) (name : Option String) (target : Nat) :
    Option (List (String × Json)) :=
  let sessionTasks := db.tasks.count fun _ task => task.sessionId == turn.task.sessionId
  if !agentHasPermission env db turn.task.agentId .agent name then
    some [("reason", .str "delegate_not_permitted"), ("agent_name", .optStr name)]
  else if turn.policy.any fun policy => policy.maxDelegationDepth < turn.task.delegationDepth + 1 then
    some [("reason", .str "delegate_depth_exceeded"), ("agent_name", .optStr name),
      ("depth", .ofNat turn.task.delegationDepth),
      ("max_delegation_depth", .ofOption .ofNat (turn.policy.map PolicyRow.maxDelegationDepth))]
  else if (ancestorAgents db db.tasks.rows.length turn.taskId).contains target then
    some [("reason", .str "delegate_cycle"), ("agent_name", .optStr name)]
  else if turn.policy.any fun policy => policy.maxSessionTasks ≤ sessionTasks then
    some [("reason", .str "delegate_session_task_limit"), ("agent_name", .optStr name),
      ("session_tasks", .ofNat sessionTasks),
      ("max_session_tasks", .ofOption .ofNat (turn.policy.map PolicyRow.maxSessionTasks))]
  else none

/-- The child task, after which the parent goes on or hands off. -/
def spawnChild (env : Env) (db : Db) (turn : Turn) (parsed : Json) (target : Nat) (wait : Bool) : Json × Db :=
  let child := db.tasks.next
  let input := (parsed.get? "input").getD .emptyObj
  let db := db.insertTask env turn.task.sessionId target (some turn.taskId) input (turn.task.delegationDepth + 1) none
  (continueWith [("child_task_id", idJson child)],
    if wait then db.bumpStep env turn.taskId
    else db.updateTask env turn.taskId fun task =>
      { task with
        status := .completed
        output := some (.build [("child_task_id", idJson child)])
        stepCount := task.stepCount + 1 })

def delegate (env : Env) (db : Db) (turn : Turn) (parsed : Json) : Except String (Json × Db) :=
  let name := parsed.getText? "agent_name"
  match db.agents.find? fun _ agent => some agent.name == name && agent.isActive with
  | none => .ok (turn.refuse env db [("reason", .str "delegate_unknown"), ("agent_name", .optStr name)] [])
  | some (target, _) =>
    match delegateRefusal env db turn name target with
    | some content => .ok (turn.refuse env db content [])
    | none =>
      match castBoolean (parsed.getText? "wait") with
      | .error message => .error message
      | .ok wait => .ok (spawnChild env db turn parsed target (wait.getD false))

/-! ### `propose_change` -/

def insertProposal (db : Db) (turn : Turn) (kind : ProposalKind) (changes : Json) (reason : Option String)
    (baseGeneration : Nat) (targetAgentId targetFunctionId : Option Nat) : Db :=
  { db with
    proposals := db.proposals.insert ⟨turn.task.agentId, some turn.taskId, kind, changes, reason, baseGeneration,
      targetAgentId, targetFunctionId⟩ }

/-- The operation on a running experiment, once the proposal passed its checks. -/
inductive ExperimentOp
  | start (canaryPercent : Int)
  | promote (experimentId : Nat) (experiment : ExperimentRow)
  | reject (experimentId : Nat)

def checkStart (db : Db) (functionId : Nat) (parsed : Json) :
    Except String (Except (List (String × Json)) ExperimentOp) :=
  if (filled parsed "candidate_provider").isNone ∨ (filled parsed "candidate_model").isNone ∨
      (nonEmpty (parsed.getText? "canary_percent")).isNone then
    .ok (.error [("reason", .str "function_override_incomplete"), ("parsed", parsed)])
  else match castInt (parsed.getText? "canary_percent") with
    | .error message => .error message
    | .ok percent =>
      let percent := percent.getD 0
      if percent ≤ 0 ∨ 100 < percent then
        .ok (.error [("reason", .str "function_override_bad_canary_percent"), ("canary_percent", .num percent 0)])
      else if !db.providers.exists? fun _ provider =>
          some provider.name == parsed.getText? "candidate_provider" && provider.isEnabled then
        .ok (.error [("reason", .str "function_override_candidate_provider_not_enabled"),
          ("candidate_provider", .optStr (parsed.getText? "candidate_provider"))])
      else if db.experiments.exists? fun _ other => other.functionId == functionId && other.status == .running then
        .ok (.error [("reason", .str "function_override_experiment_already_running"),
          ("target_function_id", idJson functionId)])
      else .ok (.ok (.start percent))

/-- `promote` and `reject` name a running experiment of this function. -/
def checkDecision (db : Db) (functionId : Nat) (parsed : Json) (decide : Nat → ExperimentRow → ExperimentOp) :
    Except String (Except (List (String × Json)) ExperimentOp) :=
  match castUuid (parsed.getText? "experiment_id") with
  | .error message => .error message
  | .ok experimentId =>
    let running := experimentId.bind fun id => ((db.experiments.get? id).filter fun experiment =>
      experiment.functionId == functionId && experiment.status == .running).map fun experiment => (id, experiment)
    match running with
    | none => .ok (.error [("reason", .str "function_override_experiment_not_running"),
        ("experiment_id", .optStr (parsed.getText? "experiment_id"))])
    | some (id, experiment) => .ok (.ok (decide id experiment))

def checkOp (db : Db) (functionId : Nat) (parsed : Json) :
    Except String (Except (List (String × Json)) ExperimentOp) :=
  match parsed.getText? "op" with
  | some "start_experiment" => checkStart db functionId parsed
  | some "promote" => checkDecision db functionId parsed .promote
  | some "reject" => checkDecision db functionId parsed fun id _ => .reject id
  | other => .ok (.error [("reason", .str "function_override_invalid_op"), ("op", .optStr other)])

/-- The candidate did at least as well as the baseline, less the slack. -/
def earnedPromotion (db : Db) (experimentId : Nat) (experiment : ExperimentRow) (slack : Int) : Bool :=
  let calls := db.outboundCalls.select fun _ call => call.body.experimentId == some experimentId
  let decided := calls.countP fun call => call.2.body.outcome.isSome
  let rate := successRate (calls.countP fun call => call.2.body.outcome == some .success) decided
  match experiment.baselineSuccessRate, rate with
  | some baseline, some rate => decide (experiment.minSampleSize ≤ decided ∧ baseline - slack / 100 ≤ rate)
  | _, _ => false

/-- What the agent's autonomy lets it apply at once: the experiment's id and the new tables. -/
def autoApply (env : Env) (db : Db) (turn : Turn) (parsed : Json) (functionId : Nat) (cap slack : Int) :
    ExperimentOp → Except String (Option (Nat × Db))
  | .start percent =>
    if turn.agent.autonomyLevel = .auto ∨ (turn.agent.autonomyLevel = .selfApprove ∧ percent ≤ cap) then
      match castInt (parsed.getText? "min_sample_size") with
      | .error message => .error message
      | .ok sample =>
        match applyFunctionExperimentStart db functionId ((parsed.getText? "candidate_provider").getD "")
          ((parsed.getText? "candidate_model").getD "") percent sample turn.task.agentId (filled parsed "reason") with
        | .error message => .error message
        | .ok (id, db) => .ok (some (id, db))
    else .ok none
  | .promote experimentId experiment =>
    if turn.agent.autonomyLevel = .auto ∧ earnedPromotion db experimentId experiment slack then
      match applyFunctionExperimentPromote env db experimentId with
      | .error _ => .ok none
      | .ok db => .ok (some (experimentId, db))
    else .ok none
  | .reject experimentId =>
    if turn.agent.autonomyLevel ≠ .adminApproval then
      .ok (some (experimentId, applyFunctionExperimentReject env db experimentId))
    else .ok none

def overrideFunction (env : Env) (db : Db) (turn : Turn) (parsed : Json) (functionId : Nat) (op : ExperimentOp) :
    Except String (Json × Db) :=
  match castInt (turn.agent.agentConfig.getText? "function_override_self_approve_canary_cap") with
  | .error message => .error message
  | .ok cap =>
    match castInt (turn.agent.agentConfig.getText? "function_override_auto_promote_slack_pct") with
    | .error message => .error message
    | .ok slack =>
      let opJson : Json := .optStr (parsed.getText? "op")
      match autoApply env db turn parsed functionId (cap.getD 20) (slack.getD 0) op with
      | .error message => .error message
      | .ok (some (experimentId, db)) =>
        .ok (turn.note env db [("applied_function_override", parsed), ("target_function_id", idJson functionId),
            ("op", opJson), ("autonomy_level", .str turn.agent.autonomyLevel.text),
            ("experiment_id", idJson experimentId)]
          [("applied", .bool true), ("target_function_id", idJson functionId), ("op", opJson),
            ("experiment_id", idJson experimentId)])
      | .ok none =>
        let proposalId := db.proposals.next
        let db := insertProposal db turn .functionOverride ((parsed.remove "action").remove "target_function_id")
          (filled parsed "reason") 0 none (some functionId)
        .ok (turn.note env db [("proposed_function_override", parsed), ("proposal_id", idJson proposalId),
            ("target_function_id", idJson functionId)]
          [("proposal_id", idJson proposalId)])

def proposeOverride (env : Env) (db : Db) (turn : Turn) (parsed : Json) : Except String (Json × Db) :=
  if turn.agent.name ≠ "self_improve" then
    .ok (turn.refuse env db [("reason", .str "propose_change_cross_agent_not_permitted")] [])
  else match castUuid (parsed.getText? "target_function_id") with
    | .error message => .error message
    | .ok target =>
      match target.filter fun id => (db.functions.get? id).any FunctionRow.isActive with
      | none => .ok (turn.refuse env db [("reason", .str "propose_change_target_not_found"),
          ("target_function_id", optIdJson target)] [])
      | some functionId =>
        match checkOp db functionId parsed with
        | .error message => .error message
        | .ok (.error content) => .ok (turn.refuse env db content [])
        | .ok (.ok op) => overrideFunction env db turn parsed functionId op

/-- The keys an agent may propose to change, at the top and inside `llm_config`. -/
def allowedChanges (changes : Json) : Bool :=
  changes.keys.all ["system_prompt", "llm_config"].contains &&
  match changes.get? "llm_config" with
  | none => true
  | some config =>
    config.isObj && !config.isEmptyObj && config.keys.all ["model", "temperature", "max_tokens"].contains

/-- The agent that the proposal is about. -/
def changeTarget (env : Env) (db : Db) (turn : Turn) (parsed changes : Json) :
    Except String (Except (Json × Db) Nat) :=
  if !parsed.hasKey "target_agent_id" then .ok (.ok turn.task.agentId)
  else if turn.agent.name ≠ "self_improve" then
    .ok (.error (turn.refuse env db [("reason", .str "propose_change_cross_agent_not_permitted"),
      ("changes", changes)] []))
  else match castUuid (parsed.getText? "target_agent_id") with
    | .error message => .error message
    | .ok none => .ok (.ok turn.task.agentId)
    | .ok (some target) =>
      if db.isActiveAgent target then .ok (.ok target)
      else .ok (.error (turn.refuse env db [("reason", .str "propose_change_target_not_found"),
        ("target_agent_id", idJson target)] []))

def changePolicy (env : Env) (db : Db) (turn : Turn) (parsed changes : Json) (target : Nat) :
    Except String (Json × Db) :=
  if turn.agent.isSystem ∧ turn.agent.autonomyLevel ≠ .adminApproval then
    match fnSetPolicy db target (changes.getText? "system_prompt") (changes.get? "llm_config") with
    | .error message => .error message
    | .ok (_, db) =>
      .ok (turn.note env db [("applied_change", changes), ("target_agent_id", idJson target),
          ("autonomy_level", .str turn.agent.autonomyLevel.text)]
        [("applied", .bool true), ("target_agent_id", idJson target)])
  else
    let propose (proposalId : Option Nat) (db : Db) : Json × Db :=
      turn.note env db [("proposed_change", changes), ("proposal_id", optIdJson proposalId),
        ("target_agent_id", idJson target)] [("proposal_id", optIdJson proposalId)]
    -- `INSERT … SELECT … FROM policies`: no row of the target, no proposal.
    match db.policyOf target with
    | none => .ok (propose none db)
    | some policy =>
      .ok (propose (some db.proposals.next) (insertProposal db turn .policyChange changes (filled parsed "reason")
        policy.generation (if target = turn.task.agentId then none else some target) none))

def proposeChange (env : Env) (db : Db) (turn : Turn) (parsed : Json) : Except String (Json × Db) :=
  if parsed.hasKey "target_function_id" then proposeOverride env db turn parsed
  else match (parsed.get? "changes").filter fun changes => changes.isObj && !changes.isEmptyObj with
    | none => .ok (turn.refuse env db [("reason", .str "propose_change_empty"),
        ("changes", (parsed.get? "changes").getD .null)] [])
    | some changes =>
      if !allowedChanges changes then
        .ok (turn.refuse env db [("reason", .str "propose_change_field_not_allowed"), ("changes", changes)] [])
      else match changeTarget env db turn parsed changes with
        | .error message => .error message
        | .ok (.error refused) => .ok refused
        | .ok (.ok target) => changePolicy env db turn parsed changes target

/-! ### Agents, functions and fixes -/

def createAgent (env : Env) (db : Db) (turn : Turn) (parsed : Json) : Except String (Json × Db) :=
  if turn.agent.name ≠ "creator" then
    .ok (turn.refuse env db [("reason", .str "create_agent_not_permitted")] [])
  else if (filled parsed "name").isNone ∨ (filled parsed "system_prompt").isNone then
    .ok (turn.refuse env db [("reason", .str "create_agent_incomplete"), ("parsed", parsed)] [])
  else if turn.agent.autonomyLevel ≠ .adminApproval then
    match fnCreateAgent env db (parsed.getText? "name") (parsed.getText? "system_prompt") with
    | .error message => .error message
    | .ok (created, db) =>
      .ok (turn.note env db [("created_agent", created), ("autonomy_level", .str turn.agent.autonomyLevel.text)]
        [("applied", .bool true), ("created_agent", created)])
  else
    let proposalId := db.proposals.next
    let changes : Json := .build [("name", .optStr (parsed.getText? "name")),
      ("system_prompt", .optStr (parsed.getText? "system_prompt"))]
    .ok (turn.note env (insertProposal db turn .createAgent changes (filled parsed "reason") 0 none none)
      [("proposed_agent", parsed), ("proposal_id", idJson proposalId)] [("proposal_id", idJson proposalId)])

def createFunction (env : Env) (db : Db) (turn : Turn) (parsed : Json) : Json × Db :=
  let schema := (parsed.get? "param_schema").getD .emptyObj
  if (filled parsed "name").isNone ∨ (filled parsed "description").isNone ∨ (filled parsed "body").isNone then
    turn.refuse env db [("reason", .str "create_function_incomplete"), ("parsed", parsed)] []
  else if turn.agent.autonomyLevel ≠ .adminApproval then
    match fnCreateFunction env db (parsed.getText? "name") (parsed.getText? "description") (parsed.getText? "body")
      schema (some turn.task.agentId) with
    | .error message =>
      turn.refuse env db [("reason", .str "create_function_rejected"), ("message", .str message)] []
    | .ok (created, db) =>
      turn.note env db [("created_function", created), ("autonomy_level", .str turn.agent.autonomyLevel.text)]
        [("applied", .bool true), ("created_function", created)]
  else
    let proposalId := db.proposals.next
    let changes : Json := .build [("name", .optStr (parsed.getText? "name")),
      ("description", .optStr (parsed.getText? "description")), ("body", .optStr (parsed.getText? "body")),
      ("param_schema", schema)]
    turn.note env (insertProposal db turn .createFunction changes (filled parsed "reason") 0 none none)
      [("proposed_function", parsed), ("proposal_id", idJson proposalId)] [("proposal_id", idJson proposalId)]

def editFunction (env : Env) (db : Db) (turn : Turn) (parsed : Json) (functionId : Nat) : Json × Db :=
  if turn.agent.autonomyLevel ≠ .adminApproval then
    match fnUpdateFunction env db functionId (parsed.getText? "description") (parsed.getText? "body")
      (parsed.get? "param_schema") with
    | .error message =>
      turn.refuse env db [("reason", .str "update_function_rejected"), ("message", .str message)] []
    | .ok (updated, db) =>
      turn.note env db [("updated_function", updated), ("autonomy_level", .str turn.agent.autonomyLevel.text)]
        [("applied", .bool true), ("updated_function", updated)]
  else
    let proposalId := db.proposals.next
    let changes : Json := .build [("description", .optStr (parsed.getText? "description")),
      ("body", .optStr (parsed.getText? "body")), ("param_schema", (parsed.get? "param_schema").getD .null)]
    turn.note env
      (insertProposal db turn .updateFunction changes (filled parsed "reason") 0 none (some functionId))
      [("proposed_function_update", parsed), ("proposal_id", idJson proposalId),
        ("target_function_id", idJson functionId)]
      [("proposal_id", idJson proposalId)]

def updateFunction (env : Env) (db : Db) (turn : Turn) (parsed : Json) : Except String (Json × Db) :=
  match castUuid (parsed.getText? "function_id") with
  | .error message => .error message
  | .ok target =>
    match target.filter fun id => (db.functions.get? id).any fun function => function.handler == .plpgsql with
    | none => .ok (turn.refuse env db [("reason", .str "update_function_target_not_found"),
        ("function_id", optIdJson target)] [])
    | some functionId => .ok (editFunction env db turn parsed functionId)

def fixAgent (env : Env) (db : Db) (turn : Turn) (parsed : Json) (fixKind : FixKind) (target : Nat) :
    Except String (Json × Db) :=
  let detail := (parsed.get? "detail").getD .emptyObj
  if turn.agent.autonomyLevel ≠ .adminApproval then
    match applyFix db fixKind target detail with
    | .error message => .error message
    | .ok (result, db) =>
      .ok (turn.note env db [("applied_fix", parsed), ("result", result),
          ("autonomy_level", .str turn.agent.autonomyLevel.text)]
        [("applied", .bool true), ("result", result)])
  else
    let fixId := db.fixes.next
    let db := { db with
      fixes := db.fixes.insert ⟨turn.task.agentId, some turn.taskId, fixKind, target, detail, filled parsed "reason"⟩ }
    .ok (turn.note env db [("proposed_fix", parsed), ("fix_id", idJson fixId)] [("fix_id", idJson fixId)])

def proposeFix (env : Env) (db : Db) (turn : Turn) (parsed : Json) : Except String (Json × Db) :=
  if turn.agent.name ≠ "fixer" then
    .ok (turn.refuse env db [("reason", .str "propose_fix_not_permitted")] [])
  else match (parsed.getText? "fix_kind").bind FixKind.ofText with
    | none => .ok (turn.refuse env db [("reason", .str "propose_fix_unknown_kind"), ("parsed", parsed)] [])
    | some fixKind =>
      match castUuid (parsed.getText? "target_agent_id") with
      | .error message => .error message
      | .ok target =>
        match target.filter fun id => (db.agents.get? id).isSome with
        | none => .ok (turn.refuse env db [("reason", .str "propose_fix_target_not_found"),
            ("target_agent_id", optIdJson target)] [])
        | some target => fixAgent env db turn parsed fixKind target

/-! ### `remember` and the waiting actions -/

/-- The compactor's own memory moves the cut-off of the session it summarises. -/
def moveCutoff (env : Env) (db : Db) (turn : Turn) : Except String Db :=
  if turn.agent.name = "session_compactor" ∧ turn.task.input.hasKey "target_session_id" ∧
      turn.task.input.hasKey "compact_cutoff" then
    match castOr "uuid" toUuid (turn.task.input.getText? "target_session_id") with
    | .error message => .error message
    | .ok none => .ok db
    | .ok (some sessionId) =>
      -- The new value is computed for the row that is updated, so not at all without one.
      if (db.sessions.get? sessionId).isNone then .ok db
      else match castOr "timestamp with time zone" env.pg.timestamptzIn (turn.task.input.getText? "compact_cutoff") with
        | .error message => .error message
        | .ok cutoff => .ok (db.updateSession sessionId fun session => { session with compactedBefore := cutoff })
  else .ok db

def remember (env : Env) (db : Db) (turn : Turn) (parsed : Json) : Except String (Json × Db) :=
  match writeMemory env db turn.task.agentId (parsed.getText? "content") (parsed.getText? "memory_type")
    (parsed.getText? "importance") (parsed.getText? "subject_id") (parsed.getText? "expires_in_days")
    (some turn.task.sessionId) (some turn.taskId) with
  | .error reason => .ok (turn.refuse env db [("reason", .str ("remember_" ++ reason)), ("payload", parsed)] [])
  | .ok (memoryId, memoryType, db) =>
    let (reply, db) := turn.note env db [("remembered", idJson memoryId), ("memory_type", .str memoryType)]
      [("memory_id", idJson memoryId)]
    match moveCutoff env db turn with
    | .error message => .error message
    | .ok db => .ok (reply, db)

def awaitHuman (env : Env) (db : Db) (turn : Turn) (parsed : Json) : Json × Db :=
  let db := db.updateTask env turn.taskId fun task =>
    { task with status := .waitingHuman, stepCount := task.stepCount + 1 }
  (.build [("action", .str "wait")],
    db.insertApproval env turn.taskId (.build [("reason", .str ((parsed.getText? "reason").getD ""))])
      (env.now + seconds 86400))

def awaitChildren (env : Env) (db : Db) (turn : Turn) : Json × Db :=
  if !db.tasks.exists? fun _ task => task.parentTaskId == some turn.taskId && !task.status.terminal then
    turn.refuse env db [("reason", .str "no_pending_children_to_await")] []
  else
    (.build [("action", .str "wait")],
      db.updateTask env turn.taskId fun task =>
        { task with status := .waitingChildren, stepCount := task.stepCount + 1 })

end Allgres
