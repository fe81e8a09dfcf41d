import Allgres.Hidden.Cover

namespace Allgres

open Relational Jsonb Sql

variable {env : Env} {db : Db} {hidden : Hidden} {turn : Turn} {parsed : Json}

/-! ### The queues -/

theorem cover_executeSql :
    executeSql env (db.cover hidden) turn parsed = coverReply hidden (executeSql env db turn parsed) := by
  unfold executeSql
  rw [cover_fnValidateSql]
  rcases fnValidateSql env db turn.task.agentId (parsed.getText? "sql") with message | sql
  · exact cover_refuse turn _ _
  · simp only [cover_insertSql, cover_bumpStep, coverReply, Db.cover_sqlCalls]

theorem cover_sendRequest (function : Option String) (bound : Option (Nat × Option Nat)) (args : Json)
    (request : Request) : sendRequest env (db.cover hidden) turn function bound args request =
      coverReply hidden (sendRequest env db turn function bound args request) := by
  simp only [sendRequest, cover_agentHasPermission, cover_insertOutbound, cover_bumpStep]
  cases checkOutboundUrl env.pg request.url request.allowPrivate with
  | some reason => exact cover_refuse turn _ _
  | none =>
    simp only
    split
    · exact cover_refuse turn _ _
    · rfl

theorem cover_callBody (name : Option String) (functionId : Nat) (function : FunctionRow) (args : Json) :
    callBody env (db.cover hidden) turn name functionId function args =
      coverReply hidden (callBody env db turn name functionId function args) := by
  simp only [callBody, cover_insertFunctionCall, cover_bumpStep]
  split
  · exact cover_refuse turn _ _
  · rfl

theorem cover_callOutbound (function : Option String) (bound : Option (Nat × FunctionRow × Option Nat))
    (args origArgs : Json) : callOutbound env (db.cover hidden) turn function bound args origArgs =
      coverReply hidden (callOutbound env db turn function bound args origArgs) := by
  have same (target : Option FunctionRow) :
    buildRequest env (db.cover hidden) turn.taskId function target args origArgs =
      buildRequest env db turn.taskId function target args origArgs := rfl
  simp only [callOutbound, same]
  cases buildRequest env db turn.taskId function (bound.map fun target => target.2.1) args origArgs with
  | error content => exact cover_refuse turn _ _
  | ok request => exact cover_sendRequest function _ args request

theorem cover_callFunction :
    callFunction env (db.cover hidden) turn parsed = coverReply hidden (callFunction env db turn parsed) := by
  simp only [callFunction, cover_agentHasPermission, cover_boundFunction, cover_boundProcedure]
  split
  · exact cover_callOutbound _ _ _ _
  · rcases boundFunction env db turn.task.agentId (parsed.getText? "function") with _ | ⟨functionId, function⟩
    · exact cover_refuse turn _ _
    · simp only
      split
      · exact cover_callBody _ functionId function _
      · exact cover_callOutbound _ _ _ _

theorem cover_runProcedure :
    runProcedure env (db.cover hidden) turn parsed = coverReply hidden (runProcedure env db turn parsed) := by
  simp only [runProcedure, cover_agentPermissionRefs, Db.cover_procedures, cover_insertProcedureCall, cover_bumpStep]
  split
  · exact cover_refuse turn _ _
  · rcases db.procedures.find? fun _ procedure =>
      some procedure.name == nonEmpty ((parsed.getText? "procedure").map btrim) && procedure.isActive
      with _ | ⟨procedureId, procedure⟩
    · exact cover_refuse turn _ _
    · simp only
      split
      · exact cover_refuse turn _ _
      · rfl

theorem cover_embedQuery (kind : CallKind) (action missing : String) :
    embedQuery kind action missing env (db.cover hidden) turn parsed =
      coverReply hidden (embedQuery kind action missing env db turn parsed) := by
  have same : (db.cover hidden).embeddingProvider = db.embeddingProvider := rfl
  simp only [embedQuery, same, cover_insertOutbound, cover_bumpStep]
  split
  · exact cover_refuse turn _ _
  · rcases db.embeddingProvider with _ | ⟨providerId, provider⟩
    · exact cover_refuse turn _ _
    · simp only
      cases checkOutboundUrl env.pg (some (provider.baseUrl ++ "/embeddings")) provider.allowPrivateNetwork with
      | some reason => exact cover_refuse turn _ _
      | none => rfl

/-! ### Answers and delegation -/

theorem cover_finalAnswer :
    finalAnswer env (db.cover hidden) turn parsed = coverReply hidden (finalAnswer env db turn parsed) := by
  simp only [finalAnswer]
  split
  · exact cover_refuse turn _ _
  · simp only [cover_updateTask, cover_updateSession, cover_maybeCompleteSession, coverReply]

theorem cover_spawnChild (target : Nat) (wait : Bool) :
    spawnChild env (db.cover hidden) turn parsed target wait =
      coverReply hidden (spawnChild env db turn parsed target wait) := by
  simp only [spawnChild, cover_insertTask, cover_bumpStep, cover_updateTask, Db.cover_tasks]
  cases wait <;> rfl

theorem cover_delegate :
    delegate env (db.cover hidden) turn parsed = (delegate env db turn parsed).map (coverReply hidden) := by
  simp only [delegate, cover_delegateRefusal, Db.cover_agents]
  rcases db.agents.find? fun _ agent => some agent.name == parsed.getText? "agent_name" && agent.isActive
    with _ | ⟨target, agent⟩
  · exact congrArg Except.ok (cover_refuse turn _ _)
  · simp only
    cases delegateRefusal env db turn (parsed.getText? "agent_name") target with
    | some content => exact congrArg Except.ok (cover_refuse turn _ _)
    | none =>
      simp only
      cases castBoolean (parsed.getText? "wait") with
      | error message => rfl
      | ok wait => exact congrArg Except.ok (cover_spawnChild target _)

/-! ### Proposals -/

theorem cover_autoApply (functionId : Nat) (cap slack : Int) (op : ExperimentOp) :
    autoApply env (db.cover hidden) turn parsed functionId cap slack op =
      (autoApply env db turn parsed functionId cap slack op).map fun applied => applied.map (coverReply hidden) := by
  cases op with
  | start percent =>
    simp only [autoApply, cover_applyFunctionExperimentStart]
    split
    · cases castInt (parsed.getText? "min_sample_size") with
      | error message => rfl
      | ok sample =>
        simp only
        cases applyFunctionExperimentStart db functionId ((parsed.getText? "candidate_provider").getD "")
          ((parsed.getText? "candidate_model").getD "") percent sample turn.task.agentId (filled parsed "reason") <;> rfl
    · rfl
  | promote experimentId experiment =>
    have same : earnedPromotion (db.cover hidden) experimentId experiment slack =
      earnedPromotion db experimentId experiment slack := rfl
    simp only [autoApply, same, cover_applyFunctionExperimentPromote]
    split
    · cases applyFunctionExperimentPromote env db experimentId <;> rfl
    · rfl
  | reject experimentId =>
    simp only [autoApply]
    split <;> rfl

theorem cover_overrideFunction (functionId : Nat) (op : ExperimentOp) :
    overrideFunction env (db.cover hidden) turn parsed functionId op =
      (overrideFunction env db turn parsed functionId op).map (coverReply hidden) := by
  simp only [overrideFunction, cover_autoApply, Db.cover_proposals, cover_insertProposal]
  cases castInt (turn.agent.agentConfig.getText? "function_override_self_approve_canary_cap") with
  | error message => rfl
  | ok cap =>
    simp only
    cases castInt (turn.agent.agentConfig.getText? "function_override_auto_promote_slack_pct") with
    | error message => rfl
    | ok slack =>
      simp only
      rcases autoApply env db turn parsed functionId (cap.getD 20) (slack.getD 0) op with
        message | _ | ⟨experimentId, after⟩
      · rfl
      · exact congrArg Except.ok (cover_note turn _ _)
      · exact congrArg Except.ok (cover_note turn _ _)

theorem cover_proposeOverride :
    proposeOverride env (db.cover hidden) turn parsed =
      (proposeOverride env db turn parsed).map (coverReply hidden) := by
  have same (functionId : Nat) : checkOp (db.cover hidden) functionId parsed = checkOp db functionId parsed := rfl
  simp only [proposeOverride, same, Db.cover_functions]
  split
  · exact congrArg Except.ok (cover_refuse turn _ _)
  · cases castUuid (parsed.getText? "target_function_id") with
    | error message => rfl
    | ok target =>
      simp only
      cases target.filter fun id => (db.functions.get? id).any FunctionRow.isActive with
      | none => exact congrArg Except.ok (cover_refuse turn _ _)
      | some functionId =>
        simp only
        rcases checkOp db functionId parsed with message | content | op
        · rfl
        · exact congrArg Except.ok (cover_refuse turn _ _)
        · exact cover_overrideFunction functionId op

theorem cover_changePolicy (changes : Json) (target : Nat) :
    changePolicy env (db.cover hidden) turn parsed changes target =
      (changePolicy env db turn parsed changes target).map (coverReply hidden) := by
  have same : (db.cover hidden).policyOf target = db.policyOf target := rfl
  simp only [changePolicy, cover_fnSetPolicy, same, Db.cover_proposals, cover_insertProposal]
  split
  · cases fnSetPolicy db target (changes.getText? "system_prompt") (changes.get? "llm_config") with
    | error message => rfl
    | ok applied => exact congrArg Except.ok (cover_note turn _ _)
  · cases db.policyOf target with
    | none => exact congrArg Except.ok (cover_note turn _ _)
    | some policy => exact congrArg Except.ok (cover_note turn _ _)

/-- Where the proposal is turned down, the reply is covered like any other. -/
theorem cover_changeTarget (changes : Json) :
    changeTarget env (db.cover hidden) turn parsed changes =
      (changeTarget env db turn parsed changes).map fun found =>
        match found with
        | .error refused => .error (coverReply hidden refused)
        | .ok target => .ok target := by
  have same (target : Nat) : (db.cover hidden).isActiveAgent target = db.isActiveAgent target := rfl
  simp only [changeTarget, cover_refuse, same]
  split
  · rfl
  · split
    · rfl
    · rcases castUuid (parsed.getText? "target_agent_id") with message | _ | target
      · rfl
      · rfl
      · simp only
        split <;> rfl

theorem cover_proposeChange :
    proposeChange env (db.cover hidden) turn parsed =
      (proposeChange env db turn parsed).map (coverReply hidden) := by
  simp only [proposeChange, cover_changeTarget]
  split
  · exact cover_proposeOverride
  · cases (parsed.get? "changes").filter fun changes => changes.isObj && !changes.isEmptyObj with
    | none => exact congrArg Except.ok (cover_refuse turn _ _)
    | some changes =>
      simp only
      split
      · exact congrArg Except.ok (cover_refuse turn _ _)
      · rcases changeTarget env db turn parsed changes with message | refused | target
        · rfl
        · rfl
        · exact cover_changePolicy changes target

/-! ### Agents, functions and fixes -/

theorem cover_createAgent :
    createAgent env (db.cover hidden) turn parsed = (createAgent env db turn parsed).map (coverReply hidden) := by
  simp only [createAgent, cover_fnCreateAgent, Db.cover_proposals, cover_insertProposal]
  split
  · exact congrArg Except.ok (cover_refuse turn _ _)
  · split
    · exact congrArg Except.ok (cover_refuse turn _ _)
    · split
      · cases fnCreateAgent env db (parsed.getText? "name") (parsed.getText? "system_prompt") with
        | error message => rfl
        | ok created => exact congrArg Except.ok (cover_note turn _ _)
      · exact congrArg Except.ok (cover_note turn _ _)

theorem cover_createFunction :
    createFunction env (db.cover hidden) turn parsed = coverReply hidden (createFunction env db turn parsed) := by
  simp only [createFunction, cover_fnCreateFunction, Db.cover_proposals, cover_insertProposal]
  split
  · exact cover_refuse turn _ _
  · split
    · cases fnCreateFunction env db (parsed.getText? "name") (parsed.getText? "description")
        (parsed.getText? "body") ((parsed.get? "param_schema").getD .emptyObj) (some turn.task.agentId) with
      | error message => exact cover_refuse turn _ _
      | ok created => exact cover_note turn _ _
    · exact cover_note turn _ _

theorem cover_editFunction (functionId : Nat) :
    editFunction env (db.cover hidden) turn parsed functionId =
      coverReply hidden (editFunction env db turn parsed functionId) := by
  simp only [editFunction, cover_fnUpdateFunction, Db.cover_proposals, cover_insertProposal]
  split
  · cases fnUpdateFunction env db functionId (parsed.getText? "description") (parsed.getText? "body")
      (parsed.get? "param_schema") with
    | error message => exact cover_refuse turn _ _
    | ok updated => exact cover_note turn _ _
  · exact cover_note turn _ _

theorem cover_updateFunction :
    updateFunction env (db.cover hidden) turn parsed =
      (updateFunction env db turn parsed).map (coverReply hidden) := by
  simp only [updateFunction, Db.cover_functions]
  cases castUuid (parsed.getText? "function_id") with
  | error message => rfl
  | ok target =>
    simp only
    cases target.filter fun id => (db.functions.get? id).any fun function => function.handler == .plpgsql with
    | none => exact congrArg Except.ok (cover_refuse turn _ _)
    | some functionId => exact congrArg Except.ok (cover_editFunction functionId)

theorem cover_fixAgent (kind : FixKind) (target : Nat) :
    fixAgent env (db.cover hidden) turn parsed kind target =
      (fixAgent env db turn parsed kind target).map (coverReply hidden) := by
  simp only [fixAgent, cover_applyFix]
  split
  · cases applyFix db kind target ((parsed.get? "detail").getD .emptyObj) with
    | error message => rfl
    | ok applied => exact congrArg Except.ok (cover_note turn _ _)
  · exact congrArg Except.ok (@cover_note env { db with
      fixes := db.fixes.insert ⟨turn.task.agentId, some turn.taskId, kind, target,
        (parsed.get? "detail").getD .emptyObj, filled parsed "reason"⟩ } hidden turn _ _)

theorem cover_proposeFix :
    proposeFix env (db.cover hidden) turn parsed = (proposeFix env db turn parsed).map (coverReply hidden) := by
  simp only [proposeFix, Db.cover_agents]
  split
  · exact congrArg Except.ok (cover_refuse turn _ _)
  · cases (parsed.getText? "fix_kind").bind FixKind.ofText with
    | none => exact congrArg Except.ok (cover_refuse turn _ _)
    | some kind =>
      simp only
      cases castUuid (parsed.getText? "target_agent_id") with
      | error message => rfl
      | ok target =>
        simp only
        cases target.filter fun id => (db.agents.get? id).isSome with
        | none => exact congrArg Except.ok (cover_refuse turn _ _)
        | some target => exact cover_fixAgent kind target

/-! ### Memories and waiting -/

theorem cover_moveCutoff :
    moveCutoff env (db.cover hidden) turn = (moveCutoff env db turn).map fun db => db.cover hidden := by
  simp only [moveCutoff, Db.cover_sessions]
  split
  · rcases castOr "uuid" toUuid (turn.task.input.getText? "target_session_id") with message | _ | sessionId
    · rfl
    · rfl
    · simp only
      split
      · rfl
      · cases castOr "timestamp with time zone" env.pg.timestamptzIn (turn.task.input.getText? "compact_cutoff") <;>
          rfl
  · rfl

theorem cover_remember :
    remember env (db.cover hidden) turn parsed = (remember env db turn parsed).map (coverReply hidden) := by
  simp only [remember, cover_writeMemory]
  rcases writeMemory env db turn.task.agentId (parsed.getText? "content") (parsed.getText? "memory_type")
    (parsed.getText? "importance") (parsed.getText? "subject_id") (parsed.getText? "expires_in_days")
    (some turn.task.sessionId) (some turn.taskId) with reason | ⟨memoryId, memoryType, after⟩
  · exact congrArg Except.ok (cover_refuse turn _ _)
  · simp only [Except.map, cover_note, coverReply, cover_moveCutoff]
    cases moveCutoff env (turn.note env after [("remembered", idJson memoryId), ("memory_type", .str memoryType)]
      [("memory_id", idJson memoryId)]).2 turn <;> rfl

theorem cover_awaitHuman :
    awaitHuman env (db.cover hidden) turn parsed = coverReply hidden (awaitHuman env db turn parsed) := by
  simp only [awaitHuman, cover_updateTask]
  rfl

theorem cover_awaitChildren :
    awaitChildren env (db.cover hidden) turn = coverReply hidden (awaitChildren env db turn) := by
  simp only [awaitChildren, Db.cover_tasks, cover_updateTask]
  split
  · exact cover_refuse turn _ _
  · rfl

/-! ### `fn_submit_result` -/

theorem cover_act (action : Action) :
    act env (db.cover hidden) turn parsed action = (act env db turn parsed action).map (coverReply hidden) := by
  cases action with
  | finalAnswer => exact congrArg Except.ok cover_finalAnswer
  | executeSql => exact congrArg Except.ok cover_executeSql
  | callFunction => exact congrArg Except.ok cover_callFunction
  | runProcedure => exact congrArg Except.ok cover_runProcedure
  | delegate => simp only [act, cover_delegate]
  | searchAgents => exact congrArg Except.ok (cover_embedQuery _ _ _)
  | recallMemories => exact congrArg Except.ok (cover_embedQuery _ _ _)
  | awaitHuman => exact congrArg Except.ok cover_awaitHuman
  | proposeChange => simp only [act, cover_proposeChange]
  | remember => simp only [act, cover_remember]
  | createAgent => simp only [act, cover_createAgent]
  | proposeFix => simp only [act, cover_proposeFix]
  | awaitChildren => exact congrArg Except.ok cover_awaitChildren
  | createFunction => exact congrArg Except.ok cover_createFunction
  | updateFunction => simp only [act, cover_updateFunction]

theorem cover_submitReply (payload : Json) :
    submitReply env (db.cover hidden) turn payload =
      (submitReply env db turn payload).map (coverReply hidden) := by
  simp only [submitReply, cover_log]
  cases ((parsedReply payload).bind fun value => value.getText? "action").bind Action.ofText with
  | none => exact congrArg Except.ok (cover_refuse turn _ _)
  | some action => exact cover_act action

theorem cover_submitError (payload : Json) :
    submitError env (db.cover hidden) turn payload = coverReply hidden (submitError env db turn payload) := by
  simp only [submitError, cover_log, cover_bumpStep, cover_updateTask, cover_maybeCompleteSession, Db.cover_logs]
  split <;> rfl

theorem cover_submitPayload (payload : Json) :
    submitPayload env (db.cover hidden) turn payload =
      (submitPayload env db turn payload).map (coverReply hidden) := by
  have value (role : Role) : submitValue role env (db.cover hidden) turn payload =
      coverReply hidden (submitValue role env db turn payload) := by
    simp only [submitValue, cover_log, cover_bumpStep, coverReply]
  simp only [submitPayload, cover_submitError, value, cover_submitReply, cover_appendLog, cover_bumpStep]
  split <;> rfl

theorem cover_fnSubmitResult (t : Nat) (payload : Json) :
    fnSubmitResult env (db.cover hidden) t payload =
      (fnSubmitResult env db t payload).map (coverReply hidden) := by
  have policy (agentId : Nat) : (db.cover hidden).policyOf agentId = db.policyOf agentId := rfl
  simp only [fnSubmitResult, Db.cover_tasks, Db.cover_agents, policy, cover_failTask, cover_submitPayload]
  cases db.tasks.get? t with
  | none => rfl
  | some task =>
    simp only
    split
    · rfl
    · cases (db.agents.get? task.agentId).filter AgentRow.isActive <;> rfl

end Allgres
