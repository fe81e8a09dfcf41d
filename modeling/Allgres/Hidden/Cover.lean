import Allgres.Submit.Result

/-! The tables that no turn of a task reads: the secrets, the OAuth exchanges,
the device sessions and the schedules. A function that does not read them gives the same result,
whatever they hold, and leaves them as they are. -/

namespace Allgres

open Relational Jsonb Sql

structure Hidden where
  secrets : Table LlmSecretRow
  connectionSecrets : List (Nat × Option String)
  oauthCalls : Table OauthCallRow
  oauthDeviceSessions : Table DeviceSessionRow
  schedules : Table ScheduleRow

/-- The same tables with other hidden ones. -/
@[simps] def Db.cover (db : Db) (hidden : Hidden) : Db :=
  { db with
    secrets := hidden.secrets
    connectionSecrets := hidden.connectionSecrets
    oauthCalls := hidden.oauthCalls
    oauthDeviceSessions := hidden.oauthDeviceSessions
    schedules := hidden.schedules }

def Db.hidden (db : Db) : Hidden :=
  ⟨db.secrets, db.connectionSecrets, db.oauthCalls, db.oauthDeviceSessions, db.schedules⟩

variable {env : Env} {db : Db} {hidden : Hidden}

@[simp] theorem cover_hidden (db : Db) : db.cover db.hidden = db := rfl

@[simp] theorem hidden_cover (db : Db) (hidden : Hidden) : (db.cover hidden).hidden = hidden := rfl

/-- A reply, and the tables behind it covered. -/
def coverReply {α : Type} (hidden : Hidden) (reply : α × Db) : α × Db := (reply.1, reply.2.cover hidden)

def Created.cover (created : Created) (hidden : Hidden) : Created := { created with db := created.db.cover hidden }

/-! ### What a function that does not read the hidden tables does with them -/

theorem hidden_of_cover {f : Db → Db} (commutes : ∀ db hidden, f (db.cover hidden) = (f db).cover hidden) (db : Db) :
    (f db).hidden = db.hidden := by
  have same := commutes db db.hidden
  rw [cover_hidden] at same
  rw [same]
  rfl

theorem hidden_of_coverReply {α : Type} {f : Db → α × Db}
    (commutes : ∀ db hidden, f (db.cover hidden) = coverReply hidden (f db)) (db : Db) :
    (f db).2.hidden = db.hidden := by
  have same := commutes db db.hidden
  rw [cover_hidden] at same
  rw [same]
  rfl

theorem hidden_of_map {α : Type} {f : Db → Except String (α × Db)}
    (commutes : ∀ db hidden, f (db.cover hidden) = (f db).map (coverReply hidden)) {db after : Db} {value : α}
    (done : f db = .ok (value, after)) : after.hidden = db.hidden := by
  have same := commutes db db.hidden
  rw [cover_hidden, done] at same
  have covered : (value, after) = (value, after.cover db.hidden) := Except.ok.inj same
  rw [(Prod.mk.inj covered).2]
  rfl

/-! ### Tables -/

@[simp] theorem cover_appendLog (t step : Nat) (role : Role) (content : Json) :
    (db.cover hidden).appendLog env t step role content = (db.appendLog env t step role content).cover hidden := rfl

@[simp] theorem cover_audit (action : String) (details : Json) :
    (db.cover hidden).audit action details = (db.audit action details).cover hidden := rfl

@[simp] theorem cover_updateSession (s : Nat) (set : SessionRow → SessionRow) :
    (db.cover hidden).updateSession s set = (db.updateSession s set).cover hidden := rfl

@[simp] theorem cover_updateTask (t : Nat) (set : TaskRow → TaskRow) :
    (db.cover hidden).updateTask env t set = (db.updateTask env t set).cover hidden := by
  simp only [Db.updateTask, Db.cover_tasks]
  cases db.tasks.get? t <;> rfl

@[simp] theorem cover_bumpStep (t : Nat) : (db.cover hidden).bumpStep env t = (db.bumpStep env t).cover hidden :=
  cover_updateTask t _

@[simp] theorem cover_log (turn : Turn) (role : Role) (content : Json) :
    turn.log env (db.cover hidden) role content = (turn.log env db role content).cover hidden := rfl

@[simp] theorem cover_insertProposal (turn : Turn) (kind : ProposalKind) (changes : Json) (reason : Option String)
    (base : Nat) (agent function : Option Nat) :
    insertProposal (db.cover hidden) turn kind changes reason base agent function =
      (insertProposal db turn kind changes reason base agent function).cover hidden := rfl

@[simp] theorem cover_refuse (turn : Turn) (content reply : List (String × Json)) :
    turn.refuse env (db.cover hidden) content reply = coverReply hidden (turn.refuse env db content reply) := by
  simp only [Turn.refuse, cover_log, cover_bumpStep, coverReply]

@[simp] theorem cover_note (turn : Turn) (content reply : List (String × Json)) :
    turn.note env (db.cover hidden) content reply = coverReply hidden (turn.note env db content reply) := by
  simp only [Turn.note, cover_log, cover_bumpStep, coverReply]

@[simp] theorem cover_insertTask (s agentId : Nat) (parent : Option Nat) (input : Json) (depth : Nat)
    (generation : Option Nat) : (db.cover hidden).insertTask env s agentId parent input depth generation =
      (db.insertTask env s agentId parent input depth generation).cover hidden := rfl

@[simp] theorem cover_insertOutbound (t : Nat) (body : OutboundBody) :
    (db.cover hidden).insertOutbound env t body = (db.insertOutbound env t body).cover hidden := rfl

@[simp] theorem cover_insertSql (t : Nat) (body : SqlBody) :
    (db.cover hidden).insertSql env t body = (db.insertSql env t body).cover hidden := rfl

@[simp] theorem cover_insertFunctionCall (t : Nat) (body : BodyCall) :
    (db.cover hidden).insertFunctionCall env t body = (db.insertFunctionCall env t body).cover hidden := rfl

@[simp] theorem cover_insertProcedureCall (t : Nat) (body : BodyCall) :
    (db.cover hidden).insertProcedureCall env t body = (db.insertProcedureCall env t body).cover hidden := rfl

/-! ### Permissions -/

theorem cover_agentChain (fuel agentId : Nat) : agentChain (db.cover hidden) fuel agentId = agentChain db fuel agentId := by
  induction fuel generalizing agentId with
  | zero => rfl
  | succ fuel ih => simp only [agentChain, Db.cover_agents, ih]

@[simp] theorem cover_chain (agentId : Nat) : (db.cover hidden).chain agentId = db.chain agentId :=
  cover_agentChain _ agentId

@[simp] theorem cover_agentHasPermission (agentId : Nat) (type : ResourceType) (ref : Option String) :
    agentHasPermission env (db.cover hidden) agentId type ref = agentHasPermission env db agentId type ref := by
  simp only [agentHasPermission, cover_chain, Db.cover_permissions]

@[simp] theorem cover_agentPermissionRefs (agentId : Nat) (type : ResourceType) :
    agentPermissionRefs (db.cover hidden) agentId type = agentPermissionRefs db agentId type := by
  simp only [agentPermissionRefs, cover_chain, Db.cover_permissions]

@[simp] theorem cover_grantsProcedure (agentId procedureId : Nat) :
    grantsProcedure (db.cover hidden) agentId procedureId = grantsProcedure db agentId procedureId := by
  simp only [grantsProcedure, cover_agentPermissionRefs, Db.cover_procedures]

@[simp] theorem cover_boundFunction (agentId : Nat) (name : Option String) :
    boundFunction env (db.cover hidden) agentId name = boundFunction env db agentId name := by
  simp only [boundFunction, cover_grantsProcedure, Db.cover_functions, Db.cover_bindings]

@[simp] theorem cover_boundProcedure (agentId functionId : Nat) :
    boundProcedure (db.cover hidden) agentId functionId = boundProcedure db agentId functionId := by
  simp only [boundProcedure, cover_grantsProcedure, Db.cover_bindings]

@[simp] theorem cover_fnValidateSql (agentId : Nat) (sql : Option String) :
    fnValidateSql env (db.cover hidden) agentId sql = fnValidateSql env db agentId sql := by
  have relation : checkRelation env (db.cover hidden) agentId = checkRelation env db agentId := by
    funext ctes ref
    simp only [checkRelation, cover_agentHasPermission, Db.cover_sqlSandboxAllowlist]
  have function : checkFunction env (db.cover hidden) = checkFunction env db := rfl
  simp only [fnValidateSql, checkAnalysis, relation, function]

theorem cover_ancestorAgents (fuel t : Nat) : ancestorAgents (db.cover hidden) fuel t = ancestorAgents db fuel t := by
  induction fuel generalizing t with
  | zero => rfl
  | succ fuel ih => simp only [ancestorAgents, Db.cover_tasks, ih]

@[simp] theorem cover_delegateRefusal (turn : Turn) (name : Option String) (target : Nat) :
    delegateRefusal env (db.cover hidden) turn name target = delegateRefusal env db turn name target := by
  simp only [delegateRefusal, cover_agentHasPermission, cover_ancestorAgents, Db.cover_tasks]

/-! ### Sessions -/

@[simp] theorem cover_maybeCompleteSession (s : Nat) :
    maybeCompleteSession env (db.cover hidden) s = (maybeCompleteSession env db s).cover hidden := by
  have answer : sessionAnswer (db.cover hidden) s = sessionAnswer db s := rfl
  simp only [maybeCompleteSession, Db.cover_tasks, answer, cover_updateSession]
  split
  · rfl
  · split <;> rfl

@[simp] theorem cover_failTask (t : Nat) (task : TaskRow) (error : String) (content : List (String × Json)) :
    failTask env (db.cover hidden) t task error content = (failTask env db t task error content).cover hidden := by
  simp only [failTask, cover_updateTask, cover_appendLog, cover_maybeCompleteSession]

theorem cover_fnCreateSession (agentId : Nat) (goal : Option String) (projectId scheduleId : Option Nat) :
    fnCreateSession env (db.cover hidden) agentId goal projectId scheduleId =
      (fnCreateSession env db agentId goal projectId scheduleId).map fun created => created.cover hidden := by
  have active : (db.cover hidden).isActiveAgent agentId = db.isActiveAgent agentId := rfl
  simp only [fnCreateSession, active, Db.cover_projects]
  split
  · rfl
  · split
    · rfl
    · split <;> rfl

/-! ### Memories -/

@[simp] theorem cover_queueEmbedding (agentId memoryId : Option Nat) (input : String) :
    queueEmbedding env (db.cover hidden) agentId memoryId input =
      (queueEmbedding env db agentId memoryId input).cover hidden := by
  have same : (db.cover hidden).embeddingProvider = db.embeddingProvider := rfl
  simp only [queueEmbedding, same]
  rcases db.embeddingProvider with _ | ⟨id, provider⟩
  · rfl
  · simp only
    cases checkOutboundUrl env.pg (some (provider.baseUrl ++ "/embeddings")) provider.allowPrivateNetwork <;> rfl

@[simp] theorem cover_queueMemoryEmbedding (memoryId : Nat) :
    queueMemoryEmbedding env (db.cover hidden) memoryId = (queueMemoryEmbedding env db memoryId).cover hidden := by
  simp only [queueMemoryEmbedding, Db.cover_memories]
  cases db.memories.get? memoryId <;> simp only [cover_queueEmbedding]

@[simp] theorem cover_queueAgentEmbedding (agentId : Nat) :
    queueAgentEmbedding env (db.cover hidden) agentId = (queueAgentEmbedding env db agentId).cover hidden := by
  have same : (db.cover hidden).policyOf agentId = db.policyOf agentId := rfl
  simp only [queueAgentEmbedding, Db.cover_agents, same]
  cases db.agents.get? agentId <;> simp only [cover_queueEmbedding]

theorem cover_writeMemory (agentId : Nat) (content type importance subject expires : Option String)
    (sessionId taskId : Option Nat) :
    writeMemory env (db.cover hidden) agentId content type importance subject expires sessionId taskId =
      (writeMemory env db agentId content type importance subject expires sessionId taskId).map fun written =>
        (written.1, written.2.1, written.2.2.cover hidden) := by
  simp only [writeMemory]
  split
  · rfl
  · split
    · rfl
    · generalize MemoryRow.mk .. = row
      have queued := @cover_queueMemoryEmbedding env { db with memories := db.memories.insert row } hidden
        db.memories.next
      exact congrArg (fun after : Db => (Except.ok (db.memories.next, (nonEmpty type).getD "semantic",
        { after with memories := evictMemories after.memories agentId }) : Except String (Nat × String × Db))) queued

/-! ### The operator functions an agent reaches -/

theorem cover_fnSetPolicy (agentId : Nat) (prompt : Option String) (config : Option Json) :
    fnSetPolicy (db.cover hidden) agentId prompt config =
      (fnSetPolicy db agentId prompt config).map (coverReply hidden) := by
  have same : (db.cover hidden).policyOf agentId = db.policyOf agentId := rfl
  simp only [fnSetPolicy, same]
  cases db.policyOf agentId with
  | none => rfl
  | some policy =>
    simp only [Db.cover_policyHistory]
    split
    · rfl
    · split <;> rfl

theorem cover_fnCreateAgent (name prompt : Option String) :
    fnCreateAgent env (db.cover hidden) name prompt =
      (fnCreateAgent env db name prompt).map (coverReply hidden) := by
  have same : (db.cover hidden).agentNamed (btrim (name.getD "")) = db.agentNamed (btrim (name.getD "")) := rfl
  simp only [fnCreateAgent, same]
  split
  · rfl
  · split
    · rfl
    · simp only [Db.cover_agents]
      cases env.provisionAgentRole db.agents.next with
      | error message => rfl
      | ok role =>
        have queued := @cover_queueAgentEmbedding env { db with
          agents := db.agents.insert ⟨btrim (name.getD ""), true, false, none, .adminApproval, .emptyObj⟩
          policies := db.policies.insert (newPolicy db.agents.next prompt) } hidden db.agents.next
        exact congrArg (fun after : Db => Except.ok (_, after.audit _ _)) queued

theorem cover_applyFix (kind : FixKind) (target : Nat) (detail : Json) :
    applyFix (db.cover hidden) kind target detail = (applyFix db kind target detail).map (coverReply hidden) := by
  cases kind with
  | revokePermission => rfl
  | deactivateAgent =>
    simp only [applyFix, fnSetAgentActive, Db.cover_agents]
    cases db.agents.get? target <;> rfl

theorem cover_applyFunctionExperimentStart (functionId : Nat) (provider model : String) (percent : Int)
    (sample : Option Int) (proposer : Nat) (reason : Option String) :
    applyFunctionExperimentStart (db.cover hidden) functionId provider model percent sample proposer reason =
      (applyFunctionExperimentStart db functionId provider model percent sample proposer reason).map
        (coverReply hidden) := by
  simp only [applyFunctionExperimentStart, Db.cover_experiments]
  split
  · rfl
  · split
    · rfl
    · split <;> rfl

theorem cover_applyFunctionExperimentPromote (experimentId : Nat) :
    applyFunctionExperimentPromote env (db.cover hidden) experimentId =
      (applyFunctionExperimentPromote env db experimentId).map fun db => db.cover hidden := by
  simp only [applyFunctionExperimentPromote, Db.cover_experiments, Db.cover_providers]
  cases db.experiments.get? experimentId with
  | none => rfl
  | some experiment =>
    simp only
    split <;> rfl

theorem cover_fnCreateFunction (name description body : Option String) (schema : Json) (creator : Option Nat) :
    fnCreateFunction env (db.cover hidden) name description body schema creator =
      (fnCreateFunction env db name description body schema creator).map (coverReply hidden) := by
  simp only [fnCreateFunction, Db.cover_functions]
  split
  · rfl
  · split
    · rfl
    · cases validateFunctionBody env.pg body with
      | error message => rfl
      | ok _ =>
        simp only
        split <;> rfl

theorem cover_fnUpdateFunction (functionId : Nat) (description body : Option String) (schema : Option Json) :
    fnUpdateFunction env (db.cover hidden) functionId description body schema =
      (fnUpdateFunction env db functionId description body schema).map (coverReply hidden) := by
  simp only [fnUpdateFunction, Db.cover_functions]
  cases db.functions.get? functionId with
  | none => rfl
  | some function =>
    simp only
    split
    · rfl
    · cases (if body.isSome then validateFunctionBody env.pg body else .ok ()) <;> rfl

end Allgres
