import Allgres.Dashboard.Chat
import Allgres.Config
import Allgres.Lib.Raising

/-! Agents, policies, grants, proposals, fixes and projects, as an operator edits them. -/

namespace Allgres

open Relational Jsonb Sql Raising

/-- `WHERE id = p_id` finds no row if no id is given. -/
def withRow {α : Type} (id : Option Nat) (missing : String) (run : Nat → Except String α) : Except String α :=
  match id with
  | none => .error missing
  | some id => run id

theorem ensures_withRow {α : Type} {id : Option Nat} {missing : String} {run : Nat → Except String α} {post : α → Prop}
    (found : ∀ key, id = some key → Ensures (run key) post) : Ensures (withRow id missing run) post := by
  cases id with
  | none => exact ensures_error.mpr trivial
  | some key => exact found key rfl

/-! ### Agents -/

def Autonomy.ofText : String → Option Autonomy
  | "auto" => some auto
  | "self_approve" => some selfApprove
  | "admin_approval" => some adminApproval
  | _ => none

def fnSetAgentAutonomy (db : Db) (agentId : Option Nat) (level : Option String) : Except String (Json × Db) :=
  match level.bind Autonomy.ofText with
  | none => .error ("invalid autonomy_level: " ++ level.getD "<NULL>")
  | some level => withRow agentId "agent not found" fun agentId => match db.agents.get? agentId with
    | none => .error "agent not found"
    | some _ =>
      let db := { db with agents := db.agents.modify agentId fun agent => { agent with autonomyLevel := level } }
      .ok (.build [("ok", .bool true), ("autonomy_level", .str level.text)],
        db.audit "agents.set_autonomy" (.build [("agent_id", idJson agentId), ("autonomy_level", .str level.text)]))

/-- A missing flag violates the column's `NOT NULL`, if there is a row to update. -/
def setAgentActive (db : Db) (agentId : Option Nat) (active : Option Bool) : Except String (Json × Db) :=
  withRow agentId "agent not found" fun agentId => match active with
    | some active => fnSetAgentActive db agentId active
    | none =>
      if (db.agents.get? agentId).isSome then
        .error "null value in column \"is_active\" of relation \"agents\" violates not-null constraint"
      else .error "agent not found"

/-! ### Policies -/

/-- The arguments of `fn_set_policy`. -/
structure PolicyEdit where
  prompt : Option String
  maxSteps : Option Int
  maxRetries : Option Int
  llmConfig : Option Json
  maxConcurrentTasks : Option Int
  maxTurnSeconds : Option Int
  clearMaxTurnSeconds : Bool
  maxDelegationDepth : Option Int
  maxSessionTasks : Option Int

def PolicyEdit.none : PolicyEdit :=
  ⟨.none, .none, .none, .none, .none, .none, false, .none, .none⟩

/-- The `CHECK` constraints of `policies`. -/
def PolicyEdit.valid (edit : PolicyEdit) : Bool :=
  let positive (value : Option Int) : Bool := value.all fun value => decide (0 < value)
  let natural (value : Option Int) : Bool := value.all fun value => decide (0 ≤ value)
  positive edit.maxSteps && natural edit.maxRetries && positive edit.maxConcurrentTasks &&
    (edit.clearMaxTurnSeconds || positive edit.maxTurnSeconds) && natural edit.maxDelegationDepth &&
    positive edit.maxSessionTasks

def limitOr (new : Option Int) (old : Nat) : Nat := (new.map Int.toNat).getD old

def PolicyRow.edited (policy : PolicyRow) (edit : PolicyEdit) : PolicyRow :=
  { policy with
    systemPrompt := (nonEmpty edit.prompt).getD policy.systemPrompt
    maxSteps := limitOr edit.maxSteps policy.maxSteps
    maxRetries := limitOr edit.maxRetries policy.maxRetries
    llmConfig := mergedConfig policy edit.llmConfig
    maxConcurrentTasks := limitOr edit.maxConcurrentTasks policy.maxConcurrentTasks
    maxTurnSeconds := if edit.clearMaxTurnSeconds then .none
      else (edit.maxTurnSeconds.map Int.toNat).or policy.maxTurnSeconds
    maxDelegationDepth := limitOr edit.maxDelegationDepth policy.maxDelegationDepth
    maxSessionTasks := limitOr edit.maxSessionTasks policy.maxSessionTasks }

/-- No field `IS DISTINCT FROM` the stored one. -/
def PolicyRow.sameAs (new old : PolicyRow) : Bool :=
  new.systemPrompt == old.systemPrompt && new.maxSteps == old.maxSteps && new.maxRetries == old.maxRetries &&
    new.llmConfig.same old.llmConfig && new.maxConcurrentTasks == old.maxConcurrentTasks &&
    new.maxTurnSeconds == old.maxTurnSeconds && new.maxDelegationDepth == old.maxDelegationDepth &&
    new.maxSessionTasks == old.maxSessionTasks

/-- `fn_set_policy` with all its arguments. -/
def fnSetPolicyFields (db : Db) (agentId : Option Nat) (edit : PolicyEdit) : Except String (Json × Db) :=
  withRow agentId "policy not found" fun agentId => match db.policyOf agentId with
  | none => .error "policy not found"
  | some policy =>
    let new := policy.edited edit
    let changed := !new.sameAs policy
    if changed && db.policyHistory.exists? fun _ old =>
        old.policy.agentId == agentId && old.policy.generation == policy.generation then
      .error "duplicate key value violates unique constraint \"policy_history_agent_id_generation_key\""
    else if !edit.valid then .error "new row for relation \"policies\" violates check constraint"
    else
      let generation := if changed then policy.generation + 1 else policy.generation
      let rate := agentSuccessRateForGeneration db agentId policy.generation 20
      let db := { db with
        policyHistory := if changed then db.policyHistory.insert ⟨policy, rate⟩ else db.policyHistory
        policies := db.policies.update (fun _ row => row.agentId == agentId) fun _ row =>
          { row.edited edit with generation := generation } }
      let db := if changed then
        db.audit "agents.update" (.build [("agent_id", idJson agentId), ("field", .str "policy"),
          ("generation", .ofNat generation), ("llm_config", new.llmConfig), ("max_steps", .ofNat new.maxSteps),
          ("max_retries", .ofNat new.maxRetries), ("max_concurrent_tasks", .ofNat new.maxConcurrentTasks),
          ("max_turn_seconds", .ofOption .ofNat new.maxTurnSeconds),
          ("max_delegation_depth", .ofNat new.maxDelegationDepth),
          ("max_session_tasks", .ofNat new.maxSessionTasks)])
        else db
      .ok (.build [("ok", .bool true), ("generation", .ofNat generation), ("changed", .bool changed)], db)

/-- One pass of the loop of `fn_bulk_set_model`. -/
def setModel (config : Json) (db : Db) (agent : Nat × AgentRow) : Except String Db :=
  (fnSetPolicyFields db (some agent.1) { PolicyEdit.none with llmConfig := some config }).map Prod.snd

def fnBulkSetModel (db : Db) (provider model : Option String) : Except String (Json × Db) :=
  match nonEmpty (provider.map btrim), nonEmpty (model.map btrim) with
  | some _, some _ =>
    if !db.providers.exists? fun _ row => some row.name == provider && row.isEnabled then
      .error ("llm provider \"" ++ provider.getD "" ++ "\" is not configured or not enabled")
    else
      let config := .build [("provider", .optStr provider), ("model", .optStr model)]
      let active := db.agents.select fun _ agent => agent.isActive
      match active.foldlM (setModel config) db with
      | .error message => .error message
      | .ok db =>
        .ok (.build [("ok", .bool true), ("updated_count", .ofNat active.length)],
          db.audit "agents.bulk_set_model" (.build [("provider", .optStr provider), ("model", .optStr model),
            ("updated_count", .ofNat active.length)]))
  | _, _ => .error "provider and model are both required"

/-- The stored version as a new edit. -/
def PolicyRow.restoring (old : PolicyRow) : PolicyEdit where
  prompt := some old.systemPrompt
  maxSteps := some old.maxSteps
  maxRetries := some old.maxRetries
  llmConfig := some old.llmConfig
  maxConcurrentTasks := some old.maxConcurrentTasks
  maxTurnSeconds := old.maxTurnSeconds.map fun count => (count : Int)
  clearMaxTurnSeconds := old.maxTurnSeconds.isNone
  maxDelegationDepth := some old.maxDelegationDepth
  maxSessionTasks := some old.maxSessionTasks

def fnRollbackPolicy (db : Db) (agentId : Option Nat) (generation : Option Int) : Except String (Json × Db) :=
  match db.policyHistory.find? fun _ old =>
      some old.policy.agentId == agentId && some (old.policy.generation : Int) == generation with
  | none => .error ("fn_rollback_policy: no history for that agent at generation " ++
      (generation.map fun value => toString value).getD "<NULL>")
  | some (_, old) =>
    let db := db.audit "policy.rollback" (.build [("agent_id", optId agentId),
      ("restored_generation", .ofOption (fun value => .num value 0) generation)])
    fnSetPolicyFields db agentId old.policy.restoring

/-! ### Grants -/

def fnGrantPermission (db : Db) (agentId : Option Nat) (type ref : Option String) : Except String (Json × Db) :=
  match agentId, type.bind ResourceType.ofText, ref with
  | some agentId, some resourceType, some ref =>
    if (db.agents.get? agentId).isNone then .error "insert or update on table \"permissions\" violates a foreign key"
    else
      let held := db.permissions.exists? fun _ grant =>
        grant.agentId == agentId && grant.resourceType == resourceType && grant.resourceRef == ref
      let db := { db with
        permissions := if held then db.permissions else db.permissions.insert ⟨agentId, resourceType, ref⟩ }
      .ok (.build [("ok", .bool true)], db.audit "permissions.grant" (.build [("agent_id", idJson agentId),
        ("type", .optStr type), ("ref", .str ref)]))
  | _, _, _ => .error "new row for relation \"permissions\" violates a constraint"

/-- Nothing is revoked from no agent. -/
def revokePermission (db : Db) (agentId : Option Nat) (type ref : Option String) : Json × Db :=
  match agentId with
  | some agentId => fnRevokePermission db agentId type ref
  | none => (.build [("ok", .bool true)], db.audit "permissions.revoke" (.build [("agent_id", .null),
      ("type", .optStr type), ("ref", .optStr ref)]))

def fnAllowlistAdd (db : Db) (ref : Option String) : Except String (Json × Db) :=
  match ref with
  | none => .error "null value in column \"resource_ref\" violates not-null constraint"
  | some ref =>
    let db := { db with
      sqlSandboxAllowlist := if db.sqlSandboxAllowlist.contains ref then db.sqlSandboxAllowlist
        else db.sqlSandboxAllowlist ++ [ref] }
    .ok (.build [("ok", .bool true), ("resource_ref", .str ref)],
      db.audit "allowlist.add" (.build [("resource_ref", .str ref)]))

def fnAllowlistDel (db : Db) (ref : Option String) : Json × Db :=
  let db := { db with sqlSandboxAllowlist := db.sqlSandboxAllowlist.filter fun held => some held != ref }
  (.build [("ok", .bool true)], db.audit "allowlist.remove" (.build [("resource_ref", .optStr ref)]))

/-! ### Memories -/

/-- The refusals of `write_memory`. -/
def memoryRefusal (reason : String) (memoryType : Option String) : Json :=
  .build ([("ok", .bool false), ("error", .str reason)] ++
    if reason = "invalid_memory_type" then [("memory_type", .str ((nonEmpty memoryType).getD "semantic"))] else [])

def fnRemember (env : Env) (db : Db) (agentId : Option Nat)
    (content memoryType importance subjectId expiresInDays : Option String) : Except String (Json × Db) :=
  let audited (db : Db) : Db := db.audit "memories.create" (.build [("agent_id", optId agentId),
    ("memory_type", .optStr memoryType), ("content_preview", .optStr (content.map fun text => left text 120))])
  match writeMemory env db (agentId.getD 0) content memoryType importance subjectId expiresInDays none none with
  | .error reason => .ok (memoryRefusal reason memoryType, audited db)
  | .ok (memoryId, memoryType, written) =>
    if (agentId.bind db.agents.get?).isNone then
      .error "insert or update on table \"agent_memories\" violates a constraint"
    else
      .ok (.build [("ok", .bool true), ("memory_id", idJson memoryId), ("memory_type", .str memoryType)], audited written)

def fnForget (db : Db) (memoryId : Option Nat) : Json × Db :=
  let db := { db with memories := db.memories.delete fun key _ => some key == memoryId }
  (.build [("ok", .bool true), ("memory_id", optId memoryId)],
    db.audit "memories.remove" (.build [("memory_id", optId memoryId)]))

/-! ### Proposals and fixes -/

def Site.decideProposal (env : WebEnv) (site : Site) (proposalId : Nat) (status : DecisionStatus)
    (reply : Option String) : Site :=
  { site with
    proposalDecision := Function.update site.proposalDecision proposalId ⟨status, some env.now, reply⟩ }

def proposalAudit (site : Site) (proposalId : Nat) (status : DecisionStatus) (more : List (String × Json)) : Site :=
  site.audit "proposals.decide" (.build (("proposal_id", idJson proposalId) :: ("status", .str status.text) :: more))

/-- A proposal that has been applied, and what it has led to. -/
def approvedProposal (env : WebEnv) (site : Site) (proposalId : Nat) (reply : Option String) (kind : String)
    (more audited : List (String × Json)) : Json × Site :=
  (.build ([("ok", .bool true), ("status", .str "approved")] ++ more),
    proposalAudit (site.decideProposal env proposalId .approved reply) proposalId .approved
      (("kind", .str kind) :: audited))

/-- A proposal that came too late. -/
def staleProposal (env : WebEnv) (site : Site) (proposalId : Nat) (reply : Option String) (reason : String) :
    Json × Site :=
  (.build [("ok", .bool false), ("status", .str "stale")],
    proposalAudit (site.decideProposal env proposalId .stale (some (reply.getD reason))) proposalId .stale [])

/-- `apply_function_experiment_start` on the texts of a proposal. -/
def startProposed (db : Db) (proposal : ProposalRow) : Except String (Nat × Db) :=
  let changes := proposal.proposedChanges
  match castInt (changes.getText? "canary_percent"), castInt (changes.getText? "min_sample_size") with
  | .error message, _ => .error message
  | _, .error message => .error message
  | .ok canary, .ok sample =>
    match proposal.targetFunctionId, changes.getText? "candidate_provider", changes.getText? "candidate_model", canary with
    | some functionId, some provider, some model, some canary =>
      applyFunctionExperimentStart db functionId provider model canary sample proposal.agentId proposal.reason
    | _, _, _, _ => .error "null value in relation \"model_experiments\" violates not-null constraint"

/-- An approved `function_override`. -/
def decideOverride (env : WebEnv) (site : Site) (proposalId : Nat) (proposal : ProposalRow) (reply : Option String) :
    Except String (Json × Site) :=
  let changes := proposal.proposedChanges
  let op := changes.getText? "op"
  let target := ("target_function_id", optId proposal.targetFunctionId)
  if op = some "start_experiment" then
    match startProposed site.db proposal with
    | .error message => .error message
    | .ok (experimentId, db) =>
      let started := ("experiment_id", idJson experimentId)
      .ok (approvedProposal env (site.withDb db) proposalId reply "function_override" [started]
        [("op", .str "start_experiment"), started, target])
  else match castUuid (changes.getText? "experiment_id") with
    | .error message => .error message
    | .ok experimentId =>
      match experimentId.filter fun id => (site.db.experiments.get? id).any fun experiment =>
          some experiment.functionId == proposal.targetFunctionId && experiment.status == .running with
      | none => .ok (staleProposal env site proposalId reply "experiment already decided or no longer running")
      | some experimentId =>
        let done := [("experiment_id", idJson experimentId), ("op", .optStr op)]
        match (if op = some "promote" then applyFunctionExperimentPromote env.toEnv site.db experimentId
          else .ok (applyFunctionExperimentReject env.toEnv site.db experimentId)) with
        | .error message => .error message
        | .ok db =>
          .ok (approvedProposal env (site.withDb db) proposalId reply "function_override" done (target :: done))

/-- What the approval of a proposal applies. -/
def applyProposal (env : WebEnv) (site : Site) (proposalId : Nat) (proposal : ProposalRow) (reply : Option String) :
    Except String (Json × Site) :=
  let changes := proposal.proposedChanges
  match proposal.kind with
  | .createAgent =>
    match fnCreateAgent env.toEnv site.db (changes.getText? "name") (changes.getText? "system_prompt") with
    | .error message => .error message
    | .ok (created, db) =>
      .ok (approvedProposal env (site.withDb db) proposalId reply "create_agent" [("created_agent", created)] [])
  | .createFunction =>
    match fnCreateFunction env.toEnv site.db (changes.getText? "name") (changes.getText? "description")
        (changes.getText? "body") ((changes.get? "param_schema").getD .emptyObj) (some proposal.agentId) with
    | .error message => .error message
    | .ok (created, db) =>
      .ok (approvedProposal env (site.withDb db) proposalId reply "create_function" [("created_function", created)] [])
  | .updateFunction =>
    match withRow proposal.targetFunctionId "function not found" fun functionId =>
        fnUpdateFunction env.toEnv site.db functionId (changes.getText? "description") (changes.getText? "body")
          (changes.get? "param_schema") with
    | .error message => .error message
    | .ok (updated, db) =>
      .ok (approvedProposal env (site.withDb db) proposalId reply "update_function" [("updated_function", updated)]
        [("target_function_id", optId proposal.targetFunctionId)])
  | .functionOverride => decideOverride env site proposalId proposal reply
  | .policyChange =>
    let target := proposal.targetAgentId.getD proposal.agentId
    if site.db.generationOf target ≠ some proposal.baseGeneration then
      .ok (staleProposal env site proposalId reply "base policy changed since this was proposed")
    else match fnSetPolicyFields site.db (some target) { PolicyEdit.none with
        prompt := changes.getText? "system_prompt", llmConfig := changes.get? "llm_config" } with
      | .error message => .error message
      | .ok (policy, db) =>
        .ok (approvedProposal env (site.withDb db) proposalId reply "policy_change" [("policy", policy)]
          [("target_agent_id", idJson target)])

/-- `IF NOT p_approve` is not taken if nothing is said. -/
def fnDecideProposal (env : WebEnv) (site : Site) (proposalId : Option Nat) (approve : Option Bool)
    (reply : Option String) : Except String (Json × Site) :=
  withRow proposalId "fn_decide_proposal: not found" fun proposalId => match site.db.proposals.get? proposalId with
  | none => .error "fn_decide_proposal: not found"
  | some proposal =>
    let status := (site.proposalDecision proposalId).status
    if status ≠ .pending then .error ("fn_decide_proposal: already decided (" ++ status.text ++ ")")
    else if approve.getD true then applyProposal env site proposalId proposal reply
    else
      .ok (.build [("ok", .bool true), ("status", .str "rejected")],
        proposalAudit (site.decideProposal env proposalId .rejected reply) proposalId .rejected [])

def Site.decideFix (env : WebEnv) (site : Site) (fixId : Nat) (status : DecisionStatus) (reply : Option String) : Site :=
  let site := { site with fixDecision := Function.update site.fixDecision fixId ⟨status, some env.now, reply⟩ }
  site.audit "fixes.decide" (.build [("fix_id", idJson fixId), ("status", .str status.text)])

def fnDecideFix (env : WebEnv) (site : Site) (fixId : Option Nat) (approve : Option Bool) (reply : Option String) :
    Except String (Json × Site) :=
  withRow fixId "fn_decide_fix: not found" fun fixId => match site.db.fixes.get? fixId with
  | none => .error "fn_decide_fix: not found"
  | some fix =>
    let status := (site.fixDecision fixId).status
    if status ≠ .pending then .error ("fn_decide_fix: already decided (" ++ status.text ++ ")")
    else if approve.getD true then
      match applyFix site.db fix.fixKind fix.targetAgentId fix.detail with
      | .error message => .error message
      | .ok (result, db) =>
        .ok (.build [("ok", .bool true), ("status", .str "approved"), ("result", result)],
          (site.withDb db).decideFix env fixId .approved reply)
    else .ok (.build [("ok", .bool true), ("status", .str "rejected")], site.decideFix env fixId .rejected reply)

/-! ### Projects -/

def fnCreateProject (site : Site) (name description : Option String) (agentId : Option Nat)
    (presetPrompt : Option String) : Except String (Json × Site) :=
  let name := btrim (name.getD "")
  if name = "" then .error "project name required"
  else if agentId.any fun agent => !site.db.isActiveAgent agent then .error "agent inactive or missing"
  else if site.db.projects.exists? fun project _ => (site.projectInfo project).name == name then
    .error "duplicate key value violates unique constraint \"projects_name_key\""
  else
    let projectId := site.db.projects.next
    let site := { site with
      db := { site.db with projects := site.db.projects.insert ⟨true, nonEmpty (presetPrompt.map btrim)⟩ }
      projectInfo := Function.update site.projectInfo projectId ⟨name, nonEmpty (description.map btrim), agentId⟩ }
    .ok (.build [("ok", .bool true), ("project_id", idJson projectId)],
      site.audit "projects.create" (.build [("project_id", idJson projectId), ("name", .str name)]))

def fnSetProjectActive (site : Site) (projectId : Option Nat) (active : Option Bool) : Except String (Json × Site) :=
  withRow projectId "project not found" fun projectId => match site.db.projects.get? projectId, active with
  | none, _ => .error "project not found"
  | some _, none => .error "null value in column \"is_active\" of relation \"projects\" violates not-null constraint"
  | some _, some active =>
    let site := site.withDb { site.db with
      projects := site.db.projects.modify projectId fun project => { project with isActive := active } }
    .ok (.build [("ok", .bool true), ("is_active", .bool active)],
      site.audit "projects.update" (.build [("project_id", idJson projectId), ("is_active", .bool active)]))

def fnSetProjectConfig (site : Site) (projectId agentId : Option Nat) (presetPrompt : Option String) :
    Except String (Json × Site) :=
  if agentId.any fun agent => !site.db.isActiveAgent agent then .error "agent inactive or missing"
  else withRow projectId "project not found" fun projectId => match site.db.projects.get? projectId with
  | none => .error "project not found"
  | some _ =>
    let info := site.projectInfo projectId
    let site := { site with
      db := { site.db with projects := site.db.projects.modify projectId fun project =>
        { project with presetPrompt := presetPrompt.or project.presetPrompt } }
      projectInfo := Function.update site.projectInfo projectId { info with agentId := agentId.or info.agentId } }
    .ok (.build [("ok", .bool true)], site.audit "projects.update" (.build [("project_id", idJson projectId),
      ("agent_id", optId agentId), ("preset_prompt", .optStr presetPrompt)]))

end Allgres
