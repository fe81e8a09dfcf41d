import Allgres.Dashboard.Rpc
import Allgres.Refine.Abstraction
import Allgres.Lib.Raising

/-! What a decision on a proposal, on a fix or on an approval changes if it is not a yes. -/

namespace Allgres

open Relational Jsonb Sql Raising

variable {env : WebEnv} {site later : Site} {db db' : Db} {proposal : ProposalRow}

/-- The tables that proposals and fixes are about. -/
structure SameGoverned (db db' : Db) : Prop where
  policies : db'.policies = db.policies
  permissions : db'.permissions = db.permissions
  agents : db'.agents = db.agents
  functions : db'.functions = db.functions
  procedures : db'.procedures = db.procedures
  experiments : db'.experiments = db.experiments

theorem SameGoverned.refl (db : Db) : SameGoverned db db := ⟨rfl, rfl, rfl, rfl, rfl, rfl⟩

/-- No task that waited for a human is in the queue again. -/
def NoneResumed (db db' : Db) : Prop :=
  ∀ t task task', db.tasks.get? t = some task → task.status = .waitingHuman → db'.tasks.get? t = some task' →
    task'.status ≠ .queued

theorem NoneResumed.of_tasks (same : db'.tasks = db.tasks) : NoneResumed db db' := by
  intro t task task' here waiting there
  rw [same, here] at there
  obtain rfl := Option.some.inj there
  rw [waiting]
  exact TaskStatus.noConfusion

/-- The computation returns, and it has changed what proposals and fixes are about. -/
def Alters {α : Type} (db : Db) (tables : α → Db) (result : Except String α) : Prop :=
  ∃ value, result = .ok value ∧ ¬ SameGoverned db (tables value)

@[simp] theorem alters_error {α : Type} {tables : α → Db} {message : String} :
    Alters db tables (.error message) ↔ False := by
  simp [Alters]

@[simp] theorem alters_ok {α : Type} {tables : α → Db} {value : α} :
    Alters db tables (.ok value) ↔ ¬ SameGoverned db (tables value) := by
  simp [Alters]

theorem alters_bind {α β : Type} {tables : β → Db} {program : Except String α} {next : α → Except String β} :
    Alters db tables (program >>= next) ↔ ∃ value, program = .ok value ∧ Alters db tables (next value) := by
  rcases program with message | value
  · simp
  · simp

/-! ### What each kind of proposal changes -/

/-- `fn_create_agent` takes the name. -/
structure CreatesAgent (env : Env) (db : Db) (name : Option String) : Prop where
  named : btrim (name.getD "") ≠ ""
  fresh : db.agentNamed (btrim (name.getD "")) = none
  provisioned : ∃ role, env.provisionAgentRole db.agents.next = .ok role

theorem queueEmbedding_only (env : Env) (db : Db) (agentId memoryId : Option Nat) (input : String) :
    ∃ calls, queueEmbedding env db agentId memoryId input = { db with embeddingCalls := calls } := by
  unfold queueEmbedding
  split
  · exact ⟨db.embeddingCalls, rfl⟩
  · dsimp only
    split
    · exact ⟨db.embeddingCalls, rfl⟩
    · exact ⟨_, rfl⟩

theorem queueAgentEmbedding_only (env : Env) (db : Db) (agentId : Nat) :
    ∃ calls, queueAgentEmbedding env db agentId = { db with embeddingCalls := calls } := by
  unfold queueAgentEmbedding
  split
  · exact ⟨db.embeddingCalls, rfl⟩
  · exact queueEmbedding_only env db (some agentId) none _

theorem fnCreateAgent_alters (env : Env) (db : Db) (name prompt : Option String) :
    Alters db Prod.snd (fnCreateAgent env db name prompt) ↔ CreatesAgent env db name := by
  unfold fnCreateAgent
  dsimp only
  split
  · rename_i blank
    rw [alters_error, false_iff]
    exact fun creates => creates.named blank
  · rename_i named
    split
    · rename_i taken
      rw [alters_error, false_iff]
      intro creates
      rw [creates.fresh] at taken
      cases taken
    · rename_i fresh
      split
      · rename_i message refused
        rw [alters_error, false_iff]
        rintro ⟨-, -, role, provisioned⟩
        rw [refused] at provisioned
        cases provisioned
      · rename_i role provisioned
        rw [alters_ok, iff_true_right ⟨named, by simpa using fresh, role, provisioned⟩]
        intro same
        obtain ⟨calls, queued⟩ := queueAgentEmbedding_only env { db with
          agents := db.agents.insert ⟨btrim (name.getD ""), true, false, none, .adminApproval, .emptyObj⟩
          policies := db.policies.insert (newPolicy db.agents.next prompt) } db.agents.next
        have agents := same.agents
        rw [queued] at agents
        exact Table.insert_ne db.agents _ agents

/-- `fn_create_function` takes the name, the description and the body. -/
structure CreatesFunction (env : Env) (db : Db) (name description body : Option String) : Prop where
  named : isFunctionName (env.pg.lower (btrim (name.getD ""))) = true
  described : (nonEmpty (description.map btrim)).isSome
  body : validateFunctionBody env.pg body = .ok ()
  fresh : (db.functions.exists? fun _ function => function.name == env.pg.lower (btrim (name.getD ""))) = false

theorem fnCreateFunction_alters (env : Env) (db : Db) (name description body : Option String) (schema : Json)
    (creator : Option Nat) :
    Alters db Prod.snd (fnCreateFunction env db name description body schema creator) ↔
      CreatesFunction env db name description body := by
  unfold fnCreateFunction
  dsimp only
  split
  · rename_i unnamed
    rw [alters_error, false_iff]
    intro creates
    rw [creates.named] at unnamed
    cases unnamed
  · rename_i named
    split
    · rename_i silent
      rw [alters_error, false_iff]
      intro creates
      have described := creates.described
      rw [← Option.not_isNone, silent] at described
      cases described
    · rename_i described
      split
      · rename_i message refused
        rw [alters_error, false_iff]
        intro creates
        rw [creates.body] at refused
        cases refused
      · rename_i valid
        split
        · rename_i taken
          rw [alters_error, false_iff]
          intro creates
          rw [creates.fresh] at taken
          cases taken
        · rename_i fresh
          rw [alters_ok, iff_true_right ⟨by simpa using named, by simpa [Option.isSome_iff_ne_none] using described,
            valid, by simpa using fresh⟩]
          intro same
          exact Table.insert_ne db.functions _ same.functions

/-- The row after `fn_update_function`. -/
def FunctionRow.rewritten (env : Env) (function : FunctionRow) (description body : Option String)
    (schema : Option Json) : FunctionRow :=
  { function with
    description := (nonEmpty (description.map btrim)).getD function.description
    body := body.or function.body
    paramSchema := schema.getD function.paramSchema
    buildStatus := if body.isSome then .pending else function.buildStatus
    updatedAt := env.now }

/-- `fn_update_function` takes the body, and the row is not as before. -/
def RewritesFunction (env : Env) (db : Db) (functionId : Option Nat) (description body : Option String)
    (schema : Option Json) : Prop :=
  ∃ id function, functionId = some id ∧ db.functions.get? id = some function ∧ function.handler = .plpgsql ∧
    (body.isSome → validateFunctionBody env.pg body = .ok ()) ∧
    function.rewritten env description body schema ≠ function

theorem fnUpdateFunction_alters (env : Env) (db : Db) (functionId : Option Nat) (description body : Option String)
    (schema : Option Json) :
    Alters db Prod.snd (withRow functionId "function not found" fun id =>
      fnUpdateFunction env db id description body schema) ↔
        RewritesFunction env db functionId description body schema := by
  rcases functionId with _ | id
  · simp [withRow, RewritesFunction]
  · unfold withRow fnUpdateFunction
    dsimp only
    split
    · rename_i absent
      simp [RewritesFunction, absent]
    · rename_i function here
      split
      · rename_i fixed
        simp [RewritesFunction, here, fixed]
      · rename_i editable
        rw [not_not] at editable
        split
        · rename_i message refused
          split at refused
          · rename_i given
            simp [RewritesFunction, given, refused]
          · cases refused
        · rename_i valid
          have accepted : body.isSome → validateFunctionBody env.pg body = .ok () := by
            intro given
            rwa [if_pos given] at valid
          rw [alters_ok]
          constructor
          · intro differs
            refine ⟨id, function, rfl, here, editable, accepted, fun same => differs ?_⟩
            have functions := Table.modify_eq_self_iff.mpr (show ∀ row, db.functions.get? id = some row →
                row.rewritten env description body schema = row from by
              intro row found
              obtain rfl := Option.some.inj (here.symm.trans found)
              exact same)
            exact { SameGoverned.refl db with functions := functions }
          · rintro ⟨other, row, named, found, -, -, differs⟩ same
            obtain rfl := Option.some.inj named
            have functions : db.functions.modify id (fun row => row.rewritten env description body schema) =
                db.functions := same.functions
            exact differs (Table.modify_eq_self_iff.mp functions row found)

/-- `apply_function_experiment_start` takes the texts of the proposal. -/
structure StartsExperiment (db : Db) (proposal : ProposalRow) (functionId : Nat) (canary : Int)
    (sample : Option Int) : Prop where
  target : proposal.targetFunctionId = some functionId
  share : castInt (proposal.proposedChanges.getText? "canary_percent") = .ok (some canary)
  size : castInt (proposal.proposedChanges.getText? "min_sample_size") = .ok sample
  provider : (proposal.proposedChanges.getText? "candidate_provider").isSome
  model : (proposal.proposedChanges.getText? "candidate_model").isSome
  percent : 0 < canary ∧ canary ≤ 100
  positive : 0 < sample.getD 20
  alone : (db.experiments.exists? fun _ other => other.functionId == functionId && other.status == .running) = false

theorem startProposed_alters (db : Db) (proposal : ProposalRow) :
    Alters db Prod.snd (startProposed db proposal) ↔
      ∃ functionId canary sample, StartsExperiment db proposal functionId canary sample := by
  unfold startProposed
  dsimp only
  split
  · rename_i message refused
    rw [alters_error, false_iff]
    rintro ⟨functionId, canary, sample, starts⟩
    rw [starts.share] at refused
    cases refused
  · rename_i message refused _
    rw [alters_error, false_iff]
    rintro ⟨functionId, canary, sample, starts⟩
    rw [starts.size] at refused
    cases refused
  · rename_i percent count canary sample
    split
    · rename_i functionId provider model percent target provided modelled
      unfold applyFunctionExperimentStart
      dsimp only
      split
      · rename_i outside
        rw [alters_error, false_iff]
        rintro ⟨_, _, _, starts⟩
        obtain rfl := Option.some.inj (Except.ok.inj (canary.symm.trans starts.share))
        have inside := starts.percent
        omega
      · rename_i inside
        split
        · rename_i negative
          rw [alters_error, false_iff]
          rintro ⟨_, _, _, starts⟩
          obtain rfl := Except.ok.inj (sample.symm.trans starts.size)
          have positive := starts.positive
          omega
        · rename_i positive
          split
          · rename_i running
            rw [alters_error, false_iff]
            rintro ⟨_, _, _, starts⟩
            obtain rfl := Option.some.inj (target.symm.trans starts.target)
            rw [starts.alone] at running
            cases running
          · rename_i alone
            rw [alters_ok, iff_true_right ⟨functionId, percent, count, target, canary, sample, by simp [provided],
              by simp [modelled], by omega, by omega, by simpa using alone⟩]
            intro same
            exact Table.insert_ne db.experiments _ same.experiments
    · rename_i incomplete
      rw [alters_error, false_iff]
      rintro ⟨functionId, canary', sample', starts⟩
      obtain rfl := Except.ok.inj (canary.symm.trans starts.share)
      obtain ⟨provider, provided⟩ := Option.isSome_iff_exists.mp starts.provider
      obtain ⟨model, modelled⟩ := Option.isSome_iff_exists.mp starts.model
      exact incomplete functionId provider model canary' starts.target provided modelled rfl

/-- The proposal names a running experiment with its function, and a candidate
that is to be promoted has a provider that is enabled. -/
def ClosesExperiment (db : Db) (proposal : ProposalRow) : Prop :=
  ∃ experimentId experiment,
    castUuid (proposal.proposedChanges.getText? "experiment_id") = .ok (some experimentId) ∧
    db.experiments.get? experimentId = some experiment ∧
    some experiment.functionId = proposal.targetFunctionId ∧ experiment.status = .running ∧
    (proposal.proposedChanges.getText? "op" = some "promote" →
      (db.providers.exists? fun _ provider =>
        provider.name == experiment.candidateProvider && provider.isEnabled) = true)

/-- The edit of a proposal that is approved. -/
def proposedEdit (changes : Json) : PolicyEdit :=
  { PolicyEdit.none with prompt := changes.getText? "system_prompt", llmConfig := changes.get? "llm_config" }

/-- `fn_set_policy` stores a row of the agent's that is not as before. -/
def EditsPolicy (db : Db) (agentId : Nat) (edit : PolicyEdit) : Prop :=
  ∃ policy, db.policyOf agentId = some policy ∧
    ((policy.edited edit).sameAs policy = false → (db.policyHistory.exists? fun _ old =>
      old.policy.agentId == agentId && old.policy.generation == policy.generation) = false) ∧
    ∃ key row, db.policies.get? key = some row ∧ row.agentId = agentId ∧
      { row.edited edit with
        generation := if (policy.edited edit).sameAs policy then policy.generation else policy.generation + 1 } ≠ row

theorem fnSetPolicyFields_alters {edit : PolicyEdit} (valid : edit.valid = true) (db : Db) (agentId : Nat) :
    Alters db Prod.snd (fnSetPolicyFields db (some agentId) edit) ↔ EditsPolicy db agentId edit := by
  unfold fnSetPolicyFields withRow
  dsimp only
  split
  · rename_i absent
    simp [EditsPolicy, absent]
  · rename_i policy found
    split
    · rename_i archived
      rw [Bool.and_eq_true, Bool.not_eq_true'] at archived
      rw [alters_error, false_iff]
      rintro ⟨other, found', fresh, -⟩
      obtain rfl := Option.some.inj (found.symm.trans found')
      rw [fresh archived.1] at archived
      cases archived.2
    · rename_i fresh
      rw [if_neg (by simp [valid]), alters_ok]
      have stored (later : Db) (generation : Nat)
          (reached : generation = if (policy.edited edit).sameAs policy then policy.generation else policy.generation + 1)
          (policies : later.policies = db.policies.update (fun _ row => row.agentId == agentId) fun _ row =>
            { row.edited edit with generation := generation })
          (others : later.permissions = db.permissions ∧ later.agents = db.agents ∧ later.functions = db.functions ∧
            later.procedures = db.procedures ∧ later.experiments = db.experiments) :
          ¬ SameGoverned db later ↔ EditsPolicy db agentId edit := by
        subst reached
        constructor
        · intro differs
          have changed : ¬ later.policies = db.policies := by
            intro same
            exact differs ⟨same, others.1, others.2.1, others.2.2.1, others.2.2.2.1, others.2.2.2.2⟩
          rw [policies, Table.update_eq_self_iff] at changed
          push Not at changed
          obtain ⟨key, row, here, owned, different⟩ := changed
          refine ⟨policy, found, fun edited => ?_, key, row, here, eq_of_beq owned, different⟩
          simpa [edited] using fresh
        · rintro ⟨other, found', -, key, row, here, owned, different⟩ same
          obtain rfl := Option.some.inj (found.symm.trans found')
          have kept := Table.update_eq_self_iff.mp (policies.symm.trans same.policies) key row here
          exact different (kept (beq_iff_eq.mpr owned))
      split
      · rename_i edited
        exact stored _ (policy.generation + 1) (by simpa using edited) rfl ⟨rfl, rfl, rfl, rfl, rfl⟩
      · rename_i same
        exact stored _ policy.generation (by simpa using same) rfl ⟨rfl, rfl, rfl, rfl, rfl⟩

/-- What an approval of the proposal would change: the agent, the function, the
experiment or the policy that it is about. -/
def ProposalRow.Changes (env : Env) (db : Db) (proposal : ProposalRow) : Prop :=
  let changes := proposal.proposedChanges
  match proposal.kind with
  | .createAgent => CreatesAgent env db (changes.getText? "name")
  | .createFunction =>
    CreatesFunction env db (changes.getText? "name") (changes.getText? "description") (changes.getText? "body")
  | .updateFunction =>
    RewritesFunction env db proposal.targetFunctionId (changes.getText? "description") (changes.getText? "body")
      (changes.get? "param_schema")
  | .functionOverride =>
    if changes.getText? "op" = some "start_experiment" then
      ∃ functionId canary sample, StartsExperiment db proposal functionId canary sample
    else ClosesExperiment db proposal
  | .policyChange =>
    let target := proposal.targetAgentId.getD proposal.agentId
    db.generationOf target = some proposal.baseGeneration ∧ EditsPolicy db target (proposedEdit changes)

/-! ### Decisions on proposals -/

theorem sameGoverned_approved {proposalId : Nat} {reply : Option String} {kind : String}
    {more audited : List (String × Json)} :
    SameGoverned db (approvedProposal env site proposalId reply kind more audited).2.db ↔ SameGoverned db site.db := by
  constructor
  · rintro ⟨policies, permissions, agents, functions, procedures, experiments⟩
    exact ⟨policies, permissions, agents, functions, procedures, experiments⟩
  · rintro ⟨policies, permissions, agents, functions, procedures, experiments⟩
    exact ⟨policies, permissions, agents, functions, procedures, experiments⟩

theorem experiments_closed {experimentId : Nat} {experiment : ExperimentRow} {status : ExperimentStatus}
    {time : Option Time} (found : db.experiments.get? experimentId = some experiment)
    (running : experiment.status = .running) (ends : status ≠ .running)
    (later : db'.experiments = db.experiments.modify experimentId fun row =>
      { row with status := status, decidedAt := time }) : ¬ SameGoverned db db' := by
  intro same
  have kept := Table.modify_eq_self_iff.mp (later.symm.trans same.experiments) experiment found
  exact ends ((congrArg ExperimentRow.status kept).trans running)

theorem decideOverride_alters (proposalId : Nat) (proposal : ProposalRow) (reply : Option String) :
    Alters site.db (fun answer : Json × Site => answer.2.db) (decideOverride env site proposalId proposal reply) ↔
      if proposal.proposedChanges.getText? "op" = some "start_experiment" then
        ∃ functionId canary sample, StartsExperiment site.db proposal functionId canary sample
      else ClosesExperiment site.db proposal := by
  unfold decideOverride
  dsimp only
  split
  · rw [← startProposed_alters]
    cases startProposed site.db proposal with
    | error message => simp only [alters_error]
    | ok started => rw [alters_ok, alters_ok, sameGoverned_approved, Site.withDb]
  · split
    · rename_i message refused
      rw [alters_error, false_iff]
      rintro ⟨experimentId, experiment, cast, -⟩
      rw [cast] at refused
      cases refused
    · rename_i named cast
      split
      · rename_i stale
        rw [alters_ok]
        refine iff_of_false (not_not.mpr ⟨rfl, rfl, rfl, rfl, rfl, rfl⟩) ?_
        rintro ⟨experimentId, experiment, cast', found, function, running, -⟩
        obtain rfl := Except.ok.inj (cast.symm.trans cast')
        rw [Option.filter_eq_none_iff] at stale
        have refused := stale experimentId rfl
        simp [found, function, running] at refused
      · rename_i experimentId chosen
        rw [Option.filter_eq_some_iff] at chosen
        obtain ⟨rfl, matching⟩ := chosen
        obtain ⟨experiment, found, fits⟩ := (Option.any_eq_true _ _).mp matching
        simp only [Bool.and_eq_true, beq_iff_eq] at fits
        split
        · rename_i message refused
          rw [alters_error, false_iff]
          rintro ⟨other, row, cast', found', function, running, enabled⟩
          obtain rfl := Option.some.inj (Except.ok.inj (cast.symm.trans cast'))
          obtain rfl := Option.some.inj (found.symm.trans found')
          split at refused
          · rename_i promotes
            rw [applyFunctionExperimentPromote, found] at refused
            dsimp only at refused
            rw [enabled promotes] at refused
            cases refused
          · cases refused
        · rename_i db' closed
          rw [alters_ok, sameGoverned_approved, Site.withDb]
          have enabled : proposal.proposedChanges.getText? "op" = some "promote" →
              (site.db.providers.exists? fun _ provider =>
                provider.name == experiment.candidateProvider && provider.isEnabled) = true := by
            intro promotes
            rw [if_pos promotes, applyFunctionExperimentPromote, found] at closed
            dsimp only at closed
            split at closed
            · cases closed
            · rename_i available
              simpa using available
          rw [iff_true_right ⟨experimentId, experiment, cast, found, fits.1, fits.2, enabled⟩]
          split at closed
          · rw [applyFunctionExperimentPromote, found] at closed
            dsimp only at closed
            split at closed
            · cases closed
            · obtain rfl := Except.ok.inj closed
              exact experiments_closed found fits.2 ExperimentStatus.noConfusion rfl
          · obtain rfl := Except.ok.inj closed
            exact experiments_closed found fits.2 ExperimentStatus.noConfusion rfl

theorem alters_approved {result : Except String (Json × Db)} {proposalId : Nat} {reply : Option String} {kind : String}
    {more : Json → List (String × Json)} {audited : List (String × Json)} :
    Alters db (fun answer : Json × Site => answer.2.db)
      (match result with
        | .error message => .error message
        | .ok (value, db) => .ok (approvedProposal env (site.withDb db) proposalId reply kind (more value) audited)) ↔
      Alters db Prod.snd result := by
  rcases result with message | ⟨value, db'⟩
  · simp only [alters_error]
  · rw [alters_ok, alters_ok, sameGoverned_approved, Site.withDb]

theorem applyProposal_alters (proposalId : Nat) (proposal : ProposalRow) (reply : Option String) :
    Alters site.db (fun answer : Json × Site => answer.2.db) (applyProposal env site proposalId proposal reply) ↔
      proposal.Changes env.toEnv site.db := by
  unfold applyProposal ProposalRow.Changes
  dsimp only
  rcases proposal.kind
  case createAgent =>
    dsimp only
    rw [← fnCreateAgent_alters env.toEnv site.db _ (proposal.proposedChanges.getText? "system_prompt")]
    generalize fnCreateAgent _ _ _ _ = result
    exact alters_approved
  case createFunction =>
    dsimp only
    rw [← fnCreateFunction_alters env.toEnv site.db _ _ _
      ((proposal.proposedChanges.get? "param_schema").getD .emptyObj) (some proposal.agentId)]
    generalize fnCreateFunction _ _ _ _ _ _ _ = result
    exact alters_approved
  case updateFunction =>
    dsimp only
    rw [← fnUpdateFunction_alters]
    generalize withRow _ _ _ = result
    exact alters_approved
  case functionOverride => exact decideOverride_alters proposalId proposal reply
  case policyChange =>
    dsimp only
    split
    · rename_i moved
      rw [alters_ok]
      exact iff_of_false (not_not.mpr ⟨rfl, rfl, rfl, rfl, rfl, rfl⟩) fun changes => moved changes.1
    · rename_i current
      rw [not_not] at current
      rw [and_iff_right current, ← fnSetPolicyFields_alters rfl, proposedEdit]
      generalize fnSetPolicyFields _ _ _ = result
      exact alters_approved

/-- Only a proposal that nothing is said about is applied without a yes. -/
theorem fnDecideProposal_alters {approve : Option Bool} (unapproved : approve ≠ some true) (proposalId : Option Nat)
    (reply : Option String) :
    Alters site.db (fun answer : Json × Site => answer.2.db) (fnDecideProposal env site proposalId approve reply) ↔
      approve = none ∧ ∃ id proposal, proposalId = some id ∧ site.db.proposals.get? id = some proposal ∧
        (site.proposalDecision id).status = .pending ∧ proposal.Changes env.toEnv site.db := by
  rcases proposalId with _ | id
  · simp [fnDecideProposal, withRow]
  · unfold fnDecideProposal withRow
    dsimp only
    split
    · rename_i absent
      simp [absent]
    · rename_i proposal found
      split
      · rename_i decided
        simp [decided]
      · rename_i pending
        rw [not_not] at pending
        rcases approve with _ | _ | _
        · rw [Option.getD_none, if_pos rfl, applyProposal_alters]
          simp [found, pending]
        · simp only [Option.getD_some, Bool.false_eq_true, if_false, alters_ok]
          exact iff_of_false (not_not.mpr ⟨rfl, rfl, rfl, rfl, rfl, rfl⟩) (by simp)
        · exact absurd rfl unapproved

/-! ### Decisions on fixes -/

/-- What an approval of the fix would change. -/
def FixRow.Changes (db : Db) (fix : FixRow) : Prop :=
  match fix.fixKind with
  | .revokePermission => ∃ key grant text, db.permissions.get? key = some grant ∧ grant.agentId = fix.targetAgentId ∧
      fix.detail.getText? "resource_type" = some text ∧ ResourceType.ofText text = some grant.resourceType ∧
      fix.detail.getText? "resource_ref" = some grant.resourceRef
  | .deactivateAgent => ∃ agent, db.agents.get? fix.targetAgentId = some agent ∧ agent.isActive = true

theorem applyFix_alters (db : Db) (fix : FixRow) :
    Alters db Prod.snd (applyFix db fix.fixKind fix.targetAgentId fix.detail) ↔ fix.Changes db := by
  unfold applyFix FixRow.Changes
  rcases fix.fixKind
  case revokePermission =>
    dsimp only
    rw [alters_ok]
    have revoked : SameGoverned db (fnRevokePermission db fix.targetAgentId (fix.detail.getText? "resource_type")
        (fix.detail.getText? "resource_ref")).2 ↔ ∀ key grant, db.permissions.get? key = some grant →
          (grant.agentId == fix.targetAgentId &&
            (fix.detail.getText? "resource_type").any (fun text => ResourceType.ofText text == some grant.resourceType) &&
            (fix.detail.getText? "resource_ref").any fun text => text == grant.resourceRef) = false := by
      rw [← Table.delete_eq_self_iff]
      exact ⟨fun same => same.permissions, fun same => { SameGoverned.refl db with permissions := same }⟩
    rw [revoked]
    push Not
    simp only [ne_eq, Bool.not_eq_false, Bool.and_eq_true, beq_iff_eq, Option.any_eq_true]
    constructor
    · rintro ⟨key, grant, held, ⟨owner, text, given, type⟩, ref, named, rfl⟩
      exact ⟨key, grant, text, held, owner, given, type, named⟩
    · rintro ⟨key, grant, text, held, owner, given, type, named⟩
      exact ⟨key, grant, held, ⟨owner, text, given, type⟩, grant.resourceRef, named, rfl⟩
  case deactivateAgent =>
    dsimp only
    unfold fnSetAgentActive
    split
    · rename_i absent
      simp [absent]
    · rename_i agent found
      rw [alters_ok]
      constructor
      · intro differs
        refine ⟨agent, found, ?_⟩
        by_contra idle
        have kept := Table.modify_eq_self_iff.mpr (show ∀ row, db.agents.get? fix.targetAgentId = some row →
            { row with isActive := false } = row from by
          intro row found'
          obtain rfl := Option.some.inj (found.symm.trans found')
          rw [← Bool.eq_false_of_not_eq_true idle])
        exact differs { SameGoverned.refl db with agents := kept }
      · rintro ⟨row, found', active⟩ same
        have agents : db.agents.modify fix.targetAgentId (fun agent => { agent with isActive := false }) = db.agents :=
          same.agents
        have kept := congrArg AgentRow.isActive (Table.modify_eq_self_iff.mp agents row found')
        rw [active] at kept
        cases kept

theorem sameGoverned_decideFix {fixId : Nat} {status : DecisionStatus} {reply : Option String} :
    SameGoverned db (site.decideFix env fixId status reply).db ↔ SameGoverned db site.db := by
  constructor
  · rintro ⟨policies, permissions, agents, functions, procedures, experiments⟩
    exact ⟨policies, permissions, agents, functions, procedures, experiments⟩
  · rintro ⟨policies, permissions, agents, functions, procedures, experiments⟩
    exact ⟨policies, permissions, agents, functions, procedures, experiments⟩

theorem fnDecideFix_alters {approve : Option Bool} (unapproved : approve ≠ some true) (fixId : Option Nat)
    (reply : Option String) :
    Alters site.db (fun answer : Json × Site => answer.2.db) (fnDecideFix env site fixId approve reply) ↔
      approve = none ∧ ∃ id fix, fixId = some id ∧ site.db.fixes.get? id = some fix ∧
        (site.fixDecision id).status = .pending ∧ fix.Changes site.db := by
  rcases fixId with _ | id
  · simp [fnDecideFix, withRow]
  · unfold fnDecideFix withRow
    dsimp only
    split
    · rename_i absent
      simp [absent]
    · rename_i fix found
      split
      · rename_i decided
        simp [decided]
      · rename_i pending
        rw [not_not] at pending
        rcases approve with _ | _ | _
        · rw [Option.getD_none, if_pos rfl]
          have applied := applyFix_alters site.db fix
          generalize applyFix site.db fix.fixKind fix.targetAgentId fix.detail = result at applied ⊢
          have whole : Alters site.db Prod.snd result ↔ (none : Option Bool) = none ∧ ∃ other row, some id = some other ∧
              site.db.fixes.get? other = some row ∧ (site.fixDecision other).status = .pending ∧ row.Changes site.db := by
            rw [applied]
            simp [found, pending]
          rw [← whole]
          rcases result with message | ⟨value, db'⟩
          · simp only [alters_error]
          · rw [alters_ok, alters_ok, sameGoverned_decideFix, Site.withDb]
        · simp only [Option.getD_some, Bool.false_eq_true, if_false, alters_ok]
          exact iff_of_false (not_not.mpr (sameGoverned_decideFix.mpr (.refl site.db))) (by simp)
        · exact absurd rfl unapproved

/-! ### The tasks -/

theorem fnCreateAgent_tasks (env : Env) (db : Db) (name prompt : Option String) :
    Ensures (fnCreateAgent env db name prompt) fun answer => answer.2.tasks = db.tasks := by
  unfold fnCreateAgent
  dsimp only
  split
  · exact ensures_error.mpr trivial
  · split
    · exact ensures_error.mpr trivial
    · split
      · exact ensures_error.mpr trivial
      · rw [ensures_ok]
        obtain ⟨calls, queued⟩ := queueAgentEmbedding_only env { db with
          agents := db.agents.insert ⟨btrim (name.getD ""), true, false, none, .adminApproval, .emptyObj⟩
          policies := db.policies.insert (newPolicy db.agents.next prompt) } db.agents.next
        rw [queued]
        rfl

theorem fnCreateFunction_tasks (env : Env) (db : Db) (name description body : Option String) (schema : Json)
    (creator : Option Nat) :
    Ensures (fnCreateFunction env db name description body schema creator) fun answer => answer.2.tasks = db.tasks := by
  unfold fnCreateFunction
  dsimp only
  split
  · exact ensures_error.mpr trivial
  · split
    · exact ensures_error.mpr trivial
    · split
      · exact ensures_error.mpr trivial
      · split
        · exact ensures_error.mpr trivial
        · exact ensures_ok.mpr rfl

theorem fnUpdateFunction_tasks (env : Env) (db : Db) (functionId : Option Nat) (description body : Option String)
    (schema : Option Json) :
    Ensures (withRow functionId "function not found" fun id => fnUpdateFunction env db id description body schema)
      fun answer => answer.2.tasks = db.tasks := by
  refine ensures_withRow fun id _ => ?_
  unfold fnUpdateFunction
  split
  · exact ensures_error.mpr trivial
  · split
    · exact ensures_error.mpr trivial
    · split
      · exact ensures_error.mpr trivial
      · exact ensures_ok.mpr rfl

theorem fnSetPolicyFields_tasks (db : Db) (agentId : Option Nat) (edit : PolicyEdit) :
    Ensures (fnSetPolicyFields db agentId edit) fun answer => answer.2.tasks = db.tasks := by
  refine ensures_withRow fun id _ => ?_
  split
  · exact ensures_error.mpr trivial
  · dsimp only
    split
    · exact ensures_error.mpr trivial
    · split
      · exact ensures_error.mpr trivial
      · rw [ensures_ok]
        dsimp only
        split <;> rfl

theorem startProposed_tasks (db : Db) (proposal : ProposalRow) :
    Ensures (startProposed db proposal) fun answer => answer.2.tasks = db.tasks := by
  unfold startProposed
  dsimp only
  split
  · exact ensures_error.mpr trivial
  · exact ensures_error.mpr trivial
  · split
    · unfold applyFunctionExperimentStart
      dsimp only
      split
      · exact ensures_error.mpr trivial
      · split
        · exact ensures_error.mpr trivial
        · split
          · exact ensures_error.mpr trivial
          · exact ensures_ok.mpr rfl
    · exact ensures_error.mpr trivial

theorem approved_tasks {result : Except String (Json × Db)} {proposalId : Nat} {reply : Option String} {kind : String}
    {more : Json → List (String × Json)} {audited : List (String × Json)}
    (kept : Ensures result fun answer => answer.2.tasks = site.db.tasks) :
    Ensures (match result with
        | .error message => .error message
        | .ok (value, db) => .ok (approvedProposal env (site.withDb db) proposalId reply kind (more value) audited))
      fun answer : Json × Site => answer.2.db.tasks = site.db.tasks := by
  rcases result with message | ⟨value, db'⟩
  · exact ensures_error.mpr trivial
  · have same : db'.tasks = site.db.tasks := kept _ rfl
    exact ensures_ok.mpr same

theorem decideOverride_tasks (proposalId : Nat) (proposal : ProposalRow) (reply : Option String) :
    Ensures (decideOverride env site proposalId proposal reply) fun answer => answer.2.db.tasks = site.db.tasks := by
  unfold decideOverride
  dsimp only
  split
  · have kept := startProposed_tasks site.db proposal
    split
    · exact ensures_error.mpr trivial
    · rename_i experimentId db' started
      exact ensures_ok.mpr (kept _ started)
  · split
    · exact ensures_error.mpr trivial
    · split
      · exact ensures_ok.mpr rfl
      · split
        · exact ensures_error.mpr trivial
        · rename_i db' closed
          rw [ensures_ok]
          change db'.tasks = site.db.tasks
          split at closed
          · unfold applyFunctionExperimentPromote at closed
            split at closed
            · cases closed
            · split at closed
              · cases closed
              · obtain rfl := Except.ok.inj closed
                rfl
          · obtain rfl := Except.ok.inj closed
            rfl

/-- A proposal is about no task. -/
theorem applyProposal_tasks (proposalId : Nat) (proposal : ProposalRow) (reply : Option String) :
    Ensures (applyProposal env site proposalId proposal reply) fun answer => answer.2.db.tasks = site.db.tasks := by
  unfold applyProposal
  dsimp only
  rcases proposal.kind
  case createAgent =>
    have kept := fnCreateAgent_tasks env.toEnv site.db (proposal.proposedChanges.getText? "name")
      (proposal.proposedChanges.getText? "system_prompt")
    dsimp only
    generalize fnCreateAgent _ _ _ _ = result at kept ⊢
    exact approved_tasks kept
  case createFunction =>
    have kept := fnCreateFunction_tasks env.toEnv site.db (proposal.proposedChanges.getText? "name")
      (proposal.proposedChanges.getText? "description") (proposal.proposedChanges.getText? "body")
      ((proposal.proposedChanges.get? "param_schema").getD .emptyObj) (some proposal.agentId)
    dsimp only
    generalize fnCreateFunction _ _ _ _ _ _ _ = result at kept ⊢
    exact approved_tasks kept
  case updateFunction =>
    have kept := fnUpdateFunction_tasks env.toEnv site.db proposal.targetFunctionId
      (proposal.proposedChanges.getText? "description") (proposal.proposedChanges.getText? "body")
      (proposal.proposedChanges.get? "param_schema")
    dsimp only
    generalize withRow _ _ _ = result at kept ⊢
    exact approved_tasks kept
  case functionOverride => exact decideOverride_tasks proposalId proposal reply
  case policyChange =>
    dsimp only
    split
    · exact ensures_ok.mpr rfl
    · have kept := fnSetPolicyFields_tasks site.db (some (proposal.targetAgentId.getD proposal.agentId))
        { PolicyEdit.none with
          prompt := proposal.proposedChanges.getText? "system_prompt"
          llmConfig := proposal.proposedChanges.get? "llm_config" }
      generalize fnSetPolicyFields _ _ _ = result at kept ⊢
      exact approved_tasks kept

theorem fnDecideProposal_tasks (proposalId : Option Nat) (approve : Option Bool) (reply : Option String) :
    Ensures (fnDecideProposal env site proposalId approve reply) fun answer => answer.2.db.tasks = site.db.tasks := by
  refine ensures_withRow fun id _ => ?_
  split
  · exact ensures_error.mpr trivial
  · dsimp only
    split
    · exact ensures_error.mpr trivial
    · split
      · exact applyProposal_tasks id _ reply
      · exact ensures_ok.mpr rfl

theorem fnDecideFix_tasks (fixId : Option Nat) (approve : Option Bool) (reply : Option String) :
    Ensures (fnDecideFix env site fixId approve reply) fun answer => answer.2.db.tasks = site.db.tasks := by
  refine ensures_withRow fun id _ => ?_
  split
  · exact ensures_error.mpr trivial
  · dsimp only
    split
    · exact ensures_error.mpr trivial
    · split
      · split
        · exact ensures_error.mpr trivial
        · rename_i fix _ _ _ value db' applied
          rw [ensures_ok]
          change db'.tasks = site.db.tasks
          unfold applyFix at applied
          split at applied
          · obtain ⟨-, rfl⟩ := Prod.mk.inj (Except.ok.inj applied)
            rfl
          · unfold fnSetAgentActive at applied
            split at applied
            · cases applied
            · obtain ⟨-, rfl⟩ := Prod.mk.inj (Except.ok.inj applied)
              rfl
      · exact ensures_ok.mpr rfl

/-! ### Decisions on approvals -/

theorem updateTask_governed (env : Env) (db : Db) (t : Nat) (set : TaskRow → TaskRow) :
    SameGoverned db (db.updateTask env t set) := by
  unfold Db.updateTask
  split
  · exact .refl db
  · exact ⟨rfl, rfl, rfl, rfl, rfl, rfl⟩

theorem maybeCompleteSession_governed (env : Env) (db : Db) (sessionId : Nat) :
    SameGoverned db (maybeCompleteSession env db sessionId) := by
  unfold maybeCompleteSession
  dsimp only
  split
  · exact .refl db
  · split <;> exact ⟨rfl, rfl, rfl, rfl, rfl, rfl⟩

theorem SameGoverned.trans {middle : Db} (first : SameGoverned db middle) (second : SameGoverned middle db') :
    SameGoverned db db' where
  policies := second.policies.trans first.policies
  permissions := second.permissions.trans first.permissions
  agents := second.agents.trans first.agents
  functions := second.functions.trans first.functions
  procedures := second.procedures.trans first.procedures
  experiments := second.experiments.trans first.experiments

theorem answerTask_governed (env : Env) (db : Db) (t : Nat) (task : TaskRow) (accepted : Bool) (reply : Option String) :
    SameGoverned db (answerTask env db t task accepted reply) := by
  have logged (said : Json) : SameGoverned db (db.appendLog env t (task.stepCount + 1) .operator said) :=
    ⟨rfl, rfl, rfl, rfl, rfl, rfl⟩
  unfold answerTask
  dsimp only
  split
  · exact (logged _).trans (updateTask_governed env _ t _)
  · exact ((logged _).trans (updateTask_governed env _ t _)).trans (maybeCompleteSession_governed env _ _)

/-- Without a yes the task fails. -/
theorem answerTask_refused {t : Nat} {task : TaskRow} (found : db.tasks.get? t = some task) (env : Env)
    (reply : Option String) : NoneResumed db (answerTask env db t task false reply) := by
  intro other old new here waiting there
  unfold answerTask at there
  dsimp only at there
  have logged (said : Json) : (db.appendLog env t (task.stepCount + 1) .operator said).tasks.get? t = some task := found
  rw [if_neg Bool.false_ne_true, maybeCompleteSession_tasks, get?_updateTask _ (logged _)] at there
  split at there
  · obtain rfl := Option.some.inj there
    exact TaskStatus.noConfusion
  · have same : db.tasks.get? other = some new := there
    obtain rfl := Option.some.inj (here.symm.trans same)
    rw [waiting]
    exact TaskStatus.noConfusion

/-- The flag of an approval is read as the source's `CASE` reads it: what is missing is no. -/
theorem fnDecideApproval_refused {accept : Option Bool} (unaccepted : accept ≠ some true) (env : Env) (db : Db)
    (approvalId : Nat) (reply : Option String) :
    Ensures (fnDecideApproval env db approvalId accept reply) fun answer =>
      SameGoverned db answer.2 ∧ NoneResumed db answer.2 := by
  have refused : accept.getD false = false := by
    rcases accept with _ | _ | _
    · rfl
    · rfl
    · exact absurd rfl unaccepted
  unfold fnDecideApproval
  split
  · exact ensures_error.mpr trivial
  · split
    · exact ensures_error.mpr trivial
    · dsimp only
      rw [refused]
      split
      · exact ensures_ok.mpr ⟨⟨rfl, rfl, rfl, rfl, rfl, rfl⟩, .of_tasks rfl⟩
      · rename_i approval _ _ _ task waits
        rw [Option.filter_eq_some_iff] at waits
        rw [ensures_ok]
        have governed := answerTask_governed env (decideRow env db approvalId false reply) approval.taskId task false reply
        have kept := answerTask_refused waits.1 env reply
        exact ⟨⟨governed.policies, governed.permissions, governed.agents, governed.functions, governed.procedures,
          governed.experiments⟩, kept⟩

/-! ### Requests -/

/-- Nothing that proposals and fixes are about has changed, and no task goes on. -/
def FailsClosed (site later : Site) : Prop :=
  SameGoverned site.db later.db ∧ NoneResumed site.db later.db

/-- The caller may decide on a proposal that is open, says neither yes nor no,
and the approval of the proposal would change something. -/
def AppliesProposal (env : WebEnv) (site : Site) (request : Json) (scope : Option (List Nat)) : Prop :=
  request.getText? "approve" = none ∧ ∃ id proposal, uuidArg request "proposal_id" = .ok (some id) ∧
    decidesProposal site scope (some id) = true ∧ site.db.proposals.get? id = some proposal ∧
    (site.proposalDecision id).status = .pending ∧ proposal.Changes env.toEnv site.db

/-- The same of a fix. -/
def AppliesFix (site : Site) (request : Json) (scope : Option (List Nat)) : Prop :=
  request.getText? "approve" = none ∧ ∃ id fix, uuidArg request "fix_id" = .ok (some id) ∧
    decidesFix site scope (some id) = true ∧ site.db.fixes.get? id = some fix ∧
    (site.fixDecision id).status = .pending ∧ fix.Changes site.db

/-- The field of a decision that has to be true. -/
def ScopedAction.decision : ScopedAction → Option String
  | .proposalsDecide | .fixesDecide => some "approve"
  | .approvalsDecide => some "accept"
  | _ => none

def Unsaid (env : WebEnv) (site : Site) (request : Json) (scope : Option (List Nat)) : ScopedAction → Prop
  | .proposalsDecide => AppliesProposal env site request scope
  | .fixesDecide => AppliesFix site request scope
  | _ => False

theorem boolArg_none {request : Json} {key : String} : boolArg request key = .ok none ↔ request.getText? key = none := by
  unfold boolArg castBoolean castOr
  rcases request.getText? key with _ | text
  · simp
  · dsimp only
    split <;> simp

theorem scopedBranch_alters {action : ScopedAction} {field : String} (decides : action.decision = some field)
    {request : Json} (unapproved : boolArg request field ≠ .ok (some true)) (scope : Option (List Nat)) :
    Alters site.db (fun answer : Json × Site => answer.2.db) (scopedBranch env site request scope action) ↔
      Unsaid env site request scope action := by
  rcases action <;> cases decides
  case proposalsDecide =>
    rw [scopedBranch, alters_bind]
    constructor
    · rintro ⟨proposalId, asked, altered⟩
      split at altered
      · rw [alters_error] at altered
        exact altered.elim
      · rename_i visible
        obtain ⟨approve, said, applied⟩ := alters_bind.mp altered
        have silent : approve ≠ some true := fun approved => unapproved (approved ▸ said)
        obtain ⟨rfl, id, proposal, rfl, found, pending, changes⟩ := (fnDecideProposal_alters silent _ _).mp applied
        exact ⟨boolArg_none.mp said, id, proposal, asked, by simpa using visible, found, pending, changes⟩
    · rintro ⟨silent, id, proposal, asked, visible, found, pending, changes⟩
      refine ⟨some id, asked, ?_⟩
      rw [visible, if_neg (by decide), alters_bind]
      refine ⟨none, boolArg_none.mpr silent, ?_⟩
      exact (fnDecideProposal_alters (show none ≠ some true from nofun) _ _).mpr ⟨rfl, id, proposal, rfl, found, pending, changes⟩
  case fixesDecide =>
    rw [scopedBranch, alters_bind]
    constructor
    · rintro ⟨fixId, asked, altered⟩
      split at altered
      · rw [alters_error] at altered
        exact altered.elim
      · rename_i visible
        obtain ⟨approve, said, applied⟩ := alters_bind.mp altered
        have silent : approve ≠ some true := fun approved => unapproved (approved ▸ said)
        obtain ⟨rfl, id, fix, rfl, found, pending, changes⟩ := (fnDecideFix_alters silent _ _).mp applied
        exact ⟨boolArg_none.mp said, id, fix, asked, by simpa using visible, found, pending, changes⟩
    · rintro ⟨silent, id, fix, asked, visible, found, pending, changes⟩
      refine ⟨some id, asked, ?_⟩
      rw [visible, if_neg (by decide), alters_bind]
      refine ⟨none, boolArg_none.mpr silent, ?_⟩
      exact (fnDecideFix_alters (show none ≠ some true from nofun) _ _).mpr ⟨rfl, id, fix, rfl, found, pending, changes⟩
  case approvalsDecide =>
    rw [scopedBranch, alters_bind]
    refine iff_of_false ?_ id
    rintro ⟨approvalId, asked, altered⟩
    split at altered
    · rw [alters_error] at altered
      exact altered
    · obtain ⟨accept, said, answer, returned, differs⟩ := alters_bind.mp altered
      have refused : accept ≠ some true := fun accepted => unapproved (accepted ▸ said)
      have kept := fnDecideApproval_refused refused env.toEnv site.db (keyOf site.db.approvals approvalId)
        (nonEmpty (request.getText? "reply"))
      generalize fnDecideApproval _ _ _ _ _ = result at returned kept
      rcases result with message | ⟨reply, db'⟩
      · cases returned
      · obtain rfl := Except.ok.inj returned
        exact differs (kept _ rfl).1

/-- A decision that is not a yes resumes no task. -/
theorem scopedBranch_resumes {action : ScopedAction} {field : String} (decides : action.decision = some field)
    {request : Json} (unapproved : boolArg request field ≠ .ok (some true)) (scope : Option (List Nat)) :
    Ensures (scopedBranch env site request scope action) fun answer => NoneResumed site.db answer.2.db := by
  rcases action <;> cases decides
  case proposalsDecide =>
    rw [scopedBranch, ensures_bind]
    intro proposalId asked
    split
    · exact ensures_error.mpr trivial
    · rw [ensures_bind]
      intro approve said
      exact (fnDecideProposal_tasks proposalId approve _).imp fun answer same => .of_tasks same
  case fixesDecide =>
    rw [scopedBranch, ensures_bind]
    intro fixId asked
    split
    · exact ensures_error.mpr trivial
    · rw [ensures_bind]
      intro approve said
      exact (fnDecideFix_tasks fixId approve _).imp fun answer same => .of_tasks same
  case approvalsDecide =>
    rw [scopedBranch, ensures_bind]
    intro approvalId asked
    split
    · exact ensures_error.mpr trivial
    · rw [ensures_bind]
      intro accept said
      have refused : accept ≠ some true := fun accepted => unapproved (accepted ▸ said)
      have kept := fnDecideApproval_refused refused env.toEnv site.db (keyOf site.db.approvals approvalId)
        (nonEmpty (request.getText? "reply"))
      generalize fnDecideApproval _ _ _ _ _ = result at kept ⊢
      rcases result with message | ⟨reply, db'⟩
      · exact ensures_error.mpr trivial
      · exact ensures_ok.mpr (kept _ rfl).2

/-- What a caller may decide on, and the tables once the caller is marked as seen. -/
theorem dashboardRpc_visible {request : Json} {action : ScopedAction}
    (asked : requestedAction request = some (.visible action)) :
    ∃ sessions, dashboardRpc env site request =
      match scopedBranch env { site with webSessions := sessions } request
        (visibleAgentIds env (sessionUser env site (request.getText? "session_token")).2
          (request.getText? "session_token")).1 action with
      | .ok answer => answer
      | .error message => (.build [("ok", .bool false), ("error", .str message)], site) := by
  obtain ⟨sessions, marked⟩ := sessionUser_marks env site (request.getText? "session_token")
  obtain ⟨sessions', marked'⟩ := sessionUser_marks env (sessionUser env site (request.getText? "session_token")).2
    (request.getText? "session_token")
  have seen : (visibleAgentIds env (sessionUser env site (request.getText? "session_token")).2
      (request.getText? "session_token")).2 = { site with webSessions := sessions' } := by
    rw [visibleAgentIds_site, marked', marked]
  refine ⟨sessions', ?_⟩
  unfold dashboardRpc
  rw [asked]
  dsimp only
  rw [branch]
  generalize visibleAgentIds env (sessionUser env site (request.getText? "session_token")).2
    (request.getText? "session_token") = visible at seen ⊢
  obtain ⟨scope, later⟩ := visible
  dsimp only at seen
  subst seen
  rfl

/-- A decision that is not a yes fails closed unless nothing is said and the
proposal or the fix could be applied. -/
theorem decisions_fail_closed_iff (env : WebEnv) (site : Site) (request : Json) {action : ScopedAction} {field : String}
    (asked : requestedAction request = some (.visible action)) (decides : action.decision = some field)
    (unapproved : boolArg request field ≠ .ok (some true)) :
    FailsClosed site (dashboardRpc env site request).2 ↔
      ¬ Unsaid env site request
        (visibleAgentIds env (sessionUser env site (request.getText? "session_token")).2
          (request.getText? "session_token")).1 action := by
  obtain ⟨sessions, answered⟩ := @dashboardRpc_visible env site request action asked
  generalize (visibleAgentIds env (sessionUser env site (request.getText? "session_token")).2
    (request.getText? "session_token")).1 = scope at answered ⊢
  have unsaid : Unsaid env { site with webSessions := sessions } request scope action ↔
      Unsaid env site request scope action := by
    rcases action <;> exact Iff.rfl
  have altered := @scopedBranch_alters env { site with webSessions := sessions } action field decides request
    unapproved scope
  have resumed := @scopedBranch_resumes env { site with webSessions := sessions } action field decides request
    unapproved scope
  rw [answered, ← unsaid, ← altered]
  generalize scopedBranch env { site with webSessions := sessions } request scope action = result at resumed ⊢
  rcases result with message | answer
  · rw [alters_error, not_false_iff, iff_true]
    exact ⟨.refl site.db, .of_tasks rfl⟩
  · rw [alters_ok, not_not]
    exact ⟨And.left, fun same => ⟨same, resumed answer rfl⟩⟩

/-- An agent has proposed another agent, and nobody has decided. -/
def proposed : Site :=
  Site.empty.withDb { Db.empty with
    agents := Table.empty.insert ⟨"creator", true, true, none, .adminApproval, .emptyObj⟩
    proposals := Table.empty.insert
      ⟨0, none, .createAgent, .build [("name", .str "clerk")], none, 0, none, none⟩ }

def deciding (fields : List (String × Json)) : Json :=
  .build ([("action", .str "proposals.decide"), ("proposal_id", idJson 0)] ++ fields)

theorem decisions_fail_closed_iff_no :
    FailsClosed proposed (dashboardRpc .bare proposed (deciding [("approve", .bool false)])).2 := by
  refine (decisions_fail_closed_iff .bare proposed (deciding [("approve", .bool false)])
    (by decide +kernel : requestedAction _ = some (.visible .proposalsDecide)) rfl (by decide +kernel)).mpr ?_
  rintro ⟨silent, -⟩
  revert silent
  decide +kernel

/-- Nothing is said about the proposal, and the agent is there. -/
theorem not_decisions_fail_closed :
    requestedAction (deciding []) = some (.visible .proposalsDecide) ∧
      boolArg (deciding []) "approve" ≠ .ok (some true) ∧
      ((dashboardRpc .bare proposed (deciding [])).2.db.agents.get? 1).map AgentRow.name = some "clerk" ∧
      ¬ FailsClosed proposed (dashboardRpc .bare proposed (deciding [])).2 := by
  have created : ((dashboardRpc .bare proposed (deciding [])).2.db.agents.get? 1).map AgentRow.name = some "clerk" := by
    decide +kernel
  refine ⟨by decide +kernel, by decide +kernel, created, ?_⟩
  rintro ⟨same, -⟩
  rw [same.agents] at created
  revert created
  decide +kernel

end Allgres
