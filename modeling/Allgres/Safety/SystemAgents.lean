import Allgres.Safety.Identity
import Allgres.Safety.Policies

/-! Which requests of the dashboard change what a system agent is. -/

namespace Allgres

open Relational Jsonb Sql Raising

theorem SameIdentity.of_db {agentId : Nat} {db db' : Db} (same : db' = db) : SameIdentity agentId db db' :=
  same ▸ .refl agentId db

/-- What an action leaves of an agent's identity. -/
abbrev KeepsAgent (agentId : Nat) (site : Site) (answer : Answer) : Prop :=
  Ensures answer fun answer => SameIdentity agentId site.db answer.2.db

section Steps

variable {agentId : Nat} {site : Site} {env : WebEnv} {token : Option String}

/-- The tables of the control plane are the same, so what is kept of these is kept of the others. -/
theorem KeepsAgent.of_db {later : Site} {answer : Answer} (same : later.db = site.db)
    (keeps : KeepsAgent agentId later answer) : KeepsAgent agentId site answer := by
  rw [KeepsAgent, same] at keeps
  exact keeps

theorem siteAudit_keeps (action : String) (details : Json) :
    SameIdentity agentId site.db (site.audit action details).db :=
  audit_keeps action details

/-! ### Providers, connections and logins -/

/-- The proposal gives the agent another prompt, if it is applied. -/
structure Reprompts (db : Db) (proposal : ProposalRow) (agentId : Nat) (policy : PolicyRow) (prompt : String) : Prop where
  kind : proposal.kind = .policyChange
  target : proposal.targetAgentId.getD proposal.agentId = agentId
  current : db.policyOf agentId = some policy
  base : policy.generation = proposal.baseGeneration
  asked : nonEmpty (proposal.proposedChanges.getText? "system_prompt") = some prompt
  new : prompt ≠ policy.systemPrompt
  /-- The version that is given up can be filed. -/
  unfiled : (db.policyHistory.exists? fun _ old =>
    old.policy.agentId == agentId && old.policy.generation == policy.generation) = false

/-- The fix takes a grant from the agent, if it is applied. -/
structure TakesGrant (db : Db) (fix : FixRow) (agentId : Nat) (type : ResourceType) (ref : String) : Prop where
  kind : fix.fixKind = .revokePermission
  target : fix.targetAgentId = agentId
  held : db.grants agentId type ref = true
  type : (fix.detail.getText? "resource_type").bind ResourceType.ofText = some type
  ref : fix.detail.getText? "resource_ref" = some ref

theorem promptOf_update {db db' : Db} {set : PolicyRow → PolicyRow} {policy : PolicyRow}
    (current : db.policyOf agentId = some policy)
    (policies : db'.policies = db.policies.update (fun _ row => row.agentId == agentId) fun _ row => set row)
    (agent : ∀ row, (set row).agentId = row.agentId) : db'.promptOf agentId = some (set policy).systemPrompt := by
  have stable (key : Nat) (row : PolicyRow) :
      ((if (row.agentId == agentId) = true then set row else row).agentId == agentId) = (row.agentId == agentId) := by
    split
    · rw [agent]
    · rfl
  have updated := Table.find?_update db.policies (fun _ row => row.agentId == agentId)
    (fun _ policy => policy.agentId == agentId) (fun _ row => set row) stable
  rw [Db.policyOf, Option.map_eq_some_iff] at current
  obtain ⟨row, found, rfl⟩ := current
  have here : (row.2.agentId == agentId) = true := (Table.find?_some found).2
  simp only [Db.promptOf, Db.policyOf, policies, updated, found, here, Option.map_some, if_true]

/-- A prompt that is given is the agent's from then on. -/
theorem fnSetPolicyFields_prompt {db : Db} {policy : PolicyRow} {edit : PolicyEdit} {prompt : String}
    (current : db.policyOf agentId = some policy) (asked : nonEmpty edit.prompt = some prompt) :
    Ensures (fnSetPolicyFields db (some agentId) edit) fun result => result.2.promptOf agentId = some prompt := by
  have set : ∀ row : PolicyRow, (row.edited edit).systemPrompt = prompt := by
    intro row
    rw [PolicyRow.edited, asked, Option.getD_some]
  simp only [fnSetPolicyFields, withRow, current]
  split
  · exact ensures_error.mpr trivial
  · split
    · exact ensures_error.mpr trivial
    · refine ensures_ok.mpr ?_
      have edited : ∀ (generation : Nat) (db' : Db), db'.policies = db.policies.update (fun _ row => row.agentId == agentId)
          (fun _ row => { row.edited edit with generation := generation }) → db'.promptOf agentId = some prompt := by
        intro generation db' policies
        rw [promptOf_update current policies fun _ => rfl]
        exact congrArg some (set policy)
      split <;> exact edited _ _ rfl

/-- The approval of such a proposal does change the prompt. -/
theorem applyProposal_reprompts {proposalId : Nat} {proposal : ProposalRow} {reply : Option String} {policy : PolicyRow}
    {prompt : String} (reprompts : Reprompts site.db proposal agentId policy prompt) :
    ∃ answer, applyProposal env site proposalId proposal reply = .ok answer ∧
      answer.2.db.promptOf agentId = some prompt := by
  have fresh : site.db.generationOf agentId = some proposal.baseGeneration := by
    rw [Db.generationOf, reprompts.current, ← reprompts.base]
    rfl
  have valid : PolicyEdit.valid { PolicyEdit.none with
      prompt := proposal.proposedChanges.getText? "system_prompt"
      llmConfig := proposal.proposedChanges.get? "llm_config" } = true := rfl
  obtain ⟨result, applied⟩ := returns_fnSetPolicyFields reprompts.current reprompts.unfiled valid
  have prompted := fnSetPolicyFields_prompt reprompts.current (by exact reprompts.asked) result applied
  obtain ⟨policy, db⟩ := result
  refine ⟨approvedProposal env (site.withDb db) proposalId reply "policy_change" [("policy", policy)]
    [("target_agent_id", idJson agentId)], ?_, prompted⟩
  simp [applyProposal, reprompts.kind, reprompts.target, fresh, applied]

/-- What is not refused is approved. -/
theorem getD_true {approve : Option Bool} (approved : approve ≠ some false) : approve.getD true = true := by
  cases approve with
  | none => rfl
  | some approve =>
    cases approve with
    | true => rfl
    | false => exact absurd rfl approved

theorem fnDecideProposal_reprompts {key : Nat} {proposal : ProposalRow} {approve : Option Bool} {reply : Option String}
    {policy : PolicyRow} {prompt : String} (listed : site.db.proposals.get? key = some proposal)
    (pending : (site.proposalDecision key).status = .pending) (approved : approve ≠ some false)
    (reprompts : Reprompts site.db proposal agentId policy prompt) :
    ∃ answer, fnDecideProposal env site (some key) approve reply = .ok answer ∧
      answer.2.db.promptOf agentId = some prompt := by
  obtain ⟨answer, applied, prompted⟩ := applyProposal_reprompts reprompts
  refine ⟨answer, ?_, prompted⟩
  have taken := getD_true approved
  simpa [fnDecideProposal, withRow, listed, pending, taken] using applied

/-- A grant stays unless it is the one that is revoked. -/
theorem grants_fnRevokePermission {db : Db} {target : Nat} {type ref : Option String} {wanted : ResourceType}
    {text : String} :
    (fnRevokePermission db target type ref).2.grants agentId wanted text = true ↔
      db.grants agentId wanted text = true ∧
        ¬ (agentId = target ∧ type.bind ResourceType.ofText = some wanted ∧ ref = some text) := by
  have typed (grant : PermissionRow) : type.any (fun text => ResourceType.ofText text == some grant.resourceType) = true ↔
      type.bind ResourceType.ofText = some grant.resourceType := by
    cases type with
    | none => simp
    | some type => simp
  have referred (grant : PermissionRow) : ref.any (fun text => text == grant.resourceRef) = true ↔
      ref = some grant.resourceRef := by
    cases ref with
    | none => simp
    | some ref => simp
  simp only [fnRevokePermission, Db.audit, Db.grants, Table.exists?, Table.delete, List.any_filter, List.any_eq_true,
    Bool.and_eq_true, Bool.not_eq_true', Bool.eq_false_iff, ne_eq, typed, referred, beq_iff_eq]
  constructor
  · rintro ⟨row, listed, kept, ⟨rfl, rfl⟩, rfl⟩
    exact ⟨⟨row, listed, ⟨rfl, rfl⟩, rfl⟩, fun revoked => kept ⟨⟨revoked.1, revoked.2.1⟩, revoked.2.2⟩⟩
  · rintro ⟨⟨row, listed, ⟨rfl, rfl⟩, rfl⟩, kept⟩
    exact ⟨row, listed, fun revoked => kept ⟨revoked.1.1, revoked.1.2, revoked.2⟩, ⟨rfl, rfl⟩, rfl⟩

theorem fnDecideFix_takes {key : Nat} {fix : FixRow} {approve : Option Bool} {reply : Option String}
    {type : ResourceType} {ref : String} (listed : site.db.fixes.get? key = some fix)
    (pending : (site.fixDecision key).status = .pending) (approved : approve ≠ some false)
    (takes : TakesGrant site.db fix agentId type ref) :
    ∃ answer, fnDecideFix env site (some key) approve reply = .ok answer ∧
      answer.2.db.grants agentId type ref = false := by
  have taken := getD_true approved
  have gone : (fnRevokePermission site.db fix.targetAgentId (fix.detail.getText? "resource_type")
      (fix.detail.getText? "resource_ref")).2.grants agentId type ref = false := by
    rw [Bool.eq_false_iff, ne_eq, grants_fnRevokePermission]
    exact fun kept => kept.2 ⟨takes.target.symm, takes.type, takes.ref⟩
  simp only [fnDecideFix, withRow, listed, pending, taken, applyFix, takes.kind, ne_eq, not_true_eq_false, if_false,
    if_true]
  exact ⟨_, rfl, gone⟩

/-! ### The request -/

end Steps

def Db.isSystemAgent (db : Db) (agentId : Nat) : Bool := (db.agents.get? agentId).any AgentRow.isSystem

/-- The scope of the caller, as the actions of an inbox see it. -/
def scopeOf (env : WebEnv) (site : Site) (request : Json) : Option (List Nat) :=
  (visibleAgentIds env (sessionUser env site (request.getText? "session_token")).2
    (request.getText? "session_token")).1

/-- The request approves a pending proposal that gives a system agent another prompt. -/
structure ApprovesPrompt (env : WebEnv) (site : Site) (request : Json) (proposalId : Nat) (proposal : ProposalRow)
    (approve : Option Bool) (agentId : Nat) (policy : PolicyRow) (prompt : String) : Prop where
  action : requestedAction request = some (.visible .proposalsDecide)
  named : uuidArg request "proposal_id" = .ok (some proposalId)
  listed : site.db.proposals.get? proposalId = some proposal
  visible : decidesProposal site (scopeOf env site request) (some proposalId) = true
  pending : (site.proposalDecision proposalId).status = .pending
  said : boolArg request "approve" = .ok approve
  approved : approve ≠ some false
  system : site.db.isSystemAgent agentId = true
  reprompts : Reprompts site.db proposal agentId policy prompt

/-- The request approves a pending fix that takes a grant from a system agent. -/
structure ApprovesRevocation (env : WebEnv) (site : Site) (request : Json) (fixId : Nat) (fix : FixRow)
    (approve : Option Bool) (agentId : Nat) (type : ResourceType) (ref : String) : Prop where
  action : requestedAction request = some (.visible .fixesDecide)
  named : uuidArg request "fix_id" = .ok (some fixId)
  listed : site.db.fixes.get? fixId = some fix
  visible : decidesFix site (scopeOf env site request) (some fixId) = true
  pending : (site.fixDecision fixId).status = .pending
  said : boolArg request "approve" = .ok approve
  approved : approve ≠ some false
  system : site.db.isSystemAgent agentId = true
  takes : TakesGrant site.db fix agentId type ref

section Requests

variable {env : WebEnv} {site : Site} {request : Json}

/-- The tables with which an action of an inbox starts. -/
structure Inbox (site later : Site) : Prop where
  db : later.db = site.db
  proposals : later.proposalDecision = site.proposalDecision
  fixes : later.fixDecision = site.fixDecision

theorem Inbox.decidesProposal {later : Site} (inbox : Inbox site later) (scope : Option (List Nat)) (id : Option Nat) :
    decidesProposal later scope id = decidesProposal site scope id := by
  rw [Allgres.decidesProposal, Allgres.decidesProposal, inbox.db]

theorem Inbox.decidesFix {later : Site} (inbox : Inbox site later) (scope : Option (List Nat)) (id : Option Nat) :
    decidesFix later scope id = decidesFix site scope id := by
  rw [Allgres.decidesFix, Allgres.decidesFix, inbox.db]

theorem branch_visible (env : WebEnv) (site : Site) (request : Json) (action : ScopedAction) :
    ∃ later, Inbox site later ∧ branch env (sessionUser env site (request.getText? "session_token")).2 request
      (request.getText? "session_token") (.visible action) =
        scopedBranch env later request (scopeOf env site request) action := by
  obtain ⟨sessions, marked⟩ := sessionUser_marks env site (request.getText? "session_token")
  obtain ⟨later, again⟩ := sessionUser_marks env (sessionUser env site (request.getText? "session_token")).2
    (request.getText? "session_token")
  refine ⟨(visibleAgentIds env (sessionUser env site (request.getText? "session_token")).2
    (request.getText? "session_token")).2, ?_, rfl⟩
  rw [visibleAgentIds_site, again, marked]
  exact ⟨rfl, rfl, rfl⟩

theorem requestedAction_of {action : RpcAction} (asked : requestedAction request = some action) :
    (dashboardRpc env site request).2 = match branch env (sessionUser env site (request.getText? "session_token")).2 request
      (request.getText? "session_token") action with
      | .ok answer => answer.2
      | .error _ => site := by
  unfold dashboardRpc
  simp only [asked]
  cases branch env (sessionUser env site (request.getText? "session_token")).2 request
    (request.getText? "session_token") action with
  | error message => rfl
  | ok answer => rfl

theorem ApprovesPrompt.prompted {proposalId agentId : Nat} {proposal : ProposalRow} {approve : Option Bool}
    {policy : PolicyRow} {prompt : String}
    (approves : ApprovesPrompt env site request proposalId proposal approve agentId policy prompt) :
    (dashboardRpc env site request).2.db.promptOf agentId = some prompt := by
  obtain ⟨later, inbox, tables⟩ := branch_visible env site request .proposalsDecide
  have listed := approves.listed
  have reprompts := approves.reprompts
  have pending := approves.pending
  have visible := approves.visible
  rw [← inbox.db] at listed reprompts
  rw [← inbox.proposals] at pending
  rw [← inbox.decidesProposal] at visible
  obtain ⟨answer, decided, prompted⟩ := @fnDecideProposal_reprompts agentId later env proposalId proposal approve
    (nonEmpty (request.getText? "reply")) policy prompt listed pending approves.approved reprompts
  have answered : branch env (sessionUser env site (request.getText? "session_token")).2 request
      (request.getText? "session_token") (.visible .proposalsDecide) = .ok answer := by
    rw [tables]
    simp only [scopedBranch, approves.named, approves.said, bind_ok, visible, Bool.not_true, Bool.false_eq_true, if_false]
    exact decided
  rw [requestedAction_of approves.action, answered]
  exact prompted

theorem ApprovesRevocation.revoked {fixId agentId : Nat} {fix : FixRow} {approve : Option Bool} {type : ResourceType}
    {ref : String} (approves : ApprovesRevocation env site request fixId fix approve agentId type ref) :
    (dashboardRpc env site request).2.db.grants agentId type ref = false := by
  obtain ⟨later, inbox, tables⟩ := branch_visible env site request .fixesDecide
  have listed := approves.listed
  have takes := approves.takes
  have pending := approves.pending
  have visible := approves.visible
  rw [← inbox.db] at listed takes
  rw [← inbox.fixes] at pending
  rw [← inbox.decidesFix] at visible
  obtain ⟨answer, decided, gone⟩ := @fnDecideFix_takes agentId later env fixId fix approve
    (nonEmpty (request.getText? "reply")) type ref listed pending approves.approved takes
  have answered : branch env (sessionUser env site (request.getText? "session_token")).2 request
      (request.getText? "session_token") (.visible .fixesDecide) = .ok answer := by
    rw [tables]
    simp only [scopedBranch, approves.named, approves.said, bind_ok, visible, Bool.not_true, Bool.false_eq_true, if_false]
    exact decided
  rw [requestedAction_of approves.action, answered]
  exact gone

end Requests

end Allgres

