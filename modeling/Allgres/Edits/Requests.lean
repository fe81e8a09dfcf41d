import Allgres.Edits.Operators
import Allgres.System
import Allgres.Safety.Policies

/-! The edits of a request of the dashboard. The SQL console and the self test run statements of their own;
all other actions edit the tables as the functions of the operator API do. -/

namespace Allgres

open Relational Jsonb Sql Raising

/-- What an action makes of the tables of the control plane. -/
abbrev Saves (env : WebEnv) (powers : Powers) (site : Site) (answer : Answer) : Prop :=
  Ensures answer fun answer => Edits env.toEnv powers site.db answer.2.db

variable {env : WebEnv} {powers : Powers} {site : Site} {token : Option String}

theorem saves_error {message : String} : Saves env powers site (.error message) := ensures_error.mpr trivial

theorem saves_ok {reply : Json} {later : Site} (edits : Edits env.toEnv powers site.db later.db) :
    Saves env powers site (.ok (reply, later)) :=
  ensures_ok.mpr edits

theorem saves_answers (reply : Json) : Saves env powers site (site.answers reply) := saves_ok .refl

theorem saves_onDb {result : Except String (Json × Db)} (leaves : Leaves env.toEnv powers site.db result) :
    Saves env powers site (site.onDb result) := by
  cases result with
  | error message => exact saves_error
  | ok result => exact ensures_ok.mpr (leaves result rfl)

theorem saves_opened {result : Except String Created} (opens : Begins env.toEnv powers site.db result) :
    Saves env powers site (site.opened result) :=
  ensures_map.mpr opens

/-- A cast that comes first. -/
theorem saves_bind {α : Type} {cast : Except String α} {next : α → Answer}
    (saves : ∀ value, Saves env powers site (next value)) : Saves env powers site (cast >>= next) :=
  ensures_bind.mpr (.of_forall saves)

theorem Edits.of_db {db db' : Db} (same : db' = db) : Edits env.toEnv powers db db' := same ▸ .refl

theorem Saves.of_db {later : Site} {answer : Answer} (same : later.db = site.db) (saves : Saves env powers later answer) :
    Saves env powers site answer := by
  rw [Saves, same] at saves
  exact saves

/-- A check that comes first. -/
theorem saves_check {check : Except String Site} {next : Site → Answer}
    (same : ∀ checked, check = .ok checked → checked.db = site.db) (saves : ∀ checked, Saves env powers checked (next checked)) :
    Saves env powers site (check >>= next) :=
  ensures_bind.mpr fun checked returned => Saves.of_db (same checked returned) (saves checked)

theorem edits_performs {result : Except String (Json × Db)} (leaves : Leaves env.toEnv powers site.db result) :
    Ensures (site.performs result) fun later => Edits env.toEnv powers site.db later.db :=
  ensures_map.mpr leaves

/-- A step on the way to the answer. -/
theorem saves_step {step : Except String Site} {next : Site → Answer}
    (first : Ensures step fun later => Edits env.toEnv powers site.db later.db)
    (rest : ∀ later, Saves env powers later (next later)) : Saves env powers site (step >>= next) :=
  ensures_bind.mpr (first.imp fun later edits => (rest later).imp fun _ => edits.trans)

/-- A step that is taken only if the request asks for it. -/
theorem saves_optional {asked : Prop} [Decidable asked] {step : Except String Site} {next : Site → Answer}
    (first : Ensures step fun later => Edits env.toEnv powers site.db later.db)
    (rest : ∀ later, Saves env powers later (next later)) :
    Saves env powers site (if asked then step >>= next else .ok site >>= next) := by
  split
  · exact saves_step first rest
  · exact rest site

/-! ### Providers, connections and logins -/

theorem saves_storeClientSecret (providerId : Nat) (secret : Option String) (url : String) (enabled : Option Bool)
    (allow : Bool) : Saves env .operators site (storeClientSecret env site providerId secret url enabled allow) := by
  unfold storeClientSecret
  dsimp only
  split
  · exact saves_ok (edits_audit ..)
  · split
    · exact saves_error
    · refine saves_ok (Edits.audited (OnlyPerimeter.edits ?_) _ _)
      rfl

theorem saves_fnSetProvider (providerId : Option Nat) (edit : ProviderEdit) :
    Saves env .operators site (fnSetProvider env site providerId edit) := by
  refine ensures_withRow fun key _ => ?_
  split
  · exact saves_error
  · dsimp only
    split
    · exact saves_error
    · exact saves_error
    · exact saves_error
    · refine Ensures.imp (saves_storeClientSecret _ _ _ _ _) fun _ => .trans ?_
      exact OnlyPerimeter.edits rfl

theorem saves_updateProvider (request : Json) : Saves env .operators site (updateProvider env site request) := by
  refine saves_bind fun providerId => saves_bind fun enabled => saves_bind fun allow =>
    saves_bind fun jsonObject => ensures_bind.mpr fun answer returned => ?_
  have set : Edits env.toEnv .operators site.db answer.2.db := saves_fnSetProvider _ _ answer returned
  obtain ⟨reply, later⟩ := answer
  cases nonEmpty (request.getText? "api_key") with
  | none => exact saves_ok set
  | some key =>
    refine Ensures.imp ?_ fun _ => set.trans
    exact saves_step (edits_performs (leaves_fnSetProviderSecret env _ _)) fun _ => saves_ok .refl

theorem saves_updateConnection (request : Json) : Saves env .operators site (updateConnection env site request) := by
  refine saves_bind fun connectionId => saves_bind fun enabled => saves_bind fun allow =>
    saves_step (edits_performs (leaves_fnSetConnection env _ _ _ _ _)) fun later => ?_
  cases nonEmpty (request.getText? "api_key") with
  | none => exact saves_ok .refl
  | some key => exact saves_step (edits_performs (leaves_fnSetConnectionSecret env _ _)) fun _ => saves_ok .refl

theorem saves_fnOauthStart (providerId : Option Nat) (redirect : Option String) :
    Saves env .operators site (fnOauthStart env site providerId redirect) := by
  unfold fnOauthStart
  split
  · exact saves_error
  · split
    · exact saves_error
    · split
      · split
        · exact saves_error
        · exact saves_ok .refl
      · exact saves_error

/-- The calls of an unfinished login are given up. -/
theorem advancesLogins_supersedeLogins (db : Db) (providerId : Nat) :
    AdvancesLogins db.oauthCalls (supersedeLogins env.toEnv db providerId).oauthCalls := by
  dsimp only [supersedeLogins]
  refine Evolves.update OauthCallRow.Onward.refl _ fun key call found chosen => ?_
  rw [Bool.and_eq_true] at chosen
  exact ⟨call.onward_of chosen.2 (by decide) _ _, rfl, rfl⟩

theorem saves_fnOauthDeviceStart (providerId : Option Nat) : Saves env .operators site (fnOauthDeviceStart env site providerId) := by
  unfold fnOauthDeviceStart
  split
  · exact saves_error
  · split
    · split
      · exact saves_error
      · refine saves_ok (Edits.audited (Edit.edits ?_) _ _)
        exact .logins _ _ (advancesLogins_trans (advancesLogins_supersedeLogins _ _) (.insert OauthCallRow.Onward.refl _ _))
    · exact saves_error

theorem saves_fnOauthTokenRequest (state code redirect : Option String) :
    Saves env .operators site (fnOauthTokenRequest env site state code redirect) := by
  unfold fnOauthTokenRequest
  split
  · exact saves_error
  · split
    · exact saves_error
    · split
      · split
        · exact saves_error
        · refine saves_ok (Edits.audited (Edit.edits ?_) _ _)
          exact .logins _ _ (.insert OauthCallRow.Onward.refl _ _)
      · exact saves_error

/-! ### Projects -/

theorem saves_fnCreateProject (name description : Option String) (bound : Option Nat) (presetPrompt : Option String) :
    Saves env .operators site (fnCreateProject site name description bound presetPrompt) := by
  unfold fnCreateProject
  dsimp only
  split
  · exact saves_error
  · split
    · exact saves_error
    · split
      · exact saves_error
      · refine saves_ok (Edits.audited (OnlyPerimeter.edits ?_) _ _)
        rfl

theorem saves_fnSetProjectActive (projectId : Option Nat) (active : Option Bool) :
    Saves env .operators site (fnSetProjectActive site projectId active) := by
  refine ensures_withRow fun key _ => ?_
  split
  · exact saves_error
  · exact saves_error
  · refine saves_ok (Edits.audited (OnlyPerimeter.edits ?_) _ _)
    rfl

theorem saves_fnSetProjectConfig (projectId bound : Option Nat) (presetPrompt : Option String) :
    Saves env .operators site (fnSetProjectConfig site projectId bound presetPrompt) := by
  unfold fnSetProjectConfig
  split
  · exact saves_error
  · refine ensures_withRow fun key _ => ?_
    split
    · exact saves_error
    · refine saves_ok (Edits.audited (OnlyPerimeter.edits ?_) _ _)
      rfl

theorem saves_updateProject (request : Json) (projectId : Option Nat) :
    Saves env .operators site (updateProject site request projectId) := by
  refine saves_bind fun active => saves_optional ?_ fun activated => saves_bind fun bound =>
    saves_optional ?_ fun later => saves_ok .refl
  · exact ensures_map.mpr (saves_fnSetProjectActive projectId active)
  · exact ensures_map.mpr (saves_fnSetProjectConfig projectId bound _)

/-! ### Accounts -/

theorem saves_fnCreateUser (username password : Option String) (role : String) :
    Saves env .operators site (fnCreateUser env site username password role) := by
  unfold fnCreateUser
  dsimp only
  split
  · exact saves_error
  · split
    · exact saves_error
    · split
      · exact saves_error
      · split
        · exact saves_error
        · split
          · exact saves_error
          · split
            · exact saves_error
            · exact saves_ok (edits_audit ..)

theorem saves_fnSetUserActive (userId : Option Nat) (active : Option Bool) :
    Saves env .operators site (fnSetUserActive site userId active) := by
  unfold fnSetUserActive
  split
  · exact saves_error
  · exact saves_ok (edits_audit ..)

theorem saves_fnSetUserRole (userId : Option Nat) (role : Option String) :
    Saves env .operators site (fnSetUserRole site userId role) := by
  unfold fnSetUserRole
  split
  · exact saves_error
  · split
    · exact saves_error
    · exact saves_ok (edits_audit ..)

theorem saves_fnSetUserAssignments (userId : Option Nat) (agentIds : List (Option Nat)) :
    Saves env .operators site (fnSetUserAssignments site userId agentIds) := by
  unfold fnSetUserAssignments
  dsimp only
  split
  · exact saves_error
  · split
    · exact saves_error
    · exact saves_ok (edits_audit ..)

theorem saves_fnSetUserAssignment (userId target : Option Nat) (assigned : Option Bool) :
    Saves env .operators site (fnSetUserAssignment site userId target assigned) := by
  unfold fnSetUserAssignment
  dsimp only
  split
  · split
    · exact saves_error
    · exact saves_ok (edits_audit ..)
  · exact saves_ok (edits_audit ..)

theorem saves_accountBranch (request : Json) (action : AccountAction) :
    Saves env .operators site (accountBranch env site request action) := by
  cases action with
  | usersCreate => exact saves_fnCreateUser _ _ _
  | usersList => exact saves_answers _
  | usersSetActive => exact saves_bind fun userId => saves_bind fun active => saves_fnSetUserActive _ _
  | usersSetRole => exact saves_bind fun userId => saves_fnSetUserRole _ _
  | assignmentsSet => exact saves_bind fun userId => saves_bind fun ids => saves_fnSetUserAssignments _ _
  | assignmentsList => exact saves_bind fun userId => saves_answers _
  | assignmentsForAgent => exact saves_bind fun target => saves_answers _
  | assignmentsToggle =>
    exact saves_bind fun userId => saves_bind fun target => saves_bind fun assigned => saves_fnSetUserAssignment _ _ _

theorem saves_fnLogin (username password : Option String) : Saves env powers site (fnLogin env site username password) := by
  unfold fnLogin
  dsimp only
  split
  · exact saves_error
  · split
    · exact saves_error
    · split
      · exact saves_error
      · split
        · exact saves_error
        · exact saves_ok .refl

/-! ### Conversations -/

theorem begins_converse (target : Nat) (projectId sessionId : Option Nat) (message : String) :
    Begins env.toEnv powers site.db (converse env site target projectId message sessionId) := by
  cases sessionId with
  | none => exact begins_fnCreateSession _ _ _ _
  | some sessionId => exact begins_fnContinueSession _ _

theorem ensures_fnChatSend (target : Option Nat) (message : Option String) :
    Ensures (fnChatSend env site token target message) fun sent =>
      Edits env.toEnv powers site.db sent.site.db := by
  unfold fnChatSend
  split
  · exact ensures_error.mpr trivial
  · rename_i userId target access allowed
    have seen : access.db = site.db := requireAgentAccess_db allowed
    dsimp only
    split
    · exact ensures_error.mpr trivial
    · split
      · exact ensures_error.mpr trivial
      · rename_i created opened
        have edits : Edits env.toEnv powers access.db created.db := begins_converse _ _ _ _ created opened
        rw [seen] at edits
        exact ensures_ok.mpr edits

theorem ensures_fnProjectChatSend (projectId : Option Nat) (message : Option String) :
    Ensures (fnProjectChatSend env site token projectId message) fun sent =>
      Edits env.toEnv powers site.db sent.site.db := by
  unfold fnProjectChatSend
  split
  · exact ensures_error.mpr trivial
  · rename_i project userId target access allowed
    have seen : access.db = site.db := requireProjectAccess_db allowed
    dsimp only
    split
    · exact ensures_error.mpr trivial
    · split
      · exact ensures_error.mpr trivial
      · rename_i created opened
        have edits : Edits env.toEnv powers access.db created.db := begins_converse _ _ _ _ created opened
        rw [seen] at edits
        exact ensures_ok.mpr edits

theorem ensures_deliver (text : String) (delivered : Delivery) (name : String) :
    Ensures (deliver env token text delivered name) fun next =>
      Edits env.toEnv powers delivered.site.db next.site.db := by
  unfold deliver
  split
  · exact ensures_error.mpr trivial
  · rename_i target agent found
    split
    · exact ensures_error.mpr trivial
    · rename_i access allowed
      split
      · exact ensures_error.mpr trivial
      · rename_i sent opened
        have edits : Edits env.toEnv powers access.site.db sent.site.db := ensures_fnChatSend _ _ sent opened
        rw [requireAgentAccess_db allowed] at edits
        exact ensures_ok.mpr edits

theorem ensures_foldlM_deliver (text : String) (names : List String) (delivered : Delivery) :
    Ensures (names.foldlM (deliver env token text) delivered) fun last =>
      Edits env.toEnv powers delivered.site.db last.site.db := by
  induction names generalizing delivered with
  | nil => exact ensures_ok.mpr .refl
  | cons name rest ih =>
    rw [List.foldlM_cons]
    refine ensures_bind.mpr fun next passed => ?_
    have edits : Edits env.toEnv powers delivered.site.db next.site.db := ensures_deliver text delivered name next passed
    exact (ih next).imp fun _ => edits.trans

theorem saves_fnMessengerPost (text : Option String) : Saves env powers site (fnMessengerPost env site token text) := by
  have seen := sessionUser_db env site token
  unfold fnMessengerPost
  split
  · exact saves_error
  · rename_i userId user marked asked
    rw [asked] at seen
    dsimp only at seen ⊢
    split
    · exact saves_error
    · split
      · exact saves_error
      · rename_i delivered passed
        have edits : Edits env.toEnv powers marked.db delivered.site.db :=
          ensures_foldlM_deliver _ _ _ delivered passed
        rw [seen] at edits
        exact saves_ok edits

theorem saves_fnSetMyModel (governs : ∀ agents, powers.governs agents) (target : Option Nat) (provider model : Option String) :
    Saves env powers site (fnSetMyModel env site token target provider model) := by
  unfold fnSetMyModel
  split
  · exact saves_error
  · rename_i userId target access allowed
    exact .of_db (requireAgentAccess_db allowed) (saves_onDb (leaves_fnSetPolicy (governs _) _ _ _))

theorem saves_userBranch (governs : ∀ agents, powers.governs agents) (request : Json) (action : UserAction) :
    Saves env powers site (userBranch env site request token action) := by
  cases action with
  | projectChatSend =>
    refine saves_bind fun projectId => ensures_bind.mpr fun sent opened => ?_
    exact saves_ok (ensures_fnProjectChatSend _ _ sent opened)
  | projectChatHistory =>
    refine saves_bind fun projectId => ensures_map.mpr fun access allowed => ?_
    exact .of_db (requireProjectAccess_db allowed)
  | agentsMine => exact saves_bind fun user => saves_answers _
  | agentsSetMyModel => exact saves_bind fun target => saves_fnSetMyModel governs _ _ _
  | chatSend =>
    refine saves_bind fun target => ensures_bind.mpr fun sent opened => ?_
    exact saves_ok (ensures_fnChatSend _ _ sent opened)
  | chatHistory =>
    refine saves_bind fun target => ensures_map.mpr fun access allowed => ?_
    exact .of_db (requireAgentAccess_db allowed)
  | messengerPost =>
    rw [userBranch]
    exact saves_fnMessengerPost _
  | messengerList => exact saves_bind fun user => saves_bind fun count => saves_answers _

theorem saves_agentBranch (request : Json) (id : Option Nat) (action : AgentAction) :
    Saves env powers site (agentBranch env site request id action) := by
  cases action with
  | run => exact saves_bind fun projectId => saves_opened (begins_fnCreateSession _ _ _ _)
  | sessionsCancel => exact saves_onDb (leaves_fnCancelSession _ _)
  | sessionsContinue => exact saves_opened (begins_fnContinueSession _ _)
  | memoriesCreate =>
    rw [agentBranch]
    exact saves_onDb (leaves_fnRemember _ _ _ _ _ _)
  | memoriesRemove =>
    rw [agentBranch]
    exact saves_onDb (ensures_ok.mpr (edits_fnForget _))

/-! ### The configuration -/

theorem saves_createSchedule (request : Json) : Saves env .operators site (createSchedule env site request) := by
  unfold createSchedule
  refine saves_bind fun target => saves_bind fun interval => saves_bind fun maxRuns => saves_bind fun endsAt =>
    saves_bind fun startAt => saves_bind fun maxCost => ?_
  exact saves_onDb (leaves_fnCreateSchedule _ _ _ _ _ _ _ _)

theorem saves_updateSchedule (request : Json) : Saves env .operators site (updateSchedule env site request) := by
  unfold updateSchedule
  refine saves_bind fun scheduleId => saves_bind fun interval => saves_bind fun active => saves_bind fun maxRuns =>
    saves_bind fun clearMaxRuns => saves_bind fun endsAt => saves_bind fun clearEndsAt => saves_bind fun maxCost =>
    saves_bind fun clearMaxCost => ?_
  exact saves_onDb (leaves_fnSetSchedule _ _)

theorem saves_configBranch (request : Json) {action : ConfigAction} (other : action ≠ .sqlExecute) :
    Saves env .operators site (configBranch env site request action) := by
  cases action with
  | agentsSetAutonomy => exact saves_bind fun target => saves_onDb (leaves_fnSetAgentAutonomy _ _)
  | agentsSetPreset => exact saves_bind fun target => saves_onDb (leaves_fnSetFunctionOverrideAutonomyPreset _ _)
  | agentsBulkSetModel =>
    rw [configBranch]
    exact saves_onDb (leaves_fnBulkSetModel _ _)
  | agentsCreate =>
    rw [configBranch]
    exact saves_onDb (leaves_fnCreateAgent operators_govern _ _)
  | allowlistAdd =>
    rw [configBranch]
    exact saves_onDb (leaves_fnAllowlistAdd _)
  | allowlistRemove =>
    rw [configBranch]
    exact saves_onDb (ensures_ok.mpr (edits_fnAllowlistDel _))
  | projectsCreate => exact saves_bind fun bound => saves_fnCreateProject _ _ _ _
  | projectsUpdate => exact saves_bind fun projectId => saves_updateProject _ _
  | sqlExecute => exact absurd rfl other
  | providerUpdate =>
    rw [configBranch]
    exact saves_updateProvider request
  | providerCreate =>
    rw [configBranch]
    exact saves_bind fun allow => saves_bind fun jsonObject => saves_onDb (leaves_fnCreateProvider env _)
  | pricesSet =>
    exact saves_bind fun providerId => saves_bind fun input => saves_bind fun output =>
      saves_onDb (leaves_fnSetModelPrice _ _ _ _)
  | pricesDelete => exact saves_bind fun providerId => saves_onDb (leaves_fnDeleteModelPrice _ _)
  | connectionsCreate =>
    rw [configBranch]
    exact saves_bind fun allow => saves_onDb (leaves_fnCreateConnection env _ _ _ _ _)
  | connectionsUpdate =>
    rw [configBranch]
    exact saves_updateConnection request
  | connectionsDelete => exact saves_bind fun connectionId => saves_onDb (leaves_fnDeleteConnection _)
  | proceduresCreate =>
    rw [configBranch]
    exact saves_onDb (leaves_fnCreateProcedure _ _ _)
  | proceduresUpdate =>
    exact saves_bind fun procedureId => saves_bind fun active => saves_onDb (leaves_fnSetProcedure _ _ _ _)
  | proceduresRollback =>
    exact saves_bind fun procedureId => saves_bind fun generation => saves_onDb (leaves_rollbackProcedure _ _)
  | functionsCreate =>
    exact saves_bind fun connectionId => saves_onDb (leaves_fnCreateFunctionFields _ _ _ _ _ _ _)
  | functionsUpdate =>
    exact saves_bind fun functionId => saves_onDb (leaves_fnUpdateFunction operators_govern _ _ _ _)
  | functionsBind =>
    exact saves_bind fun procedureId => saves_bind fun functionId => saves_onDb (leaves_fnBindProcedureFunction _ _)
  | schedulesCreate =>
    rw [configBranch]
    exact saves_createSchedule request
  | schedulesUpdate =>
    rw [configBranch]
    exact saves_updateSchedule request
  | schedulesDelete => exact saves_bind fun scheduleId => saves_onDb (leaves_fnDeleteSchedule _)
  | schedulesRunNow => exact saves_bind fun scheduleId => saves_onDb (leaves_fnRunScheduleNow _)
  | oauthStart => exact saves_bind fun providerId => saves_fnOauthStart _ _
  | oauthDeviceStart => exact saves_bind fun providerId => saves_fnOauthDeviceStart _
  | oauthCallback =>
    rw [configBranch]
    exact saves_fnOauthTokenRequest _ _ _
  | probeStart => exact saves_bind fun providerId => saves_onDb (leaves_fnProviderProbeStart env _)

theorem saves_updateAgent (request : Json) (target : Option Nat) :
    Saves env .operators site (updateAgent env site request target) := by
  refine saves_bind fun active => saves_optional (edits_performs (leaves_setAgentActive _ _)) fun activated =>
    saves_optional (edits_performs (leaves_fnSetAgentConfig _ _)) fun configured => saves_bind fun maxSteps =>
    saves_bind fun maxRetries => saves_bind fun maxConcurrentTasks => saves_bind fun maxTurnSeconds =>
    saves_bind fun maxDelegationDepth => saves_bind fun maxSessionTasks =>
    saves_step (edits_performs (leaves_fnSetPolicyFields operators_govern _ _)) fun edited => ?_
  dsimp only
  split
  · exact saves_ok (edits_queueAgentEmbedding _)
  · exact saves_ok .refl

theorem saves_identityBranch (request : Json) (target : Option Nat) (action : IdentityAction) :
    Saves env .operators site (identityBranch env site request target action) := by
  cases action with
  | agentsUpdate =>
    rw [identityBranch]
    exact saves_updateAgent request target
  | policyRollback => exact saves_bind fun generation => saves_onDb (leaves_fnRollbackPolicy _ _)
  | permissionsGrant => exact saves_onDb (leaves_fnGrantPermission _ _ _)
  | permissionsRevoke =>
    rw [identityBranch]
    exact saves_onDb (ensures_ok.mpr (edits_revokePermission _ _ _))

/-! ### Proposals and fixes -/

theorem saves_approvedProposal {db : Db} {proposalId : Nat} {reply : Option String} {kind : String}
    {more audited : List (String × Json)} (edits : Edits env.toEnv powers site.db db) :
    Saves env powers site (.ok (approvedProposal env (site.withDb db) proposalId reply kind more audited)) :=
  ensures_ok.mpr (edits.audited ..)

theorem saves_staleProposal {proposalId : Nat} {reply : Option String} {reason : String} :
    Saves env powers site (.ok (staleProposal env site proposalId reply reason)) :=
  ensures_ok.mpr (edits_audit ..)

section Decisions

variable (governs : ∀ agents, powers.governs agents)

include governs

theorem leaves_startProposed {db : Db} (proposal : ProposalRow) :
    Leaves env.toEnv powers db (startProposed db proposal) := by
  unfold startProposed
  dsimp only
  split
  · exact leaves_error
  · exact leaves_error
  · split
    · exact leaves_applyFunctionExperimentStart (governs _) _ _ _ _ _ _ _
    · exact leaves_error

theorem saves_decideOverride (proposalId : Nat) (proposal : ProposalRow) (reply : Option String) :
    Saves env powers site (decideOverride env site proposalId proposal reply) := by
  unfold decideOverride
  dsimp only
  split
  · split
    · exact saves_error
    · rename_i experimentId db started
      exact saves_approvedProposal (leaves_startProposed governs proposal _ started)
  · split
    · exact saves_error
    · split
      · exact saves_staleProposal
      · rename_i experimentId chosen
        have running : site.db.Running experimentId := by
          obtain ⟨-, named⟩ := Option.filter_eq_some_iff.mp chosen
          obtain ⟨experiment, found, runs⟩ := (Option.any_eq_true _ _).mp named
          rw [Bool.and_eq_true, beq_iff_eq, beq_iff_eq] at runs
          exact ⟨experiment, found, runs.2⟩
        split
        · exact saves_error
        · rename_i db decided
          refine saves_approvedProposal ?_
          revert decided
          split
          · exact ensures_applyFunctionExperimentPromote (governs _) running db
          · intro rejected
            obtain rfl := Except.ok.inj rejected
            exact edits_decide (governs _) running (by decide)

theorem leaves_updateProposed {db : Db} (proposal : ProposalRow) :
    Leaves env.toEnv powers db (withRow proposal.targetFunctionId "function not found" fun functionId =>
      fnUpdateFunction env.toEnv db functionId (proposal.proposedChanges.getText? "description")
        (proposal.proposedChanges.getText? "body") (proposal.proposedChanges.get? "param_schema")) :=
  ensures_withRow fun _ _ => leaves_fnUpdateFunction (governs _) _ _ _ _

theorem saves_applyProposal (proposalId : Nat) (proposal : ProposalRow) (reply : Option String) :
    Saves env powers site (applyProposal env site proposalId proposal reply) := by
  unfold applyProposal
  dsimp only
  split
  · split
    · exact saves_error
    · rename_i created db made
      exact saves_approvedProposal (leaves_fnCreateAgent (governs _) _ _ _ made)
  · split
    · exact saves_error
    · rename_i created db made
      exact saves_approvedProposal (leaves_fnCreateFunction (governs _) _ _ _ _ _ _ made)
  · split
    · exact saves_error
    · rename_i updated db made
      exact saves_approvedProposal (leaves_updateProposed governs proposal _ made)
  · exact saves_decideOverride governs proposalId proposal reply
  · split
    · exact saves_staleProposal
    · split
      · exact saves_error
      · rename_i policy db applied
        exact saves_approvedProposal (leaves_fnSetPolicyFields (governs _) _ _ _ applied)

theorem saves_fnDecideProposal (proposalId : Option Nat) (approve : Option Bool) (reply : Option String) :
    Saves env powers site (fnDecideProposal env site proposalId approve reply) := by
  refine ensures_withRow fun key _ => ?_
  split
  · exact saves_error
  · dsimp only
    split
    · exact saves_error
    · split
      · exact saves_applyProposal governs _ _ _
      · exact ensures_ok.mpr (edits_audit ..)

theorem saves_fnDecideFix (fixId : Option Nat) (approve : Option Bool) (reply : Option String) :
    Saves env powers site (fnDecideFix env site fixId approve reply) := by
  refine ensures_withRow fun key _ => ?_
  split
  · exact saves_error
  · dsimp only
    split
    · exact saves_error
    · split
      · split
        · exact saves_error
        · rename_i result db applied
          exact ensures_ok.mpr (Edits.audited (leaves_applyFix (governs _) _ _ _ _ applied) _ _)
      · exact ensures_ok.mpr (edits_audit ..)

theorem saves_scopedBranch (request : Json) (scope : Option (List Nat)) (action : ScopedAction) :
    Saves env powers site (scopedBranch env site request scope action) := by
  cases action with
  | proposalsDecide =>
    refine saves_bind fun proposalId => ?_
    split
    · exact saves_error
    · exact saves_bind fun approve => saves_fnDecideProposal governs _ _ _
  | fixesDecide =>
    refine saves_bind fun fixId => ?_
    split
    · exact saves_error
    · exact saves_bind fun approve => saves_fnDecideFix governs _ _ _
  | proposalsList => exact saves_bind fun target => saves_answers _
  | fixesList => exact saves_answers _
  | memoriesList => exact saves_bind fun target => saves_bind fun count => saves_answers _
  | historySearch =>
    rw [scopedBranch]
    split
    · exact saves_answers _
    · exact saves_bind fun target => saves_bind fun projectId => saves_bind fun count => saves_answers _
  | approvalsList => exact saves_bind fun count => saves_answers _
  | approvalsDecide =>
    refine saves_bind fun approvalId => ?_
    split
    · exact saves_error
    · exact saves_bind fun accept => saves_onDb (leaves_fnDecideApproval _ _ _)

end Decisions

/-! ### The request -/

/-- The action is one of the administrators', once there are accounts. -/
def RpcAction.Administers : RpcAction → Prop
  | config _ | identity _ | account _ => True
  | _ => False

theorem saves_common (governs : ∀ agents, powers.governs agents) (request : Json) {action : RpcAction}
    (common : ¬ action.Administers) (test : action ≠ .selftest) :
    Saves env powers site (branch env site request token action) := by
  cases action with
  | config action | identity action | account action => exact absurd trivial common
  | page action => exact ensures_map.mpr fun reply _ => .refl
  | adminPage action =>
    exact saves_check (fun _ => requireAdminIfAccountsExist_db) fun checked => saves_bind fun reply => saves_answers _
  | visible action => exact .of_db (visibleAgentIds_db env site token) (saves_scopedBranch governs request _ action)
  | onAgent action =>
    refine saves_bind fun named => ?_
    exact saves_check (fun _ => requireAgentAccessIfAccountsExist_db) fun checked => saves_agentBranch request _ action
  | user action => exact saves_userBranch governs request action
  | authLogin =>
    rw [branch]
    exact saves_fnLogin _ _
  | authLogout => exact saves_ok .refl
  | selftest => exact absurd rfl test

theorem saves_branch (request : Json) {action : RpcAction} (console : action ≠ .config .sqlExecute)
    (test : action ≠ .selftest) : Saves env .operators site (branch env site request token action) := by
  cases action with
  | config action =>
    refine saves_check (fun _ => requireAdminIfAccountsExist_db) fun checked => saves_configBranch request ?_
    rintro rfl
    exact console rfl
  | identity action =>
    refine saves_bind fun target => saves_bind fun passed => ?_
    exact saves_check (fun _ => requireAdminIfAccountsExist_db) fun checked => saves_identityBranch request _ action
  | account action =>
    exact saves_check (fun _ => requireAdmin_db) fun checked => saves_accountBranch request action
  | _ => exact saves_common (fun _ => trivial) request (fun administers => administers) test

theorem edits_dashboardRpc {request : Json} (own : ¬ IsForeign request) :
    Edits env.toEnv .operators site.db (dashboardRpc env site request).2.db := by
  have seen := sessionUser_db env site (request.getText? "session_token")
  unfold dashboardRpc
  dsimp only
  split
  · rw [seen]
  · rename_i action asked
    have saves := @saves_branch env (sessionUser env site (request.getText? "session_token")).2
      (request.getText? "session_token") request action (fun console => own (.inl (console ▸ asked)))
      (fun test => own (.inr (test ▸ asked)))
    rw [Saves, seen] at saves
    split
    · rename_i answer answered
      exact saves answer answered
    · exact .refl

end Allgres
