import Allgres.Dashboard.Rpc
import Allgres.Lib.Raising

/-! Requests of a caller who is not logged in, once there are accounts. -/

namespace Allgres

open Relational Jsonb Sql Raising

/-- There are accounts, and the token is none of an active user's. -/
structure Guest (env : WebEnv) (site : Site) (token : Option String) : Prop where
  accounts : site.hasAccounts = true
  nobody : (sessionUser env site token).1 = none

section Checks

variable {env : WebEnv} {site : Site} {token : Option String}

theorem sessionUser_nobody (nobody : (sessionUser env site token).1 = none) :
    sessionUser env site token = (none, site) := by
  unfold sessionUser at nobody ⊢
  split at nobody
  · rfl
  · simp only at nobody ⊢
    split at nobody
    · rfl
    · simp at nobody

theorem Guest.sessionUser (guest : Guest env site token) : sessionUser env site token = (none, site) :=
  sessionUser_nobody guest.nobody

theorem Guest.requireAdmin (guest : Guest env site token) : requireAdmin env site token = .error "not logged in" := by
  simp only [Allgres.requireAdmin, guest.sessionUser]

theorem Guest.requireAdminIfAccountsExist (guest : Guest env site token) :
    requireAdminIfAccountsExist env site token = .error "not logged in" := by
  simp only [Allgres.requireAdminIfAccountsExist, guest.accounts, if_true, guest.requireAdmin]

theorem Guest.visibleAgentIds (guest : Guest env site token) : visibleAgentIds env site token = (some [], site) := by
  simp only [Allgres.visibleAgentIds, guest.sessionUser, guest.accounts, if_true]

theorem Guest.requireAgentAccess (guest : Guest env site token) (agentId : Option Nat) :
    requireAgentAccess env site token agentId = .error "not logged in" := by
  simp only [Allgres.requireAgentAccess, guest.sessionUser]

theorem Guest.requireAgentAccessIfAccountsExist (guest : Guest env site token) (agentId : Option Nat) :
    requireAgentAccessIfAccountsExist env site token agentId = .error "not logged in" := by
  simp only [Allgres.requireAgentAccessIfAccountsExist, guest.accounts, if_true, guest.requireAgentAccess, Except.map]

theorem Guest.loggedIn (guest : Guest env site token) : loggedIn env site token = .error "not logged in" := by
  simp only [Allgres.loggedIn, guest.sessionUser]

/-- The error of `require_project_access` says which check has failed. -/
theorem Guest.requireProjectAccess (guest : Guest env site token) (projectId : Option Nat) :
    ∃ message, requireProjectAccess env site token projectId = .error message := by
  unfold Allgres.requireProjectAccess
  split
  · exact ⟨_, rfl⟩
  · split
    · exact ⟨_, rfl⟩
    · simp only [guest.requireAgentAccess, Except.map]
      exact ⟨_, rfl⟩

end Checks

/-! ### What a guest changes -/

/-- Only the sessions of the dashboard and the audit log differ. -/
def OnlyLogins (site later : Site) : Prop :=
  later = { site with webSessions := later.webSessions, db := { site.db with auditLog := later.db.auditLog } }

@[simp] theorem OnlyLogins.refl (site : Site) : OnlyLogins site site := rfl

@[simp] theorem ensures_answers {site : Site} {reply : Json} {post : Json × Site → Prop} :
    Ensures (site.answers reply) post ↔ post (reply, site) := by
  simp only [Site.answers, ensures_ok]

theorem OnlyLogins.webSessions (site : Site) (sessions : List WebSessionRow) :
    OnlyLogins site { site with webSessions := sessions } := rfl

theorem fnLogin_onlyLogins (env : WebEnv) (site : Site) (username password : Option String) :
    Ensures (fnLogin env site username password) fun answer => OnlyLogins site answer.2 := by
  unfold fnLogin
  simp only
  split
  · simp
  · split
    · simp
    · split
      · simp
      · split
        · simp
        · exact ensures_ok.mpr (OnlyLogins.webSessions site _)

theorem userBranch_guest {env : WebEnv} {site : Site} {request : Json} {token : Option String}
    (guest : Guest env site token) (action : UserAction) {post : Json × Site → Prop} :
    Ensures (userBranch env site request token action) post := by
  cases action with
  | projectChatSend =>
    simp only [userBranch, ensures_bind]
    refine .of_forall fun projectId => ?_
    obtain ⟨message, refused⟩ := guest.requireProjectAccess projectId
    simp [fnProjectChatSend, refused]
  | projectChatHistory =>
    simp only [userBranch, ensures_bind]
    refine .of_forall fun projectId => ?_
    obtain ⟨message, refused⟩ := guest.requireProjectAccess projectId
    simp [fnProjectChatHistory, refused]
  | messengerPost => simp [userBranch, fnMessengerPost, guest.sessionUser]
  | agentsMine | messengerList => simp [userBranch, guest.loggedIn]
  | chatSend => simp [userBranch, fnChatSend, guest.requireAgentAccess]
  | chatHistory => simp [userBranch, fnChatHistory, guest.requireAgentAccess]
  | agentsSetMyModel => simp [userBranch, fnSetMyModel, guest.requireAgentAccess]

theorem scopedBranch_guest (env : WebEnv) (site : Site) (request : Json) (action : ScopedAction) :
    Ensures (scopedBranch env site request (some []) action) fun answer => answer.2 = site := by
  have noProposal (id : Option Nat) : decidesProposal site (some []) id = false := by
    simp [decidesProposal, inScope]
  have noFix (id : Option Nat) : decidesFix site (some []) id = false := by
    simp [decidesFix, inScope]
  have noApproval (id : Option Nat) : decidesApproval site (some []) id = false := by
    simp [decidesApproval, inScope]
  cases action with
  | proposalsDecide | fixesDecide | approvalsDecide => simp [scopedBranch, noProposal, noFix, noApproval]
  | historySearch =>
    simp only [scopedBranch]
    split <;> simp
  | proposalsList | fixesList | memoriesList | approvalsList => simp [scopedBranch]

theorem branch_guest {env : WebEnv} {site : Site} {request : Json} {token : Option String} {action : RpcAction}
    (guest : Guest env site token) (other : action ≠ .selftest) :
    Ensures (branch env site request token action) fun answer => OnlyLogins site answer.2 := by
  cases action with
  | page action => simp [branch]
  | adminPage action | config action | identity action => simp [branch, guest.requireAdminIfAccountsExist]
  | account action => simp [branch, guest.requireAdmin]
  | visible action =>
    simp only [branch, guest.visibleAgentIds]
    refine (scopedBranch_guest env site request action).imp fun answer same => ?_
    rw [same]
    exact .refl site
  | onAgent action => simp [branch, guest.requireAgentAccessIfAccountsExist]
  | user action => exact userBranch_guest guest action
  | authLogin => exact fnLogin_onlyLogins env site _ _
  | authLogout => exact ensures_ok.mpr (OnlyLogins.webSessions site _)
  | selftest => exact absurd rfl other
/-- The actions that take no account of who is asking are open by design; of these only the self test writes. -/
theorem guest_changes_only_logins (env : WebEnv) (site : Site) (request : Json) (accounts : site.hasAccounts = true)
    (nobody : (sessionUser env site (request.getText? "session_token")).1 = none)
    (other : requestedAction request ≠ some .selftest) :
    OnlyLogins site (dashboardRpc env site request).2 := by
  have guest : Guest env site (request.getText? "session_token") := ⟨accounts, nobody⟩
  unfold dashboardRpc
  simp only [guest.sessionUser]
  split
  · exact .refl site
  · rename_i action named
    have notTest : action ≠ .selftest := by
      rintro rfl
      exact other named
    have kept : Ensures (branch env site request (request.getText? "session_token") action)
        fun answer => OnlyLogins site answer.2 := branch_guest guest notTest
    split
    · rename_i answer answered
      exact kept answer answered
    · exact .refl site

/-- A database with one account and one agent. -/
def staffed : Site where
  db := { Db.empty with
    agents := Table.empty.insert ⟨"analyst", true, false, none, .adminApproval, .emptyObj⟩
    policies := Table.empty.insert (defaultPolicy 0) }
  users := Table.empty.insert ⟨"admin", "hash", .admin, true, 0⟩
  webSessions := []
  assignments := []
  agentChats := []
  projectChats := []
  messages := .empty
  projectInfo := Site.empty.projectInfo
  proposalDecision := Site.empty.proposalDecision
  fixDecision := Site.empty.fixDecision
  oauthStates := []
  oauthColumns := Site.empty.oauthColumns

def asking (action : String) : Json := .build [("action", .str action)]

theorem guest_changes_only_logins_grant : OnlyLogins staffed (dashboardRpc .bare staffed (asking "permissions.grant")).2 :=
  guest_changes_only_logins .bare staffed (asking "permissions.grant") (by decide +kernel) (by decide +kernel)
    (by decide +kernel)

theorem dashboardRpc_selftest {env : WebEnv} {site : Site} {request : Json} {answer : Json × Site}
    (asked : requestedAction request = some .selftest)
    (unseen : sessionUser env site (request.getText? "session_token") = (none, site))
    (answered : fnSelftest env site = .ok answer) : dashboardRpc env site request = answer := by
  simp only [dashboardRpc, asked, unseen, branch, answered]

/-- Whatever the test cases do, the session of the first one stays. -/
theorem not_guest_changes_only_logins :
    staffed.hasAccounts = true ∧ (sessionUser .bare staffed ((asking "selftest").getText? "session_token")).1 = none ∧
      ∀ cases : SelftestCases, (∀ site, ∃ answer, cases.run site = .ok answer) →
        ¬ OnlyLogins staffed
          (dashboardRpc { WebEnv.bare with selftestCases := cases } staffed (asking "selftest")).2 := by
  refine ⟨by decide +kernel, by decide +kernel, ?_⟩
  intro cases completes same
  obtain ⟨db, started, opened⟩ : ∃ db,
      selftestStart { WebEnv.bare with selftestCases := cases } staffed.db = .ok db ∧ (db.sessions.get? 0).isSome :=
    ⟨_, rfl, rfl⟩
  obtain ⟨answer, completed⟩ := completes (staffed.withDb db)
  have kept := cases.keepsSessions completed 0 opened
  have answered : fnSelftest { WebEnv.bare with selftestCases := cases } staffed = .ok answer := by
    simp only [fnSelftest, started]
    exact completed
  have later : (dashboardRpc { WebEnv.bare with selftestCases := cases } staffed (asking "selftest")).2 = answer.2 := by
    rw [dashboardRpc_selftest (by decide +kernel) rfl answered]
  rw [later] at same
  have none : answer.2.db.sessions = staffed.db.sessions := congrArg (fun site => site.db.sessions) same
  rw [none] at kept
  exact Bool.noConfusion kept

end Allgres
