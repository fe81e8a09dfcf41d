import Allgres.Safety.Guests

/-! What a caller who is not logged in can tell of what the agents have said and done. -/

namespace Allgres

open Relational Jsonb Sql Raising

/-- The tables without the contents of conversations, logs, memories and audit rows. -/
def Db.withoutContents (db : Db) : Db :=
  { db with
    logs := db.logs.map fun log => { log with content := .null }
    tasks := db.tasks.map fun task => { task with error := none, output := none }
    sessions := db.sessions.map fun session => { session with goal := "", finalAnswer := none }
    memories := .empty
    auditLog := db.auditLog.map fun row => { row with details := .null } }

def Site.withoutContents (site : Site) : Site := site.withDb site.db.withoutContents

/-- The states differ at most in those contents. -/
def SameButContents (site other : Site) : Prop := site.withoutContents = other.withoutContents

/-- The actions that show contents to anyone: these are open by design. -/
def RpcAction.showsContents : RpcAction → Bool
  | .page .overview | .page .events | .page .auditList | .page .agentsEvaluate | .selftest => true
  | _ => false

section Replies

variable {env : WebEnv} {site : Site} {request : Json} {token : Option String}

theorem sessionUser_withoutContents (env : WebEnv) (site : Site) (token : Option String) :
    (sessionUser env site.withoutContents token).1 = (sessionUser env site token).1 := by
  unfold sessionUser
  split
  · rfl
  · simp only [Site.withoutContents, Site.withDb]
    split <;> rfl

theorem Guest.withoutContents (guest : Guest env site token) : Guest env site.withoutContents token :=
  ⟨guest.accounts, (sessionUser_withoutContents env site token).trans guest.nobody⟩

theorem openPage_withoutContents (action : OpenPage) (hidden : (RpcAction.page action).showsContents = false) :
    openPage env site.withoutContents request action = openPage env site request action := by
  cases action with
  | authMe => simp only [openPage, sessionUser_withoutContents]
  | overview | events | auditList | agentsEvaluate => exact Bool.noConfusion hidden
  | _ => rfl

/-- Nothing of a row is in an empty scope. -/
theorem memoriesPage_guest (agentId : Option Nat) (count : Nat) :
    memoriesPage env site (some []) agentId count = listing "memories" [] := by
  have none : (site.db.memories.select fun _ memory => matchesId agentId (some memory.agentId) &&
      inScope (some []) memory.agentId && (site.db.agents.get? memory.agentId).isSome) = [] := by
    simp [Table.select, inScope]
  simp only [memoriesPage, none, newest, List.insertionSort_nil, List.take_nil, List.map_nil]

theorem approvalsPage_guest (count : Nat) : approvalsPage env site (some []) count = listing "approvals" [] := by
  simp [approvalsPage, inScope]

theorem historyPage_guest (query : String) (agentId projectId : Option Nat) (count : Nat) :
    historyPage env site ⟨query, some [], agentId, projectId⟩ count = listing "results" [] := by
  have none (hits : List Hit) : hits.filter (Search.finds ⟨query, some [], agentId, projectId⟩ env site.db) = [] := by
    simp [Search.finds, inScope]
  simp only [historyPage, none, newest, List.insertionSort_nil, List.take_nil, List.map_nil]

theorem map_answers (site : Site) (reply : Json) : (site.answers reply).map Prod.fst = .ok reply := rfl

theorem scopedBranch_withoutContents (action : ScopedAction) :
    (scopedBranch env site.withoutContents request (some []) action).map Prod.fst =
      (scopedBranch env site request (some []) action).map Prod.fst := by
  cases action with
  | proposalsDecide | fixesDecide | approvalsDecide =>
    simp [scopedBranch, decidesProposal, decidesFix, decidesApproval, inScope]
  | historySearch =>
    simp only [scopedBranch]
    split
    · rfl
    · simp only [map_bind, map_answers, historyPage_guest]
  | memoriesList => simp only [scopedBranch, map_bind, map_answers, memoriesPage_guest]
  | approvalsList => simp only [scopedBranch, map_bind, map_answers, approvalsPage_guest]
  | proposalsList =>
    simp only [scopedBranch, map_bind, map_answers]
    rfl
  | fixesList => rfl

theorem requireProjectAccess_withoutContents (guest : Guest env site token) (projectId : Option Nat) :
    requireProjectAccess env site.withoutContents token projectId = requireProjectAccess env site token projectId := by
  simp only [requireProjectAccess, guest.withoutContents.requireAgentAccess, guest.requireAgentAccess]
  rfl

theorem userBranch_withoutContents (guest : Guest env site token) (action : UserAction) :
    (userBranch env site.withoutContents request token action).map Prod.fst =
      (userBranch env site request token action).map Prod.fst := by
  have covered := guest.withoutContents
  cases action with
  | projectChatSend =>
    simp only [userBranch, map_bind]
    congr 1
    funext projectId
    obtain ⟨message, refused⟩ := guest.requireProjectAccess projectId
    simp only [fnProjectChatSend, requireProjectAccess_withoutContents guest, refused, bind_error]
  | projectChatHistory =>
    simp only [userBranch, map_bind]
    congr 1
    funext projectId
    obtain ⟨message, refused⟩ := guest.requireProjectAccess projectId
    simp only [fnProjectChatHistory, requireProjectAccess_withoutContents guest, refused, map_error]
  | messengerPost => simp only [userBranch, fnMessengerPost, covered.sessionUser, guest.sessionUser]
  | agentsMine | messengerList => simp only [userBranch, covered.loggedIn, guest.loggedIn, bind_error]
  | chatSend => simp only [userBranch, fnChatSend, covered.requireAgentAccess, guest.requireAgentAccess, bind_error]
  | chatHistory => simp only [userBranch, fnChatHistory, covered.requireAgentAccess, guest.requireAgentAccess, map_error]
  | agentsSetMyModel => simp only [userBranch, fnSetMyModel, covered.requireAgentAccess, guest.requireAgentAccess]

theorem fnLogin_withoutContents (username password : Option String) :
    (fnLogin env site.withoutContents username password).map Prod.fst =
      (fnLogin env site username password).map Prod.fst := by
  have users : site.withoutContents.users = site.users := rfl
  have sessions : site.withoutContents.webSessions = site.webSessions := rfl
  simp only [fnLogin, users, sessions]
  split
  · rfl
  · split
    · rfl
    · split
      · rfl
      · split <;> rfl

theorem branch_withoutContents (guest : Guest env site token) {action : RpcAction}
    (hidden : action.showsContents = false) :
    (branch env site.withoutContents request token action).map Prod.fst =
      (branch env site request token action).map Prod.fst := by
  have covered := guest.withoutContents
  cases action with
  | page action => 
    simp only [branch, openPage_withoutContents action hidden]
    cases openPage env site request action <;> rfl
  | adminPage action | config action => 
    simp only [branch, covered.requireAdminIfAccountsExist, guest.requireAdminIfAccountsExist, bind_error]
  | identity action => 
    simp only [branch, covered.requireAdminIfAccountsExist, guest.requireAdminIfAccountsExist, bind_error]
    rfl
  | account action => simp only [branch, covered.requireAdmin, guest.requireAdmin, bind_error]
  | visible action =>
    simp only [branch, covered.visibleAgentIds, guest.visibleAgentIds]
    exact scopedBranch_withoutContents action
  | onAgent action =>
    simp only [branch, covered.requireAgentAccessIfAccountsExist, guest.requireAgentAccessIfAccountsExist, bind_error]
    cases action with
    | run | memoriesCreate => rfl
    | sessionsCancel | sessionsContinue =>
      simp only [agentOfRequest]
      cases uuidArg request "session_id" <;> rfl
    | memoriesRemove =>
      simp only [agentOfRequest]
      cases uuidArg request "memory_id" <;> rfl
  | user action => exact userBranch_withoutContents guest action
  | authLogin => exact fnLogin_withoutContents _ _
  | authLogout => rfl
  | selftest => exact Bool.noConfusion hidden

/-- The answer, as a function of what the branch answers. -/
theorem dashboardRpc_guest (guest : Guest env site (request.getText? "session_token")) :
    (dashboardRpc env site request).1 = match requestedAction request with
      | none => .build [("ok", .bool false), ("error", .str "unknown_action"),
          ("action", .str ((request.getText? "action").getD ""))]
      | some action => match (branch env site request (request.getText? "session_token") action).map Prod.fst with
        | .ok reply => reply
        | .error message => .build [("ok", .bool false), ("error", .str message)] := by
  simp only [dashboardRpc, guest.sessionUser]
  cases requestedAction request with
  | none => rfl
  | some action =>
    simp only
    cases branch env site request (request.getText? "session_token") action <;> rfl

theorem answer_withoutContents (guest : Guest env site (request.getText? "session_token"))
    (hidden : (requestedAction request).all (fun action => !action.showsContents) = true) :
    (dashboardRpc env site.withoutContents request).1 = (dashboardRpc env site request).1 := by
  rw [dashboardRpc_guest guest, dashboardRpc_guest guest.withoutContents]
  cases named : requestedAction request with
  | none => rfl
  | some action =>
    rw [named] at hidden
    have shown : action.showsContents = false := by simpa using hidden
    have kept : (branch env site.withoutContents request (request.getText? "session_token") action).map Prod.fst =
        (branch env site request (request.getText? "session_token") action).map Prod.fst :=
      branch_withoutContents guest shown
    simp only [kept]

end Replies

theorem guests_see_no_contents (env : WebEnv) (site other : Site) (request : Json) (same : SameButContents site other)
    (accounts : site.hasAccounts = true)
    (nobody : (sessionUser env site (request.getText? "session_token")).1 = none)
    (hidden : (requestedAction request).all (fun action => !action.showsContents) = true) :
    (dashboardRpc env site request).1 = (dashboardRpc env other request).1 := by
  have guest : Guest env site (request.getText? "session_token") := ⟨accounts, nobody⟩
  have covered : Guest env other.withoutContents (request.getText? "session_token") := same ▸ guest.withoutContents
  have otherGuest : Guest env other (request.getText? "session_token") :=
    ⟨covered.accounts, (sessionUser_withoutContents env other _).symm.trans covered.nobody⟩
  calc (dashboardRpc env site request).1
      = (dashboardRpc env site.withoutContents request).1 := (answer_withoutContents guest hidden).symm
    _ = (dashboardRpc env other.withoutContents request).1 := by rw [same]
    _ = (dashboardRpc env other request).1 := answer_withoutContents otherGuest hidden

/-- The staffed database after one task of the agent's second generation. -/
def told (goal error content : String) (details : Nat) : Site :=
  staffed.withDb { staffed.db with
    policies := Table.empty.insert { defaultPolicy 0 with generation := 2 }
    policyHistory := Table.empty.insert ⟨defaultPolicy 0, none⟩
    sessions := Table.empty.insert ⟨0, goal, .opened, none, 0, none, none, none, none⟩
    tasks := Table.empty.insert ⟨0, 0, none, .completed, 1, .emptyObj, none, some error, 0, 0, none, 0, some 2, none⟩
    logs := [⟨0, 0, .user, .str content, 0⟩]
    auditLog := Table.empty.insert ⟨"run", .num details 0⟩ }

theorem guests_see_no_contents_logs :
    (dashboardRpc .bare (told "plan" "broken" "hello" 1) (asking "logs.list")).1 =
      (dashboardRpc .bare (told "selftest" "failed" "goodbye" 2) (asking "logs.list")).1 :=
  guests_see_no_contents .bare (told "plan" "broken" "hello" 1) (told "selftest" "failed" "goodbye" 2)
    (asking "logs.list") rfl (by decide +kernel) (by decide +kernel) (by decide +kernel)

def askingAbout (action : String) (agentId : Nat) : Json :=
  .build [("action", .str action), ("agent_id", idJson agentId)]

/-- Each of the four open pages shows a part of the contents. -/
theorem not_guests_see_no_contents :
    SameButContents (told "plan" "broken" "hello" 1) (told "selftest" "failed" "goodbye" 2) ∧
      (told "plan" "broken" "hello" 1).hasAccounts = true ∧ (sessionUser .bare (told "plan" "broken" "hello" 1) none).1 = none ∧
      (∀ action ∈ ["overview", "events", "audit.list"],
        (dashboardRpc .bare (told "plan" "broken" "hello" 1) (asking action)).1.text ≠
          (dashboardRpc .bare (told "selftest" "failed" "goodbye" 2) (asking action)).1.text) ∧
      (dashboardRpc .bare (told "plan" "broken" "hello" 1) (askingAbout "agents.evaluate" 0)).1.text ≠
        (dashboardRpc .bare (told "selftest" "failed" "goodbye" 2) (askingAbout "agents.evaluate" 0)).1.text :=
  ⟨rfl, by decide +kernel, by decide +kernel, by decide +kernel, by decide +kernel⟩

end Allgres
