import Allgres.Submit.Govern
import Allgres.Lib.Raising

/-! The accounts of the dashboard: who is behind a session token, and the checks
that the actions of `dashboard_rpc` make of it. -/

namespace Allgres

open Relational Jsonb Sql

/-! ### Tables -/

inductive UserRole
  | admin | user
  deriving DecidableEq

def UserRole.text : UserRole → String
  | admin => "admin"
  | user => "user"

def UserRole.ofText : String → Option UserRole
  | "admin" => some admin
  | "user" => some user
  | _ => none

structure UserRow where
  username : String
  passwordHash : String
  role : UserRole
  isActive : Bool
  createdAt : Time

structure WebSessionRow where
  sessionToken : String
  userId : Nat
  expiresAt : Time
  lastSeenAt : Time

/-- `user_agent_chat_sessions` and `user_project_chat_sessions`: the session that a user
carries on with an agent, or in a project. -/
structure ChatRow where
  userId : Nat
  partnerId : Nat
  sessionId : Nat

structure ChannelMessageRow where
  authorUserId : Nat
  content : String
  mentionedAgentId : Option Nat
  sessionId : Option Nat
  mentionedAgentIds : Option (List Nat)
  createdAt : Time

/-- The columns of `projects` that no agent's turn reads. -/
structure ProjectInfo where
  name : String
  description : Option String
  agentId : Option Nat

inductive DecisionStatus
  | pending | approved | rejected | stale
  deriving DecidableEq

def DecisionStatus.text : DecisionStatus → String
  | pending => "pending"
  | approved => "approved"
  | rejected => "rejected"
  | stale => "stale"

/-- The columns `status`, `decided_at` and `decided_reply` of `change_proposals` and
`fix_proposals`. -/
structure Decision where
  status : DecisionStatus
  decidedAt : Option Time
  decidedReply : Option String

def Decision.undecided : Decision := ⟨.pending, none, none⟩

/-- The columns of `llm_providers` that only the login flows read. -/
structure OauthColumns where
  authUrl : Option String
  deviceUrl : Option String
  deviceCode : Bool
  scope : Option String

/-- The tables that the dashboard reads. A proposal, a fix, a project or a provider keeps
part of its columns in the tables of the control plane and the rest here. -/
structure Site where
  db : Db
  users : Table UserRow
  webSessions : List WebSessionRow
  assignments : List (Nat × Nat)
  agentChats : List ChatRow
  projectChats : List ChatRow
  messages : Table ChannelMessageRow
  projectInfo : Nat → ProjectInfo
  proposalDecision : Nat → Decision
  fixDecision : Nat → Decision
  oauthStates : List (String × Nat)
  oauthColumns : Nat → OauthColumns

/-- The tables without an account, as they are created. -/
def Site.empty : Site where
  db := .empty
  users := .empty
  webSessions := []
  assignments := []
  agentChats := []
  projectChats := []
  messages := .empty
  projectInfo _ := ⟨"", none, none⟩
  proposalDecision _ := .undecided
  fixDecision _ := .undecided
  oauthStates := []
  oauthColumns _ := ⟨none, none, false, none⟩

/-- The tables with those of the control plane replaced. -/
def Site.withDb (site : Site) (db : Db) : Site := { site with db := db }

/-- A function of the control plane, called from the dashboard. -/
def Site.onDb (site : Site) : Except String (Json × Db) → Except String (Json × Site)
  | .error message => .error message
  | .ok (reply, db) => .ok (reply, site.withDb db)

def Site.audit (site : Site) (action : String) (details : Json) : Site :=
  site.withDb (site.db.audit action details)

/-! ### Who is asking -/

/-- The test cases of `fn_selftest`. They remove sessions that they have opened
themselves, and no others. -/
structure SelftestCases where
  run : Site → Except String (Json × Site)
  keepsSessions : ∀ {site later : Site} {reply : Json}, run site = .ok (reply, later) →
    ∀ sessionId, (site.db.sessions.get? sessionId).isSome → (later.db.sessions.get? sessionId).isSome

/-- What a request of the dashboard reads from outside the tables. -/
structure WebEnv extends Env where
  /-- `pgcrypto` is installed. -/
  pgcrypto : Bool
  crypt : String → String → String
  genSalt : String
  /-- `encode(gen_random_bytes(32), 'hex')`. -/
  newToken : String
  /-- `replace(gen_random_uuid()::text, '-', '')`. -/
  newState : String
  provisionUserRole : Nat → Except String String
  encryptSecret : Option String → Except String (Option String)
  secretStorageMode : String
  epochText : Time → String
  numericIn : String → Option ℚ
  numericJson : ℚ → Json
  timeJson : Time → Json
  /-- The order of texts in the collation of the database. -/
  textBefore : String → String → Bool
  /-- The server's version, its sessions, its load and the state of the workers. -/
  serverFacts : List (String × Json)
  /-- The views of the schema `allgres_public`. -/
  publicViews : List String
  /-- `to_tsvector('simple', text) @@ plainto_tsquery('simple', query) OR text ILIKE '%' || query || '%'`. -/
  textMatches : String → String → Bool
  /-- `EXECUTE text INTO …` by `allgres_owner`: the one value that a query returns. -/
  executeQuery : String → Site → Except String (Json × Site)
  /-- `EXECUTE text` by `allgres_owner`, with the `ROW_COUNT` that it leaves. -/
  executeStatement : String → Site → Except String (Nat × Site)
  selftestCases : SelftestCases

/-- The cases are passed over. -/
def SelftestCases.none : SelftestCases where
  run site := .ok (.null, site)
  keepsSessions returned sessionId found := by
    obtain ⟨-, rfl⟩ := Prod.mk.inj (Except.ok.inj returned)
    exact found

/-- The bare server without `pgcrypto`, and with a console that runs nothing. -/
def WebEnv.bare : WebEnv where
  toEnv := .bare
  pgcrypto := false
  crypt password _ := password
  genSalt := ""
  newToken := "token"
  newState := "state"
  provisionUserRole _ := .ok "user"
  encryptSecret text := .ok text
  secretStorageMode := "plaintext"
  epochText time := toString time
  numericIn _ := Option.none
  numericJson value := .num value.num 0
  timeJson time := .num time 0
  textBefore a b := decide (a ≤ b)
  serverFacts := []
  publicViews := []
  textMatches _ _ := false
  executeQuery _ _ := .error "syntax error"
  executeStatement _ _ := .error "syntax error"
  selftestCases := .none

/-- The user to whom a token belongs. Only a token that is good is marked as seen. -/
def sessionUser (env : WebEnv) (site : Site) (token : Option String) : Option (Nat × UserRow) × Site :=
  match nonEmpty token with
  | none => (none, site)
  | some token =>
    let live := site.webSessions.find? fun session => session.sessionToken == token &&
      decide (env.now < session.expiresAt) && (site.users.get? session.userId).any UserRow.isActive
    match live.bind fun session => (site.users.get? session.userId).map fun user => (session.userId, user) with
    | none => (none, site)
    | some user =>
      (some user, { site with
        webSessions := site.webSessions.map fun session => if session.sessionToken == token then
          { session with lastSeenAt := env.now } else session })

theorem sessionUser_marks (env : WebEnv) (site : Site) (token : Option String) :
    ∃ sessions, (sessionUser env site token).2 = { site with webSessions := sessions } := by
  unfold sessionUser
  split
  · exact ⟨site.webSessions, rfl⟩
  · dsimp only
    split
    · exact ⟨site.webSessions, rfl⟩
    · exact ⟨_, rfl⟩

theorem sessionUser_db (env : WebEnv) (site : Site) (token : Option String) :
    (sessionUser env site token).2.db = site.db := by
  obtain ⟨sessions, marked⟩ := sessionUser_marks env site token
  rw [marked]

/-- `EXISTS (SELECT 1 FROM users)`. -/
def Site.hasAccounts (site : Site) : Bool := site.users.exists? fun _ _ => true

/-! ### The checks -/

/-- A check gives the tables back as it leaves them. -/
def requireAdmin (env : WebEnv) (site : Site) (token : Option String) : Except String Site :=
  match sessionUser env site token with
  | (none, _) => .error "not logged in"
  | (some (_, user), site) => if user.role = .admin then .ok site else .error "admin role required"

def requireAdminIfAccountsExist (env : WebEnv) (site : Site) (token : Option String) : Except String Site :=
  if site.hasAccounts then requireAdmin env site token else .ok site

def forbidSystemAgentEdit (site : Site) (agentId : Option Nat) : Except String Unit :=
  if (agentId.bind site.db.agents.get?).any AgentRow.isSystem then
    .error "system agents cannot be edited from the dashboard -- connect directly to the database"
  else .ok ()

/-- The agents whose rows a caller may see; `none` stands for all of them. -/
def visibleAgentIds (env : WebEnv) (site : Site) (token : Option String) : Option (List Nat) × Site :=
  match sessionUser env site token with
  | (none, site) => (if site.hasAccounts then some [] else none, site)
  | (some (userId, user), site) =>
    (if user.role = .admin then none
      else some ((site.assignments.filter fun row => row.1 == userId).map Prod.snd), site)

theorem visibleAgentIds_site (env : WebEnv) (site : Site) (token : Option String) :
    (visibleAgentIds env site token).2 = (sessionUser env site token).2 := by
  unfold visibleAgentIds
  split <;> rename_i found <;> rw [found]

/-- A user who has been let through to an agent. -/
structure Access where
  userId : Nat
  agentId : Nat
  site : Site

def requireAgentAccess (env : WebEnv) (site : Site) (token : Option String) (agentId : Option Nat) :
    Except String Access :=
  match sessionUser env site token with
  | (none, _) => .error "not logged in"
  | (some (userId, user), site) => match agentId.filter site.db.isActiveAgent with
    | none => .error "agent inactive or missing"
    | some agentId =>
      if user.role ≠ .admin ∧ ¬ site.assignments.contains (userId, agentId) then
        .error "agent not assigned to this user"
      else .ok ⟨userId, agentId, site⟩

def requireAgentAccessIfAccountsExist (env : WebEnv) (site : Site) (token : Option String) (agentId : Option Nat) :
    Except String Site :=
  if site.hasAccounts then (requireAgentAccess env site token agentId).map Access.site else .ok site

/-- A project is reached through the agent that it is bound to. -/
def requireProjectAccess (env : WebEnv) (site : Site) (token : Option String) (projectId : Option Nat) :
    Except String (Nat × Access) :=
  match projectId.filter fun project => (site.db.projects.get? project).any ProjectRow.isActive with
  | none => .error "project inactive or missing"
  | some project => match (site.projectInfo project).agentId with
    | none => .error "project has no agent configured for chat"
    | some agentId => (requireAgentAccess env site token (some agentId)).map fun access => (project, access)

/-! ### The checks leave the tables of the control plane as they are -/

section Checks

variable {env : WebEnv} {site checked : Site} {token : Option String} {agentId : Option Nat} {access : Access}

theorem requireAdmin_db (admitted : requireAdmin env site token = .ok checked) : checked.db = site.db := by
  have same := sessionUser_db env site token
  unfold requireAdmin at admitted
  split at admitted
  · cases admitted
  · rename_i asked
    rw [asked] at same
    split at admitted
    · obtain rfl := Except.ok.inj admitted
      exact same
    · cases admitted

theorem requireAdminIfAccountsExist_db (admitted : requireAdminIfAccountsExist env site token = .ok checked) :
    checked.db = site.db := by
  unfold requireAdminIfAccountsExist at admitted
  split at admitted
  · exact requireAdmin_db admitted
  · obtain rfl := Except.ok.inj admitted
    rfl

theorem visibleAgentIds_db (env : WebEnv) (site : Site) (token : Option String) :
    (visibleAgentIds env site token).2.db = site.db := by
  rw [visibleAgentIds_site, sessionUser_db]

theorem requireAgentAccess_db (allowed : requireAgentAccess env site token agentId = .ok access) :
    access.site.db = site.db := by
  have same := sessionUser_db env site token
  unfold requireAgentAccess at allowed
  split at allowed
  · cases allowed
  · rename_i asked
    rw [asked] at same
    split at allowed
    · cases allowed
    · split at allowed
      · cases allowed
      · obtain rfl := Except.ok.inj allowed
        exact same

theorem requireAgentAccessIfAccountsExist_db
    (allowed : requireAgentAccessIfAccountsExist env site token agentId = .ok checked) : checked.db = site.db := by
  unfold requireAgentAccessIfAccountsExist at allowed
  split at allowed
  · obtain ⟨access, granted, rfl⟩ := Raising.map_eq_ok.mp allowed
    exact requireAgentAccess_db granted
  · obtain rfl := Except.ok.inj allowed
    rfl

theorem requireProjectAccess_db {projectId : Option Nat} {found : Nat × Access}
    (allowed : requireProjectAccess env site token projectId = .ok found) : found.2.site.db = site.db := by
  unfold requireProjectAccess at allowed
  split at allowed
  · cases allowed
  · split at allowed
    · cases allowed
    · obtain ⟨access, granted, rfl⟩ := Raising.map_eq_ok.mp allowed
      exact requireAgentAccess_db granted

end Checks

end Allgres
