import Allgres.Dashboard.Site

/-! Accounts, logins and the agents that are assigned to a user. -/

namespace Allgres

open Relational Jsonb Sql

/-- The id of a row that may be missing from the request. -/
def optId : Option Nat → Json := optIdJson

def fnCreateUser (env : WebEnv) (site : Site) (username password : Option String) (role : String) :
    Except String (Json × Site) :=
  let username := btrim (username.getD "")
  if !env.pgcrypto then .error "pgcrypto is required for the accounts system but is not installed"
  else if username = "" then .error "username required"
  else match UserRole.ofText role with
    | none => .error ("invalid role: " ++ role)
    | some role =>
      if (password.getD "").length < 8 then .error "password must be at least 8 characters"
      else if site.users.exists? fun _ user => user.username == username then
        .error "duplicate key value violates unique constraint \"users_username_key\""
      else
        let userId := site.users.next
        let hash := env.crypt (password.getD "") env.genSalt
        let site := { site with users := site.users.insert ⟨username, hash, role, true, env.now⟩ }
        match env.provisionUserRole userId with
        | .error message => .error message
        | .ok pgRole =>
          .ok (.build [("ok", .bool true), ("user_id", idJson userId), ("username", .str username),
              ("role", .str role.text), ("pg_role", .str pgRole)],
            site.audit "users.create" (.build [("user_id", idJson userId), ("username", .str username),
              ("role", .str role.text)]))

def fnLogin (env : WebEnv) (site : Site) (username password : Option String) : Except String (Json × Site) :=
  let username := btrim (username.getD "")
  if !env.pgcrypto then .error "pgcrypto is required for login but is not installed"
  else match site.users.find? fun _ user => user.username == username && user.isActive with
    | none => .error "invalid username or password"
    | some (userId, user) =>
      if env.crypt (password.getD "") user.passwordHash ≠ user.passwordHash then .error "invalid username or password"
      else if site.webSessions.any fun session => session.sessionToken == env.newToken then
        .error "duplicate key value violates unique constraint \"web_sessions_pkey\""
      else
        .ok (.build [("ok", .bool true), ("session_token", .str env.newToken), ("user_id", idJson userId),
            ("username", .str user.username), ("role", .str user.role.text)],
          { site with
            webSessions := site.webSessions ++ [⟨env.newToken, userId, env.now + days 7, env.now⟩] })

def fnLogout (site : Site) (token : Option String) : Json × Site :=
  (.build [("ok", .bool true)], { site with
    webSessions := site.webSessions.filter fun session => some session.sessionToken != token })

/-- A missing flag violates the column's `NOT NULL`, if there is a row to update. -/
def fnSetUserActive (site : Site) (userId : Option Nat) (isActive : Option Bool) : Except String (Json × Site) :=
  if isActive.isNone && (userId.bind site.users.get?).isSome then
    .error "null value in column \"is_active\" of relation \"users\" violates not-null constraint"
  else
    let site := { site with users := site.users.update (fun key _ => some key == userId) fun _ user =>
      { user with isActive := isActive.getD user.isActive } }
    .ok (.build [("ok", .bool true)], site.audit "users.set_active" (.build [("user_id", optId userId),
      ("is_active", .ofOption .bool isActive)]))

/-- `NULL NOT IN (…)` is not true, so only a text that is there can be refused by the check. -/
def fnSetUserRole (site : Site) (userId : Option Nat) (role : Option String) : Except String (Json × Site) :=
  match role, role.bind UserRole.ofText with
  | some text, none => .error ("invalid role: " ++ text)
  | _, role =>
    if role.isNone && (userId.bind site.users.get?).isSome then
      .error "null value in column \"role\" of relation \"users\" violates not-null constraint"
    else
      let site := { site with users := site.users.update (fun key _ => some key == userId) fun _ user =>
        { user with role := role.getD user.role } }
      .ok (.build [("ok", .bool true)], site.audit "users.set_role" (.build [("user_id", optId userId),
        ("role", .optStr (role.map UserRole.text))]))

/-- The foreign keys and the primary key of `user_agent_assignments`. -/
def assignable (site : Site) (userId agentId : Option Nat) : Option (Nat × Nat) :=
  match userId, agentId with
  | some user, some agent =>
    if (site.users.get? user).isSome && (site.db.agents.get? agent).isSome then some (user, agent) else none
  | _, _ => none

def fnSetUserAssignments (site : Site) (userId : Option Nat) (agentIds : List (Option Nat)) :
    Except String (Json × Site) :=
  let kept := site.assignments.filter fun row => some row.1 != userId
  let added := agentIds.map fun agent => assignable site userId agent
  if added.any Option.isNone then
    .error "insert or update on table \"user_agent_assignments\" violates a constraint"
  else if ¬ (added.filterMap id).Nodup then
    .error "duplicate key value violates unique constraint \"user_agent_assignments_pkey\""
  else
    let site := { site with assignments := kept ++ added.filterMap id }
    .ok (.build [("ok", .bool true)], site.audit "users.set_assignments" (.build [("user_id", optId userId),
      ("agent_ids", .arr (agentIds.map optId))]))

/-- A missing flag takes the `ELSE`. -/
def fnSetUserAssignment (site : Site) (userId agentId : Option Nat) (assigned : Option Bool) :
    Except String (Json × Site) :=
  let done (site : Site) : Except String (Json × Site) :=
    .ok (.build [("ok", .bool true)], site.audit "users.set_assignment" (.build [("user_id", optId userId),
      ("agent_id", optId agentId), ("assigned", .ofOption .bool assigned)]))
  if assigned.getD false then
    match assignable site userId agentId with
    | none => .error "insert or update on table \"user_agent_assignments\" violates a constraint"
    | some row =>
      done { site with
        assignments := if site.assignments.contains row then site.assignments else site.assignments ++ [row] }
  else
    done { site with
      assignments := site.assignments.filter fun row => !(some row.1 == userId && some row.2 == agentId) }

end Allgres
