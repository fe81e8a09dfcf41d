import Allgres.Safety.Supervision

/-! Who configures the system. Once there are accounts, the configuration, the accounts and what is assigned to
them change by the requests of administrators and by no others; so nobody becomes an administrator on his own. -/

namespace Allgres

open Relational Jsonb Sql Raising

/-- A user who is no administrator decides on agents, and on nothing around them. -/
def Powers.users : Powers := ⟨fun _ => True, False⟩

/-- The users, and what they are assigned to. -/
structure Accounts where
  users : Table UserRow
  assignments : List (Nat × Nat)
  projectInfo : Nat → ProjectInfo
  oauthStates : List (String × Nat)
  oauthColumns : Nat → OauthColumns

def Site.accounts (site : Site) : Accounts where
  users := site.users
  assignments := site.assignments
  projectInfo := site.projectInfo
  oauthStates := site.oauthStates
  oauthColumns := site.oauthColumns

variable {F : Float8} {env : WebEnv} {site checked : Site} {token : Option String} {request : Json} {access : Access}

/-! ### The checks -/

/-- Whoever it is that asks, he is no administrator. -/
def Unprivileged (env : WebEnv) (site : Site) (token : Option String) : Prop :=
  ∀ userId user, (sessionUser env site token).1 = some (userId, user) → user.role ≠ .admin

/-- The user of the first live session with the token. -/
def tokenUser (env : WebEnv) (site : Site) (token : String) : Option (Nat × UserRow) :=
  (site.webSessions.find? fun session => session.sessionToken == token && decide (env.now < session.expiresAt) &&
    (site.users.get? session.userId).any UserRow.isActive).bind fun session =>
      (site.users.get? session.userId).map fun user => (session.userId, user)

theorem sessionUser_eq (env : WebEnv) (site : Site) (token : Option String) :
    (sessionUser env site token).1 = (nonEmpty token).bind (tokenUser env site) := by
  unfold sessionUser
  cases nonEmpty token with
  | none => rfl
  | some key =>
    dsimp only [Option.bind_some, tokenUser]
    split
    · rename_i nobody
      exact nobody.symm
    · rename_i user found
      exact found.symm

/-- Marking a session as seen does not change whose it is. -/
theorem tokenUser_marked (env : WebEnv) (site : Site) (token : String) (seen : String) :
    tokenUser env { site with webSessions := site.webSessions.map fun session =>
      if session.sessionToken == seen then { session with lastSeenAt := env.now } else session } token =
      tokenUser env site token := by
  have marks (session : WebSessionRow) :
      (if session.sessionToken == seen then { session with lastSeenAt := env.now } else session) =
        { session with lastSeenAt := if session.sessionToken == seen then env.now else session.lastSeenAt } := by
    split <;> rfl
  simp only [tokenUser, marks, List.find?_map, Function.comp_def, Option.bind_map]

theorem sessionUser_seen (env : WebEnv) (site : Site) (token : Option String) :
    (sessionUser env (sessionUser env site token).2 token).1 = (sessionUser env site token).1 := by
  rw [sessionUser_eq, sessionUser_eq]
  cases named : nonEmpty token with
  | none => rfl
  | some key =>
    rw [Option.bind_some, Option.bind_some]
    unfold sessionUser
    rw [named]
    dsimp only
    split
    · rfl
    · exact tokenUser_marked env site key key

theorem Unprivileged.seen (unprivileged : Unprivileged env site token) :
    Unprivileged env (sessionUser env site token).2 token := by
  intro userId user found
  rw [sessionUser_seen] at found
  exact unprivileged userId user found

theorem Unprivileged.requireAdmin (unprivileged : Unprivileged env site token) :
    ∃ message, requireAdmin env site token = .error message := by
  unfold Allgres.requireAdmin
  split
  · exact ⟨_, rfl⟩
  · rename_i userId user marked asked
    have role : user.role ≠ .admin := unprivileged userId user (by rw [asked])
    rw [if_neg role]
    exact ⟨_, rfl⟩

theorem Unprivileged.requireAdminIfAccountsExist (unprivileged : Unprivileged env site token)
    (accounts : site.hasAccounts = true) : ∃ message, requireAdminIfAccountsExist env site token = .error message := by
  unfold Allgres.requireAdminIfAccountsExist
  rw [if_pos accounts]
  exact unprivileged.requireAdmin

/-- The transaction is no administrator's, nor the self test. -/
def Event.Unprivileged (world : World F) : Event → Prop
  | .request web asked => Allgres.Unprivileged web world.site (asked.getText? "session_token") ∧
      requestedAction asked ≠ some .selftest
  | _ => True

theorem Edits.maintained {env : Env} {powers : Powers} {db db' : Db} (edits : Edits env powers db db')
    (limited : ¬ powers.configures) : Maintained db db' := by
  induction edits with
  | refl => exact .refl db
  | tail _ edit ih => exact ih.trans (edit.maintained limited)

end Allgres
