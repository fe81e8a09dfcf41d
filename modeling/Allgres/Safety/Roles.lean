import Allgres.Lib.Runs
import Allgres.Submit.Govern

/-! The PostgreSQL roles of the agents: the name that `fn_provision_agent_role` gives one,
and the agent that `current_agent_id` takes the current role for. -/

namespace Allgres

open Sql Runs

/-- The column `pg_role` of the agents, the names in `pg_roles`, and who is a member of what. -/
structure Roles where
  agents : List (Nat × Option String)
  rolnames : List String
  members : List (String × String)

/-- An agent's role is named by its id without the hyphens. -/
def agentRole (agentId : Nat) : String :=
  "allgres_agent_" ++ String.ofList ((uuidText agentId).toList.filter (· != '-'))

/-- `CREATE ROLE` with its grants; `administers` tells the roles that `allgres_role_admin` may grant. -/
def createAgentRole (administers : String → Bool) (roles : Roles) (role : String) (owner : Option String) :
    Except String Roles :=
  let created := { roles with
    rolnames := roles.rolnames ++ [role]
    members := roles.members ++ [(role, "sandbox"), ("worker", role)] }
  match owner with
  | none => .ok created
  | some owner =>
    if administers owner then .ok { created with members := created.members ++ [(role, owner)] }
    else .error ("permission denied to grant role \"" ++ owner ++ "\"")

def fnProvisionAgentRole (administers : String → Bool) (roles : Roles) (agentId : Nat) (owner : Option String) :
    Except String (String × Roles) :=
  match roles.agents.lookup agentId with
  | none => .error "fn_provision_agent_role: agent not found"
  | some (some role) => .ok (role, roles)
  | some none =>
    let role := agentRole agentId
    match if role ∈ roles.rolnames then .ok roles else createAgentRole administers roles role owner with
    | .error message => .error message
    | .ok roles =>
      if roles.agents.any fun row => row.1 != agentId && row.2 == some role then
        .error "duplicate key value violates unique constraint \"agents_pg_role_key\""
      else .ok (role, { roles with
        agents := roles.agents.map fun row => if row.1 = agentId then (row.1, some role) else row })

/-- `hex ~ '^[0-9a-f]{32}$'`. -/
def isAgentHex (hex : List Char) : Bool := hex.length == 32 && hex.all isLowerHex

/-- The hyphens that `current_agent_id` puts between the five parts. -/
def hyphenated (hex : List Char) : String :=
  String.ofList (hex.take 8 ++ '-' :: (hex.drop 8).take 4 ++ '-' :: (hex.drop 12).take 4 ++
    '-' :: (hex.drop 16).take 4 ++ '-' :: (hex.drop 20).take 12)

/-- `COALESCE` of the agent in the role's name and the setting `allgres.agent_id`. -/
def currentAgentId (currentUser : String) (setting : Option String) : Except String (Option Nat) :=
  let hex := currentUser.toList.drop "allgres_agent_".toList.length
  if isAgentHex hex then castOr "uuid" toUuid (some (hyphenated hex)) else castUuid setting

/-! ### The roles of the agents -/

/-- An agent is created or deleted, roles change in ways of their own, or an agent gets its role. -/
inductive RoleChange
  | created (agentId : Nat)
  | deleted (agentId : Nat)
  | altered (rolnames : List String) (members : List (String × String))
  | provisioned (agentId : Nat) (owner : Option String)

inductive RoleMove (administers : String → Bool) : RoleChange → Roles → Roles → Prop
  | created {roles : Roles} {agentId : Nat} :
      RoleMove administers (.created agentId) roles { roles with agents := roles.agents ++ [(agentId, none)] }
  | deleted {roles : Roles} {agentId : Nat} : RoleMove administers (.deleted agentId) roles
      { roles with agents := roles.agents.filter fun row => row.1 ≠ agentId }
  | altered {roles : Roles} {rolnames : List String} {members : List (String × String)} :
      RoleMove administers (.altered rolnames members) roles { roles with rolnames := rolnames, members := members }
  | provisioned {roles roles' : Roles} {agentId : Nat} {owner : Option String} {role : String} :
      fnProvisionAgentRole administers roles agentId owner = .ok (role, roles') →
      RoleMove administers (.provisioned agentId owner) roles roles'

/-- The changes from an installation on, where no agent has a role. -/
abbrev RoleRun (administers : String → Bool) (start : Roles) : Roles → Prop :=
  Path (RoleMove administers) (fun _ _ => True) start

/-- The roles the agents have are the ones that are named by their ids. -/
def RolesNamed (roles : Roles) : Prop := ∀ agentId role, (agentId, some role) ∈ roles.agents → role = agentRole agentId

variable {administers : String → Bool} {roles roles' : Roles} {agentId : Nat} {role : String} {owner : Option String}

theorem agents_createAgentRole (done : createAgentRole administers roles role owner = .ok roles') :
    roles'.agents = roles.agents := by
  unfold createAgentRole at done
  cases owner with
  | none => rw [← Except.ok.inj done]
  | some owner =>
    dsimp only at done
    split at done
    · rw [← Except.ok.inj done]
    · cases done

theorem mem_of_lookup {rows : List (Nat × Option String)} {found : Option String}
    (read : rows.lookup agentId = some found) : (agentId, found) ∈ rows := by
  induction rows with
  | nil => cases read
  | cons row rows ih =>
    rw [List.lookup_cons] at read
    split at read
    next same =>
      obtain rfl := Option.some.inj read
      rw [beq_iff_eq] at same
      rw [same]
      exact List.mem_cons_self ..
    next => exact List.mem_cons_of_mem _ (ih read)

/-- Every role that is handed out has the agent's name, and so has every role that is kept. -/
theorem provision_named (named : RolesNamed roles)
    (done : fnProvisionAgentRole administers roles agentId owner = .ok (role, roles')) :
    role = agentRole agentId ∧ RolesNamed roles' := by
  unfold fnProvisionAgentRole at done
  split at done
  · cases done
  next found =>
    obtain ⟨rfl, rfl⟩ := Prod.mk.inj (Except.ok.inj done)
    exact ⟨named agentId _ (mem_of_lookup found), named⟩
  · dsimp only at done
    split at done
    · cases done
    next made creates =>
      have same : made.agents = roles.agents := by
        split at creates
        · rw [Except.ok.inj creates]
        · exact agents_createAgentRole creates
      split at done
      · cases done
      · obtain ⟨rfl, rfl⟩ := Prod.mk.inj (Except.ok.inj done)
        refine ⟨rfl, fun other role inside => ?_⟩
        obtain ⟨row, member, changed⟩ := List.mem_map.mp inside
        rw [same] at member
        split at changed
        next own =>
          obtain ⟨key, value⟩ := Prod.mk.inj changed
          rw [← Option.some.inj value, ← key, own]
        next =>
          rw [changed] at member
          exact named other role member

theorem named_of_move {change : RoleChange} (move : RoleMove administers change roles roles') (named : RolesNamed roles) :
    RolesNamed roles' := by
  cases move with
  | created =>
    intro other role inside
    rcases List.mem_append.mp inside with before | new
    · exact named other role before
    · cases List.mem_singleton.mp new
  | deleted => exact fun other role inside => named other role (List.mem_filter.mp inside).1
  | altered => exact named
  | provisioned done => exact (provision_named named done).2

theorem named_of_run {start : Roles} (bare : ∀ row ∈ start.agents, row.2 = none) (run : RoleRun administers start roles) :
    RolesNamed roles := by
  refine run.invariant (fun _ _ _ move _ named => named_of_move move named) fun agentId role inside => ?_
  have none := bare _ inside
  cases none

/-! ### Which agent is asking -/

/-- The form of the roles' names: behind the fixed front there are 32 hexadecimal digits. -/
def NamesAgent (user : String) : Prop :=
  ∃ hex : List Char, hex.length = 32 ∧ (∀ c ∈ hex, isLowerHex c.toLower) ∧
    user.toList = "allgres_agent_".toList ++ hex

theorem hex_agentRole (agentId : Nat) : (agentRole agentId).toList.drop "allgres_agent_".toList.length =
    (uuidText agentId).toList.filter (· != '-') := by
  rw [agentRole, String.toList_append, List.drop_left, String.toList_ofList]

theorem hyphenated_uuidText (agentId : Nat) : hyphenated ((uuidText agentId).toList.filter (· != '-')) = uuidText agentId := by
  obtain ⟨length, -, grouped⟩ := uuidText_digits agentId
  have last : (((uuidText agentId).toList.filter (· != '-')).drop 20).take 12 =
      ((uuidText agentId).toList.filter (· != '-')).drop 20 := by
    refine List.take_of_length_le ?_
    rw [List.length_drop, length]
  rw [hyphenated, last]
  exact grouped.symm

theorem isAgentHex_of {hex : List Char} (length : hex.length = 32) (digits : ∀ c ∈ hex, isLowerHex c = true) :
    isAgentHex hex = true := by
  rw [isAgentHex, length, List.all_eq_true.mpr digits]
  rfl

theorem currentAgentId_agentRole (fits : agentId < 2 ^ 128) (setting : Option String) :
    currentAgentId (agentRole agentId) setting = .ok (some agentId) := by
  obtain ⟨length, digits, -⟩ := uuidText_digits agentId
  have matched := isAgentHex_of length digits
  rw [currentAgentId, hex_agentRole]
  simp only [matched, if_true, hyphenated_uuidText, castOr, toUuid_uuidText fits]

theorem currentAgentId_setting_iff (user : String) : (∀ setting, currentAgentId user setting = castUuid setting) ↔
    isAgentHex (user.toList.drop "allgres_agent_".toList.length) = false := by
  constructor
  · intro asks
    by_contra matched
    rw [Bool.not_eq_false] at matched
    have unset := asks none
    rw [currentAgentId, if_pos matched, castOr] at unset
    split at unset
    · cases unset
    · cases unset
  · intro missed setting
    rw [currentAgentId, missed]
    rfl

/-- An agent's role leads back to the agent, and another role to the setting unless 32
digits stand behind its first fourteen characters, whatever these are. -/
theorem current_agent_of_role (administers : String → Bool) (start : Roles)
    (bare : ∀ row ∈ start.agents, row.2 = none) :
    (∀ roles, RoleRun administers start roles → ∀ agentId < 2 ^ 128, ∀ owner role roles',
      fnProvisionAgentRole administers roles agentId owner = .ok (role, roles') →
        ∀ setting, currentAgentId role setting = .ok (some agentId)) ∧
    ∀ user, ¬ NamesAgent user → ((∀ setting, currentAgentId user setting = castUuid setting) ↔
      isAgentHex (user.toList.drop "allgres_agent_".toList.length) = false) := by
  refine ⟨fun roles run agentId fits owner role roles' done setting => ?_, fun user _ => currentAgentId_setting_iff user⟩
  obtain ⟨rfl, -⟩ := provision_named (named_of_run bare run) done
  exact currentAgentId_agentRole fits setting

/-- An installation with one agent. -/
def oneAgent : Roles := ⟨[(11, none)], ["sandbox", "worker"], []⟩

theorem current_agent_of_role_one :
    (∀ roles, RoleRun (fun _ => false) oneAgent roles → ∀ agentId < 2 ^ 128, ∀ owner role roles',
      fnProvisionAgentRole (fun _ => false) roles agentId owner = .ok (role, roles') →
        ∀ setting, currentAgentId role setting = .ok (some agentId)) ∧
    ∀ user, ¬ NamesAgent user → ((∀ setting, currentAgentId user setting = castUuid setting) ↔
      isAgentHex (user.toList.drop "allgres_agent_".toList.length) = false) :=
  current_agent_of_role (fun _ => false) oneAgent (by decide)

/-- Any fourteen characters may stand in front of the digits. -/
theorem not_currentAgentId_setting : ¬ ∀ user, ¬ NamesAgent user → ∀ setting, currentAgentId user setting = castUuid setting := by
  intro falls
  have other : ¬ NamesAgent "report_reader_0000000000000000000000000000000b" := by
    rintro ⟨hex, -, -, shape⟩
    have first := congrArg List.head? shape
    rw [List.head?_append_of_ne_nil _ (by decide)] at first
    exact absurd first (by decide +kernel)
  have unset := falls _ other none
  exact absurd unset (by decide +kernel)

end Allgres
