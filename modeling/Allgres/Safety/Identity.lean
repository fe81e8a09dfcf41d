import Allgres.Safety.Guests

/-! What an agent is, its prompt and its grants, under the requests of the dashboard. -/

namespace Allgres

open Relational Jsonb Sql Raising

def Db.promptOf (db : Db) (agentId : Nat) : Option String := (db.policyOf agentId).map PolicyRow.systemPrompt

def Db.grants (db : Db) (agentId : Nat) (type : ResourceType) (ref : String) : Bool :=
  db.permissions.exists? fun _ grant =>
    grant.agentId == agentId && grant.resourceType == type && grant.resourceRef == ref

/-- The agent has the prompt and the grants that it had. -/
structure SameIdentity (agentId : Nat) (db db' : Db) : Prop where
  prompt : db'.promptOf agentId = db.promptOf agentId
  grants : ∀ type ref, db'.grants agentId type ref = db.grants agentId type ref

namespace SameIdentity

variable {agentId : Nat} {db db' db'' : Db}

theorem refl (agentId : Nat) (db : Db) : SameIdentity agentId db db := ⟨rfl, fun _ _ => rfl⟩

theorem trans (first : SameIdentity agentId db db') (second : SameIdentity agentId db' db'') :
    SameIdentity agentId db db'' :=
  ⟨second.prompt.trans first.prompt, fun type ref => (second.grants type ref).trans (first.grants type ref)⟩

/-- Every other table may have changed. -/
theorem of_tables (policies : db'.policies = db.policies) (permissions : db'.permissions = db.permissions) :
    SameIdentity agentId db db' where
  prompt := by simp only [Db.promptOf, Db.policyOf, policies]
  grants type ref := by simp only [Db.grants, permissions]

end SameIdentity

section Untouched

variable {agentId : Nat} {db : Db}

theorem audit_keeps (action : String) (details : Json) : SameIdentity agentId db (db.audit action details) :=
  .of_tables rfl rfl

theorem newPolicy_agentId (target : Nat) (prompt : Option String) : (newPolicy target prompt).agentId = target := by
  unfold newPolicy
  split <;> rfl

end Untouched

end Allgres
