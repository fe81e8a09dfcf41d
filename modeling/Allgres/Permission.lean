import Allgres.Env
import Mathlib.Data.List.Sort

namespace Allgres

/-- The agent and its parents, nearest first. -/
def agentChain (db : Db) : Nat → Nat → List Nat
  | 0, _ => []
  | fuel + 1, agentId =>
    match db.agents.get? agentId with
    | none => []
    | some agent =>
      agentId :: match agent.parentAgentId with
        | none => []
        | some parent => agentChain db fuel parent

def Db.chain (db : Db) (agentId : Nat) : List Nat :=
  agentChain db db.agents.rows.length agentId

def agentHasPermission (env : Env) (db : Db) (agentId : Nat) (resourceType : ResourceType)
    (resourceRef : Option String) : Bool :=
  match resourceRef with
  | none => false
  | some ref => db.permissions.exists? fun _ grant =>
      (db.chain agentId).contains grant.agentId && grant.resourceType == resourceType &&
        env.pg.lower grant.resourceRef == env.pg.lower ref

/-- The distinct references of one type, in text order. -/
def agentPermissionRefs (db : Db) (agentId : Nat) (resourceType : ResourceType) : List String :=
  let granted := db.permissions.select fun _ grant =>
    (db.chain agentId).contains grant.agentId && grant.resourceType == resourceType
  ((granted.map fun grant => grant.2.resourceRef).dedup).insertionSort (· ≤ ·)

def Db.policyOf (db : Db) (agentId : Nat) : Option PolicyRow :=
  (db.policies.find? fun _ policy => policy.agentId == agentId).map Prod.snd

/-- The prompts along the chain, the root's first. -/
def agentEffectivePrompt (db : Db) (agentId : Nat) : Option String :=
  match (db.chain agentId).reverse.filterMap fun id => (db.policyOf id).map PolicyRow.systemPrompt with
  | [] => none
  | prompts => some ("\n\n---\n\n".intercalate prompts)

end Allgres
