import Allgres.Build
import Allgres.Dashboard.Rpc
import Allgres.Integrations
import Allgres.Machine
import Allgres.Services

/-! The system as a whole: the functions of the control plane, those of the services and the requests of the
dashboard, one transaction after another. -/

namespace Allgres

open Relational Jsonb Sql

/-- The functions of the workers that move no task. -/
inductive ServiceOp
  | claimFunctionBuilds (limit : Option Int)
  | completeFunctionBuild (functionId : Nat) (outcome : BuildOutcome)
  | claimProcedureBuilds (limit : Option Int)
  | completeProcedureBuild (procedureId : Nat) (outcome : BuildOutcome)
  | claimOauth (limit : Option Int)
  | completeOauth (callId : Nat) (status : Option Int) (body : Option String)
  | claimAgentEmbedding (limit : Option Int)
  | completeAgentEmbedding (callId : Nat) (status : Option Int) (body : Option String)
  | claimProviderProbe (limit : Option Int)
  | completeProviderProbe (callId : Nat) (status : Option Int) (body : Option String)

section

variable {F : Float8}

def ServiceOp.run (env : WebEnv) (world : World F) : ServiceOp → Except String (World F)
  | claimFunctionBuilds limit => .ok (world.withDb (fnClaimFunctionBuilds env.toEnv world.site.db limit).2)
  | completeFunctionBuild functionId outcome =>
    .ok (world.withDb (fnCompleteFunctionBuild env.toEnv world.site.db functionId outcome))
  | claimProcedureBuilds limit => .ok (world.withDb (fnClaimProcedureBuilds env.toEnv world.site.db limit).2)
  | completeProcedureBuild procedureId outcome =>
    .ok (world.withDb (fnCompleteProcedureBuild env.toEnv world.site.db procedureId outcome))
  | claimOauth limit => (fnClaimOauth env.toEnv world.site.db limit).map fun claimed => world.withDb claimed.2
  | completeOauth callId status body =>
    (fnCompleteOauth env world.site.db callId status body).map fun done => world.withDb done.2
  | claimAgentEmbedding limit => .ok (world.withDb (fnClaimAgentEmbedding env.toEnv world.site.db limit).2)
  | completeAgentEmbedding callId status body =>
    (fnCompleteAgentEmbedding env world callId status body).map Prod.snd
  | claimProviderProbe limit => .ok (world.withDb (fnClaimProviderProbe env.toEnv world.site.db limit).2)
  | completeProviderProbe callId status body => (fnCompleteProviderProbe env world callId status body).map Prod.snd

/-- One transaction. -/
inductive Event
  | call (env : Env) (op : Op)
  | service (env : WebEnv) (op : ServiceOp)
  | request (env : WebEnv) (request : Json)

/-- The time and the surroundings of a transaction. -/
def Event.env : Event → Env
  | call env _ => env
  | service env _ => env.toEnv
  | request env _ => env.toEnv

/-- The transaction is no request of the dashboard. -/
def Event.Autonomic : Event → Prop
  | request _ _ => False
  | _ => True

/-- The request runs statements that are not of the control plane. -/
def IsForeign (request : Json) : Prop :=
  requestedAction request = some (.config .sqlExecute) ∨ requestedAction request = some .selftest

/-- The transaction runs no statements of its own. -/
def Event.Own : Event → Prop
  | request _ asked => ¬ IsForeign asked
  | _ => True

def Event.run (world : World F) : Event → Except String (World F)
  | call env op => (op.run env world.site.db).map world.withDb
  | service env op => op.run env world
  | request env asked => .ok { world with site := (dashboardRpc env world.site asked).2 }

/-- The embedding of a memory that is deleted is deleted with it. -/
def World.cascade (world : World F) : World F :=
  world.withDb { world.site.db with
    embeddingCalls := world.site.db.embeddingCalls.delete fun _ call =>
      call.memoryId.any fun memoryId => (world.site.db.memories.get? memoryId).isNone }

/-- The tables after a transaction; one that raises leaves them as they were. -/
def Event.next (world : World F) (event : Event) : World F :=
  match event.run world with
  | .error _ => world
  | .ok later => later.cascade

/-- The tables after a sequence of transactions. -/
def World.after (world : World F) (events : List Event) : World F := events.foldl Event.next world

end

/-! ### A small installation -/

/-- No number at all: what an installation without `vector` needs. -/
def Float8.none : Float8 where
  Value := Empty
  input _ := .none
  mul value _ := .ok value
  add value _ := .ok value
  div value _ := .ok value
  sqrt value := .ok value
  isZero _ := true
  atMost _ _ := true
  toJson _ := .null

/-- The rows of an installation that has embedded and probed nothing. -/
def World.ofDb (db : Db) : World Float8.none where
  site := { Site.empty with db := db }
  vectors := ⟨fun _ => none, fun _ => none⟩
  probed _ := ⟨none, none, none, none⟩

/-- The helper has to ask before it changes anything. -/
def supervisedDb : Db :=
  { helperDb (helperPolicy 5 none) with
    agents := Table.empty.insert ⟨"helper", true, false, none, .adminApproval, .emptyObj⟩ }

/-- A goal, and what the model answers to it. -/
def replying (body : String) : List Event :=
  [.call .bare (.createSession 0 (some "sum up") none none), .call .bare .dispatchTasks,
    .call .bare (.claimOutbound none none), .call .bare (.completeOutbound 0 (some 200) (some body))]

theorem replying_autonomic (body : String) : ∀ event ∈ replying body, event.Autonomic := by
  simp [replying, Event.Autonomic]

theorem replying_own (body : String) : ∀ event ∈ replying body, event.Own := by
  simp [replying, Event.Own]

/-- The reply `{"action":"propose_change","changes":{"system_prompt":…},"reason":"tone"}`. -/
def proposesPrompt (prompt : String) : String :=
  "\x7b\"action\":\"propose_change\",\"changes\":\x7b\"system_prompt\":\"" ++ prompt ++
    "\"\x7d,\"reason\":\"tone\"\x7d"

/-- The reply `{"action":"remember","content":…}`. -/
def remembers (content : String) : String :=
  "\x7b\"action\":\"remember\",\"content\":\"" ++ content ++ "\"\x7d"

end Allgres
