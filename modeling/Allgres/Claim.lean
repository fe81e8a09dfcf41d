import Allgres.Dispatch

namespace Allgres

open Relational Jsonb Sql

/-- `GREATEST(1, LEAST(COALESCE(p_limit, 4), 16))`. -/
def claimLimit (limit : Option Int) : Nat :=
  (max 1 (min (limit.getD 4) 16)).toNat

def Db.isRunning (db : Db) (t : Nat) : Bool :=
  (db.tasks.get? t).any fun task => task.status == .running

/-- The queued calls of running tasks that meet a further condition, oldest first. -/
def claimable {β : Type} (db : Db) (calls : Table (CallRow β)) (ready : β → Bool) (limit : Option Int) :
    List (Nat × CallRow β) :=
  ((calls.select fun _ call => call.status == .queued && db.isRunning call.taskId && ready call.body).insertionSort
    fun a b => a.2.createdAt ≤ b.2.createdAt).take (claimLimit limit)

def takeFlight {β : Type} (env : Env) (call : CallRow β) : CallRow β :=
  { call with status := .inFlight, updatedAt := env.now }

def markInFlight {β : Type} (env : Env) (calls : Table (CallRow β)) (claimed : List (Nat × CallRow β)) :
    Table (CallRow β) :=
  claimed.foldl (fun calls call => calls.modify call.1 (takeFlight env)) calls

/-! ### `fn_claim_outbound` -/

/-- An expired OAuth token is not sent. -/
def tokenUsable (env : Env) (db : Db) (providerId : Option Nat) : Bool :=
  match providerId.bind fun id => (db.providers.get? id).map fun provider => (id, provider.kind) with
  | some (id, ProviderKind.oauth) => db.secrets.exists? fun _ secret =>
      secret.providerId == id && secret.accessToken.isSome &&
        secret.expiresAt.all fun time => decide (env.now + seconds 30 < time)
  | _ => true

def providerSecret (env : Env) (db : Db) (providerId : Nat) : Option String :=
  (db.secrets.find? fun _ secret => secret.providerId == providerId).bind fun secret =>
    (secret.2.apiKey.or secret.2.accessToken).bind env.decryptSecret

def connectionSecret (env : Env) (db : Db) (connectionId : Nat) : Option String :=
  (db.connectionSecrets.lookup connectionId).bind fun secret => secret.bind env.decryptSecret

/-- The key for a provider, with the fallback that `xai` and `grok` may use in place of an empty one. -/
def providerKey (env : Env) (db : Db) (providerId : Nat) (fallback : Option String) : String :=
  let stored := providerSecret env db providerId
  let name := (db.providers.get? providerId).map ProviderRow.name
  let key := if (nonEmpty stored).isNone ∧ (name = some "xai" ∨ name = some "grok") then nonEmpty fallback else stored
  (key.or (nonEmpty fallback)).getD ""

def credentialHeader (kind : AuthKind) (key : String) : Json :=
  match kind with
  | .xApiKey => .build [("x-api-key", .str key)]
  | .authorization => .build [("authorization", .str ("Bearer " ++ key))]
  | .none => .build [("none", .str ("Bearer " ++ key))]

/-- The stored headers with the credential of the provider or of the connection. -/
def claimHeaders (env : Env) (db : Db) (body : OutboundBody) (fallback : Option String) : Json :=
  match body.authKind, body.providerId, body.connectionId with
  | some kind, some provider, _ =>
    body.requestHeaders.concat (credentialHeader kind (providerKey env db provider fallback))
  | some kind, none, some connection =>
    body.requestHeaders.concat (credentialHeader kind ((connectionSecret env db connection).getD ""))
  | _, _, _ => body.requestHeaders

structure ClaimedHttp where
  callId : Nat
  call : CallRow OutboundBody
  headers : Json

def fnClaimOutbound (env : Env) (db : Db) (limit : Option Int) (fallback : Option String) : List ClaimedHttp × Db :=
  let claimed := claimable db db.outboundCalls (fun body => tokenUsable env db body.providerId) limit
  (claimed.map fun call => ⟨call.1, call.2, claimHeaders env db call.2.body fallback⟩,
    { db with outboundCalls := markInFlight env db.outboundCalls claimed })

/-! ### The other task queues -/

def fnClaimSql (env : Env) (db : Db) (limit : Option Int) : List (Nat × CallRow SqlBody) × Db :=
  let claimed := claimable db db.sqlCalls (fun body => (db.agents.get? body.agentId).isSome) limit
  (claimed, { db with sqlCalls := markInFlight env db.sqlCalls claimed })

def fnClaimFunctionCalls (env : Env) (db : Db) (limit : Option Int) : List (Nat × CallRow BodyCall) × Db :=
  let claimed := claimable db db.functionCalls (fun body =>
    (db.functions.get? body.targetId).any (fun function => function.buildStatus == .built) &&
      (db.agents.get? body.agentId).isSome) limit
  (claimed, { db with functionCalls := markInFlight env db.functionCalls claimed })

def fnClaimProcedureCalls (env : Env) (db : Db) (limit : Option Int) : List (Nat × CallRow BodyCall) × Db :=
  let claimed := claimable db db.procedureCalls (fun body =>
    (db.procedures.get? body.targetId).any (fun procedure => procedure.buildStatus == .built) &&
      (db.agents.get? body.agentId).isSome) limit
  (claimed, { db with procedureCalls := markInFlight env db.procedureCalls claimed })

end Allgres
