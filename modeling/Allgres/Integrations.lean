import Allgres.Claim

/-! The worker queues that belong to no task: OAuth exchanges, embeddings and
provider probes. A credential is added to what a claim returns and written to
no table. -/

namespace Allgres

open Relational Jsonb Sql

/-! ### `queue_oauth_maintenance` -/

def expireDevices (env : Env) (db : Db) : Db :=
  { db with
    oauthDeviceSessions := db.oauthDeviceSessions.update
      (fun _ device => device.status == .awaitingUser && device.expiresAt.any fun time => decide (time ≤ env.now))
      (fun _ device =>
        { device with status := .expired, error := some "device authorization expired", updatedAt := env.now }) }

def DeviceSessionRow.pollDue (env : Env) (device : DeviceSessionRow) : Bool :=
  device.status == .awaitingUser && (device.expiresAt.any fun time => decide (env.now < time)) &&
    decide (device.nextPollAt.getD env.now ≤ env.now)

def postponePolls (env : Env) (db : Db) : Db :=
  { db with
    oauthDeviceSessions := db.oauthDeviceSessions.update (fun _ device => device.pollDue env)
      (fun _ device =>
        { device with nextPollAt := some (env.now + seconds device.intervalSeconds), updatedAt := env.now }) }

/-- A new row of `oauth_calls`; its URL may not be null. -/
def oauthCall (env : Env) (providerId : Nat) (provider : ProviderRow) (operation : OauthOperation)
    (deviceSessionId : Option Nat) (grant : String) : Except String OauthCallRow :=
  match provider.oauthTokenUrl with
  | none => .error "null value in column \"url\" of relation \"oauth_calls\" violates not-null constraint"
  | some url =>
    .ok {
      providerId := providerId
      agentId := none
      memoryId := none
      status := .queued
      url := url
      requestHeaders := .build [("accept", .str "application/json")]
      requestBody := .build [("grant_type", .str grant), ("client_id", .optStr provider.oauthClientId)]
      allowPrivate := provider.allowPrivateNetwork
      createdAt := env.now
      updatedAt := env.now
      error := none
      operation := operation
      deviceSessionId := deviceSessionId }

def insertOauth : List (Except String OauthCallRow) → Db → Except String Db
  | [], db => .ok db
  | .error message :: _, _ => .error message
  | .ok call :: rest, db => insertOauth rest { db with oauthCalls := db.oauthCalls.insert call }

/-- The device sessions that are due and have no poll under way. -/
def duePolls (env : Env) (db : Db) : List (Except String OauthCallRow) :=
  let due := db.oauthDeviceSessions.select fun session device => device.pollDue env &&
    !db.oauthCalls.exists? fun _ call =>
      call.deviceSessionId == some session && call.operation == .devicePoll && call.status.outstanding
  due.filterMap fun device => (db.providers.get? device.2.providerId).map fun provider =>
    oauthCall env device.2.providerId provider .devicePoll (some device.1)
      "urn:ietf:params:oauth:grant-type:device_code"

/-- The provider has a refresh token, and its access token is about to expire. -/
def LlmSecretRow.refreshDue (env : Env) (secret : LlmSecretRow) : Bool :=
  secret.refreshToken.isSome && secret.expiresAt.any fun time => decide (time ≤ env.now + seconds 120)

def dueRefreshes (env : Env) (db : Db) : List (Except String OauthCallRow) :=
  let due := db.providers.select fun providerId provider => provider.kind == .oauth && provider.isEnabled &&
    (db.secrets.exists? fun _ secret => secret.providerId == providerId && secret.refreshDue env) &&
    !db.oauthCalls.exists? fun _ call => call.providerId == providerId && call.operation == .refresh &&
      (call.status.outstanding || decide (env.now - seconds 30 < call.createdAt))
  due.map fun provider => oauthCall env provider.1 provider.2 .refresh none "refresh_token"

def queueOauthMaintenance (env : Env) (db : Db) : Except String Db :=
  let db := expireDevices env db
  match insertOauth (duePolls env db) db with
  | .error message => .error message
  | .ok db =>
    let db := postponePolls env db
    insertOauth (dueRefreshes env db) db

/-! ### Claims -/

structure ClaimedService where
  callId : Nat
  call : ServiceCall
  headers : Json
  body : Json

/-- The queued calls that meet a further condition, oldest first. -/
def claimableService {β : Type} (calls : Table β) (call : β → ServiceCall) (ready : ServiceCall → Bool)
    (limit : Option Int) : List (Nat × β) :=
  ((calls.select fun _ row => (call row).status == .queued && ready (call row)).insertionSort
    fun a b => (call a.2).createdAt ≤ (call b.2).createdAt).take (claimLimit limit)

def ServiceCall.takeFlight (env : Env) (call : ServiceCall) : ServiceCall :=
  { call with status := .inFlight, updatedAt := env.now }

def markService (env : Env) (calls : Table ServiceCall) (claimed : List (Nat × ServiceCall)) : Table ServiceCall :=
  claimed.foldl (fun calls call => calls.modify call.1 (ServiceCall.takeFlight env)) calls

def oauthClientSecret (env : Env) (db : Db) (providerId : Nat) : Option String :=
  (db.secrets.find? fun _ secret => secret.providerId == providerId).bind fun secret =>
    secret.2.oauthClientSecret.bind env.decryptSecret

def refreshToken (env : Env) (db : Db) (providerId : Nat) : Option String :=
  (db.secrets.find? fun _ secret => secret.providerId == providerId).bind fun secret =>
    secret.2.refreshToken.bind env.decryptSecret

def deviceCode (env : Env) (db : Db) (session : Option Nat) : Option String :=
  (session.bind fun id => db.oauthDeviceSessions.get? id).bind fun device => device.deviceCode.bind env.decryptSecret

/-- The stored body with the client secret and what the operation needs besides. -/
def oauthBody (env : Env) (db : Db) (call : OauthCallRow) : Json :=
  let body := match nonEmpty (oauthClientSecret env db call.providerId) with
    | none => call.requestBody
    | some secret => call.requestBody.concat (.build [("client_secret", .str secret)])
  match call.operation with
  | .devicePoll => body.concat (.build [("device_code", .str ((deviceCode env db call.deviceSessionId).getD ""))])
  | .refresh => body.concat (.build [("refresh_token", .str ((refreshToken env db call.providerId).getD ""))])
  | _ => body

def fnClaimOauth (env : Env) (db : Db) (limit : Option Int) : Except String (List ClaimedService × Db) :=
  match queueOauthMaintenance env db with
  | .error message => .error message
  | .ok db =>
    let claimed := claimableService db.oauthCalls OauthCallRow.toServiceCall (fun _ => true) limit
    .ok (claimed.map fun call =>
        ⟨call.1, call.2.toServiceCall, call.2.requestHeaders, oauthBody env db call.2⟩,
      { db with
        oauthCalls := claimed.foldl (fun calls call =>
          calls.modify call.1 fun row => { row with toServiceCall := row.toServiceCall.takeFlight env }) db.oauthCalls })

def fnClaimAgentEmbedding (env : Env) (db : Db) (limit : Option Int) : List ClaimedService × Db :=
  let claimed := claimableService db.embeddingCalls id (fun _ => true) limit
  (claimed.map fun call => ⟨call.1, call.2, call.2.requestHeaders.concat
      (credentialHeader .authorization ((providerSecret env db call.2.providerId).getD "")), call.2.requestBody⟩,
    { db with embeddingCalls := markService env db.embeddingCalls claimed })

def fnClaimProviderProbe (env : Env) (db : Db) (limit : Option Int) : List ClaimedService × Db :=
  let claimed := claimableService db.providerProbes id (fun call => (db.providers.get? call.providerId).isSome) limit
  let authKind (call : ServiceCall) : AuthKind :=
    if (db.providers.get? call.providerId).any fun provider => provider.kind == .anthropic then .xApiKey
    else .authorization
  (claimed.map fun call => ⟨call.1, call.2, call.2.requestHeaders.concat
      (credentialHeader (authKind call.2) ((providerSecret env db call.2.providerId).getD "")), call.2.requestBody⟩,
    { db with providerProbes := markService env db.providerProbes claimed })

end Allgres
