import Allgres.Oauth
import Allgres.Ranking

/-! `fn_complete_agent_embedding` and `fn_complete_provider_probe`. Both take the answer of a call that is
in flight and of no other. -/

namespace Allgres

open Relational Jsonb Sql

/-- The columns `embedding` and `embedding_model` of the agents and of the memories. -/
structure Vectors (F : Float8) where
  ofAgent : Nat → Option (Embedding F)
  ofMemory : Nat → Option (Embedding F)

/-- The columns of a provider that only its probes write. -/
structure ProbeColumns where
  lastProbeStatus : Option String
  lastProbeAt : Option Time
  lastProbeError : Option String
  availableModels : Option Json

/-- The rows of the schema. -/
structure World (F : Float8) where
  site : Site
  vectors : Vectors F
  probed : Nat → ProbeColumns

def World.withDb {F : Float8} (world : World F) (db : Db) : World F := { world with site := world.site.withDb db }

/-- The call is over; without a new error it keeps the one it has. -/
def ServiceCall.harvest (env : Env) (error : Option String) (call : ServiceCall) : ServiceCall :=
  { call with status := .harvested, error := error.or call.error, updatedAt := env.now }

/-- The call is not in flight, so its answer comes too late. -/
def lateJson (status : CallStatus) : Json :=
  .build [("action", .str "stale"), ("reason", .str "call_not_in_flight"), ("status", .str status.text)]

def failedJson (status : Option Int) : Json :=
  .build [("action", .str "error"), ("status", .ofOption (fun code => .num code 0) status)]

section

variable {F : Float8} (env : WebEnv) (world : World F) (callId : Nat) (status : Option Int) (body : Option String)

/-! ### Embeddings -/

/-- `array_agg(x::double precision)` over `data[0].embedding`. A text that is no number undoes all of it. -/
def answeredVector : Option F.Vector :=
  match (body.bind parse).bind fun value => value.at? [.key "data", .index 0, .key "embedding"] with
  | some (.arr items) =>
    if items.isEmpty then none
    else if items.all fun item => item.asText.all fun text => (F.input text).isSome then
      some (items.map fun item => item.asText.bind F.input)
    else none
  | _ => none

def World.harvestEmbedding (error : Option String) : World F :=
  world.withDb { world.site.db with
    embeddingCalls := world.site.db.embeddingCalls.modify callId (ServiceCall.harvest env.toEnv error) }

/-- `<provider name>:<model>`; the model of the call is that of its request. -/
def embeddingModel (db : Db) (call : ServiceCall) : Option String :=
  (db.providers.get? call.providerId).bind fun provider =>
    (call.requestBody.getText? "model").map fun model => provider.name ++ ":" ++ model

/-- A row that is gone is not written. -/
def Vectors.store (vectors : Vectors F) (db : Db) (call : ServiceCall) (embedding : Embedding F) : Vectors F :=
  match call.agentId, call.memoryId with
  | some agentId, _ =>
    if (db.agents.get? agentId).isSome then
      { vectors with ofAgent := Function.update vectors.ofAgent agentId (some embedding) }
    else vectors
  | none, some memoryId =>
    if (db.memories.get? memoryId).isSome then
      { vectors with ofMemory := Function.update vectors.ofMemory memoryId (some embedding) }
    else vectors
  | none, none => vectors

def storedJson (call : ServiceCall) (vector : F.Vector) : Json :=
  let target := match call.agentId with
    | some agentId => ("agent_id", idJson agentId)
    | none => ("memory_id", .ofOption idJson call.memoryId)
  .build [("action", .str "stored"), target, ("dims", .ofNat vector.length)]

def fnCompleteAgentEmbedding : Except String (Json × World F) :=
  match world.site.db.embeddingCalls.get? callId with
  | none => .error "fn_complete_agent_embedding: not found"
  | some call =>
    if call.status != .inFlight then .ok (lateJson call.status, world)
    else if !usable status then
      .ok (failedJson status, world.harvestEmbedding env callId (some (left (body.getD "") 2000)))
    else match answeredVector body with
      | none => .ok (.build [("action", .str "error"), ("reason", .str "no_embedding_in_response")],
          world.harvestEmbedding env callId (some "embedding response had no usable data[0].embedding"))
      | some vector =>
        let stored := { world with
          vectors := world.vectors.store world.site.db call ⟨vector, embeddingModel world.site.db call⟩ }
        .ok (storedJson call vector, stored.harvestEmbedding env callId none)

/-! ### Probes -/

/-- `jsonb_agg(x ->> 'id' ORDER BY x ->> 'id')` over `data`. -/
def answeredModels : Option (List String) :=
  match (body.bind parse).bind fun value => value.get? "data" with
  | some (.arr items) =>
    let ids := items.filterMap fun item => item.getText? "id"
    if ids.isEmpty then none else some (ids.insertionSort fun a b => env.textBefore a b)
  | _ => none

def World.harvestProbe (error : Option String) : World F :=
  world.withDb { world.site.db with
    providerProbes := world.site.db.providerProbes.modify callId (ServiceCall.harvest env.toEnv error) }

def World.probe (providerId : Nat) (set : ProbeColumns → ProbeColumns) : World F :=
  { world with probed := Function.update world.probed providerId (set (world.probed providerId)) }

def fnCompleteProviderProbe : Except String (Json × World F) :=
  match world.site.db.providerProbes.get? callId with
  | none => .error "fn_complete_provider_probe: not found"
  | some call =>
    if call.status != .inFlight then .ok (lateJson call.status, world)
    else if !usable status then
      .ok (failedJson status, (world.harvestProbe env callId (some (left (body.getD "") 2000))).probe call.providerId
        fun columns => { columns with
          lastProbeStatus := some "error"
          lastProbeAt := some env.now
          lastProbeError := some (left ((nonEmpty body).getD "request failed") 500) })
    else
      let models := answeredModels env body
      .ok (.build [("action", .str "ok"), ("provider_id", idJson call.providerId),
          ("model_count", .ofNat ((models.map List.length).getD 0))],
        (world.harvestProbe env callId none).probe call.providerId fun columns =>
          { lastProbeStatus := some "ok"
            lastProbeAt := some env.now
            lastProbeError := none
            availableModels := (models.map fun ids => .arr (ids.map .str)).or columns.availableModels })

end

end Allgres
