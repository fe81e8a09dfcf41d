import Allgres.Tables
import Allgres.Url

namespace Allgres

open Relational Jsonb Sql

/-- The embedding request for a text. A request for the same agent or memory
that is still queued is replaced; without a usable provider nothing happens. -/
def queueEmbedding (env : Env) (db : Db) (agentId memoryId : Option Nat) (input : String) : Db :=
  match db.embeddingProvider with
  | none => db
  | some (providerId, provider) =>
    let url := provider.baseUrl ++ "/embeddings"
    match checkOutboundUrl env.pg (some url) provider.allowPrivateNetwork with
    | some _ => db
    | none =>
      let kept := db.embeddingCalls.delete fun _ call =>
        call.agentId == agentId && call.memoryId == memoryId && call.status == .queued
      { db with
        embeddingCalls := kept.insert {
          providerId := providerId
          agentId := agentId
          memoryId := memoryId
          status := .queued
          url := url
          requestHeaders := .build [("content-type", .str "application/json")]
          requestBody := .build [("model", .optStr provider.embeddingModel), ("input", .str (left input 8000))]
          allowPrivate := provider.allowPrivateNetwork
          createdAt := env.now
          updatedAt := env.now
          error := none } }

def queueAgentEmbedding (env : Env) (db : Db) (agentId : Nat) : Db :=
  match db.agents.get? agentId with
  | none => db
  | some agent =>
    let prompt := ((db.policyOf agentId).map PolicyRow.systemPrompt).getD ""
    queueEmbedding env db (some agentId) none (agent.name ++ ": " ++ prompt)

def queueMemoryEmbedding (env : Env) (db : Db) (memoryId : Nat) : Db :=
  match db.memories.get? memoryId with
  | none => db
  | some memory => queueEmbedding env db none (some memoryId) (memory.memoryType ++ ": " ++ memory.content)

/-- The first moment that is no `timestamptz`. -/
def endTimestamp : Time := 9223371331200000000

/-- `now() + make_interval(days => GREATEST(0, text::int))`, or nothing where that raises. -/
def expiryAfter (env : Env) (days? : Option String) : Option Time :=
  ((nonEmpty days?).bind toInt).bind fun count =>
    let expires := env.now + days (max 0 count)
    if expires < endTimestamp then some expires else none

def memoryTypes : List String :=
  ["semantic", "episodic", "preference", "instruction", "relationship", "working"]

/-- The memories of the agent, the most important first and then the newest. -/
def rankedMemories (memories : Table MemoryRow) (cond : MemoryRow → Bool) : List (Nat × MemoryRow) :=
  (memories.select fun _ memory => cond memory).insertionSort fun a b =>
    b.2.importance < a.2.importance ∨ (a.2.importance = b.2.importance ∧ b.2.createdAt ≤ a.2.createdAt)

/-- `write_memory` keeps the 500 best memories of an agent. -/
def evictMemories (memories : Table MemoryRow) (agentId : Nat) : Table MemoryRow :=
  let evicted := (rankedMemories memories fun memory => memory.agentId == agentId).drop 500
  memories.delete fun memoryId _ => evicted.any fun memory => memory.1 == memoryId

/-- `write_memory` reports a refusal by its name and raises nothing. -/
def writeMemory (env : Env) (db : Db) (agentId : Nat) (content memoryType importance subjectId expiresInDays : Option String)
    (sourceSessionId sourceTaskId : Option Nat) : Except String (Nat × String × Db) :=
  let content := btrim (content.getD "")
  if content = "" then .error "empty_content"
  else
    let memoryType := (nonEmpty memoryType).getD "semantic"
    if !memoryTypes.contains memoryType then .error "invalid_memory_type"
    else
      let importance := match nonEmpty importance with
        | none => 1 / 2
        | some text => match env.pg.realIn text with
          | none => 1 / 2
          | some value => value.clampUnit
      let memoryId := db.memories.next
      let db := { db with
        memories := db.memories.insert {
          agentId := agentId
          subjectId := nonEmpty (some (btrim (subjectId.getD "")))
          memoryType := memoryType
          content := left content 4000
          importance := importance
          sourceSessionId := sourceSessionId
          sourceTaskId := sourceTaskId
          createdAt := env.now
          lastAccessedAt := none
          expiresAt := expiryAfter env expiresInDays } }
      let db := queueMemoryEmbedding env db memoryId
      .ok (memoryId, memoryType, { db with memories := evictMemories db.memories agentId })

end Allgres
