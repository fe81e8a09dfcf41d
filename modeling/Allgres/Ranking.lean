import Allgres.Complete

/-! The rankings by embedding distance. -/

namespace Allgres

open Relational Jsonb Sql

/-- `double precision`, whose operators raise where a result is out of range. -/
structure Float8 where
  Value : Type
  input : String → Option Value
  mul : Value → Value → Except String Value
  add : Value → Value → Except String Value
  div : Value → Value → Except String Value
  sqrt : Value → Except String Value
  isZero : Value → Bool
  atMost : Value → Value → Bool
  toJson : Value → Json

/-- A `double precision[]`, with its NULL elements. -/
abbrev Float8.Vector (F : Float8) : Type := List (Option F.Value)

/-- The columns `embedding` and `embedding_model`. -/
structure Embedding (F : Float8) where
  vector : F.Vector
  model : Option String

/-- The extension `vector`: the cast to `vector(n)`, and `1 - (a <=> b)`. -/
structure Pgvector (F : Float8) where
  Stored : Type
  cast : Nat → F.Vector → Except String Stored
  similarity : Stored → Stored → F.Value

/-- What the rankings use besides the tables. The arrays of `jsonb` texts that can be cast are those of the
server. -/
structure Ranking (pg : Pg) where
  F : Float8
  input_isSome : ∀ text, (F.input text).isSome = (pg.float8Json text).isSome
  pgvector : Option (Pgvector F)
  ofAgent : Nat → Option (Embedding F)
  ofMemory : Nat → Option (Embedding F)

namespace Float8

variable (F : Float8)

/-- `sum(a * b)`, which skips NULL. -/
def dot : F.Vector → F.Vector → Option F.Value → Except String (Option F.Value)
  | some x :: a, some y :: b, total => do
    let product ← F.mul x y
    match total with
    | none => dot a b (some product)
    | some sum => dot a b (some (← F.add sum product))
  | _ :: a, _ :: b, total => dot a b total
  | _, _, total => .ok total

/-- `NULLIF(sqrt(a) * sqrt(b), 0)`. -/
def norm (a b : Option F.Value) : Except String (Option F.Value) :=
  match a, b with
  | some a, some b => do
    let product ← F.mul (← F.sqrt a) (← F.sqrt b)
    .ok (if F.isZero product then none else some product)
  | some a, none | none, some a => (F.sqrt a).map fun _ => none
  | none, none => .ok none

def cosineSimilarity (a b : F.Vector) : Except String (Option F.Value) :=
  if a.isEmpty || a.length != b.length then .ok none
  else do
    let product ← F.dot a b none
    let norm ← F.norm (← F.dot a a none) (← F.dot b b none)
    match product, norm with
    | some product, some norm => (F.div product norm).map some
    | _, _ => .ok none

/-- `DESC`, with the NULLs at one end. -/
def descending (nullsFirst : Bool) : Option F.Value → Option F.Value → Bool
  | some a, some b => F.atMost b a
  | none, none => true
  | none, some _ => nullsFirst
  | some _, none => !nullsFirst

end Float8

namespace Ranking

variable {pg : Pg} (ranking : Ranking pg)

/-- A candidate: what is shown of it, and its embedding. -/
abbrev Candidate : Type := List (String × Json) × ranking.F.Vector

/-- How near the candidates are to the query. With `pgvector` the query is cast before any row is read. -/
def similarities (query : ranking.F.Vector) (candidates : List ranking.Candidate) :
    Except String (List (List (String × Json) × Option ranking.F.Value)) :=
  match ranking.pgvector with
  | none => candidates.mapM fun candidate =>
      (ranking.F.cosineSimilarity candidate.2 query).map fun similarity => (candidate.1, similarity)
  | some pgvector => match pgvector.cast query.length query with
    | .error message => .error message
    | .ok stored => candidates.mapM fun candidate =>
        (pgvector.cast query.length candidate.2).map fun other =>
          (candidate.1, some (pgvector.similarity other stored))

/-- The five nearest, as `jsonb_agg` lists them. -/
def nearest (found : List (List (String × Json) × Option ranking.F.Value)) : Json :=
  let top := (found.insertionSort fun a b => ranking.F.descending false a.2 b.2).take 5
  .arr ((top.insertionSort fun a b => ranking.F.descending true a.2 b.2).map fun row =>
    .build (row.1 ++ [("similarity", .ofOption ranking.F.toJson row.2)]))

def query (items : Json) : ranking.F.Vector :=
  match items with
  | .arr items => items.map fun item => item.asText.bind ranking.F.input
  | _ => []

/-- The embedding has the dimensions of the query and comes from the model that embedded it. -/
def comparable (query : ranking.F.Vector) (expected : Option String) (embedding : Embedding ranking.F) : Bool :=
  embedding.vector.length == query.length && embedding.model.isSome && embedding.model == expected

def rank (items : Json) (candidates : ranking.F.Vector → List ranking.Candidate) : Except String Json :=
  let query := ranking.query items
  if query.isEmpty then .ok (.arr [])
  else (ranking.similarities query (candidates query)).map ranking.nearest

def agentCandidates (env : Env) (agents : Table AgentRow) (permissions : Table PermissionRow) (requester : Nat)
    (expected : Option String) (query : ranking.F.Vector) : List ranking.Candidate :=
  let db : Db := { Db.empty with agents := agents, permissions := permissions }
  agents.rows.filterMap fun row => match ranking.ofAgent row.1 with
    | none => none
    | some embedding =>
      if row.2.isActive && row.1 != requester && ranking.comparable query expected embedding &&
          agentHasPermission env db requester .agent (some row.2.name) then
        some ([("agent_id", idJson row.1), ("name", .str row.2.name)], embedding.vector)
      else none

/-- `rank_agents_by_embedding`. -/
def rankAgentsByEmbedding (env : Env) (agents : Table AgentRow) (permissions : Table PermissionRow) (requester : Nat)
    (items : Json) (expected : Option String) : Except String Json :=
  ranking.rank items (ranking.agentCandidates env agents permissions requester expected)

def memoryCandidates (env : Env) (memories : Table MemoryRow) (agentId : Nat) (expected : Option String)
    (query : ranking.F.Vector) : List ranking.Candidate :=
  memories.rows.filterMap fun row => match ranking.ofMemory row.1 with
    | none => none
    | some embedding =>
      if row.2.agentId == agentId && ranking.comparable query expected embedding &&
          row.2.expiresAt.all (fun time => decide (env.now < time)) then
        some ([("memory_id", idJson row.1), ("memory_type", .str row.2.memoryType),
          ("content", .str (left row.2.content 500))], embedding.vector)
      else none

/-- `rank_memories_by_embedding`. -/
def rankMemoriesByEmbedding (env : Env) (memories : Table MemoryRow) (agentId : Nat) (items : Json)
    (expected : Option String) : Except String Json :=
  ranking.rank items (ranking.memoryCandidates env memories agentId expected)

end Ranking

/-- The transaction with the rankings of the server. -/
def Env.ranked (env : Env) (ranking : Ranking env.pg) : Env :=
  { env with
    rankAgentsByEmbedding := ranking.rankAgentsByEmbedding env
    rankMemoriesByEmbedding := ranking.rankMemoriesByEmbedding env }

end Allgres
