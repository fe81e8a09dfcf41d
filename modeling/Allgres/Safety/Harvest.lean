import Allgres.Ranking
import Allgres.Machine
import Allgres.Lib.Raising

/-! Which answers to a call can be taken in. -/

namespace Allgres

open Relational Jsonb Sql Raising

variable {env : Env} {db db' : Db} {callId t : Nat} {call : CallRow OutboundBody} {status : Option Int}
  {body : Option String}

/-! ### The five kinds of answers -/

/-- If the flag `isError` of an answer without an error is looked at, it is a boolean. -/
def McpReadable (status : Option Int) (body : Option String) : Prop :=
  isSuccess status = true → ∀ value, body.bind parse = some value → value.hasKey "error" = false →
    ∀ text, value.textAt? [.key "result", .key "isError"] = some text → (toBoolean text).isSome

/-- If the answer to an embedding request holds an embedding, it is an array whose elements can be
cast to `double precision`. -/
def EmbeddingReadable (pg : Pg) (status : Option Int) (body : Option String) : Prop :=
  isSuccess status = true → ∀ value, body.bind parse = some value →
    ∀ found, value.at? [.key "data", .index 0, .key "embedding"] = some found →
    ∃ items, found = .arr items ∧ ∀ item ∈ items, ∀ text, item.asText = some text → (pg.float8Json text).isSome

/-- The query can be compared with every candidate. -/
def Ranking.Computes {pg : Pg} (ranking : Ranking pg) (query : ranking.F.Vector)
    (candidates : List ranking.Candidate) : Prop :=
  match ranking.pgvector with
  | none => ∀ candidate ∈ candidates, Returns (ranking.F.cosineSimilarity candidate.2 query)
  | some pgvector => Returns (pgvector.cast query.length query) ∧
      ∀ candidate ∈ candidates, Returns (pgvector.cast query.length candidate.2)

/-- The query that a readable answer holds can be compared with every candidate. -/
def RankReadable {pg : Pg} (ranking : Ranking pg) (candidates : ranking.F.Vector → List ranking.Candidate)
    (status : Option Int) (body : Option String) : Prop :=
  EmbeddingReadable pg status body ∧ (isSuccess status = true → ∀ value, body.bind parse = some value →
    ∀ items, value.at? [.key "data", .index 0, .key "embedding"] = some (.arr items) → items ≠ [] →
      ranking.Computes (ranking.query (.arr items)) (candidates (ranking.query (.arr items))))

theorem returns_castBoolean {text : Option String} :
    Returns (castBoolean text) ↔ ∀ given, text = some given → (toBoolean given).isSome := by
  cases text with
  | none => simp [castBoolean, castOr]
  | some given =>
    rw [castBoolean, castOr]
    cases read : toBoolean given <;> simp [read]

theorem returns_mcpPayload : Returns (mcpPayload db call.body status body) ↔ McpReadable status body := by
  rw [mcpPayload, McpReadable]
  split
  · rename_i failed
    have unread : isSuccess status = false := by simpa using failed
    simp [unread]
  · rename_i succeeded
    have read : isSuccess status = true := by simpa using succeeded
    rcases body.bind parse with _ | value
    · simp
    · simp only [read, Option.some.injEq, forall_const, forall_eq']
      split
      · rename_i rejected
        simp [rejected]
      · rename_i accepted
        have flagged := @returns_castBoolean (value.textAt? [.key "result", .key "isError"])
        have plain : value.hasKey "error" = false := by simpa using accepted
        split
        · rename_i message raised
          rw [raised] at flagged
          simpa [plain] using flagged
        · rename_i flag cast
          rw [cast] at flagged
          have allowed := flagged.mp returns_ok
          split <;> simpa [plain] using allowed

theorem returns_embeddingVector {value : Option Json} : Returns (embeddingVector env value) ↔
    ∀ found, (value.bind fun value => value.at? [.key "data", .index 0, .key "embedding"]) = some found →
      ∃ items, found = .arr items ∧ ∀ item ∈ items, ∀ text, item.asText = some text → (env.pg.float8Json text).isSome := by
  rw [embeddingVector]
  rcases value.bind fun value => value.at? [.key "data", .index 0, .key "embedding"] with _ | found
  · simp
  · cases found with
    | arr items =>
      simp only [Option.some.injEq, forall_eq', Json.arr.injEq, exists_eq_left']
      split
      · rename_i empty
        rw [List.isEmpty_iff] at empty
        simp [empty]
      · split
        · rename_i castable
          refine iff_of_true returns_ok fun item member text given => ?_
          have cast := List.all_eq_true.mp castable item member
          rwa [given, Option.all_some] at cast
        · rename_i uncastable
          refine iff_of_false not_returns_error fun castable => uncastable ?_
          refine List.all_eq_true.mpr fun item member => ?_
          rw [Option.all_eq_true]
          exact castable item member
    | null | bool | num | str | obj => simp

/-- The vector that is read is the embedding, unless it is empty. -/
theorem embeddingVector_eq {value : Option Json} {vector : Option Json} (read : embeddingVector env value = .ok vector)
    {items : List Json} (found : (value.bind fun value => value.at? [.key "data", .index 0, .key "embedding"]) =
      some (.arr items)) : vector = if items = [] then none else some (.arr items) := by
  rw [embeddingVector, found] at read
  dsimp only at read
  split at read
  · rename_i empty
    rw [← Except.ok.inj read, if_pos (List.isEmpty_iff.mp empty)]
  · rename_i filled
    split at read
    · rw [← Except.ok.inj read, if_neg (by simpa using filled)]
    · cases read

theorem returns_rank {pg : Pg} {ranking : Ranking pg} {items : List Json}
    {candidates : ranking.F.Vector → List ranking.Candidate} : Returns (ranking.rank (.arr items) candidates) ↔
      (items ≠ [] → ranking.Computes (ranking.query (.arr items)) (candidates (ranking.query (.arr items)))) := by
  have empty : (ranking.query (.arr items)).isEmpty = true ↔ items = [] := by simp [Ranking.query]
  rw [Ranking.rank]
  split
  · rename_i none
    simp [empty.mp none]
  · rename_i some
    rw [empty] at some
    rw [returns_map, Ranking.similarities, Ranking.Computes]
    rcases ranking.pgvector with _ | pgvector
    · simp [some, returns_mapM]
    · simp only [ne_eq, some, not_false_eq_true, forall_const]
      rcases pgvector.cast (ranking.query (.arr items)).length (ranking.query (.arr items)) with message | stored
      · simp
      · simp [returns_mapM]

/-! ### The completion -/

/-- The agent of the task. -/
def Db.requester (db : Db) (t : Nat) : Nat := ((db.tasks.get? t).map TaskRow.agentId).getD 0

/-- The model that the request was sent to, as `embedding_model` names it. -/
def Db.expectedModel (db : Db) (call : OutboundBody) : Option String :=
  (call.providerId.bind fun id => db.providers.get? id).bind fun provider =>
    (call.requestBody.getText? "model").map fun model => provider.name ++ ":" ++ model

/-- What is read of the answer has the form that the code takes for granted. -/
def Harvestable (env : Env) (ranking : Ranking env.pg) (db : Db) (call : CallRow OutboundBody) (status : Option Int)
    (body : Option String) : Prop :=
  match call.body.kind with
  | .function | .llm => True
  | .mcp => McpReadable status body
  | .embedding => RankReadable ranking (ranking.agentCandidates env db.agents db.permissions (db.requester call.taskId)
      (db.expectedModel call.body)) status body
  | .recallMemories => RankReadable ranking (ranking.memoryCandidates env db.memories (db.requester call.taskId)
      (db.expectedModel call.body)) status body

theorem returns_rankPayload {ranking : Ranking env.pg}
    {candidates : Nat → Option String → ranking.F.Vector → List ranking.Candidate} {rankings : Env}
    (server : rankings.pg = env.pg) :
    Returns (rankPayload (fun requester items expected => ranking.rank items (candidates requester expected)) rankings db t
        call.body status body) ↔
      RankReadable ranking (candidates (db.requester t) (db.expectedModel call.body)) status body := by
  rw [rankPayload, RankReadable, EmbeddingReadable]
  split
  · rename_i failed
    have unread : isSuccess status = false := by simpa using failed
    simp [unread]
  · rename_i succeeded
    have read : isSuccess status = true := by simpa using succeeded
    have vector := @returns_embeddingVector rankings (body.bind parse)
    rw [server] at vector
    rcases parsed : body.bind parse with _ | value
    · simp [embeddingVector]
    · simp only [read, Option.some.injEq, forall_const, forall_eq']
      rw [parsed, Option.bind_some] at vector
      split
      · rename_i message raised
        rw [raised] at vector
        refine iff_of_false not_returns_error fun readable => not_returns_error (vector.mpr readable.1)
      · rename_i nothing
        rw [nothing] at vector
        refine iff_of_true returns_ok ⟨vector.mp returns_ok, fun items found filled => ?_⟩
        have none := embeddingVector_eq nothing found
        rw [if_neg filled] at none
        cases none
      · rename_i vector' castable
        rw [castable] at vector
        have readable := vector.mp returns_ok
        obtain ⟨items, found⟩ : ∃ items, value.at? [.key "data", .index 0, .key "embedding"] = some (.arr items) := by
          rcases held : value.at? [.key "data", .index 0, .key "embedding"] with _ | found
          · rw [embeddingVector, Option.bind_some, held] at castable
            cases castable
          · obtain ⟨items, rfl, -⟩ := readable found held
            exact ⟨items, rfl⟩
        have same := embeddingVector_eq castable found
        have filled : items ≠ [] := by
          rintro rfl
          cases same
        rw [if_neg filled, Option.some.injEq] at same
        subst same
        have ranked := @returns_rank _ ranking items (candidates (db.requester t) (db.expectedModel call.body))
        have computed : Returns (ranking.rank (.arr items) (candidates (db.requester t) (db.expectedModel call.body))) ↔
            ∀ others, value.at? [.key "data", .index 0, .key "embedding"] = some (.arr others) → others ≠ [] →
              ranking.Computes (ranking.query (.arr others))
                (candidates (db.requester t) (db.expectedModel call.body) (ranking.query (.arr others))) := by
          rw [ranked, found]
          simp only [filled, Option.some.injEq, Json.arr.injEq, forall_eq', ne_eq, not_false_eq_true, forall_const]
        rw [and_iff_right readable, ← computed]
        split
        · rename_i message raised
          have error : ranking.rank (.arr items) (candidates (db.requester t) (db.expectedModel call.body)) = .error message :=
            raised
          rw [error]
        · rename_i ranked returned
          have ok : ranking.rank (.arr items) (candidates (db.requester t) (db.expectedModel call.body)) = .ok ranked :=
            returned
          rw [ok]
          exact iff_of_true returns_ok returns_ok

theorem returns_outboundPayload {ranking : Ranking env.pg} :
    Returns (outboundPayload (env.ranked ranking) db callId call.taskId call.body status body) ↔
      Harvestable env ranking db call status body := by
  rw [outboundPayload, Harvestable]
  cases call.body.kind with
  | function => exact iff_of_true returns_ok trivial
  | llm =>
    dsimp only
    split <;> exact iff_of_true returns_ok trivial
  | mcp => exact returns_map.trans returns_mcpPayload
  | embedding => exact returns_map.trans (returns_rankPayload rfl)
  | recallMemories => exact returns_map.trans (returns_rankPayload rfl)

/-- Harvesting leaves what an answer is read with as it was. -/
theorem harvestable_harvestOutbound {ranking : Ranking env.pg} {id : Nat} {given : Option Int} {text : Option String} :
    Harvestable env ranking (harvestOutbound env db id given text) call status body ↔
      Harvestable env ranking db call status body := Iff.rfl

/-- The call stays harvested whatever its task does with the answer. -/
theorem fnCompleteOutbound_harvested {answer : Json} (found : db.outboundCalls.get? callId = some call)
    (inFlight : call.status = .inFlight) (done : fnCompleteOutbound env db callId status body = .ok (answer, db')) :
    ∃ row, db'.outboundCalls.get? callId = some row ∧ row.status = .harvested := by
  simp only [fnCompleteOutbound, found, inFlight, ne_eq, not_true_eq_false, if_false] at done
  split at done
  · cases done
  rename_i payload mid built
  obtain ⟨-, rfl⟩ := Prod.mk.inj (Except.ok.inj done)
  have harvested : (harvestOutbound env db callId status body).flow.call (.outbound, callId) =
      some { call.view OutboundBody.isLlm with status := .harvested } := by
    have row : (harvestOutbound env db callId status body).outboundCalls.get? callId = _ :=
      (Table.get?_modify _ _ _ _).trans (if_pos rfl)
    rw [found, Option.map_some] at row
    exact congrArg (Option.map (CallRow.view OutboundBody.isLlm)) row
  rw [← (outboundPayload_quiet built).flow] at harvested
  have kept : Flow.Onward mid.flow (submitFor env mid (.outbound, callId) call.taskId payload).2.flow :=
    onward_submitFor (.outbound, callId) call.taskId payload
  obtain ⟨view, later, -, -, onward⟩ := kept _ _ harvested
  rw [← (scoreCall_quiet callId call.body _).flow] at later
  obtain ⟨row, now, rfl⟩ := Option.map_eq_some_iff.mp later
  refine ⟨row, now, ?_⟩
  rcases status : row.status with _ | _ | _ | _ <;> simp_all [CallStatus.onward, CallRow.view]

theorem harvest_total_iff (ranking : Ranking env.pg) (found : db.outboundCalls.get? callId = some call)
    (inFlight : call.status = .inFlight) (status : Option Int) (body : Option String) :
    (∃ answer db' row, fnCompleteOutbound (env.ranked ranking) db callId status body = .ok (answer, db') ∧
        db'.outboundCalls.get? callId = some row ∧ row.status = .harvested) ↔
      Harvestable env ranking db call status body := by
  have reads := @returns_outboundPayload env (harvestOutbound (env.ranked ranking) db callId status body) callId call
    status body ranking
  rw [← (reads.trans harvestable_harvestOutbound)]
  constructor
  · rintro ⟨answer, db', row, done, -⟩
    simp only [fnCompleteOutbound, found, inFlight, ne_eq, not_true_eq_false, if_false] at done
    split at done
    · cases done
    · rename_i built
      exact ⟨_, built⟩
  · rintro ⟨⟨payload, mid⟩, built⟩
    obtain ⟨answer, db', done⟩ : ∃ answer db', fnCompleteOutbound (env.ranked ranking) db callId status body =
        .ok (answer, db') := by
      simp only [fnCompleteOutbound, found, inFlight, ne_eq, not_true_eq_false, if_false, built]
      exact ⟨_, _, rfl⟩
    obtain ⟨row, now, harvested⟩ := fnCompleteOutbound_harvested found inFlight done
    exact ⟨answer, db', row, done, now, harvested⟩

/-! ### An answer that cannot be taken in -/

/-- The helper recalls its memories by the embeddings of a second provider. -/
def recallingDb : Db :=
  { helperDb (helperPolicy 5 none) with
    providers := (helperDb (helperPolicy 5 none)).providers.insert
      ⟨"vectors", .openaiCompat, "https://vectors.example", true, false, .embedding, some "tiny", false, 0, none, none⟩ }

theorem recallingDb_fresh : Fresh recallingDb :=
  have fresh := helperDb_fresh (helperPolicy 5 none)
  ⟨fresh.sessions, fresh.tasks, fresh.calls, fresh.approvals, fresh.journal, fresh.submits⟩

def recalling : List (Env × Op) :=
  [(.bare, .createSession 0 (some "what did we agree on?") none none), (.bare, .dispatchTasks),
    (.bare, .claimOutbound none none),
    (.bare, .completeOutbound 0 (some 200) (some "\x7b\"action\":\"recall\",\"query\":\"agreement\"\x7d")),
    (.bare, .claimOutbound none none)]

def recallInFlight (db : Db) : Bool :=
  (db.outboundCalls.get? 1).any fun call => call.status == .inFlight && call.body.kind == .recallMemories

/-- No text is a number, and nothing has an embedding. -/
def Ranking.none : Ranking Pg.bare where
  F := ⟨Unit, fun _ => Option.none, fun _ _ => .ok (), fun _ _ => .ok (), fun _ _ => .ok (), fun _ => .ok (),
    fun _ => true, fun _ _ => true, fun _ => .null⟩
  input_isSome _ := rfl
  pgvector := Option.none
  ofAgent _ := Option.none
  ofMemory _ := Option.none

/-- The answer `{"data":[{"embedding":"x"}]}`. -/
def misplaced : String := "\x7b\"data\":[\x7b\"embedding\":\"x\"\x7d]\x7d"

theorem recall_reached : ∃ db call, Run Label.any recallingDb db ∧ db.outboundCalls.get? 1 = some call ∧
    call.status = .inFlight ∧ call.body.kind = .recallMemories := by
  obtain ⟨db, run, reached⟩ := run_reaching
    (show ((runAll Label.any recallingDb recalling).any recallInFlight) = true by decide +kernel)
  simp only [recallInFlight, Option.any_eq_true, Bool.and_eq_true, beq_iff_eq] at reached
  obtain ⟨call, found, flies, kind⟩ := reached
  exact ⟨db, call, run, found, flies, kind⟩


/-- What should be an array is a text. -/
def embedsText (answer : Option Json) : Bool :=
  match answer.bind fun value => value.at? [.key "data", .index 0, .key "embedding"] with
  | some (.str _) => true
  | _ => false

/-- An embedding that is no array stays in flight. -/
theorem not_harvest_total : ¬ ∀ start db (env : Env) (ranking : Ranking env.pg) callId call status body, Fresh start →
    Run Label.any start db → db.outboundCalls.get? callId = some call → call.status = .inFlight →
    ∃ answer db' row, fnCompleteOutbound (env.ranked ranking) db callId status body = .ok (answer, db') ∧
      db'.outboundCalls.get? callId = some row ∧ row.status = .harvested := by
  intro claimed
  obtain ⟨db, call, run, found, flies, kind⟩ := recall_reached
  obtain ⟨answer, db', row, done, -⟩ := claimed recallingDb db .bare .none 1 call (some 200) (some misplaced)
    recallingDb_fresh run found flies
  have embeds : embedsText ((some misplaced).bind parse) = true := by decide +kernel
  unfold embedsText at embeds
  split at embeds
  · rename_i text found'
    have succeeded : isSuccess (some 200) = true := by decide
    simp only [fnCompleteOutbound, found, flies, ne_eq, not_true_eq_false, if_false, outboundPayload, kind, rankPayload,
      succeeded, embeddingVector, found', Bool.not_true, Bool.false_eq_true, Except.map] at done
    cases done
  · cases embeds

theorem harvest_total_iff_recall : ∃ db call, Run Label.any recallingDb db ∧ db.outboundCalls.get? 1 = some call ∧
    call.body.kind = .recallMemories ∧ ∃ answer db' row,
      fnCompleteOutbound (Env.bare.ranked .none) db 1 (some 503) (some misplaced) = .ok (answer, db') ∧
        db'.outboundCalls.get? 1 = some row ∧ row.status = .harvested := by
  obtain ⟨db, call, run, found, flies, kind⟩ := recall_reached
  -- a failed request is not looked into
  have failed : isSuccess (some 503) = false := by decide
  have readable : Harvestable .bare .none db call (some 503) (some misplaced) := by
    simp only [Harvestable, kind, RankReadable, EmbeddingReadable, failed, Bool.false_eq_true, false_imp_iff, and_self]
  have taken := (@harvest_total_iff .bare db 1 call .none found flies (some 503) (some misplaced)).mpr readable
  exact ⟨db, call, run, found, kind, taken⟩

end Allgres
