import Mathlib.Data.Prod.Lex
import Allgres.Lib.Ranked
import Allgres.Machine
import Allgres.Writes.Submit

/-! The cap on the memories of an agent. -/

namespace Allgres

open Relational Jsonb Sql

variable {env : Env} {db : Db} {agentId : Nat} {content memoryType importance subjectId expiresInDays : Option String}
  {session source : Option Nat}

/-- How `write_memory` ranks a memory. -/
def memoryScore (memory : Nat × MemoryRow) : Lex (ℚ × Time) := toLex (memory.2.importance, memory.2.createdAt)

theorem ranks_iff (a b : Nat × MemoryRow) :
    (b.2.importance < a.2.importance ∨ (a.2.importance = b.2.importance ∧ b.2.createdAt ≤ a.2.createdAt)) ↔
      memoryScore b ≤ memoryScore a := by
  rw [memoryScore, memoryScore, Prod.Lex.toLex_le_toLex, eq_comm (a := a.2.importance)]

theorem evictMemories_eq (memories : Table MemoryRow) (agentId : Nat) :
    evictMemories memories agentId = memories.cut (rankedMemories memories fun memory => memory.agentId == agentId) 500 := rfl

/-- What `write_memory` takes. -/
def memoryAccepted (content memoryType : Option String) : Bool :=
  decide (btrim (content.getD "") ≠ "") && memoryTypes.contains ((nonEmpty memoryType).getD "semantic")

/-- The importance asked for, within 0 and 1; a half where it is missing or malformed. -/
def importanceOf (env : Env) (importance : Option String) : ℚ :=
  match nonEmpty importance with
  | none => 1 / 2
  | some text => match env.pg.realIn text with
    | none => 1 / 2
    | some value => value.clampUnit

/-- The database after the call: a refusal comes before anything is written. -/
def writtenTo (db : Db) : Except String (Nat × String × Db) → Db
  | .error _ => db
  | .ok (_, _, written) => written

theorem writeMemory_refuses (env : Env) (db : Db) (agentId : Nat) (importance subjectId expiresInDays : Option String)
    (session source : Option Nat) (refused : memoryAccepted content memoryType = false) :
    ∃ reason, writeMemory env db agentId content memoryType importance subjectId expiresInDays session source = .error reason := by
  unfold writeMemory
  simp only [memoryAccepted, Bool.and_eq_false_iff, decide_eq_false_iff_not, not_not] at refused
  by_cases blank : btrim (content.getD "") = ""
  · exact ⟨_, if_pos blank⟩
  · have unknown := refused.resolve_left blank
    refine ⟨"invalid_memory_type", ?_⟩
    dsimp only
    rw [if_neg blank, unknown]
    rfl

/-- The row of an accepted memory is written, then the agent's memories are cut. -/
theorem writeMemory_accepts (env : Env) (db : Db) (agentId : Nat) (importance subjectId expiresInDays : Option String)
    (session source : Option Nat) (accepted : memoryAccepted content memoryType = true) :
    ∃ memory kind written,
      writeMemory env db agentId content memoryType importance subjectId expiresInDays session source =
        .ok (db.memories.next, kind, written) ∧
      memory.agentId = agentId ∧ memory.importance = importanceOf env importance ∧ memory.createdAt = env.now ∧
      written.memories = evictMemories (db.memories.insert memory) agentId := by
  unfold writeMemory
  simp only [memoryAccepted, Bool.and_eq_true, decide_eq_true_eq] at accepted
  dsimp only
  rw [if_neg accepted.1, accepted.2]
  refine ⟨_, _, _, rfl, ?_, ?_, ?_, congrArg Core.memories (core_stored _ agentId)⟩
  · rfl
  · rfl
  · rfl

/-- What a call that stored the memory promises about the agent's memories. -/
structure Evicted (before after : Table MemoryRow) (agentId memoryId : Nat) : Prop where
  stored : (after.get? memoryId).isSome = true
  capped : after.count (fun _ memory => memory.agentId == agentId) ≤ 500
  unchanged : ∀ key memory, after.get? key = some memory → key = memoryId ∨ before.get? key = some memory
  ranked : ∀ key memory other kept, before.get? key = some memory → after.get? key = none →
    after.get? other = some kept → kept.agentId = agentId → memory.agentId = agentId ∧ memoryScore (key, memory) ≤ memoryScore (other, kept)
  others : ∀ key memory, memory.agentId ≠ agentId → (after.get? key = some memory ↔ before.get? key = some memory)

/-- The promise of `write_memory`. -/
def MemoryPromise (db : Db) (agentId : Nat) (result : Except String (Nat × String × Db)) : Prop :=
  match result with
  | .error _ => writtenTo db result = db
  | .ok (memoryId, _, _) => Evicted db.memories (writtenTo db result).memories agentId memoryId

theorem evictMemories_perm (memories : Table MemoryRow) (agentId : Nat) :
    (rankedMemories memories fun memory => memory.agentId == agentId).Perm
      (memories.select fun _ memory => memory.agentId == agentId) := List.perm_insertionSort _ _

/-- All of the promise but the new memory's stay holds of every call. -/
theorem evicted_iff {memories : Table MemoryRow} {memory : MemoryRow} (owned : memory.agentId = agentId) :
    Evicted memories (evictMemories (memories.insert memory) agentId) agentId memories.next ↔
      ((evictMemories (memories.insert memory) agentId).get? memories.next).isSome = true := by
  refine ⟨Evicted.stored, fun stored => ?_⟩
  have perm := evictMemories_perm (memories.insert memory) agentId
  have older {key : Nat} {row : MemoryRow} (found : (memories.insert memory).get? key = some row) :
      key = memories.next ∨ memories.get? key = some row := by
    rw [Table.get?_insert] at found
    split at found
    next same => exact .inl same
    · exact .inr found
  refine ⟨stored, ?_, ?_, ?_, ?_⟩
  · rw [evictMemories_eq]
    exact Table.count_cut_le perm
  · intro key row found
    rw [evictMemories_eq, Table.get?_cut perm] at found
    exact older found.1
  · intro key row other kept before gone stays fit
    have held := Table.get?_insert_old memory before
    rw [evictMemories_eq] at gone stays
    have dropped : ((memories.insert memory).cut (rankedMemories (memories.insert memory) fun memory => memory.agentId == agentId)
        500).get? key ≠ some row := by
      rw [gone]
      nofun
    have sorted := pairwise_score ranks_iff ((memories.insert memory).select fun _ memory => memory.agentId == agentId)
    refine ⟨?_, Table.score_cut perm sorted held dropped (beq_iff_eq.mpr fit) stays⟩
    by_contra foreign
    exact dropped ((Table.get?_cut_unfit perm (beq_eq_false_iff_ne.mpr foreign)).mpr held)
  · intro key row foreign
    rw [evictMemories_eq, Table.get?_cut_unfit perm (beq_eq_false_iff_ne.mpr foreign), Table.get?_insert]
    split
    next same =>
      rw [same, Table.get?_next]
      refine ⟨fun found => ?_, nofun⟩
      obtain rfl := Option.some.inj found
      exact absurd owned foreign
    · rfl

/-- How many memories of the agent rank at or above one that is asked for. -/
def atLeast (env : Env) (db : Db) (agentId : Nat) (importance : Option String) : Nat :=
  db.memories.count fun _ memory => memory.agentId == agentId &&
    decide (importanceOf env importance < memory.importance ∨
      importanceOf env importance = memory.importance ∧ env.now ≤ memory.createdAt)

theorem promise_accepted (accepted : memoryAccepted content memoryType = true) :
    MemoryPromise db agentId (writeMemory env db agentId content memoryType importance subjectId expiresInDays session source) ↔
      atLeast env db agentId importance < 500 := by
  obtain ⟨memory, kind, written, accepts, owned, weight, created, memories⟩ := writeMemory_accepts env db agentId
    importance subjectId expiresInDays session source accepted
  rw [accepts, MemoryPromise, writtenTo, memories, evicted_iff owned, evictMemories_eq]
  have place := Table.newest_kept db.memories (fun memory => memory.agentId == agentId)
    ranks_iff (beq_iff_eq.mpr owned) 500
  have counts : ((db.memories.select fun _ memory => memory.agentId == agentId).countP fun other =>
        decide (memoryScore (db.memories.next, memory) ≤ memoryScore other)) =
      atLeast env db agentId importance := by
    rw [Table.select, List.countP_filter, atLeast, Table.count]
    refine List.countP_congr fun other _ => ?_
    simp only [memoryScore, weight, created, Prod.Lex.toLex_le_toLex, Bool.and_eq_true, decide_eq_true_eq, and_comm]
  rw [counts] at place
  exact place.trans (by simp)

/-- `write_memory` keeps its promise where it refuses the memory, or where fewer than 500
memories of the agent rank at or above it. -/
theorem writeMemory_promise_iff (env : Env) (db : Db) (agentId : Nat)
    (content memoryType importance subjectId expiresInDays : Option String) (session source : Option Nat) :
    MemoryPromise db agentId (writeMemory env db agentId content memoryType importance subjectId expiresInDays session source) ↔
      (memoryAccepted content memoryType = true →
        atLeast env db agentId importance < 500) := by
  cases accepted : memoryAccepted content memoryType with
  | false =>
    obtain ⟨reason, refuses⟩ := writeMemory_refuses env db agentId importance subjectId expiresInDays session source accepted
    rw [refuses]
    simp [MemoryPromise, writtenTo]
  | true => simp [promise_accepted accepted]

/-- A server that reads the importance `0`. -/
def weighing : Env := { Env.bare with
  pg := { Pg.bare with realIn := fun text => if text = "0" then some (.finite 0) else none } }

/-- A note of the helper, with the given importance. -/
def note (importance : Option String) (db : Db) : Except String (Nat × String × Db) :=
  writeMemory weighing db 0 (some "note") none importance none none none none

/-- So many notes of the helper, one after another. -/
def notes (n : Nat) : Db := (fun db => writtenTo db (note none db))^[n] (helperDb (defaultPolicy 0))

theorem note_accepted : memoryAccepted (some "note") none = true := by decide +kernel

theorem evictMemories_few {memories : Table MemoryRow} (few : memories.count (fun _ memory => memory.agentId == agentId) ≤ 500) :
    evictMemories memories agentId = memories := by
  have short : (rankedMemories memories fun memory => memory.agentId == agentId).length ≤ 500 := by
    rw [(evictMemories_perm memories agentId).length_eq]
    rw [Table.count, List.countP_eq_length_filter] at few
    exact few
  rw [evictMemories_eq, Table.cut, Table.delete_eq_self_iff]
  intro key memory _
  rw [List.drop_of_length_le short]
  rfl

theorem notes_count (n : Nat) (few : n ≤ 500) :
    (notes n).memories.count (fun _ memory => memory.agentId == 0) = n ∧ atLeast weighing (notes n) 0 (some "0") = n := by
  induction n with
  | zero => exact ⟨rfl, rfl⟩
  | succ n ih =>
    obtain ⟨owned, ranks⟩ := ih (by omega)
    obtain ⟨memory, kind, written, accepts, own, weight, -, memories⟩ := writeMemory_accepts weighing (notes n) 0
      none none none none none note_accepted
    have next : (notes (n + 1)).memories = evictMemories ((notes n).memories.insert memory) 0 := by
      rw [notes, Function.iterate_succ_apply', ← notes, note, accepts]
      exact memories
    have heavier : importanceOf weighing (some "0") < memory.importance := by
      rw [weight]
      decide +kernel
    have count : ((notes n).memories.insert memory).count (fun _ memory => memory.agentId == 0) = n + 1 := by
      rw [Table.count_insert, owned, own]
      rfl
    rw [evictMemories_few (by omega)] at next
    refine ⟨by rw [next, count], ?_⟩
    rw [atLeast] at ranks
    rw [atLeast, next, Table.count_insert, ranks, own]
    simp [heavier]

/-- Five hundred notes of importance one half leave no room for one of importance 0: its
id is returned, and it is gone. -/
theorem not_writeMemory_promise : ¬ ∀ n importance, MemoryPromise (notes n) 0 (note importance (notes n)) := by
  intro claimed
  have room := (promise_accepted note_accepted).mp (claimed 500 (some "0"))
  rw [(notes_count 500 (Nat.le_refl 500)).2] at room
  omega

end Allgres
