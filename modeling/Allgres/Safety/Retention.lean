import Allgres.Edits.System

/-! The memories of the agents over whole runs: there are never more than 500 of an agent, and each of them is
one that `write_memory` accepts. -/

namespace Allgres

open Relational

/-- The memories of the agent. -/
def Db.memoriesOf (db : Db) (agentId : Nat) : Nat := db.memories.count fun _ memory => memory.agentId == agentId

structure Retained (db : Db) : Prop where
  few : ∀ agentId, db.memoriesOf agentId ≤ 500
  sound : ∀ memoryId memory, db.memories.get? memoryId = some memory → memory.Sound

variable {F : Float8} {env : Env} {powers : Powers} {db db' : Db} {events : List Event}

theorem Retained.of_memories (retained : Retained db) (same : db'.memories = db.memories) : Retained db' where
  few agentId := by
    rw [Db.memoriesOf, same]
    exact retained.few agentId
  sound memoryId memory found := retained.sound memoryId memory (same ▸ found)

/-- A deletion keeps it. -/
theorem Retained.fewer {cond : Nat → MemoryRow → Bool} (retained : Retained db) :
    Retained { db with memories := db.memories.delete cond } where
  few agentId := by
    refine le_trans (Table.count_le_count fun key row found fit => ?_) (retained.few agentId)
    rw [Table.get?_delete] at found
    exact ⟨row, (Option.filter_eq_some_iff.mp found).1, fit⟩
  sound memoryId memory found := by
    rw [Table.get?_delete] at found
    exact retained.sound memoryId memory (Option.filter_eq_some_iff.mp found).1

/-- Among the memories of others one more makes no difference; those of the agent are cut. -/
theorem Retained.remembered {memory : MemoryRow} (retained : Retained db) (sound : memory.Sound) :
    Retained { db with memories := evictMemories (db.memories.insert memory) memory.agentId } where
  few agentId := by
    have perm := evictMemories_perm (db.memories.insert memory) memory.agentId
    by_cases own : agentId = memory.agentId
    · subst own
      exact Table.count_cut_le perm
    · refine le_trans (Table.count_le_count fun key row found fit => ?_) (retained.few agentId)
      have foreign : (row.agentId == memory.agentId) = false := by
        rw [beq_eq_false_iff_ne, beq_iff_eq.mp fit]
        exact own
      have held := (Table.get?_cut_unfit perm foreign).mp found
      rw [Table.get?_insert] at held
      split at held
      · obtain rfl := Option.some.inj held
        exact absurd (beq_iff_eq.mp fit).symm own
      · exact ⟨row, held, fit⟩
  sound memoryId row found := by
    have held := ((Table.get?_cut (evictMemories_perm (db.memories.insert memory) memory.agentId)).mp found).1
    rw [Table.get?_insert] at held
    split at held
    · obtain rfl := Option.some.inj held
      exact sound
    · exact retained.sound memoryId row held

theorem Edit.retained (edit : Edit env powers db db') (retained : Retained db) : Retained db' := by
  cases edit with
  | traffic only =>
    rw [only]
    exact retained.of_memories rfl
  | perimeter configures only =>
    rw [only]
    exact retained.of_memories rfl
  | remember memory sound => exact retained.remembered sound
  | forget cond => exact retained.fewer
  | touch cond =>
    constructor
    · intro agentId
      have same : ∀ (key : Nat) (row : MemoryRow),
          ((if cond key row then { row with lastAccessedAt := some env.now } else row).agentId == agentId) =
            (row.agentId == agentId) := by
        intro key row
        split <;> rfl
      dsimp only [Db.memoriesOf]
      rw [Table.count_update db.memories cond _ _ same]
      exact retained.few agentId
    · intro memoryId memory found
      rw [Table.get?_update] at found
      obtain ⟨row, held, rfl⟩ := Option.map_eq_some_iff.mp found
      have sound := retained.sound memoryId row held
      split
      · exact ⟨sound.type, sound.filled, sound.short, sound.least, sound.most⟩
      · exact sound
  | _ => exact retained.of_memories rfl

/-- In every run of the system, whatever the agents and the operators remember, recall and forget. -/
theorem memories_retained (own : ∀ event ∈ events, event.Own) (world : World F) (retained : Retained world.site.db) :
    Retained (world.after events).site.db :=
  @own_induction _ (fun db db' => Retained db → Retained db') events own (fun _ => id)
    (fun first second retained => second (first retained)) (fun _ _ _ _ edit => edit.retained) world retained

theorem memories_retained_remembered :
    let later := (World.ofDb supervisedDb).after (replying (remembers "Be brief."))
    later.site.db.memoriesOf 0 = 1 ∧ Retained later.site.db := by
  have blank : Retained supervisedDb := by
    refine ⟨fun agentId => Nat.zero_le 500, fun memoryId memory found => ?_⟩
    cases found
  exact ⟨by decide +kernel, memories_retained (replying_own _) (World.ofDb supervisedDb) blank⟩

end Allgres
