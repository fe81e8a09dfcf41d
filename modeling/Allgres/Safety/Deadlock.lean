import Allgres.Safety.Continuation
import Allgres.Safety.Forest

/-! Tasks that wait for children which find no slot: such a standstill is always a
circle of agents. -/

namespace Allgres

open Relational Jsonb Sql Runs Forest

variable {db : Db} {within : Set Nat}

/-- `c` is an unfinished child of `t`, and one of the given tasks. -/
def Waits (db : Db) (within : Set Nat) (t c : Nat) : Prop :=
  c ∈ within ∧ ∃ child, db.tasks.get? c = some child ∧ child.parentTaskId = some t ∧ child.status.terminal = false

/-- A queued task that is passed over by `fn_dispatch_tasks`, and every task that takes a
slot of its agent is a waiting parent among the given ones. -/
def Refused (db : Db) (within : Set Nat) (t : Nat) : Prop :=
  ∃ task, db.tasks.get? t = some task ∧ task.status = .queued ∧ db.hasOutstanding t = false ∧
    atCapacity db t task.agentId = true ∧
    ∀ other row, db.tasks.get? other = some row → other ≠ t → row.agentId = task.agentId →
      row.status.active = true → other ∈ within ∧ row.status = .waitingChildren

/-- Every one of the tasks waits for a child among them or is refused on their account. -/
structure Deadlocked (db : Db) (within : Set Nat) : Prop where
  nonempty : within.Nonempty
  stuck : ∀ t ∈ within,
    (∃ task, db.tasks.get? t = some task ∧ task.status = .waitingChildren ∧ ∃ c, Waits db within t c) ∨
      Refused db within t

/-- Below a waiting task of agent `a` there is a refused task of agent `b`. -/
def Blocks (db : Db) (within : Set Nat) (a b : Nat) : Prop :=
  ∃ w waiter q task, w ∈ within ∧ db.tasks.get? w = some waiter ∧ waiter.status = .waitingChildren ∧
    waiter.agentId = a ∧ Relation.TransGen (Waits db within) w q ∧ Refused db within q ∧
    db.tasks.get? q = some task ∧ task.agentId = b

/-! ### Down the tree -/

/-- Children are younger, so every chain of waiting tasks ends at a refused one. -/
theorem Deadlocked.descends (rooted : Rooted (origins db.tasks)) (dead : Deadlocked db within) {t : Nat}
    (member : t ∈ within) :
    ∃ q, Relation.ReflTransGen (Waits db within) t q ∧ q ∈ within ∧ Refused db within q := by
  induction left : db.tasks.next - t using Nat.strongRecOn generalizing t with
  | ind left ih =>
    rcases dead.stuck t member with ⟨task, found, -, c, waits⟩ | refused
    · obtain ⟨inside, child, here, up, -⟩ := id waits
      obtain ⟨-, -, older, -⟩ := rooted.child c child.origin t (by rw [origins, here]; rfl) up
      have below := Table.get?_lt_next here
      obtain ⟨q, chain, last, refused⟩ := ih (db.tasks.next - c) (by omega) inside rfl
      exact ⟨q, .head waits chain, last, refused⟩
    · exact ⟨t, .refl, member, refused⟩

/-- The task a chain of children starts from is among the ancestors of its last one. -/
theorem waits_ancestry (rooted : Rooted (origins db.tasks)) {w q : Nat} {waiter : TaskRow}
    (found : db.tasks.get? w = some waiter) (chain : Relation.TransGen (Waits db within) w q) :
    ∃ task above, db.tasks.get? q = some task ∧
      Ancestry TaskRow.parentTaskId db.tasks.get? q (task :: above) ∧ waiter ∈ above := by
  induction chain with
  | single waits =>
    obtain ⟨-, child, here, up, -⟩ := waits
    obtain ⟨above, ancestry, -⟩ := rooted.chained found
    obtain ⟨top, rest, again, rfl⟩ := ancestry.head
    obtain rfl := Option.some.inj (found.symm.trans again)
    exact ⟨child, _, here, .child here up ancestry, List.mem_cons_self⟩
  | tail _ waits ih =>
    obtain ⟨-, child, here, up, -⟩ := waits
    obtain ⟨task, above, -, ancestry, member⟩ := ih
    exact ⟨child, _, here, .child here up ancestry, List.mem_cons_of_mem _ member⟩

theorem Blocks.differ (rooted : Rooted (origins db.tasks)) {a b : Nat} (blocks : Blocks db within a b) : a ≠ b := by
  obtain ⟨w, waiter, q, task, -, found, -, rfl, chain, -, here, rfl⟩ := blocks
  obtain ⟨again, above, there, ancestry, member⟩ := waits_ancestry rooted found chain
  obtain rfl := Option.some.inj (here.symm.trans there)
  obtain ⟨full, whole, chained⟩ := rooted.chained here
  obtain rfl := ancestry.unique whole
  have apart := (List.nodup_cons.mp chained.agents).1
  intro same
  rw [← same] at apart
  exact apart (List.mem_map_of_mem member)

/-! ### Around the agents -/

/-- A refused task finds a waiting task of its agent, and so a refused one further down. -/
theorem Deadlocked.blocks (rooted : Rooted (origins db.tasks)) (dead : Deadlocked db within)
    (slots : ∀ key policy, db.policies.get? key = some policy → 0 < policy.maxConcurrentTasks) {t : Nat}
    {task : TaskRow} (found : db.tasks.get? t = some task) (refused : Refused db within t) :
    ∃ q row, q ∈ within ∧ db.tasks.get? q = some row ∧ Refused db within q ∧
      Blocks db within task.agentId row.agentId := by
  obtain ⟨again, here, -, -, crowded, counted⟩ := refused
  obtain rfl := Option.some.inj (found.symm.trans here)
  obtain ⟨policy, known, full⟩ := atCapacity_iff.mp crowded
  obtain ⟨⟨key, row⟩, chosen, rfl⟩ := Option.map_eq_some_iff.mp known
  have slot := slots key row (Table.find?_some chosen).1
  obtain ⟨w, waiter, there, counts⟩ := Table.count_pos.mp (Nat.lt_of_lt_of_le slot full)
  simp only [Bool.and_eq_true, beq_iff_eq, bne_iff_ne] at counts
  obtain ⟨inside, waiting⟩ := counted w waiter there counts.1.2 counts.1.1 counts.2
  rcases dead.stuck w inside with ⟨same, twice, -, c, waits⟩ | ⟨same, twice, queued, -⟩
  · obtain ⟨q, chain, last, refused⟩ := dead.descends rooted waits.1
    obtain ⟨final, at?, rest⟩ := id refused
    exact ⟨q, final, last, at?, refused, w, waiter, q, final, inside, there, waiting, counts.1.1,
      .head' waits chain, refused, at?, rfl⟩
  · obtain rfl := Option.some.inj (there.symm.trans twice)
    rw [waiting] at queued
    cases queued

theorem Deadlocked.around (rooted : Rooted (origins db.tasks))
    (slots : ∀ key policy, db.policies.get? key = some policy → 0 < policy.maxConcurrentTasks)
    (dead : Deadlocked db within) : ∃ a, Relation.TransGen (Blocks db within) a a := by
  let agents : Set Nat := {a | ∃ q task, q ∈ within ∧ db.tasks.get? q = some task ∧ Refused db within q ∧ task.agentId = a}
  have finite : agents.Finite := by
    refine (List.finite_toSet (db.tasks.rows.map fun entry => entry.2.agentId)).subset ?_
    rintro a ⟨q, task, -, found, -, rfl⟩
    exact List.mem_map.mpr ⟨(q, task), Table.mem_rows_iff.mpr found, rfl⟩
  have nonempty : agents.Nonempty := by
    obtain ⟨t, member⟩ := dead.nonempty
    obtain ⟨q, -, last, refused⟩ := dead.descends rooted member
    obtain ⟨task, found, -⟩ := id refused
    exact ⟨task.agentId, q, task, last, found, refused, rfl⟩
  have onward : ∀ a ∈ agents, ∃ b ∈ agents, Blocks db within a b := by
    rintro a ⟨t, task, -, found, refused, rfl⟩
    obtain ⟨q, row, last, here, again, blocks⟩ := dead.blocks rooted slots found refused
    exact ⟨row.agentId, ⟨q, row, last, here, again, rfl⟩, blocks⟩
  obtain ⟨a, -, around⟩ := exists_cycle finite nonempty onward
  exact ⟨a, around⟩

/-- A standstill between waiting tasks and slots is a circle of at least two agents: each
has its slots taken by tasks that wait, through their children, for a slot of the next. -/
theorem deadlock_circular {start db : Db} (fresh : Fresh start) (run : Run Label.any start db)
    (slots : ∀ key policy, db.policies.get? key = some policy → 0 < policy.maxConcurrentTasks) {within : Set Nat}
    (dead : Deadlocked db within) :
    (∃ a, Relation.TransGen (Blocks db within) a a) ∧ ∀ a b, Blocks db within a b → a ≠ b := by
  have rooted := rooted_run fresh run
  exact ⟨dead.around rooted slots, fun _ _ blocks => blocks.differ rooted⟩

/-- Where no agent is reached from itself by delegation, nothing stands still. -/
theorem not_deadlocked_of_ranked {start : Db} (fresh : Fresh start) (run : Run Label.any start db)
    (slots : ∀ key policy, db.policies.get? key = some policy → 0 < policy.maxConcurrentTasks) (rank : Nat → Nat)
    (falls : ∀ t task c child, db.tasks.get? t = some task → db.tasks.get? c = some child →
      child.parentTaskId = some t → rank child.agentId < rank task.agentId) : ¬ Deadlocked db within := by
  have rooted := rooted_run fresh run
  have descent {t q : Nat} {task row : TaskRow} (found : db.tasks.get? t = some task)
      (chain : Relation.TransGen (Waits db within) t q) (here : db.tasks.get? q = some row) :
      rank row.agentId < rank task.agentId := by
    induction chain generalizing row with
    | single waits =>
      obtain ⟨-, child, there, up, -⟩ := waits
      obtain rfl := Option.some.inj (here.symm.trans there)
      exact falls t task _ row found here up
    | @tail p q earlier waits ih =>
      obtain ⟨-, child, there, up, -⟩ := waits
      obtain rfl := Option.some.inj (here.symm.trans there)
      obtain ⟨parent, above, known, -⟩ := waits_ancestry rooted found earlier
      have last := falls p parent q row known here up
      have before := ih known
      omega
  have lowers : ∀ a b, Relation.TransGen (Blocks db within) a b → rank b < rank a := by
    intro a b around
    induction around with
    | single blocks =>
      obtain ⟨w, waiter, q, task, -, found, -, rfl, chain, -, here, rfl⟩ := blocks
      exact descent found chain here
    | tail _ blocks ih =>
      obtain ⟨w, waiter, q, task, -, found, -, rfl, chain, -, here, rfl⟩ := blocks
      have last := descent found chain here
      omega
  intro dead
  obtain ⟨a, around⟩ := dead.around rooted slots
  have same := lowers a a around
  omega

/-! ### Two sessions in each other's way -/

/-- Two agents with one slot each hand a task to the other and wait. -/
def twoSessions : List (Env × Op) :=
  [(.bare, .createSession 0 (some "sum up") none none), (.bare, .createSession 1 (some "write") none none),
    (.bare, .dispatchTasks), (.bare, .claimOutbound none none), (.bare, .claimOutbound none none),
    (.bare, .completeOutbound 0 (some 200) (some (delegatesTo "writer"))),
    (.bare, .completeOutbound 1 (some 200) (some (delegatesTo "helper"))),
    (.bare, .dispatchTasks), (.bare, .claimOutbound none none), (.bare, .claimOutbound none none),
    (.bare, .completeOutbound 2 (some 200) (some awaitsChildren)),
    (.bare, .completeOutbound 3 (some 200) (some awaitsChildren))]

def waitsFor (db : Db) (t c : Nat) : Bool :=
  ((db.tasks.get? t).any fun task => task.status == .waitingChildren) &&
    (db.tasks.get? c).any fun child => child.parentTaskId == some t && !child.status.terminal

def passedOver (db : Db) (t : Nat) : Bool :=
  (db.tasks.get? t).any fun task => task.status == .queued && !db.hasOutstanding t && atCapacity db t task.agentId

theorem standstill_reached :
    ∃ db, Run Label.driven (pairDb (helperPolicy 5 none)) db ∧
      (∀ key policy, db.policies.get? key = some policy → 0 < policy.maxConcurrentTasks) ∧
      Deadlocked db {t | t < 4} := by
  obtain ⟨db, run, reached⟩ := run_reaching (show ((runAll Label.driven (pairDb (helperPolicy 5 none)) twoSessions).any
    fun db => waitsFor db 0 2 && waitsFor db 1 3 && passedOver db 2 && passedOver db 3 &&
      (db.tasks.rows.all fun entry => decide (entry.1 < 4) &&
        (!entry.2.status.active || entry.2.status == .waitingChildren)) &&
      db.policies.rows.all fun entry => decide (0 < entry.2.maxConcurrentTasks)) = true by decide +kernel)
  simp only [Bool.and_eq_true, List.all_eq_true, decide_eq_true_eq, Bool.or_eq_true, Bool.not_eq_true',
    beq_iff_eq] at reached
  obtain ⟨⟨⟨⟨⟨first, second⟩, third⟩, fourth⟩, active⟩, slots⟩ := reached
  have waiting {t c : Nat} (small : c < 4) (waits : waitsFor db t c = true) :
      ∃ task, db.tasks.get? t = some task ∧ task.status = .waitingChildren ∧ ∃ c, Waits db {t | t < 4} t c := by
    simp only [waitsFor, Bool.and_eq_true, Option.any_eq_true, beq_iff_eq, Bool.not_eq_true'] at waits
    obtain ⟨⟨task, found, status⟩, child, here, up, live⟩ := waits
    exact ⟨task, found, status, c, small, child, here, up, live⟩
  have refused {t : Nat} (passed : passedOver db t = true) : Refused db {t | t < 4} t := by
    simp only [passedOver, Bool.and_eq_true, Option.any_eq_true, beq_iff_eq, Bool.not_eq_true'] at passed
    obtain ⟨task, found, ⟨queued, free⟩, full⟩ := passed
    refine ⟨task, found, queued, free, full, fun other row here _ _ taken => ?_⟩
    obtain ⟨small, idle | waits⟩ := active (other, row) (Table.mem_rows_iff.mpr here)
    · rw [taken] at idle
      cases idle
    · exact ⟨small, waits⟩
  refine ⟨db, run, fun key policy found => slots (key, policy) (Table.mem_rows_iff.mpr found), ⟨0, ?_⟩, ?_⟩
  · exact Nat.zero_lt_succ 3
  · intro t small
    have small : t < 4 := small
    have t_cases : t = 0 ∨ t = 1 ∨ t = 2 ∨ t = 3 := by omega
    rcases t_cases with rfl | rfl | rfl | rfl
    · exact .inl (waiting (by omega) first)
    · exact .inl (waiting (by omega) second)
    · exact .inr (refused third)
    · exact .inr (refused fourth)

theorem not_deadlock_free :
    ¬ ∀ start db, Fresh start → Run Label.driven start db →
      (∀ key policy, db.policies.get? key = some policy → 0 < policy.maxConcurrentTasks) →
      ∀ within, ¬ Deadlocked db within := by
  intro free
  obtain ⟨db, run, slots, dead⟩ := standstill_reached
  exact free _ db (pairDb_fresh _) run slots _ dead

theorem deadlock_circular_sessions :
    ∃ db a, Run Label.any (pairDb (helperPolicy 5 none)) db ∧
      Relation.TransGen (Blocks db {t | t < 4}) a a ∧ ∀ a b, Blocks db {t | t < 4} a b → a ≠ b := by
  obtain ⟨db, run, slots, dead⟩ := standstill_reached
  have run : Run Label.any (pairDb (helperPolicy 5 none)) db := run.mono fun _ _ _ => rfl
  obtain ⟨⟨a, around⟩, differ⟩ := deadlock_circular (pairDb_fresh _) run slots dead
  exact ⟨db, a, run, around, differ⟩

end Allgres
