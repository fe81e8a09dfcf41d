import Allgres.Refine.References
import Allgres.Safety.Capacity

/-! A running task keeps the slot it has, as long as its agent has not more
active tasks than slots. -/

namespace Allgres

open Relational Jsonb Sql Runs

variable {db db' : Db} {env : Env} {pending : List (Nat × TaskRow)}

/-- The loop of `fn_dispatch_tasks` without its limit, and the tasks it calls `fn_next_step` for. -/
def dispatchUnlimited (env : Env) : List (Nat × TaskRow) → Db → Except String (List Nat × Db)
  | [], db => .ok ([], db)
  | (t, task) :: rest, db =>
    match dispatchTask env db t task.agentId with
    | .error message => .error message
    | .ok (_, next) =>
      match dispatchUnlimited env rest next with
      | .error message => .error message
      | .ok (stepped, last) => .ok (if atCapacity db t task.agentId then stepped else t :: stepped, last)

/-- Below its limit the loop is the unlimited one. -/
theorem dispatchLoop_unlimited (state : Dispatched) {out : Dispatched}
    (done : dispatchLoop env pending state = .ok out) (few : out.calls.length < 4) :
    ∃ stepped, dispatchUnlimited env pending state.db = .ok (stepped, out.db) := by
  induction pending generalizing state with
  | nil =>
    obtain rfl := Except.ok.inj done
    exact ⟨[], rfl⟩
  | cons entry rest ih =>
    simp only [dispatchLoop] at done
    simp only [dispatchUnlimited]
    split at done
    · cases done
    · rename_i next passed
      obtain ⟨stepped, onward⟩ := ih _ done
      rw [passed]
      dsimp only at onward ⊢
      rw [onward]
      exact ⟨_, rfl⟩
    · rename_i call next passed
      split at done
      · rename_i many
        obtain rfl := Except.ok.inj done
        exact absurd few (Nat.not_lt.mpr many)
      · obtain ⟨stepped, onward⟩ := ih _ done
        rw [passed]
        dsimp only at onward ⊢
        rw [onward]
        exact ⟨_, rfl⟩

/-! ### What is still to be dispatched -/

/-- The candidates that the loop has not reached are as they were found. -/
structure Awaiting (db : Db) (pending : List (Nat × TaskRow)) : Prop where
  nodup : (pending.map Prod.fst).Nodup
  rows : ∀ entry ∈ pending, db.tasks.get? entry.1 = some entry.2
  free : ∀ entry ∈ pending, db.flow.Free entry.1
  named : ∀ entry ∈ pending, Referenced db entry.2

theorem Awaiting.next {t : Nat} {task : TaskRow} {call : Option Nat} (awaiting : Awaiting db ((t, task) :: pending))
    (done : dispatchTask env db t task.agentId = .ok (call, db')) :
    Awaiting db' pending ∧ Passes t db db' := by
  have found := awaiting.rows (t, task) List.mem_cons_self
  have free := awaiting.free (t, task) List.mem_cons_self
  have named := awaiting.named (t, task) List.mem_cons_self
  have passes : Passes t db db' := (dispatchTask_path found free done).2
  have anchored := dispatchTask_anchored found named done
  have nodup := List.nodup_cons.mp (show (t :: pending.map Prod.fst).Nodup from awaiting.nodup)
  have apart : ∀ entry ∈ pending, entry.1 ≠ t := by
    intro entry member same
    have listed := List.mem_map_of_mem (f := Prod.fst) member
    rw [same] at listed
    exact nodup.1 listed
  refine ⟨⟨nodup.2, ?_, ?_, ?_⟩, passes⟩
  · intro entry member
    exact passes.rows _ _ (apart entry member) (awaiting.rows entry (List.mem_cons_of_mem _ member))
  · intro entry member
    exact passes.free _ (apart entry member) (awaiting.free entry (List.mem_cons_of_mem _ member))
  · intro entry member
    exact (awaiting.named entry (List.mem_cons_of_mem _ member)).after anchored

theorem dispatchUnlimited_returns (env : Env) (awaiting : Awaiting db pending) :
    ∃ stepped last, dispatchUnlimited env pending db = .ok (stepped, last) := by
  induction pending generalizing db with
  | nil => exact ⟨[], db, rfl⟩
  | cons entry rest ih =>
    obtain ⟨t, task⟩ := entry
    obtain ⟨call, next, passed⟩ := dispatchTask_returns env task.agentId
      (awaiting.rows (t, task) List.mem_cons_self) (awaiting.named (t, task) List.mem_cons_self)
    obtain ⟨stepped, last, onward⟩ := ih (awaiting.next passed).1
    simp only [dispatchUnlimited, passed, onward]
    exact ⟨_, _, rfl⟩

theorem dispatchable_awaiting (named : ∀ t task, db.tasks.get? t = some task → Referenced db task) :
    Awaiting db (dispatchable db) := by
  have chosen : ∀ entry ∈ dispatchable db, db.tasks.get? entry.1 = some entry.2 ∧ db.hasOutstanding entry.1 = false := by
    intro entry member
    obtain ⟨found, ready⟩ := Table.mem_select.mp ((List.mem_insertionSort _).mp member)
    simp only [Bool.and_eq_true, Bool.not_eq_true'] at ready
    exact ⟨found, ready.2⟩
  constructor
  · have sorted : (dispatchable db).Perm (db.tasks.select fun t task =>
        (task.status == .queued || task.status == .running) && !db.hasOutstanding t) := List.perm_insertionSort _ _
    exact (sorted.map Prod.fst).nodup_iff.mpr (Table.select_keys_nodup _ _)
  · exact fun entry member => (chosen entry member).1
  · exact fun entry member => free_of_hasOutstanding (chosen entry member).2
  · exact fun entry member => named entry.1 entry.2 (chosen entry member).1

/-! ### The agent's slots during a dispatch -/

/-- An agent with at most as many active tasks as slots keeps it so. -/
theorem dispatchTask_activeTasks_le {t a cap : Nat} {task : TaskRow} {call : Option Nat} {policy : PolicyRow}
    (found : db.tasks.get? t = some task) (known : db.policyOf a = some policy)
    (slots : policy.maxConcurrentTasks = cap) (fits : activeTasks db.tasks a ≤ cap)
    (done : dispatchTask env db t task.agentId = .ok (call, db')) : activeTasks db'.tasks a ≤ cap := by
  rcases stepping_dispatchTask done with ⟨-, rfl⟩ | ⟨free, writes⟩
  · exact fits
  · refine writes.invariant (P := fun σ : Core => activeTasks σ.tasks a ≤ cap) ?_ fits
    intro mark σ σ' write stepping held
    rcases write.activeTasks_le a with fewer | ⟨other, row, rfl, here, own, idle, more⟩
    · omega
    · -- The task starts in the tables that the count was taken of.
      obtain ⟨rfl, rfl⟩ := stepping
      obtain rfl : task = row := Option.some.inj (found.symm.trans here)
      have split := others_add found
      rw [if_neg (by simp [idle]), own] at split
      have room : ¬ policy.maxConcurrentTasks ≤ activeTasks db.tasks a := by
        intro crowded
        rw [own, atCapacity_iff.mpr ⟨policy, known, by rw [← split] at crowded; exact crowded⟩] at free
        cases free
      have before : activeTasks db.core.tasks a = activeTasks db.tasks a := rfl
      omega

/-- The turns of other agents take no active task away. -/
theorem Passes.activeTasks_ge {t a : Nat} {task : TaskRow} (passes : Passes t db db')
    (found : db.tasks.get? t = some task) (other : task.agentId ≠ a) :
    activeTasks db.tasks a ≤ activeTasks db'.tasks a := by
  refine Table.count_le_count ?_
  intro key row here counts
  have different : key ≠ t := by
    rintro rfl
    obtain rfl := Option.some.inj (found.symm.trans here)
    simp [other] at counts
  exact ⟨row, passes.rows key row different here, counts⟩

/-- A running task, with no call under way, of the agent. -/
def HoldsSlot (db : Db) (a t : Nat) : Prop :=
  ∃ task, db.tasks.get? t = some task ∧ task.agentId = a ∧ task.status = .running ∧ db.hasOutstanding t = false

theorem dispatchUnlimited_continues {a t : Nat} {task : TaskRow} (awaiting : Awaiting db pending)
    (fits : ∀ policy, db.policyOf a = some policy → activeTasks db.tasks a ≤ policy.maxConcurrentTasks)
    (member : (t, task) ∈ pending) (own : task.agentId = a) (running : task.status = .running) :
    ∃ stepped last, dispatchUnlimited env pending db = .ok (stepped, last) ∧
      ∃ t ∈ stepped, ∃ task, (t, task) ∈ pending ∧ task.agentId = a ∧ task.status = .running := by
  induction pending generalizing db with
  | nil => cases member
  | cons entry rest ih =>
    obtain ⟨first, row⟩ := entry
    have found : db.tasks.get? first = some row := awaiting.rows (first, row) List.mem_cons_self
    obtain ⟨call, next, passed⟩ := dispatchTask_returns env row.agentId found
      (awaiting.named (first, row) List.mem_cons_self)
    obtain ⟨after, passes⟩ := awaiting.next passed
    by_cases candidate : row.agentId = a ∧ row.status = .running
    · obtain ⟨stepped, last, onward⟩ := dispatchUnlimited_returns env after
      have free : atCapacity db first row.agentId = false := by
        by_contra crowded
        obtain ⟨policy, known, full⟩ := atCapacity_iff.mp (Bool.of_not_eq_false crowded)
        have split := others_add found
        have cap := fits policy (candidate.1 ▸ known)
        rw [if_pos (by rw [candidate.2]; rfl), candidate.1] at split
        rw [candidate.1] at full
        omega
      simp only [dispatchUnlimited, passed, onward, free]
      exact ⟨_, _, rfl, first, List.mem_cons_self, row, List.mem_cons_self, candidate⟩
    · have later : (t, task) ∈ rest := by
        rcases List.mem_cons.mp member with same | later
        · obtain ⟨rfl, rfl⟩ := Prod.mk.inj same
          exact absurd ⟨own, running⟩ candidate
        · exact later
      have still : ∀ policy, next.policyOf a = some policy → activeTasks next.tasks a ≤ policy.maxConcurrentTasks := by
        intro policy known
        rw [Db.policyOf, passes.policies] at known
        exact dispatchTask_activeTasks_le found known rfl (fits policy known) passed
      obtain ⟨stepped, last, onward, other, listed, task', member', own'⟩ := ih after still later
      simp only [dispatchUnlimited, passed, onward]
      refine ⟨_, _, rfl, other, ?_, task', List.mem_cons_of_mem _ member', own'⟩
      split
      · exact listed
      · exact List.mem_cons_of_mem _ listed

theorem dispatchUnlimited_frozen {a : Nat} {policy : PolicyRow} {stepped : List Nat} {last : Db}
    (awaiting : Awaiting db pending) (known : db.policyOf a = some policy)
    (excess : policy.maxConcurrentTasks < activeTasks db.tasks a)
    (done : dispatchUnlimited env pending db = .ok (stepped, last)) :
    ∀ t ∈ stepped, ∃ task, (t, task) ∈ pending ∧ task.agentId ≠ a := by
  induction pending generalizing db stepped with
  | nil =>
    obtain ⟨rfl, -⟩ := Prod.mk.inj (Except.ok.inj done)
    intro t none
    cases none
  | cons entry rest ih =>
    obtain ⟨first, row⟩ := entry
    have found : db.tasks.get? first = some row := awaiting.rows (first, row) List.mem_cons_self
    simp only [dispatchUnlimited] at done
    split at done
    · cases done
    · rename_i call next passed
      obtain ⟨after, passes⟩ := awaiting.next passed
      split at done
      · cases done
      · rename_i others final onward
        obtain ⟨rfl, rfl⟩ := Prod.mk.inj (Except.ok.inj done)
        have policies : next.policyOf a = some policy := by rw [Db.policyOf, passes.policies]; exact known
        by_cases own : row.agentId = a
        · have full : atCapacity db first row.agentId = true := by
            refine atCapacity_iff.mpr ⟨policy, own ▸ known, ?_⟩
            have split := others_add found
            rw [own] at split ⊢
            split_ifs at split <;> omega
          have same : next = db := by
            rcases stepping_dispatchTask passed with ⟨-, same⟩ | ⟨free, -⟩
            · exact same
            · rw [full] at free
              cases free
          subst same
          rw [if_pos full]
          intro t listed
          obtain ⟨task, member, other⟩ := ih after known excess onward t listed
          exact ⟨task, List.mem_cons_of_mem _ member, other⟩
        · have more := passes.activeTasks_ge found own
          have rest := ih after policies (by omega) onward
          intro t listed
          have either : t = first ∨ t ∈ others := by
            split at listed
            · exact .inr listed
            · exact List.mem_cons.mp listed
          rcases either with rfl | later
          · exact ⟨row, List.mem_cons_self, own⟩
          · obtain ⟨task, member, other⟩ := rest t later
            exact ⟨task, List.mem_cons_of_mem _ member, other⟩

/-- A dispatch goes on with a running task of the agent exactly if the agent has not more
active tasks than its policy has slots. -/
theorem held_slot_continues_iff {a : Nat} (named : ∀ t task, db.tasks.get? t = some task → Referenced db task)
    (held : ∃ t, HoldsSlot db a t) :
    (∃ stepped last, dispatchUnlimited env (dispatchable db) db = .ok (stepped, last) ∧
        ∃ t ∈ stepped, HoldsSlot db a t) ↔
      ∀ policy, db.policyOf a = some policy → activeTasks db.tasks a ≤ policy.maxConcurrentTasks := by
  have awaiting := dispatchable_awaiting named
  constructor
  · rintro ⟨stepped, last, done, t, listed, row, here, own, -⟩ policy known
    by_contra excess
    obtain ⟨task, member, other⟩ := dispatchUnlimited_frozen awaiting known (by omega) done t listed
    obtain rfl := Option.some.inj (here.symm.trans (awaiting.rows _ member))
    exact other own
  · intro fits
    obtain ⟨t, task, found, own, running, free⟩ := held
    have member : (t, task) ∈ dispatchable db := by
      refine (List.mem_insertionSort _).mpr (Table.mem_select.mpr ⟨found, ?_⟩)
      simp [running, free]
    obtain ⟨stepped, last, done, next, listed, row, chosen, agent, still⟩ :=
      dispatchUnlimited_continues awaiting fits member own running
    refine ⟨stepped, last, done, next, listed, row, awaiting.rows _ chosen, agent, still, ?_⟩
    have ready := (Table.mem_select.mp ((List.mem_insertionSort _).mp chosen)).2
    simp only [Bool.and_eq_true, Bool.not_eq_true'] at ready
    exact ready.2

theorem held_slot_continues_iff_retry :
    ∃ db, Run Label.any (helperDb (helperPolicy 5 none)) db ∧
      ∃ stepped last, dispatchUnlimited .bare (dispatchable db) db = .ok (stepped, last) ∧
        ∃ t ∈ stepped, HoldsSlot db 0 t := by
  obtain ⟨db, run, started⟩ := run_reaching (show ((runAll Label.any (helperDb (helperPolicy 5 none))
    [(.bare, .createSession 0 (some "sum up") none none), (.bare, .dispatchTasks), (.bare, .claimOutbound none none),
      (.bare, .completeOutbound 0 (some 200) (some "hm"))]).any fun db =>
    (db.logs.all fun log => log.role != .function) &&
      (db.tasks.rows.all fun entry => entry.2.functionOverrideState.isNone) &&
      ((db.tasks.get? 0).any fun task => task.agentId == 0 && task.status == .running && !db.hasOutstanding 0) &&
      (db.policyOf 0).all fun policy => decide (activeTasks db.tasks 0 ≤ policy.maxConcurrentTasks)) = true by
    decide +kernel)
  simp only [Bool.and_eq_true, List.all_eq_true, Option.any_eq_true, Option.all_eq_true, beq_iff_eq, bne_iff_ne,
    Bool.not_eq_true', decide_eq_true_eq] at started
  obtain ⟨⟨⟨logs, unfrozen⟩, task, found, ⟨own, running⟩, free⟩, fits⟩ := started
  have named : ∀ t task, db.tasks.get? t = some task → Referenced db task := by
    intro t task here
    have none := Option.isNone_iff_eq_none.mp (unfrozen (t, task) (Table.mem_rows_iff.mpr here))
    refine ⟨fun log member role => absurd role (logs log member), fun log member role =>
      absurd role (logs log member), fun state held => ?_⟩
    rw [none] at held
    cases held
  exact ⟨db, run, (held_slot_continues_iff named ⟨0, task, found, own, running, free⟩).mpr fits⟩

/-! ### A lowered cap -/

/-- `fn_set_policy` with no argument but `p_max_concurrent_tasks`. -/
def fnSetPolicySlots (db : Db) (agentId slots : Nat) : Except String Db :=
  match db.policyOf agentId with
  | none => .error "policy not found"
  | some policy =>
    if slots = policy.maxConcurrentTasks then .ok db
    else if db.policyHistory.exists? fun _ old =>
        old.policy.agentId == agentId && old.policy.generation == policy.generation then
      .error "duplicate key value violates unique constraint \"policy_history_agent_id_generation_key\""
    else
      let rate := agentSuccessRateForGeneration db agentId policy.generation 20
      let db := { db with
        policyHistory := db.policyHistory.insert ⟨policy, rate⟩
        policies := db.policies.update (fun _ row => row.agentId == agentId) fun _ row =>
          { row with maxConcurrentTasks := slots, generation := row.generation + 1 } }
      .ok (db.audit "agents.update" (.build [("agent_id", idJson agentId), ("field", .str "policy"),
        ("generation", .ofNat (policy.generation + 1)), ("llm_config", policy.llmConfig),
        ("max_steps", .ofNat policy.maxSteps), ("max_retries", .ofNat policy.maxRetries),
        ("max_concurrent_tasks", .ofNat slots), ("max_turn_seconds", .ofOption .ofNat policy.maxTurnSeconds),
        ("max_delegation_depth", .ofNat policy.maxDelegationDepth),
        ("max_session_tasks", .ofNat policy.maxSessionTasks)]))

theorem fnSetPolicySlots_quiet {agentId slots : Nat} (done : fnSetPolicySlots db agentId slots = .ok db') :
    Quiet db db' := by
  unfold fnSetPolicySlots at done
  split at done
  · cases done
  · split_ifs at done
    · obtain rfl := Except.ok.inj done
      exact .refl db
    · obtain rfl := Except.ok.inj done
      exact ⟨rfl, rfl⟩

/-- Two tasks run and wait for their next turn; then the agent's slots are cut to one. -/
theorem not_held_slot_continues :
    ¬ ∀ start db, Fresh start → Run Label.any start db → ∀ env a, (∃ t, HoldsSlot db a t) →
      ∃ stepped last, dispatchUnlimited env (dispatchable db) db = .ok (stepped, last) ∧
        ∃ t ∈ stepped, HoldsSlot db a t := by
  intro continues
  let idle (db : Db) : Bool := (dispatchUnlimited .bare (dispatchable db) db).toOption.any fun out => out.1 == []
  let held (db : Db) : Bool := (db.tasks.get? 0).any fun task =>
    task.agentId == 0 && task.status == .running && !db.hasOutstanding 0
  obtain ⟨db, run, started⟩ := run_reaching (show ((runAll Label.any
    (helperDb { helperPolicy 5 none with maxConcurrentTasks := 2 })
    [(.bare, .createSession 0 (some "sum up") none none), (.bare, .createSession 0 (some "again") none none),
      (.bare, .dispatchTasks), (.bare, .claimOutbound none none), (.bare, .claimOutbound none none),
      (.bare, .completeOutbound 0 (some 200) (some "hm")), (.bare, .completeOutbound 1 (some 200) (some "hm"))]).any
    fun db => (fnSetPolicySlots db 0 1).toOption.any fun db => idle db && held db) = true by decide +kernel)
  rw [Option.any_eq_true] at started
  obtain ⟨cut, lowered, stuck⟩ := started
  have edited : fnSetPolicySlots db 0 1 = .ok cut := by
    cases done : fnSetPolicySlots db 0 1 with
    | error message => simp [done, Except.toOption] at lowered
    | ok out => simpa [done, Except.toOption] using lowered
  simp only [Bool.and_eq_true, idle, held, Option.any_eq_true, beq_iff_eq, Bool.not_eq_true'] at stuck
  obtain ⟨⟨⟨stepped, last⟩, dispatched, rfl⟩, task, found, ⟨own, running⟩, free⟩ := stuck
  obtain ⟨again, final, done, t, listed, -⟩ := continues _ cut (helperDb_fresh _)
    (.step run (.configure (fnSetPolicySlots_quiet edited)) rfl) .bare 0 ⟨0, task, found, own, running, free⟩
  rw [done] at dispatched
  obtain rfl : again = [] := congrArg Prod.fst (Option.some.inj dispatched)
  cases listed

end Allgres
