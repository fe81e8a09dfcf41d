import Allgres.Machine
import Allgres.Protocol.Fencing

/-! Outstanding calls: one for each task, and each of them answered at most once. -/

namespace Allgres

open Relational Jsonb Sql Runs

variable {db db' start : Db} {env : Env}

/-! ### One call at a time -/

/-- The rows of a queue that are queued or in flight for the task. -/
def outstandingRowsOf {β : Type} (calls : Table (CallRow β)) (t : Nat) : Nat :=
  calls.count fun _ call => call.taskId == t && call.status.outstanding

def Db.outstandingIn (db : Db) (t : Nat) : Queue → Nat
  | .outbound => outstandingRowsOf db.outboundCalls t
  | .sql => outstandingRowsOf db.sqlCalls t
  | .function => outstandingRowsOf db.functionCalls t
  | .procedure => outstandingRowsOf db.procedureCalls t

/-- The outstanding calls of the task, over the four queues together. -/
def Db.outstandingRows (db : Db) (t : Nat) : Nat :=
  db.outstandingIn t .outbound + db.outstandingIn t .sql + db.outstandingIn t .function +
    db.outstandingIn t .procedure

section Queue

variable {β : Type} {queue : Queue} {calls : Table (CallRow β)} {llm : β → Bool} {t : Nat}

/-- The calls of one queue, as the protocol sees them. -/
theorem holds_iff (seen : ∀ id, db.call (queue, id) = (calls.get? id).map (CallRow.view llm)) (id : Nat) :
    db.flow.Holds t (queue, id) ↔
      ∃ call, calls.get? id = some call ∧ (call.taskId == t && call.status.outstanding) = true := by
  unfold Flow.Holds
  rw [show db.flow.call (queue, id) = _ from seen id]
  simp only [Bool.and_eq_true, beq_iff_eq]
  constructor
  · rintro ⟨view, found, owner, outstanding⟩
    obtain ⟨call, row, rfl⟩ := Option.map_eq_some_iff.mp found
    exact ⟨call, row, owner, outstanding⟩
  · rintro ⟨call, row, owner, outstanding⟩
    exact ⟨call.view llm, by rw [row, Option.map_some], owner, outstanding⟩

theorem outstandingRowsOf_pos (seen : ∀ id, db.call (queue, id) = (calls.get? id).map (CallRow.view llm)) :
    0 < outstandingRowsOf calls t ↔ ∃ id, db.flow.Holds t (queue, id) := by
  simp only [outstandingRowsOf, Table.count_pos, holds_iff seen]

theorem outstandingRowsOf_le_one (seen : ∀ id, db.call (queue, id) = (calls.get? id).map (CallRow.view llm))
    (invariant : Flow.Calls db.flow) : outstandingRowsOf calls t ≤ 1 := by
  refine Table.count_le_one ?_
  intro id call id' call' found cond found' cond'
  have same := invariant.single t (queue, id) (queue, id') ((holds_iff seen id).mpr ⟨call, found, cond⟩)
    ((holds_iff seen id').mpr ⟨call', found', cond'⟩)
  exact congrArg Prod.snd same

end Queue

theorem outstandingIn_pos {t : Nat} (queue : Queue) :
    0 < db.outstandingIn t queue ↔ ∃ id, db.flow.Holds t (queue, id) := by
  cases queue with
  | outbound | sql | function | procedure => exact outstandingRowsOf_pos fun _ => rfl

theorem outstandingIn_le_one (invariant : Flow.Calls db.flow) (t : Nat) (queue : Queue) :
    db.outstandingIn t queue ≤ 1 := by
  cases queue with
  | outbound => exact outstandingRowsOf_le_one ((outbound_view db).call db.outboundCalls) invariant
  | sql => exact outstandingRowsOf_le_one ((sql_view db).call db.sqlCalls) invariant
  | function => exact outstandingRowsOf_le_one ((function_view db).call db.functionCalls) invariant
  | procedure => exact outstandingRowsOf_le_one ((procedure_view db).call db.procedureCalls) invariant

theorem outstandingRows_pos {t : Nat} : 0 < db.outstandingRows t ↔ ∃ k, db.flow.Holds t k := by
  simp only [Db.outstandingRows, Nat.add_pos_iff_pos_or_pos, outstandingIn_pos]
  constructor
  · rintro (((⟨id, held⟩ | ⟨id, held⟩) | ⟨id, held⟩) | ⟨id, held⟩)
    · exact ⟨_, held⟩
    · exact ⟨_, held⟩
    · exact ⟨_, held⟩
    · exact ⟨_, held⟩
  · rintro ⟨⟨queue, id⟩, held⟩
    cases queue with
    | outbound => exact .inl (.inl (.inl ⟨id, held⟩))
    | sql => exact .inl (.inl (.inr ⟨id, held⟩))
    | function => exact .inl (.inr ⟨id, held⟩)
    | procedure => exact .inr ⟨id, held⟩

theorem outstandingRows_le_one (invariant : Flow.Calls db.flow) (t : Nat) : db.outstandingRows t ≤ 1 := by
  have each := outstandingIn_le_one invariant t
  have apart {queue queue' : Queue} (different : queue ≠ queue') :
      ¬ (0 < db.outstandingIn t queue ∧ 0 < db.outstandingIn t queue') := by
    rw [outstandingIn_pos, outstandingIn_pos]
    rintro ⟨⟨id, held⟩, id', held'⟩
    exact different (congrArg Prod.fst (invariant.single t _ _ held held'))
  have outboundSql := apart (show Queue.outbound ≠ .sql by decide)
  have outboundFunction := apart (show Queue.outbound ≠ .function by decide)
  have outboundProcedure := apart (show Queue.outbound ≠ .procedure by decide)
  have sqlFunction := apart (show Queue.sql ≠ .function by decide)
  have sqlProcedure := apart (show Queue.sql ≠ .procedure by decide)
  have functionProcedure := apart (show Queue.function ≠ .procedure by decide)
  have outbound := each .outbound
  have sql := each .sql
  have function := each .function
  have procedure := each .procedure
  unfold Db.outstandingRows
  omega

theorem Fresh.calls_invariant (fresh : Fresh db) : Flow.Calls db.flow where
  owner k view found := by cases (fresh.calls k).symm.trans found
  single := by
    rintro t k k' ⟨view, found, -⟩
    cases (fresh.calls k).symm.trans found
  engaged := by
    rintro t k view ⟨call, found, -⟩
    cases (fresh.calls k).symm.trans found
  retired := by
    intro k member
    rw [show db.flow.submits = [] from fresh.submits] at member
    cases member
  once := by
    rw [show db.flow.submits = [] from fresh.submits]
    exact .nil

theorem calls_of_run {allowed : Label → Db → Bool}
    (driven : ∀ label db, allowed label db = true → label.driven db = true) (fresh : Fresh start)
    (run : Run allowed start db) : Flow.Calls db.flow := by
  refine flow_invariant Flow.Rests (fun _ _ _ => Flow.Move.calls) ?_ run fresh.calls_invariant
  intro label before event σ permitted
  exact Facts.rests (driven label before permitted)

/-- A task has at most one outstanding call in all, and none while it is queued or waits. -/
theorem single_outstanding_call (fresh : Fresh start) (run : Run Label.driven start db) (t : Nat) :
    db.outstandingRows t ≤ 1 ∧ (0 < db.outstandingRows t → ∃ task, db.tasks.get? t = some task ∧
      task.status ≠ .queued ∧ task.status ≠ .waitingHuman ∧ task.status ≠ .waitingChildren) := by
  have invariant := calls_of_run (fun _ _ => id) fresh run
  refine ⟨outstandingRows_le_one invariant t, ?_⟩
  intro some
  obtain ⟨k, held⟩ := outstandingRows_pos.mp some
  obtain ⟨call, found, rfl, outstanding⟩ := held
  rcases there : db.flow.task call.task with _ | view
  · exact absurd there (invariant.owner k call found)
  · have engaged := invariant.engaged call.task k view ⟨call, found, rfl, outstanding⟩ there
    obtain ⟨task, row, rfl⟩ := flow_task_some there
    have status : task.status = .running ∨ task.status.terminal = true := engaged
    refine ⟨task, row, ?_, ?_, ?_⟩
    all_goals
      intro same
      rw [same] at status
      simp [TaskStatus.terminal] at status

theorem single_outstanding_call_dispatched :
    ∃ db, Run Label.driven (helperDb (helperPolicy 5 none)) db ∧ 0 < db.outstandingRows 0 ∧ db.outstandingRows 0 ≤ 1 := by
  obtain ⟨db, run, asked⟩ := run_reaching (show ((runAll Label.driven (helperDb (helperPolicy 5 none))
    [(.bare, .createSession 0 (some "sum up") none none), (.bare, .dispatchTasks)]).any fun db =>
      decide (0 < db.outstandingRows 0)) = true by decide +kernel)
  exact ⟨db, run, of_decide_eq_true asked, (single_outstanding_call (helperDb_fresh _) run 0).1⟩

/-! ### Fences -/

/-- The status changes of a call. -/
inductive CallStatus.Edge : CallStatus → CallStatus → Prop
  | claimed : Edge .queued .inFlight
  | harvested : Edge .inFlight .harvested
  | reclaimed : Edge .inFlight .lost
  | dropped : Edge .queued .lost

theorem CallStatus.edges_of_onward {old new : CallStatus} (onward : old.onward new = true) :
    Relation.ReflTransGen Edge old new := by
  cases old <;> cases new <;> first
    | exact absurd onward (by decide)
    | exact .refl
    | exact .single Edge.claimed
    | exact .single Edge.harvested
    | exact .single Edge.reclaimed
    | exact .single Edge.dropped
    | exact .tail (.single Edge.claimed) Edge.harvested

theorem onward_of_run {allowed : Label → Db → Bool} (run : Run allowed db db') : Flow.Onward db.flow db'.flow := by
  refine run.relates (P := fun _ => True) (R := fun before after => Flow.Onward before.flow after.flow)
    (fun _ => .refl _) (fun _ _ _ => .trans) (fun _ _ _ _ _ _ => trivial) ?_ trivial
  intro label before after step _ _
  exact step.path.relates (P := fun _ => True) .refl (fun _ _ _ => .trans) (fun _ _ _ _ _ _ => trivial)
    (fun _ _ _ move _ _ => move.onward) trivial

/-- A completion whose call is not in flight any more changes no table. -/
structure LateChangesNothing (db : Db) : Prop where
  outbound : ∀ env callId status body call, db.outboundCalls.get? callId = some call → call.status ≠ .inFlight →
    ∃ reply, fnCompleteOutbound env db callId status body = .ok (reply, db)
  sql : ∀ env callId outcome call, db.sqlCalls.get? callId = some call → call.status ≠ .inFlight →
    ∃ reply, fnCompleteSql env db callId outcome = .ok (reply, db)
  function : ∀ env callId outcome call, db.functionCalls.get? callId = some call → call.status ≠ .inFlight →
    ∃ reply, fnCompleteFunctionCall env db callId outcome = .ok (reply, db)
  procedure : ∀ env callId outcome call, db.procedureCalls.get? callId = some call → call.status ≠ .inFlight →
    ∃ reply, fnCompleteProcedureCall env db callId outcome = .ok (reply, db)

theorem lateChangesNothing (db : Db) : LateChangesNothing db where
  outbound env callId status body call found late := by
    unfold fnCompleteOutbound
    rw [found]
    dsimp only
    rw [if_pos late]
    exact ⟨_, rfl⟩
  sql env callId outcome call found late := by
    unfold fnCompleteSql
    rw [found]
    dsimp only
    rw [if_pos late]
    exact ⟨_, rfl⟩
  function env callId outcome call found late := by
    unfold fnCompleteFunctionCall
    rw [found]
    dsimp only
    rw [if_pos late]
    exact ⟨_, rfl⟩
  procedure env callId outcome call found late := by
    unfold fnCompleteProcedureCall
    rw [found]
    dsimp only
    rw [if_pos late]
    exact ⟨_, rfl⟩

/-- What a claim hands to a worker belongs to a running task. -/
structure ClaimsForRunning (db : Db) : Prop where
  outbound : ∀ env limit fallback claimed, claimed ∈ (fnClaimOutbound env db limit fallback).1 →
    db.isRunning claimed.call.taskId = true
  sql : ∀ env limit claimed, claimed ∈ (fnClaimSql env db limit).1 → db.isRunning claimed.2.taskId = true
  function : ∀ env limit claimed, claimed ∈ (fnClaimFunctionCalls env db limit).1 →
    db.isRunning claimed.2.taskId = true
  procedure : ∀ env limit claimed, claimed ∈ (fnClaimProcedureCalls env db limit).1 →
    db.isRunning claimed.2.taskId = true

theorem claimsForRunning (db : Db) : ClaimsForRunning db where
  outbound env limit fallback claimed member := by
    obtain ⟨entry, listed, rfl⟩ := List.mem_map.mp member
    exact (mem_claimable listed).2.2
  sql env limit claimed member := by
    dsimp only [fnClaimSql] at member
    exact (mem_claimable member).2.2
  function env limit claimed member := by
    dsimp only [fnClaimFunctionCalls] at member
    exact (mem_claimable member).2.2
  procedure env limit claimed member := by
    dsimp only [fnClaimProcedureCalls] at member
    exact (mem_claimable member).2.2

/-- Whatever the order of claims, completions, sweeps and cancellations: calls
only move forward and are answered at most once. -/
theorem calls_fenced (fresh : Fresh start) (run : Run Label.driven start db) :
    (∀ db', Run Label.driven db db' → ∀ k call, db.call k = some call →
      ∃ later, db'.call k = some later ∧ later.task = call.task ∧
        Relation.ReflTransGen CallStatus.Edge call.status later.status) ∧
    db.submits.Nodup ∧ LateChangesNothing db ∧ ClaimsForRunning db := by
  refine ⟨?_, (calls_of_run (fun _ _ => id) fresh run).once, lateChangesNothing db, claimsForRunning db⟩
  intro db' after k call found
  obtain ⟨later, there, task, -, onward⟩ := onward_of_run after k call found
  exact ⟨later, there, task, CallStatus.edges_of_onward onward⟩

theorem calls_fenced_completed :
    ∃ db, Run Label.driven (helperDb (helperPolicy 5 none)) db ∧ db.submits = [(.outbound, 0)] ∧ db.submits.Nodup := by
  obtain ⟨db, run, once⟩ := run_reaching (show ((runAll Label.driven (helperDb (helperPolicy 5 none))
    [(.bare, .createSession 0 (some "sum up") none none), (.bare, .dispatchTasks), (.bare, .claimOutbound none none),
      (.bare, .completeOutbound 0 (some 200) (some "no answer"))]).any fun db =>
      decide (db.submits = [(.outbound, 0)])) = true by decide +kernel)
  exact ⟨db, run, of_decide_eq_true once, (calls_fenced (helperDb_fresh _) run).2.1⟩

end Allgres
