import Allgres.Protocol.Calls
import Allgres.Refine.NextStep

namespace Allgres

open Relational Jsonb Sql Runs

variable {db db' : Db} {env : Env}

/-! ### Reported errors -/

theorem errorPayload_type (error : String) : (errorPayload error).getText? "type" = some "error" := rfl

theorem submitError_spares (turn : Turn) (payload : Json) :
    Spares (· ≠ turn.taskId) db (submitError env db turn payload).2 := by
  have counted : Spares (· ≠ turn.taskId) db ((turn.log env db .error
      (.build [("message", .str ((payload.getText? "message").getD "error"))])).bumpStep env turn.taskId) :=
    (Spares.refl _ db).logged.trans (updateTask_spares turn.taskId _)
  unfold submitError
  dsimp only
  split
  · refine .trans ?_ ((maybeCompleteSession_spares turn.task.sessionId).mono fun _ _ => trivial)
    exact counted.trans (updateTask_spares turn.taskId _)
  · exact counted

/-- A running task accepts an error, and nothing else is touched. -/
theorem fnSubmitResult_error (env : Env) {t : Nat} {task : TaskRow} (found : db.tasks.get? t = some task)
    (running : task.status = .running) (error : String) :
    ∃ reply db', fnSubmitResult env db t (errorPayload error) = .ok (reply, db') ∧ Spares (· ≠ t) db db' := by
  unfold fnSubmitResult
  rw [found]
  dsimp only
  rw [if_neg (not_not.mpr running)]
  split
  · exact ⟨_, _, rfl, failTask_spares t task _ _⟩
  · unfold submitPayload
    rw [errorPayload_type]
    exact ⟨_, _, rfl, submitError_spares ⟨t, task, _, _⟩ _⟩

theorem fnSubmitResult_running {t : Nat} {payload reply : Json}
    (done : fnSubmitResult env db t payload = .ok (reply, db')) :
    ∃ task, db.tasks.get? t = some task ∧ task.status = .running :=
  have ⟨task, found, running, _⟩ := fnSubmitResult_effect done
  ⟨task, found, running⟩

theorem fnSubmitResult_error_spares {t : Nat} {error : String} {reply : Json}
    (done : fnSubmitResult env db t (errorPayload error) = .ok (reply, db')) : Spares (· ≠ t) db db' := by
  obtain ⟨task, found, running⟩ := fnSubmitResult_running done
  obtain ⟨_, _, again, spares⟩ := fnSubmitResult_error env found running error
  rw [done] at again
  obtain ⟨-, rfl⟩ := Prod.mk.inj (Except.ok.inj again)
  exact spares

theorem fnSubmitResult_report {t : Nat} {payload reply : Json}
    (done : fnSubmitResult env db t payload = .ok (reply, db')) : Flow.Move (.report t) db.flow db'.flow := by
  obtain ⟨task, found, running, effect⟩ := fnSubmitResult_effect done
  exact .report t (flow_task found) running effect

/-! ### One task -/

/-- `limit` is the `max_steps` of the task's agent. -/
def Db.StepLimit (db : Db) (t limit : Nat) : Prop :=
  ∃ task policy, db.tasks.get? t = some task ∧ db.policyOf task.agentId = some policy ∧ policy.maxSteps = limit

/-- The moves of a dispatch: the tasks that report have no outstanding call,
and the limits are those of `db`. -/
def Dispatching (db : Db) : Flow.Event → Flow Left → Prop
  | .plain, _ => True
  | .report t, σ => σ.Free t
  | .dispatch t limit, _ => db.StepLimit t limit
  | _, _ => False

/-- The same for the moves of one task, whose row is `task`. -/
def DispatchingOne (db : Db) (t : Nat) (task : TaskRow) : Flow.Event → Flow Left → Prop
  | .plain, _ => True
  | .report other, σ => other = t ∧ σ.Free t
  | .dispatch other limit, _ => other = t ∧ ∃ policy, db.policyOf task.agentId = some policy ∧ policy.maxSteps = limit
  | _, _ => False

theorem Spares.free {spared : Nat → Prop} {t : Nat} (spares : Spares spared db db') (free : db.flow.Free t) :
    db'.flow.Free t :=
  Flow.Free.congr free spares.call

theorem DispatchingOne.of_plain {t : Nat} {task : TaskRow} {event : Flow.Event} {σ : Flow Left}
    (plain : Plain event σ) : DispatchingOne db t task event σ := by
  rw [show event = .plain from plain]
  trivial

theorem DispatchingOne.of_reporting {t : Nat} {task : TaskRow} (free : db.flow.Free t) {event : Flow.Event}
    {σ : Flow Left} (reporting : Reporting t db event σ) : DispatchingOne db t task event σ := by
  cases event with
  | plain => trivial
  | report other => exact ⟨reporting.1, Flow.Free.congr free reporting.2⟩
  | dispatch | swallow | timeout | cancel => exact reporting.elim

/-- One pass of the loop leaves the other tasks as they are. -/
structure Passes (t : Nat) (db db' : Db) : Prop where
  rows : ∀ other task, other ≠ t → db.tasks.get? other = some task → db'.tasks.get? other = some task
  free : ∀ other, other ≠ t → db.flow.Free other → db'.flow.Free other
  policies : db'.policies = db.policies

theorem Spares.passes {t : Nat} (spares : Spares (· ≠ t) db db') : Passes t db db' :=
  ⟨spares.rows, fun _ _ => spares.free, spares.policies⟩

theorem queueLlm_passes {t : Nat} (spares : Spares (· ≠ t) db db') (http : LlmHttp) :
    Passes t db (queueLlm env db' t http) where
  rows := spares.rows
  free := by
    intro other different free k view found owner
    rw [queueLlm, flow_insertOutbound] at found
    by_cases new : k = (.outbound, db'.outboundCalls.next)
    · subst new
      simp only [Flow.addCall, Function.update_self, Option.some.injEq] at found
      subst found
      exact absurd owner.symm different
    · simp only [Flow.addCall, Function.update_of_ne new] at found
      exact spares.free free k view found owner
  policies := spares.policies

theorem dispatchTask_path {t agentId : Nat} {task : TaskRow} {call : Option Nat} (found : db.tasks.get? t = some task)
    (free : db.flow.Free t) (done : dispatchTask env db t agentId = .ok (call, db')) :
    Path Flow.Move (DispatchingOne db t task) db.flow db'.flow ∧ Passes t db db' := by
  unfold dispatchTask at done
  split at done
  · obtain ⟨-, rfl⟩ := Prod.mk.inj (Except.ok.inj done)
    exact ⟨.refl, (Spares.refl _ db).passes⟩
  · split at done
    · rename_i error _
      obtain ⟨-, rfl⟩ := Prod.mk.inj (Except.ok.inj done)
      unfold reportFailure
      split
      · exact ⟨.refl, (Spares.refl _ db).passes⟩
      · rename_i reported
        exact ⟨.single (fnSubmitResult_report reported) ⟨rfl, free⟩, (fnSubmitResult_error_spares reported).passes⟩
    · rename_i stepped
      obtain ⟨-, rfl⟩ := Prod.mk.inj (Except.ok.inj done)
      obtain ⟨path, spares⟩ := fnNextStep_done stepped
      exact ⟨path.mono fun _ _ => DispatchingOne.of_reporting free, spares.passes⟩
    · rename_i spec asked stepped
      obtain ⟨path, spares, row, policy, same, known, below, now⟩ := fnNextStep_callLlm stepped
      obtain rfl := Option.some.inj (found.symm.trans same)
      have start : Path Flow.Move (DispatchingOne db t task) db.flow asked.flow :=
        path.mono fun _ _ => DispatchingOne.of_plain
      split at done
      · split at done
        · cases done
        · rename_i reported
          obtain ⟨-, rfl⟩ := Prod.mk.inj (Except.ok.inj done)
          exact ⟨.step start (fnSubmitResult_report reported) ⟨rfl, spares.free free⟩,
            (spares.trans (fnSubmitResult_error_spares reported)).passes⟩
      · rename_i http _
        split at done
        · obtain ⟨-, rfl⟩ := Prod.mk.inj (Except.ok.inj done)
          have queued : Flow.Move (.dispatch t policy.maxSteps) asked.flow (queueLlm env asked t http).flow := by
            rw [queueLlm, flow_insertOutbound]
            exact .dispatch t _ _ now rfl (spares.free free) below (flow_call_next .outbound)
          exact ⟨.step start queued ⟨rfl, policy, known, rfl⟩, queueLlm_passes spares http⟩
        · cases done

/-! ### The loop -/

theorem dispatchLoop_path {start : Db} {out : Dispatched} (pending : List (Nat × TaskRow)) (state : Dispatched)
    (nodup : (pending.map Prod.fst).Nodup)
    (waits : ∀ entry ∈ pending, start.tasks.get? entry.1 = some entry.2 ∧ state.db.tasks.get? entry.1 = some entry.2 ∧
      state.db.flow.Free entry.1)
    (policies : state.db.policies = start.policies) (done : dispatchLoop env pending state = .ok out) :
    Path Flow.Move (Dispatching start) state.db.flow out.db.flow := by
  induction pending generalizing state with
  | nil =>
    obtain rfl := Except.ok.inj done
    exact .refl
  | cons entry rest ih =>
    obtain ⟨t, task⟩ := entry
    obtain ⟨first, now, free⟩ := waits (t, task) List.mem_cons_self
    have apart : ∀ other ∈ rest, other.1 ≠ t := by
      intro other member same
      have listed := List.mem_map_of_mem (f := Prod.fst) member
      rw [same] at listed
      exact (List.nodup_cons.mp nodup).1 listed
    have known : ∀ event σ, DispatchingOne state.db t task event σ → Dispatching start event σ := by
      intro event σ one
      cases event with
      | plain => trivial
      | report other => exact one.1 ▸ one.2
      | dispatch other limit =>
        obtain ⟨rfl, policy, found, bound⟩ := one
        refine ⟨task, policy, first, ?_, bound⟩
        rw [← found, Db.policyOf, Db.policyOf, policies]
      | swallow | timeout | cancel => exact one.elim
    simp only [dispatchLoop] at done
    split at done
    · cases done
    · rename_i passed
      obtain ⟨path, passes⟩ := dispatchTask_path now free passed
      refine (path.mono known).trans (ih _ (List.nodup_cons.mp nodup).2 ?_ (passes.policies.trans policies) done)
      intro other member
      obtain ⟨old, row, rests⟩ := waits other (List.mem_cons_of_mem _ member)
      exact ⟨old, passes.rows _ _ (apart other member) row, passes.free _ (apart other member) rests⟩
    · rename_i passed
      obtain ⟨path, passes⟩ := dispatchTask_path now free passed
      split at done
      · obtain rfl := Except.ok.inj done
        exact path.mono known
      · refine (path.mono known).trans (ih _ (List.nodup_cons.mp nodup).2 ?_ (passes.policies.trans policies) done)
        intro other member
        obtain ⟨old, row, rests⟩ := waits other (List.mem_cons_of_mem _ member)
        exact ⟨old, passes.rows _ _ (apart other member) row, passes.free _ (apart other member) rests⟩

theorem fnDispatchTasks_path {out : Dispatched} (done : fnDispatchTasks env db = .ok out) :
    Path Flow.Move (Dispatching db) db.flow out.db.flow := by
  refine dispatchLoop_path (dispatchable db) ⟨[], db⟩ ?_ ?_ rfl done
  · have sorted : (dispatchable db).Perm (db.tasks.select fun t task =>
        (task.status == .queued || task.status == .running) && !db.hasOutstanding t) := List.perm_insertionSort _ _
    exact (sorted.map Prod.fst).nodup_iff.mpr (Table.select_keys_nodup _ _)
  · intro entry member
    obtain ⟨found, ready⟩ := Table.mem_select.mp ((List.mem_insertionSort _).mp member)
    simp only [Bool.and_eq_true, Bool.not_eq_true'] at ready
    exact ⟨found, found, free_of_hasOutstanding ready.2⟩

end Allgres
