import Allgres.Refine.Sweep

/-! What users and operators do: sessions, schedules, approvals and cancellation. -/

namespace Allgres

open Relational Jsonb Sql Runs

variable {db db' : Db} {env : Env}

theorem fnContinueSession_move {s : Nat} {message : Option String} {created : Created}
    (done : fnContinueSession env db s message = .ok created) : Flow.Move .plain db.flow created.db.flow := by
  unfold fnContinueSession at done
  split at done
  · cases done
  · split at done
    · cases done
    · rename_i session found
      split_ifs at done
      obtain rfl := Except.ok.inj done
      rw [openTurn_flow, flow_updateSession _ found]
      refine .reopen s _ _ ?_ flow_task_next
      simp [Db.flow, found]

/-! ### Approvals -/

theorem answerTask_accepts (env : Env) {t : Nat} {task : TaskRow} (found : db.tasks.get? t = some task) (reply : Option String) :
    (answerTask env db t task true reply).flow =
      db.flow.setTask t { task.view with status := .queued, steps := task.view.steps + 1 } := by
  have logged (said : String) :
      (db.appendLog env t (task.stepCount + 1) .operator (.str said)).tasks.get? t = some task := found
  unfold answerTask
  dsimp only
  rw [if_pos rfl, flow_updateTask _ (logged _)]
  rfl

theorem answerTask_rejects (env : Env) {t : Nat} {task : TaskRow} (found : db.tasks.get? t = some task) (reply : Option String) :
    Flow.Closes task.view.session (db.flow.setTask t { task.view with
      status := .failed, steps := task.view.steps + 1, result := (task.output, some "human_rejected") })
      (answerTask env db t task false reply).flow := by
  have logged (said : String) :
      (db.appendLog env t (task.stepCount + 1) .operator (.str said)).tasks.get? t = some task := found
  unfold answerTask
  dsimp only
  rw [if_neg Bool.false_ne_true]
  refine maybeCompleteSession_closes_of ?_
  rw [flow_updateTask _ (logged _)]
  rfl

theorem fnDecideApproval_move {id : Nat} {accept : Option Bool} {reply : Option String} {answer : Json}
    (done : fnDecideApproval env db id accept reply = .ok (answer, db')) : Flow.Move .plain db.flow db'.flow := by
  unfold fnDecideApproval at done
  split at done
  · cases done
  · rename_i approval found
    split at done
    · cases done
    · rename_i pending
      have before : db.flow.approval id = some ⟨approval.taskId, .pending⟩ := by
        rw [← not_not.mp pending]
        simp only [Db.flow, found, Option.map_some]
        rfl
      have written : (decideRow env db id (accept.getD false) reply).flow =
          db.flow.setApproval id ⟨approval.taskId, if accept.getD false then .approved else .rejected⟩ :=
        flow_modifyApproval found
      dsimp only at done
      split at done
      · rename_i none
        obtain ⟨-, rfl⟩ := Prod.mk.inj (Except.ok.inj done)
        refine written ▸ .decideStale id approval.taskId _ before (by split <;> decide) ?_
        intro view now waits
        obtain ⟨task, row, rfl⟩ := flow_task_some now
        have there : (decideRow env db id (accept.getD false) reply).tasks.get? approval.taskId = some task := row
        have waiting : (task.status == .waitingHuman) = true := beq_iff_eq.mpr waits
        rw [there, Option.filter_some, if_pos waiting] at none
        cases none
      · rename_i task waiting
        obtain ⟨row, waits⟩ := Option.filter_eq_some_iff.mp waiting
        have there : db.tasks.get? approval.taskId = some task := row
        obtain ⟨-, rfl⟩ := Prod.mk.inj (Except.ok.inj done)
        rcases accepted : accept.getD false with _ | _
        · rw [accepted] at written row
          have closes := answerTask_rejects env row reply
          rw [written] at closes
          exact .reject id approval.taskId _ before (flow_task there) (beq_iff_eq.mp waits) closes
        · rw [accepted] at written row
          have queued := answerTask_accepts env row reply
          rw [written] at queued
          exact queued ▸ .approve id approval.taskId before (flow_task there) (beq_iff_eq.mp waits)

/-! ### Schedules -/

theorem runSchedule_path (state : Nat × Db) (selected : Nat × ScheduleRow) :
    Path Flow.Move Plain state.2.flow (runSchedule env state selected).2.flow := by
  unfold runSchedule
  dsimp only
  split
  · exact .refl
  · split
    · exact .refl
    · rename_i created
      exact .single (fnCreateSession_move created) rfl

theorem fnRunSchedules_path (env : Env) (db : Db) :
    Path Flow.Move Plain db.flow (fnRunSchedules env db).2.flow := by
  refine (Path.foldl (fun state : Nat × Db => state.2.flow) (fun _ _ => True) ?_ _ (0, db) trivial).1
  intro selected rest state _
  exact ⟨runSchedule_path state selected, trivial⟩

/-! ### Cancellation -/

def cancelView (view : TaskView Left) : TaskView Left :=
  { view with status := .cancelled, steps := view.steps + 1, result := (view.result.1, some "operator_cancelled") }

theorem flow_cancelTask {t : Nat} {task : TaskRow} (found : db.tasks.get? t = some task) (reason : String) :
    (cancelTask env reason db (t, task)).flow = db.flow.setTask t (cancelView task.view) := by
  have logged : (db.appendLog env t (task.stepCount + 1) .operator (.str reason)).tasks.get? t = some task := found
  unfold cancelTask
  rw [flow_updateTask _ logged]
  rfl

theorem cancelTask_other {t other : Nat} (task : TaskRow) (reason : String) (different : other ≠ t) :
    (cancelTask env reason db (t, task)).tasks.get? other = db.tasks.get? other :=
  get?_updateTask_other _ different

open Classical in
/-- The loop over the live tasks writes each of them once. -/
theorem flow_cancelTasks (env : Env) (reason : String) (live : List (Nat × TaskRow)) (db : Db)
    (nodup : (live.map Prod.fst).Nodup) (found : ∀ entry ∈ live, db.tasks.get? entry.1 = some entry.2) :
    (live.foldl (cancelTask env reason) db).flow = { db.flow with
      task := fun t => (db.flow.task t).map fun view => if t ∈ live.map Prod.fst then cancelView view else view
      journal := db.flow.journal ++ (live.map Prod.fst).flatMap fun t => db.flow.statusChange t .cancelled } := by
  induction live generalizing db with
  | nil => simp
  | cons entry rest ih =>
    obtain ⟨t, task⟩ := entry
    have here := found (t, task) List.mem_cons_self
    have absent := (List.nodup_cons.mp nodup).1
    rw [List.foldl_cons, ih _ (List.nodup_cons.mp nodup).2, flow_cancelTask here]
    · have view := flow_task here
      ext1
      case task =>
        funext other
        by_cases same : other = t
        · subst same
          simp only [Flow.setTask_self, Option.map_some, if_neg absent, view, List.map_cons, List.mem_cons, true_or,
            if_true]
        · simp [Flow.setTask_other _ same, same]
      case journal =>
        have later : ∀ other ∈ rest.map Prod.fst,
            (db.flow.setTask t (cancelView task.view)).statusChange other .cancelled =
              db.flow.statusChange other .cancelled := by
          intro other member
          have apart : other ≠ t := by
            rintro rfl
            exact absent member
          simp only [Flow.statusChange, Flow.setTask_other _ apart]
        simp only [List.flatMap_congr later, List.map_cons, List.flatMap_cons, ← List.append_assoc]
        rfl
      all_goals rfl
    · rintro ⟨other, row⟩ member
      rw [cancelTask_other task reason (key_apart nodup member)]
      exact found (other, row) (List.mem_cons_of_mem _ member)

theorem ownedBy_iff {s t : Nat} :
    db.ownedBy s t = true ↔ ∃ view, db.flow.task t = some view ∧ view.session = s := by
  rcases found : db.tasks.get? t with _ | task
  · simp [Db.ownedBy, Db.flow, found]
  · simp [Db.ownedBy, Db.flow, found, TaskRow.view]

theorem flow_rejectPending (cond : Nat → Bool) :
    (db.rejectPending env cond).flow = { db.flow with
      approval := fun a => (db.flow.approval a).map fun view =>
        if cond view.task = true ∧ view.status = .pending then { view with status := .rejected } else view } := by
  ext1
  case approval =>
    funext a
    simp only [Db.flow, Db.rejectPending, Table.get?_update]
    rcases db.approvals.get? a with _ | approval
    · rfl
    · simp only [Option.map_some, ApprovalRow.view, Bool.and_eq_true, beq_iff_eq]
      split_ifs <;> rfl
  all_goals rfl

theorem flow_closeCancelled {s : Nat} (known : db.flow.session s ≠ none) :
    (db.updateSession s fun session => if session.status = .opened then
      { session with status := .cancelled, completedAt := some env.now } else session).flow = { db.flow with
        session := if db.flow.session s = some .opened then
          Function.update db.flow.session s (some .cancelled) else db.flow.session } := by
  rcases found : db.sessions.get? s with _ | session
  · simp [Db.flow, found] at known
  have known : db.flow.session s = some session.status := by simp only [Db.flow, found, Option.map_some]
  rw [flow_updateSession _ found]
  ext1
  case session =>
    by_cases opened : session.status = .opened
    · rw [if_pos opened, if_pos (known.trans (congrArg some opened))]
      rfl
    · rw [if_neg opened, if_neg (by rw [known]; simpa using opened)]
      funext other
      by_cases same : other = s
      · subst same; simp [Flow.setSession, known]
      · simp [Flow.setSession, same]
  all_goals rfl

open Classical in
/-- The rest of `fn_cancel_session`, after the loop over the tasks `live`. -/
theorem flow_cancelled {s : Nat} {stopped : Db} {live : List Nat} (known : db.flow.session s ≠ none)
    (loop : stopped.flow = { db.flow with
      task := fun t => (db.flow.task t).map fun view => if t ∈ live then cancelView view else view
      journal := db.flow.journal ++ live.flatMap fun t => db.flow.statusChange t .cancelled }) (error : String) :
    (((((stopped.loseOutbound env (stopped.ownedBy s) error).loseSql env (stopped.ownedBy s)).rejectPending env
      (stopped.ownedBy s)).updateSession s fun session => if session.status = .opened then
        { session with status := .cancelled, completedAt := some env.now } else session)).flow =
      db.flow.cancelled s (fun left => (left.1, some "operator_cancelled")) live := by
  have owned : ∀ t, stopped.ownedBy s t = true ↔ ∃ view, db.flow.task t = some view ∧ view.session = s := by
    intro t
    rw [ownedBy_iff, loop]
    simp only [Option.map_eq_some_iff]
    constructor
    · rintro ⟨_, ⟨view, found, rfl⟩, session⟩
      refine ⟨view, found, ?_⟩
      split at session
      · exact session
      · exact session
    · rintro ⟨view, found, session⟩
      refine ⟨_, ⟨view, found, rfl⟩, ?_⟩
      split
      · exact session
      · exact session
  have before : (((stopped.loseOutbound env (stopped.ownedBy s) error).loseSql env (stopped.ownedBy s)).rejectPending
      env (stopped.ownedBy s)).flow.session s ≠ none := by
    rw [flow_rejectPending, flow_loseCalls, loop]
    exact known
  rw [flow_closeCancelled before, flow_rejectPending, flow_loseCalls, loop]
  ext1
  case session => rfl
  case task =>
    funext t
    rcases found : db.flow.task t with _ | view
    · simp [Flow.cancelled, Flow.loseHttpAndSql, found]
    · simp [Flow.cancelled, Flow.loseHttpAndSql, found, cancelView]
  case call =>
    funext k
    simp only [Flow.cancelled, Flow.loseHttpAndSql, owned]
  case approval =>
    funext a
    simp only [Flow.cancelled, Flow.loseHttpAndSql, owned]
  all_goals rfl

theorem mem_live {s t : Nat} :
    t ∈ (db.tasks.select fun _ task => task.sessionId == s && !task.status.terminal).map Prod.fst ↔
      ∃ view, db.flow.task t = some view ∧ view.session = s ∧ view.status.terminal = false := by
  rw [List.mem_map]
  constructor
  · rintro ⟨⟨_, task⟩, member, rfl⟩
    obtain ⟨row, live⟩ := Table.mem_select.mp member
    simp only [Bool.and_eq_true, beq_iff_eq, Bool.not_eq_true'] at live
    exact ⟨task.view, flow_task row, live.1, live.2⟩
  · rintro ⟨view, there, owned, live⟩
    obtain ⟨task, row, rfl⟩ := flow_task_some there
    have owned : task.sessionId = s := owned
    have live : task.status.terminal = false := live
    exact ⟨(t, task), Table.mem_select.mpr ⟨row, by simp [owned, live]⟩, rfl⟩

theorem fnCancelSession_move {s : Nat} {reason : Option String} {answer : Json}
    (done : fnCancelSession env db s reason = .ok (answer, db')) : Flow.Move (.cancel s) db.flow db'.flow := by
  unfold fnCancelSession at done
  split at done
  · cases done
  · rename_i exists?
    have known : db.flow.session s ≠ none := by
      simpa [Db.flow, Option.isNone_iff_eq_none] using exists?
    obtain ⟨-, rfl⟩ := Prod.mk.inj (Except.ok.inj done)
    have nodup := Table.select_keys_nodup db.tasks fun _ task => task.sessionId == s && !task.status.terminal
    have loop := flow_cancelTasks env ((nonEmpty (reason.map btrim)).getD "Cancelled by operator.") _ db nodup
      fun entry member => (Table.mem_select.mp member).1
    rw [(Quiet.of_audit _ _).flow, flow_cancelled known loop]
    exact .cancel s _ _ known nodup fun t => mem_live

end Allgres
