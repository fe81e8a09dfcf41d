import Allgres.Protocol.Leftover
import Allgres.Protocol.Approvals
import Allgres.Refine.Reclaim

/-! The second half of `fn_watchdog`: tasks that wait for an answer, for their
children, or just too long. -/

namespace Allgres

open Relational Jsonb Sql Runs

variable {db db' : Db} {env : Env}

/-! ### Expired approvals -/

theorem flow_rejectExpired {id : Nat} {approval : ApprovalRow} (found : db.approvals.get? id = some approval) :
    (rejectExpired env db id).flow = db.flow.setApproval id ⟨approval.taskId, .rejected⟩ :=
  flow_modifyApproval found

theorem failUnanswered_closes (env : Env) {t : Nat} {task : TaskRow} (found : db.tasks.get? t = some task) :
    Flow.Closes task.view.session (db.flow.setTask t { task.view with
      status := .failed, steps := task.view.steps + 1, result := (task.output, some "approval_timeout") })
      (failUnanswered env db t task).flow := by
  have logged : (db.appendLog env t (task.stepCount + 1) .operator
      (.str "No response before the approval expired.")).tasks.get? t = some task := found
  unfold failUnanswered
  refine maybeCompleteSession_closes_of ?_
  rw [flow_updateTask _ logged]
  rfl

theorem failUnanswered_ebbs (t : Nat) (task : TaskRow) : Ebbs db (failUnanswered env db t task) := by
  unfold failUnanswered
  refine .trans ?_ (maybeCompleteSession_ebbs _)
  refine (Ebbs.refl db).logged.trans (updateTask_ebbs t ?_)
  intro row
  exact ⟨rfl, rfl, .inr rfl⟩

theorem failUnanswered_held (env : Env) (db : Db) (t : Nat) (task : TaskRow) : (failUnanswered env db t task).held = db.held := by
  unfold failUnanswered
  exact (maybeCompleteSession_spares _).held.trans (updateTask_spares _ _).held

theorem failUnanswered_failed {t : Nat} {task row : TaskRow} (found : db.tasks.get? t = some task)
    (now : (failUnanswered env db t task).tasks.get? t = some row) : row.status = .failed := by
  have logged : (db.appendLog env t (task.stepCount + 1) .operator
      (.str "No response before the approval expired.")).tasks.get? t = some task := found
  unfold failUnanswered at now
  rw [maybeCompleteSession_tasks, get?_updateTask _ logged, if_pos rfl] at now
  obtain rfl := Option.some.inj now
  rfl

theorem expireApproval_move {id : Nat} {approval : ApprovalRow} (found : db.approvals.get? id = some approval)
    (pending : approval.status = .pending) :
    Flow.Move .plain db.flow (expireApproval env db (id, approval)).flow := by
  have before : db.flow.approval id = some ⟨approval.taskId, .pending⟩ := by
    rw [← pending]
    simp only [Db.flow, found, Option.map_some]
    rfl
  unfold expireApproval
  dsimp only
  split
  · rename_i none
    rw [flow_rejectExpired found]
    refine .decideStale id approval.taskId .rejected before (by decide) ?_
    intro view now waits
    obtain ⟨task, row, rfl⟩ := flow_task_some now
    have there : (rejectExpired env db id).tasks.get? approval.taskId = some task := row
    have waiting : (task.status == .waitingHuman) = true := beq_iff_eq.mpr waits
    rw [there, Option.filter_some, if_pos waiting] at none
    cases none
  · rename_i task waiting
    obtain ⟨row, waits⟩ := Option.filter_eq_some_iff.mp waiting
    have there : db.tasks.get? approval.taskId = some task := row
    have closes := failUnanswered_closes env row
    rw [flow_rejectExpired found] at closes
    exact .reject id approval.taskId _ before (flow_task there) (beq_iff_eq.mp waits) closes

/-- What one pass of the loop does to the tables. -/
theorem expireApproval_effect (env : Env) (db : Db) (id : Nat) (approval : ApprovalRow) :
    Ebbs db (expireApproval env db (id, approval)) ∧
      (expireApproval env db (id, approval)).approvals = (rejectExpired env db id).approvals ∧
      (expireApproval env db (id, approval)).functionCalls = db.functionCalls ∧
      (expireApproval env db (id, approval)).procedureCalls = db.procedureCalls ∧
      ∀ row, (expireApproval env db (id, approval)).tasks.get? approval.taskId = some row →
        row.status ≠ .waitingHuman := by
  have rejected : Ebbs db (rejectExpired env db id) := .of_tasks rfl rfl
  unfold expireApproval
  dsimp only
  split
  · rename_i none
    refine ⟨rejected, rfl, rfl, rfl, ?_⟩
    intro row there waits
    rw [there, Option.filter_some, if_pos (beq_iff_eq.mpr waits)] at none
    cases none
  · rename_i task waiting
    obtain ⟨there, -⟩ := Option.filter_eq_some_iff.mp waiting
    obtain ⟨-, -, functions, procedures, approvals, -⟩ := held_iff.mp
      (failUnanswered_held env (rejectExpired env db id) approval.taskId task)
    refine ⟨rejected.trans (failUnanswered_ebbs _ _), approvals, functions, procedures, ?_⟩
    intro row now waits
    rw [failUnanswered_failed there now] at waits
    cases waits

/-- After the sweep nobody waits for an approval that had expired. -/
theorem expireApprovals_path (env : Env) (db : Db) :
    let after := (expiredApprovals env db).foldl (expireApproval env) db
    Path Flow.Move Plain db.flow after.flow ∧ Ebbs db after ∧ after.functionCalls = db.functionCalls ∧
      after.procedureCalls = db.procedureCalls ∧
      ∀ a approval row, db.approvals.get? a = some approval → approval.expired env = true →
        after.tasks.get? approval.taskId = some row → row.status ≠ .waitingHuman := by
  intro after
  let relies (rest : List (Nat × ApprovalRow)) (now : Db) : Prop :=
    (rest.map Prod.fst).Nodup ∧
    (∀ entry ∈ rest, now.approvals.get? entry.1 = some entry.2 ∧ entry.2.status = .pending) ∧
    Ebbs db now ∧ now.functionCalls = db.functionCalls ∧ now.procedureCalls = db.procedureCalls ∧
    ∀ entry ∈ expiredApprovals env db, entry ∈ rest ∨
      ∀ row, now.tasks.get? entry.2.taskId = some row → row.status ≠ .waitingHuman
  have start : relies (expiredApprovals env db) db := by
    refine ⟨Table.select_keys_nodup _ _, ?_, .refl db, rfl, rfl, fun _ => .inl⟩
    rintro ⟨id, approval⟩ member
    obtain ⟨found, expired⟩ := Table.mem_select.mp member
    simp only [ApprovalRow.expired, Bool.and_eq_true, beq_iff_eq] at expired
    exact ⟨found, expired.1⟩
  have each : ∀ selected rest now, relies (selected :: rest) now →
      Path Flow.Move Plain now.flow (expireApproval env now selected).flow ∧
        relies rest (expireApproval env now selected) := by
    rintro ⟨id, approval⟩ rest now ⟨nodup, selected, ebbs, functions, procedures, ended⟩
    obtain ⟨found, pending⟩ := selected (id, approval) List.mem_cons_self
    obtain ⟨step, approvals, functions', procedures', ends⟩ := expireApproval_effect env now id approval
    refine ⟨.single (expireApproval_move found pending) rfl, (List.nodup_cons.mp nodup).2, ?_, ebbs.trans step,
      functions'.trans functions, procedures'.trans procedures, ?_⟩
    · rintro ⟨other, entry⟩ member
      obtain ⟨there, waits⟩ := selected (other, entry) (List.mem_cons_of_mem _ member)
      rw [approvals, rejectExpired, Table.get?_modify, if_neg (key_apart nodup member)]
      exact ⟨there, waits⟩
    · intro entry listed
      rcases ended entry listed with member | before
      · rcases List.mem_cons.mp member with rfl | later
        · exact .inr ends
        · exact .inl later
      · right
        intro row there waits
        obtain ⟨old, was, -, -, status⟩ := step.rows _ row there
        rcases status with same | failed
        · exact before old was (same.symm.trans waits)
        · rw [failed] at waits
          cases waits
  obtain ⟨path, -, -, ebbs, functions, procedures, ended⟩ := Path.foldl Db.flow relies each _ db start
  refine ⟨path, ebbs, functions, procedures, ?_⟩
  intro a approval row found expired there
  exact (ended (a, approval) (Table.mem_select.mpr ⟨found, expired⟩)).resolve_left List.not_mem_nil row there

/-! ### Turns that took too long -/

theorem flow_loseCalls (env : Env) (db : Db) (cond : Nat → Bool) (error : String) :
    ((db.loseOutbound env cond error).loseSql env cond).flow = db.flow.loseHttpAndSql (fun t => cond t = true) := by
  ext1
  case call =>
    funext ⟨queue, id⟩
    cases queue with
    | outbound =>
      simp only [Db.flow, Db.call, Flow.loseHttpAndSql, Db.loseSql, Db.loseOutbound, Table.get?_update]
      rcases db.outboundCalls.get? id with _ | call
      · rfl
      · simp only [Option.map_some, CallRow.view, Bool.and_eq_true]
        split_ifs <;> simp_all [OutboundBody.isLlm]
    | sql =>
      simp only [Db.flow, Db.call, Flow.loseHttpAndSql, Db.loseSql, Db.loseOutbound, Table.get?_update]
      rcases db.sqlCalls.get? id with _ | call
      · rfl
      · simp only [Option.map_some, CallRow.view, Bool.and_eq_true]
        split_ifs <;> simp_all
    | function | procedure =>
      simp [Db.flow, Db.call, Flow.loseHttpAndSql, Db.loseSql, Db.loseOutbound]
      rfl
  case llmRows =>
    funext t
    simp only [Db.flow, Db.llmRows, Flow.loseHttpAndSql, Db.loseSql, Db.loseOutbound]
    apply Table.count_update
    intro key row
    split <;> rfl
  all_goals rfl

theorem loseHttpAndSql_congr {σ : Flow Left} {cond other : Nat → Prop} [DecidablePred cond] [DecidablePred other]
    (same : ∀ t, cond t ↔ other t) : σ.loseHttpAndSql cond = σ.loseHttpAndSql other := by
  simp only [Flow.loseHttpAndSql, same]

theorem timeOutTask_move {t : Nat} {task : TaskRow} (found : db.tasks.get? t = some task)
    (active : task.status = .running ∨ task.status = .waitingHuman ∨ task.status = .waitingChildren) :
    Flow.Move (.timeout t) db.flow (timeOutTask env db (t, task)).flow := by
  have logged : (db.appendLog env t (task.stepCount + 1) .error
      (.build [("reason", .str "turn_timeout")])).tasks.get? t = some task := found
  refine .timeout t (task.output, some "turn_timeout") (flow_task found) active ?_
  unfold timeOutTask
  refine maybeCompleteSession_closes_of ?_
  rw [flow_loseCalls, flow_updateTask _ logged]
  exact loseHttpAndSql_congr fun _ => beq_iff_eq

theorem timeOutTask_effect (env : Env) (db : Db) (t : Nat) (task : TaskRow) :
    (∀ other, other ≠ t → (timeOutTask env db (t, task)).tasks.get? other = db.tasks.get? other) ∧
      (timeOutTask env db (t, task)).functionCalls = db.functionCalls ∧
      (timeOutTask env db (t, task)).procedureCalls = db.procedureCalls := by
  unfold timeOutTask
  dsimp only
  refine ⟨?_, ?_, ?_⟩
  · intro other different
    rw [maybeCompleteSession_tasks]
    exact get?_updateTask_other _ different
  · refine (held_iff.mp (maybeCompleteSession_spares _).held).2.2.1.trans ?_
    exact (held_iff.mp (updateTask_spares _ _).held).2.2.1
  · refine (held_iff.mp (maybeCompleteSession_spares _).held).2.2.2.1.trans ?_
    exact (held_iff.mp (updateTask_spares _ _).held).2.2.2.1

/-- The moves of the sweep over overdue tasks, which were overdue in `db`. -/
def TimingOut (env : Env) (db : Db) : Flow.Event → Flow Left → Prop
  | .timeout t, σ => ∃ task, db.tasks.get? t = some task ∧ turnExpired env db task = true ∧
      σ.task t = some task.view ∧ ∀ k, ¬ Flow.swept k → σ.call k = db.call k
  | _, _ => False

theorem turnExpired_active {task : TaskRow} (expired : turnExpired env db task = true) :
    task.status = .running ∨ task.status = .waitingHuman ∨ task.status = .waitingChildren := by
  simp only [turnExpired, Bool.and_eq_true, Bool.or_eq_true, beq_iff_eq] at expired
  exact or_assoc.mp expired.1

theorem timeOutTasks_path (env : Env) (db : Db) :
    Path Flow.Move (TimingOut env db) db.flow ((overdueTasks env db).foldl (timeOutTask env) db).flow := by
  let relies (rest : List (Nat × TaskRow)) (now : Db) : Prop :=
    (rest.map Prod.fst).Nodup ∧
    (∀ entry ∈ rest, now.tasks.get? entry.1 = some entry.2 ∧ db.tasks.get? entry.1 = some entry.2 ∧
      turnExpired env db entry.2 = true) ∧
    now.functionCalls = db.functionCalls ∧ now.procedureCalls = db.procedureCalls
  have start : relies (overdueTasks env db) db := by
    refine ⟨Table.select_keys_nodup _ _, ?_, rfl, rfl⟩
    rintro ⟨t, task⟩ member
    obtain ⟨found, expired⟩ := Table.mem_select.mp member
    exact ⟨found, found, expired⟩
  have each : ∀ selected rest now, relies (selected :: rest) now →
      Path Flow.Move (TimingOut env db) now.flow (timeOutTask env now selected).flow ∧
        relies rest (timeOutTask env now selected) := by
    rintro ⟨t, task⟩ rest now ⟨nodup, selected, functions, procedures⟩
    obtain ⟨found, first, expired⟩ := selected (t, task) List.mem_cons_self
    obtain ⟨others, functions', procedures'⟩ := timeOutTask_effect env now t task
    refine ⟨.single (timeOutTask_move found (turnExpired_active expired)) ⟨task, first, expired, flow_task found, ?_⟩,
      (List.nodup_cons.mp nodup).2, ?_, functions'.trans functions, procedures'.trans procedures⟩
    · rintro ⟨queue, id⟩ unswept
      cases queue with
      | outbound => exact absurd (.inl rfl) unswept
      | sql => exact absurd (.inr rfl) unswept
      | function => simp only [Db.flow, Db.call, functions]
      | procedure => simp only [Db.flow, Db.call, procedures]
    · rintro ⟨other, entry⟩ member
      obtain ⟨there, rest⟩ := selected (other, entry) (List.mem_cons_of_mem _ member)
      exact ⟨(others other (key_apart nodup member)).trans there, rest⟩
  exact (Path.foldl Db.flow relies each _ db start).1

/-! ### Tasks whose children have finished -/

theorem wakeTasks_path (env : Env) (db : Db) :
    Path Flow.Move Plain db.flow ((awaitedTasks db).foldl (wakeTask env) db).flow := by
  -- Waking a task finishes none, so that the children of the others stay finished.
  let relies (rest : List (Nat × TaskRow)) (now : Db) : Prop :=
    (rest.map Prod.fst).Nodup ∧
    ∀ entry ∈ rest, now.tasks.get? entry.1 = some entry.2 ∧ entry.2.status = .waitingChildren ∧
      ∀ c child, now.tasks.get? c = some child → child.parentTaskId = some entry.1 → child.status.terminal = true
  have start : relies (awaitedTasks db) db := by
    refine ⟨Table.select_keys_nodup _ _, ?_⟩
    rintro ⟨t, task⟩ member
    obtain ⟨found, waits⟩ := Table.mem_select.mp member
    simp only [Bool.and_eq_true, beq_iff_eq, Bool.not_eq_true'] at waits
    refine ⟨found, waits.1, ?_⟩
    intro c child there parent
    by_contra live
    have exists? : (db.tasks.exists? fun _ child => child.parentTaskId == some t && !child.status.terminal) = true :=
      Table.exists?_eq_true.mpr ⟨c, child, there, by simpa [parent] using live⟩
    rw [waits.2] at exists?
    cases exists?
  have each : ∀ selected rest now, relies (selected :: rest) now →
      Path Flow.Move Plain now.flow (wakeTask env now selected).flow ∧ relies rest (wakeTask env now selected) := by
    rintro ⟨t, task⟩ rest now ⟨nodup, selected⟩
    obtain ⟨found, waits, done⟩ := selected (t, task) List.mem_cons_self
    have logged : (now.appendLog env t (task.stepCount + 1) .function
        (.build [("delegate_results", delegateResults now t)])).tasks.get? t = some task := found
    have rows (other : Nat) : (wakeTask env now (t, task)).tasks.get? other = if other = t then
        some { task with status := .queued, stepCount := task.stepCount + 1, updatedAt := env.now }
        else now.tasks.get? other := get?_updateTask _ logged other
    refine ⟨.single ?_ rfl, (List.nodup_cons.mp nodup).2, ?_⟩
    · unfold wakeTask
      rw [flow_updateTask _ logged]
      refine .wake t (flow_task found) waits ?_
      intro c child there parent
      obtain ⟨row, exists?, rfl⟩ := flow_task_some there
      exact done c row exists? parent
    · rintro ⟨other, entry⟩ member
      obtain ⟨there, waits', done'⟩ := selected (other, entry) (List.mem_cons_of_mem _ member)
      refine ⟨(rows other).trans ((if_neg (key_apart nodup member)).trans there), waits', ?_⟩
      intro c child now' parent
      replace now' := (rows c).symm.trans now'
      split at now'
      · obtain rfl := Option.some.inj now'
        have ended := done' t task found parent
        rw [waits] at ended
        cases ended
      · exact done' c child now' parent
  exact (Path.foldl Db.flow relies each _ db start).1

/-! ### `fn_watchdog` -/

/-- A call of the task is outstanding and not overdue. -/
def lingering {β : Type} (env : Env) (calls : Table (CallRow β)) (wait : Time) (t : Nat) : Bool :=
  calls.exists? fun _ call => call.taskId == t && call.status.outstanding && !call.overdue env wait

/-- The sweep would leave a call of the task behind if the task's turn ended in it. -/
def Db.leavesCall (env : Env) (db : Db) (timeout : Option Int) (t : Nat) : Bool :=
  lingering env db.functionCalls (patience 15 timeout) t || lingering env db.procedureCalls (patience 150 timeout) t

/-- The sweep would leave an approval of the task behind if the task's turn ended in it. -/
def Db.leavesApproval (env : Env) (db : Db) (timeout : Option Int) (t : Nat) (task : TaskRow) : Bool :=
  task.status == .waitingHuman && !(db.approvals.exists? fun _ approval =>
    approval.taskId == t && approval.expired env) ||
  task.status == .running && db.mayHaveActed env timeout t

/-- The moves of a watchdog that starts from `db`. -/
def Sweeping (env : Env) (db : Db) (timeout : Option Int) : Flow.Event → Flow Left → Prop
  | .plain, _ => True
  | .timeout t, σ => ∃ task, db.tasks.get? t = some task ∧ turnExpired env db task = true ∧
      (∀ k, σ.Holds t k → ¬ Flow.swept k → db.leavesCall env timeout t = true) ∧
      ∀ view, σ.task t = some view → view.status = .waitingHuman → db.leavesApproval env timeout t task = true
  | _, _ => False

theorem lingering_of {β : Type} {calls : Table (CallRow β)} {wait : Time} {t id : Nat} {call : CallRow β}
    (found : calls.get? id = some call) (owner : call.taskId = t) (outstanding : call.status.outstanding = true)
    (fresh : call.overdue env wait = false) : lingering env calls wait t = true :=
  Table.exists?_eq_true.mpr ⟨id, call, found, by simp [owner, outstanding, fresh]⟩

theorem turnExpired_before {acted : Prop} {start : Db} {old row : TaskRow} (policies : db.policies = start.policies)
    (pauses : old.Pauses acted row) (expired : turnExpired env db row = true) : turnExpired env start old = true := by
  have active : old.status = .running ∨ old.status = .waitingHuman ∨ old.status = .waitingChildren := by
    rcases pauses with ⟨-, -, same | failed⟩ | ⟨-, -, running, -⟩
    · rw [← same]
      exact turnExpired_active expired
    · rcases turnExpired_active expired with now | now | now
      · cases failed.symm.trans now
      · cases failed.symm.trans now
      · cases failed.symm.trans now
    · exact .inl running
  have agent : row.agentId = old.agentId := by
    rcases pauses with ⟨agent, -⟩ | ⟨agent, -⟩
    · exact agent
    · exact agent
  have started : row.startedAt = old.startedAt := by
    rcases pauses with ⟨-, started, -⟩ | ⟨-, started, -⟩
    · exact started
    · exact started
  simp only [turnExpired, Db.policyOf, Bool.and_eq_true, agent, started, policies] at expired ⊢
  refine ⟨?_, expired.2⟩
  simpa [or_assoc] using active

/-- The calls that are left when the turns are timed out were already there when the sweep began. -/
theorem Settled.leavesCall {timeout : Option Int} {start : Db} (settled : Settled env timeout start db) {t : Nat}
    {k : CallKey} {view : CallView} (found : db.call k = some view) (owner : view.task = t)
    (outstanding : view.status.outstanding = true) (unswept : ¬ Flow.swept k) :
    start.leavesCall env timeout t = true := by
  obtain ⟨queue, id⟩ := k
  simp only [Db.leavesCall, Bool.or_eq_true]
  cases queue with
  | outbound => exact absurd (.inl rfl) unswept
  | sql => exact absurd (.inr rfl) unswept
  | function =>
    obtain ⟨call, row, rfl⟩ := Option.map_eq_some_iff.mp found
    obtain ⟨before, fresh⟩ := settled.functions id call row outstanding
    exact .inl (lingering_of before owner outstanding fresh)
  | procedure =>
    obtain ⟨call, row, rfl⟩ := Option.map_eq_some_iff.mp found
    obtain ⟨before, fresh⟩ := settled.procedures id call row outstanding
    exact .inr (lingering_of before owner outstanding fresh)

theorem sweepTasks_path {timeout : Option Int} {start : Db} (settled : Settled env timeout start db) :
    Path Flow.Move (Sweeping env start timeout) db.flow (sweepTasks env db).flow := by
  have plain : ∀ event (σ : Flow Left), Plain event σ → Sweeping env start timeout event σ := by
    intro event σ isPlain
    rw [show event = .plain from isPlain]
    trivial
  obtain ⟨expire, ebbs, functions, procedures, ended⟩ := expireApprovals_path env db
  unfold sweepTasks
  dsimp only
  generalize (expiredApprovals env db).foldl (expireApproval env) db = expired at *
  have timeouts : Path Flow.Move (Sweeping env start timeout) expired.flow
      ((overdueTasks env expired).foldl (timeOutTask env) expired).flow := by
    refine (timeOutTasks_path env expired).mono ?_
    intro event σ allowed
    cases event with
    | plain | dispatch | report | swallow | cancel => exact allowed.elim
    | timeout t =>
      obtain ⟨row, found, late, now, calls⟩ := allowed
      obtain ⟨old, before, pauses⟩ := rows_ebb ebbs settled.rows found
      refine ⟨old, before, turnExpired_before (ebbs.policies.trans settled.policies) pauses late, ?_, ?_⟩
      · rintro k ⟨view, held, owner, outstanding⟩ unswept
        rw [calls k unswept] at held
        have same : expired.call k = db.call k := by
          obtain ⟨queue, id⟩ := k
          cases queue with
          | outbound => exact absurd (.inl rfl) unswept
          | sql => exact absurd (.inr rfl) unswept
          | function => simp only [Db.call, functions]
          | procedure => simp only [Db.call, procedures]
        rw [same] at held
        exact settled.leavesCall held owner outstanding unswept
      · intro view seen waits
        rw [now, Option.some.injEq] at seen
        subst seen
        simp only [Db.leavesApproval, Bool.or_eq_true, Bool.and_eq_true, beq_iff_eq, Bool.not_eq_true']
        rcases pauses with ⟨-, -, same | failed⟩ | ⟨-, -, running, acted⟩
        · refine .inl ⟨same.symm.trans waits, ?_⟩
          by_contra some
          obtain ⟨a, approval, there, asked⟩ := Table.exists?_eq_true.mp (by simpa using some)
          simp only [Bool.and_eq_true, beq_iff_eq] at asked
          refine ended a approval row (settled.approvals a approval there) asked.2 ?_ waits
          rw [asked.1]
          exact found
        · cases failed.symm.trans waits
        · exact .inr ⟨running, acted⟩
  exact ((expire.mono plain).trans timeouts).trans ((wakeTasks_path env _).mono plain)

theorem fnWatchdog_path (env : Env) (db : Db) (timeout : Option Int) :
    Path Flow.Move (Sweeping env db timeout) db.flow (fnWatchdog env db timeout).flow := by
  obtain ⟨reclaim, settled⟩ := reclaimCalls_path env db timeout
  refine (reclaim.mono ?_).trans (sweepTasks_path settled)
  intro event σ plain
  rw [show event = .plain from plain]
  trivial

end Allgres
