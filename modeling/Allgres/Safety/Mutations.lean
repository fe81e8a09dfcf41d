import Allgres.Refine.Sweep
import Allgres.Writes.Machine

/-! Requests that may have changed something at their destination, and end without a response. -/

namespace Allgres

open Relational Jsonb Sql Runs

variable {env : Env} {db db' : Db} {t callId : Nat} {task : TaskRow} {call : CallRow OutboundBody}

/-- The task has ended, or waits for a human who has been asked. -/
def Deferred (db : Db) (t : Nat) (task : TaskRow) : Prop :=
  task.status.terminal = true ∨ task.status = .waitingHuman ∧
    ∃ a approval, db.approvals.get? a = some approval ∧ approval.taskId = t ∧ approval.status = .pending

/-- The model gets no further turn of the task before a human has answered. -/
def HumanFirst (db : Db) (t : Nat) : Prop := ∃ task, db.tasks.get? t = some task ∧ Deferred db t task

/-- The same of every row of the task. -/
def Deferring (db : Db) (t : Nat) : Prop := ∀ task, db.tasks.get? t = some task → Deferred db t task

theorem Deferred.mono (deferred : Deferred db t task)
    (kept : ∀ a approval, db.approvals.get? a = some approval → db'.approvals.get? a = some approval) :
    Deferred db' t task := by
  rcases deferred with ended | ⟨waits, a, approval, found, mine, pending⟩
  · exact .inl ended
  · exact .inr ⟨waits, a, approval, kept a approval found, mine, pending⟩

theorem Deferred.not_running (deferred : Deferred db t task) : task.status ≠ .running := by
  intro running
  rcases deferred with ended | ⟨waits, -⟩
  · rw [running] at ended
    cases ended
  · rw [running] at waits
    cases waits

/-- A step that lets tasks fail or go on as they were, and asks nobody else, keeps it. -/
theorem Deferring.ebb (deferring : Deferring db t) (ebbs : Ebbs db db') (approvals : db'.approvals = db.approvals) :
    Deferring db' t := by
  intro task now
  obtain ⟨old, before, agent, started, status⟩ := ebbs.rows t task now
  rcases status with same | failed
  · have held := (deferring old before).mono fun a approval found => show db'.approvals.get? a = some approval by
      rw [approvals]; exact found
    rwa [Deferred, same]
  · exact .inl (by rw [failed]; rfl)

/-- A loop keeps what every pass keeps of the tables and the items to come. -/
theorem deferring_foldl {α : Type} {pass : Db → α → Db} (relies : Db → α → Prop)
    (each : ∀ db item, relies db item → Deferring db t → Deferring (pass db item) t)
    (others : ∀ db item other, relies db item → relies db other → relies (pass db item) other)
    (items : List α) (db : Db) (initially : ∀ item ∈ items, relies db item) (deferring : Deferring db t) :
    Deferring (items.foldl pass db) t := by
  induction items generalizing db with
  | nil => exact deferring
  | cons item rest ih =>
    have here := initially item List.mem_cons_self
    refine ih (pass db item) (fun other member => ?_) (each db item here deferring)
    exact others db item other here (initially other (List.mem_cons_of_mem _ member))

/-! ### The first half of the sweep -/

theorem running_tasks {calls : Table (CallRow OutboundBody)} :
    { db with outboundCalls := calls }.isRunning t = db.isRunning t := rfl

/-- What becomes of a task when an overdue call is reclaimed. -/
theorem reclaimOutbound_row (id : Nat) (call : CallRow OutboundBody)
    (now : (reclaimOutbound env db (id, call)).tasks.get? t = some task) :
    (∃ old, db.tasks.get? t = some old ∧ old.Errs task ∧
      ¬ (call.taskId = t ∧ old.status = .running ∧ call.body.ambiguous = true)) ∨
    Deferred (reclaimOutbound env db (id, call)) t task := by
  unfold reclaimOutbound at now ⊢
  dsimp only at now ⊢
  split at now
  · rename_i ambiguous
    rw [if_pos ambiguous]
    rw [Bool.and_eq_true] at ambiguous
    obtain ⟨row, there, running⟩ := isRunning_iff.mp ambiguous.1
    by_cases here : t = call.taskId
    · subst here
      rw [show (pauseForHuman env _ call.taskId _).tasks.get? call.taskId = _ from
        (get?_updateTask _ there call.taskId).trans (if_pos rfl)] at now
      obtain rfl := Option.some.inj now
      exact .inr (.inr ⟨rfl, _, _, Table.get?_insert_next _ _, rfl, rfl⟩)
    · rw [show (pauseForHuman env _ call.taskId _).tasks.get? t = _ from get?_updateTask_other _ here] at now
      exact .inl ⟨task, now, ⟨rfl, rfl, .inl rfl⟩, fun own => here own.1.symm⟩
  · rename_i plain
    obtain ⟨ebbs, -⟩ := submitFor_error env
      { db with outboundCalls := db.outboundCalls.modify id (loseOutboundCall env) } (.outbound, id) call.taskId
      "outbound timeout"
    obtain ⟨old, before, errs⟩ := ebbs.rows t task now
    refine .inl ⟨old, before, errs, ?_⟩
    intro ⟨own, running, ambiguous⟩
    rw [ambiguous, Bool.and_true, Bool.not_eq_true] at plain
    have runs : db.isRunning call.taskId = true := isRunning_iff.mpr ⟨old, own ▸ before, running⟩
    rw [running_tasks, runs] at plain
    cases plain

theorem reclaimOutbound_approvals (selected : Nat × CallRow OutboundBody) {a : Nat} {approval : ApprovalRow}
    (found : db.approvals.get? a = some approval) :
    (reclaimOutbound env db selected).approvals.get? a = some approval := by
  unfold reclaimOutbound
  dsimp only
  split
  · exact pauseForHuman_approvals _ _ found
  · obtain ⟨-, held⟩ := submitFor_error env
      { db with outboundCalls := db.outboundCalls.modify selected.1 (loseOutboundCall env) }
      (.outbound, selected.1) selected.2.taskId "outbound timeout"
    rw [(held_iff.mp held).2.2.2.2.1]
    exact found

/-- Whatever else is reclaimed: after the overdue calls the task of an ambiguous one is paused. -/
theorem reclaimOutbound_defers (running : ∀ task, db.tasks.get? call.taskId = some task → task.status = .running)
    (ambiguous : call.body.ambiguous = true) {overdue : List (Nat × CallRow OutboundBody)}
    (chosen : (callId, call) ∈ overdue) :
    Deferring (overdue.foldl (reclaimOutbound env) db) call.taskId := by
  let relies (rest : List (Nat × CallRow OutboundBody)) (now : Db) : Prop :=
    ∀ task, now.tasks.get? call.taskId = some task →
      Deferred now call.taskId task ∨ task.status = .running ∧ (callId, call) ∈ rest
  have loop (rest : List (Nat × CallRow OutboundBody)) (now : Db) (held : relies rest now) :
      relies [] (rest.foldl (reclaimOutbound env) now) := by
    induction rest generalizing now with
    | nil => exact held
    | cons entry rest ih =>
      refine ih _ fun task after => ?_
      obtain ⟨id, other⟩ := entry
      rcases reclaimOutbound_row id other after with ⟨old, before, errs, plain⟩ | deferred
      · rcases errs.2.2 with same | failed
        · rcases held old before with deferred | ⟨runs, waiting⟩
          · have still := deferred.mono fun a approval => @reclaimOutbound_approvals env now (id, other) a approval
            rw [Deferred, ← same] at still
            exact .inl still
          · rcases List.mem_cons.mp waiting with here | later
            · obtain ⟨rfl, rfl⟩ := Prod.mk.inj here
              exact absurd ⟨rfl, runs, ambiguous⟩ plain
            · exact .inr ⟨same.trans runs, later⟩
        · exact .inl (.inl (by rw [failed]; rfl))
      · exact .inl deferred
  intro task now
  rcases loop overdue db (fun task found => .inr ⟨running task found, chosen⟩) task now with deferred | ⟨-, none⟩
  · exact deferred
  · cases none

theorem reclaimCalls_defers {timeout : Option Int}
    (running : ∀ task, db.tasks.get? call.taskId = some task → task.status = .running)
    (ambiguous : call.body.ambiguous = true) (found : db.outboundCalls.get? callId = some call)
    (overdue : call.overdue env (patience 15 timeout) = true) :
    Deferring (reclaimCalls env db timeout) call.taskId := by
  have chosen : (callId, call) ∈ overdueCalls env db.outboundCalls (patience 15 timeout) :=
    Table.mem_select.mpr ⟨found, overdue⟩
  have paused := @reclaimOutbound_defers env db callId call running ambiguous _ chosen
  unfold reclaimCalls
  dsimp only
  generalize (overdueCalls env db.outboundCalls (patience 15 timeout)).foldl (reclaimOutbound env) db = db at paused ⊢
  have sql : Deferring ((overdueCalls env db.sqlCalls (patience 15 timeout)).foldl (reclaimSql env) db) call.taskId := by
    rw [reclaimSql_eq]
    exact paused.ebb (sql_of.reclaim_path env db _ _).2.1 (sql_of.reclaim_apart env _ _ db).1
  generalize (overdueCalls env db.sqlCalls (patience 15 timeout)).foldl (reclaimSql env) db = db at sql ⊢
  have functions : Deferring
      ((overdueCalls env db.functionCalls (patience 15 timeout)).foldl (reclaimFunctionCall env) db) call.taskId := by
    rw [reclaimFunctionCall_eq]
    exact sql.ebb (function_of.reclaim_path env db _ _).2.1 (function_of.reclaim_apart env _ _ db).1
  generalize (overdueCalls env db.functionCalls (patience 15 timeout)).foldl (reclaimFunctionCall env) db = db
    at functions ⊢
  have built : Deferring (reclaimBuilds env db (patience 15 timeout)) call.taskId :=
    functions.ebb (.of_tasks rfl rfl) rfl
  generalize reclaimBuilds env db (patience 15 timeout) = db at built ⊢
  have procedures : Deferring
      ((overdueCalls env db.procedureCalls (patience 150 timeout)).foldl (reclaimProcedureCall env) db)
      call.taskId := by
    rw [reclaimProcedureCall_eq]
    exact built.ebb (procedure_of.reclaim_path env db _ _).2.1 (procedure_of.reclaim_apart env _ _ db).1
  exact procedures.ebb (.of_tasks rfl rfl) rfl

/-! ### The second half -/

theorem rejectExpired_approvals {id a : Nat} (different : a ≠ id) :
    (rejectExpired env db id).approvals.get? a = db.approvals.get? a := by
  simp only [rejectExpired, Table.get?_modify, if_neg different]

theorem expireApproval_defers {id : Nat} {approval : ApprovalRow}
    (mine : ∀ row, db.approvals.get? id = some row → row.taskId = approval.taskId) (deferring : Deferring db t) :
    Deferring (expireApproval env db (id, approval)) t := by
  obtain ⟨ebbs, approvals, -, -, answered⟩ := expireApproval_effect env db id approval
  intro task now
  obtain ⟨old, before, errs⟩ := ebbs.rows t task now
  rcases errs.2.2 with same | failed
  · rcases deferring old before with ended | ⟨waits, a, row, found, owner, pending⟩
    · exact .inl (by rw [same]; exact ended)
    · have other : a ≠ id := by
        rintro rfl
        have own : approval.taskId = t := (mine row found).symm.trans owner
        exact answered task (by rw [own]; exact now) (same.trans waits)
      refine .inr ⟨same.trans waits, a, row, ?_, owner, pending⟩
      rw [approvals, rejectExpired_approvals other]
      exact found
  · exact .inl (by rw [failed]; rfl)

theorem expireApprovals_defers (deferring : Deferring db t) :
    Deferring ((expiredApprovals env db).foldl (expireApproval env) db) t := by
  refine deferring_foldl (fun db item => ∀ row, db.approvals.get? item.1 = some row → row.taskId = item.2.taskId)
    ?_ ?_ _ db ?_ deferring
  · intro db item mine deferring
    exact expireApproval_defers mine deferring
  · intro db item other mine theirs row now
    obtain ⟨-, approvals, -⟩ := expireApproval_effect env db item.1 item.2
    rw [approvals] at now
    simp only [rejectExpired, Table.get?_modify] at now
    split at now
    · rename_i same
      obtain ⟨old, found, rfl⟩ := Option.map_eq_some_iff.mp now
      exact theirs old (same ▸ found)
    · exact theirs row now
  · intro item member row found
    obtain ⟨here, -⟩ := Table.mem_select.mp member
    rw [here] at found
    obtain rfl := Option.some.inj found
    rfl

theorem timeOutTask_defers (selected : Nat × TaskRow) (deferring : Deferring db t) :
    Deferring (timeOutTask env db selected) t := by
  obtain ⟨u, row⟩ := selected
  have approvals : (timeOutTask env db (u, row)).approvals = db.approvals := by
    unfold timeOutTask
    dsimp only
    refine (held_iff.mp (maybeCompleteSession_spares _).held).2.2.2.2.1.trans ?_
    exact (held_iff.mp (updateTask_spares _ _).held).2.2.2.2.1
  intro task now
  by_cases here : t = u
  · subst here
    left
    unfold timeOutTask at now
    dsimp only at now
    rw [maybeCompleteSession_tasks] at now
    change (Db.updateTask _ env t _).tasks.get? t = some task at now
    rcases found : db.tasks.get? t with _ | old
    · unfold Db.updateTask at now
      rw [show (db.appendLog env t (row.stepCount + 1) .error _).tasks.get? t = none from found] at now
      cases found.symm.trans now
    · rw [get?_updateTask _ (show (db.appendLog env t (row.stepCount + 1) .error _).tasks.get? t = some old from found),
        if_pos rfl] at now
      obtain rfl := Option.some.inj now
      rfl
  · rw [(timeOutTask_effect env db u row).1 t here] at now
    exact (deferring task now).mono fun a approval found => by rw [approvals]; exact found

theorem wakeTask_defers {selected : Nat × TaskRow} (different : selected.1 ≠ t) (deferring : Deferring db t) :
    Deferring (wakeTask env db selected) t := by
  intro task now
  unfold wakeTask at now ⊢
  dsimp only at now ⊢
  rw [get?_updateTask_other _ different.symm] at now
  refine (deferring task now).mono fun a approval found => ?_
  rw [(held_iff.mp (updateTask_spares _ _).held).2.2.2.2.1]
  exact found

theorem sweepTasks_defers (deferring : Deferring db t) : Deferring (sweepTasks env db) t := by
  unfold sweepTasks
  dsimp only
  have answered := @expireApprovals_defers env db t deferring
  generalize (expiredApprovals env db).foldl (expireApproval env) db = db at answered ⊢
  have timed : Deferring ((overdueTasks env db).foldl (timeOutTask env) db) t :=
    deferring_foldl (fun _ _ => True) (fun _ item _ => timeOutTask_defers item) (fun _ _ _ _ _ => trivial) _ db
      (fun _ _ => trivial) answered
  generalize (overdueTasks env db).foldl (timeOutTask env) db = db at timed ⊢
  have woken : Deferring ((awaitedTasks db).foldl (wakeTask env) db) t := by
    refine deferring_foldl (fun (_ : Db) (item : Nat × TaskRow) => item.1 ≠ t)
      (fun _ _ different => wakeTask_defers different) (fun _ _ _ _ different => different) _ db ?_ timed
    rintro ⟨u, row⟩ member rfl
    obtain ⟨found, waits⟩ := Table.mem_select.mp member
    simp only [Bool.and_eq_true, beq_iff_eq] at waits
    rcases timed row found with ended | ⟨asked, -⟩
    · rw [waits.1] at ended
      cases ended
    · rw [waits.1] at asked
      cases asked
  exact woken

/-- The watchdog pauses the task of every ambiguous call it gives up, unless it ends the task. -/
theorem fnWatchdog_humanFirst {timeout : Option Int} (found : db.outboundCalls.get? callId = some call)
    (ambiguous : call.body.ambiguous = true) (overdue : call.overdue env (patience 15 timeout) = true)
    (here : db.tasks.get? call.taskId = some task) (running : task.status = .running) :
    HumanFirst (fnWatchdog env db timeout) call.taskId := by
  have runs : ∀ row, db.tasks.get? call.taskId = some row → row.status = .running := by
    intro row again
    obtain rfl := Option.some.inj (here.symm.trans again)
    exact running
  have deferring : Deferring (fnWatchdog env db timeout) call.taskId := by
    unfold fnWatchdog
    exact sweepTasks_defers (reclaimCalls_defers runs ambiguous found overdue)
  have writes := @writes_fnWatchdog env db timeout
  generalize fnWatchdog env db timeout = after at writes deferring ⊢
  obtain ⟨row, there, -⟩ := writes.kin here
  exact ⟨row, there, deferring row there⟩

/-! ### Transport failures -/

/-- The task's agent is missing or inactive. -/
def Db.agentGone (db : Db) (task : TaskRow) : Bool :=
  ((db.agents.get? task.agentId).filter AgentRow.isActive).isNone

/-- One more error ends the task. -/
def Db.lastTry (db : Db) (t : Nat) (task : TaskRow) : Bool :=
  (db.policyOf task.agentId).any fun policy =>
    decide (policy.maxRetries < (db.logs.countP fun log => log.taskId == t && log.role == .error) + 1)

/-- The task is in that status. -/
def Db.hasStatus (db : Db) (t : Nat) (status : TaskStatus) : Prop :=
  ∃ task, db.tasks.get? t = some task ∧ task.status = status

theorem hasStatus_updateTask (found : db.tasks.get? t = some task) {set : TaskRow → TaskRow} {status : TaskStatus}
    (becomes : (set task).status = status) : (db.updateTask env t set).hasStatus t status :=
  ⟨_, (get?_updateTask set found t).trans (if_pos rfl), becomes⟩

theorem hasStatus_maybeCompleteSession {s : Nat} {status : TaskStatus} (held : db.hasStatus t status) :
    (maybeCompleteSession env db s).hasStatus t status := by
  obtain ⟨task, found, same⟩ := held
  exact ⟨task, by rw [maybeCompleteSession_tasks]; exact found, same⟩

theorem submitError_status {turn : Turn} {payload : Json} (found : db.tasks.get? turn.taskId = some turn.task)
    (running : turn.task.status = .running) (policy : turn.policy = db.policyOf turn.task.agentId) :
    (submitError env db turn payload).2.hasStatus turn.taskId
      (if db.lastTry turn.taskId turn.task then .failed else .running) := by
  have errors (row : LogRow) (mine : row.taskId = turn.taskId) (error : row.role = .error) :
      (db.logs ++ [row]).countP (fun log => log.taskId == turn.taskId && log.role == .error) =
        (db.logs.countP fun log => log.taskId == turn.taskId && log.role == .error) + 1 := by
    rw [List.countP_append, List.countP_singleton, mine, error]
    simp
  unfold submitError Db.lastTry
  dsimp only [Turn.log, Db.appendLog]
  rw [errors _ rfl rfl, policy]
  have logged := @get?_updateTask (db.appendLog env turn.taskId (turn.task.stepCount + 1) .error
    (.build [("message", .str ((payload.getText? "message").getD "error"))])) env turn.taskId turn.task
    (fun task => { task with stepCount := task.stepCount + 1 }) found turn.taskId
  rw [if_pos rfl] at logged
  split
  · exact hasStatus_maybeCompleteSession (hasStatus_updateTask logged rfl)
  · exact ⟨_, logged, running⟩

/-- What becomes of a running task that is handed a value or an error. -/
theorem fnSubmitResult_status (found : db.tasks.get? t = some task) (running : task.status = .running)
    {payload : Json} {failing : Bool}
    (shape : payload.getText? "type" = some "function_result" ∧ failing = false ∨
      payload.getText? "type" = some "error" ∧ failing = db.lastTry t task) :
    ∃ reply after, fnSubmitResult env db t payload = .ok (reply, after) ∧
      after.hasStatus t (if db.agentGone task || failing then .failed else .running) := by
  unfold fnSubmitResult Db.agentGone
  rw [found]
  dsimp only
  rw [if_neg (not_not.mpr running)]
  split
  · rename_i gone
    refine ⟨_, _, rfl, ?_⟩
    rw [gone, Option.isNone_none, Bool.true_or, if_pos rfl]
    unfold failTask
    refine hasStatus_maybeCompleteSession ?_
    exact @hasStatus_updateTask env db t task found _ _ rfl
  · rename_i agent active
    rw [active, Option.isNone_some, Bool.false_or]
    unfold submitPayload
    rcases shape with ⟨value, rfl⟩ | ⟨error, rfl⟩
    · rw [value]
      refine ⟨_, _, rfl, ?_⟩
      exact @hasStatus_updateTask env (db.appendLog env t (task.stepCount + 1) .function _) t task found _ _ running
    · rw [error]
      refine ⟨_, _, rfl, ?_⟩
      exact @submitError_status env db ⟨t, task, agent, db.policyOf task.agentId⟩ payload found running rfl

/-- The task of an ambiguous call goes on with its next turn after a transport failure, unless it fails. -/
theorem fnCompleteOutbound_lost (found : db.outboundCalls.get? callId = some call) (inFlight : call.status = .inFlight)
    (ambiguous : call.body.ambiguous = true) (here : db.tasks.get? call.taskId = some task)
    (running : task.status = .running) (body : Option String) :
    ∃ reply after, fnCompleteOutbound env db callId (some 0) body = .ok (reply, after) ∧
      after.hasStatus call.taskId
        (if db.agentGone task || (call.body.kind == .mcp && db.lastTry call.taskId task) then .failed else .running) := by
  let harvested := harvestOutbound env db callId (some 0) body
  let marked : Db := { harvested with submits := harvested.submits ++ [(.outbound, callId)] }
  have shaped : ∃ payload, outboundPayload env harvested callId call.taskId call.body (some 0) body =
      .ok (payload, harvested) ∧ (payload.getText? "type" = some "function_result" ∧
        (call.body.kind == .mcp && marked.lastTry call.taskId task) = false ∨
        payload.getText? "type" = some "error" ∧
        (call.body.kind == .mcp && marked.lastTry call.taskId task) = marked.lastTry call.taskId task) := by
    simp only [OutboundBody.ambiguous, Bool.and_eq_true, Bool.or_eq_true, beq_iff_eq] at ambiguous
    rcases ambiguous.1 with function | mcp
    · refine ⟨functionPayload call.body (some 0) body, ?_, .inl ⟨rfl, ?_⟩⟩
      · simp only [outboundPayload, function]
      · rw [function]
        rfl
    · refine ⟨httpErrorPayload "mcp" (some 0) body, ?_, .inr ⟨rfl, ?_⟩⟩
      · have refused : isSuccess (some 0) = false := rfl
        simp only [outboundPayload, mcp, mcpPayload, refused, Bool.not_false, if_true]
        rfl
      · rw [mcp]
        rfl
  obtain ⟨payload, computed, shape⟩ := shaped
  have there : marked.tasks.get? call.taskId = some task := here
  obtain ⟨reply, after, submitted, status⟩ := @fnSubmitResult_status env marked call.taskId task there running payload
    (call.body.kind == .mcp && marked.lastTry call.taskId task) shape
  have runs : harvested.isRunning call.taskId = true := isRunning_iff.mpr ⟨task, here, running⟩
  refine ⟨completedJson callId reply, scoreCall after callId call.body reply, ?_, ?_⟩
  · have busy : ¬ call.status ≠ .inFlight := not_not.mpr inFlight
    have handed : submitFor env harvested (.outbound, callId) call.taskId payload = (reply, after) := by
      unfold submitFor
      rw [if_pos runs]
      dsimp only
      rw [show fnSubmitResult env { harvested with submits := harvested.submits ++ [(.outbound, callId)] } call.taskId
        payload = .ok (reply, after) from submitted]
    unfold fnCompleteOutbound
    rw [found]
    dsimp only
    rw [if_neg busy, show outboundPayload env (harvestOutbound env db callId (some 0) body) callId call.taskId call.body
      (some 0) body = .ok (payload, harvested) from computed]
    dsimp only
    rw [handed]
  · have other : ¬ (call.body.kind = .llm ∧ call.body.procedureFunctionId.isSome = true) := by
      intro llm
      simp only [OutboundBody.ambiguous, llm.1] at ambiguous
      cases ambiguous
    rw [scoreCall, if_neg other]
    exact status

/-! ### How ambiguous calls end -/

/-- A claimed call ends without a response: the watchdog gives it up, or the worker reports a transport failure. -/
def Op.loses (env : Env) (callId : Nat) (call : CallRow OutboundBody) : Op → Prop
  | .watchdog timeout => call.overdue env (patience 15 timeout) = true
  | .completeOutbound id status _ => id = callId ∧ status = some 0
  | _ => False

def Op.isWatchdog : Op → Bool
  | .watchdog _ => true
  | _ => false

/-- A human comes before the next turn exactly if the watchdog gives the call up, or the task has no next turn:
its agent is inactive, or an error of an `mcp` call is one too many. -/
theorem mutation_humanFirst_iff {op : Op} (found : db.outboundCalls.get? callId = some call)
    (inFlight : call.status = .inFlight) (ambiguous : call.body.ambiguous = true)
    (here : db.tasks.get? call.taskId = some task) (running : task.status = .running)
    (loses : op.loses env callId call) :
    ∃ db', op.run env db = .ok db' ∧ (HumanFirst db' call.taskId ↔
      op.isWatchdog = true ∨ db.agentGone task = true ∨
        call.body.kind = .mcp ∧ db.lastTry call.taskId task = true) := by
  cases op with
  | watchdog timeout =>
    refine ⟨_, rfl, fun _ => .inl rfl, fun _ => ?_⟩
    exact fnWatchdog_humanFirst found ambiguous loses here running
  | completeOutbound id status body =>
    obtain ⟨rfl, rfl⟩ := loses
    obtain ⟨reply, after, done, row, now, status⟩ := @fnCompleteOutbound_lost env db id task call found inFlight
      ambiguous here running body
    refine ⟨after, by simp only [Op.run, done, Except.map], ?_⟩
    simp only [Op.isWatchdog, Bool.false_eq_true, false_or]
    constructor
    · rintro ⟨other, again, deferred⟩
      obtain rfl := Option.some.inj (now.symm.trans again)
      by_contra plain
      have goes : (db.agentGone task || (call.body.kind == .mcp && db.lastTry call.taskId task)) = false := by
        simpa using plain
      rw [goes] at status
      exact deferred.not_running status
    · intro ends
      have fails : (db.agentGone task || (call.body.kind == .mcp && db.lastTry call.taskId task)) = true := by
        simpa using ends
      rw [fails] at status
      exact ⟨row, now, .inl (by rw [status]; rfl)⟩
  | _ => exact loses.elim

/-- The helper may send requests to one host. -/
def paymentDb : Db :=
  { helperDb (helperPolicy 5 none) with
    permissions := (Table.empty.insert ⟨0, .function, "http_request"⟩).insert ⟨0, .httpHost, "pay.example"⟩ }

theorem paymentDb_fresh : Fresh paymentDb :=
  have fresh := helperDb_fresh (helperPolicy 5 none)
  ⟨fresh.sessions, fresh.tasks, fresh.calls, fresh.approvals, fresh.journal, fresh.submits⟩

/-- The reply that charges the customer. -/
def charges : String :=
  "\x7b\"action\":\"call_function\",\"function\":\"http_request\",\"args\":" ++
    "\x7b\"method\":\"POST\",\"url\":\"https://pay.example/charge\"\x7d\x7d"

def charging : List (Env × Op) :=
  [(.bare, .createSession 0 (some "charge the customer") none none), (.bare, .dispatchTasks),
    (.bare, .claimOutbound none none), (.bare, .completeOutbound 0 (some 200) (some charges)),
    (.bare, .claimOutbound none none)]

/-- The charge is in flight and the task goes on. -/
def inCharge (db : Db) : Bool :=
  (db.outboundCalls.get? 1).any fun call => call.status == .inFlight && call.body.ambiguous && call.updatedAt == 0 &&
    call.body.kind == .function && (db.tasks.get? call.taskId).any fun task =>
      task.status == .running && !db.agentGone task

theorem charge_reached : ∃ db call task, Run Label.any paymentDb db ∧ db.outboundCalls.get? 1 = some call ∧
    call.status = .inFlight ∧ call.body.ambiguous = true ∧ call.updatedAt = 0 ∧ call.body.kind = .function ∧
    db.tasks.get? call.taskId = some task ∧ task.status = .running ∧ db.agentGone task = false := by
  obtain ⟨db, run, reached⟩ := run_reaching
    (show ((runAll Label.any paymentDb charging).any inCharge) = true by decide +kernel)
  simp only [inCharge, Option.any_eq_true, Bool.and_eq_true, beq_iff_eq, Bool.not_eq_true'] at reached
  obtain ⟨call, found, ⟨⟨⟨flies, ambiguous⟩, claimed⟩, kind⟩, task, here, running, active⟩ := reached
  exact ⟨db, call, task, run, found, flies, ambiguous, claimed, kind, here, running, active⟩

/-- The watchdog gives the charge up after a minute and a half, and pauses the task. -/
theorem mutation_humanFirst_iff_charge : ∃ db call db', Run Label.any paymentDb db ∧
    db.outboundCalls.get? 1 = some call ∧ Op.run (.after 91000000) db (.watchdog (some 90)) = .ok db' ∧
    HumanFirst db' call.taskId := by
  obtain ⟨db, call, task, run, found, flies, ambiguous, claimed, kind, here, running, active⟩ := charge_reached
  have overdue : call.overdue (.after 91000000) (patience 15 (some 90)) = true := by
    simp only [CallRow.overdue, flies, claimed]
    decide
  obtain ⟨db', done, iff⟩ := @mutation_humanFirst_iff (.after 91000000) db 1 task call (.watchdog (some 90)) found flies ambiguous here running overdue
  exact ⟨db, call, db', run, found, done, iff.mpr (.inl rfl)⟩

/-- After a transport failure the model has its next turn, and may charge the customer again. -/
theorem not_mutation_humanFirst : ¬ ∀ start db (env : Env) (op : Op) db' callId call task, Fresh start →
    Run Label.any start db → db.outboundCalls.get? callId = some call → call.status = .inFlight → call.body.ambiguous = true →
    db.tasks.get? call.taskId = some task → task.status = .running → op.loses env callId call →
    op.run env db = .ok db' → HumanFirst db' call.taskId := by
  intro claim
  obtain ⟨db, call, task, run, found, flies, ambiguous, claimed, kind, here, running, active⟩ := charge_reached
  obtain ⟨reply, after, done, row, now, status⟩ := @fnCompleteOutbound_lost .bare db 1 task call found flies ambiguous
    here running (some "connection reset")
  have loses : (Op.completeOutbound 1 (some 0) (some "connection reset")).loses .bare 1 call := ⟨rfl, rfl⟩
  obtain ⟨other, again, deferred⟩ := claim paymentDb db .bare _ after 1 call task paymentDb_fresh run found flies
    ambiguous here running loses (by simp only [Op.run, done, Except.map])
  obtain rfl := Option.some.inj (now.symm.trans again)
  rw [active, kind] at status
  exact deferred.not_running status

end Allgres
