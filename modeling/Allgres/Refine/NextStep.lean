import Allgres.Lib.Runs
import Allgres.Refine.Submit

namespace Allgres

open Relational Jsonb Sql Runs

variable {db db' : Db} {env : Env}

/-- The tables that the preparation of a turn and the end of a task leave alone. -/
def Db.held (db : Db) : Table (CallRow OutboundBody) × Table (CallRow SqlBody) × Table (CallRow BodyCall) ×
    Table (CallRow BodyCall) × Table ApprovalRow × Table PolicyRow :=
  (db.outboundCalls, db.sqlCalls, db.functionCalls, db.procedureCalls, db.approvals, db.policies)

/-- The held tables are as before, and so are the rows of the `spared` tasks. -/
structure Spares (spared : Nat → Prop) (db db' : Db) : Prop where
  rows : ∀ other task, spared other → db.tasks.get? other = some task → db'.tasks.get? other = some task
  held : db'.held = db.held

theorem held_iff : db'.held = db.held ↔ db'.outboundCalls = db.outboundCalls ∧ db'.sqlCalls = db.sqlCalls ∧
    db'.functionCalls = db.functionCalls ∧ db'.procedureCalls = db.procedureCalls ∧ db'.approvals = db.approvals ∧
    db'.policies = db.policies := by
  simp only [Db.held, Prod.mk.injEq]

theorem call_of_held (held : db'.held = db.held) : db'.call = db.call := by
  obtain ⟨outbound, sql, function, procedure, -, -⟩ := held_iff.mp held
  funext ⟨queue, id⟩
  cases queue with
  | outbound => simp only [Db.call, outbound]
  | sql => simp only [Db.call, sql]
  | function => simp only [Db.call, function]
  | procedure => simp only [Db.call, procedure]

theorem Spares.call {spared : Nat → Prop} (spares : Spares spared db db') : db'.call = db.call :=
  call_of_held spares.held

theorem Spares.policies {spared : Nat → Prop} (spares : Spares spared db db') : db'.policies = db.policies :=
  (held_iff.mp spares.held).2.2.2.2.2

theorem Spares.refl (spared : Nat → Prop) (db : Db) : Spares spared db db := ⟨fun _ _ _ found => found, rfl⟩

theorem Spares.trans {spared : Nat → Prop} {a b c : Db} (first : Spares spared a b) (second : Spares spared b c) :
    Spares spared a c where
  rows other task spares found := second.rows other task spares (first.rows other task spares found)
  held := second.held.trans first.held

theorem Spares.mono {spared fewer : Nat → Prop} (spares : Spares spared db db')
    (weaker : ∀ t, fewer t → spared t) : Spares fewer db db' :=
  ⟨fun other task fewer found => spares.rows other task (weaker other fewer) found, spares.held⟩

theorem Spares.logged {spared : Nat → Prop} {t step : Nat} {role : Role} {content : Json}
    (spares : Spares spared db db') : Spares spared db (db'.appendLog env t step role content) :=
  ⟨spares.rows, spares.held⟩

theorem get?_updateTask_other {t other : Nat} (set : TaskRow → TaskRow) (different : other ≠ t) :
    (db.updateTask env t set).tasks.get? other = db.tasks.get? other := by
  unfold Db.updateTask
  split
  · rfl
  · rw [Table.get?_modify, if_neg different]

theorem updateTask_spares (t : Nat) (set : TaskRow → TaskRow) : Spares (· ≠ t) db (db.updateTask env t set) where
  rows other task different found := by rw [get?_updateTask_other set different, found]
  held := by unfold Db.updateTask; split <;> rfl

theorem maybeCompleteSession_spares (s : Nat) : Spares (fun _ => True) db (maybeCompleteSession env db s) where
  rows other task _ found := by rw [maybeCompleteSession_tasks]; exact found
  held := by unfold maybeCompleteSession; dsimp only; split_ifs <;> rfl

theorem failTask_spares (t : Nat) (task : TaskRow) (error : String) (content : List (String × Json)) :
    Spares (· ≠ t) db (failTask env db t task error content) := by
  unfold failTask
  refine .trans ?_ ((maybeCompleteSession_spares task.sessionId).mono fun _ _ => trivial)
  exact (updateTask_spares t _).logged

/-! ### New sessions -/

theorem openTurn_flow (s agentId : Nat) (goal : String) :
    (openTurn env db s agentId goal).db.flow =
      db.flow.addTask db.tasks.next ⟨s, none, .queued, 0, (none, none)⟩ := by
  unfold openTurn
  exact (Quiet.of_appendLog _ _ _ _).flow.trans (flow_insertTask _ _ _ _ _ _)

theorem fnCreateSession_move {agentId : Nat} {goal : Option String} {projectId scheduleId : Option Nat}
    {created : Created} (done : fnCreateSession env db agentId goal projectId scheduleId = .ok created) :
    Flow.Move .plain db.flow created.db.flow := by
  unfold fnCreateSession at done
  split_ifs at done
  obtain rfl := Except.ok.inj done
  rw [openTurn_flow]
  have opened (row : SessionRow) (isOpen : row.status = .opened) :
      { db with sessions := db.sessions.insert row }.flow = db.flow.setSession db.sessions.next .opened := by
    ext1
    case session =>
      funext other
      by_cases same : other = db.sessions.next
      · subst same; simp [Db.flow, Flow.setSession, isOpen]
      · simp [Db.flow, Flow.setSession, Table.get?_insert, same]
    all_goals rfl
  rw [opened _ rfl]
  exact .create _ _ _ (by simp [Db.flow, Table.get?_next]) flow_task_next

theorem fnCreateSession_taskId {agentId : Nat} {goal : Option String} {projectId scheduleId : Option Nat}
    {created : Created} (done : fnCreateSession env db agentId goal projectId scheduleId = .ok created) :
    created.taskId = db.tasks.next := by
  unfold fnCreateSession at done
  split_ifs at done
  obtain rfl := Except.ok.inj done
  rfl

theorem fnCreateSession_spares {agentId : Nat} {goal : Option String} {projectId scheduleId : Option Nat}
    {created : Created} (done : fnCreateSession env db agentId goal projectId scheduleId = .ok created) :
    Spares (fun _ => True) db created.db := by
  unfold fnCreateSession at done
  split_ifs at done
  obtain rfl := Except.ok.inj done
  exact ⟨fun _ _ _ found => Table.get?_insert_old _ found, rfl⟩

/-- The row of a new task is none that was there. -/
theorem Spares.of_new {t : Nat} (newest : t = db.tasks.next) (spares : Spares (· ≠ t) db db') :
    Spares (fun _ => True) db db' := by
  refine ⟨fun other task _ found => spares.rows other task ?_ found, spares.held⟩
  have below := Table.get?_lt_next found
  omega

/-! ### Compaction -/

/-- Every move is a `plain` one. -/
def Plain (event : Flow.Event) (_ : Flow Left) : Prop := event = .plain

theorem startCompaction_path {s compactor : Nat} {logs : List LogRow} {current : Option Time} {cutoff : Time}
    (done : startCompaction env db s compactor logs current cutoff = .ok db') :
    Path Flow.Move Plain db.flow db'.flow ∧ Spares (fun _ => True) db db' := by
  unfold startCompaction at done
  dsimp only at done
  split at done
  · cases done
  · rename_i created opened
    obtain rfl := Except.ok.inj done
    have newest := fnCreateSession_taskId opened
    constructor
    · refine .single ?_ rfl
      refine Eq.mpr (congrArg (Flow.Move .plain db.flow) ?_) (fnCreateSession_move opened)
      refine flow_updateTask_same _ ?_
      intro task
      rfl
    · have kept : Spares (· ≠ created.taskId) db created.db := (fnCreateSession_spares opened).mono fun _ _ => trivial
      refine Spares.of_new newest ((kept.trans (updateTask_spares created.taskId _)).logged)

theorem maybeTriggerCompaction_path {s : Nat} {taskIds : List Nat}
    (done : maybeTriggerCompaction env db s taskIds = .ok db') :
    Path Flow.Move Plain db.flow db'.flow ∧ Spares (fun _ => True) db db' := by
  have unchanged (same : (Except.ok db : Except String Db) = .ok db') :
      Path Flow.Move Plain db.flow db'.flow ∧ Spares (fun _ => True) db db' := by
    obtain rfl := Except.ok.inj same
    exact ⟨.refl, .refl _ _⟩
  unfold maybeTriggerCompaction at done
  split at done
  · exact unchanged done
  · split at done
    · cases done
    · split at done
      · cases done
      · dsimp only at done
        split_ifs at done
        · exact unchanged done
        · exact unchanged done
        · split at done
          · exact unchanged done
          · exact startCompaction_path done

/-! ### `fn_next_step` -/

theorem conversation_path {t : Nat} {task : TaskRow} {taskIds : List Nat}
    (done : conversation env db t task = .ok (taskIds, db')) :
    Path Flow.Move Plain db.flow db'.flow ∧ Spares (fun _ => True) db db' := by
  unfold conversation at done
  dsimp only at done
  split at done
  · split at done
    · cases done
    · rename_i compacted
      obtain ⟨-, rfl⟩ := Prod.mk.inj (Except.ok.inj done)
      exact maybeTriggerCompaction_path compacted
  · obtain ⟨-, rfl⟩ := Prod.mk.inj (Except.ok.inj done)
    exact ⟨.refl, .refl _ _⟩

theorem resolveOverride_same {t : Nat} {task : TaskRow} {override : Override}
    (done : resolveOverride env db t task = .ok (override, db')) :
    db'.flow = db.flow ∧ Spares (· ≠ t) db db' := by
  have stored (state : Json) : (db.updateTask env t fun row =>
      { row with functionOverrideState := some state }).flow = db.flow := by
    refine flow_updateTask_same _ ?_
    intro task
    rfl
  have same {db' : Db} (left : db = db') : db'.flow = db.flow ∧ Spares (· ≠ t) db db' := by
    subst left
    exact ⟨rfl, .refl _ _⟩
  unfold resolveOverride at done
  split at done
  · exact same (Prod.mk.inj (Except.ok.inj done)).2
  · split at done
    · cases done
    · split at done
      · cases done
      · split at done
        · exact same (Prod.mk.inj (Except.ok.inj done)).2
        · dsimp only at done
          split at done
          · obtain ⟨-, rfl⟩ := Prod.mk.inj (Except.ok.inj done)
            exact ⟨stored _, updateTask_spares t _⟩
          · split at done
            · cases done
            · split at done
              · split at done
                · cases done
                · exact same (Prod.mk.inj (Except.ok.inj done)).2
              · obtain ⟨-, rfl⟩ := Prod.mk.inj (Except.ok.inj done)
                exact ⟨stored _, updateTask_spares t _⟩

theorem prepareTurn_path {t : Nat} {task row : TaskRow} {policy : PolicyRow} {next : NextStep}
    (found : db.tasks.get? t = some row) (done : prepareTurn env db t task policy = .ok (next, db')) :
    (∃ spec, next = .callLlm spec) ∧ Path Flow.Move Plain db.flow db'.flow ∧ Spares (· ≠ t) db db' ∧
      db'.flow.task t = some row.view := by
  unfold prepareTurn at done
  dsimp only at done
  split at done
  · cases done
  · rename_i talked
    obtain ⟨path, kept⟩ := conversation_path talked
    split at done
    · cases done
    · rename_i resolved
      obtain ⟨rfl, rfl⟩ := Prod.mk.inj (Except.ok.inj done)
      obtain ⟨same, own⟩ := resolveOverride_same resolved
      have touched : Spares (· ≠ t) db (touchMemories env db (recalledMemories env db task.agentId)) :=
        ⟨fun _ _ _ found => found, rfl⟩
      rw [same]
      exact ⟨⟨_, rfl⟩, path, (touched.trans (kept.mono fun _ _ => trivial)).trans own,
        flow_task (kept.rows t row trivial found)⟩

theorem startTask_path (env : Env) {t : Nat} {task : TaskRow} (found : db.tasks.get? t = some task)
    (runnable : task.status = .queued ∨ task.status = .running) :
    Path Flow.Move Plain db.flow (startTask env db t task).flow ∧ Spares (· ≠ t) db (startTask env db t task) ∧
      ∃ row, (startTask env db t task).tasks.get? t = some row ∧ row.view = { task.view with status := .running } := by
  unfold startTask
  split
  · rename_i queued
    refine ⟨.single ?_ rfl, updateTask_spares t _, _, (get?_updateTask _ found t).trans (if_pos rfl), rfl⟩
    rw [flow_updateTask _ found]
    exact .start t (flow_task found) queued
  · rename_i notQueued
    have running := runnable.resolve_left notQueued
    refine ⟨.refl, .refl _ _, task, found, ?_⟩
    rw [← running]
    rfl

/-- The moves of a turn that may end the task `t`, whose calls are those of `db`. -/
def Reporting (t : Nat) (db : Db) : Flow.Event → Flow Left → Prop
  | .plain, _ => True
  | .report other, σ => other = t ∧ σ.call = db.call
  | _, _ => False

theorem Reporting.of_plain {t : Nat} {event : Flow.Event} {σ : Flow Left} (plain : Plain event σ) :
    Reporting t db event σ := by
  rw [show event = .plain from plain]
  trivial

theorem startTask_failed {t : Nat} {task : TaskRow} (found : db.tasks.get? t = some task)
    (runnable : task.status = .queued ∨ task.status = .running) (error : String) (content : List (String × Json)) :
    Path Flow.Move (Reporting t db) db.flow (failTask env (startTask env db t task) t task error content).flow ∧
      Spares (· ≠ t) db (failTask env (startTask env db t task) t task error content) := by
  obtain ⟨path, kept, row, now, view⟩ := startTask_path env found runnable
  have running : row.view.status = .running := by rw [view]
  have session : row.view.session = task.view.session := by rw [view]
  have failed : Flow.Move (.report t) (startTask env db t task).flow
      (failTask env (startTask env db t task) t task error content).flow :=
    .report t (flow_task now) running (failTask_effect now session error content)
  exact ⟨.step (path.mono fun _ _ => Reporting.of_plain) failed ⟨rfl, kept.call⟩,
    kept.trans (failTask_spares t task error content)⟩

theorem fnNextStep_done {t : Nat} {reason : String} (done : fnNextStep env db t = .ok (.done reason, db')) :
    Path Flow.Move (Reporting t db) db.flow db'.flow ∧ Spares (· ≠ t) db db' := by
  unfold fnNextStep at done
  split at done
  · cases done
  · rename_i task found
    split at done
    · cases done
    · rename_i runnable
      have runnable : task.status = .queued ∨ task.status = .running := by
        by_contra neither
        exact runnable (not_or.mp neither)
      dsimp only at done
      split at done
      · obtain ⟨-, rfl⟩ := Prod.mk.inj (Except.ok.inj done)
        exact startTask_failed found runnable _ _
      · split at done
        · cases done
        · split at done
          · obtain ⟨-, rfl⟩ := Prod.mk.inj (Except.ok.inj done)
            exact startTask_failed found runnable _ _
          · obtain ⟨-, -, row, now, -⟩ := startTask_path env found runnable
            obtain ⟨⟨spec, asks⟩, -⟩ := prepareTurn_path now done
            cases asks

/-- A turn that asks the model is below the step limit of its agent. -/
theorem fnNextStep_callLlm {t : Nat} {spec : LlmSpec} (done : fnNextStep env db t = .ok (.callLlm spec, db')) :
    Path Flow.Move Plain db.flow db'.flow ∧ Spares (· ≠ t) db db' ∧
      ∃ task policy, db.tasks.get? t = some task ∧ db.policyOf task.agentId = some policy ∧
        task.stepCount < policy.maxSteps ∧ db'.flow.task t = some { task.view with status := .running } := by
  unfold fnNextStep at done
  split at done
  · cases done
  · rename_i task found
    split at done
    · cases done
    · rename_i runnable
      have runnable : task.status = .queued ∨ task.status = .running := by
        by_contra neither
        exact runnable (not_or.mp neither)
      dsimp only at done
      split at done
      · cases Except.ok.inj done
      · split at done
        · cases done
        · rename_i policy known
          split at done
          · cases Except.ok.inj done
          · rename_i below
            obtain ⟨path, kept, row, now, view⟩ := startTask_path env found runnable
            obtain ⟨-, onward, others, still⟩ := prepareTurn_path now done
            have policies : (startTask env db t task).policyOf task.agentId = db.policyOf task.agentId := by
              unfold Db.policyOf
              rw [kept.policies]
            refine ⟨path.trans onward, kept.trans others, task, policy, found, policies.symm.trans known, by omega, ?_⟩
            rw [still, view]

end Allgres
