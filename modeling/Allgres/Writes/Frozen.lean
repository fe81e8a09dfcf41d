import Allgres.Writes.Worker
import Allgres.Lib.Raising

/-! The model decision that a task keeps for its retries. No function of the control plane
writes it, other than `fn_next_step`. -/

namespace Allgres

open Relational Jsonb Sql Raising

/-- The decision that is stored with a task. -/
def Db.frozen (db : Db) (t : Nat) : Option Json := (db.tasks.get? t).bind TaskRow.functionOverrideState

/-- A function that leaves every task its decision. -/
abbrev KeepsFrozen {α : Type} (db : Db) (result : Except String (α × Db)) : Prop :=
  Ensures result fun result => result.2.frozen = db.frozen

variable {env : Env} {db db' : Db} {turn : Turn} {parsed : Json}

/-! ### Rows -/

theorem frozen_of_tasks (tasks : db'.tasks = db.tasks) : db'.frozen = db.frozen := by
  funext t
  simp only [Db.frozen, tasks]

theorem frozen_of_core (core : db'.core = db.core) : db'.frozen = db.frozen :=
  frozen_of_tasks (congrArg Core.tasks core)

theorem frozen_updateTask (t : Nat) {set : TaskRow → TaskRow}
    (keeps : ∀ row, (set row).functionOverrideState = row.functionOverrideState) :
    (db.updateTask env t set).frozen = db.frozen := by
  funext u
  unfold Db.frozen Db.updateTask
  split
  · rfl
  · rw [Table.get?_modify]
    split
    · cases db.tasks.get? u with
      | none => rfl
      | some row => exact keeps row
    · rfl

@[simp] theorem frozen_bumpStep (t : Nat) : (db.bumpStep env t).frozen = db.frozen :=
  frozen_updateTask t fun _ => rfl

/-- A new task has no decision yet. -/
@[simp] theorem frozen_insertTask (s agentId : Nat) (parent : Option Nat) (input : Json) (depth : Nat)
    (generation : Option Nat) : (db.insertTask env s agentId parent input depth generation).frozen = db.frozen := by
  funext u
  unfold Db.frozen Db.insertTask
  rw [Table.get?_insert]
  split
  · rename_i newest
    rw [newest, Table.get?_next]
    rfl
  · rfl

@[simp] theorem frozen_appendLog (t step : Nat) (role : Role) (content : Json) :
    (db.appendLog env t step role content).frozen = db.frozen := rfl

@[simp] theorem frozen_updateSession (s : Nat) (set : SessionRow → SessionRow) :
    (db.updateSession s set).frozen = db.frozen := rfl

theorem frozen_log (role : Role) (content : Json) : (turn.log env db role content).frozen = db.frozen := rfl

theorem frozen_refuse (content reply : List (String × Json)) :
    (turn.refuse env db content reply).2.frozen = db.frozen :=
  (frozen_bumpStep turn.taskId).trans (frozen_log .error (.build content))

theorem frozen_note (content reply : List (String × Json)) : (turn.note env db content reply).2.frozen = db.frozen :=
  (frozen_bumpStep turn.taskId).trans (frozen_log .assistant (.build content))

theorem frozen_maybeCompleteSession (s : Nat) : (maybeCompleteSession env db s).frozen = db.frozen := by
  simp only [maybeCompleteSession]
  split
  · rfl
  · split <;> rfl

theorem frozen_failTask (t : Nat) (task : TaskRow) (error : String) (content : List (String × Json)) :
    (failTask env db t task error content).frozen = db.frozen :=
  (frozen_maybeCompleteSession task.sessionId).trans (frozen_updateTask t fun _ => rfl)

theorem keepsFrozen_refuse (content reply : List (String × Json)) :
    KeepsFrozen db (.ok (turn.refuse env db content reply)) :=
  ensures_ok.mpr (frozen_refuse content reply)

theorem keepsFrozen_note (same : db'.frozen = db.frozen) (content reply : List (String × Json)) :
    KeepsFrozen db (.ok (turn.note env db' content reply)) :=
  ensures_ok.mpr ((frozen_note content reply).trans same)

theorem keepsFrozen_error {α : Type} {message : String} : KeepsFrozen db (.error message : Except String (α × Db)) :=
  ensures_error.mpr trivial

/-! ### Actions that queue a call -/

theorem frozen_executeSql : (executeSql env db turn parsed).2.frozen = db.frozen := by
  unfold executeSql
  split
  · exact frozen_refuse _ _
  · exact frozen_bumpStep _

theorem frozen_sendRequest (function : Option String) (bound : Option (Nat × Option Nat)) (args : Json)
    (request : Request) : (sendRequest env db turn function bound args request).2.frozen = db.frozen := by
  unfold sendRequest
  split
  · exact frozen_refuse _ _
  · dsimp only
    split
    · exact frozen_refuse _ _
    · exact frozen_bumpStep _

theorem frozen_callOutbound (function : Option String) (bound : Option (Nat × FunctionRow × Option Nat))
    (args origArgs : Json) : (callOutbound env db turn function bound args origArgs).2.frozen = db.frozen := by
  unfold callOutbound
  split
  · exact frozen_refuse _ _
  · exact frozen_sendRequest _ _ _ _

theorem frozen_callBody (name : Option String) (functionId : Nat) (function : FunctionRow) (args : Json) :
    (callBody env db turn name functionId function args).2.frozen = db.frozen := by
  unfold callBody
  split
  · exact frozen_refuse _ _
  · exact frozen_bumpStep _

theorem frozen_callFunction : (callFunction env db turn parsed).2.frozen = db.frozen := by
  unfold callFunction
  dsimp only
  split
  · exact frozen_callOutbound _ _ _ _
  · split
    · exact frozen_refuse _ _
    · split
      · exact frozen_callBody _ _ _ _
      · exact frozen_callOutbound _ _ _ _

theorem frozen_runProcedure : (runProcedure env db turn parsed).2.frozen = db.frozen := by
  unfold runProcedure
  dsimp only
  split
  · exact frozen_refuse _ _
  · split
    · exact frozen_refuse _ _
    · split
      · exact frozen_refuse _ _
      · exact frozen_bumpStep _

theorem frozen_embedQuery (kind : CallKind) (action missing : String) :
    (embedQuery kind action missing env db turn parsed).2.frozen = db.frozen := by
  unfold embedQuery
  split
  · exact frozen_refuse _ _
  · split
    · exact frozen_refuse _ _
    · dsimp only
      split
      · exact frozen_refuse _ _
      · exact frozen_bumpStep _

/-! ### Actions that change the configuration, wait or end the task -/

theorem frozen_finalAnswer : (finalAnswer env db turn parsed).2.frozen = db.frozen := by
  unfold finalAnswer
  dsimp only
  split
  · exact frozen_refuse _ _
  · refine (frozen_maybeCompleteSession _).trans ?_
    exact (frozen_updateSession _ _).trans (frozen_updateTask _ fun _ => rfl)

theorem frozen_spawnChild (target : Nat) (wait : Bool) :
    (spawnChild env db turn parsed target wait).2.frozen = db.frozen := by
  unfold spawnChild
  dsimp only
  split
  · exact (frozen_bumpStep _).trans (frozen_insertTask _ _ _ _ _ _)
  · refine (frozen_updateTask _ ?_).trans (frozen_insertTask _ _ _ _ _ _)
    exact fun _ => rfl

theorem keepsFrozen_delegate : KeepsFrozen db (delegate env db turn parsed) := by
  unfold delegate
  dsimp only
  split
  · exact keepsFrozen_refuse _ _
  · split
    · exact keepsFrozen_refuse _ _
    · split
      · exact keepsFrozen_error
      · exact ensures_ok.mpr (frozen_spawnChild _ _)

theorem keepsFrozen_overrideFunction (functionId : Nat) (op : ExperimentOp) :
    KeepsFrozen db (overrideFunction env db turn parsed functionId op) := by
  unfold overrideFunction
  split
  · exact keepsFrozen_error
  · split
    · exact keepsFrozen_error
    · dsimp only
      split
      · exact keepsFrozen_error
      · rename_i applied
        exact keepsFrozen_note (frozen_of_core (core_autoApply applied)) _ _
      · exact keepsFrozen_note (by rfl) _ _

theorem keepsFrozen_proposeOverride : KeepsFrozen db (proposeOverride env db turn parsed) := by
  unfold proposeOverride
  split
  · exact keepsFrozen_refuse _ _
  · split
    · exact keepsFrozen_error
    · split
      · exact keepsFrozen_refuse _ _
      · split
        · exact keepsFrozen_error
        · exact keepsFrozen_refuse _ _
        · exact keepsFrozen_overrideFunction _ _

theorem frozen_changeTarget {changes : Json} {refused : Json × Db}
    (done : changeTarget env db turn parsed changes = .ok (.error refused)) : refused.2.frozen = db.frozen := by
  unfold changeTarget at done
  split at done
  · cases done
  · split at done
    · obtain rfl := Except.error.inj (Except.ok.inj done)
      exact frozen_refuse _ _
    · split at done
      · cases done
      · cases done
      · split at done
        · cases done
        · obtain rfl := Except.error.inj (Except.ok.inj done)
          exact frozen_refuse _ _

theorem keepsFrozen_changePolicy (changes : Json) (target : Nat) :
    KeepsFrozen db (changePolicy env db turn parsed changes target) := by
  unfold changePolicy
  split
  · split
    · exact keepsFrozen_error
    · rename_i applied
      exact keepsFrozen_note (frozen_of_tasks (@writes_fnSetPolicy env _ _ _ _ _ _ applied).2) _ _
  · dsimp only
    split
    · exact keepsFrozen_note rfl _ _
    · exact keepsFrozen_note (by rfl) _ _

theorem keepsFrozen_proposeChange : KeepsFrozen db (proposeChange env db turn parsed) := by
  unfold proposeChange
  split
  · exact keepsFrozen_proposeOverride
  · split
    · exact keepsFrozen_refuse _ _
    · split
      · exact keepsFrozen_refuse _ _
      · split
        · exact keepsFrozen_error
        · rename_i refusal
          exact ensures_ok.mpr (frozen_changeTarget refusal)
        · exact keepsFrozen_changePolicy _ _

theorem keepsFrozen_createAgent : KeepsFrozen db (createAgent env db turn parsed) := by
  unfold createAgent
  split
  · exact keepsFrozen_refuse _ _
  · split
    · exact keepsFrozen_refuse _ _
    · split
      · split
        · exact keepsFrozen_error
        · rename_i created
          exact keepsFrozen_note (frozen_of_tasks (writes_fnCreateAgent created).2) _ _
      · exact keepsFrozen_note (by rfl) _ _

theorem frozen_createFunction : (createFunction env db turn parsed).2.frozen = db.frozen := by
  unfold createFunction
  dsimp only
  split
  · exact frozen_refuse _ _
  · split
    · split
      · exact frozen_refuse _ _
      · rename_i created
        exact (frozen_note _ _).trans (frozen_of_core (core_fnCreateFunction created))
    · exact frozen_note _ _

theorem frozen_editFunction (functionId : Nat) :
    (editFunction env db turn parsed functionId).2.frozen = db.frozen := by
  unfold editFunction
  split
  · split
    · exact frozen_refuse _ _
    · rename_i updated
      exact (frozen_note _ _).trans (frozen_of_core (core_fnUpdateFunction updated))
  · exact frozen_note _ _

theorem keepsFrozen_updateFunction : KeepsFrozen db (updateFunction env db turn parsed) := by
  unfold updateFunction
  split
  · exact keepsFrozen_error
  · split
    · exact keepsFrozen_refuse _ _
    · exact ensures_ok.mpr (frozen_editFunction _)

theorem keepsFrozen_proposeFix : KeepsFrozen db (proposeFix env db turn parsed) := by
  unfold proposeFix
  split
  · exact keepsFrozen_refuse _ _
  · split
    · exact keepsFrozen_refuse _ _
    · split
      · exact keepsFrozen_error
      · split
        · exact keepsFrozen_refuse _ _
        · unfold fixAgent
          dsimp only
          split
          · split
            · exact keepsFrozen_error
            · rename_i applied
              exact keepsFrozen_note (frozen_of_tasks (@writes_applyFix env _ _ _ _ _ _ applied).2) _ _
          · exact keepsFrozen_note (by rfl) _ _

theorem frozen_moveCutoff (done : moveCutoff env db turn = .ok db') : db'.frozen = db.frozen := by
  obtain ⟨cutoff, -, core⟩ := moveCutoff_core done
  exact frozen_of_tasks (congrArg Core.tasks core)

theorem keepsFrozen_remember : KeepsFrozen db (remember env db turn parsed) := by
  unfold remember
  split
  · exact keepsFrozen_refuse _ _
  · rename_i written
    obtain ⟨memory, -, -, -, -, -, core⟩ := writeMemory_core written
    have kept := frozen_of_tasks (congrArg Core.tasks core)
    dsimp only
    split
    · exact keepsFrozen_error
    · rename_i moved
      exact ensures_ok.mpr (((frozen_moveCutoff moved).trans (frozen_note _ _)).trans kept)

theorem frozen_awaitHuman : (awaitHuman env db turn parsed).2.frozen = db.frozen :=
  frozen_updateTask turn.taskId fun _ => rfl

theorem frozen_awaitChildren : (awaitChildren env db turn).2.frozen = db.frozen := by
  unfold awaitChildren
  split
  · exact frozen_refuse _ _
  · exact frozen_updateTask _ fun _ => rfl

/-! ### `fn_submit_result` -/

theorem keepsFrozen_act (action : Action) : KeepsFrozen db (act env db turn parsed action) := by
  cases action with
  | finalAnswer =>
    rw [act]
    exact ensures_ok.mpr frozen_finalAnswer
  | executeSql =>
    rw [act]
    exact ensures_ok.mpr frozen_executeSql
  | callFunction =>
    rw [act]
    exact ensures_ok.mpr frozen_callFunction
  | runProcedure =>
    rw [act]
    exact ensures_ok.mpr frozen_runProcedure
  | searchAgents =>
    rw [act]
    exact ensures_ok.mpr (frozen_embedQuery _ _ _)
  | recallMemories =>
    rw [act]
    exact ensures_ok.mpr (frozen_embedQuery _ _ _)
  | delegate =>
    rw [act]
    exact keepsFrozen_delegate
  | proposeChange =>
    rw [act]
    exact keepsFrozen_proposeChange
  | createAgent =>
    rw [act]
    exact keepsFrozen_createAgent
  | createFunction =>
    rw [act]
    exact ensures_ok.mpr frozen_createFunction
  | updateFunction =>
    rw [act]
    exact keepsFrozen_updateFunction
  | proposeFix =>
    rw [act]
    exact keepsFrozen_proposeFix
  | remember =>
    rw [act]
    exact keepsFrozen_remember
  | awaitHuman =>
    rw [act]
    exact ensures_ok.mpr frozen_awaitHuman
  | awaitChildren =>
    rw [act]
    exact ensures_ok.mpr frozen_awaitChildren

theorem frozen_submitError (payload : Json) : (submitError env db turn payload).2.frozen = db.frozen := by
  unfold submitError
  dsimp only
  split
  · refine (frozen_maybeCompleteSession _).trans ?_
    refine (frozen_updateTask _ ?_).trans (frozen_bumpStep _)
    exact fun _ => rfl
  · exact frozen_bumpStep _

theorem keepsFrozen_submitReply (payload : Json) : KeepsFrozen db (submitReply env db turn payload) := by
  unfold submitReply
  dsimp only
  split
  · exact keepsFrozen_refuse _ _
  · exact keepsFrozen_act _

theorem keepsFrozen_submitPayload (payload : Json) : KeepsFrozen db (submitPayload env db turn payload) := by
  unfold submitPayload
  split
  · exact ensures_ok.mpr (frozen_submitError payload)
  · exact ensures_ok.mpr (frozen_bumpStep _)
  · exact ensures_ok.mpr (frozen_bumpStep _)
  · exact keepsFrozen_submitReply payload
  · exact ensures_ok.mpr (frozen_bumpStep _)

theorem keepsFrozen_fnSubmitResult (t : Nat) (payload : Json) : KeepsFrozen db (fnSubmitResult env db t payload) := by
  unfold fnSubmitResult
  split
  · exact keepsFrozen_error
  · split
    · exact keepsFrozen_error
    · split
      · exact ensures_ok.mpr (frozen_failTask _ _ _ _)
      · exact keepsFrozen_submitPayload payload

/-! ### Sessions -/

theorem frozen_openTurn (s agentId : Nat) (message : String) : (openTurn env db s agentId message).db.frozen = db.frozen :=
  frozen_insertTask s agentId none _ 0 _

theorem frozen_fnCreateSession {agentId : Nat} {goal : Option String} {projectId scheduleId : Option Nat}
    {created : Created} (done : fnCreateSession env db agentId goal projectId scheduleId = .ok created) :
    created.db.frozen = db.frozen := by
  unfold fnCreateSession at done
  split at done
  · cases done
  · split at done
    · cases done
    · split at done
      · cases done
      · obtain rfl := Except.ok.inj done
        exact frozen_openTurn _ _ _

theorem frozen_fnContinueSession {s : Nat} {message : Option String} {created : Created}
    (done : fnContinueSession env db s message = .ok created) : created.db.frozen = db.frozen := by
  unfold fnContinueSession at done
  split at done
  · cases done
  · split at done
    · cases done
    · split at done
      · cases done
      · split at done
        · cases done
        · obtain rfl := Except.ok.inj done
          exact frozen_openTurn _ _ _

theorem frozen_runSchedule (state : Nat × Db) (selected : Nat × ScheduleRow) :
    (runSchedule env state selected).2.frozen = state.2.frozen := by
  unfold runSchedule
  dsimp only
  split
  · rfl
  · split
    · rfl
    · rename_i created
      exact frozen_fnCreateSession created

theorem frozen_fnRunSchedules : (fnRunSchedules env db).2.frozen = db.frozen := by
  unfold fnRunSchedules
  generalize db.schedules.select _ = due
  suffices passes : ∀ state : Nat × Db, (due.foldl (runSchedule env) state).2.frozen = state.2.frozen from passes (0, db)
  induction due with
  | nil => exact fun _ => rfl
  | cons schedule rest ih => exact fun state => (ih _).trans (frozen_runSchedule state schedule)

theorem frozen_answerTask (t : Nat) (task : TaskRow) (accepted : Bool) (reply : Option String) :
    (answerTask env db t task accepted reply).frozen = db.frozen := by
  unfold answerTask
  dsimp only
  split
  · exact frozen_updateTask _ fun _ => rfl
  · exact (frozen_maybeCompleteSession _).trans (frozen_updateTask _ fun _ => rfl)

theorem keepsFrozen_fnDecideApproval (approvalId : Nat) (accept : Option Bool) (reply : Option String) :
    KeepsFrozen db (fnDecideApproval env db approvalId accept reply) := by
  unfold fnDecideApproval
  split
  · exact keepsFrozen_error
  · split
    · exact keepsFrozen_error
    · dsimp only
      split
      · exact ensures_ok.mpr rfl
      · exact ensures_ok.mpr (frozen_answerTask _ _ _ _)

/-- A loop keeps what each of its passes keeps. -/
theorem frozen_foldl {α : Type} {pass : Db → α → Db} (keeps : ∀ db item, (pass db item).frozen = db.frozen)
    (items : List α) (db : Db) : (items.foldl pass db).frozen = db.frozen := by
  induction items generalizing db with
  | nil => rfl
  | cons item rest ih => exact (ih _).trans (keeps db item)

theorem frozen_cancelTask (reason : String) (db : Db) (selected : Nat × TaskRow) :
    (cancelTask env reason db selected).frozen = db.frozen :=
  frozen_updateTask selected.1 fun _ => rfl

theorem keepsFrozen_fnCancelSession (s : Nat) (reason : Option String) :
    KeepsFrozen db (fnCancelSession env db s reason) := by
  unfold fnCancelSession
  split
  · exact keepsFrozen_error
  · have swept := frozen_foldl (@frozen_cancelTask env ((nonEmpty (reason.map btrim)).getD "Cancelled by operator."))
      (db.tasks.select fun _ task => task.sessionId == s && !task.status.terminal) db
    dsimp only
    generalize List.foldl _ db _ = after at swept ⊢
    refine ensures_ok.mpr (Eq.trans ?_ swept)
    apply frozen_of_tasks
    simp only [Db.audit, Db.updateSession, Db.rejectPending, Db.loseSql, Db.loseOutbound]

/-! ### Workers -/

theorem frozen_submitFor (key : Queue × Nat) (t : Nat) (payload : Json) :
    (submitFor env db key t payload).2.frozen = db.frozen := by
  unfold submitFor
  split
  · dsimp only
    split
    · rename_i reply after done
      exact @keepsFrozen_fnSubmitResult env { db with submits := db.submits ++ [key] } t payload (reply, after) done
    · rfl
  · rfl

theorem frozen_scoreCall (callId : Nat) (call : OutboundBody) (reply : Json) :
    (scoreCall db callId call reply).frozen = db.frozen := by
  unfold scoreCall
  split <;> rfl

theorem keepsFrozen_fnCompleteOutbound (callId : Nat) (status : Option Int) (body : Option String) :
    KeepsFrozen db (fnCompleteOutbound env db callId status body) := by
  unfold fnCompleteOutbound
  split
  · exact keepsFrozen_error
  · split
    · exact ensures_ok.mpr rfl
    · dsimp only
      split
      · exact keepsFrozen_error
      · rename_i built
        refine ensures_ok.mpr ((frozen_scoreCall _ _ _).trans ((frozen_submitFor _ _ _).trans ?_))
        exact frozen_of_tasks (writes_outboundPayload built).1.tasks

theorem keepsFrozen_fnCompleteSql (callId : Nat) (outcome : SqlOutcome) :
    KeepsFrozen db (fnCompleteSql env db callId outcome) := by
  unfold fnCompleteSql
  split
  · exact keepsFrozen_error
  · split
    · exact ensures_ok.mpr rfl
    · exact ensures_ok.mpr (frozen_submitFor _ _ _)

theorem keepsFrozen_fnCompleteFunctionCall (callId : Nat) (outcome : BodyOutcome) :
    KeepsFrozen db (fnCompleteFunctionCall env db callId outcome) := by
  unfold fnCompleteFunctionCall
  split
  · exact keepsFrozen_error
  · split
    · exact ensures_ok.mpr rfl
    · exact ensures_ok.mpr (frozen_submitFor _ _ _)

theorem keepsFrozen_fnCompleteProcedureCall (callId : Nat) (outcome : BodyOutcome) :
    KeepsFrozen db (fnCompleteProcedureCall env db callId outcome) := by
  unfold fnCompleteProcedureCall
  split
  · exact keepsFrozen_error
  · split
    · exact ensures_ok.mpr rfl
    · exact ensures_ok.mpr (frozen_submitFor _ _ _)

/-! ### `fn_watchdog` -/

theorem frozen_reclaimOutbound (db : Db) (selected : Nat × CallRow OutboundBody) :
    (reclaimOutbound env db selected).frozen = db.frozen := by
  unfold reclaimOutbound
  dsimp only
  split
  · exact frozen_updateTask _ fun _ => rfl
  · exact frozen_submitFor _ _ _

theorem frozen_reclaimSql (db : Db) (selected : Nat × CallRow SqlBody) :
    (reclaimSql env db selected).frozen = db.frozen := frozen_submitFor _ _ _

theorem frozen_reclaimFunctionCall (db : Db) (selected : Nat × CallRow BodyCall) :
    (reclaimFunctionCall env db selected).frozen = db.frozen := frozen_submitFor _ _ _

theorem frozen_reclaimProcedureCall (db : Db) (selected : Nat × CallRow BodyCall) :
    (reclaimProcedureCall env db selected).frozen = db.frozen := frozen_submitFor _ _ _

theorem frozen_reclaimBuilds (wait : Time) : (reclaimBuilds env db wait).frozen = db.frozen := frozen_of_tasks rfl

theorem frozen_reclaimProcedureBuilds (wait : Time) : (reclaimProcedureBuilds env db wait).frozen = db.frozen :=
  frozen_of_tasks rfl

theorem frozen_reclaimServices (wait : Time) : (reclaimServices env db wait).frozen = db.frozen := frozen_of_tasks rfl

theorem frozen_reclaimCalls (timeout : Option Int) : (reclaimCalls env db timeout).frozen = db.frozen := by
  unfold reclaimCalls
  dsimp only
  rw [frozen_reclaimServices, frozen_reclaimProcedureBuilds, frozen_foldl frozen_reclaimProcedureCall,
    frozen_reclaimBuilds, frozen_foldl frozen_reclaimFunctionCall, frozen_foldl frozen_reclaimSql,
    frozen_foldl frozen_reclaimOutbound]

theorem frozen_expireApproval (db : Db) (selected : Nat × ApprovalRow) :
    (expireApproval env db selected).frozen = db.frozen := by
  unfold expireApproval
  dsimp only
  split
  · rfl
  · refine (frozen_maybeCompleteSession _).trans ?_
    exact frozen_updateTask _ fun _ => rfl

theorem frozen_timeOutTask (db : Db) (selected : Nat × TaskRow) :
    (timeOutTask env db selected).frozen = db.frozen := by
  refine (frozen_maybeCompleteSession _).trans ?_
  exact frozen_updateTask selected.1 fun _ => rfl

theorem frozen_wakeTask (db : Db) (selected : Nat × TaskRow) : (wakeTask env db selected).frozen = db.frozen :=
  frozen_updateTask selected.1 fun _ => rfl

theorem frozen_dropExpiredMemories : (dropExpiredMemories env db).frozen = db.frozen := frozen_of_tasks rfl

theorem frozen_sweepTasks : (sweepTasks env db).frozen = db.frozen := by
  unfold sweepTasks
  dsimp only
  rw [frozen_dropExpiredMemories, frozen_foldl frozen_wakeTask, frozen_foldl frozen_timeOutTask,
    frozen_foldl frozen_expireApproval]

theorem frozen_fnWatchdog (timeout : Option Int) : (fnWatchdog env db timeout).frozen = db.frozen :=
  frozen_sweepTasks.trans (frozen_reclaimCalls timeout)

end Allgres
