import Allgres.Edits.Submit
import Allgres.Machine

/-! The edits of the other functions of the control plane. None of them has a say in what agents may do. -/

namespace Allgres

open Relational Jsonb Sql Raising

variable {env : Env} {powers : Powers} {db db' : Db}

/-! ### Sessions -/

theorem edits_openTurn (s agentId : Nat) (message : String) :
    Edits env powers db (openTurn env db s agentId message).db :=
  (edits_insertTask ..).trans (edits_appendLog ..)

/-- The edits of a function that opens a session. -/
abbrev Begins (env : Env) (powers : Powers) (db : Db) (result : Except String Created) : Prop :=
  Ensures result fun created => Edits env powers db created.db

theorem begins_fnCreateSession (agentId : Nat) (goal : Option String) (projectId scheduleId : Option Nat) :
    Begins env powers db (fnCreateSession env db agentId goal projectId scheduleId) := by
  unfold fnCreateSession
  split
  · exact ensures_error.mpr trivial
  · split
    · exact ensures_error.mpr trivial
    · split
      · exact ensures_error.mpr trivial
      · refine ensures_ok.mpr (.trans (OnlyTraffic.edits ?_) (edits_openTurn ..))
        rfl

theorem begins_fnContinueSession (s : Nat) (message : Option String) :
    Begins env powers db (fnContinueSession env db s message) := by
  unfold fnContinueSession
  split
  · exact ensures_error.mpr trivial
  · split
    · exact ensures_error.mpr trivial
    · split
      · exact ensures_error.mpr trivial
      · split
        · exact ensures_error.mpr trivial
        · exact ensures_ok.mpr ((edits_updateSession _ _).trans (edits_openTurn ..))

theorem edits_runSchedule (state : Nat × Db) (selected : Nat × ScheduleRow) :
    Edits env powers state.2 (runSchedule env state selected).2 := by
  unfold runSchedule
  dsimp only
  split
  · exact OnlyTraffic.edits rfl
  · split
    · exact OnlyTraffic.edits rfl
    · rename_i created
      exact .trans (begins_fnCreateSession _ _ _ _ _ created) (OnlyTraffic.edits rfl)

theorem edits_fnRunSchedules : Edits env powers db (fnRunSchedules env db).2 := by
  unfold fnRunSchedules
  generalize db.schedules.select _ = due
  suffices passes : ∀ state : Nat × Db, Edits env powers state.2 (due.foldl (runSchedule env) state).2 from passes (0, db)
  induction due with
  | nil => exact fun _ => .refl
  | cons schedule rest ih => exact fun state => (edits_runSchedule state schedule).trans (ih _)

theorem edits_answerTask (t : Nat) (task : TaskRow) (accepted : Bool) (reply : Option String) :
    Edits env powers db (answerTask env db t task accepted reply) := by
  unfold answerTask
  dsimp only
  split
  · exact (edits_appendLog ..).trans (edits_updateTask _ _)
  · exact ((edits_appendLog ..).trans (edits_updateTask _ _)).trans (edits_maybeCompleteSession _)

theorem leaves_fnDecideApproval (approvalId : Nat) (accept : Option Bool) (reply : Option String) :
    Leaves env powers db (fnDecideApproval env db approvalId accept reply) := by
  have decides (accepted : Bool) : Edits env powers db (decideRow env db approvalId accepted reply) :=
    OnlyTraffic.edits rfl
  unfold fnDecideApproval
  split
  · exact leaves_error
  · split
    · exact leaves_error
    · dsimp only
      split
      · exact ensures_ok.mpr (Edits.audited (decides _) _ _)
      · exact ensures_ok.mpr (Edits.audited ((decides _).trans (edits_answerTask _ _ _ _)) _ _)

theorem edits_cancelTask (reason : String) (db : Db) (selected : Nat × TaskRow) :
    Edits env powers db (cancelTask env reason db selected) :=
  (edits_appendLog ..).trans (edits_updateTask selected.1 _)

theorem edits_loseCalls (cond : Nat → Bool) (error : String) :
    Edits env powers db ((db.loseOutbound env cond error).loseSql env cond) := OnlyTraffic.edits rfl

theorem edits_rejectPending (cond : Nat → Bool) : Edits env powers db (db.rejectPending env cond) :=
  OnlyTraffic.edits rfl

theorem leaves_fnCancelSession (s : Nat) (reason : Option String) :
    Leaves env powers db (fnCancelSession env db s reason) := by
  unfold fnCancelSession
  split
  · exact leaves_error
  · have cancelled := @edits_foldl env powers _ _ (edits_cancelTask ((nonEmpty (reason.map btrim)).getD "Cancelled by operator."))
      (db.tasks.select fun _ task => task.sessionId == s && !task.status.terminal) db
    dsimp only
    generalize List.foldl _ db _ = after at cancelled ⊢
    refine ensures_ok.mpr (Edits.audited (cancelled.trans ?_) _ _)
    exact ((edits_loseCalls ..).trans (edits_rejectPending _)).trans (edits_updateSession _ _)

/-! ### The next step -/

theorem edits_touchMemories (recalled : List (Nat × MemoryRow)) : Edits env powers db (touchMemories env db recalled) :=
  Edit.edits (.touch _)

theorem edits_startTask (t : Nat) (task : TaskRow) : Edits env powers db (startTask env db t task) := by
  unfold startTask
  split
  · exact edits_updateTask _ _
  · exact .refl

theorem ensures_startCompaction (s compactor : Nat) (logs : List LogRow) (current : Option Time) (cutoff : Time) :
    Ensures (startCompaction env db s compactor logs current cutoff) fun later => Edits env powers db later := by
  unfold startCompaction
  dsimp only
  split
  · exact ensures_error.mpr trivial
  · rename_i created
    have opened : Edits env powers db _ := begins_fnCreateSession _ _ _ _ _ created
    exact ensures_ok.mpr ((opened.trans (edits_updateTask _ _)).trans (edits_appendLog ..))

theorem ensures_maybeTriggerCompaction (s : Nat) (taskIds : List Nat) :
    Ensures (maybeTriggerCompaction env db s taskIds) fun later => Edits env powers db later := by
  unfold maybeTriggerCompaction
  split
  · exact ensures_ok.mpr .refl
  · split
    · exact ensures_error.mpr trivial
    · split
      · exact ensures_error.mpr trivial
      · dsimp only
        split
        · exact ensures_ok.mpr .refl
        · split
          · exact ensures_ok.mpr .refl
          · split
            · exact ensures_ok.mpr .refl
            · exact ensures_startCompaction _ _ _ _ _

theorem leaves_conversation (t : Nat) (task : TaskRow) : Leaves env powers db (conversation env db t task) := by
  unfold conversation
  split
  · dsimp only
    split
    · exact leaves_error
    · rename_i compacted
      exact ensures_ok.mpr (ensures_maybeTriggerCompaction _ _ _ compacted)
  · exact ensures_ok.mpr .refl

theorem leaves_resolveOverride (t : Nat) (task : TaskRow) : Leaves env powers db (resolveOverride env db t task) := by
  unfold resolveOverride
  split
  · exact ensures_ok.mpr .refl
  · split
    · exact leaves_error
    · split
      · exact leaves_error
      · split
        · exact ensures_ok.mpr .refl
        · dsimp only
          split
          · exact ensures_ok.mpr (edits_updateTask _ _)
          · split
            · exact leaves_error
            · split
              · split
                · exact leaves_error
                · exact ensures_ok.mpr .refl
              · exact ensures_ok.mpr (edits_updateTask _ _)

theorem leaves_prepareTurn (t : Nat) (task : TaskRow) (policy : PolicyRow) :
    Leaves env powers db (prepareTurn env db t task policy) := by
  have touched := @edits_touchMemories env powers db (recalledMemories env db task.agentId)
  unfold prepareTurn
  dsimp only
  split
  · exact leaves_error
  · rename_i talked
    have compacted : Edits env powers _ _ := leaves_conversation _ _ _ talked
    split
    · exact leaves_error
    · rename_i resolved
      have stored : Edits env powers _ _ := leaves_resolveOverride _ _ _ resolved
      exact ensures_ok.mpr ((touched.trans compacted).trans stored)

theorem leaves_fnNextStep (t : Nat) : Leaves env powers db (fnNextStep env db t) := by
  unfold fnNextStep
  split
  · exact leaves_error
  · rename_i task here
    have started := @edits_startTask env powers db t task
    split
    · exact leaves_error
    · dsimp only
      split
      · exact ensures_ok.mpr (started.trans (edits_failTask _ _ _ _))
      · split
        · exact leaves_error
        · split
          · exact ensures_ok.mpr (started.trans (edits_failTask _ _ _ _))
          · exact (leaves_prepareTurn t task _).imp fun _ => started.trans

/-! ### Stalled builds and calls of the services -/

theorem overdue_outstanding {wait : Time} {call : ServiceCall} (overdue : call.overdue env wait = true) :
    call.status.outstanding = true := by
  rw [ServiceCall.overdue, Bool.and_eq_true, beq_iff_eq] at overdue
  rw [overdue.1]
  rfl

theorem evolves_loseService {goes : ServiceCall → Prop} (calls : Table ServiceCall) (wait : Time) :
    Evolves ServiceCall.Onward goes calls (loseService env calls wait) := by
  refine Evolves.update ServiceCall.Onward.refl calls fun key call found overdue => ?_
  exact call.onward_of (overdue_outstanding overdue) (by decide) _ _

theorem advancesLogins_loseOauth (calls : Table OauthCallRow) (wait : Time) :
    AdvancesLogins calls (loseOauth env calls wait) := by
  refine Evolves.update OauthCallRow.Onward.refl calls fun key call found overdue => ?_
  exact ⟨call.onward_of (overdue_outstanding overdue) (by decide) _ _, rfl, rfl⟩

theorem edits_reclaimServices (wait : Time) : Edits env powers db (reclaimServices env db wait) := by
  have logins : Edits env powers db { db with oauthCalls := loseOauth env db.oauthCalls wait } :=
    Edit.edits (.logins _ _ (advancesLogins_loseOauth _ _))
  exact (logins.tail (.embeddings _ (evolves_loseService _ _))).tail (.probes _ (evolves_loseService _ _))

theorem edits_reclaimBuilds (wait : Time) : Edits env powers db (reclaimBuilds env db wait) :=
  Edit.edits (.build _ _ fun _ _ => rfl)

theorem edits_reclaimProcedureBuilds (wait : Time) : Edits env powers db (reclaimProcedureBuilds env db wait) :=
  Edit.edits (.buildProcedure _ _ fun _ _ => rfl)

/-! ### The dispatcher -/

section Covered

variable (covers : powers.Covers)

include covers

theorem edits_reportFailure (t : Nat) (error : String) : Edits env powers db (reportFailure env db t error) := by
  unfold reportFailure
  split
  · exact .refl
  · rename_i submitted
    exact leaves_fnSubmitResult covers _ _ _ submitted

theorem leaves_dispatchTask (t agentId : Nat) : Leaves env powers db (dispatchTask env db t agentId) := by
  unfold dispatchTask
  split
  · exact ensures_ok.mpr .refl
  · split
    · exact ensures_ok.mpr (edits_reportFailure covers _ _)
    · rename_i stepped
      exact ensures_ok.mpr (leaves_fnNextStep _ _ stepped)
    · rename_i stepped
      have turned : Edits env powers db _ := leaves_fnNextStep _ _ stepped
      split
      · split
        · exact leaves_error
        · rename_i submitted
          have told : Edits env powers _ _ := leaves_fnSubmitResult covers _ _ _ submitted
          exact ensures_ok.mpr (turned.trans told)
      · split
        · exact ensures_ok.mpr (turned.trans (edits_insertOutbound _ _))
        · exact leaves_error

theorem ensures_dispatchLoop (tasks : List (Nat × TaskRow)) (state : Dispatched) :
    Ensures (dispatchLoop env tasks state) fun done => Edits env powers state.db done.db := by
  induction tasks generalizing state with
  | nil => exact ensures_ok.mpr .refl
  | cons selected rest ih =>
    obtain ⟨t, task⟩ := selected
    unfold dispatchLoop
    split
    · exact ensures_error.mpr trivial
    · rename_i dispatched
      have passed : Edits env powers state.db _ := leaves_dispatchTask covers _ _ _ dispatched
      exact (ih _).imp fun _ => passed.trans
    · rename_i dispatched
      have passed : Edits env powers state.db _ := leaves_dispatchTask covers _ _ _ dispatched
      dsimp only
      split
      · exact ensures_ok.mpr passed
      · exact (ih _).imp fun _ => passed.trans

theorem ensures_fnDispatchTasks : Ensures (fnDispatchTasks env db) fun done => Edits env powers db done.db :=
  ensures_dispatchLoop covers _ _

/-! ### Completions -/

theorem edits_submitFor (key : Queue × Nat) (t : Nat) (payload : Json) :
    Edits env powers db (submitFor env db key t payload).2 := by
  have counted : Edits env powers db { db with submits := db.submits ++ [key] } := OnlyTraffic.edits rfl
  unfold submitFor
  split
  · dsimp only
    split
    · rename_i submitted
      exact counted.trans (leaves_fnSubmitResult covers _ _ _ submitted)
    · exact counted
  · exact .refl

omit covers in
theorem edits_forgetResponseFormat (call : OutboundBody) (status : Option Int) (body : Option String) :
    Edits env powers db (forgetResponseFormat env db call status body) := by
  unfold forgetResponseFormat
  split
  · exact Edit.edits (.format _)
  · exact .refl

omit covers in
theorem edits_recordUsage (callId taskId : Nat) (call : OutboundBody) (body : Option String) :
    Edits env powers db (recordUsage db callId taskId call body) := by
  refine OnlyTraffic.edits ?_
  unfold recordUsage chargeSchedule
  dsimp only
  split <;> rfl

omit covers in
theorem leaves_outboundPayload (callId taskId : Nat) (call : OutboundBody) (status : Option Int) (body : Option String) :
    Leaves env powers db (outboundPayload env db callId taskId call status body) := by
  unfold outboundPayload
  split
  · exact ensures_ok.mpr .refl
  · exact ensures_map.mpr (.of_forall fun _ => .refl)
  · exact ensures_map.mpr (.of_forall fun _ => .refl)
  · exact ensures_map.mpr (.of_forall fun _ => .refl)
  · split
    · exact ensures_ok.mpr (edits_forgetResponseFormat _ _ _)
    · exact ensures_ok.mpr (edits_recordUsage _ _ _ _)

omit covers in
theorem edits_scoreCall (callId : Nat) (call : OutboundBody) (reply : Json) :
    Edits env powers db (scoreCall db callId call reply) := by
  unfold scoreCall
  split
  · exact OnlyTraffic.edits rfl
  · exact .refl

theorem leaves_fnCompleteOutbound (callId : Nat) (status : Option Int) (body : Option String) :
    Leaves env powers db (fnCompleteOutbound env db callId status body) := by
  unfold fnCompleteOutbound
  split
  · exact leaves_error
  · split
    · exact ensures_ok.mpr .refl
    · dsimp only
      split
      · exact leaves_error
      · rename_i built
        have read : Edits env powers _ _ := leaves_outboundPayload _ _ _ _ _ _ built
        have harvested : Edits env powers db (harvestOutbound env db callId status body) := OnlyTraffic.edits rfl
        exact ensures_ok.mpr (((harvested.trans read).trans (edits_submitFor covers _ _ _)).trans (edits_scoreCall _ _ _))

theorem leaves_fnCompleteSql (callId : Nat) (outcome : SqlOutcome) :
    Leaves env powers db (fnCompleteSql env db callId outcome) := by
  have harvested : Edits env powers db { db with sqlCalls := db.sqlCalls.modify callId (retire env .harvested) } :=
    OnlyTraffic.edits rfl
  unfold fnCompleteSql
  split
  · exact leaves_error
  · split
    · exact ensures_ok.mpr .refl
    · exact ensures_ok.mpr (harvested.trans (edits_submitFor covers _ _ _))

theorem leaves_fnCompleteFunctionCall (callId : Nat) (outcome : BodyOutcome) :
    Leaves env powers db (fnCompleteFunctionCall env db callId outcome) := by
  have harvested : Edits env powers db
      { db with functionCalls := db.functionCalls.modify callId (retire env .harvested) } := OnlyTraffic.edits rfl
  unfold fnCompleteFunctionCall
  split
  · exact leaves_error
  · split
    · exact ensures_ok.mpr .refl
    · exact ensures_ok.mpr (harvested.trans (edits_submitFor covers _ _ _))

theorem leaves_fnCompleteProcedureCall (callId : Nat) (outcome : BodyOutcome) :
    Leaves env powers db (fnCompleteProcedureCall env db callId outcome) := by
  have harvested : Edits env powers db
      { db with procedureCalls := db.procedureCalls.modify callId (retire env .harvested) } := OnlyTraffic.edits rfl
  unfold fnCompleteProcedureCall
  split
  · exact leaves_error
  · split
    · exact ensures_ok.mpr .refl
    · exact ensures_ok.mpr (harvested.trans (edits_submitFor covers _ _ _))

/-! ### The watchdog -/

theorem edits_reclaimOutbound (db : Db) (selected : Nat × CallRow OutboundBody) :
    Edits env powers db (reclaimOutbound env db selected) := by
  have lost : Edits env powers db
      { db with outboundCalls := db.outboundCalls.modify selected.1 (loseOutboundCall env) } := OnlyTraffic.edits rfl
  unfold reclaimOutbound
  dsimp only
  split
  · exact (lost.trans (edits_updateTask _ _)).trans (edits_insertApproval _ _ _)
  · exact lost.trans (edits_submitFor covers _ _ _)

theorem edits_reclaimSql (db : Db) (selected : Nat × CallRow SqlBody) :
    Edits env powers db (reclaimSql env db selected) := by
  have lost : Edits env powers db { db with sqlCalls := db.sqlCalls.modify selected.1 (retire env .lost) } :=
    OnlyTraffic.edits rfl
  exact lost.trans (edits_submitFor covers _ _ _)

theorem edits_reclaimFunctionCall (db : Db) (selected : Nat × CallRow BodyCall) :
    Edits env powers db (reclaimFunctionCall env db selected) := by
  have lost : Edits env powers db { db with functionCalls := db.functionCalls.modify selected.1 (retire env .lost) } :=
    OnlyTraffic.edits rfl
  exact lost.trans (edits_submitFor covers _ _ _)

theorem edits_reclaimProcedureCall (db : Db) (selected : Nat × CallRow BodyCall) :
    Edits env powers db (reclaimProcedureCall env db selected) := by
  have lost : Edits env powers db { db with procedureCalls := db.procedureCalls.modify selected.1 (retire env .lost) } :=
    OnlyTraffic.edits rfl
  exact lost.trans (edits_submitFor covers _ _ _)

theorem edits_reclaimCalls (timeout : Option Int) : Edits env powers db (reclaimCalls env db timeout) := by
  unfold reclaimCalls
  dsimp only
  refine .trans ?_ (edits_reclaimServices _)
  refine .trans ?_ (edits_reclaimProcedureBuilds _)
  refine .trans ?_ (edits_foldl (edits_reclaimProcedureCall covers) _ _)
  refine .trans ?_ (edits_reclaimBuilds _)
  refine .trans ?_ (edits_foldl (edits_reclaimFunctionCall covers) _ _)
  exact (edits_foldl (edits_reclaimOutbound covers) _ _).trans (edits_foldl (edits_reclaimSql covers) _ _)

omit covers in
theorem edits_expireApproval (db : Db) (selected : Nat × ApprovalRow) :
    Edits env powers db (expireApproval env db selected) := by
  have rejected : Edits env powers db (rejectExpired env db selected.1) := OnlyTraffic.edits rfl
  unfold expireApproval
  dsimp only
  split
  · exact rejected
  · refine rejected.trans (.trans ?_ (edits_maybeCompleteSession _))
    exact (edits_appendLog ..).trans (edits_updateTask _ _)

omit covers in
theorem edits_timeOutTask (db : Db) (selected : Nat × TaskRow) : Edits env powers db (timeOutTask env db selected) := by
  refine .trans ?_ (edits_maybeCompleteSession _)
  exact ((edits_appendLog ..).trans (edits_updateTask selected.1 _)).trans (edits_loseCalls _ _)

omit covers in
theorem edits_wakeTask (db : Db) (selected : Nat × TaskRow) : Edits env powers db (wakeTask env db selected) :=
  (edits_appendLog ..).trans (edits_updateTask selected.1 _)

omit covers in
theorem edits_dropExpiredMemories : Edits env powers db (dropExpiredMemories env db) := Edit.edits (.forget _)

omit covers in
theorem edits_sweepTasks : Edits env powers db (sweepTasks env db) := by
  unfold sweepTasks
  dsimp only
  refine .trans ?_ edits_dropExpiredMemories
  refine .trans ?_ (edits_foldl edits_wakeTask _ _)
  exact (edits_foldl edits_expireApproval _ _).trans (edits_foldl edits_timeOutTask _ _)

theorem edits_fnWatchdog (timeout : Option Int) : Edits env powers db (fnWatchdog env db timeout) :=
  (edits_reclaimCalls covers timeout).trans edits_sweepTasks

/-- Every function of the control plane is a sequence of edits. -/
theorem edits_run (op : Op) : Ensures (op.run env db) fun later => Edits env powers db later := by
  cases op with
  | createSession =>
    rw [Op.run]
    exact ensures_map.mpr (begins_fnCreateSession _ _ _ _)
  | continueSession =>
    rw [Op.run]
    exact ensures_map.mpr (begins_fnContinueSession _ _)
  | runSchedules =>
    rw [Op.run]
    exact ensures_ok.mpr edits_fnRunSchedules
  | dispatchTasks =>
    rw [Op.run]
    exact ensures_map.mpr (ensures_fnDispatchTasks covers)
  | claimOutbound =>
    rw [Op.run]
    exact ensures_ok.mpr (OnlyTraffic.edits rfl)
  | claimSql =>
    rw [Op.run]
    exact ensures_ok.mpr (OnlyTraffic.edits rfl)
  | claimFunctionCalls =>
    rw [Op.run]
    exact ensures_ok.mpr (OnlyTraffic.edits rfl)
  | claimProcedureCalls =>
    rw [Op.run]
    exact ensures_ok.mpr (OnlyTraffic.edits rfl)
  | completeOutbound =>
    rw [Op.run]
    exact ensures_map.mpr (leaves_fnCompleteOutbound covers _ _ _)
  | completeSql =>
    rw [Op.run]
    exact ensures_map.mpr (leaves_fnCompleteSql covers _ _)
  | completeFunctionCall =>
    rw [Op.run]
    exact ensures_map.mpr (leaves_fnCompleteFunctionCall covers _ _)
  | completeProcedureCall =>
    rw [Op.run]
    exact ensures_map.mpr (leaves_fnCompleteProcedureCall covers _ _)
  | decideApproval =>
    rw [Op.run]
    exact ensures_map.mpr (leaves_fnDecideApproval _ _ _)
  | cancelSession =>
    rw [Op.run]
    exact ensures_map.mpr (leaves_fnCancelSession _ _)
  | watchdog timeout =>
    rw [Op.run]
    exact ensures_ok.mpr (edits_fnWatchdog covers timeout)
  | nextStep =>
    rw [Op.run]
    exact ensures_map.mpr (leaves_fnNextStep _)
  | submitResult =>
    rw [Op.run]
    exact ensures_map.mpr (leaves_fnSubmitResult covers _ _)

end Covered

end Allgres
