import Allgres.Safety.Harvest
import Allgres.Safety.Budget

/-! What is recorded of the calls that experiments are judged by. -/

namespace Allgres

open Relational Jsonb Sql Runs

variable {env : Env} {db db' start : Db} {callId t : Nat} {call : CallRow OutboundBody} {task : TaskRow}
  {status : Option Int} {body : Option String} {timeout : Option Int}

/-- The call counts for the success rate of its Function. -/
def OutboundBody.scored (call : OutboundBody) : Bool := call.kind == .llm && call.procedureFunctionId.isSome

/-! ### A call that is answered -/

def givenAnswer (parsed : Json) : Option String :=
  ((nonEmpty (parsed.getText? "answer")).or (nonEmpty (parsed.getText? "content"))).or
    (nonEmpty (parsed.getText? "final_answer"))

/-- The reply asks for a known action; a final answer says something. -/
def recognised (reply : Option Json) : Bool :=
  match (reply.bind fun value => value.getText? "action").bind Action.ofText with
  | none => false
  | some .finalAnswer => (givenAnswer (reply.getD .null)).isSome
  | some _ => true

def Db.staffed (db : Db) (t : Nat) : Bool :=
  (db.tasks.get? t).any fun task => ((db.agents.get? task.agentId).filter AgentRow.isActive).isSome

/-- The answer is usable, and its action is carried out for the task. -/
def CarriedOut (env : Env) (db : Db) (t : Nat) (status : Option Int) (body : Option String) : Prop :=
  isLlmFailure status = false ∧ db.isRunning t = true ∧ db.staffed t = true ∧
    recognised (parsedReply (llmPayload body)) = true ∧ replyRaises env db t (parsedReply (llmPayload body)) = false

/-- An outcome is recorded, and it is `success` only for a call whose action was carried out. -/
def HonestOutcome (dispatched : Prop) (outcome : Option CallOutcome) : Prop :=
  outcome = some .failure ∨ outcome = some .success ∧ dispatched

theorem scoreCall_outcome {reply : Json} (scored : call.body.scored = true) {row : CallRow OutboundBody}
    (now : (scoreCall db callId call.body reply).outboundCalls.get? callId = some row) :
    row.body.outcome = some (replyOutcome reply) := by
  simp only [OutboundBody.scored, Bool.and_eq_true, beq_iff_eq] at scored
  rw [scoreCall, if_pos scored] at now
  rw [Table.get?_modify, if_pos rfl] at now
  obtain ⟨old, -, rfl⟩ := Option.map_eq_some_iff.mp now
  rfl

theorem submitError_success (turn : Turn) (payload : Json) :
    replyOutcome (submitError env db turn payload).1 = .success := by
  unfold submitError
  dsimp only
  split <;> rfl

/-- An error that a task is told counts as a success, as does one that comes too late. -/
theorem submitFor_error_success (key : CallKey) (t : Nat) (error : String) :
    replyOutcome (submitFor env db key t (errorPayload error)).1 = .success := by
  unfold submitFor
  split
  · rename_i running
    obtain ⟨task, found, runs⟩ := isRunning_iff.mp running
    dsimp only
    have marked : { db with submits := db.submits ++ [key] }.tasks.get? t = some task := found
    obtain ⟨reply, after, done, -⟩ := fnSubmitResult_error env marked runs error
    rw [done]
    rw [fnSubmitResult, marked] at done
    simp only [runs, ne_eq, not_true_eq_false, if_false] at done
    split at done
    · obtain ⟨rfl, -⟩ := Prod.mk.inj (Except.ok.inj done)
      rfl
    · rw [submitPayload, errorPayload_type] at done
      have same := congrArg Prod.fst (Except.ok.inj done)
      rw [← show (submitError env _ _ _).1 = reply from same]
      exact submitError_success _ _
  · rfl

/-- What the completion records, in terms of the reply of `fn_submit_result`. -/
theorem fnCompleteOutbound_outcome {answer : Json} (found : db.outboundCalls.get? callId = some call)
    (inFlight : call.status = .inFlight) (scored : call.body.scored = true)
    (done : fnCompleteOutbound env db callId status body = .ok (answer, db')) :
    ∃ payload mid row, outboundPayload env (harvestOutbound env db callId status body) callId call.taskId call.body
        status body = .ok (payload, mid) ∧ db'.outboundCalls.get? callId = some row ∧
      row.body.outcome = some (replyOutcome (submitFor env mid (.outbound, callId) call.taskId payload).1) := by
  obtain ⟨row, now, -⟩ := fnCompleteOutbound_harvested found inFlight done
  simp only [fnCompleteOutbound, found, inFlight, ne_eq, not_true_eq_false, if_false] at done
  split at done
  · cases done
  rename_i payload mid built
  obtain ⟨-, rfl⟩ := Prod.mk.inj (Except.ok.inj done)
  exact ⟨payload, mid, row, built, now, scoreCall_outcome scored now⟩

/-- A reply without a known action, or a final answer without an answer, counts as a failure. -/
theorem submitReply_unrecognised {turn : Turn} {reply : Json} {after : Db}
    (unknown : recognised (parsedReply (llmPayload body)) = false)
    (done : submitReply env db turn (llmPayload body) = .ok (reply, after)) : replyOutcome reply = .failure := by
  rw [submitReply] at done
  unfold recognised at unknown
  generalize parsedReply (llmPayload body) = parsed at unknown done
  split at done
  · obtain ⟨rfl, -⟩ := Prod.mk.inj (Except.ok.inj done)
    rfl
  · rename_i action known
    rw [known] at unknown
    cases action with
    | finalAnswer =>
      have missing : givenAnswer (parsed.getD .null) = none := by simpa using unknown
      unfold givenAnswer at missing
      rw [act, finalAnswer] at done
      dsimp only at done
      rw [missing] at done
      obtain ⟨rfl, -⟩ := Prod.mk.inj (Except.ok.inj done)
      rfl
    | _ => cases unknown

/-- A usable answer for a running task of an active agent is recorded as what it is. -/
theorem submitFor_reply_outcome {task : TaskRow} {agent : AgentRow} (found : db.tasks.get? t = some task)
    (runs : task.status = .running) (active : (db.agents.get? task.agentId).filter AgentRow.isActive = some agent)
    (key : CallKey) :
    replyOutcome (submitFor env db key t (llmPayload body)).1 = .failure ∨
      recognised (parsedReply (llmPayload body)) = true ∧
        raises (fnSubmitResult env { db with submits := db.submits ++ [key] } t (llmPayload body)) = false := by
  have running : db.isRunning t = true := isRunning_iff.mpr ⟨task, found, runs⟩
  unfold submitFor
  rw [if_pos running]
  dsimp only
  cases done : fnSubmitResult env { db with submits := db.submits ++ [key] } t (llmPayload body) with
  | error message => exact .inl rfl
  | ok result =>
    cases known : recognised (parsedReply (llmPayload body)) with
    | true => exact .inr ⟨rfl, rfl⟩
    | false =>
      have here : { db with submits := db.submits ++ [key] }.tasks.get? t = some task := found
      simp only [fnSubmitResult, here, runs, ne_eq, not_true_eq_false, if_false, active, submitPayload,
        llmPayload_type] at done
      exact .inl (submitReply_unrecognised known done)

/-- An answer that nobody acts on counts as a success. -/
theorem submitFor_idle_success (idle : db.isRunning t = false ∨ db.staffed t = false) (key : CallKey) (payload : Json) :
    replyOutcome (submitFor env db key t payload).1 = .success := by
  unfold submitFor
  split
  · rename_i running
    obtain ⟨task, found, runs⟩ := isRunning_iff.mp running
    have unstaffed : db.staffed t = false := idle.resolve_left (by simp [running])
    have inactive : (db.agents.get? task.agentId).filter AgentRow.isActive = none := by
      simp only [Db.staffed, found, Option.any_some] at unstaffed
      exact Option.isSome_eq_false_iff.mp unstaffed |> Option.isNone_iff_eq_none.mp
    have here : { db with submits := db.submits ++ [key] }.tasks.get? t = some task := found
    simp only [fnSubmitResult, here, runs, ne_eq, not_true_eq_false, if_false, inactive]
    rfl
  · rfl

/-- Only a usable answer for a running task of an active agent is sure to be recorded as what it is. -/
theorem completion_honest_iff {answer : Json} (found : db.outboundCalls.get? callId = some call)
    (inFlight : call.status = .inFlight) (scored : call.body.scored = true)
    (done : fnCompleteOutbound env db callId status body = .ok (answer, db')) :
    (∃ row, db'.outboundCalls.get? callId = some row ∧
        HonestOutcome (CarriedOut env db call.taskId status body) row.body.outcome) ↔
      isLlmFailure status = false ∧ db.isRunning call.taskId = true ∧ db.staffed call.taskId = true := by
  obtain ⟨payload, mid, row, built, now, outcome⟩ := fnCompleteOutbound_outcome found inFlight scored done
  have kind : call.body.kind = .llm := by
    simp only [OutboundBody.scored, Bool.and_eq_true, beq_iff_eq] at scored
    exact scored.1
  have only : (∃ row, db'.outboundCalls.get? callId = some row ∧
        HonestOutcome (CarriedOut env db call.taskId status body) row.body.outcome) ↔
      HonestOutcome (CarriedOut env db call.taskId status body) row.body.outcome := by
    rw [now]
    simp only [Option.some.injEq, exists_eq_left']
  -- what is recorded as a success has to have been carried out
  have wrong (success : replyOutcome (submitFor env mid (.outbound, callId) call.taskId payload).1 = .success)
      (idle : ¬ (isLlmFailure status = false ∧ db.isRunning call.taskId = true ∧ db.staffed call.taskId = true)) :
      HonestOutcome (CarriedOut env db call.taskId status body) row.body.outcome ↔
        isLlmFailure status = false ∧ db.isRunning call.taskId = true ∧ db.staffed call.taskId = true := by
    refine iff_of_false ?_ idle
    rw [outcome, success]
    rintro (failure | ⟨-, usable, running, staffed, -⟩)
    · cases failure
    · exact idle ⟨usable, running, staffed⟩
  rw [only]
  simp only [outboundPayload, kind] at built
  split at built
  · rename_i failed
    obtain ⟨rfl, rfl⟩ := Prod.mk.inj (Except.ok.inj built)
    exact wrong (submitFor_error_success _ _ _) fun usable => by simp [failed] at usable
  · rename_i succeeded
    have usable : isLlmFailure status = false := by simpa using succeeded
    obtain ⟨rfl, rfl⟩ := Prod.mk.inj (Except.ok.inj built)
    obtain ⟨calls, schedules, recorded⟩ := recordUsage_recording env db callId call.taskId call.body status body
    by_cases active : db.isRunning call.taskId = true ∧ db.staffed call.taskId = true
    · obtain ⟨task, here, runs⟩ := isRunning_iff.mp active.1
      have staffed := active.2
      simp only [Db.staffed, here, Option.any_some, Option.isSome_iff_exists] at staffed
      obtain ⟨agent, enabled⟩ := staffed
      refine iff_of_true ?_ ⟨usable, active⟩
      have told : replyOutcome (submitFor env (recordUsage (harvestOutbound env db callId status body) callId
          call.taskId call.body body) (.outbound, callId) call.taskId (llmPayload body)).1 = .failure ∨
          recognised (parsedReply (llmPayload body)) = true ∧
            replyRaises env db call.taskId (parsedReply (llmPayload body)) = false := by
        rw [← raises_recorded env callId here runs call.body status body (db.submits ++ [(.outbound, callId)])]
        rw [recorded]
        let before : Db := { db with outboundCalls := calls, schedules := schedules }
        exact @submitFor_reply_outcome env before call.taskId body task agent here runs enabled (.outbound, callId)
      generalize replyOutcome (submitFor env (recordUsage (harvestOutbound env db callId status body) callId
        call.taskId call.body body) (.outbound, callId) call.taskId (llmPayload body)).1 = judged at told outcome
      rw [outcome]
      rcases told with rfl | carried
      · exact .inl rfl
      · cases judged with
        | failure => exact .inl rfl
        | success => exact .inr ⟨rfl, usable, active.1, active.2, carried⟩
    · refine wrong ?_ fun all => active all.2
      rw [recorded]
      have idle : db.isRunning call.taskId = false ∨ db.staffed call.taskId = false := by
        simpa only [not_and_or, Bool.not_eq_true] using active
      let before : Db := { db with outboundCalls := calls, schedules := schedules }
      exact @submitFor_idle_success env before call.taskId idle (.outbound, callId) (llmPayload body)

/-! ### A call that is given up -/

def turnTimedOut (env : Env) (call : CallRow OutboundBody) : CallRow OutboundBody :=
  { call with status := .lost, updatedAt := env.now, body := { call.body with error := some "turn_timeout" } }

theorem reclaimOutbound_calls (selected : Nat × CallRow OutboundBody) :
    (reclaimOutbound env db selected).outboundCalls = db.outboundCalls.modify selected.1 (loseOutboundCall env) := by
  unfold reclaimOutbound
  dsimp only
  split
  · exact (pauseForHuman_keeps env _ _ _).2.1
  · exact (held_iff.mp (submitFor_error env _ _ _ _).2).1

theorem loseOutboundCall_again (call : CallRow OutboundBody) :
    loseOutboundCall env (loseOutboundCall env call) = loseOutboundCall env call := by
  unfold loseOutboundCall retire
  dsimp only
  split <;> rfl

theorem reclaimOutbound_foldl (items : List (Nat × CallRow OutboundBody)) (db : Db) :
    (items.foldl (reclaimOutbound env) db).outboundCalls.get? callId = (db.outboundCalls.get? callId).map fun call =>
      if callId ∈ items.map Prod.fst then loseOutboundCall env call else call := by
  induction items generalizing db with
  | nil => simp
  | cons item rest ih =>
    rw [List.foldl_cons, ih, reclaimOutbound_calls, Table.get?_modify]
    rcases db.outboundCalls.get? callId with _ | call
    · simp
    · by_cases here : callId = item.1
      · simp only [here, if_true, Option.map_some, List.map_cons, List.mem_cons, true_or]
        split
        · rw [loseOutboundCall_again]
        · rfl
      · simp only [here, if_false, Option.map_some, List.map_cons, List.mem_cons, false_or]

theorem reclaimWith_outbound {β : Type} {queue : Queue} {calls : Db → Table (CallRow β)}
    {put : Db → Table (CallRow β) → Db} (apart : ∀ db table, (put db table).outboundCalls = db.outboundCalls)
    (error : String) (items : List (Nat × CallRow β)) (db : Db) :
    (items.foldl (reclaimWith env queue calls put error) db).outboundCalls = db.outboundCalls := by
  induction items generalizing db with
  | nil => rfl
  | cons item rest ih =>
    have told := (held_iff.mp (submitFor_error env (put db ((calls db).modify item.1 (retire env .lost)))
      (queue, item.1) item.2.taskId error).2).1
    exact (ih _).trans (told.trans (apart _ _))

/-- The first half of the sweep gives up the overdue calls, and no others. -/
theorem reclaimCalls_outbound :
    (reclaimCalls env db timeout).outboundCalls.get? callId = (db.outboundCalls.get? callId).map fun call =>
      if call.overdue env (patience 15 timeout) = true then loseOutboundCall env call else call := by
  have sql (db : Db) : ((overdueCalls env db.sqlCalls (patience 15 timeout)).foldl (reclaimSql env) db).outboundCalls =
      db.outboundCalls := by
    rw [reclaimSql_eq]
    exact @reclaimWith_outbound env SqlBody .sql Db.sqlCalls (fun db calls => { db with sqlCalls := calls })
      (fun _ _ => rfl) _ _ db
  have functions (db : Db) :
      ((overdueCalls env db.functionCalls (patience 15 timeout)).foldl (reclaimFunctionCall env) db).outboundCalls =
      db.outboundCalls := by
    rw [reclaimFunctionCall_eq]
    exact @reclaimWith_outbound env BodyCall .function Db.functionCalls
      (fun db calls => { db with functionCalls := calls }) (fun _ _ => rfl) _ _ db
  have procedures (db : Db) :
      ((overdueCalls env db.procedureCalls (patience 150 timeout)).foldl (reclaimProcedureCall env) db).outboundCalls =
      db.outboundCalls := by
    rw [reclaimProcedureCall_eq]
    exact @reclaimWith_outbound env BodyCall .procedure Db.procedureCalls
      (fun db calls => { db with procedureCalls := calls }) (fun _ _ => rfl) _ _ db
  unfold reclaimCalls
  dsimp only [reclaimServices, reclaimProcedureBuilds]
  rw [procedures]
  dsimp only [reclaimBuilds]
  rw [functions, sql, reclaimOutbound_foldl]
  rcases found : db.outboundCalls.get? callId with _ | call
  · rfl
  · have chosen : callId ∈ (overdueCalls env db.outboundCalls (patience 15 timeout)).map Prod.fst ↔
        call.overdue env (patience 15 timeout) = true := by
      constructor
      · intro member
        obtain ⟨⟨id, row⟩, listed, rfl⟩ := List.mem_map.mp member
        obtain ⟨there, overdue⟩ := Table.mem_select.mp listed
        obtain rfl := Option.some.inj (found.symm.trans there)
        exact overdue
      · intro overdue
        exact List.mem_map.mpr ⟨(callId, call), Table.mem_select.mpr ⟨found, overdue⟩, rfl⟩
    simp only [Option.map_some, chosen]

theorem expireApprovals_outbound (items : List (Nat × ApprovalRow)) (db : Db) :
    (items.foldl (expireApproval env) db).outboundCalls = db.outboundCalls := by
  induction items generalizing db with
  | nil => rfl
  | cons item rest ih =>
    rw [List.foldl_cons, ih]
    unfold expireApproval
    dsimp only
    split
    · rfl
    · exact (held_iff.mp (failUnanswered_held env (rejectExpired env db item.1) item.2.taskId _)).1

theorem timeOutTask_outbound (selected : Nat × TaskRow) :
    (timeOutTask env db selected).outboundCalls.get? callId = (db.outboundCalls.get? callId).map fun call =>
      if call.taskId = selected.1 ∧ call.status.outstanding = true then turnTimedOut env call else call := by
  unfold timeOutTask
  dsimp only
  rw [(held_iff.mp (maybeCompleteSession_spares _).held).1]
  simp only [Db.loseSql, Db.loseOutbound, Table.get?_update]
  rw [(held_iff.mp (updateTask_spares _ _).held).1]
  simp only [Bool.and_eq_true, beq_iff_eq]
  rfl

theorem timeOutTasks_outbound (items : List (Nat × TaskRow)) (db : Db) :
    (items.foldl (timeOutTask env) db).outboundCalls.get? callId = (db.outboundCalls.get? callId).map fun call =>
      if call.taskId ∈ items.map Prod.fst ∧ call.status.outstanding = true then turnTimedOut env call else call := by
  induction items generalizing db with
  | nil => simp
  | cons item rest ih =>
    rw [List.foldl_cons, ih, timeOutTask_outbound, Option.map_map]
    congr 1
    funext call
    simp only [Function.comp_apply, List.map_cons, List.mem_cons]
    by_cases waits : call.status.outstanding = true
    · by_cases mine : call.taskId = item.1
      · have ended : (turnTimedOut env call).status.outstanding = false := rfl
        simp [mine, waits, ended]
      · have kept : (if call.taskId = item.1 ∧ call.status.outstanding = true then turnTimedOut env call else call) =
            call := if_neg fun both => mine both.1
        rw [kept]
        simp only [mine, false_or]
    · simp [waits]

theorem wakeTasks_outbound (items : List (Nat × TaskRow)) (db : Db) :
    (items.foldl (wakeTask env) db).outboundCalls = db.outboundCalls := by
  induction items generalizing db with
  | nil => rfl
  | cons item rest ih =>
    rw [List.foldl_cons, ih]
    exact (held_iff.mp (updateTask_spares _ _).held).1

/-- The tables when the sweep over overdue tasks begins. -/
def Db.beforeTimeouts (env : Env) (db : Db) (timeout : Option Int) : Db :=
  (expiredApprovals env (reclaimCalls env db timeout)).foldl (expireApproval env) (reclaimCalls env db timeout)

theorem fnWatchdog_outbound :
    (fnWatchdog env db timeout).outboundCalls.get? callId =
      (((db.outboundCalls.get? callId).map fun call =>
        if call.overdue env (patience 15 timeout) = true then loseOutboundCall env call else call).map fun call =>
          if call.taskId ∈ (overdueTasks env (db.beforeTimeouts env timeout)).map Prod.fst ∧
            call.status.outstanding = true then turnTimedOut env call else call) := by
  unfold fnWatchdog sweepTasks
  dsimp only [dropExpiredMemories]
  rw [wakeTasks_outbound, timeOutTasks_outbound, expireApprovals_outbound, reclaimCalls_outbound]
  rfl

/-! ### The task of a call that is not overdue -/

/-- The task is left alone, and gets no call. -/
structure Bypasses (t : Nat) (db db' : Db) : Prop where
  task : ∀ task, db.tasks.get? t = some task → db'.tasks.get? t = some task
  policies : db'.policies = db.policies
  calls : ∀ k, db'.flow.Holds t k → db.flow.Holds t k

theorem Bypasses.trans {db₁ db₂ db₃ : Db} (first : Bypasses t db₁ db₂) (second : Bypasses t db₂ db₃) :
    Bypasses t db₁ db₃ where
  task task found := second.task task (first.task task found)
  policies := second.policies.trans first.policies
  calls k held := first.calls k (second.calls k held)

theorem Bypasses.of_spares {spared : Nat → Prop} (spares : Spares spared db db') (mine : spared t) :
    Bypasses t db db' where
  task task := spares.rows t task mine
  policies := spares.policies
  calls k := by
    rintro ⟨view, found, held⟩
    rw [show db'.flow.call = db.flow.call from spares.call] at found
    exact ⟨view, found, held⟩

theorem submitFor_error_spares (key : CallKey) (other : Nat) (error : String) :
    Spares (· ≠ other) db (submitFor env db key other (errorPayload error)).2 := by
  have marked : Spares (· ≠ other) db { db with submits := db.submits ++ [key] } := ⟨fun _ _ _ found => found, rfl⟩
  unfold submitFor
  split
  · dsimp only
    split
    · rename_i done
      exact marked.trans (fnSubmitResult_error_spares done)
    · exact marked
  · exact .refl _ db

theorem bypasses_foldl {Item : Type} {pass : Db → Item → Db} (items : List Item) {db : Db}
    (found : db.tasks.get? t = some task)
    (passes : ∀ now, now.tasks.get? t = some task → ∀ item ∈ items, Bypasses t now (pass now item)) :
    Bypasses t db (items.foldl pass db) := by
  induction items generalizing db with
  | nil => exact ⟨fun _ found => found, rfl, fun _ => id⟩
  | cons item rest ih =>
    have first := passes db found item List.mem_cons_self
    have others := ih (first.task task found) fun now there other member =>
      passes now there other (List.mem_cons_of_mem _ member)
    exact first.trans others

theorem QueueView.retired {β : Type} {queue : Queue} {put : Table (CallRow β) → Db} {llm : β → Bool}
    (view : QueueView β queue put llm) (calls : Table (CallRow β)) (id : Nat) {set : CallRow β → CallRow β}
    (lost : ∀ row, (set row).status = .lost) {k : CallKey} (held : (put (calls.modify id set)).flow.Holds t k) :
    (put calls).flow.Holds t k := by
  obtain ⟨seen, found, owner, waits⟩ := held
  obtain ⟨other, key⟩ := k
  change (put (calls.modify id set)).call (other, key) = some seen at found
  by_cases same : other = queue
  · subst same
    rw [view.call, Table.get?_modify] at found
    split at found
    · obtain ⟨row, changed, rfl⟩ := Option.map_eq_some_iff.mp found
      obtain ⟨old, -, rfl⟩ := Option.map_eq_some_iff.mp changed
      have gone : (set old).status.outstanding = true := waits
      rw [lost] at gone
      cases gone
    · refine ⟨seen, ?_, owner, waits⟩
      exact (view.call calls key).trans found
  · rw [view.other _ calls _ same] at found
    exact ⟨seen, found, owner, waits⟩

theorem reclaimOutbound_bypasses {selected : Nat × CallRow OutboundBody} (stranger : selected.2.taskId ≠ t) :
    Bypasses t db (reclaimOutbound env db selected) := by
  obtain ⟨id, call⟩ := selected
  have lost : Bypasses t db { db with outboundCalls := db.outboundCalls.modify id (loseOutboundCall env) } :=
    ⟨fun _ found => found, rfl, fun k => (outbound_view db).retired db.outboundCalls id fun _ => rfl⟩
  unfold reclaimOutbound
  dsimp only
  split
  · refine lost.trans ⟨?_, (pauseForHuman_keeps env _ _ _).1, ?_⟩
    · intro task found
      exact (get?_updateTask_other _ stranger.symm).trans found
    · rintro k ⟨view, found, held⟩
      refine ⟨view, ?_, held⟩
      rw [← found]
      unfold pauseForHuman Db.updateTask
      split <;> rfl
  · exact lost.trans (.of_spares (submitFor_error_spares _ _ _) stranger.symm)

theorem reclaimWith_bypasses {β : Type} {queue : Queue} {calls : Db → Table (CallRow β)}
    {put : Db → Table (CallRow β) → Db} {llm : β → Bool} (place : QueueOf β queue calls put llm) (error : String)
    {selected : Nat × CallRow β} (stranger : selected.2.taskId ≠ t) :
    Bypasses t db (reclaimWith env queue calls put error db selected) := by
  have lost : Bypasses t db (put db ((calls db).modify selected.1 (retire env .lost))) := by
    obtain ⟨-, tasks, -⟩ := (place.view db).rest ((calls db).modify selected.1 (retire env .lost)) (calls db)
    rw [place.put_calls] at tasks
    refine ⟨fun task found => by rw [tasks]; exact found, place.policies _ _, fun k held => ?_⟩
    have before := (place.view db).retired (calls db) selected.1 (fun _ => rfl) held
    rw [place.put_calls] at before
    exact before
  exact lost.trans (.of_spares (submitFor_error_spares _ _ _) stranger.symm)

/-- The calls in flight of the other queues are not the task's. -/
theorem reclaims_bypasses {β : Type} {queue : Queue} {calls : Db → Table (CallRow β)}
    {put : Db → Table (CallRow β) → Db} {llm : β → Bool} (place : QueueOf β queue calls put llm) (error : String)
    (wait : Time) (found : db.tasks.get? t = some task) (free : ∀ id, ¬ db.flow.Holds t (queue, id)) :
    Bypasses t db ((overdueCalls env (calls db) wait).foldl (reclaimWith env queue calls put error) db) := by
  refine bypasses_foldl _ found fun now _ item member => reclaimWith_bypasses place error ?_
  intro mine
  obtain ⟨here, overdue⟩ := Table.mem_select.mp member
  simp only [CallRow.overdue, Bool.and_eq_true, beq_iff_eq] at overdue
  refine free item.1 ⟨item.2.view llm, ?_, mine, ?_⟩
  · rw [place.flow_call, here, Option.map_some]
  · have flying : item.2.status.outstanding = true := by rw [overdue.1]; rfl
    exact flying

theorem expireApproval_bypasses {selected : Nat × ApprovalRow} (found : db.tasks.get? t = some task)
    (busy : task.status ≠ .waitingHuman) : Bypasses t db (expireApproval env db selected) := by
  have rejected : Bypasses t db (rejectExpired env db selected.1) := ⟨fun _ found => found, rfl, fun _ => id⟩
  unfold expireApproval
  dsimp only
  split
  · exact rejected
  · rename_i other waiting
    obtain ⟨there, waits⟩ := Option.filter_eq_some_iff.mp waiting
    have stranger : t ≠ selected.2.taskId := by
      rintro rfl
      obtain rfl := Option.some.inj (found.symm.trans there)
      exact busy (beq_iff_eq.mp waits)
    have spares : Spares (· ≠ selected.2.taskId) (rejectExpired env db selected.1)
        (failUnanswered env (rejectExpired env db selected.1) selected.2.taskId other) := by
      unfold failUnanswered
      refine .trans ?_ ((maybeCompleteSession_spares other.sessionId).mono fun _ _ => trivial)
      exact ((Spares.refl _ _).logged).trans (updateTask_spares _ _)
    exact rejected.trans (.of_spares spares stranger)

/-- The sweep comes to the overdue tasks with the task of such a call as it was. -/
theorem beforeTimeouts_bypasses (calls : Flow.Calls db.flow) (found : db.outboundCalls.get? callId = some call)
    (waits : call.status.outstanding = true) (fresh : call.overdue env (patience 15 timeout) = false)
    (here : db.tasks.get? call.taskId = some task) : Bypasses call.taskId db (db.beforeTimeouts env timeout) := by
  have held : db.flow.Holds call.taskId (.outbound, callId) :=
    ⟨call.view OutboundBody.isLlm, congrArg (Option.map _) found, rfl, waits⟩
  have busy : task.status ≠ .waitingHuman := by
    intro waiting
    have engaged : task.status = .running ∨ task.status.terminal = true := calls.engaged _ _ _ held (flow_task here)
    rw [waiting] at engaged
    rcases engaged with running | ended
    · cases running
    · cases ended
  -- the task has no other call in any queue
  have free {now : Db} (passed : Bypasses call.taskId db now) {queue : Queue} (other : queue ≠ .outbound) (id : Nat) :
      ¬ now.flow.Holds call.taskId (queue, id) := by
    intro another
    have same := calls.single _ _ _ (passed.calls _ another) held
    exact other (congrArg Prod.fst same)
  have outbound : Bypasses call.taskId db
      ((overdueCalls env db.outboundCalls (patience 15 timeout)).foldl (reclaimOutbound env) db) := by
    refine bypasses_foldl _ here fun now _ item member => reclaimOutbound_bypasses ?_
    intro mine
    obtain ⟨there, overdue⟩ := Table.mem_select.mp member
    have flying := overdue
    simp only [CallRow.overdue, Bool.and_eq_true, beq_iff_eq] at flying
    have another : db.flow.Holds call.taskId (.outbound, item.1) := by
      refine ⟨item.2.view OutboundBody.isLlm, congrArg (Option.map _) there, mine, ?_⟩
      have outstanding : item.2.status.outstanding = true := by rw [flying.1]; rfl
      exact outstanding
    have same : item.1 = callId := congrArg Prod.snd (calls.single _ _ _ another held)
    rw [same, found] at there
    obtain same := Option.some.inj there
    rw [← same, fresh] at overdue
    cases overdue
  unfold Db.beforeTimeouts reclaimCalls
  dsimp only
  generalize (overdueCalls env db.outboundCalls (patience 15 timeout)).foldl (reclaimOutbound env) db = mid at outbound ⊢
  have sql : Bypasses call.taskId db ((overdueCalls env mid.sqlCalls (patience 15 timeout)).foldl (reclaimSql env) mid) := by
    rw [reclaimSql_eq]
    exact outbound.trans (reclaims_bypasses sql_of _ _ (outbound.task task here) (free outbound (by decide)))
  generalize (overdueCalls env mid.sqlCalls (patience 15 timeout)).foldl (reclaimSql env) mid = mid at sql ⊢
  have functions : Bypasses call.taskId db
      ((overdueCalls env mid.functionCalls (patience 15 timeout)).foldl (reclaimFunctionCall env) mid) := by
    rw [reclaimFunctionCall_eq]
    exact sql.trans (reclaims_bypasses function_of _ _ (sql.task task here) (free sql (by decide)))
  generalize (overdueCalls env mid.functionCalls (patience 15 timeout)).foldl (reclaimFunctionCall env) mid = mid
    at functions ⊢
  have built : Bypasses call.taskId db (reclaimBuilds env mid (patience 15 timeout)) :=
    functions.trans ⟨fun _ found => found, rfl, fun _ => id⟩
  generalize reclaimBuilds env mid (patience 15 timeout) = mid at built ⊢
  have procedures : Bypasses call.taskId db
      ((overdueCalls env mid.procedureCalls (patience 150 timeout)).foldl (reclaimProcedureCall env) mid) := by
    rw [reclaimProcedureCall_eq]
    exact built.trans (reclaims_bypasses procedure_of _ _ (built.task task here) (free built (by decide)))
  generalize (overdueCalls env mid.procedureCalls (patience 150 timeout)).foldl (reclaimProcedureCall env) mid = mid
    at procedures ⊢
  have reclaimed : Bypasses call.taskId db
      (reclaimServices env (reclaimProcedureBuilds env mid (patience 15 timeout)) (patience 15 timeout)) :=
    procedures.trans ⟨fun _ found => found, rfl, fun _ => id⟩
  generalize reclaimServices env (reclaimProcedureBuilds env mid (patience 15 timeout)) (patience 15 timeout) = mid
    at reclaimed ⊢
  refine reclaimed.trans (bypasses_foldl _ (reclaimed.task task here) fun now there item _ => ?_)
  exact expireApproval_bypasses there busy

/-- The call is given up by one of the sweeps only if it is overdue or its task has run out of time. -/
theorem turnExpired_bypassed {mid : Db} (bypassed : Bypasses t db mid) (found : db.tasks.get? t = some task) :
    t ∈ (overdueTasks env mid).map Prod.fst ↔ turnExpired env db task = true := by
  have policies : turnExpired env mid task = turnExpired env db task := by
    simp only [turnExpired, Db.policyOf, bypassed.policies]
  rw [← policies]
  constructor
  · intro member
    obtain ⟨⟨u, row⟩, listed, rfl⟩ := List.mem_map.mp member
    obtain ⟨there, expired⟩ := Table.mem_select.mp listed
    obtain rfl := Option.some.inj ((bypassed.task task found).symm.trans there)
    exact expired
  · intro expired
    exact List.mem_map.mpr ⟨(t, task), Table.mem_select.mpr ⟨bypassed.task task found, expired⟩, rfl⟩

/-- A call that the sweep over overdue turns gives up has no outcome. -/
theorem watchdog_honest_iff (calls : Flow.Calls db.flow) (found : db.outboundCalls.get? callId = some call)
    (scored : call.body.scored = true) (waits : call.status.outstanding = true) :
    (∃ row, (fnWatchdog env db timeout).outboundCalls.get? callId = some row ∧
        (row.status = .lost → row.body.outcome = some .failure)) ↔
      call.overdue env (patience 15 timeout) = true ∨ call.body.outcome = some .failure ∨
        ∀ task, db.tasks.get? call.taskId = some task → turnExpired env db task = false := by
  have known : db.flow.task call.taskId ≠ none :=
    calls.owner (.outbound, callId) (call.view OutboundBody.isLlm) (congrArg (Option.map _) found)
  obtain ⟨view, seen⟩ := Option.ne_none_iff_exists'.mp known
  obtain ⟨task, here, -⟩ := flow_task_some seen
  rw [fnWatchdog_outbound, found]
  simp only [Option.map_some, Option.some.injEq, exists_eq_left', here, forall_eq']
  cases overdue : call.overdue env (patience 15 timeout) with
  | true =>
    simp only [if_true, true_or, iff_true]
    have ended : (loseOutboundCall env call).status.outstanding = false := rfl
    simp only [ended, Bool.false_eq_true, and_false, if_false]
    intro _
    simp only [OutboundBody.scored, Bool.and_eq_true] at scored
    simp only [loseOutboundCall, scored.2, if_true]
  | false =>
    have chosen := @turnExpired_bypassed env db call.taskId task _
      (beforeTimeouts_bypasses calls found waits overdue here) here
    simp only [Bool.false_eq_true, if_false, false_or, chosen, waits, and_true]
    cases expired : turnExpired env db task with
    | true =>
      simp only [if_true, Bool.true_eq_false, or_false]
      exact ⟨fun failed => failed rfl, fun same _ => same⟩
    | false =>
      simp only [Bool.false_eq_true, if_false, or_true, iff_true]
      intro lost
      rw [lost] at waits
      cases waits

/-! ### Runs -/

theorem fnCompleteOutbound_llm (found : db.outboundCalls.get? callId = some call) (inFlight : call.status = .inFlight)
    (llm : call.body.kind = .llm) : ∃ answer db', fnCompleteOutbound env db callId status body = .ok (answer, db') := by
  simp only [fnCompleteOutbound, found, inFlight, ne_eq, not_true_eq_false, if_false, outboundPayload, llm]
  split
  · rename_i failed
    split at failed <;> cases failed
  · exact ⟨_, _, rfl⟩

/-- What becomes of the outcome of a scored call, however it is resolved. -/
theorem canary_outcomes_honest (fresh : Fresh start) (run : Run Label.driven start db)
    (found : db.outboundCalls.get? callId = some call) (scored : call.body.scored = true) :
    (call.status = .inFlight → ∀ env status body, ∃ answer db', fnCompleteOutbound env db callId status body =
        .ok (answer, db') ∧ ((∃ row, db'.outboundCalls.get? callId = some row ∧
          HonestOutcome (CarriedOut env db call.taskId status body) row.body.outcome) ↔
        isLlmFailure status = false ∧ db.isRunning call.taskId = true ∧ db.staffed call.taskId = true)) ∧
    (call.status.outstanding = true → ∀ env timeout,
      ((∃ row, (fnWatchdog env db timeout).outboundCalls.get? callId = some row ∧
          (row.status = .lost → row.body.outcome = some .failure)) ↔
        call.overdue env (patience 15 timeout) = true ∨ call.body.outcome = some .failure ∨
          ∀ task, db.tasks.get? call.taskId = some task → turnExpired env db task = false)) := by
  refine ⟨fun inFlight env status body => ?_, fun waits env timeout => ?_⟩
  · have kind : call.body.kind = .llm := by
      simp only [OutboundBody.scored, Bool.and_eq_true, beq_iff_eq] at scored
      exact scored.1
    obtain ⟨answer, db', done⟩ := @fnCompleteOutbound_llm env db callId call status body found inFlight kind
    exact ⟨answer, db', done, completion_honest_iff found inFlight scored done⟩
  · exact watchdog_honest_iff (calls_of_run (fun _ _ => id) fresh run) found scored waits

/-- The report's procedure may look up a rate. -/
def ratesDb : Db :=
  { reportDb (helperPolicy 5 none) with
    functions := Table.empty.insert ⟨"rate", "", .httpGet, .build [("url", .str "https://rates.example/today")], none,
      .emptyObj, .built, none, none, true, none, none, 0⟩
    bindings := [(0, 0)] }

theorem ratesDb_fresh : Fresh ratesDb :=
  have fresh := reportDb_fresh (helperPolicy 5 none)
  ⟨fresh.sessions, fresh.tasks, fresh.calls, fresh.approvals, fresh.journal, fresh.submits⟩

/-- The reply `{"action":"call_function","function":"rate"}`. -/
def looksUpRate : String := "\x7b\"action\":\"call_function\",\"function\":\"rate\"\x7d"

/-- The turn after the rate has been looked up is scored. -/
def rateReport : List (Env × Op) :=
  [(.bare, .createSession 0 (some "report the rate") none none), (.bare, .dispatchTasks),
    (.bare, .claimOutbound none none), (.bare, .completeOutbound 0 (some 200) (some looksUpRate)),
    (.bare, .claimOutbound none none), (.bare, .completeOutbound 1 (some 200) (some "1.1")), (.bare, .dispatchTasks),
    (.bare, .claimOutbound none none)]

/-- The scored call is in flight for a running task of an active agent. -/
def scoredInFlight (db : Db) : Bool :=
  (db.outboundCalls.get? 2).any fun call => call.status == .inFlight && call.body.scored &&
    db.isRunning call.taskId && db.staffed call.taskId

theorem scored_reached : ∃ db call, Run Label.driven ratesDb db ∧ db.outboundCalls.get? 2 = some call ∧
    call.status = .inFlight ∧ call.body.scored = true ∧ db.isRunning call.taskId = true ∧
    db.staffed call.taskId = true := by
  obtain ⟨db, run, reached⟩ := run_reaching
    (show ((runAll Label.driven ratesDb rateReport).any scoredInFlight) = true by decide +kernel)
  simp only [scoredInFlight, Option.any_eq_true, Bool.and_eq_true, beq_iff_eq] at reached
  obtain ⟨call, found, ⟨⟨flies, scored⟩, running⟩, staffed⟩ := reached
  exact ⟨db, call, run, found, flies, scored, running, staffed⟩

/-- An answer without an action is recorded as a failure. -/
theorem canary_outcomes_honest_greeting : ∃ db call answer db' row, Run Label.driven ratesDb db ∧
    fnCompleteOutbound .bare db 2 (some 200) (some "Hello") = .ok (answer, db') ∧
    db'.outboundCalls.get? 2 = some row ∧
    HonestOutcome (CarriedOut .bare db call (some 200) (some "Hello")) row.body.outcome := by
  obtain ⟨db, call, run, found, flies, scored, running, staffed⟩ := scored_reached
  obtain ⟨answer, db', done, honest⟩ := (canary_outcomes_honest ratesDb_fresh run found scored).1 flies .bare (some 200)
    (some "Hello")
  obtain ⟨row, now, outcome⟩ := honest.mpr ⟨rfl, running, staffed⟩
  exact ⟨db, call.taskId, answer, db', row, run, done, now, outcome⟩

/-- A server error that the task is told about counts as a success. -/
theorem not_canary_outcomes_honest : ¬ ∀ start db callId call, Fresh start → Run Label.driven start db →
    db.outboundCalls.get? callId = some call → call.body.scored = true → call.status = .inFlight →
    ∀ env status body answer db', fnCompleteOutbound env db callId status body = .ok (answer, db') →
    ∃ row, db'.outboundCalls.get? callId = some row ∧
      HonestOutcome (CarriedOut env db call.taskId status body) row.body.outcome := by
  intro claim
  obtain ⟨db, call, run, found, flies, scored, -, -⟩ := scored_reached
  have kind : call.body.kind = .llm := by
    simp only [OutboundBody.scored, Bool.and_eq_true, beq_iff_eq] at scored
    exact scored.1
  obtain ⟨answer, db', done⟩ := @fnCompleteOutbound_llm .bare db 2 call (some 500) none found flies kind
  have honest := claim ratesDb db 2 call ratesDb_fresh run found scored flies .bare (some 500) none answer db' done
  have usable := (completion_honest_iff found flies scored done).mp honest
  cases usable.1

end Allgres
