import Allgres.Refine.Complete

/-! The first half of `fn_watchdog`: calls whose worker never came back. -/

namespace Allgres

open Relational Jsonb Sql Runs

variable {db db' : Db} {env : Env}

/-- What a sweep may do to a task: it fails, or goes on as it was. -/
def TaskRow.Errs (old new : TaskRow) : Prop :=
  new.agentId = old.agentId ∧ new.startedAt = old.startedAt ∧ (new.status = old.status ∨ new.status = .failed)

/-- No task is new, and each is as it was or has failed. -/
structure Ebbs (db db' : Db) : Prop where
  rows : ∀ t row, db'.tasks.get? t = some row → ∃ old, db.tasks.get? t = some old ∧ old.Errs row
  policies : db'.policies = db.policies

theorem TaskRow.Errs.trans {a b c : TaskRow} (first : a.Errs b) (second : b.Errs c) : a.Errs c := by
  obtain ⟨agent, started, status⟩ := first
  obtain ⟨agent', started', status'⟩ := second
  refine ⟨agent'.trans agent, started'.trans started, ?_⟩
  rcases status' with same | failed
  · rw [same]; exact status
  · exact .inr failed

theorem Ebbs.of_tasks (tasks : db'.tasks = db.tasks) (policies : db'.policies = db.policies) : Ebbs db db' where
  rows t row found := ⟨row, by rw [← tasks]; exact found, rfl, rfl, .inl rfl⟩
  policies := policies

theorem Ebbs.refl (db : Db) : Ebbs db db := .of_tasks rfl rfl

theorem Ebbs.trans {a b c : Db} (first : Ebbs a b) (second : Ebbs b c) : Ebbs a c where
  rows t row found := by
    obtain ⟨mid, there, later⟩ := second.rows t row found
    obtain ⟨old, before, earlier⟩ := first.rows t mid there
    exact ⟨old, before, earlier.trans later⟩
  policies := second.policies.trans first.policies

theorem Ebbs.logged {t step : Nat} {role : Role} {content : Json} (ebbs : Ebbs db db') :
    Ebbs db (db'.appendLog env t step role content) := ⟨ebbs.rows, ebbs.policies⟩

theorem updateTask_ebbs (t : Nat) {set : TaskRow → TaskRow} (errs : ∀ row : TaskRow, row.Errs (set row)) :
    Ebbs db (db.updateTask env t set) where
  rows := by
    intro other row now
    by_cases same : other = t
    · subst same
      rcases found : db.tasks.get? other with _ | old
      · unfold Db.updateTask at now
        rw [found] at now
        cases found.symm.trans now
      · rw [get?_updateTask set found, if_pos rfl] at now
        obtain rfl := Option.some.inj now
        exact ⟨old, rfl, errs old⟩
    · rw [get?_updateTask_other set same] at now
      exact ⟨row, now, rfl, rfl, .inl rfl⟩
  policies := by unfold Db.updateTask; split <;> rfl

theorem maybeCompleteSession_ebbs (s : Nat) : Ebbs db (maybeCompleteSession env db s) :=
  .of_tasks (maybeCompleteSession_tasks s) (maybeCompleteSession_spares s).policies

theorem failTask_ebbs (t : Nat) (task : TaskRow) (error : String) (content : List (String × Json)) :
    Ebbs db (failTask env db t task error content) := by
  unfold failTask
  refine .trans ?_ (maybeCompleteSession_ebbs task.sessionId)
  refine (updateTask_ebbs t ?_).logged
  intro row
  exact ⟨rfl, rfl, .inr rfl⟩

theorem submitError_ebbs (turn : Turn) (payload : Json) : Ebbs db (submitError env db turn payload).2 := by
  have counted : Ebbs db ((turn.log env db .error
      (.build [("message", .str ((payload.getText? "message").getD "error"))])).bumpStep env turn.taskId) :=
    (Ebbs.refl db).logged.trans (updateTask_ebbs turn.taskId fun _ => ⟨rfl, rfl, .inl rfl⟩)
  unfold submitError
  dsimp only
  split
  · refine .trans ?_ (maybeCompleteSession_ebbs turn.task.sessionId)
    exact counted.trans (updateTask_ebbs turn.taskId fun _ => ⟨rfl, rfl, .inr rfl⟩)
  · exact counted

theorem fnSubmitResult_error_ebbs {t : Nat} {error : String} {reply : Json}
    (done : fnSubmitResult env db t (errorPayload error) = .ok (reply, db')) : Ebbs db db' := by
  unfold fnSubmitResult at done
  split at done
  · cases done
  · split at done
    · cases done
    · split at done
      · obtain ⟨-, rfl⟩ := Prod.mk.inj (Except.ok.inj done)
        exact failTask_ebbs t _ _ _
      · unfold submitPayload at done
        rw [errorPayload_type] at done
        obtain ⟨-, rfl⟩ := Prod.mk.inj (Except.ok.inj done)
        exact submitError_ebbs _ _

/-- An error handed to a task touches nothing but that task. -/
theorem submitFor_error (env : Env) (db : Db) (key : CallKey) (t : Nat) (error : String) :
    Ebbs db (submitFor env db key t (errorPayload error)).2 ∧
      (submitFor env db key t (errorPayload error)).2.held = db.held := by
  unfold submitFor
  split
  · have marked : Ebbs db { db with submits := db.submits ++ [key] } := .of_tasks rfl rfl
    dsimp only
    split
    · rename_i done
      exact ⟨marked.trans (fnSubmitResult_error_ebbs done), (fnSubmitResult_error_spares done).held⟩
    · exact ⟨marked, rfl⟩
  · exact ⟨.refl db, rfl⟩

/-- Reclaiming a call is a plain move, since a running task accepts an error. -/
theorem submitFor_error_move {σ : Flow Left} {key : CallKey} {call : CallView} (found : σ.call key = some call)
    (inFlight : call.status = .inFlight) (flow : db.flow = σ.setCall key { call with status := .lost })
    (error : String) : Flow.Move .plain σ (submitFor env db key call.task (errorPayload error)).2.flow := by
  rcases submitFor_move found inFlight (.inr rfl) flow (errorPayload error) with plain | ⟨-, running, message, raised⟩
  · exact plain
  · obtain ⟨task, row, runs⟩ := isRunning_iff.mp running
    have marked : { db with submits := db.submits ++ [key] }.tasks.get? call.task = some task := row
    obtain ⟨reply, db', done, -⟩ := fnSubmitResult_error env marked runs error
    rw [raised] at done
    cases done

/-! ### The queues whose overdue calls are reported as errors -/

/-- One of the call tables, as part of all tables. -/
structure QueueOf (β : Type) (queue : Queue) (calls : Db → Table (CallRow β)) (put : Db → Table (CallRow β) → Db)
    (llm : β → Bool) : Prop where
  view : ∀ db, QueueView β queue (put db) llm
  put_calls : ∀ db, put db (calls db) = db
  calls_put : ∀ db table, calls (put db table) = table
  held : ∀ db db', db'.held = db.held → calls db' = calls db
  policies : ∀ db table, (put db table).policies = db.policies
  functions : queue ≠ .function → ∀ db table, (put db table).functionCalls = db.functionCalls
  procedures : queue ≠ .procedure → ∀ db table, (put db table).procedureCalls = db.procedureCalls

theorem sql_of : QueueOf SqlBody .sql Db.sqlCalls (fun db calls => { db with sqlCalls := calls }) (fun _ => false) where
  view := sql_view
  put_calls _ := rfl
  calls_put _ _ := rfl
  held _ _ held := (held_iff.mp held).2.1
  policies _ _ := rfl
  functions _ _ _ := rfl
  procedures _ _ _ := rfl

theorem function_of :
    QueueOf BodyCall .function Db.functionCalls (fun db calls => { db with functionCalls := calls }) (fun _ => false) where
  view := function_view
  put_calls _ := rfl
  calls_put _ _ := rfl
  held _ _ held := (held_iff.mp held).2.2.1
  policies _ _ := rfl
  functions other := absurd rfl other
  procedures _ _ _ := rfl

theorem procedure_of :
    QueueOf BodyCall .procedure Db.procedureCalls (fun db calls => { db with procedureCalls := calls })
      (fun _ => false) where
  view := procedure_view
  put_calls _ := rfl
  calls_put _ _ := rfl
  held _ _ held := (held_iff.mp held).2.2.2.1
  policies _ _ := rfl
  functions _ _ _ := rfl
  procedures other := absurd rfl other

section QueueOf

variable {β : Type} {queue : Queue} {calls : Db → Table (CallRow β)} {put : Db → Table (CallRow β) → Db}
  {llm : β → Bool}

/-- `reclaimSql`, `reclaimFunctionCall` and `reclaimProcedureCall`. -/
def reclaimWith (env : Env) (queue : Queue) (calls : Db → Table (CallRow β)) (put : Db → Table (CallRow β) → Db)
    (error : String) (db : Db) (selected : Nat × CallRow β) : Db :=
  (submitFor env (put db ((calls db).modify selected.1 (retire env .lost))) (queue, selected.1) selected.2.taskId
    (errorPayload error)).2

theorem reclaimSql_eq : reclaimSql env =
    reclaimWith env .sql Db.sqlCalls (fun db calls => { db with sqlCalls := calls }) "sql execution timeout" := rfl

theorem reclaimFunctionCall_eq : reclaimFunctionCall env = reclaimWith env .function Db.functionCalls
    (fun db calls => { db with functionCalls := calls }) "function execution timeout" := rfl

theorem reclaimProcedureCall_eq : reclaimProcedureCall env = reclaimWith env .procedure Db.procedureCalls
    (fun db calls => { db with procedureCalls := calls }) "procedure execution timeout" := rfl

theorem QueueOf.flow_call (place : QueueOf β queue calls put llm) (db : Db) (id : Nat) :
    db.flow.call (queue, id) = ((calls db).get? id).map (CallRow.view llm) := by
  have whole := (place.view db).call (calls db) id
  rw [place.put_calls] at whole
  exact whole

theorem QueueOf.reclaim_calls (place : QueueOf β queue calls put llm) (error : String) (selected : Nat × CallRow β) :
    calls (reclaimWith env queue calls put error db selected) = (calls db).modify selected.1 (retire env .lost) := by
  unfold reclaimWith
  rw [place.held _ _ (submitFor_error _ _ _ _ error).2, place.calls_put]

theorem QueueOf.reclaim_ebbs (place : QueueOf β queue calls put llm) (error : String) (selected : Nat × CallRow β) :
    Ebbs db (reclaimWith env queue calls put error db selected) := by
  have tasks := ((place.view db).rest ((calls db).modify selected.1 (retire env .lost)) (calls db)).2.1
  rw [place.put_calls] at tasks
  exact (Ebbs.of_tasks tasks (place.policies _ _)).trans (submitFor_error _ _ _ _ error).1

/-- The overdue calls are lost, and none of the others is touched. -/
theorem QueueOf.reclaim_path (place : QueueOf β queue calls put llm) (env : Env) (db : Db) (error : String)
    (wait : Time) :
    Path Flow.Move Plain db.flow
      ((overdueCalls env (calls db) wait).foldl (reclaimWith env queue calls put error) db).flow ∧
    Ebbs db ((overdueCalls env (calls db) wait).foldl (reclaimWith env queue calls put error) db) ∧
    ∀ id call, (calls ((overdueCalls env (calls db) wait).foldl (reclaimWith env queue calls put error) db)).get? id =
      some call → call.status.outstanding = true → (calls db).get? id = some call ∧ call.overdue env wait = false := by
  -- What is still selected is untouched; every other outstanding row is an old one, not overdue.
  let relies (rest : List (Nat × CallRow β)) (now : Db) : Prop :=
    (rest.map Prod.fst).Nodup ∧ (∀ entry ∈ rest, (calls now).get? entry.1 = some entry.2 ∧ entry.2.status = .inFlight) ∧
    Ebbs db now ∧ ∀ id call, (calls now).get? id = some call → call.status.outstanding = true →
      (calls db).get? id = some call ∧ (call.overdue env wait = false ∨ (id, call) ∈ rest)
  have start : relies (overdueCalls env (calls db) wait) db := by
    refine ⟨Table.select_keys_nodup _ _, ?_, .refl db, ?_⟩
    · rintro ⟨id, call⟩ member
      obtain ⟨found, overdue⟩ := Table.mem_select.mp member
      simp only [CallRow.overdue, Bool.and_eq_true, beq_iff_eq] at overdue
      exact ⟨found, overdue.1⟩
    · intro id call found _
      rcases overdue : call.overdue env wait with _ | _
      · exact ⟨found, .inl rfl⟩
      · exact ⟨found, .inr (Table.mem_select.mpr ⟨found, overdue⟩)⟩
  have each : ∀ selected rest now, relies (selected :: rest) now →
      Path Flow.Move Plain now.flow (reclaimWith env queue calls put error now selected).flow ∧
        relies rest (reclaimWith env queue calls put error now selected) := by
    rintro ⟨id, call⟩ rest now ⟨nodup, selected, ebbs, others⟩
    obtain ⟨found, inFlight⟩ := selected (id, call) List.mem_cons_self
    have before : now.flow.call (queue, id) = some (call.view llm) := by
      rw [place.flow_call, found, Option.map_some]
    have lost := (place.view now).modify (retire env .lost) found fun _ => ⟨rfl, rfl⟩
    rw [place.put_calls] at lost
    refine ⟨.single (submitFor_error_move before inFlight lost error) rfl, (List.nodup_cons.mp nodup).2, ?_,
      ebbs.trans (place.reclaim_ebbs error (id, call)), ?_⟩
    · rintro ⟨other, entry⟩ member
      obtain ⟨there, flying⟩ := selected (other, entry) (List.mem_cons_of_mem _ member)
      rw [place.reclaim_calls, Table.get?_modify, if_neg (key_apart nodup member)]
      exact ⟨there, flying⟩
    · intro other row there outstanding
      rw [place.reclaim_calls, Table.get?_modify] at there
      split at there
      · obtain ⟨old, -, rfl⟩ := Option.map_eq_some_iff.mp there
        cases outstanding
      · rename_i apart
        obtain ⟨old, ready⟩ := others other row there outstanding
        refine ⟨old, ready.imp_right fun member => ?_⟩
        rcases List.mem_cons.mp member with same | later
        · exact absurd (congrArg Prod.fst same) apart
        · exact later
  obtain ⟨path, -, -, ebbs, finished⟩ := Path.foldl Db.flow relies each _ db start
  refine ⟨path, ebbs, fun id call found outstanding => ?_⟩
  obtain ⟨old, ready⟩ := finished id call found outstanding
  exact ⟨old, ready.resolve_right List.not_mem_nil⟩

/-- Approvals and the other queues are left alone. -/
theorem QueueOf.reclaim_apart (place : QueueOf β queue calls put llm) (env : Env) (error : String)
    (selected : List (Nat × CallRow β)) (db : Db) :
    (selected.foldl (reclaimWith env queue calls put error) db).approvals = db.approvals ∧
    (queue ≠ .function →
      (selected.foldl (reclaimWith env queue calls put error) db).functionCalls = db.functionCalls) ∧
    (queue ≠ .procedure →
      (selected.foldl (reclaimWith env queue calls put error) db).procedureCalls = db.procedureCalls) := by
  induction selected generalizing db with
  | nil => exact ⟨rfl, fun _ => rfl, fun _ => rfl⟩
  | cons entry rest ih =>
    obtain ⟨approvals, functions, procedures⟩ := ih (reclaimWith env queue calls put error db entry)
    obtain ⟨-, -, function, procedure, approval, -⟩ := held_iff.mp (submitFor_error env
      (put db ((calls db).modify entry.1 (retire env .lost))) (queue, entry.1) entry.2.taskId error).2
    have rest := ((place.view db).rest ((calls db).modify entry.1 (retire env .lost)) (calls db)).2.2.1
    rw [place.put_calls] at rest
    exact ⟨approvals.trans (approval.trans rest),
      fun other => (functions other).trans (function.trans (place.functions other _ _)),
      fun other => (procedures other).trans (procedure.trans (place.procedures other _ _))⟩

end QueueOf

/-! ### `outbound` calls -/

/-- An overdue call of the task may have changed something at its destination. -/
def Db.mayHaveActed (env : Env) (db : Db) (timeout : Option Int) (t : Nat) : Bool :=
  db.outboundCalls.exists? fun _ call =>
    call.taskId == t && call.overdue env (patience 15 timeout) && call.body.ambiguous

/-- A running task with such a call is paused, all others fail or go on. -/
def TaskRow.Pauses (acted : Prop) (old new : TaskRow) : Prop :=
  old.Errs new ∨ new.agentId = old.agentId ∧ new.startedAt = old.startedAt ∧ old.status = .running ∧ acted

theorem TaskRow.Pauses.errs {acted : Prop} {a b c : TaskRow} (first : a.Pauses acted b) (second : b.Errs c) :
    a.Pauses acted c := by
  rcases first with errs | ⟨agent, started, running, acted⟩
  · exact .inl (errs.trans second)
  · exact .inr ⟨second.1.trans agent, second.2.1.trans started, running, acted⟩

theorem pauseForHuman_flow {t : Nat} {task : TaskRow} (found : db.tasks.get? t = some task) (payload : Json) :
    (pauseForHuman env db t payload).flow =
      (db.flow.setTask t { task.view with status := .waitingHuman }).setApproval db.approvals.next ⟨t, .pending⟩ := by
  have same (set : TaskRow → TaskRow) : (db.updateTask env t set).approvals = db.approvals := by
    unfold Db.updateTask
    rw [found]
  unfold pauseForHuman
  rw [flow_insertApproval, flow_updateTask _ found, same]
  rfl

theorem pauseForHuman_approvals (t : Nat) (payload : Json) {a : Nat} {approval : ApprovalRow}
    (found : db.approvals.get? a = some approval) :
    (pauseForHuman env db t payload).approvals.get? a = some approval := by
  have same (set : TaskRow → TaskRow) : (db.updateTask env t set).approvals = db.approvals := by
    unfold Db.updateTask
    split <;> rfl
  refine Table.get?_insert_old _ ?_
  rw [same]
  exact found

theorem pauseForHuman_keeps (env : Env) (db : Db) (t : Nat) (payload : Json) :
    (pauseForHuman env db t payload).policies = db.policies ∧
      (pauseForHuman env db t payload).outboundCalls = db.outboundCalls ∧
      (pauseForHuman env db t payload).functionCalls = db.functionCalls ∧
      (pauseForHuman env db t payload).procedureCalls = db.procedureCalls := by
  unfold pauseForHuman Db.updateTask
  split <;> exact ⟨rfl, rfl, rfl, rfl⟩

/-- What the tables are after some overdue `outbound` calls have been reclaimed. -/
structure Reclaimed (env : Env) (timeout : Option Int) (start db : Db) : Prop where
  rows : ∀ t row, db.tasks.get? t = some row →
    ∃ old, start.tasks.get? t = some old ∧ old.Pauses (start.mayHaveActed env timeout t = true) row
  approvals : ∀ a approval, start.approvals.get? a = some approval → db.approvals.get? a = some approval
  policies : db.policies = start.policies
  functions : db.functionCalls = start.functionCalls
  procedures : db.procedureCalls = start.procedureCalls

theorem Reclaimed.ebb {timeout : Option Int} {start : Db} (reclaimed : Reclaimed env timeout start db)
    (ebbs : Ebbs db db') (held : db'.held = db.held) : Reclaimed env timeout start db' := by
  obtain ⟨-, -, functions, procedures, approvals, policies⟩ := held_iff.mp held
  refine ⟨?_, ?_, policies.trans reclaimed.policies, functions.trans reclaimed.functions,
    procedures.trans reclaimed.procedures⟩
  · intro t row found
    obtain ⟨mid, there, errs⟩ := ebbs.rows t row found
    obtain ⟨old, before, pauses⟩ := reclaimed.rows t mid there
    exact ⟨old, before, pauses.errs errs⟩
  · rw [approvals]
    exact reclaimed.approvals

/-- One overdue `outbound` call. It was in flight for the task `call.taskId` when the sweep began. -/
theorem reclaimOutbound_step {timeout : Option Int} {start : Db} {id : Nat} {call : CallRow OutboundBody}
    (reclaimed : Reclaimed env timeout start db) (first : start.outboundCalls.get? id = some call)
    (overdue : call.overdue env (patience 15 timeout) = true) (found : db.outboundCalls.get? id = some call) :
    Flow.Move .plain db.flow (reclaimOutbound env db (id, call)).flow ∧
      Reclaimed env timeout start (reclaimOutbound env db (id, call)) ∧
      (reclaimOutbound env db (id, call)).outboundCalls = db.outboundCalls.modify id (loseOutboundCall env) := by
  have inFlight : call.status = .inFlight := by
    simp only [CallRow.overdue, Bool.and_eq_true, beq_iff_eq] at overdue
    exact overdue.1
  have before : db.flow.call (.outbound, id) = some (call.view OutboundBody.isLlm) := by
    rw [show db.flow.call = db.call from rfl, (outbound_view db).call db.outboundCalls, found, Option.map_some]
  have lost : { db with outboundCalls := db.outboundCalls.modify id (loseOutboundCall env) }.flow =
      db.flow.setCall (.outbound, id) { call.view OutboundBody.isLlm with status := .lost } :=
    (outbound_view db).modify (loseOutboundCall env) found fun _ => ⟨rfl, rfl⟩
  have retired : Reclaimed env timeout start
      { db with outboundCalls := db.outboundCalls.modify id (loseOutboundCall env) } :=
    ⟨reclaimed.rows, reclaimed.approvals, reclaimed.policies, reclaimed.functions, reclaimed.procedures⟩
  unfold reclaimOutbound
  dsimp only
  split
  · rename_i ambiguous
    rw [Bool.and_eq_true] at ambiguous
    obtain ⟨task, there, running⟩ := isRunning_iff.mp ambiguous.1
    have other : call.body.isLlm = false := by
      have kind := ambiguous.2
      simp only [OutboundBody.ambiguous, Bool.and_eq_true, Bool.or_eq_true, beq_iff_eq] at kind
      unfold OutboundBody.isLlm
      rcases kind.1 with function | mcp
      · rw [function]; rfl
      · rw [mcp]; rfl
    obtain ⟨policies, calls, functions, procedures⟩ := pauseForHuman_keeps env
      { db with outboundCalls := db.outboundCalls.modify id (loseOutboundCall env) } call.taskId
      (pauseReason id call.body)
    refine ⟨?_, ⟨?_, ?_, policies.trans retired.policies, functions.trans retired.functions,
      procedures.trans retired.procedures⟩, calls⟩
    · rw [pauseForHuman_flow there, lost]
      refine .ambiguous (.outbound, id) _ before inFlight other (flow_task there) running ?_
      intro other known
      exact flow_approval_newest other known
    · intro t now found
      by_cases here : t = call.taskId
      · subst here
        rw [show (pauseForHuman env _ call.taskId _).tasks.get? call.taskId = _ from
          (get?_updateTask _ there call.taskId).trans (if_pos rfl)] at found
        obtain rfl := Option.some.inj found
        obtain ⟨old, beginning, pauses⟩ := retired.rows _ task there
        refine ⟨old, beginning, .inr ?_⟩
        have acted : start.mayHaveActed env timeout call.taskId = true :=
          Table.exists?_eq_true.mpr ⟨id, call, first, by simp [overdue, ambiguous.2]⟩
        rcases pauses with ⟨agent, started, status⟩ | ⟨agent, started, status, -⟩
        · rcases status with same | failed
          · exact ⟨agent, started, same.symm.trans running, acted⟩
          · rw [running] at failed
            cases failed
        · exact ⟨agent, started, status, acted⟩
      · rw [show (pauseForHuman env _ call.taskId _).tasks.get? t = _ from get?_updateTask_other _ here] at found
        exact retired.rows t now found
    · intro a approval there
      exact pauseForHuman_approvals _ _ (retired.approvals a approval there)
  · obtain ⟨ebbs, held⟩ := submitFor_error env
      { db with outboundCalls := db.outboundCalls.modify id (loseOutboundCall env) } (.outbound, id) call.taskId
      "outbound timeout"
    exact ⟨submitFor_error_move before inFlight lost _, retired.ebb ebbs held, (held_iff.mp held).1⟩

theorem reclaimOutbound_path (env : Env) (db : Db) (timeout : Option Int) :
    Path Flow.Move Plain db.flow
      ((overdueCalls env db.outboundCalls (patience 15 timeout)).foldl (reclaimOutbound env) db).flow ∧
    Reclaimed env timeout db
      ((overdueCalls env db.outboundCalls (patience 15 timeout)).foldl (reclaimOutbound env) db) := by
  let relies (rest : List (Nat × CallRow OutboundBody)) (now : Db) : Prop :=
    (rest.map Prod.fst).Nodup ∧ Reclaimed env timeout db now ∧
    ∀ entry ∈ rest, db.outboundCalls.get? entry.1 = some entry.2 ∧
      entry.2.overdue env (patience 15 timeout) = true ∧ now.outboundCalls.get? entry.1 = some entry.2
  have start : relies (overdueCalls env db.outboundCalls (patience 15 timeout)) db := by
    refine ⟨Table.select_keys_nodup _ _, ⟨?_, fun _ _ found => found, rfl, rfl, rfl⟩, ?_⟩
    · intro t row found
      exact ⟨row, found, .inl ⟨rfl, rfl, .inl rfl⟩⟩
    · rintro ⟨id, call⟩ member
      obtain ⟨found, overdue⟩ := Table.mem_select.mp member
      exact ⟨found, overdue, found⟩
  have each : ∀ selected rest now, relies (selected :: rest) now →
      Path Flow.Move Plain now.flow (reclaimOutbound env now selected).flow ∧
        relies rest (reclaimOutbound env now selected) := by
    rintro ⟨id, call⟩ rest now ⟨nodup, reclaimed, selected⟩
    obtain ⟨first, overdue, found⟩ := selected (id, call) List.mem_cons_self
    obtain ⟨move, still, calls⟩ := reclaimOutbound_step reclaimed first overdue found
    refine ⟨.single move rfl, (List.nodup_cons.mp nodup).2, still, ?_⟩
    rintro ⟨other, entry⟩ member
    obtain ⟨first, overdue, there⟩ := selected (other, entry) (List.mem_cons_of_mem _ member)
    refine ⟨first, overdue, ?_⟩
    rw [calls, Table.get?_modify, if_neg (key_apart nodup member)]
    exact there
  obtain ⟨path, -, reclaimed, -⟩ := Path.foldl Db.flow relies each _ db start
  exact ⟨path, reclaimed⟩

/-! ### The whole first half -/

/-- What the tables are once all overdue calls have been reclaimed: the calls of
functions and procedures that are left are old ones, not overdue. -/
structure Settled (env : Env) (timeout : Option Int) (start db : Db) : Prop where
  rows : ∀ t row, db.tasks.get? t = some row →
    ∃ old, start.tasks.get? t = some old ∧ old.Pauses (start.mayHaveActed env timeout t = true) row
  approvals : ∀ a approval, start.approvals.get? a = some approval → db.approvals.get? a = some approval
  policies : db.policies = start.policies
  functions : ∀ id call, db.functionCalls.get? id = some call → call.status.outstanding = true →
    start.functionCalls.get? id = some call ∧ call.overdue env (patience 15 timeout) = false
  procedures : ∀ id call, db.procedureCalls.get? id = some call → call.status.outstanding = true →
    start.procedureCalls.get? id = some call ∧ call.overdue env (patience 150 timeout) = false

theorem rows_ebb {acted : Nat → Prop} {start : Db} (ebbs : Ebbs db db')
    (rows : ∀ t row, db.tasks.get? t = some row → ∃ old, start.tasks.get? t = some old ∧ old.Pauses (acted t) row)
    {t : Nat} {row : TaskRow} (found : db'.tasks.get? t = some row) :
    ∃ old, start.tasks.get? t = some old ∧ old.Pauses (acted t) row := by
  obtain ⟨mid, there, errs⟩ := ebbs.rows t row found
  obtain ⟨old, before, pauses⟩ := rows t mid there
  exact ⟨old, before, pauses.errs errs⟩

theorem reclaimSql_path (timeout : Option Int) {start : Db} (reclaimed : Reclaimed env timeout start db) :
    Path Flow.Move Plain db.flow
      ((overdueCalls env db.sqlCalls (patience 15 timeout)).foldl (reclaimSql env) db).flow ∧
    Reclaimed env timeout start
      ((overdueCalls env db.sqlCalls (patience 15 timeout)).foldl (reclaimSql env) db) := by
  rw [reclaimSql_eq]
  obtain ⟨path, ebbs, -⟩ := sql_of.reclaim_path env db "sql execution timeout" (patience 15 timeout)
  obtain ⟨approvals, functions, procedures⟩ := sql_of.reclaim_apart env "sql execution timeout"
    (overdueCalls env db.sqlCalls (patience 15 timeout)) db
  refine ⟨path, fun t row => rows_ebb ebbs reclaimed.rows, ?_, ebbs.policies.trans reclaimed.policies,
    (functions (by decide)).trans reclaimed.functions, (procedures (by decide)).trans reclaimed.procedures⟩
  intro a approval found
  rw [approvals]
  exact reclaimed.approvals a approval found

theorem reclaimFunctionCall_path (timeout : Option Int) {start : Db} (reclaimed : Reclaimed env timeout start db) :
    let after := (overdueCalls env db.functionCalls (patience 15 timeout)).foldl (reclaimFunctionCall env) db
    Path Flow.Move Plain db.flow after.flow ∧ Ebbs db after ∧ after.approvals = db.approvals ∧
      after.procedureCalls = start.procedureCalls ∧
      ∀ id call, after.functionCalls.get? id = some call → call.status.outstanding = true →
        start.functionCalls.get? id = some call ∧ call.overdue env (patience 15 timeout) = false := by
  rw [reclaimFunctionCall_eq]
  obtain ⟨path, ebbs, left⟩ := function_of.reclaim_path env db "function execution timeout" (patience 15 timeout)
  obtain ⟨approvals, -, procedures⟩ := function_of.reclaim_apart env "function execution timeout"
    (overdueCalls env db.functionCalls (patience 15 timeout)) db
  refine ⟨path, ebbs, approvals, (procedures (by decide)).trans reclaimed.procedures, ?_⟩
  intro id call found outstanding
  obtain ⟨before, fresh⟩ := left id call found outstanding
  rw [reclaimed.functions] at before
  exact ⟨before, fresh⟩

theorem reclaimProcedureCall_path (env : Env) (db : Db) (timeout : Option Int) :
    let after := (overdueCalls env db.procedureCalls (patience 150 timeout)).foldl (reclaimProcedureCall env) db
    Path Flow.Move Plain db.flow after.flow ∧ Ebbs db after ∧ after.approvals = db.approvals ∧
      after.functionCalls = db.functionCalls ∧
      ∀ id call, after.procedureCalls.get? id = some call → call.status.outstanding = true →
        db.procedureCalls.get? id = some call ∧ call.overdue env (patience 150 timeout) = false := by
  rw [reclaimProcedureCall_eq]
  obtain ⟨path, ebbs, left⟩ := procedure_of.reclaim_path env db "procedure execution timeout" (patience 150 timeout)
  obtain ⟨approvals, functions, -⟩ := procedure_of.reclaim_apart env "procedure execution timeout"
    (overdueCalls env db.procedureCalls (patience 150 timeout)) db
  exact ⟨path, ebbs, approvals, functions (by decide), left⟩

theorem reclaimBodies_path (timeout : Option Int) {start : Db} (reclaimed : Reclaimed env timeout start db) :
    let first := (overdueCalls env db.functionCalls (patience 15 timeout)).foldl (reclaimFunctionCall env) db
    let built := reclaimBuilds env first (patience 15 timeout)
    let second := (overdueCalls env built.procedureCalls (patience 150 timeout)).foldl (reclaimProcedureCall env) built
    Path Flow.Move Plain db.flow second.flow ∧ Settled env timeout start second := by
  intro first built second
  obtain ⟨path, ebbs, approvals, procedures, left⟩ := reclaimFunctionCall_path timeout reclaimed
  obtain ⟨path', ebbs', approvals', functions, left'⟩ := reclaimProcedureCall_path env built timeout
  have between : Ebbs first built := .of_tasks rfl rfl
  have both : Ebbs db second := (ebbs.trans between).trans ebbs'
  refine ⟨path.trans path', fun t row => rows_ebb both reclaimed.rows, ?_,
    both.policies.trans reclaimed.policies, ?_, ?_⟩
  · intro a approval found
    have kept : second.approvals = db.approvals := approvals'.trans approvals
    rw [kept]
    exact reclaimed.approvals a approval found
  · intro id call found outstanding
    have kept : second.functionCalls = first.functionCalls := functions
    rw [kept] at found
    exact left id call found outstanding
  · intro id call found outstanding
    have kept : built.procedureCalls = start.procedureCalls := procedures
    rw [← kept]
    exact left' id call found outstanding

theorem Settled.services {timeout : Option Int} {start : Db} (settled : Settled env timeout start db) (wait : Time) :
    Settled env timeout start (reclaimServices env (reclaimProcedureBuilds env db wait) wait) :=
  ⟨settled.rows, settled.approvals, settled.policies, settled.functions, settled.procedures⟩

theorem flow_services (wait : Time) :
    (reclaimServices env (reclaimProcedureBuilds env db wait) wait).flow = db.flow := rfl

theorem reclaimCalls_path (env : Env) (db : Db) (timeout : Option Int) :
    Path Flow.Move Plain db.flow (reclaimCalls env db timeout).flow ∧
      Settled env timeout db (reclaimCalls env db timeout) := by
  obtain ⟨outbound, reclaimed⟩ := reclaimOutbound_path env db timeout
  obtain ⟨sql, reclaimed⟩ := reclaimSql_path timeout reclaimed
  obtain ⟨bodies, settled⟩ := reclaimBodies_path timeout reclaimed
  unfold reclaimCalls
  dsimp only
  rw [flow_services]
  exact ⟨(outbound.trans sql).trans bodies, settled.services _⟩

end Allgres
