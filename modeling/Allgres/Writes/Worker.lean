import Allgres.Writes.Turn
import Allgres.Refine.Sweep

namespace Allgres

open Relational Jsonb Sql Runs

variable {env : Env} {db db' : Db}

/-! ### Claims and completions -/

theorem writes_modifyOutbound (id : Nat) (set : CallRow OutboundBody → CallRow OutboundBody)
    (keeps : ∀ call, SameRequest call (set call) ∧ (set call).body.costUsd = call.body.costUsd) :
    Writes env Calm db.core { db with outboundCalls := db.outboundCalls.modify id set }.core :=
  .single (.requests (fun other _ => other == id) (fun _ call => set call) fun _ => keeps) trivial

theorem writes_billOutbound (id : Nat) (set : CallRow OutboundBody → CallRow OutboundBody)
    (keeps : ∀ call, SameRequest call (set call)) :
    Writes env (fun mark _ => mark = .bill id) db.core { db with outboundCalls := db.outboundCalls.modify id set }.core :=
  .single (.bill id set keeps) rfl

theorem takeFlight_same (env : Env) (call : CallRow OutboundBody) : SameRequest call (takeFlight env call) :=
  ⟨rfl, rfl, rfl, rfl, rfl, fun queued => by cases queued⟩

theorem writes_fnClaimOutbound (limit : Option Int) (fallback : Option String) :
    Writes env Calm db.core (fnClaimOutbound env db limit fallback).2.core := by
  unfold fnClaimOutbound
  dsimp only
  generalize claimable db db.outboundCalls _ limit = claimed
  have marked (σ : Core) : Writes env Calm σ
      { σ with outboundCalls := markInFlight env σ.outboundCalls claimed } := by
    unfold markInFlight
    induction claimed generalizing σ with
    | nil => exact .refl
    | cons call rest ih =>
      have first : Writes env Calm σ { σ with outboundCalls := σ.outboundCalls.modify call.1 (takeFlight env) } :=
        .single (.requests (fun other _ => other == call.1) (fun _ call => takeFlight env call)
          fun _ call => ⟨takeFlight_same env call, rfl⟩) trivial
      exact first.trans (ih { σ with outboundCalls := σ.outboundCalls.modify call.1 (takeFlight env) })
  exact marked db.core

/-- The tables that a turn's action is compared with are those before the completion. -/
structure SameTurn (db db' : Db) : Prop where
  tasks : db'.tasks = db.tasks
  policies : db'.policies = db.policies
  agents : db'.agents = db.agents
  sessions : db'.sessions = db.sessions
  memories : db'.memories = db.memories

theorem Submitting.congr {t : Nat} {payload : Json} (same : SameTurn db db') (mark : Mark) (σ : Core)
    (submitting : Submitting env db' t payload mark σ) : Submitting env db t payload mark σ := by
  unfold Submitting at submitting ⊢
  split
  · rename_i type
    rw [if_pos type] at submitting
    cases mark with
    | start => exact submitting.elim
    | spawn => exact ⟨submitting.1, submitting.2.1.trans same.tasks, submitting.2.2.trans same.policies⟩
    | remember =>
      obtain ⟨own, tasks, agents, sessions, memories, written⟩ := submitting
      exact ⟨own, tasks.trans same.tasks, agents.trans same.agents, sessions.trans same.sessions,
        memories.trans same.memories, written⟩
    | _ => trivial
  · rename_i type
    rwa [if_neg type] at submitting

theorem writes_submitFor (key : Queue × Nat) (t : Nat) (payload : Json) :
    Writes env (Submitting env db t payload) db.core (submitFor env db key t payload).2.core := by
  unfold submitFor
  split
  · dsimp only
    split
    · rename_i submitted
      exact (writes_fnSubmitResult submitted).mono (Submitting.congr ⟨rfl, rfl, rfl, rfl, rfl⟩)
    · exact .refl
  · exact .refl

theorem writes_submitFor_error (key : Queue × Nat) (t : Nat) (error : String) :
    Writes env Calm db.core (submitFor env db key t (errorPayload error)).2.core := by
  have writes := @writes_submitFor env db key t (errorPayload error)
  rwa [errorPayload_calm] at writes

theorem retire_same {status : CallStatus} (settled : status ≠ .queued) (call : CallRow OutboundBody) :
    SameRequest call (retire env status call) :=
  ⟨rfl, rfl, rfl, rfl, rfl, fun queued => absurd queued settled⟩

theorem writes_harvestOutbound (callId : Nat) (status : Option Int) (body : Option String) :
    Writes env Calm db.core (harvestOutbound env db callId status body).core := by
  refine writes_modifyOutbound callId _ ?_
  intro call
  exact ⟨⟨rfl, rfl, rfl, rfl, rfl, fun queued => by cases queued⟩, rfl⟩

theorem writes_scoreCall (callId : Nat) (call : OutboundBody) (reply : Json) :
    Writes env Calm db.core (scoreCall db callId call reply).core := by
  unfold scoreCall
  split
  · refine writes_modifyOutbound callId _ ?_
    intro call
    exact ⟨⟨rfl, rfl, rfl, rfl, rfl, id⟩, rfl⟩
  · exact .refl

theorem core_chargeSchedule (t : Nat) (cost : Option ℚ) : (chargeSchedule db t cost).core = db.core := by
  unfold chargeSchedule
  split <;> rfl

theorem writes_recordUsage (callId t : Nat) (call : OutboundBody) (body : Option String) :
    Writes env (fun mark _ => mark = .bill callId) db.core (recordUsage db callId t call body).core := by
  unfold recordUsage
  dsimp only
  rw [core_chargeSchedule]
  refine writes_billOutbound callId _ ?_
  intro call
  exact ⟨rfl, rfl, rfl, rfl, rfl, id⟩

theorem writes_forgetResponseFormat (call : OutboundBody) (status : Option Int) (body : Option String) :
    Writes env Calm db.core (forgetResponseFormat env db call status body).core := by
  unfold forgetResponseFormat
  split
  · exact .single (.providers (fun id _ => call.providerId == some id)
      (fun _ provider => { provider with responseFormatJsonObject := false }) fun _ _ => ⟨rfl, rfl⟩) trivial
  · exact .refl

/-- What a completion of an HTTP call may make the call's task single out: only the
reply of a model is paid for and makes a task act. -/
def Replying (env : Env) (db : Db) (callId : Nat) (status : Option Int) (body : Option String) : Mark → Core → Prop :=
  match (db.outboundCalls.get? callId).filter fun call =>
      call.status == .inFlight && call.body.kind == .llm && !isLlmFailure status with
  | none => Calm
  | some call => fun mark σ => mark = .bill callId ∨ Submitting env db call.taskId (llmPayload body) mark σ

theorem Submitting.of_calm {t : Nat} {payload : Json} (mark : Mark) (σ : Core) (calm : Calm mark σ) :
    Submitting env db t payload mark σ := by
  unfold Submitting
  split
  · exact Acting.of_calm mark σ calm
  · exact calm

/-- A payload that is no reply of a model makes no task act. -/
theorem calm_payload {t : Nat} {payload : Json} (other : payload.getText? "type" ≠ some "llm_response") :
    Submitting env db t payload = Calm := by
  unfold Submitting
  rw [if_neg other]

theorem errorPayload_other (error : String) : (errorPayload error).getText? "type" ≠ some "llm_response" := by
  rw [errorPayload_type]
  decide

theorem resultPayload_type (type : String) (content : Json) :
    (resultPayload type content).getText? "type" = some type := rfl

/-- A payload that is no reply of a model. -/
def Inert (payload : Json) : Prop := payload.getText? "type" ≠ some "llm_response"

theorem inert_function (content : Json) : Inert (resultPayload "function_result" content) := by
  unfold Inert
  rw [resultPayload_type]
  decide

theorem inert_mcpPayload {call : OutboundBody} {status : Option Int} {body : Option String} {payload : Json}
    (done : mcpPayload db call status body = .ok payload) : Inert payload := by
  unfold mcpPayload at done
  split at done
  · obtain rfl := Except.ok.inj done
    exact errorPayload_other _
  · dsimp only at done
    split at done
    · obtain rfl := Except.ok.inj done
      exact errorPayload_other _
    · split at done
      · obtain rfl := Except.ok.inj done
        exact errorPayload_other _
      · split at done
        · cases done
        · split at done
          · obtain rfl := Except.ok.inj done
            exact errorPayload_other _
          · obtain rfl := Except.ok.inj done
            exact inert_function _

theorem inert_rankPayload {rank : Nat → Json → Option String → Except String Json} {t : Nat} {call : OutboundBody}
    {status : Option Int} {body : Option String} {payload : Json}
    (done : rankPayload rank env db t call status body = .ok payload) : Inert payload := by
  unfold rankPayload at done
  split at done
  · obtain rfl := Except.ok.inj done
    exact errorPayload_other _
  · split at done
    · cases done
    · obtain rfl := Except.ok.inj done
      exact errorPayload_other _
    · dsimp only at done
      split at done
      · cases done
      · obtain rfl := Except.ok.inj done
        exact inert_function _

theorem sameTurn_recordUsage (callId t : Nat) (call : OutboundBody) (body : Option String) :
    SameTurn db (recordUsage db callId t call body) := by
  unfold recordUsage chargeSchedule
  dsimp only
  split <;> exact ⟨rfl, rfl, rfl, rfl, rfl⟩

theorem sameTurn_forgetResponseFormat (call : OutboundBody) (status : Option Int) (body : Option String) :
    SameTurn db (forgetResponseFormat env db call status body) := by
  unfold forgetResponseFormat
  split <;> exact ⟨rfl, rfl, rfl, rfl, rfl⟩

theorem writes_outboundPayload {callId t : Nat} {call : OutboundBody} {status : Option Int} {body : Option String}
    {payload : Json} (done : outboundPayload env db callId t call status body = .ok (payload, db')) :
    SameTurn db db' ∧
      (payload = llmPayload body ∧ call.kind = .llm ∧ isLlmFailure status = false ∧
          Writes env (fun mark _ => mark = .bill callId) db.core db'.core ∨
        Inert payload ∧ Writes env Calm db.core db'.core) := by
  have mapped {result : Except String Json} (inert : ∀ payload, result = .ok payload → Inert payload)
      (done : (result.map fun payload => (payload, db)) = .ok (payload, db')) :
      SameTurn db db' ∧ Inert payload ∧ Writes env Calm db.core db'.core := by
    cases result with
    | error message => cases done
    | ok value =>
      obtain ⟨rfl, rfl⟩ := Prod.mk.inj (Except.ok.inj done)
      exact ⟨⟨rfl, rfl, rfl, rfl, rfl⟩, inert value rfl, .refl⟩
  unfold outboundPayload at done
  split at done
  · obtain ⟨rfl, rfl⟩ := Prod.mk.inj (Except.ok.inj done)
    exact ⟨⟨rfl, rfl, rfl, rfl, rfl⟩, .inr ⟨inert_function _, .refl⟩⟩
  · exact (mapped (fun _ => inert_mcpPayload) done).imp_right .inr
  · exact (mapped (fun _ => inert_rankPayload) done).imp_right .inr
  · exact (mapped (fun _ => inert_rankPayload) done).imp_right .inr
  · rename_i kind
    split at done
    · obtain ⟨rfl, rfl⟩ := Prod.mk.inj (Except.ok.inj done)
      exact ⟨sameTurn_forgetResponseFormat _ _ _, .inr ⟨errorPayload_other _, writes_forgetResponseFormat _ _ _⟩⟩
    · rename_i answered
      obtain ⟨rfl, rfl⟩ := Prod.mk.inj (Except.ok.inj done)
      exact ⟨sameTurn_recordUsage _ _ _ _, .inl ⟨rfl, kind, by simpa using answered, writes_recordUsage _ _ _ _⟩⟩

theorem SameTurn.trans {a b c : Db} (first : SameTurn a b) (second : SameTurn b c) : SameTurn a c where
  tasks := second.tasks.trans first.tasks
  policies := second.policies.trans first.policies
  agents := second.agents.trans first.agents
  sessions := second.sessions.trans first.sessions
  memories := second.memories.trans first.memories

theorem Replying.of_calm {callId : Nat} {status : Option Int} {body : Option String} (mark : Mark) (σ : Core)
    (calm : Calm mark σ) : Replying env db callId status body mark σ := by
  unfold Replying
  cases (db.outboundCalls.get? callId).filter fun call =>
    call.status == .inFlight && call.body.kind == .llm && !isLlmFailure status with
  | none => exact calm
  | some call => exact .inr (Submitting.of_calm mark σ calm)

theorem writes_fnCompleteOutbound {callId : Nat} {status : Option Int} {body : Option String} {reply : Json}
    (done : fnCompleteOutbound env db callId status body = .ok (reply, db')) :
    Writes env (Replying env db callId status body) db.core db'.core := by
  unfold fnCompleteOutbound at done
  split at done
  · cases done
  · rename_i call found
    split at done
    · obtain ⟨-, rfl⟩ := Prod.mk.inj (Except.ok.inj done)
      exact .refl
    · rename_i inFlight
      have inFlight : call.status = .inFlight := not_not.mp inFlight
      split at done
      · cases done
      · rename_i payload mid built
        obtain ⟨-, rfl⟩ := Prod.mk.inj (Except.ok.inj done)
        obtain ⟨same, replied⟩ := writes_outboundPayload built
        have harvested : SameTurn db (harvestOutbound env db callId status body) := ⟨rfl, rfl, rfl, rfl, rfl⟩
        have retired : Writes env (Replying env db callId status body) db.core
            (harvestOutbound env db callId status body).core :=
          (writes_harvestOutbound _ _ _).mono Replying.of_calm
        have scored := (@writes_scoreCall env (submitFor env mid (.outbound, callId) call.taskId payload).2 callId call.body
          (submitFor env mid (.outbound, callId) call.taskId payload).1).mono
            (@Replying.of_calm env db callId status body)
        rcases replied with ⟨rfl, kind, answered, paid⟩ | ⟨inert, writes⟩
        · have chosen : ((db.outboundCalls.get? callId).filter fun call =>
              call.status == .inFlight && call.body.kind == .llm && !isLlmFailure status) = some call := by
            rw [found, Option.filter_some, if_pos (by simp [inFlight, kind, answered])]
          have replying (mark : Mark) (σ : Core)
              (reply : mark = .bill callId ∨ Submitting env db call.taskId (llmPayload body) mark σ) :
              Replying env db callId status body mark σ := by
            simp only [Replying, chosen]
            exact reply
          have billed := paid.mono fun mark σ bill => replying mark σ (.inl bill)
          have submitted := (@writes_submitFor env mid (.outbound, callId) call.taskId
            (llmPayload body)).mono fun mark σ submitting =>
              replying mark σ (.inr (Submitting.congr (harvested.trans same) mark σ submitting))
          exact ((retired.trans billed).trans submitted).trans scored
        · have submitted := @writes_submitFor env mid (.outbound, callId) call.taskId payload
          rw [calm_payload inert] at submitted
          exact (retired.trans ((writes.trans submitted).mono Replying.of_calm)).trans scored

/-! ### The other task queues -/

theorem inert_sqlPayload (sql : String) (outcome : SqlOutcome) : Inert (sqlPayload sql outcome) := by
  unfold sqlPayload
  split
  · exact inert_function _
  · exact errorPayload_other _

theorem writes_inert {key : Queue × Nat} {t : Nat} {payload : Json} (inert : Inert payload) :
    Writes env Calm db.core (submitFor env db key t payload).2.core := by
  have writes := @writes_submitFor env db key t payload
  rwa [calm_payload inert] at writes

theorem writes_answer {start : Db} {submitted : Json × Db} {callId : Nat} {reply : Json}
    (done : (match submitted with
      | (answer, db) => (Except.ok (completedJson callId answer, db) : Except String (Json × Db))) = .ok (reply, db'))
    (writes : Writes env Calm start.core submitted.2.core) : Writes env Calm start.core db'.core := by
  obtain ⟨answer, after⟩ := submitted
  obtain ⟨-, rfl⟩ := Prod.mk.inj (Except.ok.inj done)
  exact writes

theorem writes_fnCompleteSql {callId : Nat} {outcome : SqlOutcome} {reply : Json}
    (done : fnCompleteSql env db callId outcome = .ok (reply, db')) : Writes env Calm db.core db'.core := by
  unfold fnCompleteSql at done
  split at done
  · cases done
  · rename_i call found
    split at done
    · obtain ⟨-, rfl⟩ := Prod.mk.inj (Except.ok.inj done)
      exact .refl
    · dsimp only at done
      have writes := @writes_inert env { db with sqlCalls := db.sqlCalls.modify callId (retire env .harvested) }
        (.sql, callId) call.taskId _ (inert_sqlPayload call.body.sql outcome)
      exact writes_answer done writes

theorem inert_functionPayload (name : Option String) (target : Nat) (outcome : BodyOutcome) :
    Inert (bodyPayload "function" name target outcome) := by
  unfold bodyPayload
  split
  · exact inert_function _
  · exact errorPayload_other _

theorem inert_procedurePayload (name : Option String) (target : Nat) (outcome : BodyOutcome) :
    Inert (bodyPayload "procedure" name target outcome) := by
  unfold bodyPayload Inert
  split
  · rw [resultPayload_type]
    decide
  · exact errorPayload_other _

theorem writes_fnCompleteFunctionCall {callId : Nat} {outcome : BodyOutcome} {reply : Json}
    (done : fnCompleteFunctionCall env db callId outcome = .ok (reply, db')) :
    Writes env Calm db.core db'.core := by
  unfold fnCompleteFunctionCall at done
  split at done
  · cases done
  · rename_i call found
    split at done
    · obtain ⟨-, rfl⟩ := Prod.mk.inj (Except.ok.inj done)
      exact .refl
    · dsimp only at done
      have writes := @writes_inert env
        { db with functionCalls := db.functionCalls.modify callId (retire env .harvested) } (.function, callId)
        call.taskId _ (inert_functionPayload ((db.functions.get? call.body.targetId).map FunctionRow.name)
          call.body.targetId outcome)
      exact writes_answer done writes

theorem writes_fnCompleteProcedureCall {callId : Nat} {outcome : BodyOutcome} {reply : Json}
    (done : fnCompleteProcedureCall env db callId outcome = .ok (reply, db')) :
    Writes env Calm db.core db'.core := by
  unfold fnCompleteProcedureCall at done
  split at done
  · cases done
  · rename_i call found
    split at done
    · obtain ⟨-, rfl⟩ := Prod.mk.inj (Except.ok.inj done)
      exact .refl
    · dsimp only at done
      have writes := @writes_inert env
        { db with procedureCalls := db.procedureCalls.modify callId (retire env .harvested) } (.procedure, callId)
        call.taskId _ (inert_procedurePayload ((db.procedures.get? call.body.targetId).map ProcedureRow.name)
          call.body.targetId outcome)
      exact writes_answer done writes

/-! ### Reclaimed calls -/

theorem writes_foldl {α : Type} {pass : Db → α → Db}
    (passes : ∀ item before, Writes env Calm before.core (pass before item).core) (items : List α) (start : Db) :
    Writes env Calm start.core (items.foldl pass start).core :=
  (Path.foldl Db.core (fun _ _ => True) (fun item _ before _ => ⟨passes item before, trivial⟩) items start trivial).1

theorem writes_pauseForHuman {t : Nat} (running : db.isRunning t = true) (payload : Json) :
    Writes env Calm db.core (pauseForHuman env db t payload).core := by
  obtain ⟨task, found, runs⟩ := isRunning_iff.mp running
  have paused : Writes env Calm db.core
      (db.updateTask env t fun task => { task with status := .waitingHuman }).core :=
    writes_task _ found ⟨rfl, rfl, rfl, rfl, rfl, rfl⟩ (live_of_running runs) (.pause runs rfl) trivial
  exact paused

theorem writes_reclaimOutbound (selected : Nat × CallRow OutboundBody) (db : Db) :
    Writes env Calm db.core (reclaimOutbound env db selected).core := by
  obtain ⟨callId, call⟩ := selected
  have lost : Writes env Calm db.core
      { db with outboundCalls := db.outboundCalls.modify callId (loseOutboundCall env) }.core := by
    refine writes_modifyOutbound callId _ ?_
    intro call
    exact ⟨⟨rfl, rfl, rfl, rfl, rfl, fun queued => by cases queued⟩, rfl⟩
  simp only [reclaimOutbound]
  split
  · rename_i ambiguous
    rw [Bool.and_eq_true] at ambiguous
    exact lost.trans (writes_pauseForHuman ambiguous.1 _)
  · exact lost.trans (writes_submitFor_error _ _ _)

theorem writes_reclaimSql (selected : Nat × CallRow SqlBody) (db : Db) :
    Writes env Calm db.core (reclaimSql env db selected).core :=
  @writes_submitFor_error env { db with sqlCalls := db.sqlCalls.modify selected.1 (retire env .lost) } _ _ _

theorem writes_reclaimFunctionCall (selected : Nat × CallRow BodyCall) (db : Db) :
    Writes env Calm db.core (reclaimFunctionCall env db selected).core :=
  @writes_submitFor_error env { db with functionCalls := db.functionCalls.modify selected.1 (retire env .lost) } _ _ _

theorem writes_reclaimProcedureCall (selected : Nat × CallRow BodyCall) (db : Db) :
    Writes env Calm db.core (reclaimProcedureCall env db selected).core :=
  @writes_submitFor_error env { db with procedureCalls := db.procedureCalls.modify selected.1 (retire env .lost) } _ _ _

theorem writes_reclaimCalls (timeout : Option Int) :
    Writes env Calm db.core (reclaimCalls env db timeout).core := by
  simp only [reclaimCalls]
  have outbound := writes_foldl (@writes_reclaimOutbound env)
    (overdueCalls env db.outboundCalls (patience 15 timeout)) db
  generalize (overdueCalls env db.outboundCalls (patience 15 timeout)).foldl (reclaimOutbound env) db = db at outbound ⊢
  refine outbound.trans ?_
  have sql := writes_foldl (@writes_reclaimSql env) (overdueCalls env db.sqlCalls (patience 15 timeout)) db
  generalize (overdueCalls env db.sqlCalls (patience 15 timeout)).foldl (reclaimSql env) db = db at sql ⊢
  refine sql.trans ?_
  have functions := writes_foldl (@writes_reclaimFunctionCall env)
    (overdueCalls env db.functionCalls (patience 15 timeout)) db
  generalize (overdueCalls env db.functionCalls (patience 15 timeout)).foldl (reclaimFunctionCall env) db = db
    at functions ⊢
  refine functions.trans ?_
  exact writes_foldl (@writes_reclaimProcedureCall env)
    (overdueCalls env (reclaimBuilds env db (patience 15 timeout)).procedureCalls (patience 150 timeout))
    (reclaimBuilds env db (patience 15 timeout))

/-! ### Tasks that waited too long -/

theorem writes_logged {t step : Nat} {role : Role} {content : Json} {σ : Core}
    (writes : Writes env Calm (db.appendLog env t step role content).core σ) : Writes env Calm db.core σ :=
  (writes_log _ _ _ _).trans writes

theorem writes_failUnanswered {t : Nat} {task : TaskRow} (found : db.tasks.get? t = some task)
    (waits : task.status = .waitingHuman) : Writes env Calm db.core (failUnanswered env db t task).core := by
  have live : task.status.terminal = false := by
    rw [waits]
    rfl
  simp only [failUnanswered]
  refine .trans ?_ (writes_maybeCompleteSession _)
  exact writes_logged (writes_finish _ found ⟨rfl, rfl, rfl, rfl, rfl, rfl⟩ live rfl)

theorem writes_expireApproval (selected : Nat × ApprovalRow) (db : Db) :
    Writes env Calm db.core (expireApproval env db selected).core := by
  obtain ⟨approvalId, approval⟩ := selected
  simp only [expireApproval]
  split
  · exact .refl
  · rename_i task waiting
    obtain ⟨found, waits⟩ := Option.filter_eq_some_iff.mp waiting
    exact @writes_failUnanswered env (rejectExpired env db approvalId) approval.taskId task found (beq_iff_eq.mp waits)

theorem writes_loseCalls (cond : Nat → Bool) (error : String) :
    Writes env Calm db.core ((db.loseOutbound env cond error).loseSql env cond).core :=
  .single (.requests (fun _ call => cond call.taskId && call.status.outstanding)
    (fun _ call => { call with
      status := .lost, updatedAt := env.now, body := { call.body with error := some error } })
    fun _ _ => ⟨⟨rfl, rfl, rfl, rfl, rfl, fun queued => by cases queued⟩, rfl⟩) trivial

theorem writes_timeOutTask {t : Nat} {task : TaskRow} (found : db.tasks.get? t = some task)
    (live : task.status.terminal = false) : Writes env Calm db.core (timeOutTask env db (t, task)).core := by
  simp only [timeOutTask]
  refine .trans ?_ (writes_maybeCompleteSession _)
  refine .trans ?_ (writes_loseCalls (· == t) "turn_timeout")
  exact writes_logged (writes_finish _ found ⟨rfl, rfl, rfl, rfl, rfl, rfl⟩ live rfl)

theorem writes_timeOutTasks : Writes env Calm db.core ((overdueTasks env db).foldl (timeOutTask env) db).core := by
  let relies (rest : List (Nat × TaskRow)) (now : Db) : Prop :=
    (rest.map Prod.fst).Nodup ∧
    ∀ entry ∈ rest, now.tasks.get? entry.1 = some entry.2 ∧ turnExpired env db entry.2 = true
  have start : relies (overdueTasks env db) db := by
    refine ⟨Table.select_keys_nodup _ _, ?_⟩
    rintro ⟨t, task⟩ member
    exact Table.mem_select.mp member
  have each : ∀ selected rest now, relies (selected :: rest) now →
      Writes env Calm now.core (timeOutTask env now selected).core ∧ relies rest (timeOutTask env now selected) := by
    rintro ⟨t, task⟩ rest now ⟨nodup, selected⟩
    obtain ⟨found, expired⟩ := selected (t, task) List.mem_cons_self
    have live : task.status.terminal = false := by
      rcases turnExpired_active expired with now | now | now <;> rw [now] <;> rfl
    refine ⟨writes_timeOutTask found live, (List.nodup_cons.mp nodup).2, ?_⟩
    rintro ⟨other, entry⟩ member
    obtain ⟨there, late⟩ := selected (other, entry) (List.mem_cons_of_mem _ member)
    exact ⟨((timeOutTask_effect env now t task).1 other (key_apart nodup member)).trans there, late⟩
  exact (Path.foldl Db.core relies each _ db start).1

/-! ### Tasks whose children have finished -/

theorem writes_wakeTask {t : Nat} {task : TaskRow} (found : db.tasks.get? t = some task)
    (waits : task.status = .waitingChildren)
    (finished : ∀ c child, db.tasks.get? c = some child → child.parentTaskId = some t → child.status.terminal = true) :
    Writes env Calm db.core (wakeTask env db (t, task)).core := by
  have live : task.status.terminal = false := by
    rw [waits]
    rfl
  have shift : Shift (db.appendLog env t (task.stepCount + 1) .function
      (.build [("delegate_results", delegateResults db t)])).core t task
      { task with status := .queued, stepCount := task.stepCount + 1, updatedAt := env.now } (.wake t) :=
    .wake waits rfl finished (List.mem_append_right _ List.mem_cons_self) rfl rfl rfl
  simp only [wakeTask]
  exact writes_logged (writes_task _ found ⟨rfl, rfl, rfl, rfl, rfl, rfl⟩ live shift trivial)

theorem writes_wakeTasks : Writes env Calm db.core ((awaitedTasks db).foldl (wakeTask env) db).core := by
  -- Waking a task finishes none, so that the children of the others stay finished.
  let relies (rest : List (Nat × TaskRow)) (now : Db) : Prop :=
    (rest.map Prod.fst).Nodup ∧
    ∀ entry ∈ rest, now.tasks.get? entry.1 = some entry.2 ∧ entry.2.status = .waitingChildren ∧
      ∀ c child, now.tasks.get? c = some child → child.parentTaskId = some entry.1 → child.status.terminal = true
  have start : relies (awaitedTasks db) db := by
    refine ⟨Table.select_keys_nodup _ _, ?_⟩
    rintro ⟨t, task⟩ member
    obtain ⟨found, waits⟩ := Table.mem_select.mp member
    simp only [Bool.and_eq_true, beq_iff_eq, Bool.not_eq_true'] at waits
    refine ⟨found, waits.1, ?_⟩
    intro c child there parent
    by_contra live
    have pending : (db.tasks.exists? fun _ child => child.parentTaskId == some t && !child.status.terminal) = true :=
      Table.exists?_eq_true.mpr ⟨c, child, there, by simpa [parent] using live⟩
    rw [waits.2] at pending
    cases pending
  have each : ∀ selected rest now, relies (selected :: rest) now →
      Writes env Calm now.core (wakeTask env now selected).core ∧ relies rest (wakeTask env now selected) := by
    rintro ⟨t, task⟩ rest now ⟨nodup, selected⟩
    obtain ⟨found, waits, finished⟩ := selected (t, task) List.mem_cons_self
    refine ⟨writes_wakeTask found waits finished, (List.nodup_cons.mp nodup).2, ?_⟩
    have rows (other : Nat) : (wakeTask env now (t, task)).tasks.get? other = if other = t then
        some { task with status := .queued, stepCount := task.stepCount + 1, updatedAt := env.now }
        else now.tasks.get? other :=
      @get?_updateTask (now.appendLog env t (task.stepCount + 1) .function
        (.build [("delegate_results", delegateResults now t)])) env t task _ found other
    rintro ⟨other, entry⟩ member
    obtain ⟨there, waits', finished'⟩ := selected (other, entry) (List.mem_cons_of_mem _ member)
    refine ⟨(rows other).trans ((if_neg (key_apart nodup member)).trans there), waits', ?_⟩
    intro c child now' parent
    replace now' := (rows c).symm.trans now'
    split at now'
    · obtain rfl := Option.some.inj now'
      have ended := finished' t task found parent
      rw [waits] at ended
      cases ended
    · exact finished' c child now' parent
  exact (Path.foldl Db.core relies each _ db start).1

theorem writes_dropExpiredMemories : Writes env Calm db.core (dropExpiredMemories env db).core := by
  have dropped : Writes env Calm db.core { db.core with
      memories := db.memories.delete fun _ memory => memory.expiresAt.any fun time => decide (time < env.now) } := by
    refine .single (.expire _ ?_) trivial
    intro key memory expired
    by_contra lasting
    rw [Option.not_isSome_iff_eq_none.mp lasting] at expired
    cases expired
  exact dropped

theorem writes_fnWatchdog (timeout : Option Int) : Writes env Calm db.core (fnWatchdog env db timeout).core := by
  simp only [fnWatchdog, sweepTasks]
  have reclaimed := @writes_reclaimCalls env db timeout
  generalize reclaimCalls env db timeout = db at reclaimed ⊢
  have expired := reclaimed.trans (writes_foldl (@writes_expireApproval env) (expiredApprovals env db) db)
  generalize (expiredApprovals env db).foldl (expireApproval env) db = db at expired ⊢
  have timedOut := expired.trans writes_timeOutTasks
  generalize (overdueTasks env db).foldl (timeOutTask env) db = db at timedOut ⊢
  exact (timedOut.trans writes_wakeTasks).trans writes_dropExpiredMemories

/-! ### Sessions and approvals -/

/-- A turn may be added to a session while the tasks are as they were. -/
def Continuing (db : Db) : Mark → Core → Prop
  | .turn, σ => σ.tasks = db.tasks
  | .fire _, _ | .start _, _ | .spawn _ _, _ | .remember _ _, _ | .bill _, _ => False
  | _, _ => True

theorem Continuing.of_calm (mark : Mark) (σ : Core) (calm : Calm mark σ) : Continuing db mark σ := by
  cases mark with
  | turn | fire | start | spawn | remember | bill => exact calm.elim
  | _ => trivial

theorem writes_openTurn {s agentId : Nat} {goal : String} {session : SessionRow} (same : db.tasks = db'.tasks)
    (known : (db.agents.get? agentId).isSome) (found : db.sessions.get? s = some session)
    (opened : session.status = .opened) (alone : ∀ t task, db.tasks.get? t = some task → task.sessionId = s →
      task.parentTaskId = none → task.status.terminal = true) :
    Writes env (Continuing db') db.core (openTurn env db s agentId goal).db.core := by
  have inserted : Writes env (Continuing db') db.core
      (db.insertTask env s agentId none (.build [("goal", .str goal)]) 0 (db.generationOf agentId)).core :=
    .single (.openTask _ ⟨rfl, rfl, rfl, known, rfl, rfl⟩ (.turn found opened alone)) same
  exact inserted.trans ((writes_log _ _ _ _).mono Continuing.of_calm)

theorem writes_fnContinueSession {s : Nat} {message : Option String} {created : Created}
    (done : fnContinueSession env db s message = .ok created) :
    Writes env (Continuing db) db.core created.db.core := by
  unfold fnContinueSession at done
  split at done
  · cases done
  · split at done
    · cases done
    · rename_i session found
      split_ifs at done with inactive busy
      obtain rfl := Except.ok.inj done
      rw [Bool.not_eq_true', Bool.not_eq_false] at inactive
      have reopened : Writes env Calm db.core
          (db.updateSession s fun session => { session with status := .opened, completedAt := none }).core :=
        writes_session s _ fun _ => ⟨⟨rfl, rfl, rfl, rfl, rfl⟩, rfl, .inr (.inl rfl)⟩
      refine (reopened.mono Continuing.of_calm).trans ?_
      have here : (db.updateSession s fun session =>
          { session with status := .opened, completedAt := none }).sessions.get? s =
            some { session with status := .opened, completedAt := none } := by
        simp only [Db.updateSession, Table.get?_modify, if_true, found, Option.map_some]
      refine writes_openTurn rfl (isActiveAgent_known inactive) here rfl ?_
      · intro t task here belongs root
        by_contra live
        refine busy (Table.exists?_eq_true.mpr ⟨t, task, here, ?_⟩)
        simpa [belongs, root] using live

theorem writes_answerTask {t : Nat} {task : TaskRow} (found : db.tasks.get? t = some task)
    (waits : task.status = .waitingHuman) (accepted : Bool) (reply : Option String) :
    Writes env Calm db.core (answerTask env db t task accepted reply).core := by
  have live : task.status.terminal = false := by
    rw [waits]
    rfl
  simp only [answerTask]
  split
  · exact writes_logged (writes_task _ found ⟨rfl, rfl, rfl, rfl, rfl, rfl⟩ live (.resume waits rfl) trivial)
  · refine .trans ?_ (writes_maybeCompleteSession _)
    exact writes_logged (writes_finish _ found ⟨rfl, rfl, rfl, rfl, rfl, rfl⟩ live rfl)

theorem writes_fnDecideApproval {approvalId : Nat} {accept : Option Bool} {reply : Option String} {out : Json}
    (done : fnDecideApproval env db approvalId accept reply = .ok (out, db')) :
    Writes env Calm db.core db'.core := by
  unfold fnDecideApproval at done
  split at done
  · cases done
  · rename_i approval _
    split_ifs at done
    dsimp only at done
    split at done
    · obtain ⟨-, rfl⟩ := Prod.mk.inj (Except.ok.inj done)
      exact .refl
    · rename_i task waiting
      obtain ⟨found, waits⟩ := Option.filter_eq_some_iff.mp waiting
      obtain ⟨-, rfl⟩ := Prod.mk.inj (Except.ok.inj done)
      exact @writes_answerTask env (decideRow env db approvalId (accept.getD false) reply) approval.taskId task found
        (beq_iff_eq.mp waits) _ _

theorem writes_cancelTask {t : Nat} {task : TaskRow} (reason : String) (found : db.tasks.get? t = some task)
    (live : task.status.terminal = false) : Writes env Calm db.core (cancelTask env reason db (t, task)).core := by
  simp only [cancelTask]
  exact writes_logged (writes_finish _ found ⟨rfl, rfl, rfl, rfl, rfl, rfl⟩ live rfl)

theorem writes_cancelTasks (reason : String) (cond : Nat → TaskRow → Bool)
    (live : ∀ t task, cond t task = true → task.status.terminal = false) :
    Writes env Calm db.core ((db.tasks.select cond).foldl (cancelTask env reason) db).core := by
  let relies (rest : List (Nat × TaskRow)) (now : Db) : Prop :=
    (rest.map Prod.fst).Nodup ∧
    ∀ entry ∈ rest, now.tasks.get? entry.1 = some entry.2 ∧ entry.2.status.terminal = false
  have start : relies (db.tasks.select cond) db := by
    refine ⟨Table.select_keys_nodup _ _, ?_⟩
    rintro ⟨t, task⟩ member
    obtain ⟨found, chosen⟩ := Table.mem_select.mp member
    exact ⟨found, live t task chosen⟩
  have each : ∀ selected rest now, relies (selected :: rest) now →
      Writes env Calm now.core (cancelTask env reason now selected).core ∧
        relies rest (cancelTask env reason now selected) := by
    rintro ⟨t, task⟩ rest now ⟨nodup, selected⟩
    obtain ⟨found, alive⟩ := selected (t, task) List.mem_cons_self
    refine ⟨writes_cancelTask reason found alive, (List.nodup_cons.mp nodup).2, ?_⟩
    rintro ⟨other, entry⟩ member
    obtain ⟨there, alive'⟩ := selected (other, entry) (List.mem_cons_of_mem _ member)
    exact ⟨(get?_updateTask_other _ (key_apart nodup member)).trans there, alive'⟩
  exact (Path.foldl Db.core relies each _ db start).1

theorem writes_fnCancelSession {s : Nat} {reason : Option String} {out : Json}
    (done : fnCancelSession env db s reason = .ok (out, db')) : Writes env Calm db.core db'.core := by
  unfold fnCancelSession at done
  split_ifs at done
  dsimp only at done
  obtain ⟨-, rfl⟩ := Prod.mk.inj (Except.ok.inj done)
  have cancelled := @writes_cancelTasks env db ((nonEmpty (reason.map btrim)).getD "Cancelled by operator.")
    (fun _ task => task.sessionId == s && !task.status.terminal) (by
      intro t task chosen
      simp only [Bool.and_eq_true, Bool.not_eq_true'] at chosen
      exact chosen.2)
  refine cancelled.trans ?_
  generalize (db.tasks.select fun _ task => task.sessionId == s && !task.status.terminal).foldl
    (cancelTask env ((nonEmpty (reason.map btrim)).getD "Cancelled by operator.")) db = db
  refine (writes_loseCalls (db.ownedBy s) "session_cancelled").trans ?_
  refine writes_session s (fun session => if session.status = .opened then
    { session with status := .cancelled, completedAt := some env.now } else session) ?_
  intro row
  split
  · exact ⟨⟨rfl, rfl, rfl, rfl, rfl⟩, rfl, .inr (.inr rfl)⟩
  · exact ⟨⟨rfl, rfl, rfl, rfl, rfl⟩, rfl, .inl rfl⟩

/-! ### Schedules -/

/-- The sweep opens sessions for schedules. -/
def Scheduling : Mark → Core → Prop
  | .turn, _ | .start _, _ | .spawn _ _, _ | .remember _ _, _ | .bill _, _ => False
  | _, _ => True

theorem Scheduling.of_opening {schedule : Option Nat} (mark : Mark) (σ : Core) (opening : Opening schedule mark σ) :
    Scheduling mark σ := by
  cases mark with
  | turn | start | spawn | remember | bill => exact opening.elim
  | _ => trivial

theorem writes_runSchedule (selected : Nat × ScheduleRow) (state : Nat × Db) :
    Writes env Scheduling state.2.core (runSchedule env state selected).2.core := by
  obtain ⟨count, db⟩ := state
  obtain ⟨scheduleId, schedule⟩ := selected
  simp only [runSchedule]
  split
  · exact .refl
  · split
    · exact .refl
    · rename_i created
      exact (writes_fnCreateSession created).mono Scheduling.of_opening

theorem writes_fnRunSchedules (env : Env) (db : Db) : Writes env Scheduling db.core (fnRunSchedules env db).2.core :=
  (Path.foldl (fun state : Nat × Db => state.2.core) (fun _ _ => True)
    (fun selected _ state _ => ⟨writes_runSchedule selected state, trivial⟩) _ (0, db) trivial).1

end Allgres
