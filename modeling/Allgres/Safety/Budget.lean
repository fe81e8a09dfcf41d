import Allgres.Safety.Outstanding
import Allgres.Protocol.Budget
import Allgres.Submit.Raises

/-! The number of model calls a task can make. Each of them is paid for with a
step, unless `fn_complete_outbound` swallows an exception. -/

namespace Allgres

open Relational Jsonb Sql Runs

variable {db db' start : Db} {env : Env}

/-- The `max_steps` of the task's agent. -/
def Db.stepLimit (db : Db) (t : Nat) : Option Nat :=
  (db.tasks.get? t).bind fun task => (db.policyOf task.agentId).map PolicyRow.maxSteps

/-- The limit of the task is the given one, as far as the task exists. -/
def Label.limited (t limit : Nat) (label : Label) (db : Db) : Bool :=
  (db.stepLimit t).all (· == limit) && label.driven db

/-- The model's reply to a call of the task makes `fn_submit_result` raise. -/
def Db.swallows (db : Db) (env : Env) (t callId : Nat) (status : Option Int) (body : Option String) : Bool :=
  (db.outboundCalls.get? callId).any fun call =>
    call.taskId == t && call.body.isLlm && call.status == .inFlight && db.isRunning t && !isLlmFailure status &&
      replyRaises env db t (parsedReply (llmPayload body))

/-- The limit stays, and no reply of the model to the task raises. -/
def Label.pays (t limit : Nat) (label : Label) (db : Db) : Bool :=
  label.limited t limit db && match label with
    | .call env (.completeOutbound callId status body) => !db.swallows env t callId status body
    | _ => true

theorem Label.pays_limited {t limit : Nat} {label : Label} (allowed : label.pays t limit db = true) :
    label.limited t limit db = true := by
  simp only [Label.pays, Bool.and_eq_true] at allowed
  exact allowed.1

theorem stepLimit_le {t limit bound : Nat} {label : Label} (allowed : label.limited t limit db = true)
    (known : db.StepLimit t bound) : bound ≤ limit := by
  obtain ⟨task, policy, found, rules, rfl⟩ := known
  have limited : db.stepLimit t = some policy.maxSteps := by
    simp only [Db.stepLimit, found, rules, Option.bind_some, Option.map_some]
  simp only [Label.limited, limited, Option.all_some, Bool.and_eq_true, beq_iff_eq] at allowed
  exact Nat.le_of_eq allowed.1

/-! ### Swallowed replies -/

theorem llmPayload_type (body : Option String) : (llmPayload body).getText? "type" = some "llm_response" := rfl

theorem recordUsage_recording (env : Env) (db : Db) (callId taskId : Nat) (call : OutboundBody) (status : Option Int)
    (body : Option String) : ∃ calls schedules,
      recordUsage (harvestOutbound env db callId status body) callId taskId call body =
        { db with outboundCalls := calls, schedules := schedules } := by
  unfold recordUsage chargeSchedule harvestOutbound
  dsimp only
  split
  · exact ⟨_, _, rfl⟩
  · exact ⟨_, db.schedules, rfl⟩

/-- What a completion has recorded before does not decide whether the reply raises. -/
theorem raises_recorded (env : Env) (callId : Nat) {t : Nat} {task : TaskRow} (found : db.tasks.get? t = some task)
    (running : task.status = .running) (call : OutboundBody) (status : Option Int) (body : Option String)
    (submits : List (Queue × Nat)) :
    raises (fnSubmitResult env
      { recordUsage (harvestOutbound env db callId status body) callId t call body with submits := submits } t
      (llmPayload body)) = replyRaises env db t (parsedReply (llmPayload body)) := by
  obtain ⟨calls, schedules, recorded⟩ := recordUsage_recording env db callId t call status body
  rw [recorded, ← replyRaises_recording calls schedules db.logs submits]
  have row : (db.recording calls schedules db.logs submits).tasks.get? t = some task := found
  exact raises_fnSubmitResult row running (llmPayload_type body)

/-- An `llm` reply that raises is one of those that `replyRaises` describes. -/
theorem swallows_of_raisesOn {callId : Nat} {status : Option Int} {body : Option String} {call : CallRow OutboundBody}
    (raised : RaisesOn env db callId status body) (found : db.outboundCalls.get? callId = some call)
    (llm : call.body.isLlm = true) : db.swallows env call.taskId callId status body = true := by
  obtain ⟨again, payload, mid, message, there, inFlight, built, running, raised⟩ := raised
  obtain rfl := Option.some.inj (found.symm.trans there)
  have kind : call.body.kind = .llm := by simpa [OutboundBody.isLlm] using llm
  have tasks : mid.tasks = db.tasks := (outboundPayload_quiet built).tasks
  obtain ⟨task, row, runs⟩ := isRunning_iff.mp running
  simp only [outboundPayload, kind] at built
  split at built
  · obtain ⟨rfl, -⟩ := Prod.mk.inj (Except.ok.inj built)
    let submitted : Db := { mid with submits := mid.submits ++ [(.outbound, callId)] }
    have again : submitted.tasks.get? call.taskId = some task := row
    obtain ⟨reply, after, done, -⟩ := fnSubmitResult_error env again runs _
    cases raised.symm.trans done
  · rename_i succeeded
    obtain ⟨rfl, rfl⟩ := Prod.mk.inj (Except.ok.inj built)
    rw [tasks] at row
    have raises := (congrArg raises raised).symm.trans (raises_recorded env callId row runs call.body status body _)
    have here : db.isRunning call.taskId = true := isRunning_iff.mpr ⟨task, row, runs⟩
    simp only [Db.swallows, found, Option.any_some, beq_self_eq_true, llm, inFlight, here, succeeded, ← raises,
      raises_error, Bool.not_false, Bool.and_self]

theorem llm_outbound {k : CallKey} {view : CallView} (found : db.flow.call k = some view) (llm : view.llm = true) :
    ∃ callId call, k = (.outbound, callId) ∧ db.outboundCalls.get? callId = some call ∧
      view = call.view OutboundBody.isLlm := by
  obtain ⟨queue, id⟩ := k
  cases queue with
  | outbound =>
    obtain ⟨call, row, rfl⟩ := Option.map_eq_some_iff.mp found
    exact ⟨id, call, rfl, row, rfl⟩
  | sql | function | procedure =>
    obtain ⟨call, -, rfl⟩ := Option.map_eq_some_iff.mp found
    cases llm

theorem Facts.pays {t limit : Nat} {label : Label} {event : Flow.Event} {σ : Flow Left}
    (allowed : label.pays t limit db = true) (facts : Facts label db event σ) : Flow.Pays t limit event σ := by
  cases event with
  | plain | report | timeout | cancel => trivial
  | dispatch other bound =>
    rintro rfl
    exact stepLimit_le (Label.pays_limited allowed) facts.dispatch
  | swallow k =>
    intro view found owned
    by_contra silent
    have llm : view.llm = true := by simpa using silent
    obtain ⟨rfl, raised⟩ := facts.swallow
    obtain ⟨callId, call, rfl, row, rfl⟩ := llm_outbound found llm
    rcases raised with ⟨env, _, status, body, rfl, same, raised⟩ | other
    · obtain rfl := (Prod.mk.inj same).2
      have swallows := swallows_of_raisesOn raised row llm
      rw [show call.taskId = t from owned] at swallows
      simp [Label.pays, swallows] at allowed
    · exact other rfl

/-! ### Runs -/

theorem Fresh.llmRows (fresh : Fresh db) (t : Nat) : db.llmRows t = 0 := by
  rw [Db.llmRows, Table.count_eq_zero]
  intro id call found
  have absent := fresh.calls (.outbound, id)
  simp only [Db.call, found, Option.map_some] at absent
  cases absent

end Allgres
