import Allgres.Writes.Worker
import Allgres.Machine

namespace Allgres

open Relational Jsonb Sql Runs

variable {env : Env} {db db' start : Db} {op : Op}

/-- What the writes of one call may single out. -/
def Op.marks (env : Env) (db : Db) : Op → Mark → Core → Prop
  | .createSession _ _ _ scheduleId => Opening scheduleId
  | .continueSession _ _ => Continuing db
  | .runSchedules => Scheduling
  | .dispatchTasks => Slotted
  | .completeOutbound callId status body => Replying env db callId status body
  | .nextStep t => Stepping db t
  | .submitResult t payload => Submitting env db t payload
  | _ => Calm

/-- Every call of the control plane is a run of writes. -/
theorem Op.writes (done : op.run env db = .ok db') : Writes env (op.marks env db) db.core db'.core := by
  cases op <;> simp only [Op.run] at done
  case createSession =>
    obtain ⟨created, opened, rfl⟩ := ok_of_map done
    exact writes_fnCreateSession opened
  case continueSession =>
    obtain ⟨created, opened, rfl⟩ := ok_of_map done
    exact writes_fnContinueSession opened
  case runSchedules =>
    obtain rfl := Except.ok.inj done
    exact writes_fnRunSchedules env db
  case dispatchTasks =>
    obtain ⟨out, dispatched, rfl⟩ := ok_of_map done
    exact writes_fnDispatchTasks dispatched
  case claimOutbound limit fallback =>
    obtain rfl := Except.ok.inj done
    exact writes_fnClaimOutbound limit fallback
  case claimSql | claimFunctionCalls | claimProcedureCalls =>
    obtain rfl := Except.ok.inj done
    exact .refl
  case completeOutbound =>
    obtain ⟨out, completed, rfl⟩ := ok_of_map done
    exact writes_fnCompleteOutbound completed
  case completeSql =>
    obtain ⟨out, completed, rfl⟩ := ok_of_map done
    exact writes_fnCompleteSql completed
  case completeFunctionCall =>
    obtain ⟨out, completed, rfl⟩ := ok_of_map done
    exact writes_fnCompleteFunctionCall completed
  case completeProcedureCall =>
    obtain ⟨out, completed, rfl⟩ := ok_of_map done
    exact writes_fnCompleteProcedureCall completed
  case decideApproval =>
    obtain ⟨out, decided, rfl⟩ := ok_of_map done
    exact writes_fnDecideApproval decided
  case cancelSession =>
    obtain ⟨out, cancelled, rfl⟩ := ok_of_map done
    exact writes_fnCancelSession cancelled
  case watchdog timeout =>
    obtain rfl := Except.ok.inj done
    exact writes_fnWatchdog timeout
  case nextStep t =>
    obtain ⟨⟨next, after⟩, stepped, rfl⟩ := ok_of_map done
    exact writes_fnNextStep stepped
  case submitResult t payload =>
    obtain ⟨⟨reply, after⟩, submitted, rfl⟩ := ok_of_map done
    exact writes_fnSubmitResult submitted

/-- A task starts within its agent's slots, unless somebody calls `fn_next_step` by hand. -/
theorem Op.marks_slotted {σ : Core} {t : Nat} (driven : (Label.call env op).driven db = true)
    (marks : op.marks env db (.start t) σ) : ∃ task, σ.tasks.get? t = some task ∧ ¬ σ.full t task := by
  cases op with
  | dispatchTasks => exact marks
  | completeOutbound callId status body =>
    unfold Op.marks Replying at marks
    cases chosen : (db.outboundCalls.get? callId).filter fun call =>
      call.status == .inFlight && call.body.kind == .llm && !isLlmFailure status with
    | none => simp only [chosen, Calm] at marks
    | some call =>
      simp only [chosen, Submitting, reduceCtorEq, false_or] at marks
      split at marks <;> exact marks.elim
  | nextStep | submitResult => cases driven
  | _ => exact marks.elim

/-- A child is judged by the tables that the transaction started from. -/
theorem Op.marks_spawn {σ : Core} {t : Nat} {child : TaskRow} (marks : op.marks env db (.spawn t child) σ) :
    σ.tasks = db.tasks ∧ σ.policies = db.policies := by
  have acting {other : Nat} {payload : Json} (submitting : Submitting env db other payload (.spawn t child) σ) :
      σ.tasks = db.tasks ∧ σ.policies = db.policies := by
    unfold Submitting at submitting
    split at submitting
    · exact submitting.2
    · exact submitting.elim
  cases op with
  | completeOutbound callId status body =>
    unfold Op.marks Replying at marks
    cases chosen : (db.outboundCalls.get? callId).filter fun call =>
      call.status == .inFlight && call.body.kind == .llm && !isLlmFailure status with
    | none => simp only [chosen, Calm] at marks
    | some call =>
      simp only [chosen, reduceCtorEq, false_or] at marks
      exact acting marks
  | submitResult => exact acting marks
  | _ => exact marks.elim

/-- A turn is added to the tasks that the transaction started from. -/
theorem Op.marks_turn {σ : Core} (marks : op.marks env db .turn σ) : σ.tasks = db.tasks := by
  have calm {t : Nat} {payload : Json} (submitting : Submitting env db t payload .turn σ) : False := by
    unfold Submitting at submitting
    split at submitting <;> exact submitting
  cases op with
  | continueSession => exact marks
  | completeOutbound callId status body =>
    unfold Op.marks Replying at marks
    cases chosen : (db.outboundCalls.get? callId).filter fun call =>
      call.status == .inFlight && call.body.kind == .llm && !isLlmFailure status with
    | none => simp only [chosen, Calm] at marks
    | some call =>
      simp only [chosen, reduceCtorEq, false_or] at marks
      exact (calm marks).elim
  | submitResult => exact (calm marks).elim
  | _ => exact marks.elim

/-- Only the completion of a call records what it has cost. -/
theorem Op.marks_bill {σ : Core} {callId : Nat} (marks : op.marks env db (.bill callId) σ) :
    ∃ status body, op = .completeOutbound callId status body := by
  have calm {t : Nat} {payload : Json} (submitting : Submitting env db t payload (.bill callId) σ) : False := by
    unfold Submitting at submitting
    split at submitting <;> exact submitting
  cases op with
  | completeOutbound other status body =>
    unfold Op.marks Replying at marks
    cases chosen : (db.outboundCalls.get? other).filter fun call =>
      call.status == .inFlight && call.body.kind == .llm && !isLlmFailure status with
    | none => simp only [chosen, Calm] at marks
    | some call =>
      simp only [chosen, Mark.bill.injEq] at marks
      rcases marks with rfl | submitting
      · exact ⟨status, body, rfl⟩
      · exact (calm submitting).elim
  | submitResult => exact (calm marks).elim
  | _ => exact marks.elim

/-- What every write keeps holds in every state of a run. -/
theorem core_invariant {P : Core → Prop} (ok : Mark → Core → Prop) {allowed : Label → Db → Bool}
    (keeps : ∀ env mark σ σ', Write env mark σ σ' → ok mark σ → P σ → P σ')
    (facts : ∀ env op db mark σ, allowed (.call env op) db = true → op.marks env db mark σ → ok mark σ)
    (configured : ∀ db db', Quiet db db' → P db.core → P db'.core) (run : Run allowed start db)
    (initially : P start.core) : P db.core := by
  refine run.invariant (P := fun db : Db => P db.core) ?_ initially
  intro label before after step permitted held
  cases step with
  | rollback => exact held
  | configure quiet => exact configured before after quiet held
  | commit done =>
    have writes := (Op.writes done).mono fun mark σ => facts _ _ _ mark σ permitted
    exact writes.invariant (keeps _) held

end Allgres
