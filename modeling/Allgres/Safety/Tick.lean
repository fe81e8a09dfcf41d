import Allgres.Hidden.Turn
import Allgres.Machine
import Allgres.Tick

namespace Allgres

open Relational Jsonb Sql

variable {env : Env} {db : Db}

/-! ### Nothing in a tick touches the schedules -/

@[simp] theorem hidden_updateTask (t : Nat) (set : TaskRow → TaskRow) :
    (db.updateTask env t set).hidden = db.hidden :=
  hidden_of_cover (f := fun db => db.updateTask env t set) (fun _ _ => cover_updateTask t set) db

@[simp] theorem hidden_maybeCompleteSession (s : Nat) : (maybeCompleteSession env db s).hidden = db.hidden :=
  hidden_of_cover (f := fun db => maybeCompleteSession env db s) (fun _ _ => cover_maybeCompleteSession s) db

theorem hidden_submitFor (key : Queue × Nat) (t : Nat) (payload : Json) :
    (submitFor env db key t payload).2.hidden = db.hidden :=
  hidden_of_coverReply (f := fun db => submitFor env db key t payload) (fun _ _ => cover_submitFor key t payload) db

/-- A loop keeps the hidden tables if every pass does. -/
theorem hidden_foldl {α : Type} {f : Db → α → Db} (keeps : ∀ db item, (f db item).hidden = db.hidden)
    (items : List α) (db : Db) : (items.foldl f db).hidden = db.hidden := by
  induction items generalizing db with
  | nil => rfl
  | cons item rest ih => rw [List.foldl_cons, ih, keeps]

theorem hidden_reclaimOutbound (selected : Nat × CallRow OutboundBody) :
    (reclaimOutbound env db selected).hidden = db.hidden := by
  simp only [reclaimOutbound]
  split
  · simp only [pauseForHuman, Db.insertApproval]
    exact hidden_updateTask _ _
  · exact hidden_submitFor _ _ _

/-- The OAuth exchanges that have been under way for too long are given up. -/
def Hidden.swept (env : Env) (hidden : Hidden) (timeout : Option Int) : Hidden :=
  { hidden with oauthCalls := loseOauth env hidden.oauthCalls (patience 15 timeout) }

theorem hidden_reclaimCalls (timeout : Option Int) :
    (reclaimCalls env db timeout).hidden = db.hidden.swept env timeout := by
  have outbound := hidden_foldl (fun db selected => @hidden_reclaimOutbound env db selected)
  have sql := hidden_foldl (f := reclaimSql env) fun db selected => hidden_submitFor _ _ _
  have function := hidden_foldl (f := reclaimFunctionCall env) fun db selected => hidden_submitFor _ _ _
  have procedure := hidden_foldl (f := reclaimProcedureCall env) fun db selected => hidden_submitFor _ _ _
  have builds (db : Db) (wait : Time) : (reclaimBuilds env db wait).hidden = db.hidden := rfl
  have procedureBuilds (db : Db) (wait : Time) : (reclaimProcedureBuilds env db wait).hidden = db.hidden := rfl
  have services (db : Db) : (reclaimServices env db (patience 15 timeout)).hidden = db.hidden.swept env timeout := rfl
  simp only [reclaimCalls, services, procedureBuilds, procedure, builds, function, sql, outbound]

theorem hidden_sweepTasks : (sweepTasks env db).hidden = db.hidden := by
  have expire := hidden_foldl (f := expireApproval env) fun db selected => by
    simp only [expireApproval]
    split
    · rfl
    · simp only [failUnanswered, hidden_maybeCompleteSession, hidden_updateTask]
      rfl
  have timeOut := hidden_foldl (f := timeOutTask env) fun db selected => by
    simp only [timeOutTask, hidden_maybeCompleteSession]
    exact hidden_updateTask _ _
  have wake := hidden_foldl (f := wakeTask env) fun db selected => hidden_updateTask _ _
  have drop (db : Db) : (dropExpiredMemories env db).hidden = db.hidden := rfl
  simp only [sweepTasks, drop, wake, timeOut, expire]

theorem hidden_fnWatchdog (timeout : Option Int) :
    (fnWatchdog env db timeout).hidden = db.hidden.swept env timeout := by
  rw [fnWatchdog, hidden_sweepTasks, hidden_reclaimCalls]

theorem schedules_fnWatchdog (timeout : Option Int) : (fnWatchdog env db timeout).schedules = db.schedules := by
  have column (db : Db) : db.schedules = db.hidden.schedules := rfl
  rw [column, hidden_fnWatchdog]
  rfl

theorem schedules_of_hidden {before after : Db} (kept : after.hidden = before.hidden) :
    after.schedules = before.schedules :=
  congrArg Hidden.schedules kept

theorem hidden_fnCompleteSql {callId : Nat} {outcome : SqlOutcome} {reply : Json} {after : Db}
    (done : fnCompleteSql env db callId outcome = .ok (reply, after)) : after.hidden = db.hidden := by
  simp only [fnCompleteSql] at done
  split at done
  · cases done
  · split at done
    · obtain ⟨-, rfl⟩ := Prod.mk.inj (Except.ok.inj done)
      rfl
    · have last := (Prod.mk.inj (Except.ok.inj done)).2
      rw [← last]
      exact hidden_submitFor _ _ _

theorem hidden_fnCompleteFunctionCall {callId : Nat} {outcome : BodyOutcome} {reply : Json} {after : Db}
    (done : fnCompleteFunctionCall env db callId outcome = .ok (reply, after)) : after.hidden = db.hidden := by
  simp only [fnCompleteFunctionCall] at done
  split at done
  · cases done
  · split at done
    · obtain ⟨-, rfl⟩ := Prod.mk.inj (Except.ok.inj done)
      rfl
    · have last := (Prod.mk.inj (Except.ok.inj done)).2
      rw [← last]
      exact hidden_submitFor _ _ _

theorem hidden_fnCompleteProcedureCall {callId : Nat} {outcome : BodyOutcome} {reply : Json} {after : Db}
    (done : fnCompleteProcedureCall env db callId outcome = .ok (reply, after)) : after.hidden = db.hidden := by
  simp only [fnCompleteProcedureCall] at done
  split at done
  · cases done
  · split at done
    · obtain ⟨-, rfl⟩ := Prod.mk.inj (Except.ok.inj done)
      rfl
    · have last := (Prod.mk.inj (Except.ok.inj done)).2
      rw [← last]
      exact hidden_submitFor _ _ _

end Allgres
