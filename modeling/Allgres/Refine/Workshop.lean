import Allgres.Build
import Allgres.Lib.Claims
import Allgres.Refine.Reclaim

/-! What the worker's own transactions do to functions, procedures and their calls. -/

namespace Allgres

open Relational Jsonb Sql

variable {db db' : Db} {env : Env}

/-- The tables between which bodies are built and called. -/
structure Shop where
  agents : Table AgentRow
  functions : Table FunctionRow
  procedures : Table ProcedureRow
  functionCalls : Table (CallRow BodyCall)
  procedureCalls : Table (CallRow BodyCall)

@[simps] def Db.shop (db : Db) : Shop where
  agents := db.agents
  functions := db.functions
  procedures := db.procedures
  functionCalls := db.functionCalls
  procedureCalls := db.procedureCalls

/-! ### What leaves these tables alone -/

theorem shop_updateTask (t : Nat) (set : TaskRow → TaskRow) : (db.updateTask env t set).shop = db.shop := by
  unfold Db.updateTask
  split <;> rfl

theorem shop_maybeCompleteSession (s : Nat) : (maybeCompleteSession env db s).shop = db.shop := by
  unfold maybeCompleteSession
  dsimp only
  split_ifs <;> rfl

theorem shop_failTask (t : Nat) (task : TaskRow) (error : String) (content : List (String × Json)) :
    (failTask env db t task error content).shop = db.shop := by
  unfold failTask
  rw [shop_maybeCompleteSession]
  exact shop_updateTask t _

theorem shop_submitError (turn : Turn) (payload : Json) : (submitError env db turn payload).2.shop = db.shop := by
  have counted (db : Db) : (db.bumpStep env turn.taskId).shop = db.shop := shop_updateTask turn.taskId _
  unfold submitError
  dsimp only
  split
  · rw [shop_maybeCompleteSession, shop_updateTask, counted]
    rfl
  · rw [counted]
    rfl

theorem shop_submitFor_error (key : Queue × Nat) (t : Nat) (error : String) :
    (submitFor env db key t (errorPayload error)).2.shop = db.shop := by
  unfold submitFor
  dsimp only
  split
  · split
    · rename_i reply last done
      unfold fnSubmitResult at done
      split at done
      · cases done
      · split at done
        · cases done
        · split at done
          · obtain ⟨-, rfl⟩ := Prod.mk.inj (Except.ok.inj done)
            rw [shop_failTask]
            rfl
          · unfold submitPayload at done
            rw [errorPayload_type] at done
            obtain rfl := congrArg Prod.snd (Except.ok.inj done)
            rw [shop_submitError]
            rfl
    · rfl
  · rfl

theorem shop_foldl {α : Type} {f : Db → α → Db} (keeps : ∀ db item, (f db item).shop = db.shop) (items : List α)
    (db : Db) : (items.foldl f db).shop = db.shop := by
  induction items generalizing db with
  | nil => rfl
  | cons item rest ih => rw [List.foldl_cons, ih, keeps]

theorem shop_reclaimOutbound (selected : Nat × CallRow OutboundBody) :
    (reclaimOutbound env db selected).shop = db.shop := by
  unfold reclaimOutbound
  dsimp only
  split
  · exact shop_updateTask selected.2.taskId _
  · exact shop_submitFor_error _ _ _

theorem shop_sweepTasks : (sweepTasks env db).shop = db.shop := by
  have expire := shop_foldl (f := expireApproval env) fun db selected => by
    unfold expireApproval
    dsimp only
    split
    · rfl
    · unfold failUnanswered
      rw [shop_maybeCompleteSession, shop_updateTask]
      rfl
  have timeOut := shop_foldl (f := timeOutTask env) fun db selected => by
    unfold timeOutTask
    rw [shop_maybeCompleteSession]
    exact shop_updateTask selected.1 _
  have wake := shop_foldl (f := wakeTask env) fun db selected => shop_updateTask selected.1 _
  have drop (db : Db) : (dropExpiredMemories env db).shop = db.shop := rfl
  unfold sweepTasks
  dsimp only
  rw [drop, wake, timeOut, expire]

/-! ### The sweep -/

/-- The overdue calls of a queue are lost, the others stay. -/
def loseOverdue (env : Env) (wait : Time) (calls : Table (CallRow BodyCall)) : Table (CallRow BodyCall) :=
  Table.rewrite (retire env .lost) calls (overdueCalls env calls wait)

theorem shop_reclaimFunctionCalls (wait : Time) :
    ((overdueCalls env db.functionCalls wait).foldl (reclaimFunctionCall env) db).shop =
      { db.shop with functionCalls := loseOverdue env wait db.functionCalls } := by
  unfold loseOverdue
  generalize overdueCalls env db.functionCalls wait = overdue
  induction overdue generalizing db with
  | nil => rfl
  | cons entry rest ih =>
    have first : (reclaimFunctionCall env db entry).shop =
        { db.shop with functionCalls := db.functionCalls.modify entry.1 (retire env .lost) } :=
      shop_submitFor_error _ _ _
    rw [List.foldl_cons, ih, first]
    simp only [show (reclaimFunctionCall env db entry).functionCalls = _ from congrArg Shop.functionCalls first]
    rfl

theorem shop_reclaimProcedureCalls (wait : Time) :
    ((overdueCalls env db.procedureCalls wait).foldl (reclaimProcedureCall env) db).shop =
      { db.shop with procedureCalls := loseOverdue env wait db.procedureCalls } := by
  unfold loseOverdue
  generalize overdueCalls env db.procedureCalls wait = overdue
  induction overdue generalizing db with
  | nil => rfl
  | cons entry rest ih =>
    have first : (reclaimProcedureCall env db entry).shop =
        { db.shop with procedureCalls := db.procedureCalls.modify entry.1 (retire env .lost) } :=
      shop_submitFor_error _ _ _
    rw [List.foldl_cons, ih, first]
    simp only [show (reclaimProcedureCall env db entry).procedureCalls = _ from congrArg Shop.procedureCalls first]
    rfl

/-- The sweep loses overdue calls and queues overdue builds again. -/
theorem shop_fnWatchdog (timeout : Option Int) :
    (fnWatchdog env db timeout).shop =
      { agents := db.agents
        functions := (reclaimBuilds env db (patience 15 timeout)).functions
        procedures := (reclaimProcedureBuilds env db (patience 15 timeout)).procedures
        functionCalls := loseOverdue env (patience 15 timeout) db.functionCalls
        procedureCalls := loseOverdue env (patience 150 timeout) db.procedureCalls } := by
  have outbound := shop_foldl fun db selected => @shop_reclaimOutbound db env selected
  have sql := shop_foldl (f := reclaimSql env) fun db selected => shop_submitFor_error _ _ _
  let sent := (overdueCalls env db.outboundCalls (patience 15 timeout)).foldl (reclaimOutbound env) db
  let asked := (overdueCalls env sent.sqlCalls (patience 15 timeout)).foldl (reclaimSql env) sent
  let served := (overdueCalls env asked.functionCalls (patience 15 timeout)).foldl (reclaimFunctionCall env) asked
  let built := reclaimBuilds env served (patience 15 timeout)
  let run := (overdueCalls env built.procedureCalls (patience 150 timeout)).foldl (reclaimProcedureCall env) built
  have first : asked.shop = db.shop := (sql _ sent).trans (outbound _ db)
  have second : served.shop = _ := shop_reclaimFunctionCalls (patience 15 timeout)
  have third : run.shop = _ := shop_reclaimProcedureCalls (patience 150 timeout)
  have last : (fnWatchdog env db timeout).shop =
      { run.shop with procedures := (reclaimProcedureBuilds env run (patience 15 timeout)).procedures } :=
    shop_sweepTasks
  have agents : run.agents = db.agents :=
    (congrArg Shop.agents third).trans ((congrArg Shop.agents second).trans (congrArg Shop.agents first))
  have functions : served.functions = db.functions :=
    (congrArg Shop.functions second).trans (congrArg Shop.functions first)
  have rebuilt : run.functions = built.functions := congrArg Shop.functions third
  have procedures : run.procedures = db.procedures :=
    (congrArg Shop.procedures third).trans ((congrArg Shop.procedures second).trans (congrArg Shop.procedures first))
  have functionCalls : run.functionCalls = loseOverdue env (patience 15 timeout) asked.functionCalls :=
    (congrArg Shop.functionCalls third).trans (congrArg Shop.functionCalls second)
  have queuedFunctions : asked.functionCalls = db.functionCalls := congrArg Shop.functionCalls first
  have procedureCalls : run.procedureCalls = loseOverdue env (patience 150 timeout) served.procedureCalls :=
    congrArg Shop.procedureCalls third
  have queuedProcedures : served.procedureCalls = db.procedureCalls :=
    (congrArg Shop.procedureCalls second).trans (congrArg Shop.procedureCalls first)
  rw [queuedFunctions] at functionCalls
  rw [queuedProcedures] at procedureCalls
  rw [last]
  simp only [Db.shop, Shop.mk.injEq]
  refine ⟨agents, ?_, ?_, functionCalls, procedureCalls⟩
  · rw [rebuilt]
    simp only [built, reclaimBuilds, functions]
  · simp only [reclaimProcedureBuilds, procedures]

theorem fnWatchdog_agents (timeout : Option Int) : (fnWatchdog env db timeout).agents = db.agents := by
  rw [← Db.shop_agents, shop_fnWatchdog]

theorem fnWatchdog_functions (timeout : Option Int) :
    (fnWatchdog env db timeout).functions = (reclaimBuilds env db (patience 15 timeout)).functions := by
  rw [← Db.shop_functions, shop_fnWatchdog]

theorem fnWatchdog_procedures (timeout : Option Int) :
    (fnWatchdog env db timeout).procedures = (reclaimProcedureBuilds env db (patience 15 timeout)).procedures := by
  rw [← Db.shop_procedures, shop_fnWatchdog]

theorem fnWatchdog_functionCalls (timeout : Option Int) :
    (fnWatchdog env db timeout).functionCalls = loseOverdue env (patience 15 timeout) db.functionCalls := by
  rw [← Db.shop_functionCalls, shop_fnWatchdog]

theorem fnWatchdog_procedureCalls (timeout : Option Int) :
    (fnWatchdog env db timeout).procedureCalls = loseOverdue env (patience 150 timeout) db.procedureCalls := by
  rw [← Db.shop_procedureCalls, shop_fnWatchdog]

end Allgres
