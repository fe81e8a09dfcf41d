import Allgres.Refine.Workshop
import Allgres.Machine

/-! A queued call of a function or a procedure is served by the worker exactly if the
build of its target has not failed. -/

namespace Allgres

open Relational Jsonb Sql Runs

variable {db next later : Db} {k : Nat} {call : CallRow BodyCall}

/-- What the worker does by itself for functions and procedures, at any time and with any outcome. -/
inductive WorkerStep (db : Db) : Db → Prop
  | claimFunctionBuilds (env : Env) (limit : Option Int) : WorkerStep db (fnClaimFunctionBuilds env db limit).2
  | completeFunctionBuild (env : Env) (functionId : Nat) (outcome : BuildOutcome) :
      WorkerStep db (fnCompleteFunctionBuild env db functionId outcome)
  | claimFunctionCalls (env : Env) (limit : Option Int) : WorkerStep db (fnClaimFunctionCalls env db limit).2
  | claimProcedureBuilds (env : Env) (limit : Option Int) : WorkerStep db (fnClaimProcedureBuilds env db limit).2
  | completeProcedureBuild (env : Env) (procedureId : Nat) (outcome : BuildOutcome) :
      WorkerStep db (fnCompleteProcedureBuild env db procedureId outcome)
  | claimProcedureCalls (env : Env) (limit : Option Int) : WorkerStep db (fnClaimProcedureCalls env db limit).2
  | watchdog (env : Env) (timeout : Option Int) : WorkerStep db (fnWatchdog env db timeout)

abbrev WorkerRun : Db → Db → Prop := Relation.ReflTransGen WorkerStep

/-! ### The claims as batches -/

theorem claimLimit_pos (limit : Option Int) : 0 < claimLimit limit := by
  unfold claimLimit
  omega

def awaitsBuild (function : FunctionRow) : Bool :=
  function.buildStatus == .pending && function.handler == .plpgsql

def awaitsProcedureBuild (procedure : ProcedureRow) : Bool :=
  procedure.buildStatus == .pending && procedure.body.isSome

/-- The call is queued for a running task, and its target is built. -/
def callable (db : Db) (built : Nat → Bool) (call : CallRow BodyCall) : Bool :=
  call.status == .queued && db.isRunning call.taskId &&
    (built call.body.targetId && (db.agents.get? call.body.agentId).isSome)

def functionBuilt (db : Db) (functionId : Nat) : Bool :=
  (db.functions.get? functionId).any fun function => function.buildStatus == .built

def procedureBuilt (db : Db) (procedureId : Nat) : Bool :=
  (db.procedures.get? procedureId).any fun procedure => procedure.buildStatus == .built

theorem claimFunctionBuilds_eq (env : Env) (db : Db) (limit : Option Int) :
    (fnClaimFunctionBuilds env db limit).2 = { db with
      functions := db.functions.batch (fun _ function => awaitsBuild function)
        (fun a b => a.2.updatedAt ≤ b.2.updatedAt) (claimLimit limit) (startBuild env) } := rfl

theorem claimProcedureBuilds_eq (env : Env) (db : Db) (limit : Option Int) :
    (fnClaimProcedureBuilds env db limit).2 = { db with
      procedures := db.procedures.batch (fun _ procedure => awaitsProcedureBuild procedure)
        (fun a b => a.2.updatedAt ≤ b.2.updatedAt) (claimLimit limit) (startProcedureBuild env) } := rfl

theorem claimFunctionCalls_eq (env : Env) (db : Db) (limit : Option Int) :
    (fnClaimFunctionCalls env db limit).2 = { db with
      functionCalls := db.functionCalls.batch (fun _ call => callable db (functionBuilt db) call)
        (fun a b => a.2.createdAt ≤ b.2.createdAt) (claimLimit limit) (takeFlight env) } := rfl

theorem claimProcedureCalls_eq (env : Env) (db : Db) (limit : Option Int) :
    (fnClaimProcedureCalls env db limit).2 = { db with
      procedureCalls := db.procedureCalls.batch (fun _ call => callable db (procedureBuilt db) call)
        (fun a b => a.2.createdAt ≤ b.2.createdAt) (claimLimit limit) (takeFlight env) } := rfl

/-! ### Targets that will be built -/

/-- The build is done, under way, or going to be claimed. -/
def FunctionRow.Buildable (function : FunctionRow) : Prop :=
  function.buildStatus ≠ .failed ∧ (function.buildStatus = .pending → function.handler = .plpgsql)

def ProcedureRow.Buildable (procedure : ProcedureRow) : Prop :=
  procedure.buildStatus ≠ .failed ∧ (procedure.buildStatus = .pending → procedure.body.isSome)

/-- The agent and the target of the call exist, and the target's build has not failed. -/
def Servable {τ : Type} (agents : Table AgentRow) (targets : Table τ) (buildable : τ → Prop) (body : BodyCall) : Prop :=
  (agents.get? body.agentId).isSome ∧ ∃ target, targets.get? body.targetId = some target ∧ buildable target

theorem Servable.congr {τ : Type} {agents : Table AgentRow} {targets targets' : Table τ} {buildable : τ → Prop}
    {body : BodyCall} (servable : Servable agents targets' buildable body)
    (kept : ∀ target, targets'.get? body.targetId = some target → buildable target →
      ∃ old, targets.get? body.targetId = some old ∧ buildable old) : Servable agents targets buildable body := by
  obtain ⟨agent, target, found, ready⟩ := servable
  exact ⟨agent, kept target found ready⟩

/-- A batch of builds makes no target buildable. -/
theorem buildable_of_batch {τ : Type} {targets : Table τ} {cond : τ → Bool} {set : τ → τ} {limit f : Nat}
    {earlier : Nat × τ → Nat × τ → Prop} [DecidableRel earlier] {buildable : τ → Prop}
    (waits : ∀ target, cond target = true → buildable target) {target : τ}
    (found : (targets.batch (fun _ target => cond target) earlier limit set).get? f = some target)
    (ready : buildable target) : ∃ old, targets.get? f = some old ∧ buildable old := by
  rcases before : targets.get? f with _ | old
  · rw [Table.get?_batch_none before] at found
    cases found
  · rcases fits : cond old with _ | _
    · rw [Table.get?_batch_other before fits] at found
      obtain rfl := Option.some.inj found
      exact ⟨old, rfl, ready⟩
    · exact ⟨old, rfl, waits old fits⟩

/-- Neither does a change of targets that are being built. -/
theorem buildable_of_update {τ : Type} {targets : Table τ} {cond : Nat → τ → Bool} {set : Nat → τ → τ} {f : Nat}
    {buildable : τ → Prop}
    (building : ∀ target, targets.get? f = some target → cond f target = true → buildable target) {target : τ}
    (found : (targets.update cond set).get? f = some target) (ready : buildable target) :
    ∃ old, targets.get? f = some old ∧ buildable old := by
  rw [Table.get?_update] at found
  obtain ⟨old, before, rfl⟩ := Option.map_eq_some_iff.mp found
  refine ⟨old, before, ?_⟩
  split at ready
  · rename_i changed
    exact building old before changed
  · exact ready

theorem awaitsBuild_buildable (function : FunctionRow) (awaits : awaitsBuild function = true) : function.Buildable := by
  simp only [awaitsBuild, Bool.and_eq_true, beq_iff_eq] at awaits
  exact ⟨by rw [awaits.1]; exact BuildStatus.noConfusion, fun _ => awaits.2⟩

theorem building_buildable (function : FunctionRow) (building : function.buildStatus = .building) :
    function.Buildable := by
  constructor <;> rw [building]
  · exact BuildStatus.noConfusion
  · exact BuildStatus.noConfusion

theorem awaitsProcedureBuild_buildable (procedure : ProcedureRow) (awaits : awaitsProcedureBuild procedure = true) :
    procedure.Buildable := by
  simp only [awaitsProcedureBuild, Bool.and_eq_true, beq_iff_eq] at awaits
  exact ⟨by rw [awaits.1]; exact BuildStatus.noConfusion, fun _ => awaits.2⟩

theorem procedure_building_buildable (procedure : ProcedureRow) (building : procedure.buildStatus = .building) :
    procedure.Buildable := by
  constructor <;> rw [building]
  · exact BuildStatus.noConfusion
  · exact BuildStatus.noConfusion

/-! ### What a step of the worker leaves as it is -/

theorem WorkerStep.agents (step : WorkerStep db next) : next.agents = db.agents := by
  cases step with
  | completeFunctionBuild env functionId outcome => unfold fnCompleteFunctionBuild; split <;> rfl
  | completeProcedureBuild env procedureId outcome => unfold fnCompleteProcedureBuild; split <;> rfl
  | watchdog env timeout => exact fnWatchdog_agents timeout
  | _ => rfl

theorem WorkerStep.functions (step : WorkerStep db next) {f : Nat} {function : FunctionRow}
    (found : next.functions.get? f = some function) (ready : function.Buildable) :
    ∃ old, db.functions.get? f = some old ∧ old.Buildable := by
  cases step with
  | claimFunctionBuilds env limit => exact buildable_of_batch awaitsBuild_buildable found ready
  | completeFunctionBuild env functionId outcome =>
    unfold fnCompleteFunctionBuild at found
    split at found
    · exact ⟨function, found, ready⟩
    · rename_i claimed chosen
      obtain ⟨here, building⟩ := Option.filter_eq_some_iff.mp chosen
      refine buildable_of_update (fun target before same => ?_) found ready
      obtain rfl : f = functionId := by simpa using same
      obtain rfl := Option.some.inj (here.symm.trans before)
      exact building_buildable claimed (by simpa using building)
  | completeProcedureBuild env procedureId outcome =>
    unfold fnCompleteProcedureBuild at found
    split at found <;> exact ⟨function, found, ready⟩
  | watchdog env timeout =>
    rw [fnWatchdog_functions] at found
    refine buildable_of_update (fun target _ overdue => ?_) found ready
    simp only [Bool.and_eq_true, beq_iff_eq] at overdue
    exact building_buildable target overdue.1
  | claimFunctionCalls | claimProcedureBuilds | claimProcedureCalls => exact ⟨function, found, ready⟩

theorem WorkerStep.procedures (step : WorkerStep db next) {p : Nat} {procedure : ProcedureRow}
    (found : next.procedures.get? p = some procedure) (ready : procedure.Buildable) :
    ∃ old, db.procedures.get? p = some old ∧ old.Buildable := by
  cases step with
  | claimProcedureBuilds env limit => exact buildable_of_batch awaitsProcedureBuild_buildable found ready
  | completeProcedureBuild env procedureId outcome =>
    unfold fnCompleteProcedureBuild at found
    split at found
    · exact ⟨procedure, found, ready⟩
    · rename_i claimed chosen
      obtain ⟨here, building⟩ := Option.filter_eq_some_iff.mp chosen
      refine buildable_of_update (fun target before same => ?_) found ready
      obtain rfl : p = procedureId := by simpa using same
      obtain rfl := Option.some.inj (here.symm.trans before)
      exact procedure_building_buildable claimed (by simpa using building)
  | completeFunctionBuild env functionId outcome =>
    unfold fnCompleteFunctionBuild at found
    split at found <;> exact ⟨procedure, found, ready⟩
  | watchdog env timeout =>
    rw [fnWatchdog_procedures] at found
    refine buildable_of_update (fun target _ overdue => ?_) found ready
    simp only [Bool.and_eq_true, beq_iff_eq] at overdue
    exact procedure_building_buildable target overdue.1
  | claimFunctionCalls | claimFunctionBuilds | claimProcedureCalls => exact ⟨procedure, found, ready⟩

/-- The sweep loses no queued call. -/
theorem get?_loseOverdue {calls : Table (CallRow BodyCall)} (env : Env) (wait : Time)
    (found : calls.get? k = some call) (queued : call.status = .queued) :
    (loseOverdue env wait calls).get? k = some call := by
  have apart : k ∉ (overdueCalls env calls wait).map Prod.fst := by
    intro listed
    obtain ⟨entry, member, rfl⟩ := List.mem_map.mp listed
    obtain ⟨here, overdue⟩ := Table.mem_select.mp member
    obtain rfl := Option.some.inj (found.symm.trans here)
    simp only [CallRow.overdue, queued, Bool.and_eq_true, beq_iff_eq] at overdue
    cases overdue.1
  have nodup : ((overdueCalls env calls wait).map Prod.fst).Nodup := Table.select_keys_nodup _ _
  rw [loseOverdue, Table.get?_rewrite nodup, if_neg apart, found]

theorem functionBuilt_servable (built : callable db (functionBuilt db) call = true) :
    Servable db.agents db.functions FunctionRow.Buildable call.body := by
  simp only [callable, functionBuilt, Bool.and_eq_true, Option.any_eq_true, beq_iff_eq] at built
  obtain ⟨-, ⟨function, found, status⟩, agent⟩ := built
  refine ⟨agent, function, found, ?_⟩
  constructor <;> rw [status]
  · exact BuildStatus.noConfusion
  · exact BuildStatus.noConfusion

theorem procedureBuilt_servable (built : callable db (procedureBuilt db) call = true) :
    Servable db.agents db.procedures ProcedureRow.Buildable call.body := by
  simp only [callable, procedureBuilt, Bool.and_eq_true, Option.any_eq_true, beq_iff_eq] at built
  obtain ⟨-, ⟨procedure, found, status⟩, agent⟩ := built
  refine ⟨agent, procedure, found, ?_⟩
  constructor <;> rw [status]
  · exact BuildStatus.noConfusion
  · exact BuildStatus.noConfusion

theorem WorkerStep.functionCall (step : WorkerStep db next) (found : db.functionCalls.get? k = some call)
    (queued : call.status = .queued) (stuck : ¬ Servable db.agents db.functions FunctionRow.Buildable call.body) :
    next.functionCalls.get? k = some call := by
  cases step with
  | claimFunctionCalls env limit =>
    rw [claimFunctionCalls_eq]
    refine Table.get?_batch_other found ?_
    rcases ready : callable db (functionBuilt db) call with _ | _
    · rfl
    · exact absurd (functionBuilt_servable ready) stuck
  | completeFunctionBuild env functionId outcome => unfold fnCompleteFunctionBuild; split <;> exact found
  | completeProcedureBuild env procedureId outcome => unfold fnCompleteProcedureBuild; split <;> exact found
  | watchdog env timeout =>
    rw [fnWatchdog_functionCalls]
    exact get?_loseOverdue env _ found queued
  | claimFunctionBuilds | claimProcedureBuilds | claimProcedureCalls => exact found

theorem WorkerStep.procedureCall (step : WorkerStep db next) (found : db.procedureCalls.get? k = some call)
    (queued : call.status = .queued) (stuck : ¬ Servable db.agents db.procedures ProcedureRow.Buildable call.body) :
    next.procedureCalls.get? k = some call := by
  cases step with
  | claimProcedureCalls env limit =>
    rw [claimProcedureCalls_eq]
    refine Table.get?_batch_other found ?_
    rcases ready : callable db (procedureBuilt db) call with _ | _
    · rfl
    · exact absurd (procedureBuilt_servable ready) stuck
  | completeFunctionBuild env functionId outcome => unfold fnCompleteFunctionBuild; split <;> exact found
  | completeProcedureBuild env procedureId outcome => unfold fnCompleteProcedureBuild; split <;> exact found
  | watchdog env timeout =>
    rw [fnWatchdog_procedureCalls]
    exact get?_loseOverdue env _ found queued
  | claimFunctionBuilds | claimProcedureBuilds | claimFunctionCalls => exact found

/-- A call that cannot be served stays queued, whatever the worker does. -/
theorem function_call_stuck (run : WorkerRun db later) (found : db.functionCalls.get? k = some call)
    (queued : call.status = .queued) (stuck : ¬ Servable db.agents db.functions FunctionRow.Buildable call.body) :
    later.functionCalls.get? k = some call ∧ ¬ Servable later.agents later.functions FunctionRow.Buildable call.body := by
  induction run with
  | refl => exact ⟨found, stuck⟩
  | tail _ step ih =>
    refine ⟨step.functionCall ih.1 queued ih.2, fun servable => ih.2 ?_⟩
    rw [step.agents] at servable
    exact servable.congr fun _ here ready => step.functions here ready

theorem procedure_call_stuck (run : WorkerRun db later) (found : db.procedureCalls.get? k = some call)
    (queued : call.status = .queued) (stuck : ¬ Servable db.agents db.procedures ProcedureRow.Buildable call.body) :
    later.procedureCalls.get? k = some call ∧
      ¬ Servable later.agents later.procedures ProcedureRow.Buildable call.body := by
  induction run with
  | refl => exact ⟨found, stuck⟩
  | tail _ step ih =>
    refine ⟨step.procedureCall ih.1 queued ih.2, fun servable => ih.2 ?_⟩
    rw [step.agents] at servable
    exact servable.congr fun _ here ready => step.procedures here ready

/-! ### Serving a call -/

/-- A pending build is claimed after some batches. -/
theorem function_build_claimed (env : Env) {f : Nat} {function : FunctionRow}
    (found : db.functions.get? f = some function) (awaits : awaitsBuild function = true) :
    ∃ functions, WorkerRun db { db with functions := functions } ∧ functions.get? f = some (startBuild env function) := by
  let step (functions : Table FunctionRow) : Table FunctionRow :=
    functions.batch (fun _ function => awaitsBuild function) (fun a b => a.2.updatedAt ≤ b.2.updatedAt)
      (claimLimit none) (startBuild env)
  have spent : ∀ (_ : Nat) function, awaitsBuild (startBuild env function) = false := fun _ _ => rfl
  obtain ⟨m, reached⟩ : ∃ m, (step^[m] db.functions).get? f = some (startBuild env function) :=
    Table.exists_batch (claimLimit_pos none) spent found awaits
  have moves (functions : Table FunctionRow) :
      WorkerStep { db with functions := functions } { db with functions := step functions } :=
    .claimFunctionBuilds env none
  exact ⟨_, Table.iterate_path (fun functions => { db with functions := functions }) step moves m db.functions, reached⟩

/-- The tasks, the agents and the queued calls are as before. -/
structure Serves (db next : Db) : Prop where
  run : WorkerRun db next
  tasks : next.tasks = db.tasks
  agents : next.agents = db.agents
  functionCalls : next.functionCalls = db.functionCalls
  procedureCalls : next.procedureCalls = db.procedureCalls

theorem Serves.trans {last : Db} (first : Serves db next) (second : Serves next last) : Serves db last where
  run := first.run.trans second.run
  tasks := second.tasks.trans first.tasks
  agents := second.agents.trans first.agents
  functionCalls := second.functionCalls.trans first.functionCalls
  procedureCalls := second.procedureCalls.trans first.procedureCalls

theorem function_build_completed (env : Env) {f : Nat} {function : FunctionRow}
    (found : db.functions.get? f = some function) (building : function.buildStatus = .building) :
    ∃ next, Serves db next ∧ functionBuilt next f = true := by
  have claimed : (db.functions.get? f).filter (fun function => function.buildStatus == .building) = some function := by
    rw [found, Option.filter_some, if_pos (by rw [building]; rfl)]
  refine ⟨fnCompleteFunctionBuild env db f ⟨some true, none⟩, ⟨.single (.completeFunctionBuild env f _), ?_, ?_, ?_, ?_⟩, ?_⟩
  all_goals
    unfold fnCompleteFunctionBuild
    rw [claimed]
  · rfl
  · rfl
  · rfl
  · rfl
  · simp [functionBuilt, Db.audit, Table.get?_modify, found, BuildOutcome.status]

/-- The worker can bring a build to its end, unless it has failed before. -/
theorem function_built (env : Env) {f : Nat} {function : FunctionRow} (found : db.functions.get? f = some function)
    (ready : function.Buildable) : ∃ next, Serves db next ∧ functionBuilt next f = true := by
  cases status : function.buildStatus with
  | failed => exact absurd status ready.1
  | built => exact ⟨db, ⟨.refl, rfl, rfl, rfl, rfl⟩, by simp [functionBuilt, found, status]⟩
  | building => exact function_build_completed env found status
  | pending =>
    have awaits : awaitsBuild function = true := by simp [awaitsBuild, status, ready.2 status]
    obtain ⟨functions, run, claimed⟩ := function_build_claimed env found awaits
    have first : Serves db { db with functions := functions } := ⟨run, rfl, rfl, rfl, rfl⟩
    obtain ⟨next, second, built⟩ := @function_build_completed { db with functions := functions } env f _ claimed rfl
    exact ⟨next, first.trans second, built⟩

theorem function_call_claimed (env : Env) (found : db.functionCalls.get? k = some call)
    (ready : callable db (functionBuilt db) call = true) :
    ∃ later, WorkerRun db later ∧ later.functionCalls.get? k = some (takeFlight env call) := by
  let step (calls : Table (CallRow BodyCall)) : Table (CallRow BodyCall) :=
    calls.batch (fun _ call => callable db (functionBuilt db) call) (fun a b => a.2.createdAt ≤ b.2.createdAt)
      (claimLimit none) (takeFlight env)
  have spent : ∀ (_ : Nat) call, callable db (functionBuilt db) (takeFlight env call) = false := fun _ _ => rfl
  obtain ⟨m, reached⟩ : ∃ m, (step^[m] db.functionCalls).get? k = some (takeFlight env call) :=
    Table.exists_batch (claimLimit_pos none) spent found ready
  have moves (calls : Table (CallRow BodyCall)) :
      WorkerStep { db with functionCalls := calls } { db with functionCalls := step calls } :=
    .claimFunctionCalls env none
  exact ⟨_, Table.iterate_path (fun calls => { db with functionCalls := calls }) step moves m db.functionCalls, reached⟩

/-! ### Procedures -/

theorem procedure_build_claimed (env : Env) {p : Nat} {procedure : ProcedureRow}
    (found : db.procedures.get? p = some procedure) (awaits : awaitsProcedureBuild procedure = true) :
    ∃ procedures, WorkerRun db { db with procedures := procedures } ∧
      procedures.get? p = some (startProcedureBuild env procedure) := by
  let step (procedures : Table ProcedureRow) : Table ProcedureRow :=
    procedures.batch (fun _ procedure => awaitsProcedureBuild procedure) (fun a b => a.2.updatedAt ≤ b.2.updatedAt)
      (claimLimit none) (startProcedureBuild env)
  have spent : ∀ (_ : Nat) procedure, awaitsProcedureBuild (startProcedureBuild env procedure) = false :=
    fun _ _ => rfl
  obtain ⟨m, reached⟩ : ∃ m, (step^[m] db.procedures).get? p = some (startProcedureBuild env procedure) :=
    Table.exists_batch (claimLimit_pos none) spent found awaits
  have moves (procedures : Table ProcedureRow) :
      WorkerStep { db with procedures := procedures } { db with procedures := step procedures } :=
    .claimProcedureBuilds env none
  exact ⟨_, Table.iterate_path (fun procedures => { db with procedures := procedures }) step moves m db.procedures,
    reached⟩

theorem procedure_build_completed (env : Env) {p : Nat} {procedure : ProcedureRow}
    (found : db.procedures.get? p = some procedure) (building : procedure.buildStatus = .building) :
    ∃ next, Serves db next ∧ procedureBuilt next p = true := by
  have claimed : (db.procedures.get? p).filter (fun procedure => procedure.buildStatus == .building) =
      some procedure := by
    rw [found, Option.filter_some, if_pos (by rw [building]; rfl)]
  refine ⟨fnCompleteProcedureBuild env db p ⟨some true, none⟩, ⟨.single (.completeProcedureBuild env p _), ?_, ?_, ?_, ?_⟩,
    ?_⟩
  all_goals
    unfold fnCompleteProcedureBuild
    rw [claimed]
  · rfl
  · rfl
  · rfl
  · rfl
  · simp [procedureBuilt, Db.audit, Table.get?_modify, found, BuildOutcome.status]

theorem procedure_built (env : Env) {p : Nat} {procedure : ProcedureRow}
    (found : db.procedures.get? p = some procedure) (ready : procedure.Buildable) :
    ∃ next, Serves db next ∧ procedureBuilt next p = true := by
  cases status : procedure.buildStatus with
  | failed => exact absurd status ready.1
  | built => exact ⟨db, ⟨.refl, rfl, rfl, rfl, rfl⟩, by simp [procedureBuilt, found, status]⟩
  | building => exact procedure_build_completed env found status
  | pending =>
    have awaits : awaitsProcedureBuild procedure = true := by simp [awaitsProcedureBuild, status, ready.2 status]
    obtain ⟨procedures, run, claimed⟩ := procedure_build_claimed env found awaits
    have first : Serves db { db with procedures := procedures } := ⟨run, rfl, rfl, rfl, rfl⟩
    obtain ⟨next, second, built⟩ :=
      @procedure_build_completed { db with procedures := procedures } env p _ claimed rfl
    exact ⟨next, first.trans second, built⟩

theorem procedure_call_claimed (env : Env) (found : db.procedureCalls.get? k = some call)
    (ready : callable db (procedureBuilt db) call = true) :
    ∃ later, WorkerRun db later ∧ later.procedureCalls.get? k = some (takeFlight env call) := by
  let step (calls : Table (CallRow BodyCall)) : Table (CallRow BodyCall) :=
    calls.batch (fun _ call => callable db (procedureBuilt db) call) (fun a b => a.2.createdAt ≤ b.2.createdAt)
      (claimLimit none) (takeFlight env)
  have spent : ∀ (_ : Nat) call, callable db (procedureBuilt db) (takeFlight env call) = false := fun _ _ => rfl
  obtain ⟨m, reached⟩ : ∃ m, (step^[m] db.procedureCalls).get? k = some (takeFlight env call) :=
    Table.exists_batch (claimLimit_pos none) spent found ready
  have moves (calls : Table (CallRow BodyCall)) :
      WorkerStep { db with procedureCalls := calls } { db with procedureCalls := step calls } :=
    .claimProcedureCalls env none
  exact ⟨_, Table.iterate_path (fun calls => { db with procedureCalls := calls }) step moves m db.procedureCalls,
    reached⟩

/-! ### The queued calls of a running task -/

theorem Serves.callable {built : Nat → Bool} (serves : Serves db next) (queued : call.status = .queued)
    (running : db.isRunning call.taskId = true) (ready : built call.body.targetId = true)
    (agent : (db.agents.get? call.body.agentId).isSome) : callable next built call = true := by
  have still : next.isRunning call.taskId = true := by
    rw [Db.isRunning, serves.tasks]
    exact running
  simp [Allgres.callable, queued, still, ready, serves.agents, agent]

/-- The worker alone can take a queued call of a running task up exactly if the call's agent
and target exist, the target's build has not failed, and a pending build is one it claims. -/
theorem queued_call_served_iff (db : Db) (k : Nat) (call : CallRow BodyCall) :
    (db.functionCalls.get? k = some call → call.status = .queued → db.isRunning call.taskId = true →
      ((∃ later row, WorkerRun db later ∧ later.functionCalls.get? k = some row ∧
          (row.status = .inFlight ∨ row.status = .harvested ∨ row.status = .lost)) ↔
        Servable db.agents db.functions FunctionRow.Buildable call.body)) ∧
    (db.procedureCalls.get? k = some call → call.status = .queued → db.isRunning call.taskId = true →
      ((∃ later row, WorkerRun db later ∧ later.procedureCalls.get? k = some row ∧
          (row.status = .inFlight ∨ row.status = .harvested ∨ row.status = .lost)) ↔
        Servable db.agents db.procedures ProcedureRow.Buildable call.body)) := by
  have idle {row : CallRow BodyCall} (still : row = call) (queued : call.status = .queued) :
      ¬ (row.status = .inFlight ∨ row.status = .harvested ∨ row.status = .lost) := by
    rw [still, queued]
    rintro (moved | moved | moved) <;> cases moved
  constructor
  · intro found queued running
    constructor
    · rintro ⟨later, row, run, now, moved⟩
      by_contra stuck
      have still := (function_call_stuck run found queued stuck).1
      exact idle (Option.some.inj (now.symm.trans still)) queued moved
    · rintro ⟨agent, function, here, ready⟩
      obtain ⟨next, serves, built⟩ := function_built .bare here ready
      have calls := serves.functionCalls
      obtain ⟨later, run, taken⟩ := function_call_claimed .bare (by rw [calls]; exact found)
        (serves.callable queued running built agent)
      exact ⟨later, _, serves.run.trans run, taken, .inl rfl⟩
  · intro found queued running
    constructor
    · rintro ⟨later, row, run, now, moved⟩
      by_contra stuck
      have still := (procedure_call_stuck run found queued stuck).1
      exact idle (Option.some.inj (now.symm.trans still)) queued moved
    · rintro ⟨agent, procedure, here, ready⟩
      obtain ⟨next, serves, built⟩ := procedure_built .bare here ready
      have calls := serves.procedureCalls
      obtain ⟨later, run, taken⟩ := procedure_call_claimed .bare (by rw [calls]; exact found)
        (serves.callable queued running built agent)
      exact ⟨later, _, serves.run.trans run, taken, .inl rfl⟩

/-! ### A failed build -/

/-- A task asks for the procedure to be run. -/
def asksForReport : List (Env × Op) :=
  [(.bare, .createSession 0 (some "sum up") none none), (.bare, .dispatchTasks), (.bare, .claimOutbound none none),
    (.bare, .completeOutbound 0 (some 200) (some runsReport))]

theorem fnSetProcedure_quiet {env : Env} {p : Nat} {content body : Option String} {enabled : Option Bool} {reply : Json}
    (done : fnSetProcedure env db p content enabled body = .ok (reply, next)) : Quiet db next := by
  unfold fnSetProcedure at done
  split at done
  · cases done
  · split at done
    · cases done
    · dsimp only at done
      split at done
      · cases done
      · rename_i filed
        obtain ⟨-, rfl⟩ := Prod.mk.inj (Except.ok.inj done)
        split at filed
        · unfold fileProcedure at filed
          split at filed
          · cases filed
          · obtain rfl := Except.ok.inj filed
            exact ⟨rfl, rfl⟩
        · obtain rfl := Except.ok.inj filed
          exact ⟨rfl, rfl⟩

theorem fnCompleteProcedureBuild_quiet (env : Env) (db : Db) (p : Nat) (outcome : BuildOutcome) :
    Quiet db (fnCompleteProcedureBuild env db p outcome) := by
  unfold fnCompleteProcedureBuild
  split
  · exact .refl db
  · exact ⟨rfl, rfl⟩

theorem queued_call_served_iff_report :
    ∃ db call, Run Label.any (reportDb (helperPolicy 5 none)) db ∧ db.procedureCalls.get? 0 = some call ∧ call.status = .queued ∧
      ∃ later row, WorkerRun db later ∧ later.procedureCalls.get? 0 = some row ∧
        (row.status = .inFlight ∨ row.status = .harvested ∨ row.status = .lost) := by
  obtain ⟨db, run, reached⟩ := run_reaching (show ((runAll Label.any (reportDb (helperPolicy 5 none)) asksForReport).any fun db =>
    (db.procedures.get? 0).any (fun procedure => procedure.buildStatus == .built) &&
      (db.procedureCalls.get? 0).any fun call => call.status == .queued && db.isRunning call.taskId &&
        call.body.targetId == 0 && (db.agents.get? call.body.agentId).isSome) = true by decide +kernel)
  simp only [Option.any_eq_true, Bool.and_eq_true, beq_iff_eq] at reached
  obtain ⟨⟨procedure, here, built⟩, call, found, ⟨⟨queued, running⟩, target⟩, agent⟩ := reached
  have servable : Servable db.agents db.procedures ProcedureRow.Buildable call.body := by
    refine ⟨agent, procedure, target ▸ here, ?_⟩
    constructor <;> rw [built]
    · exact BuildStatus.noConfusion
    · exact BuildStatus.noConfusion
  exact ⟨db, call, run, found, queued, ((queued_call_served_iff db 0 call).2 found queued running).mpr servable⟩

/-- The call waits for a running task, the procedure is edited, and the new body cannot be installed. -/
theorem not_queued_call_served :
    ¬ ∀ start db k call, Fresh start → Run Label.any start db → db.procedureCalls.get? k = some call →
      call.status = .queued → db.isRunning call.taskId = true →
      ∃ later row, WorkerRun db later ∧ later.procedureCalls.get? k = some row ∧
        (row.status = .inFlight ∨ row.status = .harvested ∨ row.status = .lost) := by
  intro served
  let broken (db : Db) : Db :=
    fnCompleteProcedureBuild .bare (fnClaimProcedureBuilds .bare db none).2 0 ⟨some false, some "syntax error"⟩
  let edited (db : Db) : Except String (Json × Db) :=
    fnSetProcedure .bare db 0 none none (some "BEGIN RETURN 2; END")
  obtain ⟨db, run, reached⟩ := run_reaching (show ((runAll Label.any (reportDb (helperPolicy 5 none)) asksForReport).any fun db =>
    (edited db).toOption.any fun out =>
      ((broken out.2).procedures.get? 0).any (fun procedure => procedure.buildStatus == .failed) &&
      ((broken out.2).procedureCalls.get? 0).any fun call => call.status == .queued && call.body.targetId == 0 &&
        (broken out.2).isRunning call.taskId) = true by decide +kernel)
  simp only [Option.any_eq_true, Bool.and_eq_true, beq_iff_eq] at reached
  obtain ⟨⟨reply, after⟩, done, ⟨procedure, here, failed⟩, call, found, ⟨queued, target⟩, running⟩ := reached
  have committed : edited db = .ok (reply, after) := by
    cases ran : edited db with
    | error message => simp [ran, Except.toOption] at done
    | ok out => simpa [ran, Except.toOption] using done
  have edit : Run Label.any (reportDb (helperPolicy 5 none)) after := .step run (.configure (fnSetProcedure_quiet committed)) rfl
  have claim : Run Label.any (reportDb (helperPolicy 5 none)) (fnClaimProcedureBuilds .bare after none).2 :=
    .step edit (.configure ⟨rfl, rfl⟩) rfl
  have fail : Run Label.any (reportDb (helperPolicy 5 none)) (broken after) :=
    .step claim (.configure (fnCompleteProcedureBuild_quiet .bare _ 0 _)) rfl
  obtain ⟨later, row, steps, now, moved⟩ := served _ _ 0 call (reportDb_fresh _) fail found queued running
  have stuck : ¬ Servable (broken after).agents (broken after).procedures ProcedureRow.Buildable call.body := by
    rintro ⟨-, other, there, ready⟩
    rw [target] at there
    obtain rfl := Option.some.inj (here.symm.trans there)
    exact ready.1 failed
  have still := (procedure_call_stuck steps found queued stuck).1
  obtain rfl := Option.some.inj (now.symm.trans still)
  rw [queued] at moved
  rcases moved with moved | moved | moved <;> cases moved

end Allgres
