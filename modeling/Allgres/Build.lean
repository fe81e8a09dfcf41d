import Allgres.Claim
import Allgres.Operator

/-! Functions and procedures with a body of their own. An edit queues a build,
a worker claims it, runs the DDL and reports the outcome. -/

namespace Allgres

open Relational Jsonb Sql

/-! ### Functions -/

def pendingFunctions (db : Db) (limit : Option Int) : List (Nat × FunctionRow) :=
  ((db.functions.select fun _ function => function.buildStatus == .pending && function.handler == .plpgsql).insertionSort
    fun a b => a.2.updatedAt ≤ b.2.updatedAt).take (claimLimit limit)

def startBuild (env : Env) (function : FunctionRow) : FunctionRow :=
  { function with buildStatus := .building, updatedAt := env.now }

/-- The claimed builds, each with the body to install. -/
def fnClaimFunctionBuilds (env : Env) (db : Db) (limit : Option Int) : List (Nat × Option String) × Db :=
  let claimed := pendingFunctions db limit
  (claimed.map fun build => (build.1, build.2.body),
    { db with
      functions := claimed.foldl (fun functions build => functions.modify build.1 (startBuild env)) db.functions })

/-- What `fn_complete_function_build` is told: success, or the error text. -/
structure BuildOutcome where
  ok : Option Bool
  error : Option String
  deriving DecidableEq

def BuildOutcome.status (outcome : BuildOutcome) : BuildStatus :=
  if outcome.ok.getD false then .built else .failed

def BuildOutcome.message (outcome : BuildOutcome) : Option String :=
  if outcome.ok.getD false then none else outcome.error

def fnCompleteFunctionBuild (env : Env) (db : Db) (functionId : Nat) (outcome : BuildOutcome) : Db :=
  match (db.functions.get? functionId).filter fun function => function.buildStatus == .building with
  | none => db
  | some _ =>
    let db := { db with
      functions := db.functions.modify functionId fun row =>
        { row with buildStatus := outcome.status, buildError := outcome.message, updatedAt := env.now } }
    db.audit "functions.build_complete" (.build [("function_id", idJson functionId),
      ("ok", .bool (outcome.ok.getD false)), ("error", .optStr outcome.error)])

/-! ### Procedures -/

def pendingProcedures (db : Db) (limit : Option Int) : List (Nat × ProcedureRow) :=
  ((db.procedures.select fun _ procedure => procedure.buildStatus == .pending && procedure.body.isSome).insertionSort
    fun a b => a.2.updatedAt ≤ b.2.updatedAt).take (claimLimit limit)

def startProcedureBuild (env : Env) (procedure : ProcedureRow) : ProcedureRow :=
  { procedure with buildStatus := .building, updatedAt := env.now }

def fnClaimProcedureBuilds (env : Env) (db : Db) (limit : Option Int) : List (Nat × Option String) × Db :=
  let claimed := pendingProcedures db limit
  (claimed.map fun build => (build.1, build.2.body),
    { db with
      procedures := claimed.foldl (fun procedures build => procedures.modify build.1 (startProcedureBuild env))
        db.procedures })

def fnCompleteProcedureBuild (env : Env) (db : Db) (procedureId : Nat) (outcome : BuildOutcome) : Db :=
  match (db.procedures.get? procedureId).filter fun procedure => procedure.buildStatus == .building with
  | none => db
  | some _ =>
    let db := { db with
      procedures := db.procedures.modify procedureId fun row =>
        { row with buildStatus := outcome.status, buildError := outcome.message, updatedAt := env.now } }
    db.audit "procedures.build_complete" (.build [("procedure_id", idJson procedureId),
      ("ok", .bool (outcome.ok.getD false)), ("error", .optStr outcome.error)])

/-- A body that is given is checked; none need be given. -/
def validateBody (env : Env) (body : Option String) : Except String Unit :=
  if body.isSome then validateFunctionBody env.pg body else .ok ()

def fnCreateProcedure (env : Env) (db : Db) (name content body : Option String) : Except String (Json × Db) :=
  if (nonEmpty (name.map btrim)).isNone then .error "procedure name is required"
  else if (nonEmpty (content.map btrim)).isNone then .error "procedure content is required"
  else match validateBody env body with
    | .error message => .error message
    | .ok () =>
      let name := btrim (name.getD "")
      if db.procedures.exists? fun _ procedure => procedure.name == name then
        .error "duplicate key value violates unique constraint \"procedures_name_key\""
      else
        let procedureId := db.procedures.next
        let db := { db with
          procedures := db.procedures.insert ⟨name, content.getD "", body,
            if body.isSome then .pending else .built, none, 1, true, none, env.now⟩ }
        .ok (.build [("ok", .bool true), ("procedure_id", idJson procedureId)],
          db.audit "procedures.create" (.build [("procedure_id", idJson procedureId), ("name", .str name)]))

/-- The version that an edit replaces is filed under its generation, once. -/
def fileProcedure (db : Db) (procedureId : Nat) (old : ProcedureRow) : Except String Db :=
  if db.procedureHistory.exists? fun _ filed =>
      filed.procedureId == procedureId && filed.generation == old.generation then
    .error "duplicate key value violates unique constraint \"procedure_history_procedure_id_generation_key\""
  else .ok { db with
    procedureHistory := db.procedureHistory.insert ⟨procedureId, old.generation, old.content, old.body⟩ }

def fnSetProcedure (env : Env) (db : Db) (procedureId : Nat) (content : Option String) (enabled : Option Bool)
    (body : Option String) : Except String (Json × Db) :=
  match db.procedures.get? procedureId with
  | none => .error "procedure not found"
  | some old =>
    match validateBody env body with
    | .error message => .error message
    | .ok () =>
      let newContent := (nonEmpty content).getD old.content
      let newBody := body.or old.body
      let bodyChanged := newBody != old.body
      let changed := newContent != old.content || bodyChanged
      let generation := if changed then old.generation + 1 else old.generation
      match (if changed then fileProcedure db procedureId old else .ok db) with
      | .error message => .error message
      | .ok db =>
        let db := { db with
          procedures := db.procedures.modify procedureId fun row =>
            { row with
              content := newContent
              body := newBody
              buildStatus := if bodyChanged && newBody.isSome then .pending else row.buildStatus
              isActive := enabled.getD row.isActive
              generation := generation
              updatedAt := env.now } }
        .ok (.build [("ok", .bool true), ("generation", .ofNat generation), ("changed", .bool changed)],
          db.audit "procedures.update" (.build [("procedure_id", idJson procedureId), ("changed", .bool changed),
            ("enabled", .ofOption .bool enabled), ("generation", .ofNat generation)]))

def fnRollbackProcedure (env : Env) (db : Db) (procedureId generation : Nat) : Except String (Json × Db) :=
  match db.procedureHistory.find? fun _ filed => filed.procedureId == procedureId && filed.generation == generation with
  | none => .error ("fn_rollback_procedure: no history for that procedure at generation " ++ toString generation)
  | some (_, filed) =>
    let db := db.audit "procedures.rollback" (.build [("procedure_id", idJson procedureId),
      ("restored_generation", .ofNat generation)])
    fnSetProcedure env db procedureId (some filed.content) none filed.body

end Allgres
