import Allgres.Lib.Runs
import Allgres.Refine.Workshop

/-! The body that is installed for a function or a procedure, and the one its row says
is built, while any number of workers claim, install and report builds. -/

namespace Allgres

open Relational Jsonb Sql Runs

inductive TargetKind
  | function | procedure
  deriving DecidableEq

/-- A claimed build in the hands of a worker. Its outcome is known once its DDL has run. -/
structure Job where
  kind : TargetKind
  targetId : Nat
  body : String
  outcome : Option BuildOutcome
  deriving DecidableEq

/-- The tables, the body that the last DDL of each target installed, and the builds that
workers have claimed and not reported yet. -/
structure Plant where
  db : Db
  installed : TargetKind → Nat → Option String
  jobs : Table Job

/-- The build status and the body that the row of a target holds. -/
def Db.target (db : Db) : TargetKind → Nat → Option (BuildStatus × Option String)
  | .function, id => (db.functions.get? id).map fun function => (function.buildStatus, function.body)
  | .procedure, id => (db.procedures.get? id).map fun procedure => (procedure.buildStatus, procedure.body)

/-- A worker takes up the builds it has claimed; one without a body is skipped. -/
def takeUp (kind : TargetKind) (jobs : Table Job) (builds : List (Nat × Option String)) : Table Job :=
  builds.foldl (fun jobs build => match build.2 with
    | none => jobs
    | some body => jobs.insert ⟨kind, build.1, body, none⟩) jobs

/-- `CREATE OR REPLACE FUNCTION` with the body of a job. -/
def Plant.install (plant : Plant) (j : Nat) (job : Job) : Plant :=
  { plant with
    installed := Function.update plant.installed job.kind
      (Function.update (plant.installed job.kind) job.targetId (some job.body))
    jobs := plant.jobs.modify j fun job => { job with outcome := some ⟨some true, none⟩ } }

/-- The DDL of a job fails. -/
def Plant.refuse (plant : Plant) (j : Nat) (error : String) : Plant :=
  { plant with jobs := plant.jobs.modify j fun job => { job with outcome := some ⟨some false, some error⟩ } }

def Plant.complete (plant : Plant) (env : Env) (j : Nat) (job : Job) (outcome : BuildOutcome) : Plant :=
  { plant with
    db := match job.kind with
      | .function => fnCompleteFunctionBuild env plant.db job.targetId outcome
      | .procedure => fnCompleteProcedureBuild env plant.db job.targetId outcome
    jobs := plant.jobs.delete fun key _ => key == j }

inductive PlantEvent
  | edit | claim | sweep | other
  | install (j : Nat)
  | refuse (j : Nat)
  | report (j : Nat)

/-- One transaction of an operator, of the control plane or of a worker. The three steps of
a build, claim, DDL and report, are transactions of their own. -/
inductive PlantStep : PlantEvent → Plant → Plant → Prop
  | createFunction {plant : Plant} {env : Env} {name description body : Option String} {schema reply : Json}
      {creator : Option Nat} {db : Db} :
      fnCreateFunction env plant.db name description body schema creator = .ok (reply, db) →
      PlantStep .edit plant { plant with db := db }
  | updateFunction {plant : Plant} {env : Env} {id : Nat} {description body : Option String} {schema : Option Json}
      {reply : Json} {db : Db} : fnUpdateFunction env plant.db id description body schema = .ok (reply, db) →
      PlantStep .edit plant { plant with db := db }
  | createProcedure {plant : Plant} {env : Env} {name content body : Option String} {reply : Json} {db : Db} :
      fnCreateProcedure env plant.db name content body = .ok (reply, db) → PlantStep .edit plant { plant with db := db }
  | setProcedure {plant : Plant} {env : Env} {id : Nat} {content body : Option String} {enabled : Option Bool}
      {reply : Json} {db : Db} : fnSetProcedure env plant.db id content enabled body = .ok (reply, db) →
      PlantStep .edit plant { plant with db := db }
  | rollbackProcedure {plant : Plant} {env : Env} {id generation : Nat} {reply : Json} {db : Db} :
      fnRollbackProcedure env plant.db id generation = .ok (reply, db) → PlantStep .edit plant { plant with db := db }
  | claimFunctions (plant : Plant) (env : Env) (limit : Option Int) : PlantStep .claim plant { plant with
      db := (fnClaimFunctionBuilds env plant.db limit).2
      jobs := takeUp .function plant.jobs (fnClaimFunctionBuilds env plant.db limit).1 }
  | claimProcedures (plant : Plant) (env : Env) (limit : Option Int) : PlantStep .claim plant { plant with
      db := (fnClaimProcedureBuilds env plant.db limit).2
      jobs := takeUp .procedure plant.jobs (fnClaimProcedureBuilds env plant.db limit).1 }
  | install {plant : Plant} {j : Nat} {job : Job} : plant.jobs.get? j = some job → job.outcome = none →
      PlantStep (.install j) plant (plant.install j job)
  | refuse {plant : Plant} {j : Nat} {job : Job} (error : String) : plant.jobs.get? j = some job →
      job.outcome = none → PlantStep (.refuse j) plant (plant.refuse j error)
  | report {plant : Plant} {j : Nat} {job : Job} {outcome : BuildOutcome} (env : Env) :
      plant.jobs.get? j = some job → job.outcome = some outcome →
      PlantStep (.report j) plant (plant.complete env j job outcome)
  | sweep (plant : Plant) (env : Env) (timeout : Option Int) :
      PlantStep .sweep plant { plant with db := fnWatchdog env plant.db timeout }
  | other {plant : Plant} {db : Db} : db.functions = plant.db.functions → db.procedures = plant.db.procedures →
      PlantStep .other plant { plant with db := db }

/-- Where a row says that its body is built, the last DDL installed that body. -/
def Plant.Consistent (plant : Plant) : Prop :=
  ∀ kind id body, plant.db.target kind id = some (.built, some body) → plant.installed kind id = some body

/-- A DDL comes too late if it replaces a newer body that is built already, and a successful
report if the last DDL was for another body than the one whose build it is taken for. -/
def Timely : PlantEvent → Plant → Prop
  | .install j, plant => ∀ job body, plant.jobs.get? j = some job →
      plant.db.target job.kind job.targetId = some (.built, some body) → job.body = body
  | .report j, plant => ∀ job outcome body, plant.jobs.get? j = some job → job.outcome = some outcome →
      outcome.status = .built → plant.db.target job.kind job.targetId = some (.building, some body) →
      plant.installed job.kind job.targetId = some body
  | _, _ => True

variable {plant next : Plant} {event : PlantEvent} {db db' : Db} {env : Env}

/-! ### What makes no row built -/

/-- Every row that is built afterwards was built before, with the same body. -/
def NoneBuilt (db db' : Db) : Prop :=
  ∀ kind id body, db'.target kind id = some (.built, some body) → db.target kind id = some (.built, some body)

theorem NoneBuilt.of_tables
    (functions : ∀ id row, db'.functions.get? id = some row → row.buildStatus = .built → row.body.isSome →
      ∃ old, db.functions.get? id = some old ∧ old.buildStatus = .built ∧ old.body = row.body)
    (procedures : ∀ id row, db'.procedures.get? id = some row → row.buildStatus = .built → row.body.isSome →
      ∃ old, db.procedures.get? id = some old ∧ old.buildStatus = .built ∧ old.body = row.body) : NoneBuilt db db' := by
  intro kind id body built
  cases kind with
  | function =>
    obtain ⟨row, found, view⟩ := Option.map_eq_some_iff.mp built
    obtain ⟨status, held⟩ := Prod.mk.inj view
    obtain ⟨old, before, was, same⟩ := functions id row found status (by rw [held]; rfl)
    simp only [Db.target, before, Option.map_some, was, same, held]
  | procedure =>
    obtain ⟨row, found, view⟩ := Option.map_eq_some_iff.mp built
    obtain ⟨status, held⟩ := Prod.mk.inj view
    obtain ⟨old, before, was, same⟩ := procedures id row found status (by rw [held]; rfl)
    simp only [Db.target, before, Option.map_some, was, same, held]

theorem NoneBuilt.of_functions (procedures : db'.procedures = db.procedures)
    (rows : ∀ id row, db'.functions.get? id = some row → row.buildStatus = .built → row.body.isSome →
      ∃ old, db.functions.get? id = some old ∧ old.buildStatus = .built ∧ old.body = row.body) : NoneBuilt db db' :=
  .of_tables rows fun _ row found built _ => ⟨row, procedures ▸ found, built, rfl⟩

theorem NoneBuilt.of_procedures (functions : db'.functions = db.functions)
    (rows : ∀ id row, db'.procedures.get? id = some row → row.buildStatus = .built → row.body.isSome →
      ∃ old, db.procedures.get? id = some old ∧ old.buildStatus = .built ∧ old.body = row.body) : NoneBuilt db db' :=
  .of_tables (fun _ row found built _ => ⟨row, functions ▸ found, built, rfl⟩) rows

theorem fnCreateFunction_noneBuilt {name description body : Option String} {schema reply : Json}
    {creator : Option Nat} (done : fnCreateFunction env db name description body schema creator = .ok (reply, db')) :
    NoneBuilt db db' := by
  unfold fnCreateFunction at done
  dsimp only at done
  split at done
  · cases done
  split at done
  · cases done
  split at done
  · cases done
  split at done
  · cases done
  obtain ⟨-, rfl⟩ := Prod.mk.inj (Except.ok.inj done)
  refine .of_functions rfl fun id row found built _ => ?_
  simp only [Db.audit, Table.get?_insert] at found
  split at found
  · obtain rfl := Option.some.inj found
    cases built
  · exact ⟨row, found, built, rfl⟩

theorem fnUpdateFunction_noneBuilt {id : Nat} {description body : Option String} {schema : Option Json} {reply : Json}
    (done : fnUpdateFunction env db id description body schema = .ok (reply, db')) : NoneBuilt db db' := by
  unfold fnUpdateFunction at done
  split at done
  · cases done
  split at done
  · cases done
  split at done
  · cases done
  obtain ⟨-, rfl⟩ := Prod.mk.inj (Except.ok.inj done)
  refine .of_functions rfl fun key row found built _ => ?_
  simp only [Db.audit, Table.get?_modify] at found
  split at found
  · obtain ⟨old, before, rfl⟩ := Option.map_eq_some_iff.mp found
    cases body with
    | some text => cases built
    | none => exact ⟨old, before, built, rfl⟩
  · exact ⟨row, found, built, rfl⟩

theorem fnCreateProcedure_noneBuilt {name content body : Option String} {reply : Json}
    (done : fnCreateProcedure env db name content body = .ok (reply, db')) : NoneBuilt db db' := by
  unfold fnCreateProcedure at done
  split at done
  · cases done
  split at done
  · cases done
  split at done
  · cases done
  dsimp only at done
  split at done
  · cases done
  obtain ⟨-, rfl⟩ := Prod.mk.inj (Except.ok.inj done)
  refine .of_procedures rfl fun id row found built some => ?_
  simp only [Db.audit, Table.get?_insert] at found
  split at found
  · obtain rfl := Option.some.inj found
    cases body with
    | some text => cases built
    | none => cases some
  · exact ⟨row, found, built, rfl⟩

theorem fileProcedure_tables {id : Nat} {old : ProcedureRow} (done : fileProcedure db id old = .ok db') :
    db'.procedures = db.procedures ∧ db'.functions = db.functions := by
  unfold fileProcedure at done
  split at done
  · cases done
  · obtain rfl := Except.ok.inj done
    exact ⟨rfl, rfl⟩

theorem fnSetProcedure_noneBuilt {id : Nat} {content body : Option String} {enabled : Option Bool} {reply : Json}
    (done : fnSetProcedure env db id content enabled body = .ok (reply, db')) : NoneBuilt db db' := by
  unfold fnSetProcedure at done
  split at done
  · cases done
  rename_i old here
  split at done
  · cases done
  dsimp only at done
  split at done
  · cases done
  rename_i filed filing
  have kept : filed.procedures = db.procedures ∧ filed.functions = db.functions := by
    split at filing
    · exact fileProcedure_tables filing
    · obtain rfl := Except.ok.inj filing
      exact ⟨rfl, rfl⟩
  obtain ⟨-, rfl⟩ := Prod.mk.inj (Except.ok.inj done)
  refine .of_procedures kept.2 fun key row found built some => ?_
  simp only [Db.audit, Table.get?_modify, kept.1] at found
  split at found
  · rename_i same
    subst same
    rw [here] at found
    obtain rfl := Option.some.inj found
    -- A body that is there and not a new one is the old one.
    have same : body.or old.body = old.body := by
      by_contra other
      have changed : (body.or old.body != old.body && (body.or old.body).isSome) = true := by
        rw [Bool.and_eq_true, bne_iff_ne]
        exact ⟨other, some⟩
      rw [changed] at built
      cases built
    simp only [same, bne_self_eq_false, Bool.false_and, Bool.false_eq_true, if_false] at built ⊢
    exact ⟨old, here, built, rfl⟩
  · exact ⟨row, found, built, rfl⟩

theorem fnRollbackProcedure_noneBuilt {id generation : Nat} {reply : Json}
    (done : fnRollbackProcedure env db id generation = .ok (reply, db')) : NoneBuilt db db' := by
  unfold fnRollbackProcedure at done
  split at done
  · cases done
  · intro kind id body built
    have before := fnSetProcedure_noneBuilt done kind id body built
    cases kind <;> exact before

/-- A batch that takes no built row and builds none. -/
theorem noneBuilt_batch {α : Type} {table : Table α} {cond : Nat → α → Bool}
    {earlier : Nat × α → Nat × α → Prop} [DecidableRel earlier] {limit : Nat} {set : α → α}
    {s : α → BuildStatus} (never : ∀ row, s (set row) ≠ .built) {id : Nat} {row : α}
    (found : (table.batch cond earlier limit set).get? id = some row) (built : s row = .built) :
    table.get? id = some row := by
  rw [Table.batch, Table.get?_rewrite Table.pick_nodup] at found
  split at found
  · obtain ⟨old, before, rfl⟩ := Option.map_eq_some_iff.mp found
    exact absurd built (never old)
  · exact found

theorem fnClaimFunctionBuilds_noneBuilt (limit : Option Int) : NoneBuilt db (fnClaimFunctionBuilds env db limit).2 :=
  .of_functions rfl fun _ row found built _ =>
    ⟨row, noneBuilt_batch (s := FunctionRow.buildStatus) (fun _ => BuildStatus.noConfusion) found built, built, rfl⟩

theorem fnClaimProcedureBuilds_noneBuilt (limit : Option Int) :
    NoneBuilt db (fnClaimProcedureBuilds env db limit).2 :=
  .of_procedures rfl fun _ row found built _ =>
    ⟨row, noneBuilt_batch (s := ProcedureRow.buildStatus) (fun _ => BuildStatus.noConfusion) found built, built, rfl⟩

/-- So does an update that turns no row into a built one. -/
theorem noneBuilt_update {α : Type} {table : Table α} {cond : Nat → α → Bool} {set : Nat → α → α}
    {s : α → BuildStatus} (never : ∀ key row, s (set key row) ≠ .built) {id : Nat} {row : α}
    (found : (table.update cond set).get? id = some row) (built : s row = .built) : table.get? id = some row := by
  rw [Table.get?_update] at found
  obtain ⟨old, before, rfl⟩ := Option.map_eq_some_iff.mp found
  split at built
  · exact absurd built (never id old)
  · rename_i same
    rw [if_neg same]
    exact before

theorem fnWatchdog_noneBuilt (timeout : Option Int) : NoneBuilt db (fnWatchdog env db timeout) := by
  refine .of_tables (fun id row found built _ => ?_) fun id row found built _ => ?_
  · rw [fnWatchdog_functions] at found
    have before := noneBuilt_update (s := FunctionRow.buildStatus) (fun _ _ => BuildStatus.noConfusion) found built
    exact ⟨row, before, built, rfl⟩
  · rw [fnWatchdog_procedures] at found
    have before := noneBuilt_update (s := ProcedureRow.buildStatus) (fun _ _ => BuildStatus.noConfusion) found built
    exact ⟨row, before, built, rfl⟩

/-! ### The steps -/

theorem fnCompleteFunctionBuild_target (id : Nat) (outcome : BuildOutcome) (kind : TargetKind) (key : Nat) :
    (fnCompleteFunctionBuild env db id outcome).target kind key =
      if kind = .function ∧ key = id then
        (db.target kind key).map fun held => (if held.1 = .building then outcome.status else held.1, held.2)
      else db.target kind key := by
  unfold fnCompleteFunctionBuild
  cases kind with
  | procedure =>
    rw [if_neg (by simp)]
    split <;> rfl
  | function =>
    by_cases same : key = id
    · subst same
      rw [if_pos ⟨rfl, rfl⟩]
      cases found : db.functions.get? key with
      | none => simp [Db.target, found]
      | some row =>
        by_cases building : row.buildStatus = .building
        · simp [Db.target, Db.audit, Table.get?_modify, found, building, Option.filter]
        · simp [Db.target, found, building, Option.filter]
    · rw [if_neg (by simp [same])]
      split
      · rfl
      · simp only [Db.target, Db.audit, Table.get?_modify, if_neg same]

theorem fnCompleteProcedureBuild_target (id : Nat) (outcome : BuildOutcome) (kind : TargetKind) (key : Nat) :
    (fnCompleteProcedureBuild env db id outcome).target kind key =
      if kind = .procedure ∧ key = id then
        (db.target kind key).map fun held => (if held.1 = .building then outcome.status else held.1, held.2)
      else db.target kind key := by
  unfold fnCompleteProcedureBuild
  cases kind with
  | function =>
    rw [if_neg (by simp)]
    split <;> rfl
  | procedure =>
    by_cases same : key = id
    · subst same
      rw [if_pos ⟨rfl, rfl⟩]
      cases found : db.procedures.get? key with
      | none => simp [Db.target, found]
      | some row =>
        by_cases building : row.buildStatus = .building
        · simp [Db.target, Db.audit, Table.get?_modify, found, building, Option.filter]
        · simp [Db.target, found, building, Option.filter]
    · rw [if_neg (by simp [same])]
      split
      · rfl
      · simp only [Db.target, Db.audit, Table.get?_modify, if_neg same]

/-- A report moves the target of its job out of the building state, and nothing else. -/
theorem Plant.complete_target (plant : Plant) (env : Env) (j : Nat) (job : Job) (outcome : BuildOutcome)
    (kind : TargetKind) (key : Nat) :
    (plant.complete env j job outcome).db.target kind key =
      if kind = job.kind ∧ key = job.targetId then
        (plant.db.target kind key).map fun held => (if held.1 = .building then outcome.status else held.1, held.2)
      else plant.db.target kind key := by
  unfold Plant.complete
  cases job.kind with
  | function => exact fnCompleteFunctionBuild_target _ _ _ _
  | procedure => exact fnCompleteProcedureBuild_target _ _ _ _

theorem Plant.install_installed (plant : Plant) (j : Nat) (job : Job) (kind : TargetKind) (key : Nat) :
    (plant.install j job).installed kind key =
      if kind = job.kind ∧ key = job.targetId then some job.body else plant.installed kind key := by
  simp only [Plant.install, Function.update_apply]
  by_cases sort : kind = job.kind
  · subst sort
    rw [if_pos rfl, Function.update_apply]
    simp only [true_and]
  · rw [if_neg sort, if_neg (by simp [sort])]

theorem Plant.Consistent.of_noneBuilt (consistent : plant.Consistent) {jobs : Table Job}
    (none : NoneBuilt plant.db db) : ({ plant with db := db, jobs := jobs } : Plant).Consistent :=
  fun kind id body built => consistent kind id body (none kind id body built)

theorem install_consistent_iff {j : Nat} {job : Job} (found : plant.jobs.get? j = some job)
    (consistent : plant.Consistent) : (plant.install j job).Consistent ↔ Timely (.install j) plant := by
  have installed := plant.install_installed j job
  constructor
  · intro kept held body here built
    obtain rfl := Option.some.inj (found.symm.trans here)
    have now := kept _ _ _ built
    rw [installed, if_pos ⟨rfl, rfl⟩] at now
    exact Option.some.inj now
  · intro timely kind id body built
    rw [installed]
    split
    · rename_i same
      obtain ⟨rfl, rfl⟩ := same
      rw [timely job body found built]
    · exact consistent kind id body built

theorem report_consistent_iff {j : Nat} {job : Job} {outcome : BuildOutcome} (found : plant.jobs.get? j = some job)
    (ran : job.outcome = some outcome) (consistent : plant.Consistent) :
    (plant.complete env j job outcome).Consistent ↔ Timely (.report j) plant := by
  have target := plant.complete_target env j job outcome
  constructor
  · intro kept held told body here same success building
    obtain rfl := Option.some.inj (found.symm.trans here)
    obtain rfl := Option.some.inj (ran.symm.trans same)
    refine kept job.kind job.targetId body ?_
    rw [target, if_pos ⟨rfl, rfl⟩, building]
    simp only [Option.map_some, if_true, success]
  · intro timely kind id body built
    rw [target] at built
    split at built
    · rename_i same
      obtain ⟨rfl, rfl⟩ := same
      obtain ⟨⟨status, held⟩, before, view⟩ := Option.map_eq_some_iff.mp built
      obtain ⟨after, rfl⟩ := Prod.mk.inj view
      dsimp only at after
      split at after
      · rename_i building
        subst building
        exact timely job outcome body found ran after before
      · subst after
        exact consistent _ _ _ before
    · exact consistent kind id body built

/-- A step breaks the agreement exactly if it comes too late. -/
theorem PlantStep.consistent_iff (step : PlantStep event plant next) (consistent : plant.Consistent) :
    next.Consistent ↔ Timely event plant := by
  cases step with
  | createFunction done => exact iff_of_true (consistent.of_noneBuilt (fnCreateFunction_noneBuilt done)) trivial
  | updateFunction done => exact iff_of_true (consistent.of_noneBuilt (fnUpdateFunction_noneBuilt done)) trivial
  | createProcedure done => exact iff_of_true (consistent.of_noneBuilt (fnCreateProcedure_noneBuilt done)) trivial
  | setProcedure done => exact iff_of_true (consistent.of_noneBuilt (fnSetProcedure_noneBuilt done)) trivial
  | rollbackProcedure done => exact iff_of_true (consistent.of_noneBuilt (fnRollbackProcedure_noneBuilt done)) trivial
  | claimFunctions plant env limit =>
    exact iff_of_true (consistent.of_noneBuilt (fnClaimFunctionBuilds_noneBuilt limit)) trivial
  | claimProcedures plant env limit =>
    exact iff_of_true (consistent.of_noneBuilt (fnClaimProcedureBuilds_noneBuilt limit)) trivial
  | install found _ => exact install_consistent_iff found consistent
  | refuse error found _ => exact iff_of_true consistent trivial
  | report env found ran => exact report_consistent_iff found ran consistent
  | sweep plant env timeout => exact iff_of_true (consistent.of_noneBuilt (fnWatchdog_noneBuilt timeout)) trivial
  | other functions procedures =>
    refine iff_of_true (consistent.of_noneBuilt (.of_tables ?_ ?_)) trivial
    · exact fun _ row found built _ => ⟨row, functions ▸ found, built, rfl⟩
    · exact fun _ row found built _ => ⟨row, procedures ▸ found, built, rfl⟩

/-- In a run without late steps every target that is built has its own body installed,
and the next step keeps it so exactly if it is not late either. -/
theorem builds_consistent {start plant : Plant} (initially : start.Consistent)
    (run : Path PlantStep Timely start plant) :
    plant.Consistent ∧ ∀ event next, PlantStep event plant next → (next.Consistent ↔ Timely event plant) := by
  have consistent : plant.Consistent := by
    refine run.invariant (P := Plant.Consistent) (fun event before next step timely held => ?_) initially
    exact (step.consistent_iff held).mpr timely
  exact ⟨consistent, fun event next step => step.consistent_iff consistent⟩

/-! ### Two builds of one function -/

def committed (db : Db) : Except String (Json × Db) → Db
  | .ok (_, db) => db
  | .error _ => db

theorem committed_eq {result : Except String (Json × Db)} (ok : result.isOk = true) (db : Db) :
    ∃ reply, result = .ok (reply, committed db result) := by
  cases result with
  | ok out => exact ⟨out.1, rfl⟩
  | error message => cases ok

def emptyPlant : Plant := ⟨.empty, fun _ _ => none, .empty⟩

theorem emptyPlant_consistent : emptyPlant.Consistent := by
  intro kind id body built
  cases kind <;> cases built

/-- The function `twice` is created and a worker claims its build. -/
def createTwice : Except String (Json × Db) :=
  fnCreateFunction .bare .empty (some "twice") (some "Doubles.") (some "RETURN p_args;") .emptyObj none

def Plant.claimed (plant : Plant) : Plant := { plant with
  db := (fnClaimFunctionBuilds .bare plant.db none).2
  jobs := takeUp .function plant.jobs (fnClaimFunctionBuilds .bare plant.db none).1 }

def heldPlant : Plant := Plant.claimed { emptyPlant with db := committed .empty createTwice }

def firstJob (outcome : Option BuildOutcome) : Job := ⟨.function, 0, "RETURN p_args;", outcome⟩

theorem heldPlant_path {ok : PlantEvent → Plant → Prop} (edit : ok .edit emptyPlant) (claim : ∀ plant, ok .claim plant) :
    Path PlantStep ok emptyPlant heldPlant := by
  obtain ⟨reply, created⟩ := committed_eq (show createTwice.isOk = true by decide +kernel) .empty
  exact .step (.single (.createFunction created) edit) (.claimFunctions _ .bare none) (claim _)

theorem heldPlant_job : heldPlant.jobs.get? 0 = some (firstJob none) := by
  decide +kernel

theorem builds_consistent_report :
    ∃ plant, Path PlantStep Timely emptyPlant plant ∧ plant.Consistent ∧
      plant.db.target .function 0 = some (.built, some "RETURN p_args;") := by
  have installs : PlantStep (.install 0) heldPlant (heldPlant.install 0 (firstJob none)) :=
    .install heldPlant_job rfl
  have waits : heldPlant.db.target .function 0 = some (.building, some "RETURN p_args;") := by decide +kernel
  have early : Timely (.install 0) heldPlant := by
    intro job body found built
    obtain rfl := Option.some.inj (heldPlant_job.symm.trans found)
    cases waits.symm.trans built
  have ran : (heldPlant.install 0 (firstJob none)).jobs.get? 0 = some (firstJob (some ⟨some true, none⟩)) := by
    decide +kernel
  have current : Timely (.report 0) (heldPlant.install 0 (firstJob none)) := by
    intro job outcome body found _ _ building
    obtain rfl := Option.some.inj (ran.symm.trans found)
    rw [← (Prod.mk.inj (Option.some.inj (waits.symm.trans building))).2]
    decide +kernel
  have run := (@heldPlant_path Timely trivial fun _ => trivial).step installs early
  have reported := run.step (.report .bare ran rfl) current
  exact ⟨_, reported, (builds_consistent emptyPlant_consistent reported).1, by decide +kernel⟩

/-- The body is edited and its build claimed while a worker still holds the first build,
whose DDL and report come afterwards. -/
theorem not_builds_consistent :
    ¬ ∀ start plant : Plant, start.Consistent → Path PlantStep (fun _ _ => True) start plant → plant.Consistent := by
  intro consistent
  let edit : Except String (Json × Db) := fnUpdateFunction .bare heldPlant.db 0 none (some "RETURN NULL;") none
  let raced : Plant := Plant.claimed { heldPlant with db := committed heldPlant.db edit }
  let late : Plant := raced.install 0 (firstJob none)
  let reported : Plant := late.complete .bare 0 (firstJob (some ⟨some true, none⟩)) ⟨some true, none⟩
  obtain ⟨reply, edited⟩ := committed_eq (show edit.isOk = true by decide +kernel) heldPlant.db
  have held := @heldPlant_path (fun _ _ => True) trivial fun _ => trivial
  have again : Path PlantStep (fun _ _ => True) emptyPlant raced :=
    .step (held.step (.updateFunction edited) trivial) (.claimFunctions _ .bare none) trivial
  have job : raced.jobs.get? 0 = some (firstJob none) := by decide +kernel
  have ran : late.jobs.get? 0 = some (firstJob (some ⟨some true, none⟩)) := by decide +kernel
  have run : Path PlantStep (fun _ _ => True) emptyPlant reported :=
    (again.step (.install job rfl) trivial).step (.report .bare ran rfl) trivial
  have built : reported.db.target .function 0 = some (.built, some "RETURN NULL;") := by decide +kernel
  have stale : reported.installed .function 0 = some "RETURN p_args;" := by decide +kernel
  have same := consistent _ _ emptyPlant_consistent run _ _ _ built
  rw [stale] at same
  exact absurd same (by decide)

end Allgres
