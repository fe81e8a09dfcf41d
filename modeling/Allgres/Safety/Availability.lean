import Allgres.Safety.Builds
import Allgres.Submit.Raises
import Allgres.Machine

/-! A function or a procedure that has been built stays offered and callable as long
as its body is not edited. -/

namespace Allgres

open Relational Jsonb Sql Runs

/-! ### What a target is available for -/

/-- A running task of an active agent gets a reply of its model that asks for the action. -/
structure Asking (db : Db) (t : Nat) (task : TaskRow) (payload parsed : Json) (action : String) : Prop where
  found : db.tasks.get? t = some task
  running : task.status = .running
  active : (db.agents.get? task.agentId).any AgentRow.isActive = true
  type : payload.getText? "type" = some "llm_response"
  reply : parsedReply payload = some parsed
  action : parsed.getText? "action" = some action

def calledWith (parsed : Json) (id agentId : Nat) : BodyCall :=
  ⟨id, agentId, (parsed.get? "args").getD .emptyObj, none, none⟩

/-- The prompt of every agent to which the target is granted names it. -/
def Offered (db : Db) (id : Nat) : TargetKind → Prop
  | .function => ∀ function agentId procedureId, db.functions.get? id = some function → function.isActive = true →
      (procedureId, id) ∈ db.bindings → grantsProcedure db agentId procedureId = true →
      ∃ entries entry, boundFunctionsJson db agentId = .arr entries ∧ entry ∈ entries ∧
        entry.getText? "name" = some function.name
  | .procedure => ∀ procedure agentId, db.procedures.get? id = some procedure → grantsProcedure db agentId id = true →
      ∃ entries entry, proceduresJson db agentId = .arr entries ∧ entry ∈ entries ∧
        entry.getText? "name" = some procedure.name

/-- A call of the target by an agent to which it is granted is queued. -/
def Admits (db : Db) (id : Nat) : TargetKind → Prop
  | .function => ∀ env t task payload parsed function, Asking db t task payload parsed "call_function" →
      agentHasPermission env db task.agentId .function (parsed.getText? "function") = false →
      boundFunction env db task.agentId (parsed.getText? "function") = some (id, function) →
      function.handler = .plpgsql →
      ∃ reply db', fnSubmitResult env db t payload = .ok (reply, db') ∧
        db'.functionCalls = db.functionCalls.insert (Db.newCall env t (calledWith parsed id task.agentId))
  | .procedure => ∀ env t task payload parsed procedure name, Asking db t task payload parsed "run_procedure" →
      nonEmpty ((parsed.getText? "procedure").map btrim) = some name →
      (agentPermissionRefs db task.agentId .procedure).contains name = true →
      (db.procedures.find? fun _ procedure => procedure.name == name && procedure.isActive) = some (id, procedure) →
      ∃ reply db', fnSubmitResult env db t payload = .ok (reply, db') ∧
        db'.procedureCalls = db.procedureCalls.insert (Db.newCall env t (calledWith parsed id task.agentId))

/-- A queued call of a running task. -/
structure Waiting (db : Db) (calls : Table (CallRow BodyCall)) (k : Nat) (call : CallRow BodyCall) (id : Nat) : Prop where
  found : calls.get? k = some call
  queued : call.status = .queued
  target : call.body.targetId = id
  running : db.isRunning call.taskId = true
  agent : (db.agents.get? call.body.agentId).isSome

/-- A claim with room left takes every queued call of the target. -/
def Claims (db : Db) (id : Nat) : TargetKind → Prop
  | .function => ∀ env limit k call, Waiting db db.functionCalls k call id →
      (fnClaimFunctionCalls env db limit).1.length < claimLimit limit → (k, call) ∈ (fnClaimFunctionCalls env db limit).1
  | .procedure => ∀ env limit k call, Waiting db db.procedureCalls k call id →
      (fnClaimProcedureCalls env db limit).1.length < claimLimit limit →
      (k, call) ∈ (fnClaimProcedureCalls env db limit).1

structure Plant.Available (plant : Plant) (kind : TargetKind) (id : Nat) : Prop where
  /-- What a claimed call runs. -/
  installed : (plant.installed kind id).isSome
  offered : Offered plant.db id kind
  admits : Admits plant.db id kind
  claims : Claims plant.db id kind

/-! ### Edits -/

inductive WorkshopEvent
  | updateFunction (id : Nat) (body : Option String)
  | setProcedure (id : Nat) (body : Option String)
  | rollbackProcedure (id generation : Nat)
  | worker (event : PlantEvent)
  | other

/-- The edits of targets that exist, the steps of the worker, and whatever else leaves
the status and the body of these targets as they are. -/
inductive WorkshopStep : WorkshopEvent → Plant → Plant → Prop
  | updateFunction {plant : Plant} {env : Env} {id : Nat} {description body : Option String} {schema : Option Json}
      {reply : Json} {db : Db} : fnUpdateFunction env plant.db id description body schema = .ok (reply, db) →
      WorkshopStep (.updateFunction id body) plant { plant with db := db }
  | setProcedure {plant : Plant} {env : Env} {id : Nat} {content body : Option String} {enabled : Option Bool}
      {reply : Json} {db : Db} : fnSetProcedure env plant.db id content enabled body = .ok (reply, db) →
      WorkshopStep (.setProcedure id body) plant { plant with db := db }
  | rollbackProcedure {plant : Plant} {env : Env} {id generation : Nat} {reply : Json} {db : Db} :
      fnRollbackProcedure env plant.db id generation = .ok (reply, db) →
      WorkshopStep (.rollbackProcedure id generation) plant { plant with db := db }
  | worker {plant next : Plant} {event : PlantEvent} : event ≠ .edit → PlantStep event plant next →
      WorkshopStep (.worker event) plant next
  | other {plant : Plant} {db : Db} :
      (∀ kind id held, plant.db.target kind id = some held → db.target kind id = some held) →
      WorkshopStep .other plant { plant with db := db }

/-- The body that a procedure gets is the one it has. -/
def SameBody (db : Db) (id : Nat) (body : Option String) : Prop :=
  ∀ procedure, db.procedures.get? id = some procedure → body.or procedure.body = procedure.body

/-- The step is not an edit of the target's body. -/
def Unedited (kind : TargetKind) (id : Nat) : WorkshopEvent → Plant → Prop
  | .updateFunction other body, _ => kind = .function → other = id → body = none
  | .setProcedure other body, plant => kind = .procedure → other = id → SameBody plant.db id body
  | .rollbackProcedure other generation, plant => kind = .procedure → other = id → ∀ key filed,
      (plant.db.procedureHistory.find? fun _ filed => filed.procedureId == id && filed.generation == generation) =
        some (key, filed) → SameBody plant.db id filed.body
  | _, _ => True

variable {plant next : Plant} {db db' : Db} {env : Env} {id : Nat} {body : String}

/-! ### A built target -/

theorem target_function (held : db.target .function id = some (.built, some body)) :
    ∃ function, db.functions.get? id = some function ∧ function.buildStatus = .built ∧ function.body = some body := by
  obtain ⟨function, found, view⟩ := Option.map_eq_some_iff.mp held
  obtain ⟨status, same⟩ := Prod.mk.inj view
  exact ⟨function, found, status, same⟩

theorem target_procedure (held : db.target .procedure id = some (.built, some body)) :
    ∃ procedure, db.procedures.get? id = some procedure ∧ procedure.buildStatus = .built ∧
      procedure.body = some body := by
  obtain ⟨procedure, found, view⟩ := Option.map_eq_some_iff.mp held
  obtain ⟨status, same⟩ := Prod.mk.inj view
  exact ⟨procedure, found, status, same⟩

theorem offered_of_built {kind : TargetKind} (held : db.target kind id = some (.built, some body)) :
    Offered db id kind := by
  cases kind with
  | function =>
    obtain ⟨row, here, status, -⟩ := target_function held
    intro function agentId procedureId found active bound granted
    obtain rfl := Option.some.inj (here.symm.trans found)
    have exposes : ∃ procedure, db.procedures.get? procedureId = some procedure := by
      cases exposed : db.procedures.get? procedureId with
      | none => simp [grantsProcedure, exposed] at granted
      | some procedure => exact ⟨procedure, rfl⟩
    obtain ⟨procedure, exposed⟩ := exposes
    have listed : (row, procedure.name) ∈ boundFunctions db agentId := by
      refine List.mem_filterMap.mpr ⟨(procedureId, id), bound, ?_⟩
      simp [here, exposed, active, status, granted]
    refine ⟨_, _, rfl, List.mem_map.mpr ⟨_, (List.mem_insertionSort _).mpr listed, rfl⟩, ?_⟩
    simp [Json.getText?, Json.get?, Json.build, Json.lookup_setField, Json.asText]
  | procedure =>
    intro procedure agentId found granted
    refine ⟨_, _, rfl, List.mem_map.mpr ⟨(id, procedure), (List.mem_insertionSort _).mpr ?_, rfl⟩, rfl⟩
    exact Table.mem_select.mpr ⟨found, granted⟩

theorem fnSubmitResult_asked {t : Nat} {task : TaskRow} {payload parsed : Json} {text : String} {action : Action}
    (asking : Asking db t task payload parsed text) (known : Action.ofText text = some action) :
    ∃ turn : Turn, turn.taskId = t ∧ turn.task = task ∧ fnSubmitResult env db t payload =
      act env (turn.log env db .assistant (.str ((payload.getText? "content").getD ""))) turn parsed action := by
  have staffed := asking.active
  rw [Option.any_eq_true] at staffed
  obtain ⟨agent, staff, active⟩ := staffed
  refine ⟨⟨t, task, agent, db.policyOf task.agentId⟩, rfl, rfl, ?_⟩
  unfold fnSubmitResult
  rw [asking.found]
  dsimp only
  rw [if_neg (not_not.mpr asking.running), staff, Option.filter_some, if_pos active]
  unfold submitPayload
  rw [asking.type]
  unfold submitReply
  dsimp only
  rw [asking.reply, Option.bind_some, asking.action, Option.bind_some, known]
  rfl

theorem agentPermissionRefs_congr (agents : db'.agents = db.agents) (permissions : db'.permissions = db.permissions)
    (agentId : Nat) (type : ResourceType) : agentPermissionRefs db' agentId type = agentPermissionRefs db agentId type := by
  unfold agentPermissionRefs Db.chain
  rw [agents, permissions]
  simp only [agentChain_congr agents]

/-- Log rows do not decide which function a name stands for. -/
theorem boundFunction_log (turn : Turn) (role : Role) (content : Json) (agentId : Nat) (name : Option String) :
    boundFunction env (turn.log env db role content) agentId name = boundFunction env db agentId name := by
  have refs := @agentPermissionRefs_congr db (turn.log env db role content) rfl rfl agentId .procedure
  unfold boundFunction grantsProcedure
  rw [refs]
  rfl

theorem callBody_queues (turn : Turn) (name : Option String) {function : FunctionRow} (parsed : Json)
    (built : function.buildStatus = .built) :
    (callBody env db turn name id function ((parsed.get? "args").getD .emptyObj)).2.functionCalls =
      db.functionCalls.insert (Db.newCall env turn.taskId (calledWith parsed id turn.task.agentId)) := by
  unfold callBody
  rw [if_neg (not_not.mpr built)]
  dsimp only
  unfold Db.bumpStep Db.updateTask
  split <;> rfl

theorem runProcedure_queues {turn : Turn} {parsed : Json} {name : String} {procedure : ProcedureRow}
    (asked : nonEmpty ((parsed.getText? "procedure").map btrim) = some name)
    (granted : (agentPermissionRefs db turn.task.agentId .procedure).contains name = true)
    (known : (db.procedures.find? fun _ procedure => procedure.name == name && procedure.isActive) = some (id, procedure))
    (body : procedure.body.isSome) (built : procedure.buildStatus = .built) :
    (runProcedure env db turn parsed).2.procedureCalls =
      db.procedureCalls.insert (Db.newCall env turn.taskId (calledWith parsed id turn.task.agentId)) := by
  have known' : (db.procedures.find? fun _ procedure => some procedure.name == some name && procedure.isActive) =
      some (id, procedure) := by
    simpa using known
  have ready : ¬ (procedure.body.isNone = true ∨ procedure.buildStatus ≠ .built) := by
    rintro (missing | other)
    · rw [Option.isNone_iff_eq_none] at missing
      simp [missing] at body
    · exact other built
  unfold runProcedure
  simp only [asked, Option.any_some, granted, Bool.not_true, Bool.false_eq_true, if_false, known', if_neg ready]
  unfold Db.bumpStep Db.updateTask
  split <;> rfl

theorem admits_of_built {kind : TargetKind} (held : db.target kind id = some (.built, some body)) :
    Admits db id kind := by
  cases kind with
  | function =>
    obtain ⟨row, here, status, -⟩ := target_function held
    intro env t task payload parsed function asking direct bound handler
    obtain rfl := Option.some.inj (here.symm.trans (Table.find?_some bound).1)
    obtain ⟨turn, rfl, rfl, done⟩ := @fnSubmitResult_asked _ env _ _ _ _ _ _ asking rfl
    let said := turn.log env db .assistant (.str ((payload.getText? "content").getD ""))
    have called : callFunction env said turn parsed = callBody env said turn (parsed.getText? "function") id row
        ((parsed.get? "args").getD .emptyObj) := by
      unfold callFunction
      dsimp only
      rw [@agentHasPermission_congr env db said rfl rfl, direct, if_neg Bool.false_ne_true, boundFunction_log, bound]
      exact if_pos handler
    refine ⟨_, _, done.trans (congrArg Except.ok called), ?_⟩
    exact callBody_queues turn _ parsed status
  | procedure =>
    obtain ⟨row, here, status, held⟩ := target_procedure held
    intro env t task payload parsed procedure name asking asked granted known
    obtain rfl := Option.some.inj (here.symm.trans (Table.find?_some known).1)
    obtain ⟨turn, rfl, rfl, done⟩ := @fnSubmitResult_asked _ env _ _ _ _ _ _ asking rfl
    let said := turn.log env db .assistant (.str ((payload.getText? "content").getD ""))
    have granted' : (agentPermissionRefs said turn.task.agentId .procedure).contains name = true := by
      rw [@agentPermissionRefs_congr db said rfl rfl]
      exact granted
    exact ⟨_, _, done, @runProcedure_queues said env id turn parsed name row asked granted' known (by simp [held]) status⟩

/-- A claim that does not use up its limit takes everything that can be claimed. -/
theorem mem_claimable_of_room {β : Type} {calls : Table (CallRow β)} {ready : β → Bool} {limit : Option Int} {k : Nat}
    {call : CallRow β} (found : calls.get? k = some call) (queued : call.status = .queued)
    (running : db.isRunning call.taskId = true) (fits : ready call.body = true)
    (room : (claimable db calls ready limit).length < claimLimit limit) : (k, call) ∈ claimable db calls ready limit := by
  unfold claimable at room ⊢
  rw [List.length_take] at room
  rw [List.take_of_length_le (by omega), List.mem_insertionSort]
  exact Table.mem_select.mpr ⟨found, by simp [queued, running, fits]⟩

/-- What `fn_claim_function_calls` asks of a call besides its own state. -/
def functionReady (db : Db) (body : BodyCall) : Bool :=
  (db.functions.get? body.targetId).any (fun function => function.buildStatus == .built) &&
    (db.agents.get? body.agentId).isSome

def procedureReady (db : Db) (body : BodyCall) : Bool :=
  (db.procedures.get? body.targetId).any (fun procedure => procedure.buildStatus == .built) &&
    (db.agents.get? body.agentId).isSome

theorem fnClaimFunctionCalls_list (limit : Option Int) :
    (fnClaimFunctionCalls env db limit).1 = claimable db db.functionCalls (functionReady db) limit := rfl

theorem fnClaimProcedureCalls_list (limit : Option Int) :
    (fnClaimProcedureCalls env db limit).1 = claimable db db.procedureCalls (procedureReady db) limit := rfl

theorem claims_of_built {kind : TargetKind} (held : db.target kind id = some (.built, some body)) :
    Claims db id kind := by
  cases kind with
  | function =>
    obtain ⟨row, here, status, -⟩ := target_function held
    intro env limit k call waiting room
    rw [fnClaimFunctionCalls_list] at room ⊢
    have ready : functionReady db call.body = true := by
      simp [functionReady, waiting.target, here, status, waiting.agent]
    exact mem_claimable_of_room waiting.found waiting.queued waiting.running ready room
  | procedure =>
    obtain ⟨row, here, status, -⟩ := target_procedure held
    intro env limit k call waiting room
    rw [fnClaimProcedureCalls_list] at room ⊢
    have ready : procedureReady db call.body = true := by
      simp [procedureReady, waiting.target, here, status, waiting.agent]
    exact mem_claimable_of_room waiting.found waiting.queued waiting.running ready room

theorem available_of_built {kind : TargetKind} (held : plant.db.target kind id = some (.built, some body))
    (installed : (plant.installed kind id).isSome) : plant.Available kind id :=
  ⟨installed, offered_of_built held, admits_of_built held, claims_of_built held⟩

/-! ### What keeps a target built -/

theorem fnUpdateFunction_target {f : Nat} {description text : Option String} {schema : Option Json} {reply : Json}
    (done : fnUpdateFunction env db f description text schema = .ok (reply, db')) (kind : TargetKind) (key : Nat) :
    db'.target kind key =
      if kind = .function ∧ key = f then
        (db.target kind key).map fun held => (if text.isSome then .pending else held.1, text.or held.2)
      else db.target kind key := by
  unfold fnUpdateFunction at done
  split at done
  · cases done
  split at done
  · cases done
  split at done
  · cases done
  obtain ⟨-, rfl⟩ := Prod.mk.inj (Except.ok.inj done)
  cases kind with
  | procedure => rw [if_neg (by simp)]; rfl
  | function =>
    simp only [Db.target, Db.audit, Table.get?_modify, true_and]
    split
    · rw [Option.map_map, Option.map_map]
      rfl
    · rfl

theorem fnSetProcedure_target {p : Nat} {content text : Option String} {enabled : Option Bool} {reply : Json}
    (done : fnSetProcedure env db p content enabled text = .ok (reply, db')) (kind : TargetKind) (key : Nat) :
    db'.target kind key =
      if kind = .procedure ∧ key = p then
        (db.target kind key).map fun held =>
          (if text.or held.2 != held.2 && (text.or held.2).isSome then .pending else held.1, text.or held.2)
      else db.target kind key := by
  unfold fnSetProcedure at done
  split at done
  · cases done
  rename_i old here
  split at done
  · cases done
  dsimp only at done
  split at done
  · cases done
  rename_i filed filing
  have kept : filed.procedures = db.procedures ∧ filed.functions = db.functions := by
    split at filing
    · exact fileProcedure_tables filing
    · obtain rfl := Except.ok.inj filing
      exact ⟨rfl, rfl⟩
  obtain ⟨-, rfl⟩ := Prod.mk.inj (Except.ok.inj done)
  cases kind with
  | function => simp [Db.target, Db.audit, kept.2]
  | procedure =>
    simp only [Db.target, Db.audit, Table.get?_modify, kept.1, true_and]
    by_cases same : key = p
    · subst same
      simp [here]
    · simp [same]

/-- An edit of a procedure leaves a built target built exactly if its body stays. -/
theorem fnSetProcedure_built_iff {p : Nat} {content text : Option String} {enabled : Option Bool} {reply : Json}
    (done : fnSetProcedure env db p content enabled text = .ok (reply, db')) {kind : TargetKind}
    (held : db.target kind id = some (.built, some body)) :
    db'.target kind id = some (.built, some body) ↔ (kind = .procedure → p = id → SameBody db id text) := by
  rw [fnSetProcedure_target done]
  split
  · rename_i same
    obtain ⟨rfl, rfl⟩ := same
    obtain ⟨row, here, -, holds⟩ := target_procedure held
    rw [held]
    constructor
    · intro kept _ _ procedure found
      obtain rfl := Option.some.inj (here.symm.trans found)
      rw [holds]
      exact (Prod.mk.inj (Option.some.inj kept)).2
    · intro same
      have unchanged := same rfl rfl row here
      rw [holds] at unchanged
      simp [unchanged]
  · rename_i other
    exact iff_of_true held fun sort same => absurd ⟨sort, same.symm⟩ other

theorem claimBuilds_target (limit : Option Int) {kind : TargetKind}
    (held : db.target kind id = some (.built, some body)) :
    (fnClaimFunctionBuilds env db limit).2.target kind id = some (.built, some body) ∧
      (fnClaimProcedureBuilds env db limit).2.target kind id = some (.built, some body) := by
  cases kind with
  | function =>
    refine ⟨?_, held⟩
    obtain ⟨row, here, status, same⟩ := target_function held
    have kept : (fnClaimFunctionBuilds env db limit).2.functions.get? id = some row :=
      Table.get?_batch_other here (by simp [status])
    simp [Db.target, kept, status, same]
  | procedure =>
    refine ⟨held, ?_⟩
    obtain ⟨row, here, status, same⟩ := target_procedure held
    have kept : (fnClaimProcedureBuilds env db limit).2.procedures.get? id = some row :=
      Table.get?_batch_other here (by simp [status])
    simp [Db.target, kept, status, same]

theorem fnWatchdog_target (timeout : Option Int) {kind : TargetKind}
    (held : db.target kind id = some (.built, some body)) :
    (fnWatchdog env db timeout).target kind id = some (.built, some body) := by
  cases kind with
  | function =>
    obtain ⟨row, here, status, same⟩ := target_function held
    simp [Db.target, fnWatchdog_functions, reclaimBuilds, Table.get?_update, here, status, same]
  | procedure =>
    obtain ⟨row, here, status, same⟩ := target_procedure held
    simp [Db.target, fnWatchdog_procedures, reclaimProcedureBuilds, Table.get?_update, here, status, same]

/-- The worker leaves a built target as it is. -/
theorem PlantStep.keeps_built {event : PlantEvent} (step : PlantStep event plant next) (work : event ≠ .edit)
    {kind : TargetKind} (held : plant.db.target kind id = some (.built, some body)) :
    next.db.target kind id = some (.built, some body) := by
  cases step with
  | createFunction => exact absurd rfl work
  | updateFunction => exact absurd rfl work
  | createProcedure => exact absurd rfl work
  | setProcedure => exact absurd rfl work
  | rollbackProcedure => exact absurd rfl work
  | claimFunctions plant env limit => exact (claimBuilds_target limit held).1
  | claimProcedures plant env limit => exact (claimBuilds_target limit held).2
  | install => exact held
  | refuse => exact held
  | report env found ran =>
    rw [Plant.complete_target, held]
    split <;> rfl
  | sweep plant env timeout => exact fnWatchdog_target timeout held
  | other functions procedures =>
    cases kind with
    | function => simpa only [Db.target, functions] using held
    | procedure => simpa only [Db.target, procedures] using held

/-- A step leaves a built target built exactly if it is no edit of its body. -/
theorem WorkshopStep.built_iff {event : WorkshopEvent} (step : WorkshopStep event plant next) {kind : TargetKind}
    (held : plant.db.target kind id = some (.built, some body)) :
    next.db.target kind id = some (.built, some body) ↔ Unedited kind id event plant := by
  cases step with
  | @updateFunction _ env f description text schema reply db done =>
    have after := fnUpdateFunction_target done kind id
    rw [after]
    split
    · rename_i same
      obtain ⟨rfl, rfl⟩ := same
      cases text with
      | none => exact iff_of_true (by rw [held]; rfl) fun _ _ => rfl
      | some text =>
        refine iff_of_false (by rw [held]; simp) fun unedited => ?_
        exact absurd (unedited rfl rfl) (by simp)
    · rename_i other
      exact iff_of_true held fun sort same => absurd ⟨sort, same.symm⟩ other
  | setProcedure done =>
    exact fnSetProcedure_built_iff done held
  | @rollbackProcedure _ env p generation reply db done =>
    unfold fnRollbackProcedure at done
    split at done
    · cases done
    rename_i key filed found
    have kept : (plant.db.audit "procedures.rollback" (.build [("procedure_id", idJson p),
        ("restored_generation", .ofNat generation)])).target kind id = some (.built, some body) := by
      cases kind <;> exact held
    refine (fnSetProcedure_built_iff done kept).trans ?_
    constructor
    · intro same sort here key' filed' found'
      subst here
      obtain ⟨rfl, rfl⟩ := Prod.mk.inj (Option.some.inj (found.symm.trans found'))
      exact same sort rfl
    · intro same sort here
      subst here
      exact same sort rfl key filed found
  | worker work step => exact iff_of_true (step.keeps_built work held) trivial
  | other kept => exact iff_of_true (kept kind id _ held) trivial

/-- What has been installed once is replaced, never taken away. -/
theorem WorkshopStep.installed {event : WorkshopEvent} (step : WorkshopStep event plant next) {kind : TargetKind}
    (installed : (plant.installed kind id).isSome) : (next.installed kind id).isSome := by
  cases step with
  | worker work step =>
    cases step with
    | @install _ j job _ _ =>
      rw [Plant.install_installed]
      split
      · rfl
      · exact installed
    | createFunction => exact installed
    | updateFunction => exact installed
    | createProcedure => exact installed
    | setProcedure => exact installed
    | rollbackProcedure => exact installed
    | claimFunctions => exact installed
    | claimProcedures => exact installed
    | refuse => exact installed
    | report => exact installed
    | sweep => exact installed
    | other => exact installed
  | updateFunction => exact installed
  | setProcedure => exact installed
  | rollbackProcedure => exact installed
  | other => exact installed

/-- As long as its body is not edited, a target that has been built is offered, callable and
claimed, and the next step leaves it built exactly if it is no edit of its body either. -/
theorem built_stays_available {start plant : Plant} {kind : TargetKind} {id : Nat} {body : String}
    (held : start.db.target kind id = some (.built, some body)) (installed : (start.installed kind id).isSome)
    (run : Path WorkshopStep (Unedited kind id) start plant) :
    plant.Available kind id ∧ plant.db.target kind id = some (.built, some body) ∧
      ∀ event next, WorkshopStep event plant next →
        (next.db.target kind id = some (.built, some body) ↔ Unedited kind id event plant) := by
  have kept : plant.db.target kind id = some (.built, some body) ∧ (plant.installed kind id).isSome := by
    refine run.invariant (P := fun plant => plant.db.target kind id = some (.built, some body) ∧
      (plant.installed kind id).isSome) (fun event before after step unedited now => ?_) ⟨held, installed⟩
    exact ⟨(step.built_iff now.1).mpr unedited, step.installed now.2⟩
  exact ⟨available_of_built kept.1 kept.2, kept.1, fun event next step => step.built_iff kept.1⟩

/-! ### One edit of a procedure -/

/-- A task of the helper runs, and the helper may run the procedure. -/
def reporting : Db :=
  (runAll Label.any (reportDb (helperPolicy 5 none))
    [(.bare, .createSession 0 (some "sum up") none none), (.bare, .dispatchTasks)]).getD .empty

def reportPlant : Plant := ⟨reporting, fun _ _ => some "RETURN p_args;", .empty⟩

theorem reportPlant_built : reportPlant.db.target .procedure 0 = some (.built, some "RETURN p_args;") := by
  decide +kernel

/-- The worker looks for builds and finds none. -/
theorem built_stays_available_report :
    ∃ plant, Path WorkshopStep (Unedited .procedure 0) reportPlant plant ∧ plant.Available .procedure 0 := by
  have claim : WorkshopStep (.worker .claim) reportPlant _ := .worker nofun (.claimProcedures reportPlant .bare none)
  have run : Path WorkshopStep (Unedited .procedure 0) reportPlant _ := .single claim trivial
  exact ⟨_, run, (built_stays_available reportPlant_built rfl run).1⟩

/-- The procedure gets a new body, and no build of it has finished yet. -/
theorem not_built_stays_available :
    ¬ ∀ (start plant : Plant) (kind : TargetKind) (id : Nat) (body : String),
      start.db.target kind id = some (.built, some body) → (start.installed kind id).isSome →
      Path WorkshopStep (fun event _ => ∀ j, event ≠ .worker (.report j)) start plant → plant.Available kind id := by
  intro available
  let edit : Except String (Json × Db) := fnSetProcedure .bare reporting 0 none none (some "RETURN NULL;")
  let edited : Db := committed reporting edit
  let payload := llmPayload (some runsReport)
  obtain ⟨reply, done⟩ := committed_eq (show edit.isOk = true by decide +kernel) reporting
  have run : Path WorkshopStep (fun event _ => ∀ j, event ≠ .worker (.report j)) reportPlant { reportPlant with db := edited } :=
    .single (.setProcedure done) fun _ => WorkshopEvent.noConfusion
  have admits := (available _ _ _ _ _ reportPlant_built rfl run).admits
  have asks : (edited.tasks.get? 0).any (fun task => task.status == .running &&
      (edited.agents.get? task.agentId).any AgentRow.isActive &&
        (agentPermissionRefs edited task.agentId .procedure).contains "report" &&
          (parsedReply payload).any fun parsed => parsed.getText? "action" == some "run_procedure" &&
            nonEmpty ((parsed.getText? "procedure").map btrim) == some "report") = true := by
    decide +kernel
  rw [Option.any_eq_true] at asks
  obtain ⟨task, found, facts⟩ := asks
  simp only [Bool.and_eq_true, beq_iff_eq] at facts
  obtain ⟨⟨⟨running, active⟩, granted⟩, replied⟩ := facts
  rw [Option.any_eq_true] at replied
  obtain ⟨parsed, reply, facts⟩ := replied
  simp only [Bool.and_eq_true, beq_iff_eq] at facts
  have known : (edited.procedures.find? fun _ procedure => procedure.name == "report" && procedure.isActive).any
      (fun entry => entry.1 == 0) = true := by
    decide +kernel
  rw [Option.any_eq_true] at known
  obtain ⟨⟨p, procedure⟩, here, same⟩ := known
  obtain rfl := beq_iff_eq.mp same
  obtain ⟨reply, db', submitted, queued⟩ :=
    admits .bare 0 task payload parsed procedure "report" ⟨found, running, active, rfl, reply, facts.1⟩ facts.2 granted here
  have refused : (fnSubmitResult .bare edited 0 payload).toOption.any (fun out => out.2.procedureCalls.rows.isEmpty) = true := by
    decide +kernel
  rw [submitted] at refused
  simp [Except.toOption, queued, Table.insert] at refused

end Allgres
