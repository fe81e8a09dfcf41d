import Mathlib.Data.Prod.Lex
import Allgres.Lib.Ranked
import Allgres.Writes.Frozen
import Allgres.Safety.Compaction
import Allgres.Refine.References

/-! A decision on the model of a turn is kept for the retries of that turn. -/

namespace Allgres

open Relational Jsonb Sql Runs Raising

variable {env : Env} {db db' : Db} {t u functionId : Nat} {procedureId : Option Nat} {log : LogRow} {task : TaskRow}
  {override : Override} {state : Json}

/-! ### The result that a turn follows -/

/-- The row is the result of a function that the agent called through a procedure. -/
structure LogRow.Bound (log : LogRow) (functionId : Nat) (procedureId : Option Nat) : Prop where
  role : log.role = .function
  function : castUuid (log.content.getText? "procedure_function_id") = .ok (some functionId)
  procedure : castUuid (log.content.getText? "procedure_id") = .ok procedureId

/-- An error of the task was logged after the row. -/
def Db.retried (db : Db) (t : Nat) (log : LogRow) : Bool :=
  db.logs.any fun other => other.taskId == t && other.role == .error && decide (log.stepNumber < other.stepNumber)

/-- The next turn follows the row and is not the first attempt. -/
structure Retrying (db : Db) (t : Nat) (log : LogRow) : Prop where
  last : lastLog db t = some log
  failed : db.retried t log = true

def Db.ownLogs (db : Db) (t : Nat) : List LogRow := db.logs.filter fun log => log.taskId == t

theorem lastLog_congr (own : db'.ownLogs t = db.ownLogs t) : lastLog db' t = lastLog db t := by
  unfold Db.ownLogs at own
  unfold lastLog
  rw [own]

theorem retried_congr (own : db'.ownLogs t = db.ownLogs t) : db'.retried t log = db.retried t log := by
  have listed (db : Db) : db.retried t log =
      (db.ownLogs t).any fun other => other.role == .error && decide (log.stepNumber < other.stepNumber) := by
    unfold Db.retried Db.ownLogs
    rw [List.any_filter]
    simp only [Bool.and_assoc]
  rw [listed, listed, own]

/-- How `fn_next_step` orders the rows it chooses the last one from. -/
def logScore (log : LogRow) : Lex (Nat × Time) := toLex (log.stepNumber, log.createdAt)

theorem later_iff (a b : LogRow) :
    (b.stepNumber < a.stepNumber ∨ (a.stepNumber = b.stepNumber ∧ b.createdAt ≤ a.createdAt)) ↔
      logScore b ≤ logScore a := by
  rw [logScore, logScore, Prod.Lex.toLex_le_toLex, @eq_comm _ a.stepNumber]

/-- A result that is alone on its step is found as long as every later step of the task has failed. -/
theorem lastLog_of_alone (member : log ∈ db.ownLogs t) (result : log.role ≠ .error)
    (alone : ∀ row ∈ db.ownLogs t, row.stepNumber = log.stepNumber → row = log)
    (failed : ∀ row ∈ db.ownLogs t, log.stepNumber < row.stepNumber →
      ∃ error ∈ db.ownLogs t, error.role = .error ∧ error.stepNumber = row.stepNumber) : lastLog db t = some log := by
  have listed (row : LogRow) : row.stepNumber ∈ (((db.ownLogs t).filter fun log => log.role == .error).map
      LogRow.stepNumber) ↔ ∃ error ∈ db.ownLogs t, error.role = .error ∧ error.stepNumber = row.stepNumber := by
    simp only [List.mem_map, List.mem_filter, beq_iff_eq, and_assoc]
  unfold lastLog
  dsimp only
  change (List.insertionSort _ ((db.ownLogs t).filter fun log => !(((db.ownLogs t).filter fun log =>
    log.role == .error).map LogRow.stepNumber).contains log.stepNumber)).head? = some log
  generalize unfailed : ((db.ownLogs t).filter fun log => !(((db.ownLogs t).filter fun log =>
    log.role == .error).map LogRow.stepNumber).contains log.stepNumber) = kept
  have stays : ∀ row, row ∈ kept ↔ row ∈ db.ownLogs t ∧
      ¬ ∃ error ∈ db.ownLogs t, error.role = .error ∧ error.stepNumber = row.stepNumber := by
    intro row
    rw [← unfailed, List.mem_filter, ← listed, Bool.not_eq_true', ← Bool.not_eq_true, List.contains_iff_mem]
  have inside : log ∈ kept := by
    refine (stays log).mpr ⟨member, ?_⟩
    rintro ⟨error, own, role, same⟩
    rw [alone error own same] at role
    exact result role
  have bounded : ∀ row ∈ kept, row.stepNumber ≤ log.stepNumber := by
    intro row here
    obtain ⟨own, succeeded⟩ := (stays row).mp here
    by_contra later
    exact succeeded (failed row own (by omega))
  have sorted : (kept.insertionSort fun a b => b.stepNumber < a.stepNumber ∨
      (a.stepNumber = b.stepNumber ∧ b.createdAt ≤ a.createdAt)).Pairwise fun a b => logScore b ≤ logScore a :=
    pairwise_score later_iff kept
  have perm := List.perm_insertionSort (fun a b : LogRow =>
    b.stepNumber < a.stepNumber ∨ (a.stepNumber = b.stepNumber ∧ b.createdAt ≤ a.createdAt)) kept
  rcases ranked : kept.insertionSort fun a b => b.stepNumber < a.stepNumber ∨
      (a.stepNumber = b.stepNumber ∧ b.createdAt ≤ a.createdAt) with _ | ⟨head, rest⟩
  · rw [ranked] at perm
    exact absurd (perm.mem_iff.mpr inside) List.not_mem_nil
  · rw [ranked] at sorted perm
    rw [ranked, List.head?_cons]
    refine congrArg some ?_
    have first : head ∈ kept := perm.mem_iff.mp List.mem_cons_self
    rcases List.mem_cons.mp (perm.mem_iff.mpr inside) with same | behind
    · exact same.symm
    · have before := (List.pairwise_cons.mp sorted).1 log behind
      rw [← later_iff] at before
      have below := bounded head first
      exact alone head ((stays head).mp first).1 (by omega)

/-! ### Stored decisions -/

/-- The stored decision is this one, made for the same function. -/
structure Thaws (state : Json) (functionId : Nat) (procedureId : Option Nat) (override : Override) : Prop where
  function : castOr "uuid" toUuid (state.getText? "procedure_function_id") = .ok (some functionId)
  override : frozenOverride state functionId procedureId = .ok override

/-- A retry repeats the stored decision. -/
theorem resolveOverride_retry (retrying : Retrying db t log) (bound : log.Bound functionId procedureId)
    (held : task.functionOverrideState = some state) (thaws : Thaws state functionId procedureId override) :
    resolveOverride env db t task = .ok (override, db) := by
  have last : (lastLog db t).filter (fun log => log.role == .function) = some log := by
    rw [retrying.last, Option.filter_some, if_pos (beq_iff_eq.mpr bound.role)]
  have failed := retrying.failed
  unfold Db.retried at failed
  unfold resolveOverride
  rw [last]
  simp only [bound.function, bound.procedure, held, failed, Option.filter_some, if_true, thaws.function, thaws.override]

/-- A turn after such a result repeats a stored decision, or decides afresh and stores that. -/
theorem resolveOverride_bound (last : lastLog db t = some log) (bound : log.Bound functionId procedureId)
    (done : resolveOverride env db t task = .ok (override, db')) :
    (∃ state, db.retried t log = true ∧ task.functionOverrideState = some state ∧
        Thaws state functionId procedureId override ∧ db' = db) ∨
      override = freshOverride env db t functionId procedureId ∧
        db' = db.updateTask env t fun row =>
          { row with functionOverrideState := some (overrideState functionId override) } := by
  have last : (lastLog db t).filter (fun log => log.role == .function) = some log := by
    rw [last, Option.filter_some, if_pos (beq_iff_eq.mpr bound.role)]
  unfold resolveOverride at done
  rw [last] at done
  simp only [bound.function, bound.procedure] at done
  split at done
  · obtain ⟨rfl, rfl⟩ := Prod.mk.inj (Except.ok.inj done)
    exact .inr ⟨rfl, rfl⟩
  · rename_i state kept
    obtain ⟨held, failed⟩ := Option.filter_eq_some_iff.mp kept
    split at done
    · cases done
    · rename_i frozen cast
      split at done
      · rename_i same
        split at done
        · cases done
        · rename_i stored thawed
          obtain ⟨rfl, rfl⟩ := Prod.mk.inj (Except.ok.inj done)
          rw [same] at cast
          exact .inl ⟨state, failed, held, ⟨cast, thawed⟩, rfl⟩
      · obtain ⟨rfl, rfl⟩ := Prod.mk.inj (Except.ok.inj done)
        exact .inr ⟨rfl, rfl⟩

/-- A first attempt decides afresh. -/
theorem resolveOverride_first (last : lastLog db t = some log) (bound : log.Bound functionId procedureId)
    (first : db.retried t log = false) (done : resolveOverride env db t task = .ok (override, db')) :
    override = freshOverride env db t functionId procedureId := by
  rcases resolveOverride_bound last bound done with ⟨state, failed, -⟩ | ⟨fresh, -⟩
  · rw [first] at failed
    cases failed
  · exact fresh

/-! ### The stored form of a decision -/

/-- The shape that `llm_override` is documented to have. -/
def Overriding (config : Option Json) : Prop :=
  ∀ value, config = some value → ∃ provider model, value = modelJson (.str provider) (.str model)

/-- The overrides of functions and procedures have their documented shape, and the ids of
experiments are of type `uuid`. -/
structure Documented (db : Db) : Prop where
  functions : ∀ id row, db.functions.get? id = some row → Overriding row.llmOverride
  procedures : ∀ id row, db.procedures.get? id = some row → Overriding row.llmOverride
  experiments : ∀ id row, db.experiments.get? id = some row → id < 2 ^ 128

/-- What is known of a decision that is stored. -/
structure Override.Storable (override : Override) (functionId : Nat) (procedureId : Option Nat) : Prop where
  function : override.procedureFunctionId = some functionId
  procedure : override.procedureId = procedureId
  experiment : ∀ id, override.experimentId = some id → id < 2 ^ 128
  config : Overriding override.config

theorem freshOverride_storable (documented : Documented db) :
    (freshOverride env db t functionId procedureId).Storable functionId procedureId := by
  have configured : Overriding (((db.functions.get? functionId).bind FunctionRow.llmOverride).or
      (procedureId.bind fun id => (db.procedures.get? id).bind ProcedureRow.llmOverride)) := by
    intro value chosen
    rcases Option.or_eq_some_iff.mp chosen with own | ⟨-, general⟩
    · obtain ⟨row, found, given⟩ := Option.bind_eq_some_iff.mp own
      exact documented.functions functionId row found value given
    · obtain ⟨id, -, general⟩ := Option.bind_eq_some_iff.mp general
      obtain ⟨row, found, given⟩ := Option.bind_eq_some_iff.mp general
      exact documented.procedures id row found value given
  unfold freshOverride
  dsimp only
  split
  · rename_i experimentId experiment chosen
    split
    · refine ⟨rfl, rfl, fun id same => ?_, fun value same => ?_⟩
      · rw [← Option.some.inj same]
        exact documented.experiments experimentId experiment (Table.find?_some chosen).1
      · exact ⟨_, _, (Option.some.inj same).symm⟩
    · exact ⟨rfl, rfl, fun _ none => (by cases none), configured⟩
  · exact ⟨rfl, rfl, fun _ none => (by cases none), configured⟩

theorem castUuid_uuidText {id : Nat} (fits : id < 2 ^ 128) :
    castOr "uuid" toUuid (some (uuidText id)) = .ok (some id) := by
  rw [castOr, toUuid_uuidText fits]

theorem castUuid_lt {text : Option String} {id : Nat} (read : castUuid text = .ok (some id)) : id < 2 ^ 128 := by
  unfold castUuid castOr at read
  split at read
  · cases read
  · split at read
    · rename_i value converted
      obtain rfl := Option.some.inj (Except.ok.inj read)
      exact toUuid_lt converted
    · cases read

/-- The fields of a stored decision, in the order of its keys. -/
theorem overrideState_obj (functionId : Nat) {override : Override} (config : Overriding override.config) :
    ∃ fields, overrideState functionId override = .obj (fields ++
      [("experiment_id", optIdJson override.experimentId), ("procedure_function_id", idJson functionId)]) ∧
      (override.config = none ∧ fields = [] ∨ ∃ provider model,
        override.config = some (modelJson (.str provider) (.str model)) ∧
          fields = [("model", .str model), ("provider", .str provider)]) := by
  rcases given : override.config with _ | value
  · refine ⟨[], ?_, .inl ⟨rfl, rfl⟩⟩
    unfold overrideState
    rw [given]
    rfl
  · obtain ⟨provider, model, rfl⟩ := config value given
    refine ⟨_, ?_, .inr ⟨provider, model, rfl, rfl⟩⟩
    unfold overrideState
    rw [given]
    rfl

theorem castUuid_optIdJson {id : Option Nat} (fits : ∀ value, id = some value → value < 2 ^ 128) :
    castUuid (optIdJson id).asText = .ok id := by
  rcases id with _ | value
  · rfl
  · have solid : nonEmpty (some (uuidText value)) = some (uuidText value) := by
      have long := length_uuidText value
      unfold nonEmpty
      dsimp only
      rw [if_neg]
      rw [beq_iff_eq]
      intro empty
      rw [empty] at long
      cases long
    have read : castUuid (some (uuidText value)) = .ok (some value) := by
      rw [castUuid, solid, castUuid_uuidText (fits value rfl)]
    exact read

/-- The stored form of a decision is read back. -/
theorem overrideState_thaws (storable : override.Storable functionId procedureId) (fits : functionId < 2 ^ 128) :
    Thaws (overrideState functionId override) functionId procedureId override := by
  obtain ⟨fields, form, shape⟩ := overrideState_obj functionId storable.config
  have tried := castUuid_optIdJson storable.experiment
  have rebuilt : override = ⟨some functionId, procedureId, override.experimentId, override.config⟩ := by
    rw [← storable.function, ← storable.procedure]
  rcases shape with ⟨plain, rfl⟩ | ⟨provider, model, given, rfl⟩
  · rw [form]
    refine ⟨castUuid_uuidText fits, ?_⟩
    unfold frozenOverride
    rw [show (Json.obj ([] ++ [("experiment_id", optIdJson override.experimentId),
      ("procedure_function_id", idJson functionId)])).getText? "experiment_id" =
        (optIdJson override.experimentId).asText from rfl, tried, rebuilt, plain]
    rfl
  · rw [form]
    refine ⟨castUuid_uuidText fits, ?_⟩
    unfold frozenOverride
    rw [show (Json.obj ([("model", .str model), ("provider", .str provider)] ++ [("experiment_id",
      optIdJson override.experimentId), ("procedure_function_id", idJson functionId)])).getText? "experiment_id" =
        (optIdJson override.experimentId).asText from rfl, tried, rebuilt, given]
    rfl

/-! ### The model of a call -/

theorem sanitizeLlmConfig_getText? (config : Json) :
    (sanitizeLlmConfig config).getText? "provider" = nonEmpty (config.getText? "provider") ∧
      (sanitizeLlmConfig config).getText? "model" = nonEmpty (config.getText? "model") := by
  have form : sanitizeLlmConfig config = .obj (Json.stripFields [("model", .optStr (nonEmpty (config.getText? "model"))),
      ("provider", .optStr (nonEmpty (config.getText? "provider"))),
      ("max_tokens", (config.get? "max_tokens").getD .null),
      ("temperature", (config.get? "temperature").getD .null)]) := rfl
  have others (first second : Json) (key : String) (short : key = "provider" ∨ key = "model") :
      (Json.stripFields [("max_tokens", first), ("temperature", second)]).lookup key = none := by
    refine List.lookup_eq_none_iff.mpr fun field member => ?_
    obtain ⟨old, listed, -⟩ := @Json.mem_stripFields _ field.1 field.2 member
    rcases short with rfl | rfl <;> simp at listed <;> rcases listed with ⟨same, -⟩ | ⟨same, -⟩ <;> rw [same] <;> rfl
  rw [form]
  generalize nonEmpty (config.getText? "model") = model
  generalize nonEmpty (config.getText? "provider") = provider
  generalize (config.get? "max_tokens").getD .null = limit
  generalize (config.get? "temperature").getD .null = degree
  unfold Json.getText? Json.get?
  rcases model with _ | model <;> rcases provider with _ | provider
  all_goals simp [Json.optStr, Json.ofOption, Json.stripFields, Json.stripNulls, Json.asText, List.lookup_cons, others]

/-- An override decides on both, whatever the agent's own configuration names. -/
theorem turnConfig_model {policy : PolicyRow} {provider model : String} (object : policy.llmConfig.isObj = true)
    (given : override.config = some (modelJson (.str provider) (.str model))) :
    (turnConfig policy override).getText? "provider" = nonEmpty (some provider) ∧
      (turnConfig policy override).getText? "model" = nonEmpty (some model) := by
  unfold turnConfig
  rw [given]
  obtain ⟨fields, own⟩ : ∃ fields, policy.llmConfig = .obj fields := by
    cases config : policy.llmConfig with
    | obj fields => exact ⟨fields, rfl⟩
    | _ =>
      rw [config] at object
      cases object
  have form : (policy.llmConfig.concat (modelJson (.optStr ((modelJson (.str provider) (.str model)).getText? "provider"))
      (.optStr ((modelJson (.str provider) (.str model)).getText? "model")))) =
        .obj (Json.setField "provider" (.str provider) (Json.setField "model" (.str model) fields)) := by
    rw [own]
    rfl
  obtain ⟨named, chosen⟩ := sanitizeLlmConfig_getText? (policy.llmConfig.concat (modelJson (.optStr
    ((modelJson (.str provider) (.str model)).getText? "provider"))
      (.optStr ((modelJson (.str provider) (.str model)).getText? "model"))))
  dsimp only
  rw [named, chosen, form]
  unfold Json.getText? Json.get?
  simp [Json.lookup_setField, Json.asText]

/-! ### One call of `fn_next_step` -/

theorem frozen_stored (found : (db.tasks.get? t).isSome) (state : Json) :
    (db.updateTask env t fun row => { row with functionOverrideState := some state }).frozen t = some state := by
  obtain ⟨row, here⟩ := Option.isSome_iff_exists.mp found
  rw [Db.frozen, get?_updateTask _ here, if_pos rfl]
  rfl

theorem Documented.after (documented : Documented db) (anchored : Anchored db db') : Documented db' where
  functions id row found := documented.functions id row (by rw [← anchored.functions]; exact found)
  procedures id row found := documented.procedures id row (by rw [← anchored.procedures]; exact found)
  experiments id row found := documented.experiments id row (by rw [← anchored.experiments]; exact found)

theorem freshOverride_congr (anchored : Anchored db db') :
    freshOverride env db' t functionId procedureId = freshOverride env db t functionId procedureId := by
  unfold freshOverride
  rw [anchored.functions, anchored.procedures, anchored.experiments]

/-- A compaction logs for the compactor's new task only. -/
theorem maybeTriggerCompaction_own {s : Nat} {taskIds : List Nat} (found : (db.tasks.get? t).isSome)
    (done : maybeTriggerCompaction env db s taskIds = .ok db') : db'.ownLogs t = db.ownLogs t := by
  obtain ⟨row, here⟩ := Option.isSome_iff_exists.mp found
  have below := Table.get?_lt_next here
  have unchanged (same : (Except.ok db : Except String Db) = .ok db') : db'.ownLogs t = db.ownLogs t := by
    obtain rfl := Except.ok.inj same
    rfl
  unfold maybeTriggerCompaction at done
  split at done
  · exact unchanged done
  · split at done
    · cases done
    · split at done
      · cases done
      · dsimp only at done
        split_ifs at done
        · exact unchanged done
        · exact unchanged done
        · split at done
          · exact unchanged done
          · obtain ⟨-, -, more, logs, others⟩ := startCompaction_frame done
            have none : more.filter (fun log => log.taskId == t) = [] := by
              refine List.filter_eq_nil_iff.mpr fun log member => ?_
              have newest := others log member
              simp only [beq_iff_eq]
              omega
            rw [Db.ownLogs, logs, List.filter_append, none, List.append_nil, Db.ownLogs]

theorem conversation_own {taskIds : List Nat} (found : (db.tasks.get? t).isSome)
    (done : conversation env db t task = .ok (taskIds, db')) : db'.ownLogs t = db.ownLogs t := by
  unfold conversation at done
  dsimp only at done
  split at done
  · split at done
    · cases done
    · rename_i compacted
      obtain ⟨-, rfl⟩ := Prod.mk.inj (Except.ok.inj done)
      exact maybeTriggerCompaction_own found compacted
  · obtain ⟨-, rfl⟩ := Prod.mk.inj (Except.ok.inj done)
    rfl

/-- The tables that a turn of the task takes its decision from. -/
structure SameGround (t : Nat) (db db' : Db) : Prop where
  anchored : Anchored db db'
  own : db'.ownLogs t = db.ownLogs t
  frozen : db'.frozen t = db.frozen t
  task : (db'.tasks.get? t).isSome

theorem startTask_ground (found : db.tasks.get? t = some task) : SameGround t db (startTask env db t task) := by
  have started := @startTask_anchored db env t task
  unfold startTask at started ⊢
  split at started
  · rename_i queued
    rw [if_pos queued]
    refine ⟨started, ?_, congrFun (frozen_updateTask t ?_) t, ?_⟩
    · unfold Db.ownLogs Db.updateTask
      rw [found]
    · exact fun _ => rfl
    · rw [get?_updateTask _ found, if_pos rfl]
      rfl
  · rename_i running
    rw [if_neg running]
    exact ⟨started, rfl, rfl, Option.isSome_iff_exists.mpr ⟨task, found⟩⟩

theorem conversation_ground {taskIds : List Nat} (found : (db.tasks.get? t).isSome)
    (done : conversation env db t task = .ok (taskIds, db')) : SameGround t db db' := by
  obtain ⟨row, here⟩ := Option.isSome_iff_exists.mp found
  have still := (conversation_path done).2.rows t row trivial here
  refine ⟨conversation_anchored done, conversation_own found done, ?_, Option.isSome_iff_exists.mpr ⟨row, still⟩⟩
  rw [Db.frozen, still, Db.frozen, here]

theorem SameGround.trans {last : Db} (first : SameGround t db db') (second : SameGround t db' last) :
    SameGround t db last where
  anchored := first.anchored.trans second.anchored
  own := second.own.trans first.own
  frozen := second.frozen.trans first.frozen
  task := second.task

/-- A turn that asks the model has resolved its decision from the tables of the call. -/
theorem fnNextStep_resolves {spec : LlmSpec} (done : fnNextStep env db t = .ok (.callLlm spec, db')) :
    ∃ task policy mid, db.tasks.get? t = some task ∧ db.policyOf task.agentId = some policy ∧
      spec.llmConfig = turnConfig policy spec.override ∧ SameGround t db mid ∧
      resolveOverride env mid t task = .ok (spec.override, db') := by
  unfold fnNextStep at done
  split at done
  · cases done
  · rename_i task found
    split at done
    · cases done
    · dsimp only at done
      split at done
      · cases Except.ok.inj done
      · split at done
        · cases done
        · rename_i policy known
          split at done
          · cases Except.ok.inj done
          · have policies : (startTask env db t task).policies = db.policies := by
              unfold startTask
              split
              · exact (updateTask_spares t _).policies
              · rfl
            have started := @startTask_ground env db t task found
            unfold prepareTurn at done
            dsimp only at done
            split at done
            · cases done
            · rename_i talked
              have touched : SameGround t (startTask env db t task)
                  (touchMemories env (startTask env db t task) (recalledMemories env (startTask env db t task)
                    task.agentId)) := ⟨⟨rfl, rfl, rfl, fun _ member _ => member⟩, rfl, rfl, started.task⟩
              have ready := (started.trans touched).trans (conversation_ground started.task talked)
              split at done
              · cases done
              · rename_i resolved
                obtain ⟨asked, rfl⟩ := Prod.mk.inj (Except.ok.inj done)
                obtain rfl := NextStep.callLlm.inj asked
                refine ⟨task, policy, _, found, ?_, rfl, ready, resolved⟩
                rw [← known, Db.policyOf, Db.policyOf, policies]

/-- A decision that is returned is stored. -/
theorem fnNextStep_stores {spec : LlmSpec} (last : lastLog db t = some log)
    (bound : log.Bound functionId procedureId) (documented : Documented db)
    (done : fnNextStep env db t = .ok (.callLlm spec, db')) :
    ∃ state, db'.frozen t = some state ∧ Thaws state functionId procedureId spec.override := by
  obtain ⟨task, policy, mid, found, -, -, ground, resolved⟩ := fnNextStep_resolves done
  have last : lastLog mid t = some log := (lastLog_congr ground.own).trans last
  rcases resolveOverride_bound last bound resolved with ⟨state, -, held, thaws, rfl⟩ | ⟨fresh, rfl⟩
  · refine ⟨state, ?_, thaws⟩
    rw [ground.frozen, Db.frozen, found]
    exact held
  · have storable : spec.override.Storable functionId procedureId := by
      rw [fresh]
      exact freshOverride_storable (documented.after ground.anchored)
    exact ⟨_, frozen_stored ground.task _, overrideState_thaws storable (castUuid_lt bound.function)⟩

/-- A first attempt decides from the configuration and the experiments of the moment. -/
theorem fnNextStep_first {spec : LlmSpec} (last : lastLog db t = some log)
    (bound : log.Bound functionId procedureId) (first : db.retried t log = false)
    (done : fnNextStep env db t = .ok (.callLlm spec, db')) :
    spec.override = freshOverride env db t functionId procedureId := by
  obtain ⟨task, policy, mid, -, -, -, ground, resolved⟩ := fnNextStep_resolves done
  rw [← retried_congr ground.own] at first
  rw [resolveOverride_first ((lastLog_congr ground.own).trans last) bound first resolved]
  exact freshOverride_congr ground.anchored

/-- A turn that ends the task leaves its decision. -/
theorem fnNextStep_done_frozen {reason : String} (done : fnNextStep env db t = .ok (.done reason, db')) :
    db'.frozen t = db.frozen t := by
  unfold fnNextStep at done
  split at done
  · cases done
  · rename_i task found
    have started := @startTask_ground env db t task found
    split at done
    · cases done
    · dsimp only at done
      split at done
      · obtain ⟨-, rfl⟩ := Prod.mk.inj (Except.ok.inj done)
        exact (congrFun (frozen_failTask _ _ _ _) t).trans started.frozen
      · split at done
        · cases done
        · split at done
          · obtain ⟨-, rfl⟩ := Prod.mk.inj (Except.ok.inj done)
            exact (congrFun (frozen_failTask _ _ _ _) t).trans started.frozen
          · unfold prepareTurn at done
            dsimp only at done
            split at done
            · cases done
            · split at done
              · cases done
              · cases Except.ok.inj done

/-- The call is for what was decided, in the terms of the agent's own configuration. -/
structure Repeats (db : Db) (t : Nat) (override : Override) (spec : LlmSpec) : Prop where
  decision : spec.override = override
  config : ∃ task policy, db.tasks.get? t = some task ∧ db.policyOf task.agentId = some policy ∧
    spec.llmConfig = turnConfig policy override ∧ ∀ provider model, policy.llmConfig.isObj = true →
      override.config = some (modelJson (.str provider) (.str model)) →
      spec.llmConfig.getText? "provider" = nonEmpty (some provider) ∧
        spec.llmConfig.getText? "model" = nonEmpty (some model)

/-- A retry repeats the stored decision and keeps it. -/
theorem fnNextStep_retry {next : NextStep} (retrying : Retrying db t log) (bound : log.Bound functionId procedureId)
    (held : db.frozen t = some state) (thaws : Thaws state functionId procedureId override)
    (done : fnNextStep env db t = .ok (next, db')) :
    db'.frozen t = some state ∧ ∀ spec, next = .callLlm spec → Repeats db t override spec := by
  cases next with
  | done reason =>
    refine ⟨?_, fun _ asked => by cases asked⟩
    rw [fnNextStep_done_frozen done, held]
  | callLlm spec =>
    obtain ⟨task, policy, mid, found, known, config, ground, resolved⟩ := fnNextStep_resolves done
    have again : Retrying mid t log :=
      ⟨(lastLog_congr ground.own).trans retrying.last, (retried_congr ground.own).trans retrying.failed⟩
    have stored : task.functionOverrideState = some state := by
      rw [Db.frozen, found] at held
      exact held
    rw [resolveOverride_retry again bound stored thaws] at resolved
    obtain ⟨same, rfl⟩ := Prod.mk.inj (Except.ok.inj resolved)
    refine ⟨ground.frozen.trans held, ?_⟩
    rintro _ ⟨⟩
    refine ⟨same.symm, task, policy, found, known, ?_⟩
    rw [config, ← same]
    exact ⟨rfl, fun provider model => turnConfig_model⟩

/-! ### Meanwhile -/

/-- What may happen between two calls of `fn_next_step`: another function of the control plane
is called, `fn_dispatch_tasks` has one more pass, or tables other than `tasks` are changed. -/
inductive Meantime
  | call (env : Env) (op : Op)
  | pass (env : Env) (t agentId : Nat)
  | configure

inductive Meanwhile : Meantime → Db → Db → Prop
  | call {env : Env} {op : Op} {db db' : Db} : op.run env db = .ok db' → op ≠ .dispatchTasks →
      Meanwhile (.call env op) db db'
  | pass {env : Env} {t agentId : Nat} {call : Option Nat} {db db' : Db} :
      dispatchTask env db t agentId = .ok (call, db') → Meanwhile (.pass env t agentId) db db'
  | configure {db db' : Db} : db'.tasks = db.tasks → Meanwhile .configure db db'

/-- The task has no turn but retries. -/
def OnlyRetries (t : Nat) (log : LogRow) : Meantime → Db → Prop
  | .call _ (.nextStep other), db => other = t → Retrying db t log
  | .pass _ other agentId, db => other = t → atCapacity db other agentId = false → Retrying db t log
  | _, _ => True

/-- Every other function leaves the decision alone. -/
theorem Op.frozen {op : Op} (done : op.run env db = .ok db') (other : op ≠ .dispatchTasks)
    (turnless : ∀ t, op ≠ .nextStep t) : db'.frozen = db.frozen := by
  cases op <;> simp only [Op.run] at done
  case createSession =>
    obtain ⟨created, opened, rfl⟩ := ok_of_map done
    exact frozen_fnCreateSession opened
  case continueSession =>
    obtain ⟨created, opened, rfl⟩ := ok_of_map done
    exact frozen_fnContinueSession opened
  case runSchedules =>
    obtain rfl := Except.ok.inj done
    exact frozen_fnRunSchedules
  case dispatchTasks => exact absurd rfl other
  case claimOutbound | claimSql | claimFunctionCalls | claimProcedureCalls =>
    obtain rfl := Except.ok.inj done
    exact frozen_of_tasks rfl
  case completeOutbound callId status body =>
    obtain ⟨out, completed, rfl⟩ := ok_of_map done
    exact keepsFrozen_fnCompleteOutbound callId status body out completed
  case completeSql callId outcome =>
    obtain ⟨out, completed, rfl⟩ := ok_of_map done
    exact keepsFrozen_fnCompleteSql callId outcome out completed
  case completeFunctionCall callId outcome =>
    obtain ⟨out, completed, rfl⟩ := ok_of_map done
    exact keepsFrozen_fnCompleteFunctionCall callId outcome out completed
  case completeProcedureCall callId outcome =>
    obtain ⟨out, completed, rfl⟩ := ok_of_map done
    exact keepsFrozen_fnCompleteProcedureCall callId outcome out completed
  case decideApproval approvalId accept reply =>
    obtain ⟨out, decided, rfl⟩ := ok_of_map done
    exact keepsFrozen_fnDecideApproval approvalId accept reply out decided
  case cancelSession s reason =>
    obtain ⟨out, cancelled, rfl⟩ := ok_of_map done
    exact keepsFrozen_fnCancelSession s reason out cancelled
  case watchdog timeout =>
    obtain rfl := Except.ok.inj done
    exact frozen_fnWatchdog timeout
  case nextStep t => exact absurd rfl (turnless t)
  case submitResult t payload =>
    obtain ⟨out, submitted, rfl⟩ := ok_of_map done
    exact keepsFrozen_fnSubmitResult t payload out submitted

theorem fnNextStep_other {next : NextStep} {other : Nat} (done : fnNextStep env db other = .ok (next, db'))
    (held : db.frozen t = some state) (apart : other ≠ t) : db'.frozen t = some state := by
  obtain ⟨row, here, stored⟩ := Option.bind_eq_some_iff.mp held
  have spares : Spares (· ≠ other) db db' := by
    cases next with
    | done reason => exact (fnNextStep_done done).2
    | callLlm spec => exact (fnNextStep_callLlm done).2.1
  rw [Db.frozen, spares.rows t row apart.symm here]
  exact stored

/-- What follows a turn in a pass leaves the decision alone. -/
theorem dispatchTask_frozen {agentId : Nat} {call : Option Nat}
    (turn : ∀ next mid, atCapacity db t agentId = false → fnNextStep env db t = .ok (next, mid) →
      mid.frozen u = db.frozen u)
    (done : dispatchTask env db t agentId = .ok (call, db')) : db'.frozen u = db.frozen u := by
  unfold dispatchTask at done
  split at done
  · obtain ⟨-, rfl⟩ := Prod.mk.inj (Except.ok.inj done)
    rfl
  · rename_i free
    have free : atCapacity db t agentId = false := by simpa using free
    split at done
    · rename_i error failed
      obtain ⟨-, rfl⟩ := Prod.mk.inj (Except.ok.inj done)
      unfold reportFailure
      split
      · rfl
      · rename_i reply after reported
        exact congrFun (keepsFrozen_fnSubmitResult t _ (reply, after) reported) u
    · rename_i reason mid stepped
      obtain ⟨-, rfl⟩ := Prod.mk.inj (Except.ok.inj done)
      exact turn _ _ free stepped
    · rename_i spec mid stepped
      have stepped := turn _ _ free stepped
      split at done
      · split at done
        · cases done
        · rename_i reply after reported
          obtain ⟨-, rfl⟩ := Prod.mk.inj (Except.ok.inj done)
          exact (congrFun (keepsFrozen_fnSubmitResult t _ (reply, after) reported) u).trans stepped
      · split at done
        · obtain ⟨-, rfl⟩ := Prod.mk.inj (Except.ok.inj done)
          exact (congrFun (frozen_of_tasks rfl) u).trans stepped
        · cases done

/-- The decision stays stored, whatever happens meanwhile. -/
theorem Meanwhile.keeps {event : Meantime} (moved : Meanwhile event db db') (only : OnlyRetries t log event db)
    (bound : log.Bound functionId procedureId) (thaws : Thaws state functionId procedureId override)
    (held : db.frozen t = some state) : db'.frozen t = some state := by
  cases moved with
  | configure tasks => rw [frozen_of_tasks tasks, held]
  | @call env op _ _ done other =>
    by_cases turnless : ∀ t, op ≠ .nextStep t
    · rw [Op.frozen done other turnless, held]
    · simp only [not_forall, not_not] at turnless
      obtain ⟨u, rfl⟩ := turnless
      obtain ⟨⟨next, after⟩, stepped, rfl⟩ := ok_of_map done
      by_cases own : u = t
      · subst own
        exact (fnNextStep_retry (only rfl) bound held thaws stepped).1
      · exact fnNextStep_other stepped held own
  | @pass env u agentId call _ _ done =>
    have turn : ∀ next mid, atCapacity db u agentId = false → fnNextStep env db u = .ok (next, mid) →
        mid.frozen t = db.frozen t := by
      intro next mid free stepped
      rw [held]
      by_cases own : u = t
      · subst own
        exact (fnNextStep_retry (only rfl free) bound held thaws stepped).1
      · exact fnNextStep_other stepped held own
    rw [dispatchTask_frozen turn done, held]

/-- A dispatch is a run of passes. -/
theorem fnDispatchTasks_passes {out : Dispatched} (done : fnDispatchTasks env db = .ok out) :
    Path Meanwhile (fun event _ => ∃ t agentId, event = .pass env t agentId) db out.db := by
  unfold fnDispatchTasks at done
  generalize dispatchable db = pending at done
  suffices passes : ∀ state, dispatchLoop env pending state = .ok out →
      Path Meanwhile (fun event _ => ∃ t agentId, event = .pass env t agentId) state.db out.db from passes ⟨[], db⟩ done
  clear done
  induction pending with
  | nil =>
    intro state done
    obtain rfl := Except.ok.inj done
    exact .refl
  | cons entry rest ih =>
    intro state done
    obtain ⟨t, task⟩ := entry
    simp only [dispatchLoop] at done
    split at done
    · cases done
    · rename_i passed
      exact (Path.single (.pass passed) ⟨t, task.agentId, rfl⟩).trans (ih _ done)
    · rename_i passed
      have first : Path Meanwhile (fun event _ => ∃ t agentId, event = .pass env t agentId) state.db _ :=
        .single (.pass passed) ⟨t, task.agentId, rfl⟩
      split at done
      · obtain rfl := Except.ok.inj done
        exact first
      · exact first.trans (ih _ done)

/-! ### Sticky decisions -/

/-- A first attempt decides afresh, and what any attempt decided is repeated by the retries that
follow it, whatever is done to the overrides and the experiments meanwhile. -/
theorem decisions_sticky {spec : LlmSpec} (last : lastLog db t = some log)
    (bound : log.Bound functionId procedureId) (asked : fnNextStep env db t = .ok (.callLlm spec, db')) :
    (db.retried t log = false → spec.override = freshOverride env db t functionId procedureId) ∧
      (Documented db → ∀ env' later later' again, Path Meanwhile (OnlyRetries t log) db' later →
        Retrying later t log → fnNextStep env' later t = .ok (.callLlm again, later') →
        Repeats later t spec.override again) := by
  refine ⟨fun first => fnNextStep_first last bound first asked, ?_⟩
  intro documented env' later later' again run retrying repeated
  obtain ⟨state, stored, thaws⟩ := fnNextStep_stores last bound documented asked
  have held : later.frozen t = some state :=
    run.invariant (P := fun db => db.frozen t = some state)
      (fun _ _ _ moved only held => moved.keeps only bound thaws held) stored
  exact (fnNextStep_retry retrying bound held thaws repeated).2 again rfl

/-- The result of the function that the small installation below experiments with. -/
def canaryResult : LogRow :=
  ⟨0, 2, .function, .build [("body", .str "found"), ("procedure_function_id", idJson 0), ("procedure_id", .null)], 0⟩

/-- A running task behind that result, and an experiment that takes half of such turns. -/
def canaryDb : Db :=
  { helperDb (helperPolicy 10 none) with
    functions := Table.empty.insert
      ⟨"lookup", "", .httpGet, .emptyObj, none, .emptyObj, .built, none, none, true, none, none, 0⟩
    experiments := Table.empty.insert ⟨0, "local", "large", 50, .running, 20, none, none, none, none⟩
    tasks := Table.empty.insert ⟨0, 0, none, .running, 2, .emptyObj, none, none, 0, 0, none, 0, none, none⟩
    logs := [canaryResult] }

/-- The bare server, with the die against the candidate. -/
def Env.unlucky : Env := { Env.bare with roll := fun _ => 100 }

theorem canaryResult_bound : canaryResult.Bound 0 none := ⟨rfl, rfl, rfl⟩

theorem canaryDb_documented : Documented canaryDb where
  functions id row found := by
    simp only [canaryDb, Table.get?_insert] at found
    split at found
    · obtain rfl := Option.some.inj found
      intro value none
      cases none
    · cases found
  procedures id row found := by cases found
  experiments id row found := by
    have below := Table.get?_lt_next found
    have few : canaryDb.experiments.next = 1 := rfl
    omega

/-- The candidate is asked again after a timeout, though the die is against it this time. -/
theorem decisions_sticky_canary : ∃ decided later later' spec again,
    fnNextStep .bare canaryDb 0 = .ok (.callLlm spec, decided) ∧
      (Op.submitResult 0 (errorPayload "timeout")).run .bare decided = .ok later ∧
      fnNextStep .unlucky later 0 = .ok (.callLlm again, later') ∧ spec.override.experimentId = some 0 ∧
      spec.override = freshOverride .bare canaryDb 0 0 none ∧ Repeats later 0 spec.override again := by
  obtain ⟨spec, decided, later, again, later', asked, failed, last, retried, repeated, candidate⟩ :
      ∃ spec decided later again later', fnNextStep .bare canaryDb 0 = .ok (.callLlm spec, decided) ∧
        (Op.submitResult 0 (errorPayload "timeout")).run .bare decided = .ok later ∧
        lastLog later 0 = some canaryResult ∧ later.retried 0 canaryResult = true ∧
        fnNextStep .unlucky later 0 = .ok (.callLlm again, later') ∧ spec.override.experimentId = some 0 :=
    ⟨_, _, _, _, _, rfl, rfl, rfl, rfl, rfl, rfl⟩
  have found : lastLog canaryDb 0 = some canaryResult := rfl
  obtain ⟨first, sticky⟩ := decisions_sticky found canaryResult_bound asked
  have run : Path Meanwhile (OnlyRetries 0 canaryResult) decided later :=
    .single (.call failed (by rintro ⟨⟩)) trivial
  exact ⟨decided, later, later', spec, again, asked, failed, repeated, candidate, first rfl,
    sticky canaryDb_documented _ _ _ _ run ⟨last, retried⟩ repeated⟩

/-- Without an error in between, the next call decides again, and its decision is the one that is kept. -/
theorem not_decisions_sticky : ¬ ∀ (env env' : Env) (db db' later later' : Db) (t functionId : Nat)
    (procedureId : Option Nat) (log : LogRow) (spec again : LlmSpec), lastLog db t = some log →
    log.Bound functionId procedureId → Documented db → fnNextStep env db t = .ok (.callLlm spec, db') →
    Path Meanwhile (fun _ _ => True) db' later → Retrying later t log →
    fnNextStep env' later t = .ok (.callLlm again, later') →
    again.override.experimentId = spec.override.experimentId := by
  intro claim
  obtain ⟨spec, decided, middle, later, again, later', asked, stepped, failed, last, retried, repeated, candidate,
      plain⟩ :
      ∃ spec decided middle later again later', fnNextStep .bare canaryDb 0 = .ok (.callLlm spec, decided) ∧
        (Op.nextStep 0).run .unlucky decided = .ok middle ∧
        (Op.submitResult 0 (errorPayload "timeout")).run .bare middle = .ok later ∧
        lastLog later 0 = some canaryResult ∧ later.retried 0 canaryResult = true ∧
        fnNextStep .bare later 0 = .ok (.callLlm again, later') ∧ spec.override.experimentId = some 0 ∧
        again.override.experimentId = none :=
    ⟨_, _, _, _, _, _, rfl, rfl, rfl, rfl, rfl, rfl, rfl, rfl⟩
  have run : Path Meanwhile (fun _ _ => True) decided later :=
    (Path.single (.call stepped (by rintro ⟨⟩)) trivial).trans (.single (.call failed (by rintro ⟨⟩)) trivial)
  have same := claim .bare .bare canaryDb decided later later' 0 0 none canaryResult spec again rfl
    canaryResult_bound canaryDb_documented asked run ⟨last, retried⟩ repeated
  rw [candidate, plain] at same
  cases same

end Allgres
