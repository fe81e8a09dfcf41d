import Allgres.Refine.Dispatch

/-! The rows that the `llm` call of a turn refers to. Functions, procedures and
experiments are never deleted, so the insertion of that call succeeds. -/

namespace Allgres

open Relational Jsonb Sql

variable {db db' : Db} {env : Env}

/-- The function, the procedure and the experiment that a turn of the task may name exist. -/
structure Referenced (db : Db) (task : TaskRow) : Prop where
  function : ∀ log ∈ db.logs, log.role = .function → ∀ id,
    castUuid (log.content.getText? "procedure_function_id") = .ok (some id) → (db.functions.get? id).isSome
  procedure : ∀ log ∈ db.logs, log.role = .function → ∀ id,
    castUuid (log.content.getText? "procedure_id") = .ok (some id) → (db.procedures.get? id).isSome
  frozen : ∀ state, task.functionOverrideState = some state → ∀ id,
    castUuid (state.getText? "experiment_id") = .ok (some id) → (db.experiments.get? id).isSome

/-- The tables a turn refers to are left alone, and no function's result is logged. -/
structure Anchored (db db' : Db) : Prop where
  functions : db'.functions = db.functions
  procedures : db'.procedures = db.procedures
  experiments : db'.experiments = db.experiments
  logs : ∀ log ∈ db'.logs, log.role = .function → log ∈ db.logs

theorem Anchored.refl (db : Db) : Anchored db db := ⟨rfl, rfl, rfl, fun _ member _ => member⟩

theorem Anchored.trans {last : Db} (first : Anchored db db') (second : Anchored db' last) : Anchored db last where
  functions := second.functions.trans first.functions
  procedures := second.procedures.trans first.procedures
  experiments := second.experiments.trans first.experiments
  logs log member role := first.logs log (second.logs log member role) role

theorem Referenced.after {task : TaskRow} (named : Referenced db task) (anchored : Anchored db db') :
    Referenced db' task where
  function log member role id cast := by
    rw [anchored.functions]
    exact named.function log (anchored.logs log member role) role id cast
  procedure log member role id cast := by
    rw [anchored.procedures]
    exact named.procedure log (anchored.logs log member role) role id cast
  frozen state held id cast := by
    rw [anchored.experiments]
    exact named.frozen state held id cast

theorem Anchored.knownOverride (anchored : Anchored db db') (override : Override) :
    knownOverride db' override = Allgres.knownOverride db override := by
  unfold Allgres.knownOverride
  rw [anchored.functions, anchored.procedures, anchored.experiments]

/-! ### What leaves the references alone -/

theorem updateTask_anchored (t : Nat) (set : TaskRow → TaskRow) : Anchored db (db.updateTask env t set) := by
  unfold Db.updateTask
  split
  · exact .refl db
  · exact ⟨rfl, rfl, rfl, fun _ member _ => member⟩

theorem appendLog_anchored (taskId step : Nat) {role : Role} (content : Json) (other : role ≠ .function) :
    Anchored db (db.appendLog env taskId step role content) where
  functions := rfl
  procedures := rfl
  experiments := rfl
  logs log member written := by
    rcases List.mem_append.mp member with old | new
    · exact old
    · rw [List.mem_singleton.mp new] at written
      exact absurd written other

theorem maybeCompleteSession_anchored (s : Nat) : Anchored db (maybeCompleteSession env db s) := by
  unfold maybeCompleteSession
  dsimp only
  split_ifs
  all_goals exact ⟨rfl, rfl, rfl, fun _ member _ => member⟩

theorem failTask_anchored (t : Nat) (task : TaskRow) (error : String) (content : List (String × Json)) :
    Anchored db (failTask env db t task error content) := by
  have failed : Anchored db (db.updateTask env t fun row => { row with status := .failed, error := some error }) :=
    updateTask_anchored t _
  have logged : Anchored db ((db.updateTask env t fun row =>
      { row with status := .failed, error := some error }).appendLog env t task.stepCount .error (.build content)) :=
    failed.trans (appendLog_anchored t task.stepCount (.build content) (show Role.error ≠ .function by decide))
  exact logged.trans (maybeCompleteSession_anchored task.sessionId)

theorem submitError_anchored (turn : Turn) (payload : Json) : Anchored db (submitError env db turn payload).2 := by
  have counted : Anchored db ((turn.log env db .error
      (.build [("message", .str ((payload.getText? "message").getD "error"))])).bumpStep env turn.taskId) :=
    (appendLog_anchored _ _ _ (by decide)).trans (updateTask_anchored turn.taskId _)
  unfold submitError
  dsimp only
  split
  · exact (counted.trans (updateTask_anchored turn.taskId _)).trans (maybeCompleteSession_anchored _)
  · exact counted

theorem fnSubmitResult_error_anchored {t : Nat} {error : String} {reply : Json}
    (done : fnSubmitResult env db t (errorPayload error) = .ok (reply, db')) : Anchored db db' := by
  unfold fnSubmitResult at done
  split at done
  · cases done
  · split at done
    · cases done
    · split at done
      · obtain ⟨-, rfl⟩ := Prod.mk.inj (Except.ok.inj done)
        exact failTask_anchored t _ _ _
      · unfold submitPayload at done
        rw [errorPayload_type] at done
        obtain rfl := congrArg Prod.snd (Except.ok.inj done)
        exact submitError_anchored _ _

theorem startTask_anchored (t : Nat) (task : TaskRow) : Anchored db (startTask env db t task) := by
  unfold startTask
  split
  · exact updateTask_anchored t _
  · exact .refl db

theorem openTurn_anchored (s agentId : Nat) (message : String) : Anchored db (openTurn env db s agentId message).db := by
  have inserted : Anchored db (db.insertTask env s agentId none (.build [("goal", .str message)]) 0
      (db.generationOf agentId)) := ⟨rfl, rfl, rfl, fun _ member _ => member⟩
  exact inserted.trans (appendLog_anchored _ _ _ (by decide))

theorem fnCreateSession_anchored {agentId : Nat} {goal : Option String} {projectId scheduleId : Option Nat}
    {created : Created} (done : fnCreateSession env db agentId goal projectId scheduleId = .ok created) :
    Anchored db created.db := by
  unfold fnCreateSession at done
  split_ifs at done
  obtain rfl := Except.ok.inj done
  have opened (row : SessionRow) : Anchored db { db with sessions := db.sessions.insert row } :=
    ⟨rfl, rfl, rfl, fun _ member _ => member⟩
  exact (opened _).trans (openTurn_anchored _ _ _)

theorem maybeTriggerCompaction_anchored {s : Nat} {taskIds : List Nat}
    (done : maybeTriggerCompaction env db s taskIds = .ok db') : Anchored db db' := by
  have unchanged (same : (Except.ok db : Except String Db) = .ok db') : Anchored db db' := by
    obtain rfl := Except.ok.inj same
    exact .refl db
  unfold maybeTriggerCompaction at done
  split at done
  · exact unchanged done
  · split at done
    · cases done
    · split at done
      · cases done
      · dsimp only at done
        split_ifs at done
        · exact unchanged done
        · exact unchanged done
        · split at done
          · exact unchanged done
          · unfold startCompaction at done
            dsimp only at done
            split at done
            · cases done
            · rename_i created opened
              obtain rfl := Except.ok.inj done
              refine .trans ?_ (appendLog_anchored _ _ _ (by decide))
              exact (fnCreateSession_anchored opened).trans (updateTask_anchored created.taskId _)

theorem conversation_anchored {t : Nat} {task : TaskRow} {taskIds : List Nat}
    (done : conversation env db t task = .ok (taskIds, db')) : Anchored db db' := by
  unfold conversation at done
  dsimp only at done
  split at done
  · split at done
    · cases done
    · rename_i compacted
      obtain ⟨-, rfl⟩ := Prod.mk.inj (Except.ok.inj done)
      exact maybeTriggerCompaction_anchored compacted
  · obtain ⟨-, rfl⟩ := Prod.mk.inj (Except.ok.inj done)
    exact .refl db

/-! ### The model of a turn -/

theorem lastLog_mem {t : Nat} {log : LogRow} (last : lastLog db t = some log) : log ∈ db.logs := by
  have listed := List.mem_of_mem_head? (Option.mem_def.mpr last)
  exact (List.mem_filter.mp (List.mem_filter.mp ((List.mem_insertionSort _).mp listed)).1).1

theorem knownOverride_iff {override : Override} :
    knownOverride db override = true ↔
      (∀ id, override.procedureFunctionId = some id → (db.functions.get? id).isSome) ∧
      (∀ id, override.procedureId = some id → (db.procedures.get? id).isSome) ∧
      ∀ id, override.experimentId = some id → (db.experiments.get? id).isSome := by
  unfold knownOverride
  rw [Bool.and_eq_true, Bool.and_eq_true, and_assoc]
  simp only [Option.all_eq_true]

theorem freshOverride_known {t functionId : Nat} {procedureId : Option Nat}
    (function : (db.functions.get? functionId).isSome)
    (procedure : ∀ id, procedureId = some id → (db.procedures.get? id).isSome) :
    knownOverride db (freshOverride env db t functionId procedureId) = true := by
  rw [knownOverride_iff]
  unfold freshOverride
  dsimp only
  split
  · rename_i experimentId experiment chosen
    have running := (Table.find?_some chosen).1
    split
    · refine ⟨fun id own => ?_, procedure, fun id own => ?_⟩
      · rw [← Option.some.inj own]
        exact function
      · rw [← Option.some.inj own, running]
        rfl
    · refine ⟨fun id own => ?_, procedure, fun id no => (by cases no)⟩
      rw [← Option.some.inj own]
      exact function
  · refine ⟨fun id own => ?_, procedure, fun id no => (by cases no)⟩
    rw [← Option.some.inj own]
    exact function

theorem resolveOverride_known {t : Nat} {task : TaskRow} {override : Override} (named : Referenced db task)
    (done : resolveOverride env db t task = .ok (override, db')) :
    knownOverride db override = true ∧ Anchored db db' := by
  unfold resolveOverride at done
  split at done
  · obtain ⟨rfl, rfl⟩ := Prod.mk.inj (Except.ok.inj done)
    exact ⟨rfl, .refl db⟩
  · rename_i log last
    obtain ⟨last, role⟩ := Option.filter_eq_some_iff.mp last
    have role : log.role = .function := by simpa using role
    have member := lastLog_mem last
    split at done
    · cases done
    · rename_i functionId castFunction
      split at done
      · cases done
      · rename_i procedureId castProcedure
        have procedure : ∀ id, procedureId = some id → (db.procedures.get? id).isSome := by
          rintro id rfl
          exact named.procedure log member role id castProcedure
        split at done
        · obtain ⟨rfl, rfl⟩ := Prod.mk.inj (Except.ok.inj done)
          rw [knownOverride_iff]
          exact ⟨⟨fun _ no => (by cases no), procedure, fun _ no => (by cases no)⟩, .refl db⟩
        · rename_i functionId
          have function := named.function log member role functionId castFunction
          have fresh : knownOverride db (freshOverride env db t functionId procedureId) = true :=
            freshOverride_known function procedure
          dsimp only at done
          split at done
          · obtain ⟨rfl, rfl⟩ := Prod.mk.inj (Except.ok.inj done)
            exact ⟨fresh, updateTask_anchored t _⟩
          · rename_i state held
            split at done
            · cases done
            · split at done
              · split at done
                · cases done
                · rename_i again thawed
                  obtain ⟨rfl, rfl⟩ := Prod.mk.inj (Except.ok.inj done)
                  refine ⟨?_, .refl db⟩
                  unfold frozenOverride at thawed
                  split at thawed
                  · cases thawed
                  · rename_i experimentId castExperiment
                    obtain rfl := Except.ok.inj thawed
                    rw [knownOverride_iff]
                    refine ⟨fun id own => ?_, procedure, fun id own => ?_⟩
                    · rw [← Option.some.inj own]
                      exact function
                    · have kept := (Option.filter_eq_some_iff.mp held).1
                      exact named.frozen state kept id (castExperiment.trans (congrArg Except.ok own))
              · obtain ⟨rfl, rfl⟩ := Prod.mk.inj (Except.ok.inj done)
                exact ⟨fresh, updateTask_anchored t _⟩

theorem prepareTurn_known {t : Nat} {task : TaskRow} {policy : PolicyRow} {next : NextStep}
    (named : Referenced db task) (done : prepareTurn env db t task policy = .ok (next, db')) :
    (∀ spec, next = .callLlm spec → knownOverride db' spec.override = true) ∧ Anchored db db' := by
  unfold prepareTurn at done
  dsimp only at done
  split at done
  · cases done
  · rename_i talked
    have touched : Anchored db (touchMemories env db (recalledMemories env db task.agentId)) :=
      ⟨rfl, rfl, rfl, fun _ member _ => member⟩
    have before := touched.trans (conversation_anchored talked)
    split at done
    · cases done
    · rename_i resolved
      obtain ⟨rfl, rfl⟩ := Prod.mk.inj (Except.ok.inj done)
      obtain ⟨known, stored⟩ := resolveOverride_known (named.after before) resolved
      refine ⟨?_, before.trans stored⟩
      intro spec asked
      obtain rfl := NextStep.callLlm.inj asked
      rw [stored.knownOverride]
      exact known

theorem fnNextStep_known {t : Nat} {task : TaskRow} {next : NextStep} (found : db.tasks.get? t = some task)
    (named : Referenced db task) (done : fnNextStep env db t = .ok (next, db')) :
    (∀ spec, next = .callLlm spec → knownOverride db' spec.override = true) ∧ Anchored db db' := by
  unfold fnNextStep at done
  rw [found] at done
  dsimp only at done
  have started : Anchored db (startTask env db t task) := startTask_anchored t task
  have failed (error : String) (content : List (String × Json)) :
      Anchored db (failTask env (startTask env db t task) t task error content) :=
    started.trans (failTask_anchored t task error content)
  split at done
  · cases done
  · split at done
    · obtain ⟨rfl, rfl⟩ := Prod.mk.inj (Except.ok.inj done)
      exact ⟨fun _ ended => (by cases ended), failed _ _⟩
    · split at done
      · cases done
      · split at done
        · obtain ⟨rfl, rfl⟩ := Prod.mk.inj (Except.ok.inj done)
          exact ⟨fun _ ended => (by cases ended), failed _ _⟩
        · obtain ⟨known, prepared⟩ := prepareTurn_known (named.after started) done
          exact ⟨known, started.trans prepared⟩

/-! ### One task of a dispatch -/

theorem buildLlmHttp_override {spec : LlmSpec} {http : LlmHttp} (built : buildLlmHttp env db spec = .ok http) :
    http.override = spec.override := by
  unfold buildLlmHttp at built
  split at built
  · cases built
  · split at built
    · cases built
    · split at built
      · cases built
      · dsimp only at built
        split at built
        · cases built
        · split at built
          all_goals
            split at built
            · cases built
            · obtain rfl := Except.ok.inj built
              rfl

theorem dispatchTask_anchored {t : Nat} {task : TaskRow} {agentId : Nat} {call : Option Nat}
    (found : db.tasks.get? t = some task) (named : Referenced db task)
    (done : dispatchTask env db t agentId = .ok (call, db')) : Anchored db db' := by
  unfold dispatchTask at done
  split at done
  · obtain ⟨-, rfl⟩ := Prod.mk.inj (Except.ok.inj done)
    exact .refl db
  · split at done
    · obtain ⟨-, rfl⟩ := Prod.mk.inj (Except.ok.inj done)
      unfold reportFailure
      split
      · exact .refl db
      · rename_i reported
        exact fnSubmitResult_error_anchored reported
    · rename_i stepped
      obtain ⟨-, rfl⟩ := Prod.mk.inj (Except.ok.inj done)
      exact (fnNextStep_known found named stepped).2
    · rename_i spec asked stepped
      have anchored := (fnNextStep_known found named stepped).2
      split at done
      · split at done
        · cases done
        · rename_i reported
          obtain ⟨-, rfl⟩ := Prod.mk.inj (Except.ok.inj done)
          exact anchored.trans (fnSubmitResult_error_anchored reported)
      · split at done
        · obtain ⟨-, rfl⟩ := Prod.mk.inj (Except.ok.inj done)
          exact anchored.trans ⟨rfl, rfl, rfl, fun _ member _ => member⟩
        · cases done

/-- A dispatch never fails on a task whose references exist. -/
theorem dispatchTask_returns (env : Env) {t : Nat} {task : TaskRow} (agentId : Nat)
    (found : db.tasks.get? t = some task) (named : Referenced db task) :
    ∃ call db', dispatchTask env db t agentId = .ok (call, db') := by
  unfold dispatchTask
  split
  · exact ⟨_, _, rfl⟩
  · split
    · exact ⟨_, _, rfl⟩
    · exact ⟨_, _, rfl⟩
    · rename_i spec asked stepped
      split
      · -- The turn has just been prepared, so the task is running and accepts the error.
        rename_i error _
        obtain ⟨-, -, old, policy, -, -, -, now⟩ := fnNextStep_callLlm stepped
        obtain ⟨row, here, view⟩ := flow_task_some now
        have running : row.status = .running := congrArg TaskView.status view
        obtain ⟨reply, db', reported, -⟩ := fnSubmitResult_error env here running error
        rw [reported]
        exact ⟨_, _, rfl⟩
      · rename_i http built
        have known := (fnNextStep_known found named stepped).1 spec rfl
        rw [← buildLlmHttp_override built] at known
        rw [if_pos known]
        exact ⟨_, _, rfl⟩

end Allgres
