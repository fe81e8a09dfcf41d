import Allgres.Hidden.Submit
import Allgres.Watchdog

namespace Allgres

open Relational Jsonb Sql

variable {env : Env} {db : Db} {hidden : Hidden}

/-! ### `fn_next_step` -/

theorem cover_systemMessage (task : TaskRow) :
    systemMessage env (db.cover hidden) task = systemMessage env db task := by
  have preset : projectPreset (db.cover hidden) task.sessionId = projectPreset db task.sessionId := rfl
  have recalled : recalledMemories env (db.cover hidden) task.agentId = recalledMemories env db task.agentId := rfl
  have refs (type : ResourceType) : refsJson (db.cover hidden) task.agentId type = refsJson db task.agentId type := by
    simp only [refsJson, cover_agentPermissionRefs]
  have procedures : proceduresJson (db.cover hidden) task.agentId = proceduresJson db task.agentId := by
    simp only [proceduresJson, Db.cover_procedures, cover_grantsProcedure]
  have functions : functionBounds (db.cover hidden) task.agentId = functionBounds db task.agentId := by
    simp only [functionBounds, refs, boundFunctionsJson, boundFunctions, Db.cover_bindings, Db.cover_functions,
      Db.cover_procedures, cover_grantsProcedure]
  have prompt : agentEffectivePrompt (db.cover hidden) task.agentId = agentEffectivePrompt db task.agentId := by
    unfold agentEffectivePrompt
    rw [cover_chain]
    rfl
  simp only [systemMessage, preset, recalled, refs, procedures, functions, prompt]

theorem cover_startCompaction (s compactor : Nat) (logs : List LogRow) (current : Option Time) (cutoff : Time) :
    startCompaction env (db.cover hidden) s compactor logs current cutoff =
      (startCompaction env db s compactor logs current cutoff).map fun db => db.cover hidden := by
  have summary : latestSummary (db.cover hidden) compactor s = latestSummary db compactor s := rfl
  simp only [startCompaction, cover_fnCreateSession, summary]
  rcases fnCreateSession env db compactor (some ("session_compact:" ++ uuidText s)) none none with message | created
  · rfl
  · simp only [Except.map, Created.cover, cover_updateTask, cover_appendLog]

theorem cover_maybeTriggerCompaction (s : Nat) (taskIds : List Nat) :
    maybeTriggerCompaction env (db.cover hidden) s taskIds =
      (maybeTriggerCompaction env db s taskIds).map fun db => db.cover hidden := by
  have named : (db.cover hidden).agentNamed "session_compactor" = db.agentNamed "session_compactor" := rfl
  have visible (cutoff : Option Time) : visibleLogs (db.cover hidden) taskIds cutoff =
    visibleLogs db taskIds cutoff := rfl
  simp only [maybeTriggerCompaction, named, Db.cover_sessions, visible, cover_startCompaction]
  cases (db.agentNamed "session_compactor").filter fun agent => agent.2.isActive with
  | none => rfl
  | some named =>
    obtain ⟨compactor, agent⟩ := named
    simp only
    rcases castInt (agent.agentConfig.getText? "compaction_threshold") with message | threshold
    · rfl
    · simp only
      rcases castInt (agent.agentConfig.getText? "compaction_keep_recent") with message | keep
      · rfl
      · simp only
        split
        · rfl
        · split
          · rfl
          · rcases compactionCutoff env (visibleLogs db taskIds ((db.sessions.get? s).bind SessionRow.compactedBefore))
              (keep.getD 10) with _ | cutoff <;> rfl

theorem cover_conversation (t : Nat) (task : TaskRow) :
    conversation env (db.cover hidden) t task = (conversation env db t task).map (coverReply hidden) := by
  simp only [conversation, Db.cover_tasks, cover_maybeTriggerCompaction]
  split
  · rcases maybeTriggerCompaction env db task.sessionId ((db.tasks.select fun _ other =>
      other.sessionId == task.sessionId && other.parentTaskId.isNone).map Prod.fst) with message | after <;> rfl
  · rfl

theorem cover_resolveOverride (t : Nat) (task : TaskRow) :
    resolveOverride env (db.cover hidden) t task = (resolveOverride env db t task).map (coverReply hidden) := by
  have last : lastLog (db.cover hidden) t = lastLog db t := rfl
  have fresh (functionId : Nat) (procedureId : Option Nat) :
    freshOverride env (db.cover hidden) t functionId procedureId = freshOverride env db t functionId procedureId := rfl
  simp only [resolveOverride, last, fresh, Db.cover_logs, cover_updateTask]
  cases (lastLog db t).filter fun log => log.role == .function with
  | none => rfl
  | some log =>
    simp only
    rcases castUuid (log.content.getText? "procedure_function_id") with message | functionId
    · rfl
    · simp only
      rcases castUuid (log.content.getText? "procedure_id") with message | procedureId
      · rfl
      · rcases functionId with _ | functionId
        · rfl
        · simp only
          cases task.functionOverrideState.filter fun _ => db.logs.any fun other =>
            other.taskId == t && other.role == .error && decide (log.stepNumber < other.stepNumber) with
          | none => rfl
          | some state =>
            simp only
            rcases castOr "uuid" toUuid (state.getText? "procedure_function_id") with message | frozen
            · rfl
            · simp only
              split
              · rcases frozenOverride state functionId procedureId with message | override <;> rfl
              · rfl

theorem cover_prepareTurn (t : Nat) (task : TaskRow) (policy : PolicyRow) :
    prepareTurn env (db.cover hidden) t task policy =
      (prepareTurn env db t task policy).map (coverReply hidden) := by
  have touched : touchMemories env (db.cover hidden) (recalledMemories env (db.cover hidden) task.agentId) =
    (touchMemories env db (recalledMemories env db task.agentId)).cover hidden := rfl
  simp only [prepareTurn, cover_systemMessage, touched, cover_conversation]
  rcases conversation env (touchMemories env db (recalledMemories env db task.agentId)) t task with
    message | ⟨taskIds, after⟩
  · rfl
  · have summary (cutoff : Option Time) : summaryMessages (after.cover hidden) task.sessionId cutoff =
      summaryMessages after task.sessionId cutoff := rfl
    have logs (cutoff : Option Time) : logMessages (after.cover hidden) taskIds cutoff =
      logMessages after taskIds cutoff := rfl
    have input : inputMessages (after.cover hidden) t task = inputMessages after t task := rfl
    simp only [Except.map, coverReply, Db.cover_sessions, summary, logs, input, cover_resolveOverride]
    rcases resolveOverride env after t task with message | ⟨override, last⟩ <;> rfl

theorem cover_startTask (t : Nat) (task : TaskRow) :
    startTask env (db.cover hidden) t task = (startTask env db t task).cover hidden := by
  simp only [startTask, cover_updateTask]
  split <;> rfl

theorem cover_fnNextStep (t : Nat) :
    fnNextStep env (db.cover hidden) t = (fnNextStep env db t).map (coverReply hidden) := by
  have policy (db : Db) (agentId : Nat) : (db.cover hidden).policyOf agentId = db.policyOf agentId := rfl
  simp only [fnNextStep, Db.cover_tasks]
  rcases db.tasks.get? t with _ | task
  · rfl
  · simp only [cover_startTask, Db.cover_agents, policy, cover_failTask, cover_prepareTurn]
    split
    · rfl
    · rcases ((startTask env db t task).agents.get? task.agentId).filter AgentRow.isActive with _ | agent
      · rfl
      · simp only
        rcases (startTask env db t task).policyOf task.agentId with _ | policy
        · rfl
        · simp only
          split <;> rfl

/-! ### `fn_dispatch_tasks` -/

def Dispatched.cover (state : Dispatched) (hidden : Hidden) : Dispatched :=
  { state with db := state.db.cover hidden }

theorem cover_reportFailure (t : Nat) (error : String) :
    reportFailure env (db.cover hidden) t error = (reportFailure env db t error).cover hidden := by
  simp only [reportFailure, cover_fnSubmitResult]
  rcases fnSubmitResult env db t (errorPayload error) with message | ⟨reply, after⟩ <;> rfl

theorem cover_dispatchTask (t agentId : Nat) :
    dispatchTask env (db.cover hidden) t agentId = (dispatchTask env db t agentId).map (coverReply hidden) := by
  have capacity : atCapacity (db.cover hidden) t agentId = atCapacity db t agentId := rfl
  have http (db : Db) (spec : LlmSpec) : buildLlmHttp env (db.cover hidden) spec = buildLlmHttp env db spec := rfl
  have known (db : Db) (override : Override) : knownOverride (db.cover hidden) override = knownOverride db override :=
    rfl
  simp only [dispatchTask, capacity, cover_fnNextStep]
  split
  · rfl
  · rcases fnNextStep env db t with error | ⟨⟨reason⟩ | ⟨spec⟩, after⟩
    · simp only [Except.map, cover_reportFailure, coverReply]
    · rfl
    · simp only [Except.map, coverReply, http, cover_fnSubmitResult, known]
      rcases buildLlmHttp env after spec with error | request
      · simp only
        rcases fnSubmitResult env after t (errorPayload error) with message | ⟨reply, last⟩ <;> rfl
      · simp only
        split <;> rfl

theorem cover_dispatchLoop (tasks : List (Nat × TaskRow)) (state : Dispatched) :
    dispatchLoop env tasks (state.cover hidden) =
      (dispatchLoop env tasks state).map fun state => state.cover hidden := by
  induction tasks generalizing state with
  | nil => rfl
  | cons entry rest ih =>
    obtain ⟨t, task⟩ := entry
    simp only [dispatchLoop, Dispatched.cover, cover_dispatchTask]
    rcases dispatchTask env state.db t task.agentId with message | ⟨_ | call, after⟩
    · rfl
    · exact ih { state with db := after }
    · by_cases full : 4 ≤ (state.calls ++ [(call, t)]).length
      · simp only [Except.map, coverReply, full, ↓reduceIte]
      · simp only [Except.map, coverReply, full, ↓reduceIte]
        exact ih ⟨state.calls ++ [(call, t)], after⟩

theorem cover_fnDispatchTasks :
    fnDispatchTasks env (db.cover hidden) = (fnDispatchTasks env db).map fun state => state.cover hidden :=
  cover_dispatchLoop (dispatchable db) ⟨[], db⟩

theorem hidden_of_dispatch {out : Dispatched} (done : fnDispatchTasks env db = .ok out) :
    out.db.hidden = db.hidden := by
  have same := @cover_fnDispatchTasks env db db.hidden
  rw [cover_hidden, done] at same
  have covered : out = out.cover db.hidden := Except.ok.inj same
  rw [covered]
  rfl

/-! ### Handing a result to a task -/

theorem cover_submitFor (key : Queue × Nat) (t : Nat) (payload : Json) :
    submitFor env (db.cover hidden) key t payload = coverReply hidden (submitFor env db key t payload) := by
  have running : (db.cover hidden).isRunning t = db.isRunning t := rfl
  have marked := @cover_fnSubmitResult env { db with submits := db.submits ++ [key] } hidden t payload
  simp only [submitFor, running]
  split
  · rw [show ({ db.cover hidden with submits := (db.cover hidden).submits ++ [key] } : Db) =
      ({ db with submits := db.submits ++ [key] } : Db).cover hidden from rfl, marked]
    rcases fnSubmitResult env { db with submits := db.submits ++ [key] } t payload with
      message | ⟨reply, after⟩ <;> rfl
  · rfl

end Allgres
