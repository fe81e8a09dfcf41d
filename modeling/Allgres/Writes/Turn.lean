import Allgres.Writes.Submit
import Allgres.Refine.Dispatch

namespace Allgres

open Relational Jsonb Sql Runs

variable {env : Env} {db db' : Db}

/-- A turn may start its own task, before anything else is written. -/
def Stepping (db : Db) (t : Nat) : Mark → Core → Prop
  | .start other, σ => other = t ∧ σ = db.core
  | .turn, _ | .fire _, _ | .spawn _ _, _ | .remember _ _, _ | .bill _, _ => False
  | _, _ => True

theorem Stepping.of_calm {t : Nat} (mark : Mark) (σ : Core) (calm : Calm mark σ) : Stepping db t mark σ := by
  cases mark with
  | turn | fire | start | spawn | remember | bill => exact calm.elim
  | _ => trivial

/-! ### New sessions -/

theorem isActiveAgent_known {agentId : Nat} (active : db.isActiveAgent agentId = true) :
    (db.agents.get? agentId).isSome := by
  unfold Db.isActiveAgent at active
  rcases found : db.agents.get? agentId with _ | row
  · rw [found] at active
    cases active
  · rfl

/-- A session may be opened for the given schedule, if any. -/
def Opening (schedule : Option Nat) : Mark → Core → Prop
  | .fire id, _ => schedule = some id
  | .turn, _ | .start _, _ | .spawn _ _, _ | .remember _ _, _ | .bill _, _ => False
  | _, _ => True

theorem fnCreateSession_core {agentId : Nat} {goal : Option String} {projectId scheduleId : Option Nat}
    {created : Created} (done : fnCreateSession env db agentId goal projectId scheduleId = .ok created) :
    ∃ session row log, row.sessionId = db.sessions.next ∧ session.status = .opened ∧
      session.compactedBefore = none ∧ session.scheduleId = scheduleId ∧ Opened env db.agents row ∧ created.taskId = db.tasks.next ∧
      created.db.core = { db.core with
        sessions := db.sessions.insert session
        tasks := db.tasks.insert row
        logs := db.logs ++ [log] } := by
  unfold fnCreateSession at done
  split_ifs at done with _ active
  obtain rfl := Except.ok.inj done
  rw [Bool.not_eq_true', Bool.not_eq_false] at active
  exact ⟨_, _, _, rfl, rfl, rfl, rfl, ⟨rfl, rfl, rfl, isActiveAgent_known active, rfl, rfl⟩, rfl, rfl⟩

theorem writes_fnCreateSession {agentId : Nat} {goal : Option String} {projectId scheduleId : Option Nat}
    {created : Created} (done : fnCreateSession env db agentId goal projectId scheduleId = .ok created) :
    Writes env (Opening scheduleId) db.core created.db.core := by
  obtain ⟨session, row, log, belongs, fresh, cut, rfl, opened, -, core⟩ := fnCreateSession_core done
  have first : Writes env (Opening session.scheduleId) db.core { db.core with
      tasks := db.tasks.insert row
      sessions := db.sessions.insert session } := by
    refine .single (.openTask row opened (.session session belongs fresh cut)) ?_
    cases session.scheduleId with
    | none => trivial
    | some schedule => rfl
  rw [core]
  exact first.trans (.single (.log log) trivial)

/-! ### Compaction -/

theorem writes_startCompaction {s compactor : Nat} {logs : List LogRow} {current : Option Time} {cutoff : Time}
    (done : startCompaction env db s compactor logs current cutoff = .ok db') :
    Writes env Calm db.core db'.core := by
  unfold startCompaction at done
  dsimp only at done
  split at done
  · cases done
  · rename_i created made
    obtain rfl := Except.ok.inj done
    obtain ⟨session, row, log, belongs, fresh, cut, unscheduled, opened, newest, core⟩ := fnCreateSession_core made
    have found : created.db.tasks.get? created.taskId = some row := by
      rw [show created.db.tasks = db.tasks.insert row from congrArg Core.tasks core, newest, Table.get?_insert_next]
    have given := @core_updateTask env created.db created.taskId row (fun task => { task with
      input := .build [("target_session_id", idJson s), ("compact_cutoff", .str (env.pg.timestamptzOut cutoff))] }) found
    -- The new task may as well be inserted with the input that it is given at once.
    rw [newest, show created.db.tasks = db.tasks.insert row from congrArg Core.tasks core, Table.modify_insert_next,
      core] at given
    let given' : TaskRow := { row with
      input := .build [("target_session_id", idJson s), ("compact_cutoff", .str (env.pg.timestamptzOut cutoff))]
      updatedAt := env.now }
    have first : Writes env Calm db.core { db.core with
        tasks := db.tasks.insert given'
        sessions := db.sessions.insert session } :=
      .single (.openTask given' ⟨opened.root, opened.shallow, opened.queued, opened.known, opened.created, rfl⟩
        (.session session belongs fresh cut)) (by rw [unscheduled]; trivial)
    have second := first.trans (.single (.log log) trivial)
    rw [newest]
    refine .trans ?_ (writes_log _ _ _ _)
    rw [given]
    exact second

theorem writes_maybeTriggerCompaction {s : Nat} {taskIds : List Nat}
    (done : maybeTriggerCompaction env db s taskIds = .ok db') : Writes env Calm db.core db'.core := by
  have unchanged (same : (Except.ok db : Except String Db) = .ok db') : Writes env Calm db.core db'.core := by
    obtain rfl := Except.ok.inj same
    exact .refl
  unfold maybeTriggerCompaction at done
  split at done
  · exact unchanged done
  · split at done
    · cases done
    · split at done
      · cases done
      · dsimp only at done
        split_ifs at done
        · exact unchanged done
        · exact unchanged done
        · split at done
          · exact unchanged done
          · exact writes_startCompaction done

/-! ### `fn_next_step` -/

theorem writes_conversation {t : Nat} {task : TaskRow} {taskIds : List Nat}
    (done : conversation env db t task = .ok (taskIds, db')) : Writes env Calm db.core db'.core := by
  unfold conversation at done
  dsimp only at done
  split at done
  · split at done
    · cases done
    · rename_i compacted
      obtain ⟨-, rfl⟩ := Prod.mk.inj (Except.ok.inj done)
      exact writes_maybeTriggerCompaction compacted
  · obtain ⟨-, rfl⟩ := Prod.mk.inj (Except.ok.inj done)
    exact .refl

theorem writes_resolveOverride {t : Nat} {task row : TaskRow} {override : Override}
    (found : db.tasks.get? t = some row) (live : row.status.terminal = false)
    (done : resolveOverride env db t task = .ok (override, db')) : Writes env Calm db.core db'.core := by
  have stored (state : Json) : Writes env Calm db.core (db.updateTask env t fun row =>
      { row with functionOverrideState := some state }).core :=
    writes_task _ found ⟨rfl, rfl, rfl, rfl, rfl, rfl⟩ live (.stay rfl) trivial
  have same {db' : Db} (left : db = db') : Writes env Calm db.core db'.core := by
    subst left
    exact .refl
  unfold resolveOverride at done
  split at done
  · exact same (Prod.mk.inj (Except.ok.inj done)).2
  · split at done
    · cases done
    · split at done
      · cases done
      · split at done
        · exact same (Prod.mk.inj (Except.ok.inj done)).2
        · dsimp only at done
          split at done
          · obtain ⟨-, rfl⟩ := Prod.mk.inj (Except.ok.inj done)
            exact stored _
          · split at done
            · cases done
            · split at done
              · split at done
                · cases done
                · exact same (Prod.mk.inj (Except.ok.inj done)).2
              · obtain ⟨-, rfl⟩ := Prod.mk.inj (Except.ok.inj done)
                exact stored _

theorem writes_touchMemories (recalled : List (Nat × MemoryRow)) :
    Writes env Calm db.core (touchMemories env db recalled).core :=
  .single (.touch (fun memoryId _ => recalled.any fun memory => memory.1 == memoryId)
    (fun _ memory => { memory with lastAccessedAt := some env.now }) fun _ _ => ⟨rfl, rfl, rfl, rfl, rfl, rfl⟩) trivial

theorem writes_prepareTurn {t : Nat} {task row : TaskRow} {policy : PolicyRow} {next : NextStep}
    (found : db.tasks.get? t = some row) (live : row.status.terminal = false)
    (done : prepareTurn env db t task policy = .ok (next, db')) : Writes env Calm db.core db'.core := by
  unfold prepareTurn at done
  dsimp only at done
  split at done
  · cases done
  · rename_i talked
    split at done
    · cases done
    · rename_i resolved
      obtain ⟨-, rfl⟩ := Prod.mk.inj (Except.ok.inj done)
      have still := (conversation_path talked).2.rows t row trivial found
      exact ((writes_touchMemories _).trans (writes_conversation talked)).trans
        (writes_resolveOverride still live resolved)

/-- The task is running afterwards, if it was not running already. -/
theorem writes_startTask {t : Nat} {task : TaskRow} (found : db.tasks.get? t = some task)
    (runnable : task.status = .queued ∨ task.status = .running) :
    Writes env (Stepping db t) db.core (startTask env db t task).core ∧
      ∃ row, (startTask env db t task).tasks.get? t = some row ∧ row.status = .running := by
  unfold startTask
  split
  · rename_i queued
    constructor
    · refine writes_task _ found ⟨rfl, rfl, rfl, rfl, rfl, rfl⟩ ?_ (.start queued rfl) ⟨rfl, rfl⟩
      rw [queued]
      rfl
    · exact ⟨_, (get?_updateTask _ found t).trans (if_pos rfl), rfl⟩
  · rename_i started
    exact ⟨.refl, task, found, runnable.resolve_left started⟩

theorem writes_fnNextStep {t : Nat} {next : NextStep} (done : fnNextStep env db t = .ok (next, db')) :
    Writes env (Stepping db t) db.core db'.core := by
  unfold fnNextStep at done
  split at done
  · cases done
  · rename_i task found
    split at done
    · cases done
    · rename_i runnable
      have runnable : task.status = .queued ∨ task.status = .running := by
        by_contra neither
        exact runnable (not_or.mp neither)
      obtain ⟨started, row, now, running⟩ := @writes_startTask env db t task found runnable
      have live := live_of_running running
      dsimp only at done
      split at done
      · obtain ⟨-, rfl⟩ := Prod.mk.inj (Except.ok.inj done)
        exact started.trans ((writes_failTask now live).mono Stepping.of_calm)
      · split at done
        · cases done
        · split at done
          · obtain ⟨-, rfl⟩ := Prod.mk.inj (Except.ok.inj done)
            exact started.trans ((writes_failTask now live).mono Stepping.of_calm)
          · exact started.trans ((writes_prepareTurn now live done).mono Stepping.of_calm)

/-! ### `fn_dispatch_tasks` -/

/-- The other active tasks of the task's agent fill the agent's slots. -/
def Core.full (σ : Core) (t : Nat) (task : TaskRow) : Prop :=
  ∃ policy, policyIn σ.policies task.agentId = some policy ∧
    policy.maxConcurrentTasks ≤ σ.tasks.count fun other row =>
      row.agentId == task.agentId && other != t && row.status.active

/-- A dispatch starts a task only where the agent has a slot left. -/
def Slotted : Mark → Core → Prop
  | .start t, σ => ∃ task, σ.tasks.get? t = some task ∧ ¬ σ.full t task
  | .turn, _ | .fire _, _ | .spawn _ _, _ | .remember _ _, _ | .bill _, _ => False
  | _, _ => True

theorem Slotted.of_calm (mark : Mark) (σ : Core) (calm : Calm mark σ) : Slotted mark σ := by
  cases mark with
  | turn | fire | start | spawn | remember | bill => exact calm.elim
  | _ => trivial

theorem atCapacity_iff {t agentId : Nat} :
    atCapacity db t agentId = true ↔ ∃ policy, db.policyOf agentId = some policy ∧
      policy.maxConcurrentTasks ≤ db.tasks.count fun other row =>
        row.agentId == agentId && other != t && row.status.active := by
  have active (status : TaskStatus) : (status == .running || status == .waitingHuman || status == .waitingChildren) =
      status.active := by cases status <;> rfl
  simp only [atCapacity, active, Option.any_eq_true, decide_eq_true_eq]

theorem not_full_of_atCapacity {t : Nat} {task : TaskRow} (free : atCapacity db t task.agentId = false) :
    ¬ db.core.full t task := by
  rintro ⟨policy, known, crowded⟩
  rw [atCapacity_iff.mpr ⟨policy, known, crowded⟩] at free
  cases free

theorem errorPayload_calm (error : String) {t : Nat} :
    Submitting env db t (errorPayload error) = Calm := by
  unfold Submitting
  rw [errorPayload_type, if_neg (by decide)]

theorem writes_reported {t : Nat} {error : String} {reply : Json}
    (done : fnSubmitResult env db t (errorPayload error) = .ok (reply, db')) :
    Writes env Calm db.core db'.core := by
  have writes := writes_fnSubmitResult done
  rwa [errorPayload_calm] at writes

theorem Slotted.of_stepping {t : Nat} {task : TaskRow} (found : db.tasks.get? t = some task)
    (free : atCapacity db t task.agentId = false) (mark : Mark) (σ : Core) (stepping : Stepping db t mark σ) :
    Slotted mark σ := by
  cases mark with
  | start other =>
    obtain ⟨rfl, rfl⟩ := stepping
    exact ⟨task, found, not_full_of_atCapacity free⟩
  | turn | fire | spawn | remember | bill => exact stepping.elim
  | _ => trivial

/-- The request of a turn goes to an enabled provider. -/
theorem buildLlmHttp_trusted {spec : LlmSpec} {http : LlmHttp} (built : buildLlmHttp env db spec = .ok http) :
    ∃ provider, db.providers.get? http.providerId = some provider ∧ provider.isEnabled = true ∧
      Built env.pg provider.baseUrl http.url := by
  unfold buildLlmHttp at built
  split at built
  · cases built
  · split at built
    · cases built
    · rename_i id provider chosen
      obtain ⟨found, fits⟩ := Table.find?_some chosen
      rw [Bool.and_eq_true] at fits
      split at built
      · cases built
      · dsimp only at built
        split at built
        · cases built
        · rename_i checked
          split at built
          · split at built
            · cases built
            · obtain rfl := Except.ok.inj built
              exact ⟨provider, found, fits.2, .messages _ checked⟩
          · split at built
            · cases built
            · obtain rfl := Except.ok.inj built
              exact ⟨provider, found, fits.2, .chat _ checked⟩

theorem writes_queueLlm {t : Nat} {spec : LlmSpec} {http : LlmHttp} (found : (db.tasks.get? t).isSome)
    (built : buildLlmHttp env db spec = .ok http) : Writes env Calm db.core (queueLlm env db t http).core :=
  .single (.request (Db.newCall env t _) (fun _ => buildLlmHttp_trusted built) found rfl) trivial

/-- The task is still there after its turn. -/
theorem fnNextStep_found {t : Nat} {next : NextStep} (done : fnNextStep env db t = .ok (next, db')) :
    (db'.tasks.get? t).isSome := by
  have writes := writes_fnNextStep done
  unfold fnNextStep at done
  split at done
  · cases done
  · rename_i task found
    obtain ⟨after, there, -⟩ := writes.kin found
    exact Option.isSome_iff_exists.mpr ⟨after, there⟩

/-- A dispatched task takes its turn, unless its agent has no slot for it. -/
theorem stepping_dispatchTask {t agentId : Nat} {call : Option Nat}
    (done : dispatchTask env db t agentId = .ok (call, db')) :
    atCapacity db t agentId = true ∧ db' = db ∨
      atCapacity db t agentId = false ∧ Writes env (Stepping db t) db.core db'.core := by
  unfold dispatchTask at done
  split at done
  · rename_i crowded
    obtain ⟨-, rfl⟩ := Prod.mk.inj (Except.ok.inj done)
    exact .inl ⟨crowded, rfl⟩
  · rename_i free
    refine .inr ⟨by simpa using free, ?_⟩
    split at done
    · obtain ⟨-, rfl⟩ := Prod.mk.inj (Except.ok.inj done)
      unfold reportFailure
      split
      · exact .refl
      · rename_i reported
        exact (writes_reported reported).mono Stepping.of_calm
    · rename_i stepped
      obtain ⟨-, rfl⟩ := Prod.mk.inj (Except.ok.inj done)
      exact writes_fnNextStep stepped
    · rename_i spec asked stepped
      have turned : Writes env (Stepping db t) db.core asked.core := writes_fnNextStep stepped
      split at done
      · split at done
        · cases done
        · rename_i reported
          obtain ⟨-, rfl⟩ := Prod.mk.inj (Except.ok.inj done)
          exact turned.trans ((writes_reported reported).mono Stepping.of_calm)
      · rename_i http built
        split at done
        · obtain ⟨-, rfl⟩ := Prod.mk.inj (Except.ok.inj done)
          exact turned.trans ((writes_queueLlm (fnNextStep_found stepped) built).mono Stepping.of_calm)
        · cases done

theorem writes_dispatchTask {t : Nat} {task : TaskRow} {call : Option Nat} (found : db.tasks.get? t = some task)
    (done : dispatchTask env db t task.agentId = .ok (call, db')) : Writes env Slotted db.core db'.core := by
  rcases stepping_dispatchTask done with ⟨-, rfl⟩ | ⟨free, writes⟩
  · exact .refl
  · exact writes.mono (Slotted.of_stepping found free)

/-! ### The loop -/

theorem writes_dispatchLoop (pending : List (Nat × TaskRow)) (state : Dispatched) {out : Dispatched}
    (waits : ∀ entry ∈ pending, ∃ row, state.db.tasks.get? entry.1 = some row ∧ Kin entry.2 row)
    (done : dispatchLoop env pending state = .ok out) : Writes env Slotted state.db.core out.db.core := by
  induction pending generalizing state with
  | nil =>
    obtain rfl := Except.ok.inj done
    exact .refl
  | cons entry rest ih =>
    obtain ⟨t, task⟩ := entry
    obtain ⟨row, found, kin⟩ := waits (t, task) List.mem_cons_self
    have still {db' : Db} (writes : Writes env Slotted state.db.core db'.core) :
        ∀ other ∈ rest, ∃ row, db'.tasks.get? other.1 = some row ∧ Kin other.2 row := by
      intro other member
      obtain ⟨before, here, first⟩ := waits other (List.mem_cons_of_mem _ member)
      obtain ⟨after, there, second⟩ := writes.kin here
      exact ⟨after, there, first.trans second⟩
    have own : row.agentId = task.agentId := kin.agent
    simp only [dispatchLoop, ← own] at done
    split at done
    · cases done
    · rename_i passed
      have writes := writes_dispatchTask found passed
      exact writes.trans (ih _ (still writes) done)
    · rename_i passed
      have writes := writes_dispatchTask found passed
      split at done
      · obtain rfl := Except.ok.inj done
        exact writes
      · exact writes.trans (ih _ (still writes) done)

theorem writes_fnDispatchTasks {out : Dispatched} (done : fnDispatchTasks env db = .ok out) :
    Writes env Slotted db.core out.db.core := by
  refine writes_dispatchLoop (dispatchable db) ⟨[], db⟩ ?_ done
  intro entry member
  obtain ⟨found, -⟩ := Table.mem_select.mp ((List.mem_insertionSort _).mp member)
  exact ⟨entry.2, found, .refl entry.2⟩

end Allgres
