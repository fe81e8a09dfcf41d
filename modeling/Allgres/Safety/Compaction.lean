import Allgres.Lib.Ranked
import Allgres.Safety.Config

/-! When a session that has been compacted is left alone. -/

namespace Allgres

open Relational Jsonb Sql

variable {env later : Env} {db db' after : Db} {sessionId compactor : Nat} {taskIds : List Nat} {agent : AgentRow}
  {logs : List LogRow} {keep threshold : Int} {current : Option Time} {cutoff : Time}

def activeCompactor (db : Db) : Option (Nat × AgentRow) :=
  (db.agentNamed "session_compactor").filter fun agent => agent.2.isActive

/-- A number of the compactor's configuration, or its default. -/
def compactionDial (db : Db) (key : String) (default : Int) : Int :=
  match activeCompactor db with
  | none => default
  | some (_, agent) => ((castInt (agent.agentConfig.getText? key)).toOption.bind id).getD default

def thresholdOf (db : Db) : Int := compactionDial db "compaction_threshold" 60

def keepRecentOf (db : Db) : Int := compactionDial db "compaction_keep_recent" 10

/-- The logs that a trigger counts. -/
def countedLogs (db : Db) (sessionId : Nat) (taskIds : List Nat) : List LogRow :=
  visibleLogs db taskIds ((db.sessions.get? sessionId).bind SessionRow.compactedBefore)

/-- A compaction of the session is in flight. -/
def compacting (db : Db) (sessionId : Nat) : Bool :=
  db.sessions.exists? fun _ session => session.goal == "session_compact:" ++ uuidText sessionId && session.status == .opened

/-- What the trigger does once it can read its configuration. -/
theorem trigger_eq (chosen : activeCompactor db = some (compactor, agent)) {t k : Option Int}
    (first : castInt (agent.agentConfig.getText? "compaction_threshold") = .ok t)
    (second : castInt (agent.agentConfig.getText? "compaction_keep_recent") = .ok k) :
    maybeTriggerCompaction env db sessionId taskIds =
      if ((countedLogs db sessionId taskIds).length : Int) ≤ thresholdOf db then .ok db
      else if compacting db sessionId = true then .ok db
      else match compactionCutoff env (countedLogs db sessionId taskIds) (keepRecentOf db) with
        | none => .ok db
        | some cutoff => startCompaction env db sessionId compactor (countedLogs db sessionId taskIds)
            ((db.sessions.get? sessionId).bind SessionRow.compactedBefore) cutoff := by
  have low : thresholdOf db = t.getD 60 := by
    rw [thresholdOf, compactionDial, chosen]
    simp only [first]
    rfl
  have few : keepRecentOf db = k.getD 10 := by
    rw [keepRecentOf, compactionDial, chosen]
    simp only [second]
    rfl
  have filtered : (db.agentNamed "session_compactor").filter (fun agent => agent.2.isActive) = some (compactor, agent) := chosen
  rw [maybeTriggerCompaction, filtered, low, few]
  simp only [first, second]
  rfl

/-- A call that can change anything reads an active compactor's configuration. -/
theorem trigger_reads (called : maybeTriggerCompaction env db sessionId taskIds = .ok db') (queued : db' ≠ db) :
    ∃ compactor agent t k, activeCompactor db = some (compactor, agent) ∧
      castInt (agent.agentConfig.getText? "compaction_threshold") = .ok t ∧
      castInt (agent.agentConfig.getText? "compaction_keep_recent") = .ok k := by
  unfold maybeTriggerCompaction at called
  split at called
  · exact absurd (Except.ok.inj called).symm queued
  next compactor agent chosen =>
    split at called
    · cases called
    next t first =>
      split at called
      · cases called
      next k second => exact ⟨compactor, agent, t, k, chosen, first, second⟩

/-- The compaction itself does not fail, and records its cut-off in the compactor's task. -/
theorem startCompaction_starts (env : Env) (sessionId : Nat) (logs : List LogRow) (current : Option Time) (cutoff : Time)
    (chosen : activeCompactor db = some (compactor, agent)) :
    ∃ db' task, startCompaction env db sessionId compactor logs current cutoff = .ok db' ∧ db' ≠ db ∧
      db'.tasks.get? db.tasks.next = some task ∧
      task.input = .build [("target_session_id", idJson sessionId), ("compact_cutoff", .str (env.pg.timestamptzOut cutoff))] := by
  obtain ⟨named, active⟩ := Option.filter_eq_some_iff.mp chosen
  obtain ⟨found, -⟩ := Table.find?_some named
  have active : db.isActiveAgent compactor = true := by
    rw [Db.isActiveAgent, found]
    exact active
  have letter : 's' ∈ ("session_compact:" ++ uuidText sessionId).toList := by
    rw [String.toList_append, List.mem_append]
    exact .inl (by decide)
  obtain ⟨created, opened⟩ := @fnCreateSession_ok env db compactor _ 's' letter (by decide) active
  have newest := fnCreateSession_taskId opened
  obtain ⟨session, row, log, -, -, -, -, -, -, core⟩ := fnCreateSession_core opened
  have tasks : created.db.tasks = db.tasks.insert row := congrArg Core.tasks core
  have here : created.db.tasks.get? created.taskId = some row := by
    rw [tasks, newest, Table.get?_insert_next]
  let input := Json.build [("target_session_id", idJson sessionId),
    ("compact_cutoff", .str (env.pg.timestamptzOut cutoff))]
  have given : (created.db.updateTask env created.taskId fun task => { task with input := input }).tasks.get?
      created.taskId = some _ := (get?_updateTask _ here created.taskId).trans (if_pos rfl)
  have apart {started : Db} {task : TaskRow} (there : started.tasks.get? created.taskId = some task) : started ≠ db := by
    rintro rfl
    rw [newest, Table.get?_next] at there
    cases there
  unfold startCompaction
  rw [opened]
  refine ⟨_, { row with input := input, updatedAt := env.now }, rfl, apart given, ?_, rfl⟩
  rw [← newest]
  exact given

/-- What the compaction leaves alone: the agents and the other tasks' logs. -/
theorem startCompaction_frame (done : startCompaction env db sessionId compactor logs current cutoff = .ok db') :
    db'.agents = db.agents ∧ (∃ session, db'.sessions = db.sessions.insert session) ∧
      ∃ more, db'.logs = db.logs ++ more ∧ ∀ log ∈ more, log.taskId = db.tasks.next := by
  unfold startCompaction at done
  dsimp only at done
  split at done
  · cases done
  next created opened =>
    obtain rfl := Except.ok.inj done
    unfold fnCreateSession at opened
    split_ifs at opened
    obtain rfl := Except.ok.inj opened
    simp only [Db.appendLog, openTurn, Db.insertTask, Db.updateTask, Table.get?_insert_next]
    refine ⟨trivial, ⟨_, rfl⟩, _, List.append_assoc _ _ _, ?_⟩
    simp

/-! ### The cut-off -/

theorem newestFirst_perm (logs : List LogRow) : (newestFirst logs).Perm logs := List.perm_insertionSort _ _

theorem newestFirst_sorted (logs : List LogRow) : (newestFirst logs).Pairwise fun a b => b.createdAt ≤ a.createdAt :=
  pairwise_score (fun _ _ => Iff.rfl) logs

/-- The cut-off leaves the row in view: for a positive number of rows to be kept, fewer than
this number of the counted rows are newer than it. -/
def staysInView (env : Env) (keep : Int) (logs : List LogRow) (log : LogRow) : Bool :=
  if keep ≤ 0 then decide (env.clock ≤ log.createdAt)
  else decide (((logs.countP fun other => decide (log.createdAt < other.createdAt)) : Int) < keep)

theorem cutoff_le_iff (chosen : compactionCutoff env logs keep = some cutoff) (log : LogRow) :
    cutoff ≤ log.createdAt ↔ staysInView env keep logs log = true := by
  unfold compactionCutoff at chosen
  unfold staysInView
  split_ifs at chosen ⊢ with none
  · obtain rfl := Option.some.inj chosen
    exact decide_eq_true_iff.symm
  · obtain ⟨last, nth, rfl⟩ := Option.map_eq_some_iff.mp chosen
    have place := nth_score_le (newestFirst_sorted logs) nth log.createdAt
    rw [(newestFirst_perm logs).countP_eq] at place
    rw [place, decide_eq_true_iff]
    omega

/-- With what the cut-off leaves in view there is a next cut-off. -/
theorem cutoff_again (later : Env) (chosen : compactionCutoff env logs keep = some cutoff) {left : List LogRow}
    (kept : (logs.countP fun log => decide (cutoff ≤ log.createdAt)) ≤ left.length) :
    ∃ next, compactionCutoff later left keep = some next := by
  unfold compactionCutoff at chosen ⊢
  split_ifs at chosen ⊢ with none
  · exact ⟨_, rfl⟩
  · obtain ⟨last, nth, rfl⟩ := Option.map_eq_some_iff.mp chosen
    have enough := nth_score_count (newestFirst_sorted logs) nth
    rw [(newestFirst_perm logs).countP_eq] at enough
    rw [← (newestFirst_perm left).length_eq] at kept
    rw [List.getElem?_eq_getElem (Nat.lt_of_lt_of_le enough kept)]
    exact ⟨_, rfl⟩

/-! ### Once it has landed -/

/-- The compaction has landed: its cut-off is the session's, and the session's logs and the
compactor are as they were. -/
structure Landed (db after : Db) (sessionId : Nat) (taskIds : List Nat) (cutoff : Time) : Prop where
  moved : (after.sessions.get? sessionId).bind SessionRow.compactedBefore = some cutoff
  logs : visibleLogs after taskIds none = visibleLogs db taskIds none
  compactor : activeCompactor after = activeCompactor db

/-- The tables as a finished compactor leaves them: the cut-off is moved, its own session is over. -/
def finishCompaction (db : Db) (sessionId compaction : Nat) (cutoff : Time) : Db := { db with
  sessions := (db.sessions.modify sessionId fun session => { session with compactedBefore := some cutoff }).modify
    compaction fun session => { session with status := .completed } }

theorem finishCompaction_landed {session : SessionRow} (called : maybeTriggerCompaction env db sessionId taskIds = .ok db')
    (queued : db' ≠ db) (found : db.sessions.get? sessionId = some session) (known : ∀ t ∈ taskIds, t < db.tasks.next)
    (cutoff : Time) : Landed db (finishCompaction db' sessionId db.sessions.next cutoff) sessionId taskIds cutoff ∧
      compacting (finishCompaction db' sessionId db.sessions.next cutoff) sessionId = false := by
  obtain ⟨compactor, agent, t, k, chosen, first, second⟩ := trigger_reads called queued
  rw [trigger_eq chosen first second] at called
  split_ifs at called with few idle
  · exact absurd (Except.ok.inj called).symm queued
  · exact absurd (Except.ok.inj called).symm queued
  · split at called
    · exact absurd (Except.ok.inj called).symm queued
    · obtain ⟨agents, ⟨opened, sessions⟩, more, logs, own⟩ := startCompaction_frame called
      have below := Table.get?_lt_next found
      refine ⟨⟨?_, ?_, ?_⟩, ?_⟩
      · rw [finishCompaction, sessions, Table.get?_modify, if_neg (by omega), Table.get?_modify, if_pos rfl,
          Table.get?_insert_old _ found]
        rfl
      · have none : more.filter (fun log => taskIds.contains log.taskId && (none : Option Time).all fun time =>
            decide (time ≤ log.createdAt)) = [] := by
          refine List.filter_eq_nil_iff.mpr fun log inside listed => ?_
          rw [Bool.and_eq_true, own log inside] at listed
          have old := known _ (List.contains_iff_mem.mp listed.1)
          omega
        rw [visibleLogs, visibleLogs]
        change db'.logs.filter _ = _
        rw [logs, List.filter_append, none, List.append_nil]
      · rw [activeCompactor, activeCompactor, Db.agentNamed, Db.agentNamed]
        change (db'.agents.find? _).filter _ = _
        rw [agents]
      · rw [Bool.eq_false_iff]
        intro busy
        obtain ⟨key, row, there, flies⟩ := Table.exists?_eq_true.mp busy
        rw [Bool.and_eq_true, beq_iff_eq, beq_iff_eq] at flies
        rw [finishCompaction, sessions, Table.get?_modify] at there
        split_ifs at there with newest
        · obtain ⟨old, -, rfl⟩ := Option.map_eq_some_iff.mp there
          cases flies.2
        · -- An older session has the goal and the status it had.
          rw [Table.get?_modify, Table.get?_insert, if_neg newest] at there
          have before : ∃ old, db.sessions.get? key = some old ∧ old.goal = row.goal ∧ old.status = row.status := by
            split_ifs at there
            · obtain ⟨old, held, rfl⟩ := Option.map_eq_some_iff.mp there
              exact ⟨old, held, rfl, rfl⟩
            · exact ⟨row, there, rfl, rfl⟩
          obtain ⟨old, held, goal, status⟩ := before
          refine idle (Table.exists?_eq_true.mpr ⟨key, old, held, ?_⟩)
          rw [goal, status, flies.1, flies.2]
          simp

/-- A call that returns has queued no compaction. -/
def QueuesNothing (env : Env) (db : Db) (sessionId : Nat) (taskIds : List Nat) : Prop :=
  ∀ db', maybeTriggerCompaction env db sessionId taskIds = .ok db' → db' = db

/-- The session's rows that stay in view. -/
def rowsInView (env : Env) (db : Db) (sessionId : Nat) (taskIds : List Nat) : Nat :=
  (visibleLogs db taskIds none).countP (staysInView env (keepRecentOf db) (countedLogs db sessionId taskIds))

theorem visibleLogs_cutoff (db : Db) (taskIds : List Nat) (cutoff : Time) :
    visibleLogs db taskIds (some cutoff) = (visibleLogs db taskIds none).filter fun log => decide (cutoff ≤ log.createdAt) := by
  simp [visibleLogs, List.filter_filter, Bool.and_comm]

theorem countedLogs_sublist (db : Db) (sessionId : Nat) (taskIds : List Nat) :
    (countedLogs db sessionId taskIds).Sublist (visibleLogs db taskIds none) := by
  refine List.monotone_filter_right db.logs fun log counted => ?_
  rw [Bool.and_eq_true] at counted ⊢
  exact ⟨counted.1, rfl⟩

theorem Landed.counted (landed : Landed db after sessionId taskIds cutoff) :
    (countedLogs after sessionId taskIds).length = (visibleLogs db taskIds none).countP fun log => decide (cutoff ≤ log.createdAt) := by
  rw [countedLogs, landed.moved, visibleLogs_cutoff, landed.logs, List.countP_eq_length_filter]

theorem Landed.dial (landed : Landed db after sessionId taskIds cutoff) (key : String) (default : Int) :
    compactionDial after key default = compactionDial db key default := by
  rw [compactionDial, landed.compactor, compactionDial]

/-- What a trigger that queues something decides. -/
theorem trigger_queues (called : maybeTriggerCompaction env db sessionId taskIds = .ok db') (queued : db' ≠ db) :
    ∃ cutoff, compactionCutoff env (countedLogs db sessionId taskIds) (keepRecentOf db) = some cutoff ∧
      ∃ task, db'.tasks.get? db.tasks.next = some task ∧
        task.input = .build [("target_session_id", idJson sessionId), ("compact_cutoff", .str (env.pg.timestamptzOut cutoff))] := by
  obtain ⟨compactor, agent, t, k, chosen, first, second⟩ := trigger_reads called queued
  rw [trigger_eq chosen first second] at called
  split_ifs at called
  · exact absurd (Except.ok.inj called).symm queued
  · exact absurd (Except.ok.inj called).symm queued
  · split at called
    · exact absurd (Except.ok.inj called).symm queued
    next cutoff cut =>
      obtain ⟨started, task, starts, -, found, input⟩ := startCompaction_starts env sessionId
        (countedLogs db sessionId taskIds) ((db.sessions.get? sessionId).bind SessionRow.compactedBefore) cutoff chosen
      obtain rfl := Except.ok.inj (starts.symm.trans called)
      exact ⟨cutoff, cut, task, found, input⟩

theorem landed_quiet_iff (called : maybeTriggerCompaction env db sessionId taskIds = .ok db') (queued : db' ≠ db)
    (cut : compactionCutoff env (countedLogs db sessionId taskIds) (keepRecentOf db) = some cutoff)
    (landed : Landed db after sessionId taskIds cutoff) :
    QueuesNothing later after sessionId taskIds ↔
      compacting after sessionId = true ∨ (rowsInView env db sessionId taskIds : Int) ≤ thresholdOf db := by
  obtain ⟨compactor, agent, t, k, chosen, first, second⟩ := trigger_reads called queued
  have still : activeCompactor after = some (compactor, agent) := landed.compactor.trans chosen
  have count : (countedLogs after sessionId taskIds).length = rowsInView env db sessionId taskIds := by
    rw [landed.counted, rowsInView]
    refine List.countP_congr fun log _ => ?_
    rw [decide_eq_true_iff]
    exact cutoff_le_iff cut log
  have within : ((countedLogs db sessionId taskIds).countP fun log => decide (cutoff ≤ log.createdAt)) ≤
      (countedLogs after sessionId taskIds).length := by
    rw [landed.counted]
    exact (countedLogs_sublist db sessionId taskIds).countP_le
  obtain ⟨next, again⟩ := cutoff_again later cut within
  rw [QueuesNothing, trigger_eq still first second, count, thresholdOf, landed.dial, keepRecentOf, landed.dial]
  rw [keepRecentOf] at again
  rw [again]
  obtain ⟨started, task, starts, differs, -, -⟩ := startCompaction_starts later sessionId
    (countedLogs after sessionId taskIds) ((after.sessions.get? sessionId).bind SessionRow.compactedBefore) next still
  dsimp only
  rw [starts, ← thresholdOf]
  split_ifs with few busy
  · exact iff_of_true (fun db' same => (Except.ok.inj same).symm) (.inr few)
  · exact iff_of_true (fun db' same => (Except.ok.inj same).symm) (.inl busy)
  · refine iff_of_false (fun quiet => differs (quiet started rfl)) ?_
    rintro (busy' | few')
    · exact busy busy'
    · exact few few'

/-- A compaction that has landed is the last one on its log where the next one is still in
flight, or where no more rows than the threshold stay in view: those that fewer than
`compaction_keep_recent` of the counted rows are newer than (all rows that come after the
call, where nothing is to be kept). -/
theorem compaction_quiesces_iff (env : Env) (db db' : Db) (sessionId : Nat) (taskIds : List Nat)
    (called : maybeTriggerCompaction env db sessionId taskIds = .ok db') (queued : db' ≠ db) :
    ∃ cutoff task, db'.tasks.get? db.tasks.next = some task ∧
      task.input = .build [("target_session_id", idJson sessionId), ("compact_cutoff", .str (env.pg.timestamptzOut cutoff))] ∧
      ∀ later after, Landed db after sessionId taskIds cutoff →
        (QueuesNothing later after sessionId taskIds ↔
          compacting after sessionId = true ∨ (rowsInView env db sessionId taskIds : Int) ≤ thresholdOf db) := by
  obtain ⟨cutoff, cut, task, found, input⟩ := trigger_queues called queued
  exact ⟨cutoff, task, found, input, fun later after landed => landed_quiet_iff called queued cut landed⟩

/-- One session with one task and three rows. -/
def tightDb (keep : Nat) : Db := { Db.empty with
  agents := (Table.empty.insert ⟨"helper", true, false, none, .auto, .emptyObj⟩).insert
    ⟨"session_compactor", true, true, none, .auto,
      .build [("compaction_threshold", .ofNat 1), ("compaction_keep_recent", .ofNat keep)]⟩
  sessions := Table.empty.insert ⟨0, "sum up", .opened, none, 0, none, none, none, none⟩
  tasks := Table.empty.insert ⟨0, 0, none, .queued, 0, .emptyObj, none, none, 0, 0, none, 0, none, none⟩
  logs := [⟨0, 0, .user, .str "sum up", 1⟩, ⟨0, 1, .assistant, .str "a", 2⟩, ⟨0, 2, .assistant, .str "b", 3⟩] }

theorem tightDb_triggers (keep : Nat) (known : keep = 1 ∨ keep = 2) :
    ∃ db', maybeTriggerCompaction .bare (tightDb keep) 0 [0] = .ok db' ∧ db' ≠ tightDb keep := by
  obtain ⟨agent, chosen, t, first, k, second, many, idle, cutoff, cut⟩ :
      ∃ agent, activeCompactor (tightDb keep) = some (1, agent) ∧
        ∃ t, castInt (agent.agentConfig.getText? "compaction_threshold") = .ok t ∧
        ∃ k, castInt (agent.agentConfig.getText? "compaction_keep_recent") = .ok k ∧
        ¬ ((countedLogs (tightDb keep) 0 [0]).length : Int) ≤ thresholdOf (tightDb keep) ∧
        ¬ compacting (tightDb keep) 0 = true ∧
        ∃ cutoff, compactionCutoff .bare (countedLogs (tightDb keep) 0 [0]) (keepRecentOf (tightDb keep)) = some cutoff := by
    rcases known with rfl | rfl
    · exact ⟨_, rfl, some 1, by decide +kernel, some 1, by decide +kernel, by decide +kernel, by decide +kernel, 3, by decide +kernel⟩
    · exact ⟨_, rfl, some 1, by decide +kernel, some 2, by decide +kernel, by decide +kernel, by decide +kernel, 2, by decide +kernel⟩
  obtain ⟨db', -, starts, differs, -, -⟩ := startCompaction_starts .bare 0
    (countedLogs (tightDb keep) 0 [0]) (((tightDb keep).sessions.get? 0).bind SessionRow.compactedBefore) cutoff chosen
  refine ⟨db', ?_, differs⟩
  rw [trigger_eq chosen first second, if_neg many, if_neg idle, cut]
  exact starts

theorem compaction_quiesces_iff_tight :
    ∃ db', maybeTriggerCompaction .bare (tightDb 1) 0 [0] = .ok db' ∧
      ∃ cutoff task, db'.tasks.get? (tightDb 1).tasks.next = some task ∧
        task.input = .build [("target_session_id", idJson 0), ("compact_cutoff", .str (Env.bare.pg.timestamptzOut cutoff))] ∧
        ∀ later after, Landed (tightDb 1) after 0 [0] cutoff →
          (QueuesNothing later after 0 [0] ↔
            compacting after 0 = true ∨ (rowsInView .bare (tightDb 1) 0 [0] : Int) ≤ thresholdOf (tightDb 1)) := by
  obtain ⟨db', called, queued⟩ := tightDb_triggers 1 (.inl rfl)
  exact ⟨db', called, compaction_quiesces_iff .bare (tightDb 1) db' 0 [0] called queued⟩

/-- With a threshold of 1 and two rows to be kept, the compaction is queued again as soon as
it is through. -/
theorem not_compaction_quiesces : ¬ ∀ env db db' sessionId taskIds,
    (∀ compactor agent, activeCompactor db = some (compactor, agent) → validateAgentConfig agent.agentConfig = .ok ()) →
    maybeTriggerCompaction env db sessionId taskIds = .ok db' → db' ≠ db →
    ∀ cutoff task, db'.tasks.get? db.tasks.next = some task →
      task.input = .build [("target_session_id", idJson sessionId), ("compact_cutoff", .str (env.pg.timestamptzOut cutoff))] →
      ∀ later after, Landed db after sessionId taskIds cutoff → QueuesNothing later after sessionId taskIds := by
  intro claimed
  obtain ⟨db', called, queued⟩ := tightDb_triggers 2 (.inr rfl)
  obtain ⟨cutoff, cut, task, found, input⟩ := trigger_queues called queued
  obtain ⟨landed, idle⟩ := finishCompaction_landed called queued rfl (by decide) cutoff
  have valid : ∀ compactor agent, activeCompactor (tightDb 2) = some (compactor, agent) →
      validateAgentConfig agent.agentConfig = .ok () := by
    intro compactor agent chosen
    obtain ⟨-, rfl⟩ := Prod.mk.inj (Option.some.inj chosen)
    decide +kernel
  have quiet := claimed .bare (tightDb 2) db' 0 [0] valid called queued cutoff task found input .bare _ landed
  rcases (landed_quiet_iff called queued cut landed).mp quiet with busy | few
  · rw [idle] at busy
    cases busy
  · revert few
    decide +kernel

end Allgres
