import Allgres.Safety.Capacity
import Allgres.Safety.Forest

/-! What a task that waits for its children finds in its log. -/

namespace Allgres

open Relational Jsonb Sql Runs

variable {env : Env} {mark : Mark} {σ σ' : Core} {t : Nat}

/-! ### The rows of a write -/

/-- A write leaves a row alone or shifts it, and it shifts no terminal task. -/
theorem Write.shifts (write : Write env mark σ σ') {row : TaskRow} (found : σ.tasks.get? t = some row) :
    σ'.tasks.get? t = some row ∨
      ∃ new, σ'.tasks.get? t = some new ∧ row.status.terminal = false ∧ Shift σ t row new mark := by
  cases write with
  | @task _ _ u old _ new here kin live shift =>
    simp only [Table.get?_modify]
    by_cases same : t = u
    · subst same
      obtain rfl := Option.some.inj (found.symm.trans here)
      rw [if_pos rfl, found]
      exact .inr ⟨new, rfl, live, shift⟩
    · rw [if_neg same]
      exact .inl found
  | openTask new | spawn new => exact .inl (Table.get?_insert_old new found)
  | _ => exact .inl found

theorem Write.final (write : Write env mark σ σ') {row : TaskRow} (found : σ.tasks.get? t = some row)
    (ended : row.status.terminal = true) : σ'.tasks.get? t = some row := by
  rcases write.shifts found with same | ⟨new, -, live, -⟩
  · exact same
  · rw [ended] at live
    cases live

theorem Write.logs (write : Write env mark σ σ') {log : LogRow} (member : log ∈ σ.logs) : log ∈ σ'.logs := by
  cases write with
  | log row => exact List.mem_append_left _ member
  | _ => exact member

def Child (tasks : Table TaskRow) (t c : Nat) : Prop :=
  ∃ child, tasks.get? c = some child ∧ child.parentTaskId = some t

theorem child_origins {tasks : Table TaskRow} {c : Nat} :
    Child tasks t c ↔ ∃ origin, origins tasks c = some origin ∧ origin.parent = some t := by
  constructor
  · rintro ⟨child, found, up⟩
    exact ⟨child.origin, by rw [origins, found]; rfl, up⟩
  · rintro ⟨origin, found, up⟩
    obtain ⟨child, here, rfl⟩ := Option.map_eq_some_iff.mp found
    exact ⟨child, here, up⟩

theorem child_insert {tasks : Table TaskRow} {row : TaskRow} (other : row.parentTaskId ≠ some t) (c : Nat) :
    Child (tasks.insert row) t c ↔ Child tasks t c := by
  constructor
  · rintro ⟨child, found, up⟩
    rw [Table.get?_insert] at found
    split at found
    · obtain rfl := Option.some.inj found
      exact absurd up other
    · exact ⟨child, found, up⟩
  · rintro ⟨child, found, up⟩
    exact ⟨child, Table.get?_insert_old row found, up⟩

/-- Only a running task gets children. -/
theorem Write.children (write : Write env mark σ σ') {row : TaskRow} (found : σ.tasks.get? t = some row)
    (idle : row.status ≠ .running) (c : Nat) : Child σ'.tasks t c ↔ Child σ.tasks t c := by
  rcases write.grows with same | ⟨new, tasks, ⟨top, -⟩ | ⟨u, parent, -, born⟩⟩
  · rw [child_origins, child_origins, same]
  · rw [tasks]
    exact child_insert (by rw [top]; intro none; cases none) c
  · rw [tasks]
    refine child_insert ?_ c
    rw [born.above]
    intro own
    obtain rfl := Option.some.inj own
    obtain rfl := Option.some.inj (found.symm.trans born.found)
    exact idle born.running

/-! ### The report -/

/-- One entry of a `delegate_results` row: how the child ended. -/
def Outcome (tasks : Table TaskRow) (c : Nat) (entry : Json) : Prop :=
  ∃ child name, tasks.get? c = some child ∧ child.status.terminal = true ∧
    entry = .build [("agent", .str name), ("status", .str child.status.text),
      ("output", child.output.getD .null), ("error", .optStr child.error)]

/-- The log of the task has a `delegate_results` row with one entry for each of the children
it had at an earlier time. -/
def Delivered (earlier tasks : Table TaskRow) (logs : List LogRow) (t : Nat) : Prop :=
  ∃ log ∈ logs, log.taskId = t ∧ log.role = .function ∧ ∃ (children : List Nat) (entry : Nat → Json),
    log.content = .build [("delegate_results", .arr (children.map entry))] ∧ children.Nodup ∧
    (∀ c, c ∈ children ↔ Child earlier t c) ∧ ∀ c ∈ children, Outcome tasks c (entry c)

/-- Where the agents of the children exist, the report of a wake-up leaves none of them out. -/
theorem childReports_entries {tasks : Table TaskRow} {agents : Table AgentRow}
    (known : ∀ c child, tasks.get? c = some child → (agents.get? child.agentId).isSome)
    (ended : ∀ c child, tasks.get? c = some child → child.parentTaskId = some t → child.status.terminal = true) :
    ∃ (children : List Nat) (entry : Nat → Json), childReports tasks agents t = .arr (children.map entry) ∧
      children.Nodup ∧ (∀ c, c ∈ children ↔ Child tasks t c) ∧ ∀ c ∈ children, Outcome tasks c (entry c) := by
  let chosen := tasks.select fun _ child => child.parentTaskId == some t
  let sorted := chosen.insertionSort fun a b => a.2.createdAt ≤ b.2.createdAt
  have perm : sorted.Perm chosen := List.perm_insertionSort _ _
  have inside : ∀ entry ∈ sorted, tasks.get? entry.1 = some entry.2 ∧ entry.2.parentTaskId = some t := by
    intro entry member
    obtain ⟨found, up⟩ := Table.mem_select.mp (perm.mem_iff.mp member)
    exact ⟨found, by simpa using up⟩
  let entryOf (child : TaskRow) (agent : AgentRow) : Json :=
    .build [("agent", .str agent.name), ("status", .str child.status.text),
      ("output", child.output.getD .null), ("error", .optStr child.error)]
  let entry (c : Nat) : Json :=
    ((tasks.get? c).bind fun child => (agents.get? child.agentId).map (entryOf child)).getD .null
  refine ⟨sorted.map Prod.fst, entry, ?_, ?_, ?_, ?_⟩
  · have every : (sorted.filterMap fun child => (agents.get? child.2.agentId).map (entryOf child.2)) =
        (sorted.map Prod.fst).map entry := by
      rw [List.map_map]
      refine List.filterMap_eq_map_iff_forall_eq_some.mpr fun child member => ?_
      have found := (inside child member).1
      obtain ⟨agent, named⟩ := Option.isSome_iff_exists.mp (known child.1 child.2 found)
      simp [entry, found, named]
    exact congrArg Json.arr every
  · exact (perm.map Prod.fst).nodup_iff.mpr (Table.select_keys_nodup _ _)
  · intro c
    constructor
    · intro member
      obtain ⟨child, listed, rfl⟩ := List.mem_map.mp member
      exact ⟨child.2, inside child listed⟩
    · rintro ⟨child, found, up⟩
      have listed : (c, child) ∈ chosen := Table.mem_select.mpr ⟨found, by simpa using up⟩
      exact List.mem_map.mpr ⟨(c, child), perm.mem_iff.mpr listed, rfl⟩
  · intro c member
    obtain ⟨child, listed, rfl⟩ := List.mem_map.mp member
    obtain ⟨found, up⟩ := inside child listed
    obtain ⟨agent, named⟩ := Option.isSome_iff_exists.mp (known child.1 child.2 found)
    exact ⟨child.2, agent.name, found, ended child.1 child.2 found up, by simp [entry, entryOf, found, named]⟩

/-! ### Until the task goes on -/

/-- Once a task waits for its children it goes on waiting for the same ones, or has their
results, or is at its end. -/
inductive Attended (earlier : Table TaskRow) (t : Nat) (σ : Core) : Prop
  | waiting (row : TaskRow) : σ.tasks.get? t = some row → row.status = .waitingChildren →
      (∀ c, Child σ.tasks t c ↔ Child earlier t c) → Attended earlier t σ
  | ended (row : TaskRow) : σ.tasks.get? t = some row → row.status.terminal = true → Attended earlier t σ
  | delivered : Delivered earlier σ.tasks σ.logs t → Attended earlier t σ

theorem Write.delivered {earlier : Table TaskRow} (write : Write env mark σ σ')
    (delivered : Delivered earlier σ.tasks σ.logs t) : Delivered earlier σ'.tasks σ'.logs t := by
  obtain ⟨log, member, task, role, children, entry, content, nodup, same, outcomes⟩ := delivered
  refine ⟨log, write.logs member, task, role, children, entry, content, nodup, same, fun c listed => ?_⟩
  obtain ⟨child, name, found, ended, shown⟩ := outcomes c listed
  exact ⟨child, name, write.final found ended, ended, shown⟩

theorem Write.attended {earlier : Table TaskRow} (write : Write env mark σ σ')
    (known : ∀ c child, σ.tasks.get? c = some child → (σ.agents.get? child.agentId).isSome)
    (attended : Attended earlier t σ) : Attended earlier t σ' := by
  cases attended with
  | ended row found finished => exact .ended row (write.final found finished) finished
  | delivered delivered => exact .delivered (write.delivered delivered)
  | waiting row found waits same =>
    have still : ∀ c, Child σ'.tasks t c ↔ Child earlier t c := by
      intro c
      exact (write.children found (by rw [waits]; exact TaskStatus.noConfusion) c).trans (same c)
    rcases write.shifts found with stays | ⟨new, now, -, shift⟩
    · exact .waiting row stays waits still
    · cases shift with
      | stay kept => exact .waiting new now (kept.trans waits) still
      | finish ended => exact .ended new now ended
      | @wake report _ _ ended logged own role content =>
        -- Every child is terminal, so the rows the report was made of are final.
        obtain ⟨children, entry, reports, nodup, members, outcomes⟩ := childReports_entries known ended
        refine .delivered (write.delivered ⟨report, logged, own, role, children, entry, ?_, nodup, ?_, outcomes⟩)
        · rw [content, reports]
        · exact fun c => (members c).trans (same c)
      | start queued | pause queued | resume queued | park queued =>
        rw [waits] at queued
        cases queued

/-! ### Runs -/

/-- Log rows are never deleted, nor agents that tasks refer to. -/
structure Recorded (before after : Db) : Prop where
  logs : ∀ log ∈ before.logs, log ∈ after.logs
  agents : ∀ a, (before.agents.get? a).isSome → (after.agents.get? a).isSome

/-- One transaction that deletes no log row and no agent. -/
def StepRecorded (label : Label) (before after : Db) : Prop :=
  Step label before after ∧ Recorded before after

/-- No function of the control plane deletes one. -/
theorem recorded_of_commit {env : Env} {op : Op} {db after : Db} (done : op.run env db = .ok after) :
    Recorded db after := by
  have writes := Op.writes done
  constructor
  · intro log member
    refine writes.invariant (P := fun σ : Core => log ∈ σ.logs) (fun _ _ _ write _ held => write.logs held) member
  · intro a known
    refine writes.invariant (P := fun σ : Core => (σ.agents.get? a).isSome) ?_ known
    exact fun _ _ _ write _ held => write.agents held

abbrev RecordedRun (start db : Db) : Prop :=
  Path StepRecorded (fun label before => Label.any label before = true) start db

/-- The agents of all tasks exist. -/
def Staffed (σ : Core) : Prop :=
  ∀ t task, σ.tasks.get? t = some task → (σ.agents.get? task.agentId).isSome

theorem StepRecorded.staffed {label : Label} {db after : Db} (step : StepRecorded label db after)
    (staffed : Staffed db.core) : Staffed after.core := by
  obtain ⟨step, recorded⟩ := step
  cases step with
  | rollback => exact staffed
  | configure quiet =>
    intro t task found
    have tasks : after.core.tasks = db.core.tasks := quiet.tasks
    rw [tasks] at found
    exact recorded.agents _ (staffed t task found)
  | commit done =>
    exact (Op.writes done).invariant (P := Staffed) (fun _ _ _ write _ held => write.known held) staffed

theorem StepRecorded.attended {earlier : Table TaskRow} {label : Label} {db after : Db}
    (step : StepRecorded label db after) (staffed : Staffed db.core) (attended : Attended earlier t db.core) :
    Attended earlier t after.core := by
  obtain ⟨step, recorded⟩ := step
  cases step with
  | rollback => exact attended
  | configure quiet =>
    have tasks : after.core.tasks = db.core.tasks := quiet.tasks
    cases attended with
    | waiting row found waits same => exact .waiting row (tasks ▸ found) waits (tasks ▸ same)
    | ended row found finished => exact .ended row (tasks ▸ found) finished
    | delivered delivered =>
      obtain ⟨log, member, rest⟩ := delivered
      exact .delivered ⟨log, recorded.logs log member, tasks ▸ rest⟩
  | commit done =>
    have both := (Op.writes done).invariant (P := fun σ : Core => Staffed σ ∧ Attended earlier t σ)
      (fun _ _ _ write _ held => ⟨write.known held.1, write.attended held.1 held.2⟩) ⟨staffed, attended⟩
    exact both.2

theorem staffed_run {start db : Db} (fresh : Fresh start) (run : RecordedRun start db) : Staffed db.core := by
  refine run.invariant (P := fun db : Db => Staffed db.core) (fun _ _ _ step _ held => step.staffed held) ?_
  intro t task found
  rw [show start.core.tasks.get? t = none from fresh.tasks t] at found
  cases found

/-! ### `await_children` -/

/-- Some child of the task is not done yet. -/
def Pending (db : Db) (t : Nat) : Prop :=
  ∃ c child, db.tasks.get? c = some child ∧ child.parentTaskId = some t ∧ child.status.terminal = false

/-- The payload is a reply of the model whose action is `await_children`. -/
def AwaitsChildren (payload : Json) : Prop :=
  payload.getText? "type" = some "llm_response" ∧
    (parsedReply payload).bind (fun value => value.getText? "action") = some "await_children"

/-- `await_children` pauses the task if a child of it is not done, and is turned down otherwise. -/
theorem fnSubmitResult_awaitChildren (env : Env) {db : Db} {task : TaskRow} {agent : AgentRow} {payload : Json}
    (found : db.tasks.get? t = some task) (running : task.status = .running)
    (staff : db.agents.get? task.agentId = some agent) (active : agent.isActive = true)
    (asked : AwaitsChildren payload) :
    ∃ reply db' row, fnSubmitResult env db t payload = .ok (reply, db') ∧ db'.tasks.get? t = some row ∧
      (Pending db t ∧ row.status = .waitingChildren ∨
        ¬ Pending db t ∧ row.status = .running ∧ ∃ log ∈ db'.logs, log.taskId = t ∧ log.role = .error ∧
          log.content = .build [("reason", .str "no_pending_children_to_await")]) := by
  obtain ⟨type, action⟩ := asked
  let turn : Turn := ⟨t, task, agent, db.policyOf task.agentId⟩
  let said := turn.log env db .assistant (.str ((payload.getText? "content").getD ""))
  have submitted : fnSubmitResult env db t payload = .ok (awaitChildren env said turn) := by
    unfold fnSubmitResult
    rw [found]
    dsimp only
    rw [if_neg (not_not.mpr running), staff, Option.filter_some, if_pos active]
    unfold submitPayload
    rw [type]
    unfold submitReply
    dsimp only
    rw [action]
    rfl
  have here : said.tasks.get? t = some task := found
  have pending : (said.tasks.exists? fun _ child => child.parentTaskId == some turn.taskId && !child.status.terminal) =
      true ↔ Pending db t := by
    rw [Table.exists?_eq_true]
    simp only [Bool.and_eq_true, beq_iff_eq, Bool.not_eq_true']
    rfl
  rw [submitted]
  unfold awaitChildren
  by_cases some : Pending db t
  · rw [if_neg (by rw [pending.mpr some]; decide)]
    exact ⟨_, _, _, rfl, (get?_updateTask _ here t).trans (if_pos rfl), .inl ⟨some, rfl⟩⟩
  · rw [if_pos (by rw [Bool.eq_false_iff.mpr fun many => some (pending.mp many)]; decide)]
    let refused := turn.log env said .error (.build [("reason", .str "no_pending_children_to_await")])
    have there : refused.tasks.get? t = Option.some task := found
    have kept : (refused.bumpStep env t).logs = refused.logs := by
      unfold Db.bumpStep Db.updateTask
      rw [there]
    refine ⟨_, refused.bumpStep env t, _, rfl, (get?_updateTask _ there t).trans (if_pos rfl), .inr ⟨some, running, ?_⟩⟩
    rw [kept]
    exact ⟨_, List.mem_append_right _ List.mem_cons_self, rfl, rfl, rfl⟩

/-- What `await_children` promises: it is accepted exactly if some child is not done, and
a task that it paused goes on only with the results of all its children in its log. -/
theorem await_children_delivers {start db : Db} (fresh : Fresh start) (run : RecordedRun start db) :
    (∀ env t task agent payload, db.tasks.get? t = some task → task.status = .running →
      db.agents.get? task.agentId = some agent → agent.isActive = true → AwaitsChildren payload →
      ∃ reply db' row, fnSubmitResult env db t payload = .ok (reply, db') ∧ db'.tasks.get? t = some row ∧
        (Pending db t ∧ row.status = .waitingChildren ∨
          ¬ Pending db t ∧ row.status = .running ∧ ∃ log ∈ db'.logs, log.taskId = t ∧ log.role = .error ∧
            log.content = .build [("reason", .str "no_pending_children_to_await")])) ∧
    ∀ later t task row, RecordedRun db later → db.tasks.get? t = some task → task.status = .waitingChildren →
      later.tasks.get? t = some row → row.status = .queued ∨ row.status = .running →
      Delivered db.tasks later.tasks later.logs t := by
  constructor
  · intro env t task agent payload found running staff active asked
    exact fnSubmitResult_awaitChildren env found running staff active asked
  · intro later t task row onward found waits now resumed
    have both : Staffed later.core ∧ Attended db.tasks t later.core := by
      refine onward.invariant (P := fun db' : Db => Staffed db'.core ∧ Attended db.tasks t db'.core) ?_ ?_
      · exact fun _ _ _ step _ held => ⟨step.staffed held.1, step.attended held.1 held.2⟩
      · exact ⟨staffed_run fresh run, .waiting task found waits fun _ => Iff.rfl⟩
    have other {row' : TaskRow} (here : later.core.tasks.get? t = some row') : row' = row :=
      Option.some.inj (here.symm.trans now)
    cases both.2 with
    | delivered delivered => exact delivered
    | waiting row' here still =>
      obtain rfl := other here
      rcases resumed with status | status <;> rw [still] at status <;> cases status
    | ended row' here finished =>
      obtain rfl := other here
      rcases resumed with status | status <;> rw [status] at finished <;> cases finished

/-- A task of one agent hands something to another agent; the first call is the parent's. -/
def handsOver : List (Env × Op) :=
  [(.bare, .createSession 0 (some "sum up") none none), (.bare, .dispatchTasks), (.bare, .claimOutbound none none),
    (.bare, .completeOutbound 0 (some 200) (some (delegatesTo "writer"))), (.bare, .dispatchTasks),
    (.bare, .claimOutbound none none), (.bare, .claimOutbound none none)]

/-- The parent pauses, the child answers, and the next sweep wakes the parent. -/
def waitsAndWakes : List (Env × Op) :=
  [(.bare, .completeOutbound 2 (some 200) (some (answers "two"))), (.bare, .watchdog none)]

theorem await_children_delivers_answer :
    ∃ db later, RecordedRun (pairDb (helperPolicy 5 none)) db ∧ RecordedRun db later ∧
      Child db.tasks 0 1 ∧ Delivered db.tasks later.tasks later.logs 0 := by
  have commits : ∀ env op before after, op.run env before = .ok after → StepRecorded (.call env op) before after :=
    fun _ _ _ _ done => ⟨.commit done, recorded_of_commit done⟩
  obtain ⟨db, run, reached⟩ := path_reaching commits
    (show ((runAll Label.any (pairDb (helperPolicy 5 none))
      (handsOver ++ [(.bare, .completeOutbound 1 (some 200) (some awaitsChildren))])).any fun db =>
        ((db.tasks.get? 1).any fun child => child.parentTaskId == some 0) &&
        ((db.tasks.get? 0).any fun task => task.status == .waitingChildren) &&
        (runAll Label.any db waitsAndWakes).any fun later =>
          (later.tasks.get? 0).any fun task => task.status == .queued) = true by decide +kernel)
  simp only [Bool.and_eq_true, Option.any_eq_true, beq_iff_eq] at reached
  obtain ⟨⟨⟨child, here, up⟩, task, found, waits⟩, later, onward, row, now, resumed⟩ := reached
  have onward : RecordedRun db later := runAll_path commits onward
  exact ⟨db, later, run, onward, ⟨child, here, up⟩,
    (await_children_delivers (pairDb_fresh _) run).2 later 0 task row onward found waits now (.inl resumed)⟩

/-- The turn goes to the model. -/
def NextStep.asks : NextStep → Bool
  | .callLlm _ => true
  | .done _ => false

/-- A child that is done before its parent awaits it is not reported: the wait is turned
down, and the parent's next turn follows at once. -/
theorem not_await_children_delivers :
    ¬ ∀ start db after k call t c, Fresh start → Run Label.driven start db →
      db.outboundCalls.get? k = some call → call.taskId = t → call.status = .inFlight → call.body.kind = .llm →
      Child db.tasks t c → (Op.completeOutbound k (some 200) (some awaitsChildren)).run .bare db = .ok after →
      (∃ spec next, fnNextStep .bare after t = .ok (.callLlm spec, next)) →
      ∃ log ∈ after.logs, log.taskId = t ∧ (log.content.get? "delegate_results").isSome := by
  intro delivers
  let asks (db : Db) : Bool := (fnNextStep .bare db 0).toOption.any fun stepped => stepped.1.asks
  obtain ⟨db, run, reached⟩ := run_reaching (show ((runAll Label.driven (pairDb (helperPolicy 5 none))
      (handsOver ++ [(.bare, .completeOutbound 2 (some 200) (some (answers "two")))])).any fun db =>
        ((db.tasks.get? 1).any fun child => child.parentTaskId == some 0) &&
        ((db.outboundCalls.get? 1).any fun call => call.taskId == 0 && call.status == .inFlight && call.body.kind == .llm) &&
        ((Op.completeOutbound 1 (some 200) (some awaitsChildren)).run .bare db).toOption.any fun after =>
          asks after && after.logs.all fun log => (log.content.get? "delegate_results").isNone) = true by decide +kernel)
  simp only [Bool.and_eq_true, Option.any_eq_true, beq_iff_eq, List.all_eq_true] at reached
  obtain ⟨⟨⟨child, here, up⟩, call, queued, ⟨own, flying⟩, llm⟩, after, done, turns, unreported⟩ := reached
  have committed : (Op.completeOutbound 1 (some 200) (some awaitsChildren)).run .bare db = .ok after := by
    cases ran : (Op.completeOutbound 1 (some 200) (some awaitsChildren)).run .bare db with
    | error message => simp [ran, Except.toOption] at done
    | ok out => simpa [ran, Except.toOption] using done
  have next : ∃ spec next, fnNextStep .bare after 0 = .ok (.callLlm spec, next) := by
    simp only [asks, Option.any_eq_true] at turns
    obtain ⟨⟨step, next⟩, stepped, asking⟩ := turns
    cases ran : fnNextStep .bare after 0 with
    | error message => simp [ran, Except.toOption] at stepped
    | ok out =>
      obtain rfl : out = (step, next) := by simpa [ran, Except.toOption] using stepped
      cases step with
      | done reason => cases asking
      | callLlm spec => exact ⟨spec, next, rfl⟩
  obtain ⟨log, member, -, reports⟩ := delivers _ db after 1 call 0 1 (pairDb_fresh _) run queued own flying llm
    ⟨child, here, up⟩ committed next
  have none := unreported log member
  rw [Option.isNone_iff_eq_none] at none
  rw [none] at reports
  cases reports

end Allgres
