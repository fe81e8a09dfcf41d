import Allgres.Watchdog
import Allgres.Lib.Runs

/-! What a single write of a transaction can do to the tables that hold the
agents, the conversations and the requests. Every function of the control
plane is a run of such writes. -/

namespace Allgres

open Relational Jsonb Sql Runs

structure Core where
  agents : Table AgentRow
  policies : Table PolicyRow
  providers : Table ProviderRow
  connections : Table ConnectionRow
  sessions : Table SessionRow
  tasks : Table TaskRow
  logs : List LogRow
  memories : Table MemoryRow
  outboundCalls : Table (CallRow OutboundBody)

def Db.core (db : Db) : Core where
  agents := db.agents
  policies := db.policies
  providers := db.providers
  connections := db.connections
  sessions := db.sessions
  tasks := db.tasks
  logs := db.logs
  memories := db.memories
  outboundCalls := db.outboundCalls

/-! ### Tasks -/

/-- The columns of a task that stay as they were when it was created. -/
structure Kin (old new : TaskRow) : Prop where
  session : new.sessionId = old.sessionId
  agent : new.agentId = old.agentId
  parent : new.parentTaskId = old.parentTaskId
  depth : new.delegationDepth = old.delegationDepth
  input : new.input = old.input
  created : new.createdAt = old.createdAt

theorem Kin.refl (task : TaskRow) : Kin task task := ⟨rfl, rfl, rfl, rfl, rfl, rfl⟩

theorem Kin.trans {a b c : TaskRow} (first : Kin a b) (second : Kin b c) : Kin a c where
  session := second.session.trans first.session
  agent := second.agent.trans first.agent
  parent := second.parent.trans first.parent
  depth := second.depth.trans first.depth
  input := second.input.trans first.input
  created := second.created.trans first.created

/-- The tasks that take one of their agent's slots. -/
def TaskStatus.active : TaskStatus → Bool
  | running | waitingHuman | waitingChildren => true
  | _ => false

/-- The agents of a task and of the tasks above it. -/
def lineage (tasks : Table TaskRow) : Nat → Nat → List Nat
  | 0, _ => []
  | fuel + 1, t =>
    match tasks.get? t with
    | none => []
    | some task =>
      task.agentId :: match task.parentTaskId with
        | none => []
        | some parent => lineage tasks fuel parent

/-- What the children of a task have come to, oldest first. -/
def childReports (tasks : Table TaskRow) (agents : Table AgentRow) (t : Nat) : Json :=
  let children := (tasks.select fun _ child => child.parentTaskId == some t).insertionSort
    fun a b => a.2.createdAt ≤ b.2.createdAt
  .arr (children.filterMap fun child => (agents.get? child.2.agentId).map fun agent =>
    .build [("agent", .str agent.name), ("status", .str child.2.status.text),
      ("output", child.2.output.getD .null), ("error", .optStr child.2.error)])

def policyIn (policies : Table PolicyRow) (agentId : Nat) : Option PolicyRow :=
  (policies.find? fun _ policy => policy.agentId == agentId).map Prod.snd

/-- The kinds of writes that some result has to single out. -/
inductive Mark
  | plain
  | turn
  | fire (schedule : Nat)
  | rewrite (t : Nat)
  | start (t : Nat)
  | finish (t : Nat)
  | pause (t : Nat)
  | resume (t : Nat)
  | park (t : Nat)
  | wake (t : Nat)
  | spawn (t : Nat) (child : TaskRow)
  | remember (t : Nat) (memory : MemoryRow)
  | bill (call : Nat)

/-- How a write may move the status of a task that is not terminal yet. -/
inductive Shift (σ : Core) (t : Nat) (old new : TaskRow) : Mark → Prop
  | stay : new.status = old.status → Shift σ t old new (.rewrite t)
  | start : old.status = .queued → new.status = .running → Shift σ t old new (.start t)
  | finish : new.status.terminal = true → Shift σ t old new (.finish t)
  | pause : old.status = .running → new.status = .waitingHuman → Shift σ t old new (.pause t)
  | resume : old.status = .waitingHuman → new.status = .queued → Shift σ t old new (.resume t)
  | park {c : Nat} {child : TaskRow} : old.status = .running → new.status = .waitingChildren →
      σ.tasks.get? c = some child → child.parentTaskId = some t → child.status.terminal = false →
      Shift σ t old new (.park t)
  | wake {report : LogRow} : old.status = .waitingChildren → new.status = .queued →
      (∀ c child, σ.tasks.get? c = some child → child.parentTaskId = some t → child.status.terminal = true) →
      report ∈ σ.logs → report.taskId = t → report.role = .function →
      report.content = .build [("delegate_results", childReports σ.tasks σ.agents t)] →
      Shift σ t old new (.wake t)

/-- A child that `delegate` may create for the task. -/
structure Born (σ : Core) (t : Nat) (parent child : TaskRow) : Prop where
  found : σ.tasks.get? t = some parent
  running : parent.status = .running
  session : child.sessionId = parent.sessionId
  above : child.parentTaskId = some t
  depth : child.delegationDepth = parent.delegationDepth + 1
  queued : child.status = .queued
  stranger : child.agentId ∉ lineage σ.tasks σ.tasks.rows.length t
  agent : (σ.agents.get? child.agentId).isSome
  shallow : ∀ policy, policyIn σ.policies parent.agentId = some policy →
    child.delegationDepth ≤ policy.maxDelegationDepth
  few : ∀ policy, policyIn σ.policies parent.agentId = some policy →
    (σ.tasks.count fun _ task => task.sessionId == parent.sessionId) < policy.maxSessionTasks

/-! ### Sessions -/

/-- A root task that waits for its first turn. -/
structure Opened (env : Env) (agents : Table AgentRow) (row : TaskRow) : Prop where
  root : row.parentTaskId = none
  shallow : row.delegationDepth = 0
  queued : row.status = .queued
  known : (agents.get? row.agentId).isSome
  created : row.createdAt = env.now
  updated : row.updatedAt = env.now

/-- A session that a schedule opens is singled out. -/
def openMark : Option Nat → Mark
  | none => .plain
  | some schedule => .fire schedule

/-- Where a new root task belongs: to an open session that has no live root task, or to a
session that is opened with it. -/
inductive Placed (σ : Core) (row : TaskRow) : Mark → Table SessionRow → Prop
  | turn {session : SessionRow} : σ.sessions.get? row.sessionId = some session → session.status = .opened →
      (∀ t task, σ.tasks.get? t = some task → task.sessionId = row.sessionId → task.parentTaskId = none →
        task.status.terminal = true) → Placed σ row .turn σ.sessions
  | session (new : SessionRow) : row.sessionId = σ.sessions.next → new.status = .opened →
      new.compactedBefore = none → Placed σ row (openMark new.scheduleId) (σ.sessions.insert new)

/-- An answer is copied to the session of its task. -/
inductive Answers (sessions : Table SessionRow) (new : TaskRow) : Table SessionRow → Prop
  | none : Answers sessions new sessions
  | answer (text : String) : new.status = .completed → new.output = some (.build [("answer", .str text)]) →
      Answers sessions new (sessions.modify new.sessionId fun session => { session with finalAnswer := some text })

/-- The columns of a session that no task of it changes, except for a compaction. -/
structure SameSession (old new : SessionRow) : Prop where
  agent : new.agentId = old.agentId
  goal : new.goal = old.goal
  project : new.projectId = old.projectId
  schedule : new.scheduleId = old.scheduleId
  compacted : new.compactedBefore = old.compactedBefore

/-- The answer of the root task that was completed last. -/
def answerIn (tasks : Table TaskRow) (s : Nat) : Option String :=
  let completed := tasks.select fun _ task =>
    task.sessionId == s && task.status == .completed && task.parentTaskId.isNone
  ((completed.insertionSort fun a b => b.2.updatedAt ≤ a.2.updatedAt).head?).bind
    fun task => task.2.output.bind fun output => output.getText? "answer"

/-- The outcome that a closing session takes over from its tasks. -/
inductive SumsUp (tasks : Table TaskRow) (s : Nat) (old new : SessionRow) : Prop
  | failed : answerIn tasks s = none → (∃ t task, tasks.get? t = some task ∧ task.sessionId = s ∧
      task.status = .failed) → new.status = .failed → new.finalAnswer = old.finalAnswer → SumsUp tasks s old new
  | completed : ((answerIn tasks s).isSome ∨ ∀ t task, tasks.get? t = some task → task.sessionId = s →
      task.status ≠ .failed) → new.status = .completed →
      new.finalAnswer = (answerIn tasks s).or old.finalAnswer → SumsUp tasks s old new

/-! ### Memories -/

/-- The session whose cut-off a memory of this task moves. -/
def cutoffTarget (agent : AgentRow) (task : TaskRow) : Option Nat :=
  if agent.name = "session_compactor" ∧ task.input.hasKey "target_session_id" ∧ task.input.hasKey "compact_cutoff" then
    (task.input.getText? "target_session_id").bind toUuid
  else none

/-- The sessions after the cut-off that a memory moves. -/
def movedSessions (sessions : Table SessionRow) (target : Option Nat) (cutoff : Option Time) : Table SessionRow :=
  match target with
  | none => sessions
  | some s => sessions.modify s fun session => { session with compactedBefore := cutoff }

def cutoffText (task : TaskRow) : Option String := task.input.getText? "compact_cutoff"

/-- The same memory but for the time it was last used. -/
structure SameMemory (old new : MemoryRow) : Prop where
  agent : new.agentId = old.agentId
  subject : new.subjectId = old.subjectId
  content : new.content = old.content
  source : new.sourceTaskId = old.sourceTaskId
  created : new.createdAt = old.createdAt
  expires : new.expiresAt = old.expiresAt

/-! ### Requests -/

/-- A URL that some function builds from the base URL of a stored endpoint. -/
inductive Built (pg : Pg) (base : String) : String → Prop
  | chat (allow : Bool) : checkOutboundUrl pg (some (trimRight (· == '/') base)) allow = none →
      Built pg base (trimRight (· == '/') base ++ "/chat/completions")
  | messages (allow : Bool) : checkOutboundUrl pg (some (trimRight (· == '/') base)) allow = none →
      Built pg base (trimRight (· == '/') base ++ "/v1/messages")
  | embeddings (allow : Bool) : checkOutboundUrl pg (some (base ++ "/embeddings")) allow = none →
      Built pg base (base ++ "/embeddings")
  | whole (allow : Bool) : checkOutboundUrl pg (some base) allow = none → Built pg base base
  | path (path : String) (allow : Bool) :
      checkOutboundUrl pg (some (trimRight (· == '/') base ++ "/" ++ trimLeft (· == '/') path)) allow = none →
      Built pg base (trimRight (· == '/') base ++ "/" ++ trimLeft (· == '/') path)

/-- The endpoint whose credential a claim will add is enabled, and the URL is built from it. -/
def Trusted (pg : Pg) (providers : Table ProviderRow) (connections : Table ConnectionRow) (body : OutboundBody) :
    Prop :=
  body.authKind.isSome → match body.providerId, body.connectionId with
    | some id, _ => ∃ provider, providers.get? id = some provider ∧ provider.isEnabled = true ∧
        Built pg provider.baseUrl body.url
    | none, some id => ∃ connection, connections.get? id = some connection ∧ connection.isEnabled = true ∧
        Built pg connection.baseUrl body.url
    | none, none => True

/-- A request keeps its destination, and none goes back to the queue. -/
structure SameRequest (old new : CallRow OutboundBody) : Prop where
  task : new.taskId = old.taskId
  url : new.body.url = old.body.url
  provider : new.body.providerId = old.body.providerId
  connection : new.body.connectionId = old.body.connectionId
  auth : new.body.authKind = old.body.authKind
  queued : new.status = .queued → old.status = .queued

/-! ### Writes -/

inductive Write (env : Env) : Mark → Core → Core → Prop
  | log {σ : Core} (row : LogRow) : Write env .plain σ { σ with logs := σ.logs ++ [row] }
  | task {σ : Core} {mark : Mark} {t : Nat} {old : TaskRow} {sessions : Table SessionRow} (new : TaskRow) :
      σ.tasks.get? t = some old → Kin old new → old.status.terminal = false → Shift σ t old new mark →
      new.updatedAt = env.now → Answers σ.sessions new sessions →
      Write env mark σ { σ with tasks := σ.tasks.modify t fun _ => new, sessions := sessions }
  | openTask {σ : Core} {mark : Mark} {sessions : Table SessionRow} (row : TaskRow) : Opened env σ.agents row →
      Placed σ row mark sessions →
      Write env mark σ { σ with tasks := σ.tasks.insert row, sessions := sessions }
  | spawn {σ : Core} {t : Nat} {parent : TaskRow} (child : TaskRow) : Born σ t parent child →
      Write env (.spawn t child) σ { σ with tasks := σ.tasks.insert child }
  | session {σ : Core} (s : Nat) (set : SessionRow → SessionRow) :
      (∀ row, SameSession row (set row) ∧ (set row).finalAnswer = row.finalAnswer ∧
        ((set row).status = row.status ∨ (set row).status = .opened ∨ (set row).status = .cancelled)) →
      Write env .plain σ { σ with sessions := σ.sessions.modify s set }
  | close {σ : Core} (s : Nat) (set : SessionRow → SessionRow) :
      (∀ t task, σ.tasks.get? t = some task → task.sessionId = s → task.status.terminal = true) →
      (∀ row, SameSession row (set row) ∧ (row.status = .opened → SumsUp σ.tasks s row (set row)) ∧
        (row.status ≠ .opened → set row = row)) →
      Write env .plain σ { σ with sessions := σ.sessions.modify s set }
  | remember {σ : Core} {t : Nat} {task : TaskRow} {agent : AgentRow} (memory : MemoryRow) (cutoff : Option Time) :
      σ.tasks.get? t = some task → task.status = .running → σ.agents.get? task.agentId = some agent →
      memory.agentId = task.agentId → memory.sourceTaskId = some t →
      (∀ s, cutoffTarget agent task = some s → (σ.sessions.get? s).isSome →
        castOr "timestamp with time zone" env.pg.timestamptzIn (cutoffText task) = .ok cutoff) →
      Write env (.remember t memory) σ { σ with
        memories := evictMemories (σ.memories.insert memory) task.agentId
        sessions := movedSessions σ.sessions (cutoffTarget agent task) cutoff }
  | touch {σ : Core} (cond : Nat → MemoryRow → Bool) (set : Nat → MemoryRow → MemoryRow) :
      (∀ key row, SameMemory row (set key row)) →
      Write env .plain σ { σ with memories := σ.memories.update cond set }
  | expire {σ : Core} (cond : Nat → MemoryRow → Bool) : (∀ key row, cond key row = true → row.expiresAt.isSome) →
      Write env .plain σ { σ with memories := σ.memories.delete cond }
  | request {σ : Core} (call : CallRow OutboundBody) : Trusted env.pg σ.providers σ.connections call.body →
      (σ.tasks.get? call.taskId).isSome → call.body.costUsd = none →
      Write env .plain σ { σ with outboundCalls := σ.outboundCalls.insert call }
  | requests {σ : Core} (cond : Nat → CallRow OutboundBody → Bool)
      (set : Nat → CallRow OutboundBody → CallRow OutboundBody) :
      (∀ key row, SameRequest row (set key row) ∧ (set key row).body.costUsd = row.body.costUsd) →
      Write env .plain σ { σ with outboundCalls := σ.outboundCalls.update cond set }
  | bill {σ : Core} (callId : Nat) (set : CallRow OutboundBody → CallRow OutboundBody) :
      (∀ row, SameRequest row (set row)) →
      Write env (.bill callId) σ { σ with outboundCalls := σ.outboundCalls.modify callId set }
  | providers {σ : Core} (cond : Nat → ProviderRow → Bool) (set : Nat → ProviderRow → ProviderRow) :
      (∀ key row, (set key row).baseUrl = row.baseUrl ∧ (set key row).isEnabled = row.isEnabled) →
      Write env .plain σ { σ with providers := σ.providers.update cond set }
  | newAgent {σ : Core} (agent : AgentRow) (policy : PolicyRow) :
      (∀ key row, σ.agents.get? key = some row → row.name ≠ agent.name) → agent.agentConfig = .emptyObj →
      policy.agentId = σ.agents.next →
      Write env .plain σ { σ with agents := σ.agents.insert agent, policies := σ.policies.insert policy }
  | agent {σ : Core} (agentId : Nat) (set : AgentRow → AgentRow) :
      (∀ row, (set row).name = row.name ∧ (set row).agentConfig = row.agentConfig) →
      Write env .plain σ { σ with agents := σ.agents.modify agentId set }
  | policy {σ : Core} (cond : Nat → PolicyRow → Bool) (set : Nat → PolicyRow → PolicyRow) :
      (∀ key row, (set key row).agentId = row.agentId ∧
        (set key row).maxConcurrentTasks = row.maxConcurrentTasks ∧
        (set key row).maxDelegationDepth = row.maxDelegationDepth ∧
        (set key row).maxSessionTasks = row.maxSessionTasks) →
      Write env .plain σ { σ with policies := σ.policies.update cond set }

/-- Nothing is started, continued, delegated, remembered or paid for. -/
def Calm : Mark → Core → Prop
  | .turn, _ | .fire _, _ | .start _, _ | .spawn _ _, _ | .remember _ _, _ | .bill _, _ => False
  | _, _ => True

abbrev Writes (env : Env) (ok : Mark → Core → Prop) (σ σ' : Core) : Prop := Path (Write env) ok σ σ'

/-- Rows are never lost, and keep what they were created with. -/
theorem Write.kin {env : Env} {mark : Mark} {σ σ' : Core} (write : Write env mark σ σ') {t : Nat} {row : TaskRow}
    (found : σ.tasks.get? t = some row) : ∃ row', σ'.tasks.get? t = some row' ∧ Kin row row' := by
  cases write with
  | @task _ _ u old _ new here kin live shift =>
    simp only [Table.get?_modify]
    split
    · rename_i same
      subst same
      obtain rfl := Option.some.inj (found.symm.trans here)
      exact ⟨new, by rw [found]; rfl, kin⟩
    · exact ⟨row, found, .refl row⟩
  | openTask new | spawn new => exact ⟨row, Table.get?_insert_old new found, .refl row⟩
  | _ => exact ⟨row, found, .refl row⟩

/-- Every row after a write was there before or is a new task in the queue. -/
theorem Write.rows {env : Env} {mark : Mark} {σ σ' : Core} (write : Write env mark σ σ') {t : Nat} {row : TaskRow}
    (now : σ'.tasks.get? t = some row) :
    (∃ old, σ.tasks.get? t = some old ∧ Kin old row) ∨
      σ.tasks.get? t = none ∧ row.status = .queued ∧ (σ.agents.get? row.agentId).isSome := by
  have inserted {new : TaskRow} (queued : new.status = .queued) (agent : (σ.agents.get? new.agentId).isSome)
      (now : (σ.tasks.insert new).get? t = some row) : (∃ old, σ.tasks.get? t = some old ∧ Kin old row) ∨
        σ.tasks.get? t = none ∧ row.status = .queued ∧ (σ.agents.get? row.agentId).isSome := by
    rw [Table.get?_insert] at now
    split at now
    · rename_i newest
      obtain rfl := Option.some.inj now
      rw [newest]
      exact .inr ⟨Table.get?_next _, queued, agent⟩
    · exact .inl ⟨row, now, .refl row⟩
  cases write with
  | @task _ _ u old _ new found kin =>
    simp only [Table.get?_modify] at now
    split at now
    · rename_i same
      rw [same, found] at now
      obtain rfl := Option.some.inj now
      rw [same]
      exact .inl ⟨old, found, kin⟩
    · exact .inl ⟨row, now, .refl row⟩
  | openTask new opened => exact inserted opened.queued opened.known now
  | spawn child born => exact inserted born.queued born.agent now
  | _ => exact .inl ⟨row, now, .refl row⟩

theorem Writes.kin {env : Env} {ok : Mark → Core → Prop} {σ σ' : Core} (writes : Writes env ok σ σ') {t : Nat}
    {row : TaskRow} (found : σ.tasks.get? t = some row) : ∃ row', σ'.tasks.get? t = some row' ∧ Kin row row' := by
  induction writes with
  | refl => exact ⟨row, found, .refl row⟩
  | step _ write _ ih =>
    obtain ⟨before, here, first⟩ := ih
    obtain ⟨after, there, second⟩ := write.kin here
    exact ⟨after, there, first.trans second⟩

end Allgres
