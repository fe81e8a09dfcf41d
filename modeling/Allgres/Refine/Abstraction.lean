import Allgres.Protocol.Tasks
import Allgres.Watchdog

/-! What the tables are to the orchestration protocol, and what each update of
a table is to it. -/

namespace Allgres

open Relational Jsonb Sql

/-- What a task leaves behind: its output and its error. -/
abbrev Left := Option Json × Option String

def TaskRow.view (task : TaskRow) : TaskView Left :=
  ⟨task.sessionId, task.parentTaskId, task.status, task.stepCount, (task.output, task.error)⟩

def CallRow.view {β : Type} (llm : β → Bool) (call : CallRow β) : CallView :=
  ⟨call.taskId, llm call.body, call.status⟩

def OutboundBody.isLlm (body : OutboundBody) : Bool := body.kind == .llm

def ApprovalRow.view (approval : ApprovalRow) : ApprovalView :=
  ⟨approval.taskId, approval.status⟩

def Db.call (db : Db) : CallKey → Option CallView
  | (.outbound, id) => (db.outboundCalls.get? id).map (CallRow.view OutboundBody.isLlm)
  | (.sql, id) => (db.sqlCalls.get? id).map (CallRow.view fun _ => false)
  | (.function, id) => (db.functionCalls.get? id).map (CallRow.view fun _ => false)
  | (.procedure, id) => (db.procedureCalls.get? id).map (CallRow.view fun _ => false)

def Db.llmRows (db : Db) (t : Nat) : Nat :=
  db.outboundCalls.count fun _ call => call.taskId == t && call.body.isLlm

def Db.flow (db : Db) : Flow Left where
  session s := (db.sessions.get? s).map SessionRow.status
  task t := (db.tasks.get? t).map TaskRow.view
  call := db.call
  approval a := (db.approvals.get? a).map ApprovalRow.view
  llmRows := db.llmRows
  journal := db.journal
  submits := db.submits

/-- Nothing that the protocol sees has changed, and no task row at all. -/
structure Quiet (db db' : Db) : Prop where
  flow : db'.flow = db.flow
  tasks : db'.tasks = db.tasks

theorem Quiet.refl (db : Db) : Quiet db db := ⟨rfl, rfl⟩

theorem Quiet.trans {a b c : Db} (first : Quiet a b) (second : Quiet b c) : Quiet a c :=
  ⟨second.flow.trans first.flow, second.tasks.trans first.tasks⟩

variable {db : Db} {env : Env}

theorem Quiet.of_appendLog (t step : Nat) (role : Role) (content : Json) :
    Quiet db (db.appendLog env t step role content) := ⟨rfl, rfl⟩

theorem Quiet.of_audit (action : String) (details : Json) : Quiet db (db.audit action details) := ⟨rfl, rfl⟩

theorem Quiet.memories {db db' : Db} (quiet : Quiet db db') (memories : Table MemoryRow) :
    Quiet db { db' with memories := memories } := quiet.trans ⟨rfl, rfl⟩

theorem Quiet.agents {db db' : Db} (quiet : Quiet db db') (agents : Table AgentRow) (policies : Table PolicyRow) :
    Quiet db { db' with agents := agents, policies := policies } := quiet.trans ⟨rfl, rfl⟩

/-! ### Tasks -/

theorem flow_task {t : Nat} {task : TaskRow} (found : db.tasks.get? t = some task) :
    db.flow.task t = some task.view := by
  simp only [Db.flow, found, Option.map_some]

theorem flow_task_some {t : Nat} {view : TaskView Left} (found : db.flow.task t = some view) :
    ∃ task, db.tasks.get? t = some task ∧ task.view = view :=
  Option.map_eq_some_iff.mp found

theorem flow_updateTask {t : Nat} {task : TaskRow} (set : TaskRow → TaskRow)
    (found : db.tasks.get? t = some task) :
    (db.updateTask env t set).flow = db.flow.setTask t (set task).view := by
  have before := flow_task found
  unfold Db.updateTask
  rw [found]
  ext1
  case task =>
    funext other
    by_cases same : other = t
    · subst same
      simp [Db.flow, Flow.setTask, Table.get?_modify, found, TaskRow.view]
    · simp [Db.flow, Flow.setTask, Table.get?_modify, same]
  case journal =>
    simp only [Flow.setTask, Flow.statusChange, before]
    rfl
  all_goals rfl

theorem get?_updateTask {t : Nat} {task : TaskRow} (set : TaskRow → TaskRow)
    (found : db.tasks.get? t = some task) (other : Nat) :
    (db.updateTask env t set).tasks.get? other =
      if other = t then some { set task with updatedAt := env.now } else db.tasks.get? other := by
  unfold Db.updateTask
  rw [found]
  simp only [Table.get?_modify]
  split
  · rename_i same
    rw [same, found, Option.map_some]
  · rfl

/-- An update that leaves a task's view alone leaves the whole protocol state alone. -/
theorem flow_updateTask_same {t : Nat} (set : TaskRow → TaskRow) (keeps : ∀ task, (set task).view = task.view) :
    (db.updateTask env t set).flow = db.flow := by
  rcases found : db.tasks.get? t with _ | task
  · unfold Db.updateTask
    rw [found]
  · have before := flow_task found
    rw [flow_updateTask set found, keeps]
    ext1
    case task =>
      funext other
      by_cases same : other = t
      · subst same; simp [Flow.setTask, before]
      · simp [Flow.setTask, same]
    case journal => simp [Flow.setTask, Flow.statusChange, before]
    all_goals rfl

theorem flow_insertTask (sessionId agentId : Nat) (parentTaskId : Option Nat) (input : Json) (depth : Nat)
    (generation : Option Nat) :
    (db.insertTask env sessionId agentId parentTaskId input depth generation).flow =
      db.flow.addTask db.tasks.next ⟨sessionId, parentTaskId, .queued, 0, (none, none)⟩ := by
  ext1
  case task =>
    funext other
    by_cases same : other = db.tasks.next
    · subst same
      simp [Db.flow, Db.insertTask, Flow.addTask, TaskRow.view]
    · simp [Db.flow, Db.insertTask, Flow.addTask, Table.get?_insert, same]
  all_goals rfl

theorem flow_task_next : db.flow.task db.tasks.next = none := by
  simp only [Db.flow, Table.get?_next, Option.map_none]

/-! ### Sessions -/

theorem flow_updateSession_same (s : Nat) (set : SessionRow → SessionRow)
    (keeps : ∀ session, (set session).status = session.status) : (db.updateSession s set).flow = db.flow := by
  ext1
  case session =>
    funext other
    simp only [Db.flow, Db.updateSession, Table.get?_modify]
    split
    · rcases db.sessions.get? other with _ | session
      · rfl
      · simp [keeps]
    · rfl
  all_goals rfl

theorem flow_updateSession {s : Nat} {session : SessionRow} (set : SessionRow → SessionRow)
    (found : db.sessions.get? s = some session) :
    (db.updateSession s set).flow = db.flow.setSession s (set session).status := by
  ext1
  case session =>
    funext other
    by_cases same : other = s
    · subst same
      simp [Db.flow, Db.updateSession, Flow.setSession, Table.get?_modify, found]
    · simp [Db.flow, Db.updateSession, Flow.setSession, Table.get?_modify, same]
  all_goals rfl

theorem idle_iff {s : Nat} : db.flow.Idle s ↔
    db.tasks.count (fun _ task => task.sessionId == s && !task.status.terminal) = 0 := by
  rw [Table.count_eq_zero]
  constructor
  · intro idle t task found
    by_cases owned : task.sessionId = s
    · have settled : task.status.terminal = true := idle t task.view (flow_task found) owned
      simp [settled]
    · simp [owned]
  · intro settled t view found owned
    obtain ⟨task, row, rfl⟩ := flow_task_some found
    have ended := settled t task row
    have belongs : task.sessionId = s := owned
    have terminal : task.status.terminal = true := by simpa [belongs] using ended
    exact terminal

theorem maybeCompleteSession_closes (s : Nat) :
    Flow.Closes s db.flow (maybeCompleteSession env db s).flow := by
  unfold maybeCompleteSession
  by_cases idle : db.flow.Idle s
  · have settled := idle_iff.mp idle
    simp only [settled, Nat.lt_irrefl, if_false]
    rcases found : db.sessions.get? s with _ | session
    · have unknown : db.flow.session s = none := by simp only [Db.flow, found, Option.map_none]
      have keeps (set : SessionRow → SessionRow) : (db.updateSession s set).flow = db.flow := by
        ext1
        case session =>
          funext other
          by_cases same : other = s
          · subst same; simp [Db.flow, Db.updateSession, Table.get?_modify, found]
          · simp [Db.flow, Db.updateSession, Table.get?_modify, same]
        all_goals rfl
      split
      · rw [keeps]; exact .closed idle (by rw [unknown]; simp)
      · rw [keeps]; exact .closed idle (by rw [unknown]; simp)
    · have known : db.flow.session s = some session.status := by simp only [Db.flow, found, Option.map_some]
      by_cases opened : session.status = .opened
      · split
        · rw [flow_updateSession _ found, if_pos opened]
          exact .close .failed idle (by simp)
        · rw [flow_updateSession _ found, if_pos opened]
          exact .close .completed idle (by simp)
      · have closed : db.flow.session s ≠ some .opened := by
          rw [known]
          intro same
          exact opened (Option.some.inj same)
        have same : db.flow.setSession s session.status = db.flow := by
          ext1
          case session =>
            funext other
            by_cases same : other = s
            · subst same; simp [Flow.setSession, known]
            · simp [Flow.setSession, same]
          all_goals rfl
        split
        · rw [flow_updateSession _ found, if_neg opened, same]
          exact .closed idle closed
        · rw [flow_updateSession _ found, if_neg opened, same]
          exact .closed idle closed
  · have unsettled : 0 < db.tasks.count (fun _ task => task.sessionId == s && !task.status.terminal) := by
      rw [idle_iff] at idle
      omega
    simp only [unsettled, if_true]
    exact .busy idle

theorem maybeCompleteSession_tasks (s : Nat) : (maybeCompleteSession env db s).tasks = db.tasks := by
  unfold maybeCompleteSession
  simp only
  split
  · rfl
  · split
    · rfl
    · rfl

end Allgres
