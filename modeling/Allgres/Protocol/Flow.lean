import Allgres.Status
import Mathlib.Logic.Function.Basic

namespace Allgres

/-- A task as the orchestration protocol sees it. `ρ` is the type of what a
task leaves behind: its output and its error. -/
structure TaskView (ρ : Type) where
  session : Nat
  parent : Option Nat
  status : TaskStatus
  steps : Nat
  result : ρ

abbrev CallKey := Queue × Nat

structure CallView where
  task : Nat
  llm : Bool
  status : CallStatus

structure ApprovalView where
  task : Nat
  status : ApprovalStatus

/-- The state of the orchestration protocol: sessions, tasks, the calls of the
four queues, approvals, the number of `llm` calls ever made for a task, and
the history of status writes and of submitted calls. -/
@[ext] structure Flow (ρ : Type) where
  session : Nat → Option SessionStatus
  task : Nat → Option (TaskView ρ)
  call : CallKey → Option CallView
  approval : Nat → Option ApprovalView
  llmRows : Nat → Nat
  journal : List StatusWrite
  submits : List CallKey

namespace Flow

variable {ρ : Type}

def statusChange (σ : Flow ρ) (t : Nat) (new : TaskStatus) : List StatusWrite :=
  match σ.task t with
  | some old => if old.status = new then [] else [⟨t, old.status, new⟩]
  | none => []

/-- Overwrites the row of an existing task. -/
def setTask (σ : Flow ρ) (t : Nat) (view : TaskView ρ) : Flow ρ :=
  { σ with task := Function.update σ.task t (some view), journal := σ.journal ++ σ.statusChange t view.status }

def addTask (σ : Flow ρ) (t : Nat) (view : TaskView ρ) : Flow ρ :=
  { σ with task := Function.update σ.task t (some view) }

def setSession (σ : Flow ρ) (s : Nat) (status : SessionStatus) : Flow ρ :=
  { σ with session := Function.update σ.session s (some status) }

def setCall (σ : Flow ρ) (k : CallKey) (view : CallView) : Flow ρ :=
  { σ with call := Function.update σ.call k (some view) }

/-- A new call of the given task. -/
def addCall (σ : Flow ρ) (k : CallKey) (t : Nat) (llm : Bool) : Flow ρ :=
  { σ with
    call := Function.update σ.call k (some ⟨t, llm, .queued⟩)
    llmRows := if llm then Function.update σ.llmRows t (σ.llmRows t + 1) else σ.llmRows }

def setApproval (σ : Flow ρ) (a : Nat) (view : ApprovalView) : Flow ρ :=
  { σ with approval := Function.update σ.approval a (some view) }

def submitted (σ : Flow ρ) (k : CallKey) : Flow ρ :=
  { σ with submits := σ.submits ++ [k] }

/-- The outstanding `outbound` and `sql` calls that satisfy `cond` are lost. -/
def loseHttpAndSql (σ : Flow ρ) (cond : Nat → Prop) [DecidablePred cond] : Flow ρ :=
  { σ with call := fun k => (σ.call k).map fun view =>
      if (k.1 = .outbound ∨ k.1 = .sql) ∧ cond view.task ∧ view.status.outstanding then
        { view with status := .lost } else view }

open Classical in
/-- `fn_cancel_session`, with `live` the tasks it stops in the order it visits
them and `finish` what it writes as the result. -/
noncomputable def cancelled (σ : Flow ρ) (s : Nat) (finish : ρ → ρ) (live : List Nat) : Flow ρ where
  session := if σ.session s = some .opened then Function.update σ.session s (some .cancelled) else σ.session
  task t := (σ.task t).map fun view => if t ∈ live then
    { view with status := .cancelled, steps := view.steps + 1, result := finish view.result } else view
  call k := (σ.call k).map fun view =>
    if (k.1 = .outbound ∨ k.1 = .sql) ∧ (∃ task, σ.task view.task = some task ∧ task.session = s) ∧
      view.status.outstanding then { view with status := .lost } else view
  approval a := (σ.approval a).map fun view =>
    if (∃ task, σ.task view.task = some task ∧ task.session = s) ∧ view.status = .pending then
      { view with status := .rejected } else view
  llmRows := σ.llmRows
  journal := σ.journal ++ live.flatMap fun t => σ.statusChange t .cancelled
  submits := σ.submits

/-- No call of the task is queued or in flight. -/
def Free (σ : Flow ρ) (t : Nat) : Prop :=
  ∀ k view, σ.call k = some view → view.task = t → view.status.outstanding = false

/-- Every task of the session is terminal. -/
def Idle (σ : Flow ρ) (s : Nat) : Prop :=
  ∀ t view, σ.task t = some view → view.session = s → view.status.terminal = true

/-- `maybe_complete_session`: an idle open session is closed. -/
inductive Closes (s : Nat) (σ : Flow ρ) : Flow ρ → Prop
  | busy : ¬ σ.Idle s → Closes s σ σ
  | closed : σ.Idle s → σ.session s ≠ some .opened → Closes s σ σ
  | close (status : SessionStatus) : σ.Idle s → status ≠ .opened → Closes s σ (σ.setSession s status)

/-- What one call of `fn_submit_result` does with a running task. -/
inductive Effect (t : Nat) (view : TaskView ρ) (σ : Flow ρ) : Flow ρ → Prop
  | proceed : Effect t view σ (σ.setTask t { view with steps := view.steps + 1 })
  | fail {σ' : Flow ρ} (steps : Nat) (result : ρ) : steps = view.steps ∨ steps = view.steps + 1 →
      Closes view.session (σ.setTask t { view with status := .failed, steps := steps, result := result }) σ' →
      Effect t view σ σ'
  | complete {σ' : Flow ρ} (result : ρ) :
      Closes view.session
        (σ.setTask t { view with status := .completed, steps := view.steps + 1, result := result }) σ' →
      Effect t view σ σ'
  | queue (k : CallKey) : σ.call k = none →
      Effect t view σ ((σ.addCall k t false).setTask t { view with steps := view.steps + 1 })
  | spawn (child : Nat) (blank : ρ) : σ.task child = none → child ≠ t →
      Effect t view σ ((σ.addTask child ⟨view.session, some t, .queued, 0, blank⟩).setTask t
        { view with steps := view.steps + 1 })
  | handOff (child : Nat) (blank result : ρ) : σ.task child = none → child ≠ t →
      Effect t view σ ((σ.addTask child ⟨view.session, some t, .queued, 0, blank⟩).setTask t
        { view with status := .completed, steps := view.steps + 1, result := result })
  | pause (a : Nat) : (∀ other, σ.approval other ≠ none → other < a) →
      Effect t view σ ((σ.setTask t { view with status := .waitingHuman, steps := view.steps + 1 }).setApproval a
        ⟨t, .pending⟩)
  | park : Effect t view σ (σ.setTask t { view with status := .waitingChildren, steps := view.steps + 1 })

/-- The moves that some result has to single out. -/
inductive Event
  | plain
  | dispatch (t limit : Nat)
  | report (t : Nat)
  | swallow (k : CallKey)
  | timeout (t : Nat)
  | cancel (s : Nat)

/-- The moves of the protocol. Each keeps the sessions and the tasks in step;
the guards are the conditions that the code itself checks. -/
inductive Move : Event → Flow ρ → Flow ρ → Prop
  | create {σ : Flow ρ} (s t : Nat) (blank : ρ) : σ.session s = none → σ.task t = none →
      Move .plain σ ((σ.setSession s .opened).addTask t ⟨s, none, .queued, 0, blank⟩)
  | reopen {σ : Flow ρ} (s t : Nat) (blank : ρ) : σ.session s ≠ none → σ.task t = none →
      Move .plain σ ((σ.setSession s .opened).addTask t ⟨s, none, .queued, 0, blank⟩)
  | start {σ : Flow ρ} {view : TaskView ρ} (t : Nat) : σ.task t = some view → view.status = .queued →
      Move .plain σ (σ.setTask t { view with status := .running })
  | dispatch {σ : Flow ρ} {view : TaskView ρ} (t limit : Nat) (k : CallKey) : σ.task t = some view →
      view.status = .running → σ.Free t → view.steps < limit → σ.call k = none →
      Move (.dispatch t limit) σ (σ.addCall k t true)
  | report {σ σ' : Flow ρ} {view : TaskView ρ} (t : Nat) : σ.task t = some view → view.status = .running →
      Effect t view σ σ' → Move (.report t) σ σ'
  | claim {σ : Flow ρ} {call : CallView} {view : TaskView ρ} (k : CallKey) : σ.call k = some call →
      call.status = .queued → σ.task call.task = some view → view.status = .running →
      Move .plain σ (σ.setCall k { call with status := .inFlight })
  | discard {σ : Flow ρ} {call : CallView} (k : CallKey) (status : CallStatus) : σ.call k = some call →
      call.status = .inFlight → status = .harvested ∨ status = .lost →
      (∀ view, σ.task call.task = some view → view.status ≠ .running) →
      Move .plain σ (σ.setCall k { call with status := status })
  | settle {σ σ' : Flow ρ} {call : CallView} {view : TaskView ρ} (k : CallKey) (status : CallStatus) :
      σ.call k = some call → call.status = .inFlight → status = .harvested ∨ status = .lost →
      σ.task call.task = some view → view.status = .running →
      Effect call.task view ((σ.setCall k { call with status := status }).submitted k) σ' → Move .plain σ σ'
  | swallow {σ : Flow ρ} {call : CallView} {view : TaskView ρ} (k : CallKey) (status : CallStatus) :
      σ.call k = some call → call.status = .inFlight → status = .harvested ∨ status = .lost →
      σ.task call.task = some view → view.status = .running →
      Move (.swallow k) σ ((σ.setCall k { call with status := status }).submitted k)
  | ambiguous {σ : Flow ρ} {call : CallView} {view : TaskView ρ} (k : CallKey) (a : Nat) :
      σ.call k = some call → call.status = .inFlight → call.llm = false → σ.task call.task = some view →
      view.status = .running → (∀ other, σ.approval other ≠ none → other < a) →
      Move .plain σ (((σ.setCall k { call with status := .lost }).setTask call.task
        { view with status := .waitingHuman }).setApproval a ⟨call.task, .pending⟩)
  | approve {σ : Flow ρ} {view : TaskView ρ} (a t : Nat) : σ.approval a = some ⟨t, .pending⟩ →
      σ.task t = some view → view.status = .waitingHuman →
      Move .plain σ ((σ.setApproval a ⟨t, .approved⟩).setTask t
        { view with status := .queued, steps := view.steps + 1 })
  | reject {σ σ' : Flow ρ} {view : TaskView ρ} (a t : Nat) (result : ρ) : σ.approval a = some ⟨t, .pending⟩ →
      σ.task t = some view → view.status = .waitingHuman →
      Closes view.session ((σ.setApproval a ⟨t, .rejected⟩).setTask t
        { view with status := .failed, steps := view.steps + 1, result := result }) σ' →
      Move .plain σ σ'
  | decideStale {σ : Flow ρ} (a t : Nat) (status : ApprovalStatus) : σ.approval a = some ⟨t, .pending⟩ →
      status ≠ .pending → (∀ view, σ.task t = some view → view.status ≠ .waitingHuman) →
      Move .plain σ (σ.setApproval a ⟨t, status⟩)
  | timeout {σ σ' : Flow ρ} {view : TaskView ρ} (t : Nat) (result : ρ) : σ.task t = some view →
      view.status = .running ∨ view.status = .waitingHuman ∨ view.status = .waitingChildren →
      Closes view.session ((σ.setTask t
        { view with status := .failed, steps := view.steps + 1, result := result }).loseHttpAndSql (· = t)) σ' →
      Move (.timeout t) σ σ'
  | wake {σ : Flow ρ} {view : TaskView ρ} (t : Nat) : σ.task t = some view → view.status = .waitingChildren →
      (∀ c child, σ.task c = some child → child.parent = some t → child.status.terminal = true) →
      Move .plain σ (σ.setTask t { view with status := .queued, steps := view.steps + 1 })
  | cancel {σ : Flow ρ} (s : Nat) (finish : ρ → ρ) (live : List Nat) : σ.session s ≠ none → live.Nodup →
      (∀ t, t ∈ live ↔ ∃ view, σ.task t = some view ∧ view.session = s ∧ view.status.terminal = false) →
      Move (.cancel s) σ (σ.cancelled s finish live)

end Flow

end Allgres
