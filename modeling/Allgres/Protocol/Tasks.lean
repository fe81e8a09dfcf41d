import Allgres.Protocol.Flow

namespace Allgres

namespace Flow

variable {ρ : Type} {σ σ' : Flow ρ}

/-- The status changes that the protocol knows. -/
def edge : TaskStatus → TaskStatus → Bool
  | .queued, .running => true
  | .running, .waitingHuman | .running, .waitingChildren | .running, .completed | .running, .failed => true
  | .waitingHuman, .queued | .waitingHuman, .failed => true
  | .waitingChildren, .queued | .waitingChildren, .failed => true
  | old, .cancelled => !old.terminal
  | _, _ => false

theorem edge_not_terminal {old new : TaskStatus} (allowed : edge old new = true) : old.terminal = false := by
  cases old <;> cases new <;> simp_all [edge, TaskStatus.terminal]

/-- A write that the protocol allows on a row of `tasks`. -/
structure Rewrite (old new : TaskView ρ) : Prop where
  live : old.status.terminal = false
  allowed : new.status = old.status ∨ edge old.status new.status = true
  session : new.session = old.session
  parent : new.parent = old.parent
  steps : old.steps ≤ new.steps

/-- What a move may do with one row of `tasks`. -/
inductive TaskStep : Option (TaskView ρ) → Option (TaskView ρ) → Prop
  | same (row : Option (TaskView ρ)) : TaskStep row row
  | born (view : TaskView ρ) : view.status = .queued → view.steps = 0 → TaskStep none (some view)
  | write (old new : TaskView ρ) : Rewrite old new → TaskStep (some old) (some new)

@[simp] theorem setTask_self (t : Nat) (view : TaskView ρ) : (σ.setTask t view).task t = some view := by
  simp [setTask]

theorem setTask_other {t other : Nat} (view : TaskView ρ) (different : other ≠ t) :
    (σ.setTask t view).task other = σ.task other := by
  simp [setTask, different]

@[simp] theorem addTask_self (t : Nat) (view : TaskView ρ) : (σ.addTask t view).task t = some view := by
  simp [addTask]

theorem addTask_other {t other : Nat} (view : TaskView ρ) (different : other ≠ t) :
    (σ.addTask t view).task other = σ.task other := by
  simp [addTask, different]

theorem Closes.task {s : Nat} (closes : Closes s σ σ') : σ'.task = σ.task := by
  cases closes <;> rfl

theorem Closes.call {s : Nat} (closes : Closes s σ σ') : σ'.call = σ.call := by
  cases closes <;> rfl

theorem Closes.approval {s : Nat} (closes : Closes s σ σ') : σ'.approval = σ.approval := by
  cases closes <;> rfl

theorem Closes.llmRows {s : Nat} (closes : Closes s σ σ') : σ'.llmRows = σ.llmRows := by
  cases closes <;> rfl

theorem Closes.journal {s : Nat} (closes : Closes s σ σ') : σ'.journal = σ.journal := by
  cases closes <;> rfl

theorem Closes.submits {s : Nat} (closes : Closes s σ σ') : σ'.submits = σ.submits := by
  cases closes <;> rfl

/-- Writing one row is a step of that row and leaves the others alone. -/
theorem setTask_steps {t : Nat} {old new : TaskView ρ} (found : σ.task t = some old) (rewrites : Rewrite old new)
    (other : Nat) : TaskStep (σ.task other) ((σ.setTask t new).task other) := by
  by_cases same : other = t
  · subst same
    rw [found, setTask_self]
    exact .write old new rewrites
  · rw [setTask_other new same]
    exact .same _

theorem addTask_steps {t : Nat} {view : TaskView ρ} (fresh : σ.task t = none) (queued : view.status = .queued)
    (zero : view.steps = 0) (other : Nat) : TaskStep (σ.task other) ((σ.addTask t view).task other) := by
  by_cases same : other = t
  · subst same
    rw [fresh, addTask_self]
    exact .born view queued zero
  · rw [addTask_other view same]
    exact .same _

/-- A new child and a write to its parent, in one move. -/
theorem spawn_steps {t child : Nat} {old new born : TaskView ρ} (found : σ.task t = some old)
    (fresh : σ.task child = none) (queued : born.status = .queued) (zero : born.steps = 0)
    (rewrites : Rewrite old new) (other : Nat) :
    TaskStep (σ.task other) (((σ.addTask child born).setTask t new).task other) := by
  by_cases same : other = t
  · subst same
    rw [found, setTask_self]
    exact .write old new rewrites
  · rw [setTask_other new same]
    exact addTask_steps fresh queued zero other

/-- A running task may be written with any of the statuses a submission ends in. -/
theorem Rewrite.ofRunning {old new : TaskView ρ} (running : old.status = .running)
    (allowed : new.status = .running ∨ edge .running new.status = true) (session : new.session = old.session)
    (parent : new.parent = old.parent) (steps : old.steps ≤ new.steps) : Rewrite old new where
  live := by rw [running]; rfl
  allowed := by rw [running]; exact allowed
  session := session
  parent := parent
  steps := steps

theorem Effect.task_step {t : Nat} {view : TaskView ρ} (effect : Effect t view σ σ')
    (found : σ.task t = some view) (running : view.status = .running) (other : Nat) :
    TaskStep (σ.task other) (σ'.task other) := by
  cases effect with
  | proceed =>
    apply setTask_steps found
    exact .ofRunning running (.inl running) rfl rfl (Nat.le_succ _)
  | fail steps result counted closes =>
    rw [closes.task]
    apply setTask_steps found
    exact .ofRunning running (.inr rfl) rfl rfl (by rcases counted with rfl | rfl <;> simp)
  | complete result closes =>
    rw [closes.task]
    apply setTask_steps found
    exact .ofRunning running (.inr rfl) rfl rfl (Nat.le_succ _)
  | queue k fresh =>
    apply setTask_steps (σ := σ.addCall k t false) found
    exact .ofRunning running (.inl running) rfl rfl (Nat.le_succ _)
  | spawn child blank fresh apart =>
    apply spawn_steps found fresh rfl rfl
    exact .ofRunning running (.inl running) rfl rfl (Nat.le_succ _)
  | handOff child blank result fresh apart =>
    apply spawn_steps found fresh rfl rfl
    exact .ofRunning running (.inr rfl) rfl rfl (Nat.le_succ _)
  | pause a fresh =>
    apply setTask_steps found
    exact .ofRunning running (.inr rfl) rfl rfl (Nat.le_succ _)
  | park =>
    apply setTask_steps found
    exact .ofRunning running (.inr rfl) rfl rfl (Nat.le_succ _)

/-- Every move treats every row of `tasks` by the protocol. -/
theorem Move.task_step {event : Event} (move : Move event σ σ') (other : Nat) :
    TaskStep (σ.task other) (σ'.task other) := by
  cases move with
  | create s t blank newSession fresh => exact addTask_steps (σ := σ.setSession s .opened) fresh rfl rfl other
  | reopen s t blank known fresh => exact addTask_steps (σ := σ.setSession s .opened) fresh rfl rfl other
  | start t found queued =>
    apply setTask_steps found
    exact ⟨by rw [queued]; rfl, .inr (by rw [queued]; rfl), rfl, rfl, Nat.le_refl _⟩
  | dispatch => exact .same _
  | report t found running effect => exact effect.task_step found running other
  | claim => exact .same _
  | discard => exact .same _
  | @settle _ _ call view k status _ _ _ found running effect =>
    exact effect.task_step (σ := (σ.setCall k { call with status := status }).submitted k) found running other
  | swallow => exact .same _
  | @ambiguous _ call view k a _ _ _ found running _ =>
    apply setTask_steps (σ := σ.setCall k { call with status := .lost }) found
    exact .ofRunning running (.inr rfl) rfl rfl (Nat.le_refl _)
  | approve a t pending found waiting =>
    apply setTask_steps (σ := σ.setApproval a ⟨t, .approved⟩) found
    exact ⟨by rw [waiting]; rfl, .inr (by rw [waiting]; rfl), rfl, rfl, Nat.le_succ _⟩
  | reject a t result pending found waiting closes =>
    rw [closes.task]
    apply setTask_steps (σ := σ.setApproval a ⟨t, .rejected⟩) found
    exact ⟨by rw [waiting]; rfl, .inr (by rw [waiting]; rfl), rfl, rfl, Nat.le_succ _⟩
  | decideStale => exact .same _
  | @timeout _ _ view t result found active closes =>
    rw [closes.task]
    apply setTask_steps (σ := σ) found
    rcases active with now | now | now
    all_goals exact ⟨by rw [now]; rfl, .inr (by rw [now]; rfl), rfl, rfl, Nat.le_succ _⟩
  | wake t found waiting done =>
    apply setTask_steps found
    exact ⟨by rw [waiting]; rfl, .inr (by rw [waiting]; rfl), rfl, rfl, Nat.le_succ _⟩
  | cancel s finish live known nodup exactly =>
    simp only [cancelled]
    by_cases member : other ∈ live
    · obtain ⟨view, found, -, running⟩ := (exactly other).mp member
      rw [found]
      simp only [member, if_true, Option.map_some]
      refine .write view _ ⟨running, .inr ?_, rfl, rfl, Nat.le_succ _⟩
      cases now : view.status <;> simp_all [edge, TaskStatus.terminal]
    · simp only [member, if_false, Option.map_id']
      exact .same _

/-- A terminal row never changes. -/
theorem TaskStep.terminal {old : TaskView ρ} {row : Option (TaskView ρ)} (step : TaskStep (some old) row)
    (ended : old.status.terminal = true) : row = some old := by
  cases step with
  | same => rfl
  | write _ new rewrites =>
    have live := rewrites.live
    rw [ended] at live
    cases live

/-- A row stays, with its session and its parent, and its step count does not go down. -/
theorem TaskStep.kept {old : TaskView ρ} {row : Option (TaskView ρ)} (step : TaskStep (some old) row) :
    ∃ new, row = some new ∧ new.session = old.session ∧ new.parent = old.parent ∧ old.steps ≤ new.steps := by
  cases step with
  | same => exact ⟨old, rfl, rfl, rfl, Nat.le_refl _⟩
  | write _ new rewrites => exact ⟨new, rfl, rewrites.session, rewrites.parent, rewrites.steps⟩

end Flow

end Allgres
