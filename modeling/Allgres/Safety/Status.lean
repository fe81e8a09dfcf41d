import Allgres.Machine
import Allgres.Protocol.Journal
import Allgres.Protocol.Sessions

/-! Tasks that have ended stay as they are, and sessions follow their tasks. -/

namespace Allgres

open Relational Jsonb Sql Runs

variable {db db' start : Db}

/-! ### Tasks -/

/-- Everything a terminal task leaves behind is still there. -/
def Flow.Absorbs (σ σ' : Flow Left) : Prop :=
  ∀ t view, σ.task t = some view → view.status.terminal = true → σ'.task t = some view

theorem absorbs_of_run {allowed : Label → Db → Bool} (run : Run allowed db db') : Flow.Absorbs db.flow db'.flow := by
  have trans (a b c : Flow Left) (first : Flow.Absorbs a b) (second : Flow.Absorbs b c) : Flow.Absorbs a c :=
    fun t view found ended => second t view (first t view found ended) ended
  refine run.relates (P := fun _ => True) (R := fun before after => Flow.Absorbs before.flow after.flow)
    (fun _ _ _ found _ => found) (fun _ _ _ => trans _ _ _) (fun _ _ _ _ _ _ => trivial) ?_ trivial
  intro label before after step _ _
  refine step.path.relates (P := fun _ => True) (fun _ _ _ found _ => found) trans (fun _ _ _ _ _ _ => trivial)
    ?_ trivial
  intro event σ σ' move _ _ t view found ended
  have taken := move.task_step t
  rw [found] at taken
  exact taken.terminal ended

theorem Fresh.recorded (fresh : Fresh db) : Flow.Recorded db.flow where
  lawful := by
    rw [show db.flow.journal = [] from fresh.journal]
    exact .nil
  current t view found := by cases (fresh.task t).symm.trans found
  absent t _ := by
    rw [show db.flow.journal = [] from fresh.journal]
    rfl

theorem recorded_of_run {allowed : Label → Db → Bool} (fresh : Fresh start) (run : Run allowed start db) :
    Flow.Recorded db.flow :=
  flow_invariant (fun _ _ => True) (fun _ _ _ move _ => move.recorded) (fun _ _ _ _ _ _ => trivial) run
    fresh.recorded

/-- A terminal task keeps its status, output, error and step count for good.
The journal holds every change of a status: each starts from the status that
the earlier ones left, is one of the edges, and the last ones are the present statuses. -/
theorem terminal_tasks_absorbing (fresh : Fresh start) (run : Run Label.any start db) :
    (∀ db', Run Label.any db db' → ∀ t task, db.tasks.get? t = some task → task.status.terminal = true →
      ∃ later, db'.tasks.get? t = some later ∧ later.status = task.status ∧ later.output = task.output ∧
        later.error = task.error ∧ later.stepCount = task.stepCount) ∧
    Lawful db.journal ∧ (∀ write ∈ db.journal, Flow.edge write.old write.new = true) ∧
    ∀ t task, db.tasks.get? t = some task → replay db.journal t = task.status := by
  have recorded := recorded_of_run fresh run
  refine ⟨?_, recorded.lawful, fun write => recorded.lawful.edge, ?_⟩
  · intro db' after t task found ended
    obtain ⟨later, there, same⟩ := flow_task_some (absorbs_of_run after t task.view (flow_task found) ended)
    simp only [TaskRow.view, TaskView.mk.injEq, Prod.mk.injEq] at same
    obtain ⟨-, -, status, steps, output, error⟩ := same
    exact ⟨later, there, status, output, error, steps⟩
  · intro t task found
    exact recorded.current t task.view (flow_task found)

theorem terminal_tasks_absorbing_cancelled :
    ∃ db, Run Label.any (helperDb (helperPolicy 5 none)) db ∧
      (db.tasks.get? 0).any (fun task => task.status == .cancelled) = true ∧ Lawful db.journal := by
  obtain ⟨db, run, cancelled⟩ := run_reaching (show ((runAll Label.any (helperDb (helperPolicy 5 none))
    [(.bare, .createSession 0 (some "sum up") none none), (.bare, .nextStep 0),
      (.bare, .cancelSession 0 none)]).any fun db =>
      (db.tasks.get? 0).any fun task => task.status == .cancelled) = true by decide +kernel)
  exact ⟨db, run, cancelled, (terminal_tasks_absorbing (helperDb_fresh _) run).2.1⟩

/-! ### Sessions -/

theorem Fresh.tracks (fresh : Fresh db) : Flow.Tracks db.flow where
  known t view found := by cases (fresh.task t).symm.trans found
  opened s known := absurd (fresh.session s) known

theorem tracks_of_run {allowed : Label → Db → Bool} (fresh : Fresh start) (run : Run allowed start db) :
    Flow.Tracks db.flow :=
  flow_invariant (fun _ _ => True) (fun _ _ _ move _ => move.tracks) (fun _ _ _ _ _ _ => trivial) run
    fresh.tracks

/-- A session is open exactly while one of its tasks is not terminal. -/
theorem session_open_iff_live_task (fresh : Fresh start) (run : Run Label.any start db) {s : Nat}
    {session : SessionRow} (found : db.sessions.get? s = some session) :
    session.status = .opened ↔
      ∃ t task, db.tasks.get? t = some task ∧ task.sessionId = s ∧
        (task.status = .queued ∨ task.status = .running ∨ task.status = .waitingHuman ∨
          task.status = .waitingChildren) := by
  have live (status : TaskStatus) : status.terminal = false ↔
      status = .queued ∨ status = .running ∨ status = .waitingHuman ∨ status = .waitingChildren := by
    cases status <;> simp [TaskStatus.terminal]
  have known : db.flow.session s = some session.status := by simp only [Db.flow, found, Option.map_some]
  have tracked := (tracks_of_run fresh run).opened s (by rw [known]; simp)
  rw [known, Option.some.injEq] at tracked
  rw [tracked]
  simp only [← live]
  constructor
  · intro busy
    by_contra none
    refine busy fun t view there owned => ?_
    obtain ⟨task, row, rfl⟩ := flow_task_some there
    by_contra alive
    exact none ⟨t, task, row, owned, Bool.eq_false_of_not_eq_true alive⟩
  · rintro ⟨t, task, row, owned, alive⟩ idle
    have ended : task.status.terminal = true := idle t task.view (flow_task row) owned
    rw [alive] at ended
    cases ended

theorem session_open_iff_live_task_created :
    ∃ db session, Run Label.any (helperDb (helperPolicy 5 none)) db ∧ db.sessions.get? 0 = some session ∧
      session.status = .opened ∧ ∃ t task, db.tasks.get? t = some task ∧ task.sessionId = 0 ∧
        (task.status = .queued ∨ task.status = .running ∨ task.status = .waitingHuman ∨
          task.status = .waitingChildren) := by
  obtain ⟨db, run, opened⟩ := run_reaching (show ((runAll Label.any (helperDb (helperPolicy 5 none))
    [(.bare, .createSession 0 (some "sum up") none none)]).any fun db =>
      (db.sessions.get? 0).any fun session => session.status == .opened) = true by decide +kernel)
  rcases found : db.sessions.get? 0 with _ | session
  · rw [found] at opened
    cases opened
  · rw [found] at opened
    have isOpen : session.status = .opened := by simpa using opened
    exact ⟨db, session, run, found, isOpen, (session_open_iff_live_task (helperDb_fresh _) run found).mp isOpen⟩

end Allgres
