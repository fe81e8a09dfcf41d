import Allgres.Writes.Machine

/-! What a session reports of its latest turn once it is closed. -/

namespace Allgres

open Relational Jsonb Sql Runs

variable {env : Env} {mark : Mark} {σ σ' : Core} {s t : Nat} {task : TaskRow} {session : SessionRow}

def SessionStatus.closed : SessionStatus → Bool
  | completed | failed => true
  | _ => false

def TaskRow.answer (task : TaskRow) : Option String :=
  task.output.bind fun output => output.getText? "answer"

/-! ### The answer of a session -/

/-- The task is a turn of the session: one of its root tasks. -/
structure Turned (tasks : Table TaskRow) (s t : Nat) (task : TaskRow) : Prop where
  found : tasks.get? t = some task
  belongs : task.sessionId = s
  root : task.parentTaskId = none

/-- The session has a completed turn with that answer, and it was completed after all others. -/
def LastAnswer (tasks : Table TaskRow) (s : Nat) (text : String) : Prop :=
  ∃ t task, Turned tasks s t task ∧ task.status = .completed ∧ task.answer = some text ∧
    ∀ u other, Turned tasks s u other → other.status = .completed → u ≠ t → other.updatedAt < task.updatedAt

/-- The turns of the session have been completed one after another. -/
def Consecutive (tasks : Table TaskRow) (s : Nat) : Prop :=
  ∀ t u task other, Turned tasks s t task → Turned tasks s u other → task.status = .completed →
    other.status = .completed → t ≠ u → task.updatedAt ≠ other.updatedAt

private abbrev recent (a b : Nat × TaskRow) : Prop := b.2.updatedAt ≤ a.2.updatedAt

theorem mem_completed {tasks : Table TaskRow} : ((t, task) ∈ tasks.select fun _ task =>
    task.sessionId == s && task.status == .completed && task.parentTaskId.isNone) ↔
      Turned tasks s t task ∧ task.status = .completed := by
  rw [Table.mem_select]
  simp only [Bool.and_eq_true, beq_iff_eq, Option.isNone_iff_eq_none]
  constructor
  · rintro ⟨found, ⟨belongs, completed⟩, root⟩
    exact ⟨⟨found, belongs, root⟩, completed⟩
  · rintro ⟨turned, completed⟩
    exact ⟨turned.found, ⟨turned.belongs, completed⟩, turned.root⟩

theorem answerIn_eq_some {tasks : Table TaskRow} {text : String} (apart : Consecutive tasks s) :
    answerIn tasks s = some text ↔ LastAnswer tasks s text := by
  unfold answerIn
  dsimp only
  set completed := tasks.select fun _ task =>
    task.sessionId == s && task.status == .completed && task.parentTaskId.isNone with listed
  have sorted : (completed.insertionSort recent).Pairwise recent := by
    have total : Std.Total recent := ⟨fun a b => Int.le_total b.2.updatedAt a.2.updatedAt⟩
    have trans : IsTrans (Nat × TaskRow) recent := ⟨fun a b c first second => Int.le_trans second first⟩
    exact List.pairwise_insertionSort recent completed
  have members (entry : Nat × TaskRow) : entry ∈ completed.insertionSort recent ↔ entry ∈ completed :=
    List.mem_insertionSort recent
  constructor
  · intro answered
    obtain ⟨⟨t, task⟩, first, answer⟩ := Option.bind_eq_some_iff.mp answered
    obtain ⟨rest, shape⟩ := List.head?_eq_some_iff.mp first
    have here := (members (t, task)).mp (shape ▸ List.mem_cons_self)
    obtain ⟨turned, done⟩ := mem_completed.mp here
    refine ⟨t, task, turned, done, answer, fun u other turned' done' different => ?_⟩
    have there := (members (u, other)).mpr (mem_completed.mpr ⟨turned', done'⟩)
    have distinct := apart t u task other turned turned' done done' different.symm
    rw [shape] at there sorted
    rcases List.mem_cons.mp there with same | later
    · exact absurd (congrArg Prod.fst same) different
    · have earlier : other.updatedAt ≤ task.updatedAt := (List.pairwise_cons.mp sorted).1 _ later
      exact lt_of_le_of_ne earlier distinct.symm
  · intro ⟨t, task, turned, done, answer, latest⟩
    have here := (members (t, task)).mpr (mem_completed.mpr ⟨turned, done⟩)
    rcases shape : completed.insertionSort recent with _ | ⟨⟨u, other⟩, rest⟩
    · rw [shape] at here
      cases here
    · rw [shape] at here sorted
      have first := (members (u, other)).mp (shape ▸ List.mem_cons_self)
      obtain ⟨turned', done'⟩ := mem_completed.mp first
      rcases List.mem_cons.mp here with same | later
      · rw [List.head?_cons, Option.bind_some, ← same]
        exact answer
      · have order : task.updatedAt ≤ other.updatedAt := (List.pairwise_cons.mp sorted).1 _ later
        by_cases same : u = t
        · subst same
          obtain rfl := Option.some.inj (turned.found.symm.trans turned'.found)
          rw [List.head?_cons, Option.bind_some]
          exact answer
        · have before := latest u other turned' done' same
          exact absurd order (not_le.mpr before)

/-! ### What holds of the turns of a session -/

/-- The tasks of one session are the same. -/
structure SameTasks (s : Nat) (tasks tasks' : Table TaskRow) : Prop where
  rows : ∀ t task, task.sessionId = s → tasks'.get? t = some task → tasks.get? t = some task
  kept : ∀ t task, task.sessionId = s → tasks.get? t = some task → tasks'.get? t = some task
  answer : answerIn tasks' s = answerIn tasks s

theorem SameTasks.insert {tasks : Table TaskRow} {row : TaskRow} (elsewhere : row.sessionId ≠ s) :
    SameTasks s tasks (tasks.insert row) where
  rows t task belongs found := by
    rw [Table.get?_insert] at found
    split at found
    · obtain rfl := Option.some.inj found
      exact absurd belongs elsewhere
    · exact found
  kept t task _ found := Table.get?_insert_old row found
  answer := by
    unfold answerIn
    rw [Table.select_insert_unfit (by simp [elsewhere])]

theorem SameTasks.modify {tasks : Table TaskRow} {old new : TaskRow} (found : tasks.get? t = some old)
    (elsewhere : old.sessionId ≠ s) (moved : new.sessionId = old.sessionId) :
    SameTasks s tasks (tasks.modify t fun _ => new) where
  rows u task belongs now := by
    rw [Table.get?_modify] at now
    split at now
    · rename_i same
      rw [same, found] at now
      obtain rfl := Option.some.inj now
      exact absurd (moved.symm.trans belongs) elsewhere
    · exact now
  kept u task belongs here := by
    rw [Table.get?_modify]
    split
    · rename_i same
      rw [same, found] at here
      obtain rfl := Option.some.inj here
      exact absurd belongs elsewhere
    · exact here
  answer := by
    unfold answerIn
    rw [Table.select_modify_unfit found (by simp [elsewhere]) (by simp [moved, elsewhere])]

/-- What a closed session took over from its tasks still agrees with them. -/
structure Concluded (tasks : Table TaskRow) (s : Nat) (session : SessionRow) : Prop where
  idle : ∀ t task, tasks.get? t = some task → task.sessionId = s → task.status.terminal = true
  failed : session.status = .failed → answerIn tasks s = none ∧
    ∃ t task, tasks.get? t = some task ∧ task.sessionId = s ∧ task.status = .failed
  completed : session.status = .completed → ((answerIn tasks s).isSome ∨ ∀ t task, tasks.get? t = some task →
    task.sessionId = s → task.status ≠ .failed) ∧ ∀ text, answerIn tasks s = some text → session.finalAnswer = some text

theorem Concluded.congr {tasks tasks' : Table TaskRow} {old new : SessionRow} (concluded : Concluded tasks s old)
    (same : SameTasks s tasks tasks') (status : new.status = old.status) (answer : new.finalAnswer = old.finalAnswer) :
    Concluded tasks' s new where
  idle t task found belongs := concluded.idle t task (same.rows t task belongs found) belongs
  failed broken := by
    obtain ⟨none, t, task, found, belongs, failed⟩ := concluded.failed (status ▸ broken)
    exact ⟨same.answer.trans none, t, task, same.kept t task belongs found, belongs, failed⟩
  completed done := by
    obtain ⟨reason, final⟩ := concluded.completed (status ▸ done)
    rw [same.answer, answer]
    refine ⟨reason.imp_right fun sound t task found belongs => ?_, final⟩
    exact sound t task (same.rows t task belongs found) belongs

theorem SumsUp.concluded {tasks : Table TaskRow} {old new : SessionRow} (sums : SumsUp tasks s old new)
    (idle : ∀ t task, tasks.get? t = some task → task.sessionId = s → task.status.terminal = true) :
    Concluded tasks s new where
  idle := idle
  failed broken := by
    cases sums with
    | failed none some => exact ⟨none, some⟩
    | completed _ status => rw [status] at broken; cases broken
  completed done := by
    cases sums with
    | failed _ _ status => rw [status] at done; cases done
    | completed reason _ final =>
      refine ⟨reason, fun text answered => ?_⟩
      rw [final, answered, Option.some_or]

/-- Turns follow one another, and a closed session has concluded. -/
structure Turns (σ : Core) : Prop where
  known : ∀ t task, σ.tasks.get? t = some task → task.sessionId < σ.sessions.next
  dated : ∀ s t task, Turned σ.tasks s t task → task.createdAt ≤ task.updatedAt
  ended : ∀ s t u task other, Turned σ.tasks s t task → Turned σ.tasks s u other → t ≠ u →
    task.createdAt ≤ other.createdAt → task.status.terminal = true ∧ task.updatedAt < other.createdAt
  concluded : ∀ s session, σ.sessions.get? s = some session → session.status.closed = true →
    Concluded σ.tasks s session

/-- Nothing is dated later than the clock. -/
def Core.Dated (σ : Core) (now : Time) : Prop :=
  ∀ s t task, Turned σ.tasks s t task → task.updatedAt ≤ now

/-- A turn is only added where all that was written before is dated earlier. -/
def Forward (now : Time) : Mark → Core → Prop
  | .turn, σ => ∀ s t task, Turned σ.tasks s t task → task.updatedAt < now
  | _, _ => True

/-- A session of a live task is not closed. -/
theorem Turns.elsewhere (turns : Turns σ) (found : σ.tasks.get? t = some task) (live : task.status.terminal = false)
    (here : σ.sessions.get? s = some session) (closed : session.status.closed = true) : task.sessionId ≠ s := by
  intro belongs
  have ended := (turns.concluded s session here closed).idle t task found belongs
  rw [live] at ended
  cases ended

theorem Turned.of_modify {tasks : Table TaskRow} {old new row : TaskRow} {u : Nat} (found : tasks.get? t = some old)
    (kin : Kin old new) (turned : Turned (tasks.modify t fun _ => new) s u row) :
    u = t ∧ row = new ∧ Turned tasks s t old ∨ u ≠ t ∧ Turned tasks s u row := by
  have now := turned.found
  rw [Table.get?_modify] at now
  split at now
  · rename_i same
    rw [same, found] at now
    obtain rfl := Option.some.inj now
    exact .inl ⟨same, rfl, found, kin.session ▸ turned.belongs, kin.parent ▸ turned.root⟩
  · rename_i other
    exact .inr ⟨other, now, turned.belongs, turned.root⟩

theorem Turned.of_insert {tasks : Table TaskRow} {new row : TaskRow} {u : Nat}
    (turned : Turned (tasks.insert new) s u row) :
    u = tasks.next ∧ row = new ∨ Turned tasks s u row := by
  have now := turned.found
  rw [Table.get?_insert] at now
  split at now
  · rename_i newest
    exact .inl ⟨newest, (Option.some.inj now).symm⟩
  · exact .inr ⟨now, turned.belongs, turned.root⟩

theorem Answers.next {sessions sessions' : Table SessionRow} {new : TaskRow} (answers : Answers sessions new sessions') :
    sessions'.next = sessions.next := by
  cases answers <;> rfl

theorem Answers.row {sessions sessions' : Table SessionRow} {new : TaskRow} (answers : Answers sessions new sessions')
    (found : sessions'.get? s = some session) (elsewhere : new.sessionId ≠ s) : sessions.get? s = some session := by
  cases answers with
  | none => exact found
  | answer text => rwa [Table.get?_modify, if_neg elsewhere.symm] at found

theorem Answers.status {sessions sessions' : Table SessionRow} {new : TaskRow} (answers : Answers sessions new sessions')
    (found : sessions'.get? s = some session) :
    ∃ old, sessions.get? s = some old ∧ old.status = session.status := by
  cases answers with
  | none => exact ⟨session, found, rfl⟩
  | answer text =>
    rw [Table.get?_modify] at found
    split at found
    · obtain ⟨old, here, rfl⟩ := Option.map_eq_some_iff.mp found
      exact ⟨old, here, rfl⟩
    · exact ⟨session, found, rfl⟩

theorem Turns.modify {old new : TaskRow} {sessions : Table SessionRow} (turns : Turns σ) (dated : σ.Dated env.now)
    (found : σ.tasks.get? t = some old) (kin : Kin old new) (live : old.status.terminal = false)
    (updated : new.updatedAt = env.now) (answers : Answers σ.sessions new sessions) :
    Turns { σ with tasks := σ.tasks.modify t fun _ => new, sessions := sessions } where
  known u row now := by
    rw [answers.next]
    rw [Table.get?_modify] at now
    split at now
    · rename_i same
      rw [same, found] at now
      obtain rfl := Option.some.inj now
      have before := turns.known t old found
      rwa [← kin.session] at before
    · exact turns.known u row now
  dated s u row turned := by
    rcases turned.of_modify found kin with ⟨rfl, rfl, before⟩ | ⟨-, before⟩
    · have first := turns.dated s u old before
      have second := dated s u old before
      rw [kin.created, updated]
      exact first.trans second
    · exact turns.dated s u row before
  ended s u v row other turned turned' different order := by
    rcases turned.of_modify found kin with ⟨rfl, rfl, before⟩ | ⟨-, before⟩
    · rcases turned'.of_modify found kin with ⟨rfl, -, -⟩ | ⟨-, before'⟩
      · exact absurd rfl different
      · have done := (turns.ended s u v old other before before' different (kin.created ▸ order)).1
        rw [live] at done
        cases done
    · rcases turned'.of_modify found kin with ⟨rfl, rfl, before'⟩ | ⟨-, before'⟩
      · rw [kin.created] at order ⊢
        exact turns.ended s u v row old before before' different order
      · exact turns.ended s u v row other before before' different order
  concluded s session here closed := by
    obtain ⟨before, was, status⟩ := answers.status here
    have elsewhere := turns.elsewhere found live was (status ▸ closed)
    have same := answers.row here (by rwa [kin.session])
    exact (turns.concluded s session same closed).congr (.modify found elsewhere kin.session) rfl rfl

/-- A row that belongs to a session that is not closed may be added where it is no turn, or the latest one. -/
theorem Turns.insert {row : TaskRow} {sessions : Table SessionRow} (turns : Turns σ)
    (known : row.sessionId < sessions.next) (grows : σ.sessions.next ≤ sessions.next)
    (fresh : row.parentTaskId = none → row.createdAt ≤ row.updatedAt ∧ ∀ t task, Turned σ.tasks row.sessionId t task →
      task.status.terminal = true ∧ task.updatedAt < row.createdAt)
    (kept : ∀ s session, sessions.get? s = some session → session.status.closed = true →
      σ.sessions.get? s = some session ∧ row.sessionId ≠ s) :
    Turns { σ with tasks := σ.tasks.insert row, sessions := sessions } where
  known u other now := by
    rw [Table.get?_insert] at now
    split at now
    · obtain rfl := Option.some.inj now
      exact known
    · exact lt_of_lt_of_le (turns.known u other now) grows
  dated s u other turned := by
    rcases turned.of_insert with ⟨-, rfl⟩ | before
    · exact (fresh turned.root).1
    · exact turns.dated s u other before
  ended s u v first second turned turned' different order := by
    rcases turned.of_insert with ⟨rfl, rfl⟩ | before
    · rcases turned'.of_insert with ⟨rfl, -⟩ | before'
      · exact absurd rfl different
      · have belongs := turned.belongs
        subst belongs
        have earlier := ((fresh turned.root).2 v second before').2
        have dated := turns.dated _ v second before'
        exact absurd (order.trans dated) (not_le.mpr earlier)
    · rcases turned'.of_insert with ⟨rfl, rfl⟩ | before'
      · have belongs := turned'.belongs
        subst belongs
        exact (fresh turned'.root).2 u first before
      · exact turns.ended s u v first second before before' different order
  concluded s session here closed := by
    obtain ⟨was, elsewhere⟩ := kept s session here closed
    exact (turns.concluded s session was closed).congr (.insert elsewhere) rfl rfl

theorem Turns.of_sessions (turns : Turns σ) (tasks : σ'.tasks = σ.tasks) (next : σ'.sessions.next = σ.sessions.next)
    (closed : ∀ s session, σ'.sessions.get? s = some session → session.status.closed = true →
      Concluded σ.tasks s session) : Turns σ' where
  known t task found := next ▸ turns.known t task (tasks ▸ found)
  dated s t task turned := turns.dated s t task (tasks ▸ turned)
  ended s t u task other turned turned' := turns.ended s t u task other (tasks ▸ turned) (tasks ▸ turned')
  concluded s session here ends := tasks ▸ closed s session here ends

theorem movedSessions_row {sessions : Table SessionRow} {target : Option Nat} {cutoff : Option Time}
    (found : (movedSessions sessions target cutoff).get? s = some session) :
    ∃ old, sessions.get? s = some old ∧ session.status = old.status ∧ session.finalAnswer = old.finalAnswer := by
  unfold movedSessions at found
  split at found
  · exact ⟨session, found, rfl, rfl⟩
  · rw [Table.get?_modify] at found
    split at found
    · obtain ⟨old, here, rfl⟩ := Option.map_eq_some_iff.mp found
      exact ⟨old, here, rfl, rfl⟩
    · exact ⟨session, found, rfl, rfl⟩

theorem Core.Dated.insert {row : TaskRow} {sessions : Table SessionRow} {now : Time} (dated : σ.Dated now)
    (updated : row.parentTaskId = none → row.updatedAt ≤ now) :
    Core.Dated { σ with tasks := σ.tasks.insert row, sessions := sessions } now := by
  intro s u other turned
  rcases turned.of_insert with ⟨-, rfl⟩ | before
  · exact updated turned.root
  · exact dated s u other before

theorem Write.turns (write : Write env mark σ σ') (forward : Forward env.now mark σ) (turns : Turns σ)
    (dated : σ.Dated env.now) : Turns σ' ∧ σ'.Dated env.now := by
  cases write with
  | @task _ _ t old sessions new found kin live shift updated answers =>
    refine ⟨turns.modify dated found kin live updated answers, fun s u row turned => ?_⟩
    rcases turned.of_modify found kin with ⟨rfl, rfl, -⟩ | ⟨-, before⟩
    · exact updated.le
    · exact dated s u row before
  | openTask row opened placed =>
    refine ⟨?_, dated.insert fun _ => opened.updated.le⟩
    have stamps : row.createdAt ≤ row.updatedAt := (opened.created.trans opened.updated.symm).le
    cases placed with
    | @turn session found status alone =>
      refine turns.insert (Table.get?_lt_next found) (Nat.le_refl _) ?_ ?_
      · intro _
        refine ⟨stamps, fun t task turned => ⟨alone t task turned.found turned.belongs turned.root, ?_⟩⟩
        rw [opened.created]
        exact forward _ t task turned
      · intro s other here closed
        refine ⟨here, fun same => ?_⟩
        subst same
        obtain rfl := Option.some.inj (found.symm.trans here)
        rw [status] at closed
        cases closed
    | session new belongs status _ =>
      have next : (σ.sessions.insert new).next = σ.sessions.next + 1 := rfl
      refine turns.insert (by omega) (by omega) ?_ ?_
      · intro _
        refine ⟨stamps, fun t task turned => ?_⟩
        have before := turns.known t task turned.found
        have same := turned.belongs
        omega
      · intro s other here closed
        rw [Table.get?_insert] at here
        split at here
        · obtain rfl := Option.some.inj here
          rw [status] at closed
          cases closed
        · rename_i older
          exact ⟨here, fun same => older (same.symm.trans belongs)⟩
  | @spawn _ t parent child born =>
    have under : child.parentTaskId ≠ none := by
      rw [born.above]
      exact Option.some_ne_none t
    refine ⟨?_, dated.insert fun top => absurd top under⟩
    refine turns.insert ?_ (Nat.le_refl _) (fun top => absurd top under) fun s session here closed => ⟨here, ?_⟩
    · rw [born.session]
      exact turns.known t parent born.found
    · rw [born.session]
      exact turns.elsewhere born.found (live_of_running born.running) here closed
  | session s set keeps =>
    refine ⟨turns.of_sessions rfl rfl fun other session here closed => ?_, dated⟩
    rw [Table.get?_modify] at here
    split at here
    · obtain ⟨old, found, rfl⟩ := Option.map_eq_some_iff.mp here
      obtain ⟨-, answer, status | status | status⟩ := keeps old
      · exact (turns.concluded other old found (status ▸ closed)).congr ⟨fun _ _ _ h => h, fun _ _ _ h => h, rfl⟩
          status answer
      · rw [status] at closed
        cases closed
      · rw [status] at closed
        cases closed
    · exact turns.concluded other session here closed
  | close s set idle sums =>
    refine ⟨turns.of_sessions rfl rfl fun other session here closed => ?_, dated⟩
    rw [Table.get?_modify] at here
    split at here
    · rename_i same
      subst same
      obtain ⟨old, found, rfl⟩ := Option.map_eq_some_iff.mp here
      obtain ⟨-, closes, stays⟩ := sums old
      by_cases opened : old.status = .opened
      · exact (closes opened).concluded idle
      · rw [stays opened] at closed ⊢
        exact turns.concluded other old found closed
    · exact turns.concluded other session here closed
  | @remember _ t task agent memory cutoff =>
    refine ⟨turns.of_sessions rfl ?_ fun other session here closed => ?_, dated⟩
    · unfold movedSessions
      split <;> rfl
    · obtain ⟨old, found, status, answer⟩ := movedSessions_row here
      exact (turns.concluded other old found (status ▸ closed)).congr ⟨fun _ _ _ h => h, fun _ _ _ h => h, rfl⟩
        status answer
  | _ => exact ⟨⟨turns.known, turns.dated, turns.ended, turns.concluded⟩, dated⟩

/-! ### Runs -/

/-- The clock has moved on since anything was written to a task. -/
def Label.later : Label → Db → Bool
  | .call env _, db => !db.tasks.exists? fun _ task => decide (env.now ≤ task.updatedAt)
  | .configure, _ => true

/-- One transaction. Nothing but the control plane changes sessions. -/
def StepKept (label : Label) (before after : Db) : Prop :=
  Step label before after ∧ (label = .configure → after.sessions = before.sessions)

abbrev ClockedRun (start db : Db) : Prop :=
  Path StepKept (fun label before => Label.later label before = true) start db

theorem later_turned {op : Op} {db : Db} {u : Nat} (later : Label.later (.call env op) db = true)
    (turned : Turned db.tasks s u task) : task.updatedAt < env.now := by
  by_contra early
  have none : db.tasks.exists? (fun _ task => decide (env.now ≤ task.updatedAt)) = false := by
    simpa only [Label.later, Bool.not_eq_true'] using later
  have some : db.tasks.exists? (fun _ task => decide (env.now ≤ task.updatedAt)) = true :=
    Table.exists?_eq_true.mpr ⟨u, task, turned.found, decide_eq_true (not_lt.mp early)⟩
  rw [none] at some
  cases some

theorem StepKept.turns {label : Label} {db after : Db} (step : StepKept label db after)
    (later : Label.later label db = true) (turns : Turns db.core) : Turns after.core := by
  obtain ⟨step, kept⟩ := step
  cases step with
  | rollback => exact turns
  | configure quiet =>
    have sessions : after.core.sessions = db.core.sessions := kept rfl
    refine turns.of_sessions quiet.tasks (congrArg Table.next sessions) fun s session here closed => ?_
    exact turns.concluded s session (sessions ▸ here) closed
  | @commit env op _ _ done =>
    have dated : db.core.Dated env.now := fun s u task turned => (later_turned later turned).le
    have moves : ∀ mark σ, op.marks env db mark σ → Forward env.now mark σ := by
      intro mark σ marks
      cases mark with
      | turn =>
        intro s u task turned
        exact later_turned later (Op.marks_turn marks ▸ turned)
      | _ => trivial
    have writes := (Op.writes done).mono moves
    exact (writes.invariant (P := fun σ : Core => Turns σ ∧ σ.Dated env.now)
      (fun _ _ _ write forward held => write.turns forward held.1 held.2) ⟨turns, dated⟩).1

theorem turns_run {start db : Db} (fresh : Fresh start) (run : ClockedRun start db) : Turns db.core := by
  refine run.invariant (P := fun db : Db => Turns db.core) (fun _ _ _ step later held => step.turns later held) ?_
  have empty (t : Nat) (task : TaskRow) : ¬ start.core.tasks.get? t = some task := by
    intro found
    rw [show start.core.tasks.get? t = none from fresh.tasks t] at found
    cases found
  refine ⟨fun t task found => absurd found (empty t task), fun s t task turned => absurd turned.found (empty t task),
    fun s t u task other turned => absurd turned.found (empty t task), fun s session here _ => ?_⟩
  rw [show start.core.sessions.get? s = none from fresh.sessions s] at here
  cases here

/-! ### The latest turn -/

/-- The turn of the session that was created last. -/
structure LatestTurn (tasks : Table TaskRow) (s t : Nat) (task : TaskRow) : Prop where
  turned : Turned tasks s t task
  last : ∀ u other, Turned tasks s u other → u ≠ t → other.createdAt < task.createdAt

/-- The session reports the failure or the answer of that turn. -/
structure Reports (session : SessionRow) (task : TaskRow) : Prop where
  failed : task.status = .failed → session.status = .failed
  completed : ∀ text, task.status = .completed → task.answer = some text →
    session.status = .completed ∧ session.finalAnswer = some text

theorem Turns.consecutive (turns : Turns σ) : Consecutive σ.tasks s := by
  intro t u task other turned turned' _ _ different same
  rcases le_total task.createdAt other.createdAt with order | order
  · have before := (turns.ended s t u task other turned turned' different order).2
    have dated := turns.dated s u other turned'
    exact absurd same (lt_of_lt_of_le before dated).ne
  · have before := (turns.ended s u t other task turned' turned different.symm order).2
    have dated := turns.dated s t task turned
    exact absurd same (lt_of_lt_of_le before dated).ne'

/-- A latest turn that was completed with an answer gave the last answer of the session. -/
theorem Turns.lastAnswer (turns : Turns σ) (latest : LatestTurn σ.tasks s t task) (done : task.status = .completed)
    {text : String} (answer : task.answer = some text) : LastAnswer σ.tasks s text := by
  refine ⟨t, task, latest.turned, done, answer, fun u other turned _ different => ?_⟩
  have before := (turns.ended s u t other task turned latest.turned different (latest.last u other turned different).le).2
  exact lt_of_lt_of_le before (turns.dated s t task latest.turned)

/-- A closed session reports its latest turn, unless that turn failed after another one of
the session had been completed with an answer, and none without an answer since. -/
theorem session_closes_iff {start db : Db} (fresh : Fresh start) (run : ClockedRun start db)
    (found : db.sessions.get? s = some session) (closed : session.status.closed = true)
    (latest : LatestTurn db.tasks s t task) :
    Reports session task ↔ (task.status = .failed → ∀ text, ¬ LastAnswer db.tasks s text) := by
  have turns := turns_run fresh run
  have concluded := turns.concluded s session found closed
  have answered (text : String) : answerIn db.tasks s = some text ↔ LastAnswer db.tasks s text :=
    answerIn_eq_some turns.consecutive
  constructor
  · intro reports failed text last
    have unanswered := (concluded.failed (reports.failed failed)).1
    have given := (answered text).mpr last
    rw [show answerIn db.tasks s = none from unanswered] at given
    cases given
  · intro unanswered
    have status : session.status = .completed ∨ session.status = .failed := by
      revert closed
      cases session.status <;> simp [SessionStatus.closed]
    constructor
    · intro failed
      refine status.resolve_left fun done => ?_
      rcases (concluded.completed done).1 with some | none
      · obtain ⟨text, given⟩ := Option.isSome_iff_exists.mp some
        exact unanswered failed text ((answered text).mp given)
      · exact none t task latest.turned.found latest.turned.belongs failed
    · intro text done answer
      have given := (answered text).mpr (turns.lastAnswer latest done answer)
      have completed : session.status = .completed := by
        refine status.resolve_right fun failed => ?_
        have none := (concluded.failed failed).1
        rw [show answerIn db.core.tasks s = some text from given] at none
        cases none
      exact ⟨completed, (concluded.completed completed).2 text given⟩

theorem clocked_of_commit {op : Op} {db after : Db} (done : op.run env db = .ok after) :
    StepKept (.call env op) db after :=
  ⟨.commit done, nofun⟩

/-- Two turns of one session. The first one is answered, the second one is replied to as given. -/
def twoTurns (reply : String) : List (Env × Op) :=
  [(.after 1, .createSession 0 (some "sum up") none none), (.after 2, .dispatchTasks), (.after 3, .claimOutbound none none),
    (.after 4, .completeOutbound 0 (some 200) (some (answers "one"))), (.after 5, .continueSession 0 (some "again")),
    (.after 6, .dispatchTasks), (.after 7, .claimOutbound none none), (.after 8, .completeOutbound 1 (some 200) (some reply))]

/-- The first session is closed, and the second task is its latest turn. -/
def closesSecond (db : Db) (status : TaskStatus) : Bool :=
  ((db.sessions.get? 0).any fun session => session.status.closed) &&
    (db.tasks.get? 1).any fun task => task.sessionId == 0 && task.parentTaskId.isNone && task.status == status &&
      !db.tasks.exists? fun u other => u != 1 && decide (task.createdAt ≤ other.createdAt)

theorem closesSecond_latest {db : Db} {status : TaskStatus} (closes : closesSecond db status = true) :
    ∃ session task, db.sessions.get? 0 = some session ∧ session.status.closed = true ∧
      LatestTurn db.tasks 0 1 task ∧ task.status = status := by
  simp only [closesSecond, Bool.and_eq_true, Option.any_eq_true, beq_iff_eq, Bool.not_eq_true',
    Option.isNone_iff_eq_none] at closes
  obtain ⟨⟨session, here, closed⟩, task, found, ⟨⟨belongs, root⟩, status⟩, none⟩ := closes
  refine ⟨session, task, here, closed, ⟨⟨found, belongs, root⟩, fun u other turned different => ?_⟩, status⟩
  by_contra early
  have some : db.tasks.exists? (fun u other => u != 1 && decide (task.createdAt ≤ other.createdAt)) = true :=
    Table.exists?_eq_true.mpr ⟨u, other, turned.found, by simpa [different] using early⟩
  rw [none] at some
  cases some

theorem session_closes_iff_answered :
    ∃ db session task, ClockedRun (helperDb (helperPolicy 5 none)) db ∧ db.sessions.get? 0 = some session ∧
      LatestTurn db.tasks 0 1 task ∧ task.status = .completed ∧ Reports session task := by
  obtain ⟨db, run, reached⟩ := path_reaching (fun _ _ _ _ => clocked_of_commit)
    (show ((runAll Label.later (helperDb (helperPolicy 5 none)) (twoTurns (answers "two"))).any fun db =>
      closesSecond db .completed) = true by decide +kernel)
  obtain ⟨session, task, here, closed, latest, status⟩ := closesSecond_latest reached
  refine ⟨db, session, task, run, here, latest, status, ?_⟩
  refine (session_closes_iff (helperDb_fresh _) run here closed latest).mpr fun failed => ?_
  rw [status] at failed
  cases failed

/-- The second turn is rejected, and the session is completed with the answer of the first one. -/
theorem not_session_reports_latest :
    ¬ ∀ start db s session t task, Fresh start → ClockedRun start db → db.sessions.get? s = some session →
      session.status.closed = true → LatestTurn db.tasks s t task → Reports session task := by
  intro claim
  obtain ⟨db, run, reached⟩ := path_reaching (fun _ _ _ _ => clocked_of_commit)
    (show ((runAll Label.later (helperDb (helperPolicy 5 none)) (twoTurns asksHuman ++
        [(.after 9, .decideApproval 0 (some false) none)])).any fun db =>
      closesSecond db .failed && (db.sessions.get? 0).any fun session => session.status == .completed) = true by
        decide +kernel)
  rw [Bool.and_eq_true] at reached
  obtain ⟨session, task, here, closed, latest, status⟩ := closesSecond_latest reached.1
  have failed := (claim _ db 0 session 1 task (helperDb_fresh _) run here closed latest).failed status
  have completed : session.status = .completed := by simpa [here] using reached.2
  rw [failed] at completed
  cases completed

end Allgres
