import Allgres.Concurrent.Rows
import Allgres.Writes.Machine

/-! Without interleaving, a call is `fn_continue_session`, and every other
transaction of the control plane is one of the worker's. -/

namespace Allgres.Shared

open Relational Jsonb Sql Runs

/-- A commit now would leave these tables. -/
structure Leaves (σ : Shared) (tx : Tx) (core : Core) : Prop where
  agents : σ.agents = core.agents
  policies : σ.policies = core.policies
  sessions : σ.sessions.map (Cell.commit tx) = core.sessions.map .stored
  tasks : σ.tasks.map (Cell.commit tx) = core.tasks.map .stored
  logs : σ.logs.map (Cell.commit tx) = core.logs.map .stored

variable {σ : Shared} {tx : Tx} {core : Core} {x : Nat}

theorem map_stored {α β : Type} {image : Cell Tx α → β} (table : Table α) :
    (table.map .stored).map image = table.map fun row => image (.stored row) := by
  simp only [Table.map, List.map_map, Function.comp_def]

theorem leaves_ofCore (core : Core) (tx : Tx) : Leaves (ofCore core) tx core where
  agents := rfl
  policies := rfl
  sessions := map_stored _
  tasks := map_stored _
  logs := List.map_map

theorem Leaves.setTurn (leaves : Leaves σ tx core) (x : Nat) (turn : Option Continuation) :
    Leaves (σ.setTurn x turn) tx core :=
  ⟨leaves.agents, leaves.policies, leaves.sessions, leaves.tasks, leaves.logs⟩

theorem Leaves.session? (leaves : Leaves σ tx core) (s : Nat) : σ.session? tx s = core.sessions.get? s :=
  seen_of_commits leaves.sessions

theorem Leaves.task? (leaves : Leaves σ tx core) (t : Nat) : σ.task? tx t = core.tasks.get? t :=
  seen_of_commits leaves.tasks

theorem Leaves.liveTurn (leaves : Leaves σ tx core) (s : Nat) :
    σ.liveTurn tx s = core.tasks.exists? fun _ task => task.turnOf s := by
  rw [Bool.eq_iff_iff, Shared.liveTurn, Table.exists?_eq_true, Table.exists?_eq_true]
  constructor
  · rintro ⟨t, cell, found, live⟩
    obtain ⟨row, here, -, seen⟩ := row_of_commits leaves.tasks found
    rw [seen] at live
    exact ⟨t, row, here, live⟩
  · rintro ⟨t, row, found, live⟩
    obtain ⟨cell, here, -, seen⟩ := cell_of_commits leaves.tasks found
    refine ⟨t, cell, here, ?_⟩
    rw [seen]
    exact live

theorem Leaves.writeSession (leaves : Leaves σ tx core) (s : Nat) (set : SessionRow → SessionRow) :
    Leaves (σ.writeSession tx s set) tx { core with sessions := core.sessions.modify s set } where
  agents := leaves.agents
  policies := leaves.policies
  sessions := commits_write leaves.sessions set
  tasks := leaves.tasks
  logs := leaves.logs

theorem Leaves.insertTask (leaves : Leaves σ tx core) (row : TaskRow) :
    Leaves (σ.insertTask tx row) tx { core with tasks := core.tasks.insert row } where
  agents := leaves.agents
  policies := leaves.policies
  sessions := leaves.sessions
  tasks := commits_insert leaves.tasks row
  logs := leaves.logs

theorem Leaves.insertLog (leaves : Leaves σ tx core) (row : LogRow) :
    Leaves (σ.insertLog tx row) tx { core with logs := core.logs ++ [row] } where
  agents := leaves.agents
  policies := leaves.policies
  sessions := leaves.sessions
  tasks := leaves.tasks
  logs := by
    have own : Cell.commit tx (.inserted tx row) = .stored row :=
      Cell.commit_eq_stored.mpr ⟨by simp [Cell.free], Cell.inserted_seen⟩
    simp only [Shared.insertLog, List.map_append, List.map_cons, List.map_nil, leaves.logs, own]

theorem Leaves.commit (leaves : Leaves σ tx core) (ended : σ.turn = fun _ => none) :
    σ.commit tx = ofCore core := by
  simp only [Shared.commit, ofCore, leaves.agents, leaves.policies, leaves.sessions, leaves.tasks, leaves.logs, ended]

/-! ### A call -/

/-- The statements of a call until it has ended. -/
def finish (σ : Shared) (x : Nat) : Nat → Option Shared
  | 0 => none
  | fuel + 1 =>
    match σ.turn x with
    | none => some σ
    | some turn => (σ.continueTurn x turn).bind fun σ => σ.finish x fuel

theorem finish_done {fuel : Nat} (ended : σ.turn x = none) : σ.finish x (fuel + 1) = some σ := by
  simp only [finish, ended]

theorem finish_statement {σ' : Shared} {fuel : Nat} {turn : Continuation} (here : σ.turn x = some turn)
    (done : σ.continueTurn x turn = some σ') : σ.finish x (fuel + 1) = σ'.finish x fuel := by
  simp only [finish, here, done, Option.bind_some]

theorem setTurn_turn (turn : Option Continuation) : (σ.setTurn x turn).turn x = turn := by
  simp only [Shared.setTurn, Function.update_self]

theorem setTurn_setTurn (first second : Option Continuation) :
    (σ.setTurn x first).setTurn x second = σ.setTurn x second := by
  simp only [Shared.setTurn, Function.update_idem]

theorem setTurn_none (ended : σ.turn x = none) : σ.setTurn x none = σ := by
  have same : Function.update σ.turn x none = σ.turn := by
    rw [← ended]
    exact Function.update_eq_self x σ.turn
  simp only [Shared.setTurn, same]

theorem rollback_ofCore (core : Core) (tx : Tx) : (ofCore core).rollback tx = ofCore core := by
  simp only [Shared.rollback, ofCore, map_stored, List.map_map]
  rfl

/-- What a call writes after its check. -/
theorem turn_writes (env : Env) (s : Nat) (text : String) (session : SessionRow) :
    ((ofCore core).setTurn x (some ⟨env, s, text, .reopen session⟩)).finish x 5 =
      some (ofCore { core with
        sessions := core.sessions.modify s fun session => { session with status := .opened, completedAt := none }
        tasks := core.tasks.insert ((ofCore core).turnTask ⟨env, s, text, .insertTask session⟩ session.agentId)
        logs := core.logs ++ [⟨core.tasks.next, 0, .user, .str text, env.now⟩] }) := by
  let turn (point : Point) : Continuation := ⟨env, s, text, point⟩
  let start := ofCore core
  let reopened := start.writeSession (.backend x) s fun session =>
    { session with status := .opened, completedAt := none }
  let created := reopened.insertTask (.backend x) (start.turnTask (turn (.insertTask session)) session.agentId)
  let logged := created.insertLog (.backend x) ⟨core.tasks.next, 0, .user, .str text, env.now⟩
  have leaves := (((leaves_ofCore core (.backend x)).writeSession s fun session =>
    { session with status := .opened, completedAt := none }).insertTask
      (start.turnTask (turn (.insertTask session)) session.agentId)).insertLog
        ⟨core.tasks.next, 0, .user, .str text, env.now⟩
  have unlocked : (start.sessions.get? s).all (fun cell => cell.free (.backend x)) = true := by
    simp only [start, ofCore, Table.get?_map]
    cases core.sessions.get? s <;> rfl
  have reopens : (start.setTurn x (some (turn (.reopen session)))).continueTurn x (turn (.reopen session)) =
      some (reopened.setTurn x (some (turn (.insertTask session)))) := by
    refine (if_pos unlocked).trans ?_
    exact congrArg some (@setTurn_setTurn reopened x _ _)
  have creates : (reopened.setTurn x (some (turn (.insertTask session)))).continueTurn x (turn (.insertTask session)) =
      some (created.setTurn x (some (turn (.insertLog core.tasks.next)))) :=
    congrArg some (@setTurn_setTurn created x _ _)
  have logs : (created.setTurn x (some (turn (.insertLog core.tasks.next)))).continueTurn x
      (turn (.insertLog core.tasks.next)) = some (logged.setTurn x (some (turn (.commit core.tasks.next)))) :=
    congrArg some (@setTurn_setTurn logged x _ _)
  have commits : (logged.setTurn x (some (turn (.commit core.tasks.next)))).continueTurn x
      (turn (.commit core.tasks.next)) = some (logged.commit (.backend x)) := by
    refine congrArg some ((@setTurn_setTurn (logged.commit (.backend x)) x _ _).trans ?_)
    exact setTurn_none rfl
  rw [finish_statement (setTurn_turn _) reopens, finish_statement (setTurn_turn _) creates,
    finish_statement (setTurn_turn _) logs, finish_statement (setTurn_turn _) commits, finish_done rfl]
  exact congrArg some (leaves.commit rfl)

/-- A call that is not interleaved with anything is `fn_continue_session`. -/
theorem turn_alone (env : Env) (db : Db) (s : Nat) {message : Option String} (given : btrim (message.getD "") ≠ "") :
    ((ofCore db.core).setTurn x (some ⟨env, s, btrim (message.getD ""), .findSession⟩)).finish x 8 =
      some (ofCore (match fnContinueSession env db s message with
        | .ok created => created.db
        | .error _ => db).core) := by
  let turn (point : Point) : Continuation := ⟨env, s, btrim (message.getD ""), point⟩
  let start := ofCore db.core
  have leaves (turn : Option Continuation) := (leaves_ofCore db.core (.backend x)).setTurn x turn
  have goes (first : Option Continuation) (next : Point) (from_ : Point) :
      (start.setTurn x first).goto x (turn from_) next = start.setTurn x (some (turn next)) :=
    setTurn_setTurn _ _
  -- an exception, wherever the call stands
  have raised (fuel : Nat) (turn : Option Continuation) :
      ((start.setTurn x turn).raise x).finish x (fuel + 1) = some (ofCore db.core) := by
    have back : (start.setTurn x turn).raise x = ofCore db.core := by
      change ((start.rollback (.backend x)).setTurn x turn).setTurn x none = _
      rw [rollback_ofCore, setTurn_setTurn, setTurn_none rfl]
    rw [back]
    exact finish_done rfl
  unfold fnContinueSession
  rw [if_neg given]
  have seen := (leaves (some (turn .findSession))).session? s
  change _ = db.sessions.get? s at seen
  cases found : db.sessions.get? s with
  | none =>
    rw [found] at seen
    have first : (start.setTurn x (some (turn .findSession))).continueTurn x (turn .findSession) =
        some ((start.setTurn x (some (turn .findSession))).raise x) := by
      simp only [continueTurn, turn, start, seen]
    rw [finish_statement (setTurn_turn _) first]
    exact raised _ _
  | some session =>
    rw [found] at seen
    have first : (start.setTurn x (some (turn .findSession))).continueTurn x (turn .findSession) =
        some (start.setTurn x (some (turn (.checkAgent session)))) := by
      refine Eq.trans ?_ (congrArg some (goes (some (turn .findSession)) _ .findSession))
      simp only [continueTurn, turn, start, seen]
    rw [finish_statement (setTurn_turn _) first]
    dsimp only
    by_cases active : db.isActiveAgent session.agentId = true
    · have second : (start.setTurn x (some (turn (.checkAgent session)))).continueTurn x
          (turn (.checkAgent session)) = some (start.setTurn x (some (turn (.checkTurn session)))) :=
        (if_pos active).trans (congrArg some (goes _ _ _))
      have busy := (leaves (some (turn (.checkTurn session)))).liveTurn s
      change _ = db.tasks.exists? fun _ task => task.turnOf s at busy
      rw [finish_statement (setTurn_turn _) second, active]
      cases live : db.tasks.exists? fun _ task => task.turnOf s with
      | true =>
        rw [live] at busy
        have third : (start.setTurn x (some (turn (.checkTurn session)))).continueTurn x
            (turn (.checkTurn session)) = some ((start.setTurn x (some (turn (.checkTurn session)))).raise x) :=
          if_pos busy
        rw [finish_statement (setTurn_turn _) third, raised]
        simp only [TaskRow.turnOf] at live
        simp [live]
      | false =>
        rw [live] at busy
        have third : (start.setTurn x (some (turn (.checkTurn session)))).continueTurn x
            (turn (.checkTurn session)) = some (start.setTurn x (some (turn (.reopen session)))) := by
          refine (if_neg ?_).trans (congrArg some (goes _ _ _))
          rw [busy]
          exact Bool.false_ne_true
        rw [finish_statement (setTurn_turn _) third]
        simp only [TaskRow.turnOf] at live
        simp only [live]
        exact turn_writes env s _ session
    · have second : (start.setTurn x (some (turn (.checkAgent session)))).continueTurn x
          (turn (.checkAgent session)) =
            some ((start.setTurn x (some (turn (.checkAgent session)))).raise x) :=
        if_neg active
      rw [finish_statement (setTurn_turn _) second, raised]
      simp [active]

/-! ### The worker -/

/-- Every task belongs to a session. -/
def Founded (core : Core) : Prop :=
  ∀ t task, core.tasks.get? t = some task → (core.sessions.get? task.sessionId).isSome

theorem isSome_of_rewritten {α : Type} {table : Table α} {key other : Nat} {set : α → α}
    (known : (table.get? key).isSome) : ((table.modify other set).get? key).isSome := by
  rw [Table.get?_modify]
  split
  · rw [Option.isSome_map]
    exact known
  · exact known

theorem movedSessions_isSome {sessions : Table SessionRow} {target : Option Nat} {cutoff : Option Time} {s : Nat}
    (known : (sessions.get? s).isSome) : ((movedSessions sessions target cutoff).get? s).isSome := by
  cases target with
  | none => exact known
  | some other => exact isSome_of_rewritten known

theorem answers_isSome {sessions sessions' : Table SessionRow} {new : TaskRow} {s : Nat}
    (answers : Answers sessions new sessions') (known : (sessions.get? s).isSome) : (sessions'.get? s).isSome := by
  cases answers with
  | none => exact known
  | answer => exact isSome_of_rewritten known

theorem Founded.write {env : Env} {mark : Mark} {core' : Core} (founded : Founded core)
    (write : Write env mark core core') : Founded core' := by
  intro t task now
  cases write with
  | @task _ _ u old sessions new found kin live shift stamped answers =>
    refine answers_isSome answers ?_
    simp only [Table.get?_modify] at now
    split at now
    · rename_i same
      rw [same, found] at now
      obtain rfl := Option.some.inj now
      rw [kin.session]
      exact founded u old found
    · exact founded t task now
  | openTask row opened placed =>
    have kept {s : Nat} (before : (core.sessions.get? s).isSome) (new : SessionRow) :
        ((core.sessions.insert new).get? s).isSome := by
      obtain ⟨session, found⟩ := Option.isSome_iff_exists.mp before
      rw [Table.get?_insert_old new found]
      rfl
    simp only [Table.get?_insert] at now
    cases placed with
    | turn found =>
      split at now
      · obtain rfl := Option.some.inj now
        rw [found]
        rfl
      · exact founded t task now
    | session new same =>
      split at now
      · obtain rfl := Option.some.inj now
        rw [same, Table.get?_insert_next]
        rfl
      · exact kept (founded t task now) new
  | spawn child born =>
    simp only [Table.get?_insert] at now
    split at now
    · obtain rfl := Option.some.inj now
      rw [born.session]
      exact founded _ _ born.found
    · exact founded t task now
  | session s set kind => exact isSome_of_rewritten (founded t task now)
  | close s set idle kind => exact isSome_of_rewritten (founded t task now)
  | remember memory cutoff => exact movedSessions_isSome (founded t task now)
  | _ => exact founded t task now

/-- The worker's statements for one write, and what a commit then leaves. -/
theorem Leaves.works {env : Env} {mark : Mark} {core' : Core} {ok : Label → Shared → Prop}
    (leaves : Leaves σ .worker core) (founded : Founded core) (write : Write env mark core core')
    (others : mark ≠ .turn) (allows : ∀ σ label, (∀ x, label ≠ .statement x) → ok label σ) :
    ∃ σ', Path Step ok σ σ' ∧ Leaves σ' .worker core' ∧ σ'.turn = σ.turn := by
  have works {σ σ' : Shared} {statement : Statement} (works : Works σ statement σ') : Path Step ok σ σ' :=
    .single (.work works) (allows _ _ fun x same => by cases same)
  have updates {σ : Shared} {core : Core} (leaves : Leaves σ .worker core) (s : Nat) (set : SessionRow → SessionRow) :
      ∃ σ', Path Step ok σ σ' ∧ Leaves σ' .worker { core with sessions := core.sessions.modify s set } ∧
        σ'.turn = σ.turn := by
    cases found : core.sessions.get? s with
    | none =>
      rw [Table.modify_absent set found]
      exact ⟨σ, .refl, leaves, rfl⟩
    | some session =>
      obtain ⟨cell, here, free, -⟩ := cell_of_commits leaves.sessions found
      exact ⟨_, works (.updateSession set here free), leaves.writeSession s set, rfl⟩
  have configures (agents : Table AgentRow) (policies : Table PolicyRow) :
      ∃ σ', Path Step ok σ σ' ∧ Leaves σ' .worker { core with agents := agents, policies := policies } ∧
        σ'.turn = σ.turn :=
    ⟨_, .single (.configure agents policies) (allows _ _ fun x same => by cases same),
      ⟨rfl, rfl, leaves.sessions, leaves.tasks, leaves.logs⟩, rfl⟩
  cases write with
  | log row => exact ⟨_, works (.insertLog row), leaves.insertLog row, rfl⟩
  | @task _ _ t old sessions new found kin live shift stamped answers =>
    obtain ⟨cell, here, free, seen⟩ := cell_of_commits leaves.tasks found
    have written : Leaves { σ with tasks := σ.tasks.modify t (Cell.write .worker fun _ => new) } .worker
        { core with tasks := core.tasks.modify t fun _ => new } :=
      ⟨leaves.agents, leaves.policies, leaves.sessions, commits_write leaves.tasks _, leaves.logs⟩
    have first := works (.updateTask new here free seen live kin)
    cases answers with
    | none => exact ⟨_, first, written, rfl⟩
    | answer text completed output =>
      obtain ⟨last, second, left, same⟩ := updates written new.sessionId fun session =>
        { session with finalAnswer := some text }
      exact ⟨last, first.trans second, left, same⟩
  | openTask row opened placed =>
    cases placed with
    | turn => exact absurd rfl others
    | session new same =>
      have next := next_of_commits leaves.sessions
      have inserted : Leaves { σ with sessions := σ.sessions.insert (.inserted .worker new) } .worker
          { core with sessions := core.sessions.insert new } :=
        ⟨leaves.agents, leaves.policies, commits_insert leaves.sessions new, leaves.tasks, leaves.logs⟩
      have here : (σ.sessions.insert (.inserted .worker new)).get? row.sessionId = some (.inserted .worker new) := by
        rw [same, ← next, Table.get?_insert_next]
      have empty (t : Nat) (task : TaskRow)
          (seen : Shared.task? { σ with sessions := σ.sessions.insert (.inserted .worker new) } .worker t =
            some task) : task.sessionId ≠ row.sessionId := by
        rw [inserted.task?] at seen
        intro fresh
        have known := founded t task seen
        rw [fresh, same, Table.get?_next] at known
        cases known
      exact ⟨_, (works (.openSession new)).trans (works (.openTask row here rfl (by simp) empty)),
        inserted.insertTask row, rfl⟩
  | spawn child born =>
    have visible : (σ.session? .worker child.sessionId).isSome := by
      rw [leaves.session?, born.session]
      exact founded _ _ born.found
    exact ⟨_, works (.spawn child (by simp [born.above]) visible), leaves.insertTask child, rfl⟩
  | session s set kind => exact updates leaves s set
  | close s set idle kind => exact updates leaves s set
  | @remember _ t task agent memory cutoff =>
    cases target : cutoffTarget agent task with
    | none => exact ⟨σ, .refl, ⟨leaves.agents, leaves.policies, leaves.sessions, leaves.tasks, leaves.logs⟩, rfl⟩
    | some s =>
      obtain ⟨last, path, left, same⟩ := updates leaves s fun session => { session with compactedBefore := cutoff }
      exact ⟨last, path, ⟨left.agents, left.policies, left.sessions, left.tasks, left.logs⟩, same⟩
  | newAgent agent policy => exact configures _ _
  | agent agentId set => exact configures _ core.policies
  | policy cond set => exact configures core.agents _
  | _ => exact ⟨σ, .refl, ⟨leaves.agents, leaves.policies, leaves.sessions, leaves.tasks, leaves.logs⟩, rfl⟩

theorem leaves_writes {env : Env} {marks : Mark → Core → Prop} {core core' : Core} {ok : Label → Shared → Prop}
    (writes : Writes env marks core core') (founded : Founded core) (others : ∀ σ, ¬ marks .turn σ)
    (allows : ∀ σ label, (∀ x, label ≠ .statement x) → ok label σ) {σ : Shared} (leaves : Leaves σ .worker core) :
    ∃ σ', Path Step ok σ σ' ∧ Leaves σ' .worker core' ∧ σ'.turn = σ.turn ∧ Founded core' := by
  induction writes with
  | refl => exact ⟨σ, .refl, leaves, rfl, founded⟩
  | @step before after mark _ write allowed ih =>
    obtain ⟨middle, first, left, same, held⟩ := ih
    have other : mark ≠ .turn := by
      rintro rfl
      exact others _ allowed
    obtain ⟨last, second, left', same'⟩ := left.works held write other allows
    exact ⟨last, first.trans second, left', same'.trans same, held.write write⟩

/-- Only `fn_continue_session` adds a turn to a session that exists. -/
theorem not_marks_turn {env : Env} {db : Db} {op : Op} {core : Core} (other : ∀ s message, op ≠ .continueSession s message) :
    ¬ op.marks env db .turn core := by
  intro marks
  have calm {t : Nat} {payload : Json} (submitting : Submitting env db t payload .turn core) : False := by
    unfold Submitting at submitting
    split at submitting <;> exact submitting
  cases op with
  | continueSession s message => exact other s message rfl
  | completeOutbound callId status body =>
    unfold Op.marks Replying at marks
    cases chosen : (db.outboundCalls.get? callId).filter fun call =>
      call.status == .inFlight && call.body.kind == .llm && !isLlmFailure status with
    | none => simp only [chosen, Calm] at marks
    | some call =>
      simp only [chosen, reduceCtorEq, false_or] at marks
      exact (calm marks).elim
  | submitResult => exact (calm marks).elim
  | _ => exact marks.elim

/-- Every other transaction of the control plane is one of the worker's. -/
theorem worker_alone {env : Env} {db db' : Db} {op : Op} {ok : Label → Shared → Prop}
    (done : op.run env db = .ok db') (other : ∀ s message, op ≠ .continueSession s message) (founded : Founded db.core)
    (allows : ∀ σ label, (∀ x, label ≠ .statement x) → ok label σ) :
    Path Step ok (ofCore db.core) (ofCore db'.core) := by
  obtain ⟨last, path, left, ended, -⟩ := leaves_writes (Op.writes done) founded (fun _ => not_marks_turn other) allows
    (leaves_ofCore db.core .worker)
  rw [← left.commit ended]
  exact path.trans (.single (.work .commit) (allows _ _ fun x same => by cases same))

/-! ### The tables between transactions -/

/-- A session has at most one root task that is not over. -/
def Single (core : Core) : Prop :=
  ∀ s t row t' row', core.tasks.get? t = some row → row.turnOf s = true → core.tasks.get? t' = some row' →
    row'.turnOf s = true → t = t'

/-- The turns after a write were there before, but for one of a session that had none. -/
theorem Write.turn {env : Env} {mark : Mark} {core core' : Core} (write : Write env mark core core')
    (founded : Founded core) {s t : Nat} {row : TaskRow} (now : core'.tasks.get? t = some row)
    (live : row.turnOf s = true) :
    (∃ old, core.tasks.get? t = some old ∧ old.turnOf s = true) ∨
      t = core.tasks.next ∧ ∀ u task, core.tasks.get? u = some task → task.turnOf s = false := by
  cases write with
  | @task _ _ u old sessions new found kin unfinished =>
    simp only [Table.get?_modify] at now
    split at now
    · rename_i same
      rw [same, found] at now
      obtain rfl := Option.some.inj now
      rw [same]
      exact .inl ⟨old, found, turnOf_of_kin kin unfinished live⟩
    · exact .inl ⟨row, now, live⟩
  | openTask new opened placed =>
    simp only [Table.get?_insert] at now
    split at now
    · rename_i newest
      obtain rfl := Option.some.inj now
      obtain ⟨session, -, -⟩ := turnOf_iff.mp live
      refine .inr ⟨newest, ?_⟩
      intro u task found
      rw [← Bool.not_eq_true]
      intro busy
      obtain ⟨session', root, unfinished⟩ := turnOf_iff.mp busy
      cases placed with
      | turn _ _ idle =>
        rw [idle u task found (session'.trans session.symm) root] at unfinished
        cases unfinished
      | session _ fresh =>
        have known := founded u task found
        rw [session', ← session, fresh, Table.get?_next] at known
        cases known
    · exact .inl ⟨row, now, live⟩
  | spawn child born =>
    simp only [Table.get?_insert] at now
    split at now
    · obtain rfl := Option.some.inj now
      obtain ⟨-, root, -⟩ := turnOf_iff.mp live
      rw [born.above] at root
      cases root
    · exact .inl ⟨row, now, live⟩
  | _ => exact .inl ⟨row, now, live⟩

theorem Single.write {env : Env} {mark : Mark} {core core' : Core} (single : Single core) (founded : Founded core)
    (write : Write env mark core core') : Single core' := by
  intro s t row t' row' found live found' live'
  rcases Write.turn write founded found live with ⟨old, before, turn⟩ | ⟨newest, idle⟩ <;>
    rcases Write.turn write founded found' live' with ⟨old', before', turn'⟩ | ⟨newest', idle'⟩
  · exact single s t old t' old' before turn before' turn'
  · rw [idle' t old before] at turn
    cases turn
  · rw [idle t' old' before'] at turn'
    cases turn'
  · rw [newest, newest']

theorem single_run {start db : Db} {allowed : Allgres.Label → Db → Bool} (fresh : Fresh start)
    (run : Run allowed start db) : Single db.core ∧ Founded db.core := by
  refine @core_invariant _ _ (fun core => Single core ∧ Founded core) (fun _ _ => True) _ ?_ (fun _ _ _ _ _ _ _ => trivial)
    ?_ run ?_
  · intro env mark core core' write _ held
    exact ⟨held.1.write held.2 write, held.2.write write⟩
  · intro before after quiet held
    have tasks : after.core.tasks = before.core.tasks := quiet.tasks
    refine ⟨?_, ?_⟩
    · unfold Single
      rw [tasks]
      exact held.1
    · intro t task found
      rw [tasks] at found
      have known := held.2 t task found
      have same := congrFun (congrArg Flow.session quiet.flow) task.sessionId
      change (after.sessions.get? task.sessionId).isSome
      change (before.sessions.get? task.sessionId).isSome at known
      have sessions := congrArg Option.isSome same
      simp only [Db.flow, Option.isSome_map] at sessions
      rw [sessions]
      exact known
  · have none (t : Nat) : start.core.tasks.get? t = none := fresh.tasks t
    refine ⟨?_, ?_⟩
    · intro s t row t' row' found
      rw [none] at found
      cases found
    · intro t task found
      rw [none] at found
      cases found

end Allgres.Shared
