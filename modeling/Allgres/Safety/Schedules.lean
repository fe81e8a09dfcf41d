import Allgres.Schedule
import Allgres.Safety.Tick
import Allgres.Writes.Machine

/-! When schedules open sessions. -/

namespace Allgres

open Relational Jsonb Sql Runs

variable {env : Env} {db db' start : Db} {mark : Mark} {σ σ' : Core} {id s : Nat}

/-! ### Sessions and the schedules they come from -/

/-- The schedule that opened the session. -/
def origin (sessions : Table SessionRow) (s : Nat) : Option Nat := (sessions.get? s).bind SessionRow.scheduleId

/-- The number of sessions that the schedule has opened. -/
def Db.runsOf (db : Db) (id : Nat) : Nat := db.sessions.count fun _ session => session.scheduleId == some id

theorem origin_eq_some {sessions : Table SessionRow} : origin sessions s = some id ↔
    ∃ session, sessions.get? s = some session ∧ (session.scheduleId == some id) = true := by
  simp only [origin, Option.bind_eq_some_iff, beq_iff_eq]

theorem runsOf_le (kept : ∀ s, origin db.sessions s = some id → origin db'.sessions s = some id) :
    db.runsOf id ≤ db'.runsOf id := by
  refine Table.count_le_count fun s session found opened => ?_
  exact origin_eq_some.mp (kept s (origin_eq_some.mpr ⟨session, found, opened⟩))

theorem runsOf_congr (kept : ∀ s, origin db'.sessions s = origin db.sessions s) : db'.runsOf id = db.runsOf id := by
  have fewer : db'.runsOf id ≤ db.runsOf id := runsOf_le fun s opened => (kept s).symm.trans opened
  have more : db.runsOf id ≤ db'.runsOf id := runsOf_le fun s opened => (kept s).trans opened
  omega

theorem runsOf_insert {session : SessionRow} (inserted : db'.sessions = db.sessions.insert session) :
    db'.runsOf id = db.runsOf id + if session.scheduleId = some id then 1 else 0 := by
  simp only [Db.runsOf, inserted, Table.count_insert, beq_iff_eq]

theorem origin_insert {sessions : Table SessionRow} {session : SessionRow} :
    origin (sessions.insert session) s = if s = sessions.next then session.scheduleId else origin sessions s := by
  simp only [origin, Table.get?_insert]
  split <;> rfl

theorem origin_insert_none {sessions : Table SessionRow} {session : SessionRow} (none : session.scheduleId = none) :
    origin (sessions.insert session) s = origin sessions s := by
  rw [origin_insert, none]
  split
  · rename_i newest
    rw [newest, origin, Table.get?_next]
    rfl
  · rfl

theorem origin_modify {sessions : Table SessionRow} {t : Nat} {set : SessionRow → SessionRow}
    (same : ∀ row, (set row).scheduleId = row.scheduleId) :
    origin (sessions.modify t set) s = origin sessions s := by
  simp only [origin, Table.get?_modify]
  split
  · rename_i here
    rw [here]
    cases sessions.get? t with
    | none => rfl
    | some row => exact same row
  · rfl

/-- A session comes from where it came from before, unless it is new and a schedule has opened it. -/
theorem Write.origin_cases (write : Write env mark σ σ') :
    origin σ'.sessions s = origin σ.sessions s ∨ s = σ.sessions.next ∧ ∃ id, mark = .fire id := by
  cases write with
  | task new found kin live shift updated answers =>
    cases answers with
    | none => exact .inl rfl
    | answer => exact .inl (origin_modify fun _ => rfl)
  | openTask row opened placed =>
    cases placed with
    | turn => exact .inl rfl
    | session new belongs opened uncut =>
      cases given : new.scheduleId with
      | none => exact .inl (origin_insert_none given)
      | some id =>
        by_cases newest : s = σ.sessions.next
        · exact .inr ⟨newest, id, rfl⟩
        · have same : origin (σ.sessions.insert new) s = origin σ.sessions s := by rw [origin_insert, if_neg newest]
          exact .inl same
  | session t set same => exact .inl (origin_modify fun row => (same row).1.schedule)
  | close t set ended same => exact .inl (origin_modify fun row => (same row).1.schedule)
  | @remember _ task agent memory cutoff =>
    simp only [movedSessions]
    split
    · exact .inl rfl
    · exact .inl (origin_modify fun _ => rfl)
  | _ => exact .inl rfl

/-- A write that does not open a session for a schedule leaves every session where it comes from. -/
theorem Write.origin (write : Write env mark σ σ') (unfired : ∀ id, mark ≠ .fire id) :
    origin σ'.sessions s = origin σ.sessions s := by
  rcases write.origin_cases with same | ⟨-, id, fired⟩
  · exact same
  · exact absurd fired (unfired id)

/-- A session that exists keeps where it comes from. -/
theorem Write.origin_known (write : Write env mark σ σ') (known : (σ.sessions.get? s).isSome) :
    Allgres.origin σ'.sessions s = Allgres.origin σ.sessions s := by
  rcases write.origin_cases with same | ⟨newest, -⟩
  · exact same
  · rw [newest, Table.get?_next] at known
    cases known

theorem Writes.origin {ok : Mark → Core → Prop} (writes : Writes env ok σ σ')
    (unfired : ∀ id σ, ¬ ok (.fire id) σ) : origin σ'.sessions s = origin σ.sessions s := by
  induction writes with
  | refl => rfl
  | step _ write allowed ih =>
    refine (write.origin fun id fired => ?_).trans ih
    rw [fired] at allowed
    exact unfired id _ allowed

/-! ### Schedules -/

/-- The schedules have run as often as before, and are next due when they were. -/
structure SameLedger (old new : Table ScheduleRow) : Prop where
  next : new.next = old.next
  rows : ∀ id row, new.get? id = some row → ∃ before, old.get? id = some before ∧
    row.runCount = before.runCount ∧ row.nextRunAt = before.nextRunAt

theorem SameLedger.refl (schedules : Table ScheduleRow) : SameLedger schedules schedules :=
  ⟨rfl, fun _ row found => ⟨row, found, rfl, rfl⟩⟩

theorem SameLedger.of_eq {old new : Table ScheduleRow} (same : new = old) : SameLedger old new := by
  rw [same]
  exact .refl old

theorem SameLedger.modify {schedules : Table ScheduleRow} {set : ScheduleRow → ScheduleRow}
    (same : ∀ row, (set row).runCount = row.runCount ∧ (set row).nextRunAt = row.nextRunAt) :
    SameLedger schedules (schedules.modify id set) := by
  refine ⟨rfl, fun other row found => ?_⟩
  rw [Table.get?_modify] at found
  split at found
  · rename_i here
    obtain ⟨before, old, rfl⟩ := Option.map_eq_some_iff.mp found
    exact ⟨before, here ▸ old, same before⟩
  · exact ⟨row, found, rfl, rfl⟩

theorem ledger_chargeSchedule (db : Db) (t : Nat) (cost : Option ℚ) :
    SameLedger db.schedules (chargeSchedule db t cost).schedules := by
  unfold chargeSchedule
  split
  · dsimp only
    exact .modify fun row => ⟨rfl, rfl⟩
  · exact .refl _

theorem ledger_recordUsage (callId t : Nat) (call : OutboundBody) (body : Option String) :
    SameLedger db.schedules (recordUsage db callId t call body).schedules := by
  unfold recordUsage
  dsimp only
  generalize recorded : { db with outboundCalls := _ } = read
  have charged := ledger_chargeSchedule read t (callCost db call (llmUsageFromHttp body))
  subst recorded
  exact charged

theorem ledger_outboundPayload {callId t : Nat} {call : OutboundBody} {status : Option Int} {body : Option String}
    {payload : Json} (done : outboundPayload env db callId t call status body = .ok (payload, db')) :
    SameLedger db.schedules db'.schedules := by
  unfold outboundPayload at done
  split at done
  case h_1 =>
    obtain ⟨-, rfl⟩ := Prod.mk.inj (Except.ok.inj done)
    exact .refl _
  case h_2 | h_3 | h_4 =>
    obtain ⟨read, -, same⟩ := ok_of_map done
    obtain ⟨-, rfl⟩ := Prod.mk.inj same
    exact .refl _
  case h_5 =>
    split at done
    · obtain ⟨-, rfl⟩ := Prod.mk.inj (Except.ok.inj done)
      unfold forgetResponseFormat
      split <;> exact .refl _
    · obtain ⟨-, rfl⟩ := Prod.mk.inj (Except.ok.inj done)
      exact ledger_recordUsage _ _ _ _

theorem ledger_fnCompleteOutbound {callId : Nat} {status : Option Int} {body : Option String} {reply : Json}
    (done : fnCompleteOutbound env db callId status body = .ok (reply, db')) :
    SameLedger db.schedules db'.schedules := by
  unfold fnCompleteOutbound at done
  split at done
  · cases done
  · split at done
    · obtain ⟨-, rfl⟩ := Prod.mk.inj (Except.ok.inj done)
      exact .refl _
    · split at done
      · cases done
      · rename_i call _ _ _ payload read computed
        have charged : SameLedger (harvestOutbound env db callId status body).schedules read.schedules :=
          ledger_outboundPayload computed
        have submitted := schedules_of_hidden (@hidden_submitFor env read (.outbound, callId) call.taskId payload)
        have last := (Prod.mk.inj (Except.ok.inj done)).2
        have scored (db : Db) (reply : Json) : (scoreCall db callId call.body reply).schedules = db.schedules := by
          unfold scoreCall
          split <;> rfl
        have kept : db'.schedules = read.schedules := by
          rw [← last, scored]
          exact submitted
        rw [kept]
        exact charged

theorem schedules_fnCreateSession {agentId : Nat} {goal : Option String} {projectId scheduleId : Option Nat}
    {created : Created} (done : fnCreateSession env db agentId goal projectId scheduleId = .ok created) :
    created.db.schedules = db.schedules := by
  unfold fnCreateSession at done
  split_ifs at done
  obtain rfl := Except.ok.inj done
  rfl

theorem schedules_fnContinueSession {message : Option String} {created : Created}
    (done : fnContinueSession env db s message = .ok created) : created.db.schedules = db.schedules := by
  unfold fnContinueSession at done
  split at done
  · cases done
  · split at done
    · cases done
    · split_ifs at done
      obtain rfl := Except.ok.inj done
      rfl

theorem hidden_fnDecideApproval {approvalId : Nat} {accept : Option Bool} {reply : Option String} {answer : Json}
    (done : fnDecideApproval env db approvalId accept reply = .ok (answer, db')) : db'.hidden = db.hidden := by
  unfold fnDecideApproval at done
  split at done
  · cases done
  · split at done
    · cases done
    · dsimp only at done
      split at done
      · obtain ⟨-, rfl⟩ := Prod.mk.inj (Except.ok.inj done)
        rfl
      · obtain ⟨-, rfl⟩ := Prod.mk.inj (Except.ok.inj done)
        simp only [answerTask]
        split
        · exact hidden_updateTask _ _
        · exact (hidden_maybeCompleteSession _).trans (hidden_updateTask _ _)

theorem hidden_fnCancelSession {reason : Option String} {answer : Json}
    (done : fnCancelSession env db s reason = .ok (answer, db')) : db'.hidden = db.hidden := by
  unfold fnCancelSession at done
  split at done
  · cases done
  · dsimp only at done
    obtain ⟨-, rfl⟩ := Prod.mk.inj (Except.ok.inj done)
    have cancelled := hidden_foldl (f := cancelTask env ((nonEmpty (reason.map btrim)).getD "Cancelled by operator."))
      (fun db selected => hidden_updateTask _ _)
      (db.tasks.select fun _ task => task.sessionId == s && !task.status.terminal) db
    refine Eq.trans ?_ cancelled
    generalize (db.tasks.select fun _ task => task.sessionId == s && !task.status.terminal).foldl
      (cancelTask env ((nonEmpty (reason.map btrim)).getD "Cancelled by operator.")) db = db
    simp only [Db.hidden, Db.audit, Db.updateSession, Db.rejectPending, Db.loseSql, Db.loseOutbound]

/-- Of the functions of the control plane only the sweep and the completions of HTTP calls write schedules. -/
theorem schedules_of_op {op : Op} (done : op.run env db = .ok db') (swept : op ≠ .runSchedules)
    (completed : ∀ callId status body, op ≠ .completeOutbound callId status body) : db'.schedules = db.schedules := by
  cases op <;> simp only [Op.run] at done
  case createSession =>
    obtain ⟨created, opened, rfl⟩ := ok_of_map done
    exact schedules_fnCreateSession opened
  case continueSession =>
    obtain ⟨created, opened, rfl⟩ := ok_of_map done
    exact schedules_fnContinueSession opened
  case runSchedules => exact absurd rfl swept
  case dispatchTasks =>
    obtain ⟨out, dispatched, rfl⟩ := ok_of_map done
    exact schedules_of_hidden (hidden_of_dispatch dispatched)
  case claimOutbound | claimSql | claimFunctionCalls | claimProcedureCalls =>
    obtain rfl := Except.ok.inj done
    rfl
  case completeOutbound => exact absurd rfl (completed _ _ _)
  case completeSql =>
    obtain ⟨⟨reply, after⟩, completed, rfl⟩ := ok_of_map done
    exact schedules_of_hidden (hidden_fnCompleteSql completed)
  case completeFunctionCall =>
    obtain ⟨⟨reply, after⟩, completed, rfl⟩ := ok_of_map done
    exact schedules_of_hidden (hidden_fnCompleteFunctionCall completed)
  case completeProcedureCall =>
    obtain ⟨⟨reply, after⟩, completed, rfl⟩ := ok_of_map done
    exact schedules_of_hidden (hidden_fnCompleteProcedureCall completed)
  case decideApproval =>
    obtain ⟨⟨reply, after⟩, decided, rfl⟩ := ok_of_map done
    exact schedules_of_hidden (hidden_fnDecideApproval decided)
  case cancelSession =>
    obtain ⟨⟨reply, after⟩, cancelled, rfl⟩ := ok_of_map done
    exact schedules_of_hidden (hidden_fnCancelSession cancelled)
  case watchdog timeout =>
    obtain rfl := Except.ok.inj done
    exact schedules_fnWatchdog timeout
  case nextStep t =>
    obtain ⟨⟨next, after⟩, stepped, rfl⟩ := ok_of_map done
    exact schedules_of_hidden (hidden_of_map (f := fun db => fnNextStep env db t)
      (fun _ _ => cover_fnNextStep t) stepped)
  case submitResult t payload =>
    obtain ⟨⟨reply, after⟩, submitted, rfl⟩ := ok_of_map done
    exact schedules_of_hidden (hidden_of_map (f := fun db => fnSubmitResult env db t payload)
      (fun _ _ => cover_fnSubmitResult t payload) submitted)

/-- Of the functions of the control plane only the sweep fires schedules. -/
theorem ledger_of_op {op : Op} (done : op.run env db = .ok db') (swept : op ≠ .runSchedules) :
    SameLedger db.schedules db'.schedules := by
  by_cases completes : ∃ callId status body, op = .completeOutbound callId status body
  · obtain ⟨callId, status, body, rfl⟩ := completes
    obtain ⟨⟨reply, after⟩, completed, rfl⟩ := ok_of_map done
    exact ledger_fnCompleteOutbound completed
  · refine .of_eq (schedules_of_op done swept fun callId status body same => ?_)
    exact completes ⟨callId, status, body, same⟩

/-! ### Firing -/

/-- The schedule may fire at that time. -/
structure Ready (row : ScheduleRow) (now : Time) : Prop where
  active : row.isActive = true
  runs : ∀ max, row.maxRuns = some max → row.runCount < max
  time : ∀ ends, row.endsAt = some ends → now < ends
  cost : ∀ limit, row.maxCostUsd = some limit → row.spentCostUsd < limit

theorem Ready.of_stopped {row : ScheduleRow} {now : Time} (active : row.isActive = true)
    (going : row.stopped now = false) : Ready row now := by
  simp only [ScheduleRow.stopped, Bool.or_eq_false_iff] at going
  obtain ⟨⟨runs, time⟩, cost⟩ := going
  refine ⟨active, ?_, ?_, ?_⟩
  · intro max limited
    simpa [limited] using runs
  · intro ends limited
    simpa [limited] using time
  · intro limit limited
    simpa [limited] using cost

/-- What becomes of the tables when it is a schedule's turn: it is skipped, or it opens a
session, and is then not due before `wait`. -/
inductive Pass (now wait : Time) (id : Nat) (row : ScheduleRow) (db after : Db) : Prop
  | skip (set : ScheduleRow → ScheduleRow) : (set row).runCount = row.runCount →
      row.nextRunAt ≤ (set row).nextRunAt → after.sessions = db.sessions →
      after.schedules = db.schedules.modify id set → Pass now wait id row db after
  | fire (set : ScheduleRow → ScheduleRow) (session : SessionRow) : Ready row now → session.scheduleId = some id →
      (set row).runCount = row.runCount + 1 → row.nextRunAt ≤ (set row).nextRunAt → wait ≤ (set row).nextRunAt →
      after.sessions = db.sessions.insert session → after.schedules = db.schedules.modify id set →
      Pass now wait id row db after

theorem fnCreateSession_sessions {agentId : Nat} {goal : Option String} {projectId scheduleId : Option Nat}
    {created : Created} (done : fnCreateSession env db agentId goal projectId scheduleId = .ok created) :
    ∃ session, session.scheduleId = scheduleId ∧ created.db.sessions = db.sessions.insert session := by
  obtain ⟨session, row, log, belongs, opened, uncut, given, root, newest, core⟩ := fnCreateSession_core done
  exact ⟨session, given, congrArg Core.sessions core⟩

theorem seconds_nonneg (count : Nat) : 0 ≤ seconds count :=
  Int.mul_nonneg (Int.natCast_nonneg count) (by decide)

theorem runSchedule_pass {row : ScheduleRow} (due : row.due env.now = true) (count : Nat) :
    Pass env.now (env.now + seconds row.intervalSeconds) id row db (runSchedule env (count, db) (id, row)).2 := by
  simp only [ScheduleRow.due, Bool.and_eq_true, decide_eq_true_eq] at due
  obtain ⟨active, reached⟩ := due
  have later : row.nextRunAt ≤ env.now + seconds row.intervalSeconds := by
    have forward := seconds_nonneg row.intervalSeconds
    exact le_add_of_le_of_nonneg reached forward
  simp only [runSchedule]
  split
  · exact .skip (fun row => { row with isActive := false }) rfl (le_refl _) rfl rfl
  · rename_i going
    rw [Bool.not_eq_true] at going
    split
    · exact .skip (fun other => { other with nextRunAt := env.now + seconds row.intervalSeconds }) rfl later rfl rfl
    · rename_i created opened
      obtain ⟨session, given, inserted⟩ := fnCreateSession_sessions opened
      refine .fire (fun row => row.fired env.now created.sessionId) session (.of_stopped active going) given rfl later
        (le_refl _) inserted ?_
      rw [schedules_fnCreateSession opened]

theorem fnRunScheduleNow_pass {answer : Json} (done : fnRunScheduleNow env db id = .ok (answer, db')) :
    ∃ row, db.schedules.get? id = some row ∧ Pass env.now row.nextRunAt id row db db' := by
  unfold fnRunScheduleNow at done
  split at done
  · cases done
  · rename_i row found
    split_ifs at done with paused ended
    rw [Bool.not_eq_true', Bool.not_eq_false] at paused
    rw [Bool.not_eq_true] at ended
    split at done
    · cases done
    · rename_i created opened
      obtain ⟨session, given, inserted⟩ := fnCreateSession_sessions opened
      obtain ⟨-, rfl⟩ := Prod.mk.inj (Except.ok.inj done)
      refine ⟨row, found, .fire (fun row => row.firedNow env.now created.sessionId) session
        (.of_stopped paused ended) given rfl (le_refl _) (le_refl _) inserted ?_⟩
      rw [← schedules_fnCreateSession opened]
      rfl

/-- Only the schedule whose turn it is changes. -/
theorem Pass.others {now wait : Time} {row : ScheduleRow} (pass : Pass now wait id row db db') {other : Nat}
    (different : other ≠ id) : db'.schedules.get? other = db.schedules.get? other := by
  cases pass with
  | skip set _ _ _ modified => rw [modified, Table.get?_modify, if_neg different]
  | fire set session _ _ _ _ _ _ modified => rw [modified, Table.get?_modify, if_neg different]

theorem Pass.next {now wait : Time} {row : ScheduleRow} (pass : Pass now wait id row db db') :
    db'.schedules.next = db.schedules.next := by
  cases pass with
  | skip set _ _ _ modified => rw [modified, Table.next_modify]
  | fire set session _ _ _ _ _ _ modified => rw [modified, Table.next_modify]

/-- What every pass over a due schedule keeps holds after the sweep. The schedules that are
still to come are as they were at its start. -/
theorem sweep_invariant {P : Db → Prop}
    (keeps : ∀ before after id row, db.schedules.get? id = some row → before.schedules.get? id = some row →
      row.due env.now = true → Pass env.now (env.now + seconds row.intervalSeconds) id row before after →
      P before → P after)
    (initially : P db) : P (fnRunSchedules env db).2 := by
  have loop (items : List (Nat × ScheduleRow)) (state : Nat × Db) (apart : (items.map Prod.fst).Nodup)
      (chosen : ∀ item ∈ items, db.schedules.get? item.1 = some item.2 ∧ item.2.due env.now = true)
      (current : ∀ item ∈ items, state.2.schedules.get? item.1 = some item.2) (held : P state.2) :
      P (items.foldl (runSchedule env) state).2 := by
    induction items generalizing state with
    | nil => exact held
    | cons item rest ih =>
      obtain ⟨count, before⟩ := state
      obtain ⟨id, row⟩ := item
      rw [List.map_cons, List.nodup_cons] at apart
      obtain ⟨found, due⟩ := chosen (id, row) List.mem_cons_self
      have here := current (id, row) List.mem_cons_self
      have pass := @runSchedule_pass env before id row due count
      refine ih _ apart.2 (fun item member => chosen item (List.mem_cons_of_mem _ member)) ?_
        (keeps before _ id row found here due pass held)
      intro item member
      have different : item.1 ≠ id := by
        intro same
        exact apart.1 (List.mem_map.mpr ⟨item, member, same⟩)
      exact (pass.others different).trans (current item (List.mem_cons_of_mem _ member))
  refine loop _ (0, db) (Table.select_keys_nodup _ _) ?_ ?_ initially
  · intro item member
    exact Table.mem_select.mp member
  · intro item member
    exact (Table.mem_select.mp member).1

/-! ### Transactions -/

/-- The functions that act on schedules, besides those of the control plane. -/
inductive ScheduleOp
  | createSchedule (name : Option String) (agentId : Nat) (goal : Option String)
      (intervalSeconds maxRuns : Option Int) (endsAt startAt : Option Time) (maxCostUsd : Option ℚ)
  | setSchedule (scheduleId : Nat) (edit : ScheduleEdit)
  | deleteSchedule (scheduleId : Nat)
  | runScheduleNow (scheduleId : Nat)
  | control (op : Op)

def ScheduleOp.run (env : Env) (db : Db) : ScheduleOp → Except String Db
  | .createSchedule name agentId goal intervalSeconds maxRuns endsAt startAt maxCostUsd =>
    (fnCreateSchedule env db name agentId goal intervalSeconds maxRuns endsAt startAt maxCostUsd).map Prod.snd
  | .setSchedule scheduleId edit => (fnSetSchedule db scheduleId edit).map Prod.snd
  | .deleteSchedule scheduleId => (fnDeleteSchedule db scheduleId).map Prod.snd
  | .runScheduleNow scheduleId => (fnRunScheduleNow env db scheduleId).map Prod.snd
  | .control op => op.run env db

/-- Nobody else passes a schedule to `fn_create_session`. -/
def ScheduleOp.direct : ScheduleOp → Bool
  | .control (.createSession _ _ _ scheduleId) => scheduleId.isNone
  | _ => true

inductive ScheduleLabel
  | call (env : Env) (op : ScheduleOp)
  | other

def ScheduleLabel.direct : ScheduleLabel → Bool
  | .call _ op => op.direct
  | .other => true

/-- One transaction. `other` stands for every function that writes neither sessions nor schedules. -/
inductive ScheduleStep : ScheduleLabel → Db → Db → Prop
  | commit {env : Env} {op : ScheduleOp} {db db' : Db} : op.run env db = .ok db' →
      ScheduleStep (.call env op) db db'
  | rollback {env : Env} {op : ScheduleOp} {db : Db} {message : String} : op.run env db = .error message →
      ScheduleStep (.call env op) db db
  | other {db db' : Db} : db'.sessions = db.sessions → db'.schedules = db.schedules → ScheduleStep .other db db'

abbrev ScheduleRun (start db : Db) : Prop := Path ScheduleStep (fun label _ => label.direct = true) start db

/-- The transaction opens a session for the schedule. -/
def Opens (id : Nat) (db db' : Db) : Prop :=
  ∃ s session, db.sessions.get? s = none ∧ db'.sessions.get? s = some session ∧ session.scheduleId = some id

theorem Opens.origin (opens : Opens id db db') :
    ∃ s, origin db.sessions s = none ∧ Allgres.origin db'.sessions s = some id := by
  obtain ⟨s, session, absent, found, given⟩ := opens
  refine ⟨s, ?_, ?_⟩
  · rw [Allgres.origin, absent]
    rfl
  · rw [Allgres.origin, found]
    exact given

/-- What a transaction can do to sessions and schedules. -/
inductive Change (env : Env) (op : ScheduleOp) (db db' : Db) : Prop
  | calm : (∀ s, origin db'.sessions s = origin db.sessions s) → SameLedger db.schedules db'.schedules →
      Change env op db db'
  | create (row : ScheduleRow) : row.runCount = 0 → db'.sessions = db.sessions →
      db'.schedules = db.schedules.insert row → Change env op db db'
  | delete (id : Nat) : (∀ s, origin db'.sessions s = (origin db.sessions s).filter (· != id)) →
      db'.schedules = db.schedules.delete (fun other _ => other == id) → Change env op db db'
  | runNow (id : Nat) (row : ScheduleRow) : op = .runScheduleNow id → db.schedules.get? id = some row →
      Pass env.now row.nextRunAt id row db db' → Change env op db db'
  | sweep : op = .control .runSchedules → db' = (fnRunSchedules env db).2 → Change env op db db'

theorem origin_forget (sessions : Table SessionRow) (id s : Nat) :
    origin (sessions.update (fun _ session => session.scheduleId == some id)
      fun _ session => { session with scheduleId := none }) s = (origin sessions s).filter (· != id) := by
  simp only [origin, Table.get?_update]
  cases sessions.get? s with
  | none => rfl
  | some session =>
    simp only [Option.map_some, Option.bind_some]
    cases given : session.scheduleId with
    | none => simp [given]
    | some other =>
      by_cases same : other = id
      · simp [same, Option.filter]
      · simp [same, given, Option.filter]

theorem Op.origin {op : Op} (done : op.run env db = .ok db') (swept : op ≠ .runSchedules)
    (direct : (ScheduleOp.control op).direct = true) : origin db'.sessions s = origin db.sessions s := by
  refine (Op.writes done).origin ?_
  intro id σ marks
  have calm {t : Nat} {payload : Json} (submitting : Submitting env db t payload (.fire id) σ) : False := by
    unfold Submitting at submitting
    split at submitting <;> exact submitting
  cases op with
  | createSession agentId goal projectId scheduleId =>
    obtain rfl : scheduleId = none := Option.isNone_iff_eq_none.mp direct
    cases marks
  | runSchedules => exact swept rfl
  | completeOutbound callId status body =>
    unfold Op.marks Replying at marks
    cases chosen : (db.outboundCalls.get? callId).filter fun call =>
      call.status == .inFlight && call.body.kind == .llm && !isLlmFailure status with
    | none => simp only [chosen, Calm] at marks
    | some call =>
      simp only [chosen, reduceCtorEq, false_or] at marks
      exact calm marks
  | submitResult => exact calm marks
  | _ => exact marks

theorem ScheduleOp.change {op : ScheduleOp} (done : op.run env db = .ok db') (direct : op.direct = true) :
    Change env op db db' := by
  cases op <;> simp only [ScheduleOp.run] at done
  case createSchedule =>
    obtain ⟨⟨reply, after⟩, created, rfl⟩ := ok_of_map done
    unfold fnCreateSchedule at created
    dsimp only at created
    split_ifs at created
    obtain ⟨-, rfl⟩ := Prod.mk.inj (Except.ok.inj created)
    exact .create _ rfl rfl rfl
  case setSchedule id edit =>
    obtain ⟨⟨reply, after⟩, edited, rfl⟩ := ok_of_map done
    unfold fnSetSchedule at edited
    split at edited
    · cases edited
    · split_ifs at edited
      obtain ⟨-, rfl⟩ := Prod.mk.inj (Except.ok.inj edited)
      have kept : SameLedger db.schedules (db.schedules.modify id fun schedule => schedule.edited edit) :=
        .modify fun row => ⟨rfl, rfl⟩
      exact .calm (fun _ => rfl) kept
  case deleteSchedule id =>
    obtain ⟨⟨reply, after⟩, deleted, rfl⟩ := ok_of_map done
    unfold fnDeleteSchedule at deleted
    split at deleted
    · cases deleted
    · obtain ⟨-, rfl⟩ := Prod.mk.inj (Except.ok.inj deleted)
      exact .delete id (origin_forget db.sessions id) rfl
  case runScheduleNow id =>
    obtain ⟨⟨reply, after⟩, ran, rfl⟩ := ok_of_map done
    obtain ⟨row, found, pass⟩ := fnRunScheduleNow_pass ran
    exact .runNow id row rfl found pass
  case control op =>
    by_cases swept : op = .runSchedules
    · subst swept
      exact .sweep rfl (Except.ok.inj done).symm
    · exact .calm (fun s => Op.origin done swept direct) (ledger_of_op done swept)

/-! ### Counting runs -/

/-- Every schedule has counted the sessions it has opened. -/
structure Counted (db : Db) : Prop where
  counted : ∀ id row, db.schedules.get? id = some row → row.runCount = db.runsOf id
  unborn : ∀ id, db.schedules.next ≤ id → db.runsOf id = 0

theorem Counted.congr (held : Counted db) (sessions : db'.sessions = db.sessions)
    (schedules : db'.schedules = db.schedules) : Counted db' := by
  have same (id : Nat) : db'.runsOf id = db.runsOf id := runsOf_congr fun s => by rw [sessions]
  refine ⟨fun id row now => ?_, fun id above => ?_⟩
  · rw [schedules] at now
    rw [same]
    exact held.counted id row now
  · rw [schedules] at above
    rw [same]
    exact held.unborn id above

theorem Pass.counted {now wait : Time} {row : ScheduleRow} (pass : Pass now wait id row db db')
    (found : db.schedules.get? id = some row) (held : Counted db) : Counted db' := by
  have next := pass.next
  have born : id < db.schedules.next := Table.get?_lt_next found
  have others (other : Nat) (different : other ≠ id) (same : db'.runsOf other = db.runsOf other) :
      ∀ row, db'.schedules.get? other = some row → row.runCount = db'.runsOf other := by
    intro row now
    rw [pass.others different] at now
    rw [same]
    exact held.counted other row now
  cases pass with
  | skip set kept later sessions modified =>
    have same (other : Nat) : db'.runsOf other = db.runsOf other := runsOf_congr fun s => by rw [sessions]
    refine ⟨fun other after now => ?_, fun other above => ?_⟩
    · by_cases here : other = id
      · subst here
        rw [modified, Table.get?_modify, if_pos rfl, found] at now
        obtain rfl := Option.some.inj now
        rw [kept, same]
        exact held.counted other row found
      · exact others other here (same other) after now
    · rw [next] at above
      rw [same]
      exact held.unborn other above
  | fire set session ready given counts later waits inserted modified =>
    have runs (other : Nat) : db'.runsOf other = db.runsOf other + if other = id then 1 else 0 := by
      rw [runsOf_insert inserted, given]
      simp only [Option.some.injEq, eq_comm]
    refine ⟨fun other after now => ?_, fun other above => ?_⟩
    · by_cases here : other = id
      · subst here
        rw [modified, Table.get?_modify, if_pos rfl, found] at now
        obtain rfl := Option.some.inj now
        rw [counts, runs, if_pos rfl, held.counted other row found]
      · have same := runs other
        rw [if_neg here] at same
        exact others other here same after now
    · have different : other ≠ id := by omega
      rw [next] at above
      rw [runs, if_neg different, held.unborn other above]

theorem Change.counted {op : ScheduleOp} (change : Change env op db db') (held : Counted db) : Counted db' := by
  cases change with
  | calm origins ledger =>
    have same (id : Nat) : db'.runsOf id = db.runsOf id := runsOf_congr origins
    refine ⟨fun id row now => ?_, fun id above => ?_⟩
    · obtain ⟨before, found, counts, due⟩ := ledger.rows id row now
      rw [counts, same]
      exact held.counted id before found
    · rw [ledger.next] at above
      rw [same]
      exact held.unborn id above
  | create row fresh sessions inserted =>
    have same (id : Nat) : db'.runsOf id = db.runsOf id := runsOf_congr fun s => by rw [sessions]
    refine ⟨fun id after now => ?_, fun id above => ?_⟩
    · rw [inserted, Table.get?_insert] at now
      rw [same]
      split at now
      · rename_i newest
        obtain rfl := Option.some.inj now
        rw [fresh, held.unborn id (by omega)]
      · exact held.counted id after now
    · rw [inserted, Table.next_insert] at above
      rw [same]
      exact held.unborn id (by omega)
  | delete gone origins deleted =>
    have fewer (id : Nat) : db'.runsOf id ≤ db.runsOf id := by
      refine runsOf_le fun s given => ?_
      rw [origins, Option.filter_eq_some_iff] at given
      exact given.1
    have same {id : Nat} (different : id ≠ gone) : db'.runsOf id = db.runsOf id := by
      refine Nat.le_antisymm (fewer id) (runsOf_le fun s given => ?_)
      rw [origins, Option.filter_eq_some_iff]
      exact ⟨given, by simpa using different⟩
    refine ⟨fun id row now => ?_, fun id above => ?_⟩
    · rw [deleted, Table.get?_delete, Option.filter_eq_some_iff] at now
      obtain ⟨found, kept⟩ := now
      have different : id ≠ gone := by simpa using kept
      rw [same different]
      exact held.counted id row found
    · have none := held.unborn id (by rw [deleted] at above; exact above)
      have below := fewer id
      omega
  | runNow id row asked found pass => exact pass.counted found held
  | sweep asked swept =>
    rw [swept]
    refine sweep_invariant (fun before after id row found here due pass counted => ?_) held
    exact pass.counted here counted

/-! ### Waiting -/

/-- The schedule exists or existed, and is not due before that time any more. -/
structure Delayed (id : Nat) (bound : Time) (db : Db) : Prop where
  issued : id < db.schedules.next
  waits : ∀ row, db.schedules.get? id = some row → bound ≤ row.nextRunAt

theorem Pass.delayed {now wait bound : Time} {other : Nat} {row : ScheduleRow} (pass : Pass now wait other row db db')
    (found : db.schedules.get? other = some row) (held : Delayed id bound db) : Delayed id bound db' := by
  refine ⟨by rw [pass.next]; exact held.issued, fun after now => ?_⟩
  by_cases here : id = other
  · subst here
    have before := held.waits row found
    cases pass with
    | skip set kept later sessions modified =>
      rw [modified, Table.get?_modify, if_pos rfl, found] at now
      obtain rfl := Option.some.inj now
      exact le_trans before later
    | fire set session ready given counts later waits inserted modified =>
      rw [modified, Table.get?_modify, if_pos rfl, found] at now
      obtain rfl := Option.some.inj now
      exact le_trans before later
  · rw [pass.others here] at now
    exact held.waits after now

theorem Change.delayed {op : ScheduleOp} {bound : Time} (change : Change env op db db')
    (held : Delayed id bound db) : Delayed id bound db' := by
  have issued := held.issued
  cases change with
  | calm origins ledger =>
    refine ⟨by rw [ledger.next]; exact issued, fun row now => ?_⟩
    obtain ⟨before, found, counts, due⟩ := ledger.rows id row now
    rw [due]
    exact held.waits before found
  | create row fresh sessions inserted =>
    refine ⟨by rw [inserted, Table.next_insert]; omega, fun after now => ?_⟩
    rw [inserted, Table.get?_insert, if_neg (by omega)] at now
    exact held.waits after now
  | delete gone origins deleted =>
    refine ⟨by rw [deleted]; exact issued, fun row now => ?_⟩
    rw [deleted, Table.get?_delete, Option.filter_eq_some_iff] at now
    exact held.waits row now.1
  | runNow other row asked found pass => exact pass.delayed found held
  | sweep asked swept =>
    rw [swept]
    refine sweep_invariant (fun before after other row found here due pass delayed => ?_) held
    exact pass.delayed here delayed

/-! ### Opening sessions -/

theorem Pass.origin {now wait : Time} {row : ScheduleRow} (pass : Pass now wait id row db db') {other : Nat}
    (given : origin db'.sessions s = some other) :
    origin db.sessions s = some other ∨ other = id ∧ Ready row now ∧
      ∃ after, db'.schedules.get? id = (db.schedules.get? id).map after ∧ wait ≤ (after row).nextRunAt := by
  cases pass with
  | skip set kept later sessions modified =>
    rw [sessions] at given
    exact .inl given
  | fire set session ready opened counts later waits inserted modified =>
    rw [inserted, origin_insert] at given
    split at given
    · have same : id = other := Option.some.inj (opened.symm.trans given)
      exact .inr ⟨same.symm, ready, set, by rw [modified, Table.get?_modify, if_pos rfl], waits⟩
    · exact .inl given

/-- What the sweep has done for the schedules whose sessions it has opened so far. -/
def Fired (env : Env) (db now : Db) : Prop :=
  ∀ s id, origin db.sessions s = none → origin now.sessions s = some id →
    ∃ row, db.schedules.get? id = some row ∧ row.due env.now = true ∧ Ready row env.now ∧
      Delayed id (env.now + seconds row.intervalSeconds) now

theorem fnRunSchedules_fired (env : Env) (db : Db) : Fired env db (fnRunSchedules env db).2 := by
  refine sweep_invariant (P := Fired env db) ?_ ?_
  · intro before after id row found here due pass held s other absent given
    rcases pass.origin given with old | ⟨rfl, ready, set, changed, waits⟩
    · obtain ⟨first, start, wasDue, ready, delayed⟩ := held s other absent old
      exact ⟨first, start, wasDue, ready, pass.delayed here delayed⟩
    · refine ⟨row, found, due, ready, ?_, fun now present => ?_⟩
      · rw [pass.next]
        exact Table.get?_lt_next here
      · rw [changed, here] at present
        obtain rfl := Option.some.inj present
        exact waits
  · intro s id absent given
    rw [absent] at given
    cases given

/-- A schedule that the sweep has left as it was has opened no session, and none opens two. -/
theorem fnRunSchedules_once (env : Env) (db : Db) (id : Nat) :
    (fnRunSchedules env db).2.runsOf id ≤ db.runsOf id + 1 := by
  have swept : (fnRunSchedules env db).2.runsOf id ≤ db.runsOf id + 1 ∧
      ((fnRunSchedules env db).2.schedules.get? id = db.schedules.get? id →
        (fnRunSchedules env db).2.runsOf id = db.runsOf id) := by
    refine sweep_invariant (P := fun now => now.runsOf id ≤ db.runsOf id + 1 ∧
      (now.schedules.get? id = db.schedules.get? id → now.runsOf id = db.runsOf id)) ?_ ⟨by omega, fun _ => rfl⟩
    intro before after other row found here due pass ⟨few, idle⟩
    cases pass with
    | skip set kept later sessions modified =>
      have same : after.runsOf id = before.runsOf id := runsOf_congr fun s => by rw [sessions]
      refine ⟨by omega, fun unchanged => ?_⟩
      by_cases mine : id = other
      · subst mine
        rw [same, idle (here.trans found.symm)]
      · rw [modified, Table.get?_modify, if_neg mine] at unchanged
        rw [same, idle unchanged]
    | fire set session ready given counts later waits inserted modified =>
      have runs : after.runsOf id = before.runsOf id + if session.scheduleId = some id then 1 else 0 :=
        runsOf_insert inserted
      rw [given] at runs
      by_cases mine : id = other
      · subst mine
        have before := idle (here.trans found.symm)
        rw [if_pos rfl] at runs
        refine ⟨by omega, fun unchanged => ?_⟩
        rw [modified, Table.get?_modify, if_pos rfl, here, found] at unchanged
        have same : set row = row := Option.some.inj unchanged
        rw [same] at counts
        omega
      · rw [if_neg (by simpa using Ne.symm mine)] at runs
        refine ⟨by omega, fun unchanged => ?_⟩
        rw [modified, Table.get?_modify, if_neg mine] at unchanged
        rw [runs, idle unchanged, Nat.add_zero]
  exact swept.1

/-- Only the two functions that fire schedules open sessions for them, and only if they may fire. -/
theorem Change.opens {op : ScheduleOp} (change : Change env op db db') (opens : Opens id db db') :
    (op = .control .runSchedules ∨ op = .runScheduleNow id) ∧
      ∃ row, db.schedules.get? id = some row ∧ Ready row env.now := by
  obtain ⟨s, absent, given⟩ := opens.origin
  cases change with
  | calm origins ledger =>
    rw [origins, absent] at given
    cases given
  | create row fresh sessions inserted =>
    rw [sessions, absent] at given
    cases given
  | delete gone origins deleted =>
    rw [origins, absent] at given
    cases given
  | runNow other row asked found pass =>
    rcases pass.origin given with old | ⟨rfl, ready, later⟩
    · rw [absent] at old
      cases old
    · exact ⟨.inr asked, row, found, ready⟩
  | sweep asked swept =>
    rw [swept] at given
    obtain ⟨row, found, due, ready, delayed⟩ := fnRunSchedules_fired env db s id absent given
    exact ⟨.inl asked, row, found, ready⟩

/-! ### The law of schedules -/

/-- What holds of the schedules in a reachable state and of the transactions that may follow. -/
structure ScheduleLaw (db : Db) : Prop where
  counted : ∀ id row, db.schedules.get? id = some row → row.runCount = db.runsOf id
  ready : ∀ label db' id, ScheduleStep label db db' → label.direct = true → Opens id db db' →
    ∃ env op row, label = .call env op ∧ (op = .control .runSchedules ∨ op = .runScheduleNow id) ∧
      db.schedules.get? id = some row ∧ Ready row env.now
  once : ∀ env id, (fnRunSchedules env db).2.runsOf id ≤ db.runsOf id + 1
  apart : ∀ env id row, db.schedules.get? id = some row → Opens id db (fnRunSchedules env db).2 →
    ∀ env' later, ScheduleRun (fnRunSchedules env db).2 later → Opens id later (fnRunSchedules env' later).2 →
      env.now + seconds row.intervalSeconds ≤ env'.now

theorem counted_of_run (run : ScheduleRun start db) (initially : Counted start) : Counted db := by
  refine run.invariant ?_ initially
  intro label before after step direct held
  cases step with
  | commit done => exact (ScheduleOp.change done direct).counted held
  | rollback => exact held
  | other sessions schedules => exact held.congr sessions schedules

theorem delayed_of_run {bound : Time} (run : ScheduleRun start db) (initially : Delayed id bound start) :
    Delayed id bound db := by
  refine run.invariant ?_ initially
  intro label before after step direct held
  cases step with
  | commit done => exact (ScheduleOp.change done direct).delayed held
  | rollback => exact held
  | other sessions schedules =>
    refine ⟨by rw [schedules]; exact held.issued, fun row now => ?_⟩
    rw [schedules] at now
    exact held.waits row now

theorem sweeps_apart {row : ScheduleRow} (found : db.schedules.get? id = some row)
    (first : Opens id db (fnRunSchedules env db).2) {later : Db} {env' : Env}
    (run : ScheduleRun (fnRunSchedules env db).2 later) (second : Opens id later (fnRunSchedules env' later).2) :
    env.now + seconds row.intervalSeconds ≤ env'.now := by
  obtain ⟨s, absent, given⟩ := first.origin
  obtain ⟨before, here, _, _, delayed⟩ := fnRunSchedules_fired env db s id absent given
  obtain rfl := Option.some.inj (found.symm.trans here)
  have waits := delayed_of_run run delayed
  obtain ⟨t, absent, given⟩ := second.origin
  obtain ⟨due, there, reached, _, _⟩ := fnRunSchedules_fired env' later t id absent given
  simp only [ScheduleRow.due, Bool.and_eq_true, decide_eq_true_eq] at reached
  exact le_trans (waits.waits due there) reached.2

/-- In every run from an installation without sessions and schedules, at any clock times, schedules
open sessions only when they may fire, count them, and wait for their interval between two sweeps. -/
theorem schedule_law (unused : ∀ s, start.sessions.get? s = none) (unscheduled : ∀ id, start.schedules.get? id = none)
    (run : ScheduleRun start db) : ScheduleLaw db := by
  have initially : Counted start := by
    refine ⟨fun id row found => ?_, fun id above => ?_⟩
    · rw [unscheduled] at found
      cases found
    · refine Table.count_eq_zero.mpr fun s session found => ?_
      rw [unused] at found
      cases found
  refine ⟨(counted_of_run run initially).counted, ?_, fun env id => fnRunSchedules_once env db id, ?_⟩
  · intro label db' id step direct opens
    cases step with
    | @commit env op _ _ done =>
      obtain ⟨asked, row, found, ready⟩ := (ScheduleOp.change done direct).opens opens
      exact ⟨env, op, row, rfl, asked, found, ready⟩
    | rollback =>
      obtain ⟨s, absent, given⟩ := opens.origin
      rw [absent] at given
      cases given
    | other sessions =>
      obtain ⟨s, absent, given⟩ := opens.origin
      rw [sessions, absent] at given
      cases given
  · intro env id row found first env' later run second
    exact sweeps_apart found first run second

/-- A schedule is created and fires at the next sweep. -/
theorem schedule_law_hourly : ∃ db, ScheduleRun (helperDb (helperPolicy 5 none)) db ∧ db.runsOf 0 = 1 ∧
    ScheduleLaw db := by
  have fresh := helperDb_fresh (helperPolicy 5 none)
  let create : ScheduleOp := .createSchedule (some "hourly") 0 (some "report") (some 3600) none none none none
  have created : ∃ db, create.run .bare (helperDb (helperPolicy 5 none)) = .ok db ∧
      (fnRunSchedules .bare db).2.runsOf 0 = 1 := ⟨_, rfl, by decide +kernel⟩
  obtain ⟨db, done, fired⟩ := created
  have run : ScheduleRun (helperDb (helperPolicy 5 none)) (fnRunSchedules .bare db).2 :=
    (Path.single (ScheduleStep.commit done) rfl).trans
      (.single (@ScheduleStep.commit .bare (.control .runSchedules) db _ rfl) rfl)
  exact ⟨_, run, fired, schedule_law fresh.sessions (fun _ => rfl) run⟩

end Allgres
