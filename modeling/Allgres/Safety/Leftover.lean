import Allgres.Safety.Outstanding

/-! What a task leaves behind when it ends. The end of a turn and the
cancellation of a session retire the calls of two of the four queues. -/

namespace Allgres

open Relational Jsonb Sql Runs

variable {db db' start : Db}

def Db.bodyCallOutstanding (db : Db) (t : Nat) : Bool :=
  Db.outstandingOf db.functionCalls t || Db.outstandingOf db.procedureCalls t

/-- A sweep ends no turn that has a call of a function or a procedure which the
same sweep does not reclaim, and a cancellation ends no task with such a call. -/
def Label.leavesNoCall : Label → Db → Bool
  | .call env (.watchdog timeout), db =>
    !db.tasks.exists? fun t task => turnExpired env db task && db.leavesCall env timeout t
  | .call _ (.cancelSession s _), db =>
    !db.tasks.exists? fun t task => task.sessionId == s && !task.status.terminal && db.bodyCallOutstanding t
  | label, db => label.driven db

theorem Label.leavesNoCall_driven {label : Label} (allowed : label.leavesNoCall db = true) :
    label.driven db = true := by
  cases label with
  | configure => rfl
  | call env op =>
    cases op with
    | watchdog | cancelSession => rfl
    | createSession | continueSession | runSchedules | dispatchTasks | claimOutbound | claimSql | claimFunctionCalls
      | claimProcedureCalls | completeOutbound | completeSql | completeFunctionCall | completeProcedureCall
      | decideApproval | nextStep | submitResult => exact allowed

theorem bodyCallOutstanding_of_holds {t : Nat} {k : CallKey} (held : db.flow.Holds t k) (unswept : ¬ Flow.swept k) :
    db.bodyCallOutstanding t = true := by
  obtain ⟨queue, id⟩ := k
  simp only [Db.bodyCallOutstanding, Db.outstandingOf, Bool.or_eq_true, Table.exists?_eq_true]
  cases queue with
  | outbound => exact absurd (.inl rfl) unswept
  | sql => exact absurd (.inr rfl) unswept
  | function => exact .inl ⟨id, (holds_iff ((function_view db).call db.functionCalls) id).mp held⟩
  | procedure => exact .inr ⟨id, (holds_iff ((procedure_view db).call db.procedureCalls) id).mp held⟩

theorem Facts.sweepsAll {label : Label} {event : Flow.Event} {σ : Flow Left} (allowed : label.leavesNoCall db = true)
    (facts : Facts label db event σ) : Flow.SweepsAll event σ := by
  cases event with
  | plain | dispatch | report | swallow => trivial
  | timeout t =>
    obtain ⟨env, timeout, rfl, task, found, late, leaves, -⟩ := facts.timeout
    intro k held
    by_contra unswept
    have exists? : (db.tasks.exists? fun t task => turnExpired env db task && db.leavesCall env timeout t) = true :=
      Table.exists?_eq_true.mpr ⟨t, task, found, by rw [late, leaves k held unswept]; rfl⟩
    simp only [Label.leavesNoCall, exists?] at allowed
    cases allowed
  | cancel s =>
    obtain ⟨env, reason, rfl, rfl⟩ := facts.cancel
    intro t view k found owned live held
    by_contra unswept
    obtain ⟨task, row, rfl⟩ := flow_task_some found
    have owned : task.sessionId = s := owned
    have live : task.status.terminal = false := live
    have exists? : (db.tasks.exists? fun t task =>
        task.sessionId == s && !task.status.terminal && db.bodyCallOutstanding t) = true :=
      Table.exists?_eq_true.mpr ⟨t, task, row, by simp [owned, live, bodyCallOutstanding_of_holds held unswept]⟩
    simp only [Label.leavesNoCall, exists?] at allowed
    cases allowed

theorem noLeftover_of_run (fresh : Fresh start) (run : Run Label.leavesNoCall start db) :
    Flow.NoLeftover db.flow := by
  have initially : Flow.NoLeftover start.flow := by
    rintro t k view ⟨call, found, -⟩
    cases (fresh.calls k).symm.trans found
  refine (flow_invariant (P := fun σ => Flow.Calls σ ∧ Flow.NoLeftover σ)
    (fun event σ => Flow.Rests event σ ∧ Flow.SweepsAll event σ) ?_ ?_ run ⟨fresh.calls_invariant, initially⟩).2
  · rintro event σ σ' move ⟨rests, sweeps⟩ ⟨calls, clean⟩
    exact ⟨move.calls rests calls, move.noLeftover rests sweeps calls clean⟩
  · intro label before event σ allowed facts
    exact ⟨Facts.rests (Label.leavesNoCall_driven allowed) facts, Facts.sweepsAll allowed facts⟩

theorem outstandingRows_eq_zero (clean : Flow.NoLeftover db.flow) {t : Nat} {task : TaskRow}
    (found : db.tasks.get? t = some task) (ended : task.status.terminal = true) : db.outstandingRows t = 0 := by
  by_contra some
  obtain ⟨k, held⟩ := outstandingRows_pos.mp (Nat.pos_of_ne_zero some)
  have live := clean t k task.view held (flow_task found)
  rw [show task.view.status.terminal = true from ended] at live
  cases live

/-- A cancelled session has only terminal tasks. -/
theorem cancel_ends {s : Nat} {σ σ' : Flow Left} (move : Flow.Move (.cancel s) σ σ') {t : Nat}
    {view : TaskView Left} (found : σ'.task t = some view) (owned : view.session = s) :
    view.status.terminal = true := by
  cases move with
  | cancel s finish live known nodup exactly =>
    obtain ⟨old, before, rfl⟩ := Option.map_eq_some_iff.mp found
    by_cases member : t ∈ live
    · rw [if_pos member]
      rfl
    · rw [if_neg member] at owned ⊢
      by_contra alive
      exact member ((exactly t).mpr ⟨old, before, owned, Bool.eq_false_of_not_eq_true alive⟩)

/-- As long as no sweep and no cancellation meets such a call, a terminal task
has no outstanding call, and neither has any task of a session just cancelled. -/
theorem terminal_task_leaves_no_call (fresh : Fresh start) (run : Run Label.leavesNoCall start db) :
    (∀ t task, db.tasks.get? t = some task → task.status.terminal = true → db.outstandingRows t = 0) ∧
    ∀ env s reason answer db', fnCancelSession env db s reason = .ok (answer, db') →
      (Label.call env (.cancelSession s reason)).leavesNoCall db = true →
      ∀ t task, db'.tasks.get? t = some task → task.sessionId = s → db'.outstandingRows t = 0 := by
  refine ⟨fun t task => outstandingRows_eq_zero (noLeftover_of_run fresh run), ?_⟩
  intro env s reason answer db' done allowed t task found owned
  have committed : (Op.cancelSession s reason).run env db = .ok db' := by
    simp only [Op.run, done]
    rfl
  have after : Run Label.leavesNoCall start db' := run.step (Step.commit committed) allowed
  have ended : task.view.status.terminal = true := cancel_ends (fnCancelSession_move done) (flow_task found) owned
  exact outstandingRows_eq_zero (noLeftover_of_run fresh after) found ended

theorem terminal_task_leaves_no_call_cancelled :
    ∃ db, Run Label.leavesNoCall (helperDb (helperPolicy 5 none)) db ∧
      ∃ task, db.tasks.get? 0 = some task ∧ task.status = .cancelled ∧ db.outstandingRows 0 = 0 := by
  obtain ⟨db, run, cancelled⟩ := run_reaching (show ((runAll Label.leavesNoCall (helperDb (helperPolicy 5 none))
    [(.bare, .createSession 0 (some "sum up") none none), (.bare, .dispatchTasks),
      (.bare, .cancelSession 0 none)]).any fun db =>
      (db.tasks.get? 0).any fun task => task.status == .cancelled) = true by decide +kernel)
  rcases found : db.tasks.get? 0 with _ | task
  · rw [found] at cancelled
    cases cancelled
  · rw [found] at cancelled
    have status : task.status = .cancelled := by simpa using cancelled
    exact ⟨db, run, task, found, status,
      (terminal_task_leaves_no_call (helperDb_fresh _) run).1 0 task found (by rw [status]; rfl)⟩

/-- A session is cancelled while its task waits for a procedure. -/
theorem not_terminal_task_leaves_no_call :
    ¬ ∀ start db, Fresh start → Run Label.driven start db →
      ∀ t task, db.tasks.get? t = some task → task.status.terminal = true → db.outstandingRows t = 0 := by
  intro claim
  obtain ⟨db, run, left⟩ := run_reaching (show ((runAll Label.driven (reportDb (helperPolicy 5 none))
    [(.bare, .createSession 0 (some "sum up") none none), (.bare, .dispatchTasks), (.bare, .claimOutbound none none),
      (.bare, .completeOutbound 0 (some 200) (some runsReport)), (.bare, .cancelSession 0 none)]).any fun db =>
      (db.tasks.get? 0).any fun task => task.status.terminal && db.outstandingRows 0 == 1) = true by decide +kernel)
  rcases found : db.tasks.get? 0 with _ | task
  · rw [found] at left
    cases left
  · rw [found] at left
    simp only [Option.any_some, Bool.and_eq_true, beq_iff_eq] at left
    have none := claim _ db (reportDb_fresh _) run 0 task found left.1
    rw [left.2] at none
    cases none

end Allgres
