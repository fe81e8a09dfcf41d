import Allgres.Machine

/-! Approvals and the tasks that wait for them. The end of a turn closes a
waiting task without its approval. -/

namespace Allgres

open Relational Jsonb Sql Runs

variable {db db' start : Db}

/-- A sweep ends no turn of a task that waits for an approval which has not
expired, or that the same sweep has just made wait. -/
def Label.leavesNoApproval : Label → Db → Bool
  | .call env (.watchdog timeout), db =>
    !db.tasks.exists? fun t task => turnExpired env db task && db.leavesApproval env timeout t task
  | _, _ => true

theorem Facts.sparesWaiting {label : Label} {event : Flow.Event} {σ : Flow Left}
    (allowed : label.leavesNoApproval db = true) (facts : Facts label db event σ) : Flow.SparesWaiting event σ := by
  cases event with
  | plain | dispatch | report | swallow | cancel => trivial
  | timeout t =>
    obtain ⟨env, timeout, rfl, task, found, late, -, leaves⟩ := facts.timeout
    intro view now waits
    have exists? : (db.tasks.exists? fun t task =>
        turnExpired env db task && db.leavesApproval env timeout t task) = true :=
      Table.exists?_eq_true.mpr ⟨t, task, found, by rw [late, leaves view now waits]; rfl⟩
    simp only [Label.leavesNoApproval, exists?] at allowed
    cases allowed

theorem approvals_of_run (fresh : Fresh start) (run : Run Label.leavesNoApproval start db) :
    Flow.Approvals db.flow := by
  refine flow_invariant Flow.SparesWaiting (fun _ _ _ => Flow.Move.approvals) ?_ run ?_
  · intro label before event σ
    exact Facts.sparesWaiting
  · refine ⟨?_, ?_, ?_, ?_⟩
    · intro a view found
      cases (fresh.approval a).symm.trans found
    · intro a t found
      cases (fresh.approval a).symm.trans found
    · intro t view found
      cases (fresh.task t).symm.trans found
    · intro t a b found
      cases (fresh.approval a).symm.trans found

theorem flow_approval {a : Nat} {approval : ApprovalRow} (found : db.approvals.get? a = some approval) :
    db.flow.approval a = some ⟨approval.taskId, approval.status⟩ := by
  simp only [Db.flow, found, Option.map_some]
  rfl

theorem flow_approval_some {a : Nat} {view : ApprovalView} (found : db.flow.approval a = some view) :
    ∃ approval, db.approvals.get? a = some approval ∧ approval.taskId = view.task ∧ approval.status = view.status := by
  obtain ⟨approval, row, rfl⟩ := Option.map_eq_some_iff.mp found
  exact ⟨approval, row, rfl, rfl⟩

/-- An approval is pending exactly while its task waits for a human and has not
asked again since; a task that waits has exactly one pending approval. -/
theorem pending_iff_waiting (fresh : Fresh start) (run : Run Label.leavesNoApproval start db) :
    (∀ a approval, db.approvals.get? a = some approval → (approval.status = .pending ↔
      (∃ task, db.tasks.get? approval.taskId = some task ∧ task.status = .waitingHuman) ∧
        ∀ b other, db.approvals.get? b = some other → other.taskId = approval.taskId → b ≤ a)) ∧
    ∀ t task, db.tasks.get? t = some task → task.status = .waitingHuman →
      ∃! a, ∃ approval, db.approvals.get? a = some approval ∧ approval.taskId = t ∧ approval.status = .pending := by
  have agree := approvals_of_run fresh run
  constructor
  · intro a approval found
    constructor
    · intro pending
      have asked := flow_approval found
      rw [pending] at asked
      obtain ⟨view, there, waits⟩ := agree.waiting a _ asked
      obtain ⟨task, row, rfl⟩ := flow_task_some there
      refine ⟨⟨task, row, waits⟩, ?_⟩
      intro b other known owner
      obtain ⟨newest, pending', last⟩ := agree.asked _ _ there waits
      obtain rfl := agree.unique _ _ _ asked pending'
      exact last b _ (flow_approval known) owner
    · rintro ⟨⟨task, row, waits⟩, newest⟩
      obtain ⟨b, pending, last⟩ := agree.asked _ _ (flow_task row) waits
      obtain ⟨other, known, owner, status⟩ := flow_approval_some pending
      have below := newest b other known owner
      have above := last a _ (flow_approval found) rfl
      obtain rfl : a = b := by omega
      obtain rfl := Option.some.inj (found.symm.trans known)
      exact status
  · intro t task found waits
    obtain ⟨a, pending, -⟩ := agree.asked t task.view (flow_task found) waits
    obtain ⟨approval, known, owner, status⟩ := flow_approval_some pending
    refine ⟨a, ⟨approval, known, owner, status⟩, ?_⟩
    rintro b ⟨other, there, owner', status'⟩
    have also := flow_approval there
    rw [owner', status'] at also
    exact agree.unique t b a also pending

theorem pending_iff_waiting_asked :
    ∃ db, Run Label.leavesNoApproval (helperDb (helperPolicy 5 (some 10))) db ∧
      ∃ task, db.tasks.get? 0 = some task ∧ task.status = .waitingHuman ∧
        ∃! a, ∃ approval, db.approvals.get? a = some approval ∧ approval.taskId = 0 ∧ approval.status = .pending := by
  obtain ⟨db, run, asked⟩ := run_reaching (show ((runAll Label.leavesNoApproval (helperDb (helperPolicy 5 (some 10)))
    [(.bare, .createSession 0 (some "sum up") none none), (.bare, .dispatchTasks), (.bare, .claimOutbound none none),
      (.bare, .completeOutbound 0 (some 200) (some asksHuman)), (.bare, .watchdog none)]).any fun db =>
      (db.tasks.get? 0).any fun task => task.status == .waitingHuman) = true by decide +kernel)
  rcases found : db.tasks.get? 0 with _ | task
  · rw [found] at asked
    cases asked
  · rw [found] at asked
    have waits : task.status = .waitingHuman := by simpa using asked
    exact ⟨db, run, task, found, waits, (pending_iff_waiting (helperDb_fresh _) run).2 0 task found waits⟩

/-- A turn of ten seconds ends while its task waits for a human. -/
theorem not_pending_iff_waiting :
    ¬ ∀ start db, Fresh start → Run Label.driven start db →
      (∀ a approval task, db.approvals.get? a = some approval → db.tasks.get? approval.taskId = some task →
        (approval.status = .pending ↔ task.status = .waitingHuman)) ∧
      ∀ t task, db.tasks.get? t = some task → task.status = .waitingHuman →
        ∃! a, ∃ approval, db.approvals.get? a = some approval ∧ approval.taskId = t ∧ approval.status = .pending := by
  intro claim
  obtain ⟨db, run, left⟩ := run_reaching (show ((runAll Label.driven (helperDb (helperPolicy 5 (some 10)))
    [(.bare, .createSession 0 (some "sum up") none none), (.bare, .dispatchTasks), (.bare, .claimOutbound none none),
      (.bare, .completeOutbound 0 (some 200) (some asksHuman)),
      ({ Env.bare with now := seconds 60 }, .watchdog none)]).any fun db =>
      (db.approvals.get? 0).any fun approval => approval.status == .pending &&
        (db.tasks.get? approval.taskId).any fun task => task.status == .failed) = true by decide +kernel)
  rcases asked : db.approvals.get? 0 with _ | approval
  · rw [asked] at left
    cases left
  · rw [asked, Option.any_some, Bool.and_eq_true] at left
    rcases found : db.tasks.get? approval.taskId with _ | task
    · rw [found] at left
      cases left.2
    · rw [found, Option.any_some] at left
      have waits := ((claim _ db (helperDb_fresh _) run).1 0 approval task asked found).mp (beq_iff_eq.mp left.1)
      rw [beq_iff_eq.mp left.2] at waits
      cases waits

end Allgres
