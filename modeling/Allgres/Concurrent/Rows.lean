import Allgres.Concurrent

/-! The committed rows and the drafts of the shared tables, and what each
statement does to them. -/

namespace Allgres.Shared

open Relational

def task (σ : Shared) (t : Nat) : Option TaskRow :=
  (σ.tasks.get? t).bind Cell.committed

def draft (σ : Shared) (t : Nat) : Option (Tx × TaskRow) :=
  (σ.tasks.get? t).bind Cell.draft

def session (σ : Shared) (s : Nat) : Option SessionRow :=
  (σ.sessions.get? s).bind Cell.committed

def sessionDraft (σ : Shared) (s : Nat) : Option (Tx × SessionRow) :=
  (σ.sessions.get? s).bind Cell.draft

variable {σ σ' : Shared} {tx : Tx} {x t s : Nat} {row : TaskRow}

theorem turnOf_iff : row.turnOf s = true ↔
    row.sessionId = s ∧ row.parentTaskId = none ∧ row.status.terminal = false := by
  simp [TaskRow.turnOf, and_assoc]

/-- A task that is a turn after it was written to was one before. -/
theorem turnOf_of_kin {old new : TaskRow} (kin : Kin old new) (live : old.status.terminal = false)
    (turn : new.turnOf s = true) : old.turnOf s = true := by
  obtain ⟨session, root, -⟩ := turnOf_iff.mp turn
  exact turnOf_iff.mpr ⟨kin.session ▸ session, kin.parent ▸ root, live⟩

theorem task?_eq_some : σ.task? tx t = some row ↔
    σ.draft t = some (tx, row) ∨ (∀ mine, σ.draft t ≠ some (tx, mine)) ∧ σ.task t = some row := by
  unfold task? draft task
  cases σ.tasks.get? t with
  | none => simp
  | some cell => simp only [Option.bind_some, Cell.seen_eq_some]

theorem session?_eq_some {row : SessionRow} : σ.session? tx s = some row ↔
    σ.sessionDraft s = some (tx, row) ∨ (∀ mine, σ.sessionDraft s ≠ some (tx, mine)) ∧ σ.session s = some row := by
  unfold session? sessionDraft session
  cases σ.sessions.get? s with
  | none => simp
  | some cell => simp only [Option.bind_some, Cell.seen_eq_some]

@[simp] theorem setTurn_task (turn : Option Continuation) : (σ.setTurn x turn).task = σ.task := rfl

@[simp] theorem setTurn_draft (turn : Option Continuation) : (σ.setTurn x turn).draft = σ.draft := rfl

@[simp] theorem setTurn_session (turn : Option Continuation) : (σ.setTurn x turn).session = σ.session := rfl

@[simp] theorem setTurn_sessionDraft (turn : Option Continuation) :
    (σ.setTurn x turn).sessionDraft = σ.sessionDraft := rfl

@[simp] theorem rollback_task : (σ.rollback tx).task = σ.task := by
  funext t
  simp only [task, rollback, Table.get?_map]
  cases σ.tasks.get? t <;> rfl

@[simp] theorem rollback_session : (σ.rollback tx).session = σ.session := by
  funext s
  simp only [session, rollback, Table.get?_map]
  cases σ.sessions.get? s <;> rfl

theorem rollback_draft {owner : Tx} (drafted : (σ.rollback tx).draft t = some (owner, row)) :
    σ.draft t = some (owner, row) ∧ owner ≠ tx := by
  simp only [draft, rollback, Table.get?_map] at drafted ⊢
  cases found : σ.tasks.get? t with
  | none => simp [found] at drafted
  | some cell =>
    rw [found] at drafted
    exact Cell.rollback_draft drafted

theorem rollback_sessionDraft {owner : Tx} {row : SessionRow}
    (drafted : (σ.rollback tx).sessionDraft s = some (owner, row)) : σ.sessionDraft s = some (owner, row) := by
  simp only [sessionDraft, rollback, Table.get?_map] at drafted ⊢
  cases found : σ.sessions.get? s with
  | none => simp [found] at drafted
  | some cell =>
    rw [found] at drafted
    exact (Cell.rollback_draft drafted).1

theorem commit_task (now : (σ.commit tx).task t = some row) :
    σ.draft t = some (tx, row) ∨ σ.task t = some row := by
  simp only [task, draft, commit, Table.get?_map] at now ⊢
  cases found : σ.tasks.get? t with
  | none => simp [found] at now
  | some cell =>
    rw [found] at now
    exact Cell.commit_committed now

theorem commit_draft {owner : Tx} (drafted : (σ.commit tx).draft t = some (owner, row)) :
    σ.draft t = some (owner, row) ∧ owner ≠ tx ∧ (σ.commit tx).task t = σ.task t := by
  simp only [draft, task, commit, Table.get?_map] at drafted ⊢
  cases found : σ.tasks.get? t with
  | none => simp [found] at drafted
  | some cell =>
    rw [found] at drafted
    obtain ⟨before, other, same⟩ := Cell.commit_draft drafted
    refine ⟨before, other, ?_⟩
    simp only [Option.map_some, Option.bind_some, same]

theorem commit_session_isSome (known : (σ.session s).isSome ∨ (σ.session? tx s).isSome) :
    ((σ.commit tx).session s).isSome := by
  simp only [session, session?, commit, Table.get?_map] at known ⊢
  cases found : σ.sessions.get? s with
  | none => simp [found] at known
  | some cell =>
    simp only [found, Option.bind_some, Option.map_some] at known ⊢
    unfold Cell.commit
    split
    · rfl
    · rename_i own
      simpa only [Cell.seen, own, Option.none_or, or_self] using known

theorem commit_sessionDraft {owner : Tx} {row : SessionRow}
    (drafted : (σ.commit tx).sessionDraft s = some (owner, row)) :
    σ.sessionDraft s = some (owner, row) ∧ (σ.commit tx).session s = σ.session s := by
  simp only [sessionDraft, session, commit, Table.get?_map] at drafted ⊢
  cases found : σ.sessions.get? s with
  | none => simp [found] at drafted
  | some cell =>
    rw [found] at drafted
    obtain ⟨before, -, same⟩ := Cell.commit_draft drafted
    refine ⟨before, ?_⟩
    simp only [Option.map_some, Option.bind_some, same]

@[simp] theorem insertTask_task : (σ.insertTask tx row).task = σ.task := by
  funext t
  simp only [task, insertTask, Table.get?_insert]
  split
  · rename_i newest
    rw [newest, Table.get?_next]
    rfl
  · rfl

theorem insertTask_draft :
    (σ.insertTask tx row).draft t = if t = σ.tasks.next then some (tx, row) else σ.draft t := by
  simp only [draft, insertTask, Table.get?_insert]
  split <;> rfl

theorem draft_next : σ.draft σ.tasks.next = none := by
  simp only [draft, Table.get?_next, Option.bind_none]

@[simp] theorem writeSession_session (set : SessionRow → SessionRow) :
    (σ.writeSession tx s set).session = σ.session := by
  funext other
  simp only [session, writeSession, Table.get?_modify]
  split
  · cases σ.sessions.get? other with
    | none => rfl
    | some cell => exact Cell.write_committed
  · rfl

theorem writeSession_draft {set : SessionRow → SessionRow} {other : Nat} {owner : Tx} {row : SessionRow}
    (drafted : (σ.writeSession tx s set).sessionDraft other = some (owner, row)) :
    (∃ before, σ.sessionDraft other = some (owner, before)) ∨ (σ.session other).isSome := by
  simp only [sessionDraft, session, writeSession, Table.get?_modify] at drafted ⊢
  split at drafted
  · cases found : σ.sessions.get? other with
    | none => simp [found] at drafted
    | some cell =>
      simp only [found, Option.map_some, Option.bind_some] at drafted ⊢
      cases seen : cell.seen tx with
      | none =>
        simp only [Cell.write, seen] at drafted
        exact .inl ⟨row, drafted⟩
      | some mine =>
        rw [Cell.write_of_seen seen] at drafted
        obtain ⟨rfl, -⟩ := Prod.mk.inj (Option.some.inj drafted)
        rcases Cell.seen_eq_some.mp seen with own | ⟨-, committed⟩
        · exact .inl ⟨mine, own⟩
        · simp [committed]
  · exact .inl ⟨row, drafted⟩

theorem writeSession_worker {set : SessionRow → SessionRow} {other : Nat} {row : SessionRow}
    (drafted : σ.sessionDraft other = some (.worker, row))
    (free : ∀ cell, σ.sessions.get? s = some cell → cell.free tx = true) :
    ∃ after, (σ.writeSession tx s set).sessionDraft other = some (.worker, after) := by
  simp only [sessionDraft, writeSession, Table.get?_modify] at drafted ⊢
  split
  · rename_i same
    rw [same] at drafted ⊢
    cases found : σ.sessions.get? s with
    | none => simp [found] at drafted
    | some cell =>
      rw [found, Option.bind_some] at drafted
      have mine : tx = .worker := by
        by_contra different
        exact Cell.not_drafted_of_free (free cell found) (Ne.symm different) drafted
      rw [mine, Option.map_some, Option.bind_some, Cell.write_of_seen (Cell.seen_eq_some.mpr (.inl drafted))]
      exact ⟨_, rfl⟩
  · exact ⟨row, drafted⟩

theorem rollback_worker {row : SessionRow} (drafted : σ.sessionDraft s = some (.worker, row)) :
    (σ.rollback (.backend x)).sessionDraft s = some (.worker, row) := by
  simp only [sessionDraft, rollback, Table.get?_map] at drafted ⊢
  cases found : σ.sessions.get? s with
  | none => simp [found] at drafted
  | some cell =>
    rw [found, Option.bind_some] at drafted
    exact Cell.rollback_other drafted (by simp)

theorem commit_worker {row : SessionRow} (drafted : σ.sessionDraft s = some (.worker, row)) :
    (σ.commit (.backend x)).sessionDraft s = some (.worker, row) := by
  simp only [sessionDraft, commit, Table.get?_map] at drafted ⊢
  cases found : σ.sessions.get? s with
  | none => simp [found] at drafted
  | some cell =>
    rw [found, Option.bind_some] at drafted
    rw [Option.map_some, Cell.commit_other drafted (by simp)]
    exact drafted

end Allgres.Shared
