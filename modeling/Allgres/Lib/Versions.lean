import Allgres.Lib.Table

/-! Rows under concurrent transactions at the level READ COMMITTED. -/

namespace Relational

/-- What the last commit left of a row, and what the transaction that holds the
row's lock has made of it since. -/
structure Cell (Tx α : Type) where
  committed : Option α
  draft : Option (Tx × α)

namespace Cell

variable {Tx α : Type}

def stored (row : α) : Cell Tx α := ⟨some row, none⟩

/-- An inserted row: nobody else sees it before the commit. -/
def inserted (tx : Tx) (row : α) : Cell Tx α := ⟨none, some (tx, row)⟩

@[simp] theorem stored_draft (row : α) : (stored row : Cell Tx α).draft = none := rfl

@[simp] theorem stored_committed (row : α) : (stored row : Cell Tx α).committed = some row := rfl

@[simp] theorem inserted_draft (tx : Tx) (row : α) : (inserted tx row).draft = some (tx, row) := rfl

@[simp] theorem inserted_committed (tx : Tx) (row : α) : (inserted tx row).committed = none := rfl

variable [DecidableEq Tx] {tx other : Tx} {cell : Cell Tx α} {row : α}

def ownDraft (cell : Cell Tx α) (tx : Tx) : Option α :=
  (cell.draft.filter fun draft => draft.1 == tx).map Prod.snd

/-- What a statement of the transaction reads: its own writes over the last commit. -/
def seen (cell : Cell Tx α) (tx : Tx) : Option α :=
  (cell.ownDraft tx).or cell.committed

/-- No other transaction holds the row's lock. -/
def free (cell : Cell Tx α) (tx : Tx) : Bool :=
  cell.draft.all fun draft => draft.1 == tx

/-- `UPDATE` of a row whose lock the transaction has got. -/
def write (tx : Tx) (set : α → α) (cell : Cell Tx α) : Cell Tx α :=
  match cell.seen tx with
  | some row => { cell with draft := some (tx, set row) }
  | none => cell

def commit (tx : Tx) (cell : Cell Tx α) : Cell Tx α :=
  match cell.ownDraft tx with
  | some row => stored row
  | none => cell

def rollback (tx : Tx) (cell : Cell Tx α) : Cell Tx α :=
  { cell with draft := cell.draft.filter fun draft => draft.1 != tx }

theorem ownDraft_eq_some : cell.ownDraft tx = some row ↔ cell.draft = some (tx, row) := by
  simp only [ownDraft, Option.map_eq_some_iff, Option.filter_eq_some_iff, beq_iff_eq, Prod.exists]
  constructor
  · rintro ⟨owner, _, ⟨drafted, rfl⟩, rfl⟩
    exact drafted
  · intro drafted
    exact ⟨tx, row, ⟨drafted, rfl⟩, rfl⟩

theorem seen_eq_some : cell.seen tx = some row ↔
    cell.draft = some (tx, row) ∨ (∀ mine, cell.draft ≠ some (tx, mine)) ∧ cell.committed = some row := by
  unfold seen
  rcases own : cell.ownDraft tx with _ | mine
  · have notMine : ∀ mine, cell.draft ≠ some (tx, mine) := by
      intro mine drafted
      rw [← ownDraft_eq_some, own] at drafted
      cases drafted
    simp [notMine]
  · have drafted := ownDraft_eq_some.mp own
    simp [drafted]

theorem not_drafted_of_free (free : cell.free tx = true) (different : other ≠ tx) :
    cell.draft ≠ some (other, row) := by
  intro drafted
  simp only [Cell.free, drafted, Option.all_some, beq_iff_eq] at free
  exact different free

@[simp] theorem stored_seen : (stored row : Cell Tx α).seen tx = some row := rfl

@[simp] theorem inserted_seen : (inserted tx row).seen tx = some row := by
  simp [seen, ownDraft, inserted]

@[simp] theorem write_committed {set : α → α} : (write tx set cell).committed = cell.committed := by
  unfold write
  split <;> rfl

theorem write_of_seen {set : α → α} (found : cell.seen tx = some row) :
    write tx set cell = { cell with draft := some (tx, set row) } := by
  simp only [write, found]

theorem commit_committed (now : (commit tx cell).committed = some row) :
    cell.draft = some (tx, row) ∨ cell.committed = some row := by
  unfold commit at now
  split at now
  · rename_i mine own
    obtain rfl := Option.some.inj now
    exact .inl (ownDraft_eq_some.mp own)
  · exact .inr now

/-- A commit leaves only the drafts of the others. -/
theorem commit_draft (drafted : (commit tx cell).draft = some (other, row)) :
    cell.draft = some (other, row) ∧ other ≠ tx ∧ commit tx cell = cell := by
  unfold commit at drafted ⊢
  split at drafted
  · cases drafted
  · rename_i own
    refine ⟨drafted, ?_, rfl⟩
    rintro rfl
    rw [ownDraft_eq_some.mpr drafted] at own
    cases own

theorem commit_other (drafted : cell.draft = some (other, row)) (different : other ≠ tx) : commit tx cell = cell := by
  have none : cell.ownDraft tx = none := by simp [ownDraft, drafted, different]
  simp only [commit, none]

theorem rollback_other (drafted : cell.draft = some (other, row)) (different : other ≠ tx) :
    (rollback tx cell).draft = some (other, row) := by
  simp [rollback, drafted, different]

/-- A commit leaves a row as it was seen, and takes its lock away. -/
theorem commit_eq_stored : commit tx cell = stored row ↔ cell.free tx = true ∧ cell.seen tx = some row := by
  rcases cell with ⟨committed, _ | ⟨owner, mine⟩⟩
  · simp [commit, ownDraft, stored, free, seen]
  · by_cases same : owner = tx
    · subst same
      have own : ownDraft ⟨committed, some (owner, mine)⟩ owner = some mine := ownDraft_eq_some.mpr rfl
      simp [commit, own, stored, free, seen]
    · simp [@commit_other _ _ _ tx owner ⟨committed, some (owner, mine)⟩ mine rfl same, stored, free, same]

theorem rollback_draft (drafted : (rollback tx cell).draft = some (other, row)) :
    cell.draft = some (other, row) ∧ other ≠ tx := by
  simpa [rollback, Option.filter_eq_some_iff] using drafted

@[simp] theorem rollback_committed : (rollback tx cell).committed = cell.committed := rfl

end Cell

/-! Tables of which a commit leaves the given one. -/

variable {Tx α : Type} [DecidableEq Tx] {tx : Tx} {cells : Table (Cell Tx α)} {table : Table α} {key : Nat}

theorem row_of_commits (commits : cells.map (Cell.commit tx) = table.map .stored) {cell : Cell Tx α}
    (found : cells.get? key = some cell) :
    ∃ row, table.get? key = some row ∧ cell.free tx = true ∧ cell.seen tx = some row := by
  have same := congrArg (Table.get? · key) commits
  simp only [Table.get?_map, found, Option.map_some] at same
  obtain ⟨row, here, stored⟩ := Option.map_eq_some_iff.mp same.symm
  obtain ⟨free, seen⟩ := Cell.commit_eq_stored.mp stored.symm
  exact ⟨row, here, free, seen⟩

theorem cell_of_commits (commits : cells.map (Cell.commit tx) = table.map .stored) {row : α}
    (found : table.get? key = some row) :
    ∃ cell, cells.get? key = some cell ∧ cell.free tx = true ∧ cell.seen tx = some row := by
  have same := congrArg (Table.get? · key) commits
  simp only [Table.get?_map, found, Option.map_some] at same
  obtain ⟨cell, here, stored⟩ := Option.map_eq_some_iff.mp same
  exact ⟨cell, here, Cell.commit_eq_stored.mp stored⟩

theorem seen_of_commits (commits : cells.map (Cell.commit tx) = table.map .stored) :
    ((cells.get? key).bind fun cell => cell.seen tx) = table.get? key := by
  cases found : cells.get? key with
  | none =>
    cases here : table.get? key with
    | none => rfl
    | some row =>
      obtain ⟨cell, there, -⟩ := cell_of_commits commits here
      rw [found] at there
      cases there
  | some cell =>
    obtain ⟨row, here, -, seen⟩ := row_of_commits commits found
    rw [Option.bind_some, seen, here]

theorem next_of_commits (commits : cells.map (Cell.commit tx) = table.map .stored) : cells.next = table.next :=
  congrArg Table.next commits

theorem commits_insert (commits : cells.map (Cell.commit tx) = table.map .stored) (row : α) :
    (cells.insert (.inserted tx row)).map (Cell.commit tx) = (table.insert row).map .stored := by
  have own : Cell.commit tx (.inserted tx row) = .stored row :=
    Cell.commit_eq_stored.mpr ⟨by simp [Cell.free], Cell.inserted_seen⟩
  rw [Table.map_insert, Table.map_insert, commits, own]

/-- An update by the transaction is the update of the table that its commit leaves. -/
theorem commits_write (commits : cells.map (Cell.commit tx) = table.map .stored) (set : α → α) :
    (cells.modify key (Cell.write tx set)).map (Cell.commit tx) = (table.modify key set).map .stored := by
  let rewrite (cell : Cell Tx α) : Cell Tx α := ⟨cell.committed.map set, cell.draft⟩
  have written (cell : Cell Tx α) (found : cells.get? key = some cell) :
      Cell.commit tx (Cell.write tx set cell) = rewrite (Cell.commit tx cell) := by
    obtain ⟨row, -, free, seen⟩ := row_of_commits commits found
    rw [Cell.commit_eq_stored.mpr ⟨free, seen⟩, Cell.write_of_seen seen]
    refine Cell.commit_eq_stored.mpr ⟨?_, Cell.seen_eq_some.mpr (.inl rfl)⟩
    simp [Cell.free]
  have kept (row : α) (_ : table.get? key = some row) : Cell.stored (set row) = rewrite (.stored row) := rfl
  rw [Table.map_modify written, Table.map_modify kept, commits]

end Relational
