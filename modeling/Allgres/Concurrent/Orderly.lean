import Allgres.Concurrent.Rows

/-! The invariant behind one turn at a time: where the calls stand, and what
the open transactions have written. -/

namespace Allgres.Shared

open Relational

variable {σ σ' : Shared} {tx : Tx} {x t s : Nat} {row : TaskRow}

/-- A session that the worker may add tasks to. -/
def Known (σ : Shared) (s : Nat) : Prop :=
  (σ.session s).isSome ∨ ∃ row, σ.sessionDraft s = some (.worker, row)

/-- At most one committed root task of the session is not over. -/
def OneTurn (σ : Shared) (s : Nat) : Prop :=
  ∀ t row t' row', σ.task t = some row → row.turnOf s = true → σ.task t' = some row' → row'.turnOf s = true → t = t'

/-- A backend has written this task just before. -/
def Inserts (σ : Shared) (x t : Nat) (row : TaskRow) : Prop :=
  ∃ turn, σ.turn x = some turn ∧ turn.sessionId = row.sessionId ∧
    (turn.point = .insertLog t ∨ turn.point = .commit t)

/-- The root tasks that the worker has not committed belong to sessions of their own. -/
def Opens (σ : Shared) (t : Nat) (row : TaskRow) : Prop :=
  σ.Known row.sessionId ∧ (row.parentTaskId = none → σ.session row.sessionId = none ∧
    ∀ t' row', σ.task t' = none → σ.draft t' = some (.worker, row') → row'.sessionId = row.sessionId →
      row'.parentTaskId = none → t' = t)

structure Orderly (σ : Shared) : Prop where
  single : ∀ s, σ.OneTurn s
  known : ∀ t row, σ.task t = some row → (σ.session row.sessionId).isSome
  serves : ∀ x turn, σ.turn x = some turn → turn.point = .findSession ∨ (σ.session turn.sessionId).isSome
  alone : ∀ x turn y other, σ.turn x = some turn → turn.point.checked = true → σ.turn y = some other →
    other.point.checked = true → other.sessionId = turn.sessionId → y = x
  clear : ∀ x turn t row, σ.turn x = some turn → turn.point.checked = true → σ.task t = some row →
    row.turnOf turn.sessionId = false
  rewrites : ∀ t old owner new, σ.task t = some old → σ.draft t = some (owner, new) →
    owner = .worker ∧ Kin old new ∧ old.status.terminal = false
  inserts : ∀ t x row, σ.task t = none → σ.draft t = some (.backend x, row) → σ.Inserts x t row
  opens : ∀ t row, σ.task t = none → σ.draft t = some (.worker, row) → σ.Opens t row
  drafts : ∀ s owner row, σ.session s = none → σ.sessionDraft s = some (owner, row) → owner = .worker

/-- Only these parts of the state matter. -/
theorem Orderly.congr (held : Orderly σ) (task : σ'.task = σ.task) (draft : σ'.draft = σ.draft)
    (session : σ'.session = σ.session) (sessionDraft : σ'.sessionDraft = σ.sessionDraft) (turn : σ'.turn = σ.turn) :
    Orderly σ' where
  single s := by
    unfold OneTurn
    rw [task]
    exact held.single s
  known := by
    rw [task, session]
    exact held.known
  serves := by
    rw [turn, session]
    exact held.serves
  alone := by
    rw [turn]
    exact held.alone
  clear := by
    rw [turn, task]
    exact held.clear
  rewrites := by
    rw [task, draft]
    exact held.rewrites
  inserts := by
    unfold Inserts
    rw [task, draft, turn]
    exact held.inserts
  opens := by
    unfold Opens Known
    rw [task, draft, session, sessionDraft]
    exact held.opens
  drafts := by
    rw [session, sessionDraft]
    exact held.drafts

/-- A call moves on. It may pass its check when no other call has and no turn is in progress. -/
theorem Orderly.goto (held : Orderly σ) {turn : Continuation} {point : Point} (here : σ.turn x = some turn)
    (serves : (σ.session turn.sessionId).isSome)
    (passes : point.checked = true → turn.point.checked = true ∨
      (∀ y other, y ≠ x → σ.turn y = some other → other.sessionId = turn.sessionId → other.point.checked = false) ∧
        ∀ t row, σ.task t = some row → row.turnOf turn.sessionId = false)
    (keeps : ∀ t, turn.point = .insertLog t ∨ turn.point = .commit t → point = .insertLog t ∨ point = .commit t) :
    Orderly (σ.goto x turn point) := by
  have others {y : Nat} {other : Continuation} (open_ : (σ.goto x turn point).turn y = some other) :
      y = x ∧ other = { turn with point := point } ∨ y ≠ x ∧ σ.turn y = some other := by
    by_cases same : y = x
    · subst same
      simp only [Shared.goto, setTurn, Function.update_self] at open_
      exact .inl ⟨rfl, (Option.some.inj open_).symm⟩
    · simp only [Shared.goto, setTurn, Function.update_of_ne same] at open_
      exact .inr ⟨same, open_⟩
  have apart (checked : point.checked = true) {y : Nat} {other : Continuation} (different : y ≠ x)
      (open_ : σ.turn y = some other) (past : other.point.checked = true) : other.sessionId ≠ turn.sessionId := by
    intro same
    rcases passes checked with before | ⟨alone, -⟩
    · exact different (held.alone x turn y other here before open_ past same)
    · rw [alone y other different open_ same] at past
      cases past
  constructor
  case single => exact held.single
  case known => exact held.known
  case rewrites => exact held.rewrites
  case opens => exact held.opens
  case drafts => exact held.drafts
  case serves =>
    intro y other open_
    rcases others open_ with ⟨-, rfl⟩ | ⟨-, before⟩
    · exact .inr serves
    · exact held.serves y other before
  case alone =>
    intro y first z second openFirst checkedFirst openSecond checkedSecond same
    rcases others openFirst with ⟨rfl, rfl⟩ | ⟨differentFirst, beforeFirst⟩ <;>
      rcases others openSecond with ⟨rfl, rfl⟩ | ⟨differentSecond, beforeSecond⟩
    · rfl
    · exact absurd same (apart checkedFirst differentSecond beforeSecond checkedSecond)
    · exact absurd same.symm (apart checkedSecond differentFirst beforeFirst checkedFirst)
    · exact held.alone y first z second beforeFirst checkedFirst beforeSecond checkedSecond same
  case clear =>
    intro y other t row open_ checked found
    rcases others open_ with ⟨-, rfl⟩ | ⟨-, before⟩
    · rcases passes checked with before | ⟨-, clear⟩
      · exact held.clear x turn t row here before found
      · exact clear t row found
    · exact held.clear y other t row before checked found
  case inserts =>
    intro t y row new drafted
    obtain ⟨other, before, same, place⟩ := held.inserts t y row new drafted
    by_cases mine : y = x
    · subst mine
      obtain rfl := Option.some.inj (here.symm.trans before)
      refine ⟨{ turn with point := point }, ?_, same, keeps t place⟩
      simp only [Shared.goto, setTurn, Function.update_self]
    · refine ⟨other, ?_, same, place⟩
      simp only [Shared.goto, setTurn, Function.update_of_ne mine]
      exact before

/-- A call that has not written a task ends, or one begins. -/
theorem Orderly.setTurn (held : Orderly σ) {turn : Option Continuation}
    (unwritten : ∀ t row, σ.task t = none → σ.draft t ≠ some (.backend x, row))
    (begins : ∀ new, turn = some new → new.point = .findSession) : Orderly (σ.setTurn x turn) := by
  have others {y : Nat} {other : Continuation} (open_ : (σ.setTurn x turn).turn y = some other) :
      y = x ∧ other.point = .findSession ∨ y ≠ x ∧ σ.turn y = some other := by
    by_cases same : y = x
    · subst same
      simp only [Shared.setTurn, Function.update_self] at open_
      exact .inl ⟨rfl, begins other open_⟩
    · simp only [Shared.setTurn, Function.update_of_ne same] at open_
      exact .inr ⟨same, open_⟩
  have checked {y : Nat} {other : Continuation} (open_ : (σ.setTurn x turn).turn y = some other)
      (past : other.point.checked = true) : σ.turn y = some other := by
    rcases others open_ with ⟨-, first⟩ | ⟨-, before⟩
    · rw [first] at past
      cases past
    · exact before
  constructor
  case single => exact held.single
  case known => exact held.known
  case rewrites => exact held.rewrites
  case opens => exact held.opens
  case drafts => exact held.drafts
  case serves =>
    intro y other open_
    rcases others open_ with ⟨-, first⟩ | ⟨-, before⟩
    · exact .inl first
    · exact held.serves y other before
  case alone =>
    intro y first z second openFirst checkedFirst openSecond checkedSecond
    exact held.alone y first z second (checked openFirst checkedFirst) checkedFirst (checked openSecond checkedSecond)
      checkedSecond
  case clear =>
    intro y other t row open_ past
    exact held.clear y other t row (checked open_ past) past
  case inserts =>
    intro t y row new drafted
    obtain ⟨other, before, same, place⟩ := held.inserts t y row new drafted
    have different : y ≠ x := by
      rintro rfl
      exact unwritten t row new drafted
    refine ⟨other, ?_, same, place⟩
    simp only [Shared.setTurn, Function.update_of_ne different]
    exact before

theorem Known.rollback (known : σ.Known s) : (σ.rollback (.backend x)).Known s := by
  rcases known with committed | ⟨row, drafted⟩
  · exact .inl (by simpa using committed)
  · exact .inr ⟨row, rollback_worker drafted⟩

/-- Any transaction may roll back; a call of `fn_continue_session` ends with it. -/
theorem Orderly.rollback (held : Orderly σ) : Orderly (σ.rollback tx) := by
  constructor
  case single =>
    intro s
    unfold OneTurn
    rw [rollback_task]
    exact held.single s
  case known =>
    rw [rollback_task, rollback_session]
    exact held.known
  case serves =>
    rw [rollback_session]
    exact held.serves
  case alone => exact held.alone
  case clear =>
    rw [rollback_task]
    exact held.clear
  case rewrites =>
    intro t old owner new found drafted
    rw [rollback_task] at found
    exact held.rewrites t old owner new found (rollback_draft drafted).1
  case inserts =>
    intro t x row new drafted
    rw [rollback_task] at new
    exact held.inserts t x row new (rollback_draft drafted).1
  case opens =>
    intro t row new drafted
    rw [rollback_task] at new
    obtain ⟨before, different⟩ := rollback_draft drafted
    obtain ⟨known, own⟩ := held.opens t row new before
    cases tx with
    | worker => exact absurd rfl different
    | backend x =>
      refine ⟨known.rollback, fun root => ?_⟩
      obtain ⟨fresh, unique⟩ := own root
      refine ⟨by rw [rollback_session]; exact fresh, ?_⟩
      intro t' row' new' drafted'
      rw [rollback_task] at new'
      exact unique t' row' new' (rollback_draft drafted').1
  case drafts =>
    intro s owner row new drafted
    rw [rollback_session] at new
    exact held.drafts s owner row new (rollback_sessionDraft drafted)

theorem Orderly.raise (held : Orderly σ) : Orderly (σ.raise x) := by
  refine held.rollback.setTurn ?_ fun new none => by cases none
  intro t row new drafted
  exact (rollback_draft drafted).2 rfl

/-! ### The statements -/

theorem Orderly.insertTask (held : Orderly σ) (inserts : ∀ x, tx = .backend x → σ.Inserts x σ.tasks.next row)
    (opens : tx = .worker → σ.Known row.sessionId ∧ (row.parentTaskId = none → σ.session row.sessionId = none ∧
      ∀ t row', σ.task t = none → σ.draft t = some (.worker, row') → row'.sessionId = row.sessionId →
        row'.parentTaskId ≠ none)) : Orderly (σ.insertTask tx row) := by
  constructor
  case single =>
    intro s
    unfold OneTurn
    rw [insertTask_task]
    exact held.single s
  case known =>
    rw [insertTask_task]
    exact held.known
  case serves => exact held.serves
  case alone => exact held.alone
  case clear =>
    rw [insertTask_task]
    exact held.clear
  case drafts => exact held.drafts
  case rewrites =>
    intro t old owner new found drafted
    rw [insertTask_task] at found
    rw [insertTask_draft] at drafted
    split at drafted
    · rename_i newest
      rw [newest, task, Table.get?_next] at found
      cases found
    · exact held.rewrites t old owner new found drafted
  case inserts =>
    intro t x new fresh drafted
    rw [insertTask_task] at fresh
    rw [insertTask_draft] at drafted
    split at drafted
    · rename_i newest
      obtain ⟨rfl, rfl⟩ := Prod.mk.inj (Option.some.inj drafted)
      rw [newest]
      exact inserts x rfl
    · exact held.inserts t x new fresh drafted
  case opens =>
    intro t new fresh drafted
    rw [insertTask_task] at fresh
    rw [insertTask_draft] at drafted
    split at drafted
    · rename_i newest
      obtain ⟨rfl, rfl⟩ := Prod.mk.inj (Option.some.inj drafted)
      obtain ⟨known, own⟩ := opens rfl
      refine ⟨known, fun root => ⟨(own root).1, ?_⟩⟩
      intro t' row' new' drafted' same root'
      rw [insertTask_task] at new'
      rw [insertTask_draft] at drafted'
      split at drafted'
      · rename_i newest'
        rw [newest, newest']
      · exact absurd root' ((own root).2 t' row' new' drafted' same)
    · obtain ⟨known, own⟩ := held.opens t new fresh drafted
      refine ⟨known, fun root => ⟨(own root).1, ?_⟩⟩
      intro t' row' new' drafted' same root'
      rw [insertTask_task] at new'
      rw [insertTask_draft] at drafted'
      split at drafted'
      · obtain ⟨rfl, rfl⟩ := Prod.mk.inj (Option.some.inj drafted')
        exact absurd root ((opens rfl).2 root' |>.2 t new fresh drafted same.symm)
      · exact (own root).2 t' row' new' drafted' same root'

theorem Orderly.writeSession (held : Orderly σ) (set : SessionRow → SessionRow)
    (free : ∀ cell, σ.sessions.get? s = some cell → cell.free tx = true) : Orderly (σ.writeSession tx s set) := by
  constructor
  case single => exact held.single
  case known =>
    rw [writeSession_session]
    exact held.known
  case serves =>
    rw [writeSession_session]
    exact held.serves
  case alone => exact held.alone
  case clear => exact held.clear
  case rewrites => exact held.rewrites
  case inserts => exact held.inserts
  case opens =>
    intro t row new drafted
    obtain ⟨known, own⟩ := held.opens t row new drafted
    refine ⟨?_, fun root => ?_⟩
    · rcases known with committed | ⟨before, drafted⟩
      · exact .inl (by rw [writeSession_session]; exact committed)
      · exact .inr (writeSession_worker drafted free)
    · rw [writeSession_session]
      exact own root
  case drafts =>
    intro other owner row new drafted
    rw [writeSession_session] at new
    rcases writeSession_draft drafted with ⟨before, drafted⟩ | committed
    · exact held.drafts other owner before new drafted
    · simp [new] at committed

theorem Orderly.openSession (held : Orderly σ) (row : SessionRow) :
    Orderly { σ with sessions := σ.sessions.insert (.inserted .worker row) } := by
  have session (s : Nat) : Shared.session { σ with sessions := σ.sessions.insert (.inserted .worker row) } s =
      σ.session s := by
    simp only [Shared.session, Table.get?_insert]
    split
    · rename_i newest
      rw [newest, Table.get?_next]
      rfl
    · rfl
  have draft (s : Nat) : Shared.sessionDraft { σ with sessions := σ.sessions.insert (.inserted .worker row) } s =
      if s = σ.sessions.next then some (.worker, row) else σ.sessionDraft s := by
    simp only [Shared.sessionDraft, Table.get?_insert]
    split <;> rfl
  constructor
  case single => exact held.single
  case known =>
    intro t task found
    rw [session]
    exact held.known t task found
  case serves =>
    intro x turn open_
    rw [session]
    exact held.serves x turn open_
  case alone => exact held.alone
  case clear => exact held.clear
  case rewrites => exact held.rewrites
  case inserts => exact held.inserts
  case opens =>
    intro t task new drafted
    obtain ⟨known, own⟩ := held.opens t task new drafted
    refine ⟨?_, fun root => ?_⟩
    · rcases known with committed | ⟨before, drafted⟩
      · exact .inl (by rw [session]; exact committed)
      · refine .inr ?_
        rw [draft]
        split
        · exact ⟨row, rfl⟩
        · exact ⟨before, drafted⟩
    · rw [session]
      exact own root
  case drafts =>
    intro s owner new fresh drafted
    rw [session] at fresh
    rw [draft] at drafted
    split at drafted
    · exact (Prod.mk.inj (Option.some.inj drafted)).1.symm
    · exact held.drafts s owner new fresh drafted

theorem Orderly.updateTask (held : Orderly σ) {cell : Cell Tx TaskRow} {old : TaskRow}
    (found : σ.tasks.get? t = some cell) (seen : cell.seen .worker = some old) (live : old.status.terminal = false)
    (kin : Kin old row) : Orderly { σ with tasks := σ.tasks.modify t (Cell.write .worker fun _ => row) } := by
  have written : Cell.write .worker (fun _ => row) cell = _ := Cell.write_of_seen seen
  have task : Shared.task { σ with tasks := σ.tasks.modify t (Cell.write .worker fun _ => row) } = σ.task := by
    funext u
    simp only [Shared.task, Table.get?_modify]
    split
    · rename_i same
      rw [same, found, Option.map_some, written]
      rfl
    · rfl
  have draft (u : Nat) : Shared.draft { σ with tasks := σ.tasks.modify t (Cell.write .worker fun _ => row) } u =
      if u = t then some (.worker, row) else σ.draft u := by
    simp only [Shared.draft, Table.get?_modify]
    split
    · rename_i same
      rw [same, found, Option.map_some, written]
      rfl
    · rfl
  have mine : σ.draft t = some (.worker, old) ∨ σ.task t = some old := by
    simp only [Shared.draft, Shared.task, found, Option.bind_some]
    exact (Cell.seen_eq_some.mp seen).imp_right And.right
  have base (fresh : σ.task t = none) : σ.draft t = some (.worker, old) := by
    rcases mine with drafted | committed
    · exact drafted
    · rw [fresh] at committed
      cases committed
  constructor
  case single =>
    intro s
    unfold OneTurn
    rw [task]
    exact held.single s
  case known =>
    rw [task]
    exact held.known
  case serves => exact held.serves
  case alone => exact held.alone
  case clear =>
    rw [task]
    exact held.clear
  case drafts => exact held.drafts
  case rewrites =>
    intro u first owner new here drafted
    rw [task] at here
    rw [draft] at drafted
    split at drafted
    · rename_i same
      obtain ⟨rfl, rfl⟩ := Prod.mk.inj (Option.some.inj drafted)
      rw [same] at here
      rcases mine with drafted | committed
      · obtain ⟨-, before, unfinished⟩ := held.rewrites t first _ old here drafted
        exact ⟨rfl, before.trans kin, unfinished⟩
      · obtain rfl := Option.some.inj (here.symm.trans committed)
        exact ⟨rfl, kin, live⟩
    · exact held.rewrites u first owner new here drafted
  case inserts =>
    intro u x new fresh drafted
    rw [task] at fresh
    rw [draft] at drafted
    split at drafted
    · cases (Prod.mk.inj (Option.some.inj drafted)).1
    · exact held.inserts u x new fresh drafted
  case opens =>
    intro u new fresh drafted
    rw [task] at fresh
    have source {u : Nat} {new : TaskRow} (fresh : σ.task u = none)
        (drafted : Shared.draft { σ with tasks := σ.tasks.modify t (Cell.write .worker fun _ => row) } u =
          some (.worker, new)) :
        ∃ before, σ.draft u = some (.worker, before) ∧ Kin before new := by
      rw [draft] at drafted
      split at drafted
      · rename_i same
        obtain ⟨-, rfl⟩ := Prod.mk.inj (Option.some.inj drafted)
        rw [same] at fresh ⊢
        exact ⟨old, base fresh, kin⟩
      · exact ⟨new, drafted, .refl new⟩
    obtain ⟨before, drafted, same⟩ := source fresh drafted
    obtain ⟨known, own⟩ := held.opens u before fresh drafted
    unfold Opens
    rw [same.session, same.parent]
    refine ⟨known, fun root => ⟨(own root).1, ?_⟩⟩
    intro u' row' fresh' drafted' session' root'
    rw [task] at fresh'
    obtain ⟨before', drafted', same'⟩ := source fresh' drafted'
    rw [same'.session] at session'
    rw [same'.parent] at root'
    exact (own root).2 u' before' fresh' drafted' session' root'

/-- The task that a call has inserted is the only one it leaves. -/
theorem Orderly.inserted (held : Orderly σ) {turn : Continuation} {last : Nat} (here : σ.turn x = some turn)
    (ends : turn.point = .commit last) (drafted : σ.draft t = some (.backend x, row)) :
    t = last ∧ row.sessionId = turn.sessionId := by
  have fresh : σ.task t = none := by
    rcases found : σ.task t with _ | old
    · rfl
    · cases (held.rewrites t old _ row found drafted).1
  obtain ⟨other, before, session, place⟩ := held.inserts t x row fresh drafted
  obtain rfl := Option.some.inj (here.symm.trans before)
  refine ⟨?_, session.symm⟩
  rcases place with logs | commits
  · rw [ends] at logs
    cases logs
  · rw [ends] at commits
    exact (Point.commit.inj commits).symm

theorem Orderly.commitTurn (held : Orderly σ) {turn : Continuation} {last : Nat} (here : σ.turn x = some turn)
    (ends : turn.point = .commit last) : Orderly ((σ.commit (.backend x)).setTurn x none) := by
  have past : turn.point.checked = true := by rw [ends]; rfl
  have others {y : Nat} {other : Continuation}
      (open_ : ((σ.commit (.backend x)).setTurn x none).turn y = some other) : y ≠ x ∧ σ.turn y = some other := by
    by_cases same : y = x
    · subst same
      simp only [Shared.setTurn, Function.update_self] at open_
      cases open_
    · simp only [Shared.setTurn, Function.update_of_ne same] at open_
      exact ⟨same, open_⟩
  have known {s : Nat} (before : (σ.session s).isSome) :
      (((σ.commit (.backend x)).setTurn x none).session s).isSome := commit_session_isSome (.inl before)
  have serves : (σ.session turn.sessionId).isSome := by
    rcases held.serves x turn here with first | committed
    · rw [ends] at first
      cases first
    · exact committed
  have idle {t : Nat} {row : TaskRow} (found : σ.task t = some row) : row.turnOf turn.sessionId = false :=
    held.clear x turn t row here past found
  constructor
  case single =>
    intro s t row t' row' found live found' live'
    rcases commit_task found with drafted | before <;> rcases commit_task found' with drafted' | before'
    · rw [(held.inserted here ends drafted).1, (held.inserted here ends drafted').1]
    · have session := (held.inserted here ends drafted).2
      rw [(turnOf_iff.mp live).1] at session
      rw [session, idle before'] at live'
      cases live'
    · have session := (held.inserted here ends drafted').2
      rw [(turnOf_iff.mp live').1] at session
      rw [session, idle before] at live
      cases live
    · exact held.single s t row t' row' before live before' live'
  case known =>
    intro t row found
    rcases commit_task found with drafted | before
    · rw [(held.inserted here ends drafted).2]
      exact known serves
    · exact known (held.known t row before)
  case serves =>
    intro y other open_
    exact (held.serves y other (others open_).2).imp_right known
  case alone =>
    intro y first z second openFirst checkedFirst openSecond
    exact held.alone y first z second (others openFirst).2 checkedFirst (others openSecond).2
  case clear =>
    intro y other t row open_ checked found
    obtain ⟨different, before⟩ := others open_
    rcases commit_task found with drafted | old
    · rw [← Bool.not_eq_true]
      intro live
      have session := (held.inserted here ends drafted).2
      rw [(turnOf_iff.mp live).1] at session
      exact different (held.alone x turn y other here past before checked session)
    · exact held.clear y other t row before checked old
  case rewrites =>
    intro t old owner new found drafted
    obtain ⟨before, -, same⟩ := commit_draft drafted
    exact held.rewrites t old owner new (same.symm.trans found) before
  case inserts =>
    intro t y row fresh drafted
    obtain ⟨before, different, same⟩ := commit_draft drafted
    obtain ⟨other, open_, session, place⟩ := held.inserts t y row (same.symm.trans fresh) before
    refine ⟨other, ?_, session, place⟩
    have apart : y ≠ x := by
      rintro rfl
      exact different rfl
    simp only [Shared.setTurn, Function.update_of_ne apart]
    exact open_
  case opens =>
    intro t row fresh drafted
    obtain ⟨before, -, same⟩ := commit_draft drafted
    obtain ⟨known', own⟩ := held.opens t row (same.symm.trans fresh) before
    refine ⟨?_, fun root => ?_⟩
    · rcases known' with committed | ⟨session, drafted⟩
      · exact .inl (known committed)
      · exact .inr ⟨session, commit_worker drafted⟩
    · obtain ⟨unknown, unique⟩ := own root
      refine ⟨?_, ?_⟩
      · rcases known' with committed | ⟨session, drafted⟩
        · simp [unknown] at committed
        · exact ((commit_sessionDraft (commit_worker drafted)).2).trans unknown
      · intro t' row' fresh' drafted'
        obtain ⟨before', -, same'⟩ := commit_draft drafted'
        exact unique t' row' (same'.symm.trans fresh') before'
  case drafts =>
    intro s owner row unknown drafted
    obtain ⟨before, same⟩ := commit_sessionDraft drafted
    exact held.drafts s owner row (same.symm.trans unknown) before

theorem Known.committed (known : σ.Known s) : ((σ.commit .worker).session s).isSome := by
  refine commit_session_isSome (known.imp_right ?_)
  rintro ⟨row, drafted⟩
  rw [session?_eq_some.mpr (.inl drafted)]
  rfl

/-- The turns that a transaction of the worker leaves were turns before, or are those of
the sessions it opens. -/
theorem Orderly.worked (held : Orderly σ) (found : (σ.commit .worker).task t = some row)
    (live : row.turnOf s = true) :
    (∃ old, σ.task t = some old ∧ old.turnOf s = true) ∨
      σ.session s = none ∧ σ.task t = none ∧ σ.draft t = some (.worker, row) := by
  obtain ⟨session, root, -⟩ := turnOf_iff.mp live
  rcases commit_task found with drafted | before
  · rcases earlier : σ.task t with _ | old
    · obtain ⟨-, own⟩ := held.opens t row earlier drafted
      rw [session] at own
      exact .inr ⟨(own root).1, rfl, drafted⟩
    · obtain ⟨-, kin, unfinished⟩ := held.rewrites t old _ row earlier drafted
      exact .inl ⟨old, rfl, turnOf_of_kin kin unfinished live⟩
  · exact .inl ⟨row, before, live⟩

theorem Orderly.commitWorker (held : Orderly σ) : Orderly (σ.commit .worker) := by
  have known {s : Nat} (before : (σ.session s).isSome) : ((σ.commit .worker).session s).isSome :=
    commit_session_isSome (.inl before)
  have used {t : Nat} {row : TaskRow} {s : Nat} (found : σ.task t = some row) (live : row.turnOf s = true)
      (unknown : σ.session s = none) : False := by
    have committed := held.known t row found
    rw [(turnOf_iff.mp live).1, unknown] at committed
    cases committed
  constructor
  case single =>
    intro s t row t' row' found live found' live'
    rcases held.worked found live with ⟨old, before, turn⟩ | ⟨unknown, fresh, drafted⟩ <;>
      rcases held.worked found' live' with ⟨old', before', turn'⟩ | ⟨unknown', fresh', drafted'⟩
    · exact held.single s t old t' old' before turn before' turn'
    · exact (used before turn unknown').elim
    · exact (used before' turn' unknown).elim
    · obtain ⟨session, root, -⟩ := turnOf_iff.mp live
      obtain ⟨session', root', -⟩ := turnOf_iff.mp live'
      obtain ⟨-, own⟩ := held.opens t' row' fresh' drafted'
      exact (own root').2 t row fresh drafted (session.trans session'.symm) root
  case known =>
    intro t row found
    rcases commit_task found with drafted | before
    · rcases earlier : σ.task t with _ | old
      · exact (held.opens t row earlier drafted).1.committed
      · rw [(held.rewrites t old _ row earlier drafted).2.1.session]
        exact known (held.known t old earlier)
    · exact known (held.known t row before)
  case serves =>
    intro x turn open_
    exact (held.serves x turn open_).imp_right known
  case alone => exact held.alone
  case clear =>
    intro x turn t row open_ checked found
    rw [← Bool.not_eq_true]
    intro live
    rcases held.worked found live with ⟨old, before, turnOf⟩ | ⟨unknown, -, -⟩
    · rw [held.clear x turn t old open_ checked before] at turnOf
      cases turnOf
    · rcases held.serves x turn open_ with first | committed
      · rw [first] at checked
        cases checked
      · simp [unknown] at committed
  case rewrites =>
    intro t old owner new found drafted
    obtain ⟨before, -, same⟩ := commit_draft drafted
    exact held.rewrites t old owner new (same.symm.trans found) before
  case inserts =>
    intro t x row fresh drafted
    obtain ⟨before, -, same⟩ := commit_draft drafted
    exact held.inserts t x row (same.symm.trans fresh) before
  case opens =>
    intro t row fresh drafted
    exact absurd rfl (commit_draft drafted).2.1
  case drafts =>
    intro s owner row unknown drafted
    obtain ⟨before, same⟩ := commit_sessionDraft drafted
    exact held.drafts s owner row (same.symm.trans unknown) before

end Allgres.Shared
