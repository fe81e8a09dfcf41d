import Allgres.Concurrent.Orderly
import Allgres.Concurrent.Alone

/-! A session has one turn at a time, as long as no two calls of
`fn_continue_session` have passed their check for it. -/

namespace Allgres.Shared

open Relational Runs

variable {σ σ' : Shared} {tx : Tx} {x t s : Nat} {row : TaskRow}

/-- When a call makes its check, no other call on the session has made its own and is still open. -/
def CheckedAlone (label : Label) (σ : Shared) : Prop :=
  ∀ x turn session y other, label = .statement x → σ.turn x = some turn → turn.point = .checkTurn session →
    y ≠ x → σ.turn y = some other → other.sessionId = turn.sessionId → other.point.checked = false

/-- Nobody reads a task differently from how it was committed before having written one. -/
theorem Orderly.seen (held : Orderly σ) (found : σ.task t = some row) : σ.task? (.backend x) t = some row := by
  refine task?_eq_some.mpr (.inr ⟨?_, found⟩)
  intro mine drafted
  cases (held.rewrites t row _ mine found drafted).1

theorem Orderly.seenSession (held : Orderly σ) {row : SessionRow} (seen : σ.session? (.backend x) s = some row) :
    (σ.session s).isSome := by
  rcases session?_eq_some.mp seen with drafted | ⟨-, committed⟩
  · by_contra unknown
    rw [Option.not_isSome_iff_eq_none] at unknown
    cases held.drafts s _ row unknown drafted
  · simp [committed]

theorem idle_of_not_liveTurn (held : Orderly σ) (idle : σ.liveTurn (.backend x) s = false)
    (found : σ.task t = some row) : row.turnOf s = false := by
  rw [← Bool.not_eq_true]
  intro live
  have seen := held.seen (x := x) found
  obtain ⟨cell, here, mine⟩ := Option.bind_eq_some_iff.mp seen
  have busy : σ.liveTurn (.backend x) s = true :=
    Table.exists?_eq_true.mpr ⟨t, cell, here, by simp [mine, live]⟩
  rw [idle] at busy
  cases busy

theorem Orderly.statement (held : Orderly σ) {turn : Continuation} (here : σ.turn x = some turn)
    (alone : CheckedAlone (.statement x) σ) (done : σ.continueTurn x turn = some σ') : Orderly σ' := by
  have serves (later : turn.point ≠ .findSession) : (σ.session turn.sessionId).isSome :=
    (held.serves x turn here).resolve_left later
  unfold continueTurn at done
  cases at_ : turn.point with
  | findSession =>
    simp only [at_] at done
    split at done <;> obtain rfl := Option.some.inj done
    · exact held.raise
    · rename_i session found
      refine held.goto here (held.seenSession found) (fun checked => by cases checked) ?_
      simp [at_]
  | checkAgent session =>
    simp only [at_] at done
    split at done <;> obtain rfl := Option.some.inj done
    · refine held.goto here (serves (by simp [at_])) (fun checked => by cases checked) ?_
      simp [at_]
    · exact held.raise
  | checkTurn session =>
    simp only [at_] at done
    split at done <;> obtain rfl := Option.some.inj done
    · exact held.raise
    · rename_i idle
      rw [Bool.not_eq_true] at idle
      refine held.goto here (serves (by simp [at_])) (fun _ => .inr ⟨?_, ?_⟩) (by simp [at_])
      · intro y other different open_ same
        exact alone x turn session y other rfl here at_ different open_ same
      · intro t row found
        exact idle_of_not_liveTurn held idle found
  | reopen session =>
    simp only [at_] at done
    split at done
    · rename_i free
      obtain rfl := Option.some.inj done
      have reopened : Orderly (σ.writeSession (.backend x) turn.sessionId fun session =>
          { session with status := .opened, completedAt := none }) := by
        refine held.writeSession _ ?_
        intro cell found
        simpa [found] using free
      refine reopened.goto here ?_ (fun _ => .inl (by rw [at_]; rfl)) (by simp [at_])
      rw [writeSession_session]
      exact serves (by simp [at_])
    · cases done
  | insertTask session =>
    simp only [at_] at done
    obtain rfl := Option.some.inj done
    have moved : Orderly (σ.goto x turn (.insertLog σ.tasks.next)) :=
      held.goto here (serves (by simp [at_])) (fun _ => .inl (by rw [at_]; rfl)) (by simp [at_])
    refine @Orderly.insertTask _ (.backend x) _ moved ?_ fun worker => by cases worker
    intro y same
    obtain rfl := Tx.backend.inj same
    refine ⟨{ turn with point := .insertLog σ.tasks.next }, ?_, rfl, .inl rfl⟩
    simp only [Shared.goto, Shared.setTurn, Function.update_self]
  | insertLog taskId =>
    simp only [at_] at done
    obtain rfl := Option.some.inj done
    have logged : Orderly (σ.insertLog (.backend x) ⟨taskId, 0, .user, .str turn.message, turn.env.now⟩) :=
      held.congr rfl rfl rfl rfl rfl
    refine logged.goto here (serves (by simp [at_])) (fun _ => .inl (by rw [at_]; rfl)) ?_
    simp [at_]
  | commit taskId =>
    simp only [at_] at done
    obtain rfl := Option.some.inj done
    exact held.commitTurn here at_

theorem Orderly.works (held : Orderly σ) {statement : Statement} (works : Works σ statement σ') : Orderly σ' := by
  have seen {s : Nat} (visible : (σ.session? .worker s).isSome) : σ.Known s := by
    obtain ⟨row, found⟩ := Option.isSome_iff_exists.mp visible
    rcases session?_eq_some.mp found with drafted | ⟨-, committed⟩
    · exact .inr ⟨row, drafted⟩
    · exact .inl (by simp [committed])
  cases works with
  | updateTask row found free seen live kin => exact held.updateTask found seen live kin
  | spawn child above visible =>
    refine held.insertTask (fun x worker => by cases worker) fun _ => ⟨seen visible, ?_⟩
    intro root
    rw [root] at above
    cases above
  | openSession row => exact held.openSession row
  | openTask row found fresh visible empty =>
    have unknown : σ.session row.sessionId = none := by
      simp only [Shared.session, found, Option.bind_some, fresh]
    refine held.insertTask (fun x worker => by cases worker) fun _ => ⟨seen ?_, fun _ => ⟨unknown, ?_⟩⟩
    · simpa only [session?, found, Option.bind_some] using visible
    · intro t row' new drafted same
      exact absurd same (empty t row' (task?_eq_some.mpr (.inl drafted)))
  | updateSession set found free =>
    refine held.writeSession set ?_
    intro cell here
    obtain rfl := Option.some.inj (found.symm.trans here)
    exact free
  | insertLog row => exact held.congr rfl rfl rfl rfl rfl
  | commit => exact held.commitWorker
  | rollback => exact held.rollback

theorem Orderly.step {label : Label} (held : Orderly σ) (step : Step label σ σ') (alone : CheckedAlone label σ) :
    Orderly σ' := by
  cases step with
  | @call _ x env sessionId message free given =>
    refine held.setTurn ?_ ?_
    · intro t row new drafted
      obtain ⟨turn, open_, -⟩ := held.inserts t x row new drafted
      rw [free] at open_
      cases open_
    · intro new begun
      rw [← Option.some.inj begun]
  | statement here done => exact held.statement here alone done
  | abort => exact held.raise
  | work works => exact held.works works
  | configure => exact held.congr rfl rfl rfl rfl rfl

/-- No transaction is open, each task belongs to a session, and no session has two turns. -/
structure AtRest (σ : Shared) : Prop where
  single : ∀ s, σ.OneTurn s
  known : ∀ t row, σ.task t = some row → (σ.session row.sessionId).isSome
  ended : ∀ x, σ.turn x = none
  written : ∀ t, σ.draft t = none
  sessionWritten : ∀ s, σ.sessionDraft s = none

theorem AtRest.orderly (rest : AtRest σ) : Orderly σ := by
  have ended {x : Nat} {turn : Continuation} (open_ : σ.turn x = some turn) : False := by
    rw [rest.ended x] at open_
    cases open_
  have written {t : Nat} {draft : Tx × TaskRow} (drafted : σ.draft t = some draft) : False := by
    rw [rest.written t] at drafted
    cases drafted
  constructor
  case single => exact rest.single
  case known => exact rest.known
  case serves => exact fun x turn open_ => (ended open_).elim
  case alone => exact fun x turn y other open_ => (ended open_).elim
  case clear => exact fun x turn t row open_ => (ended open_).elim
  case rewrites => exact fun t old owner new _ drafted => (written drafted).elim
  case inserts => exact fun t x row _ drafted => (written drafted).elim
  case opens => exact fun t row _ drafted => (written drafted).elim
  case drafts =>
    intro s owner row _ drafted
    rw [rest.sessionWritten s] at drafted
    cases drafted

theorem atRest_ofCore {core : Core} (single : Single core) (founded : Founded core) : AtRest (ofCore core) := by
  have task (t : Nat) : (ofCore core).task t = core.tasks.get? t := by
    simp only [Shared.task, ofCore, Table.get?_map]
    cases core.tasks.get? t <;> rfl
  have session (s : Nat) : (ofCore core).session s = core.sessions.get? s := by
    simp only [Shared.session, ofCore, Table.get?_map]
    cases core.sessions.get? s <;> rfl
  constructor
  case single =>
    intro s t row t' row' found live found' live'
    rw [task] at found found'
    exact single s t row t' row' found live found' live'
  case known =>
    intro t row found
    rw [task] at found
    rw [session]
    exact founded t row found
  case ended => exact fun x => rfl
  case written =>
    intro t
    simp only [Shared.draft, ofCore, Table.get?_map]
    cases core.tasks.get? t <;> rfl
  case sessionWritten =>
    intro s
    simp only [Shared.sessionDraft, ofCore, Table.get?_map]
    cases core.sessions.get? s <;> rfl

/-- A session never has two turns in progress, in any interleaving in which no call makes its
check between the check and the end of another call on the same session. -/
theorem one_turn_at_a_time {start : Shared} (rest : AtRest start) (run : Path Step CheckedAlone start σ) (s : Nat) :
    σ.OneTurn s := by
  have orderly : Orderly σ := by
    refine run.invariant ?_ rest.orderly
    intro label before after step alone held
    exact held.step step alone
  exact orderly.single s

/-! ### Runs on given statements -/

theorem continueTurn_others {turn : Continuation} (done : σ.continueTurn x turn = some σ') {y : Nat} (other : y ≠ x) :
    σ'.turn y = σ.turn y := by
  have moved (σ : Shared) (turn : Option Continuation) : (σ.setTurn x turn).turn y = σ.turn y :=
    Function.update_of_ne other _ _
  unfold continueTurn at done
  split at done
  · split at done <;> obtain rfl := Option.some.inj done <;> exact moved _ _
  · split at done <;> obtain rfl := Option.some.inj done <;> exact moved _ _
  · split at done <;> obtain rfl := Option.some.inj done <;> exact moved _ _
  · split at done
    · obtain rfl := Option.some.inj done
      exact moved _ _
    · cases done
  · obtain rfl := Option.some.inj done
    exact moved _ _
  · obtain rfl := Option.some.inj done
    exact moved _ _
  · obtain rfl := Option.some.inj done
    exact moved _ _

/-- A call that is alone makes its check alone. -/
theorem finish_path {fuel : Nat} (others : ∀ y, y ≠ x → σ.turn y = none) (done : σ.finish x fuel = some σ') :
    Path Step CheckedAlone σ σ' := by
  induction fuel generalizing σ with
  | zero => cases done
  | succ fuel ih =>
    cases here : σ.turn x with
    | none =>
      rw [finish_done here] at done
      obtain rfl := Option.some.inj done
      exact .refl
    | some turn =>
      simp only [finish, here] at done
      obtain ⟨after, statement, rest⟩ := Option.bind_eq_some_iff.mp done
      have alone : CheckedAlone (.statement x) σ := by
        intro y turn session z other same _ _ different open_
        obtain rfl := Label.statement.inj same
        rw [others z different] at open_
        cases open_
      refine (Path.single (.statement here statement) alone).trans (ih ?_ rest)
      intro y other
      rw [continueTurn_others statement other]
      exact others y other

/-- The calls' statements in the given order of backends. -/
def interleave (σ : Shared) : List Nat → Option Shared
  | [] => some σ
  | x :: rest => (σ.turn x).bind fun turn => (σ.continueTurn x turn).bind fun σ => σ.interleave rest

theorem interleave_path {order : List Nat} (done : σ.interleave order = some σ') :
    Path Step (fun _ _ => True) σ σ' := by
  induction order generalizing σ with
  | nil =>
    obtain rfl := Option.some.inj done
    exact .refl
  | cons x rest ih =>
    obtain ⟨turn, here, continued⟩ := Option.bind_eq_some_iff.mp done
    obtain ⟨after, statement, others⟩ := Option.bind_eq_some_iff.mp continued
    exact (Path.single (.statement here statement) trivial).trans (ih others)

/-! ### A session that is over -/

/-- A session whose only task has been cancelled. -/
def cancelled : List (Env × Op) :=
  [(.bare, .createSession 0 (some "greet the customer") none none), (.bare, .cancelSession 0 none)]

/-- Calls of two backends on it. -/
def doubleClick (core : Core) : Shared :=
  ((ofCore core).setTurn 0 (some ⟨.bare, 0, "hello", .findSession⟩)).setTurn 1
    (some ⟨.bare, 0, "hello", .findSession⟩)

def isTurn (σ : Shared) (t : Nat) : Bool :=
  (σ.task t).any fun row => row.turnOf 0

theorem atRest_run {start db : Db} {allowed : Allgres.Label → Db → Bool} (fresh : Fresh start)
    (run : Run allowed start db) : AtRest (ofCore db.core) := by
  obtain ⟨single, founded⟩ := single_run fresh run
  exact atRest_ofCore single founded

/-- Both calls check before either writes. -/
theorem not_one_turn_at_a_time : ¬ ∀ (start σ : Shared) (s : Nat), AtRest start →
    Path Step (fun _ _ => True) start σ → σ.OneTurn s := by
  intro claimed
  obtain ⟨db, run, both⟩ := @run_reaching (helperDb (helperPolicy 5 none)) Allgres.Label.any cancelled
    (fun db => ((doubleClick db.core).interleave [0, 1, 0, 1, 0, 1, 0, 0, 0, 0, 1, 1, 1, 1]).any fun σ =>
      σ.isTurn 1 && σ.isTurn 2) (by decide +kernel)
  have rest := atRest_run (helperDb_fresh _) run
  rw [Option.any_eq_true] at both
  obtain ⟨σ, interleaved, turns⟩ := both
  have begin : Path Step (fun _ _ => True) (ofCore db.core) (doubleClick db.core) :=
    (Path.single (@Step.call _ 0 .bare 0 (some "hello") rfl (by decide +kernel)) trivial).trans
      (.single (@Step.call _ 1 .bare 0 (some "hello") rfl (by decide +kernel)) trivial)
  have one := claimed _ σ 0 rest (begin.trans (interleave_path interleaved))
  simp only [isTurn, Bool.and_eq_true, Option.any_eq_true] at turns
  obtain ⟨⟨row, found, live⟩, row', found', live'⟩ := turns
  cases one 1 row 2 row' found live found' live'

theorem one_turn_at_a_time_cancelled : ∃ σ : Shared, σ.isTurn 1 = true ∧ σ.OneTurn 0 := by
  obtain ⟨db, run, single⟩ := @run_reaching (helperDb (helperPolicy 5 none)) Allgres.Label.any cancelled
    (fun db => (((ofCore db.core).setTurn 0 (some ⟨.bare, 0, "hello", .findSession⟩)).finish 0 8).any fun σ =>
      σ.isTurn 1) (by decide +kernel)
  rw [Option.any_eq_true] at single
  obtain ⟨σ, finished, turn⟩ := single
  have begin : Path Step CheckedAlone (ofCore db.core)
      ((ofCore db.core).setTurn 0 (some ⟨.bare, 0, "hello", .findSession⟩)) :=
    .single (@Step.call _ 0 .bare 0 (some "hello") rfl (by decide +kernel)) fun x turn session y other same => by
      cases same
  have continued := finish_path (fun y other => Function.update_of_ne other _ _) finished
  exact ⟨σ, turn, one_turn_at_a_time (atRest_run (helperDb_fresh _) run) (begin.trans continued) 0⟩

end Allgres.Shared
