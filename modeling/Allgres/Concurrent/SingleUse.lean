import Allgres.Concurrent.Exchange

/-! A state is good for one exchange as long as the calls that present it do not overlap. -/

namespace Allgres.Logins

open Relational Runs

variable {σ σ' : Logins} {x y k : Nat} {s : String} {request : TokenRequest} {label : Label}

/-! ### The exchanges of a state -/

/-- The exchange is what the open call has inserted. -/
def Drafted (σ : Logins) (x k : Nat) : Prop := ∃ row, σ.calls.get? k = some ⟨none, some (x, row)⟩

theorem exchanged_commit (now : (σ.commit x).Exchanged s k) : σ.Exchanged s k := by
  obtain ⟨state, cell, row, found, exchange, written⟩ := now
  simp only [commit, Table.get?_map] at found
  obtain ⟨old, before, rfl⟩ := Option.map_eq_some_iff.mp found
  refine ⟨state, old, row, before, exchange, ?_⟩
  rcases written with committed | ⟨owner, drafted⟩
  · rcases Cell.commit_committed committed with own | earlier
    · exact .inr ⟨x, own⟩
    · exact .inl earlier
  · exact .inr ⟨owner, (Cell.commit_draft drafted).1⟩

/-- What the call has inserted is gone, and nothing else is. -/
theorem exchanged_rollback (now : (σ.rollback x).Exchanged s k) : σ.Exchanged s k ∧ ¬ σ.Drafted x k := by
  obtain ⟨state, cell, row, found, exchange, written⟩ := now
  simp only [rollback, Table.get?_map] at found
  obtain ⟨old, before, rfl⟩ := Option.map_eq_some_iff.mp found
  refine ⟨⟨state, old, row, before, exchange, ?_⟩, ?_⟩
  · rcases written with committed | ⟨owner, drafted⟩
    · exact .inl committed
    · exact .inr ⟨owner, (Cell.rollback_draft drafted).1⟩
  · rintro ⟨mine, drafted⟩
    rw [before] at drafted
    obtain rfl := Option.some.inj drafted
    rcases written with committed | ⟨owner, drafted⟩
    · cases committed
    · obtain ⟨same, different⟩ := Cell.rollback_draft drafted
      obtain ⟨rfl, -⟩ := Prod.mk.inj (Option.some.inj same)
      exact different rfl

theorem exchanged_raise (now : (σ.raise x).Exchanged s k) : σ.Exchanged s k ∧ ¬ σ.Drafted x k :=
  exchanged_rollback (σ := σ) now

theorem exchanged_insert {state : Option String} {row : OauthCallRow}
    (now : (σ.insertCall x state row).Exchanged s k) :
    k = σ.calls.next ∧ state = some s ∨ k ≠ σ.calls.next ∧ σ.Exchanged s k := by
  obtain ⟨named, cell, held, found, exchange, written⟩ := now
  simp only [insertCall, Table.get?_insert] at named found
  by_cases new : k = σ.calls.next
  · subst new
    rw [Function.update_self] at named
    exact .inl ⟨rfl, named⟩
  · rw [Function.update_of_ne new] at named
    rw [if_neg new] at found
    exact .inr ⟨new, named, cell, held, found, exchange, written⟩

theorem not_exchanged_next (σ : Logins) (s : String) : ¬ σ.Exchanged s σ.calls.next := by
  rintro ⟨-, cell, row, found, -⟩
  rw [Table.get?_next] at found
  cases found

/-! ### Where the calls stand -/

/-- A call that has found its state still finds it, alone, and nothing has been exchanged for it but
what the call has inserted last. -/
structure Holds (σ : Logins) (x : Nat) (request : TokenRequest) : Prop where
  present : ∃ row ∈ σ.states, some row.state = request.state
  cleared : request.point.deleted = true → ∀ row ∈ σ.states, some row.state = request.state → row.deletedBy = some x
  own : ∀ s k, request.state = some s → σ.Exchanged s k → request.point = .commit ∧ σ.Drafted x k

structure Orderly (σ : Logins) : Prop where
  single : σ.SingleUse
  apart : ∀ x first y second, σ.request x = some first → first.point.found = true → σ.request y = some second →
    second.point.found = true → second.state = first.state → y = x
  unused : ∀ row ∈ σ.states, row.deletedBy = none → ∀ k, ¬ σ.Exchanged row.state k
  marked : ∀ row ∈ σ.states, ∀ x, row.deletedBy = some x → ∃ request, σ.request x = some request ∧
    request.point.deleted = true ∧ request.state = some row.state
  holds : ∀ x request, σ.request x = some request → request.point.found = true → σ.Holds x request

theorem found_of_deleted {point : ExchangePoint} (deleted : point.deleted = true) : point.found = true := by
  cases point <;> first | rfl | cases deleted

/-! ### What each statement preserves -/

theorem setRequest_cases {request : Option TokenRequest} {other : TokenRequest}
    (open_ : (σ.setRequest x request).request y = some other) :
    y = x ∧ request = some other ∨ y ≠ x ∧ σ.request y = some other := by
  by_cases same : y = x
  · subst same
    simp only [setRequest, Function.update_self] at open_
    exact .inl ⟨rfl, open_⟩
  · simp only [setRequest, Function.update_of_ne same] at open_
    exact .inr ⟨same, open_⟩

/-- A call is opened. -/
theorem Orderly.call (held : Orderly σ) (idle : σ.request x = none) (first : request.point = .findState) :
    Orderly (σ.setRequest x (some request)) := by
  have unfound : request.point.found = false := by
    rw [first]
    rfl
  have before {y : Nat} {other : TokenRequest} (open_ : (σ.setRequest x (some request)).request y = some other)
      (found : other.point.found = true) : σ.request y = some other := by
    rcases setRequest_cases open_ with ⟨-, same⟩ | ⟨-, earlier⟩
    · obtain rfl := Option.some.inj same
      rw [unfound] at found
      cases found
    · exact earlier
  constructor
  case single => exact held.single
  case unused => exact held.unused
  case apart =>
    intro y one z two openOne foundOne openTwo foundTwo
    exact held.apart y one z two (before openOne foundOne) foundOne (before openTwo foundTwo) foundTwo
  case marked =>
    intro row member y marked
    obtain ⟨other, open_, deleted, state⟩ := held.marked row member y marked
    have different : y ≠ x := by
      rintro rfl
      rw [idle] at open_
      cases open_
    exact ⟨other, (Function.update_of_ne different ..).trans open_, deleted, state⟩
  case holds =>
    intro y other open_ found
    obtain ⟨present, cleared, own⟩ := held.holds y other (before open_ found) found
    exact ⟨present, cleared, own⟩

/-- A call that has not inserted its exchange yet goes on. -/
theorem Orderly.goto (held : Orderly σ) {point : ExchangePoint} (here : σ.request x = some request)
    (kept : point.deleted = request.point.deleted)
    (alone : ∀ y other, σ.request y = some other → other.point.found = true → other.state = request.state → y = x)
    (present : ∃ row ∈ σ.states, some row.state = request.state)
    (cleared : request.point.deleted = true → ∀ row ∈ σ.states, some row.state = request.state →
      row.deletedBy = some x)
    (fresh : ∀ s k, request.state = some s → ¬ σ.Exchanged s k) : Orderly (σ.goto x request point) := by
  constructor
  case single => exact held.single
  case unused => exact held.unused
  case apart =>
    intro y one z two openOne foundOne openTwo foundTwo same
    rcases setRequest_cases openOne with ⟨rfl, isOne⟩ | ⟨differentOne, beforeOne⟩ <;>
      rcases setRequest_cases openTwo with ⟨rfl, isTwo⟩ | ⟨differentTwo, beforeTwo⟩
    · rfl
    · obtain rfl := Option.some.inj isOne
      exact alone z two beforeTwo foundTwo same
    · obtain rfl := Option.some.inj isTwo
      exact (alone y one beforeOne foundOne same.symm).symm
    · exact held.apart y one z two beforeOne foundOne beforeTwo foundTwo same
  case marked =>
    intro row member y marked
    obtain ⟨other, open_, deleted, state⟩ := held.marked row member y marked
    by_cases same : y = x
    · subst same
      rw [here] at open_
      obtain rfl := Option.some.inj open_
      exact ⟨_, Function.update_self .., kept.trans deleted, state⟩
    · exact ⟨other, (Function.update_of_ne same ..).trans open_, deleted, state⟩
  case holds =>
    intro y other open_ foundOther
    rcases setRequest_cases open_ with ⟨rfl, isOther⟩ | ⟨-, before⟩
    · obtain rfl := Option.some.inj isOther
      exact ⟨present, fun deleted => cleared (kept.symm.trans deleted),
        fun s k state exchanged => absurd exchanged (fresh s k state)⟩
    · obtain ⟨present, cleared, own⟩ := held.holds y other before foundOther
      exact ⟨present, cleared, own⟩

/-- A call ends in an exception and takes back its own writes. -/
theorem Orderly.raise (held : Orderly σ) (x : Nat) : Orderly (σ.raise x) := by
  have before {y : Nat} {other : TokenRequest} (open_ : (σ.raise x).request y = some other) :
      y ≠ x ∧ σ.request y = some other := by
    rcases setRequest_cases open_ with ⟨-, none⟩ | earlier
    · cases none
    · exact earlier
  have row_before {row : StateRow} (member : row ∈ (σ.raise x).states) :
      ∃ old ∈ σ.states, row = { old with deletedBy := old.deletedBy.filter (· != x) } := by
    obtain ⟨old, there, rfl⟩ := List.mem_map.mp member
    exact ⟨old, there, rfl⟩
  constructor
  case single =>
    intro s k k' first second
    exact held.single s k k' (exchanged_raise first).1 (exchanged_raise second).1
  case apart =>
    intro y one z two openOne foundOne openTwo foundTwo
    exact held.apart y one z two (before openOne).2 foundOne (before openTwo).2 foundTwo
  case unused =>
    intro row member unmarked k exchanged
    obtain ⟨earlier, others⟩ := exchanged_raise exchanged
    obtain ⟨old, there, rfl⟩ := row_before member
    rcases mark : old.deletedBy with _ | y
    · exact held.unused old there mark k earlier
    · -- the row was deleted by the call, so the exchange is the call's own
      have same : y = x := by simpa [mark] using unmarked
      obtain ⟨mine, open_, deleted, state⟩ := held.marked old there y mark
      have owned := (held.holds y mine open_ (found_of_deleted deleted)).own old.state k state earlier
      exact others (same ▸ owned.2)
  case marked =>
    intro row member y marked
    obtain ⟨old, there, rfl⟩ := row_before member
    obtain ⟨mark, different⟩ := Option.filter_eq_some_iff.mp marked
    obtain ⟨other, open_, deleted, state⟩ := held.marked old there y mark
    exact ⟨other, (Function.update_of_ne (by simpa using different) ..).trans open_, deleted, state⟩
  case holds =>
    intro y other open_ found
    obtain ⟨different, earlier⟩ := before open_
    obtain ⟨⟨row, there, state⟩, cleared, own⟩ := held.holds y other earlier found
    refine ⟨⟨_, List.mem_map_of_mem there, state⟩, fun deleted row member same => ?_, fun s k state exchanged => ?_⟩
    · obtain ⟨old, there, rfl⟩ := row_before member
      rw [cleared deleted old there same]
      simp [different]
    · obtain ⟨committing, row, drafted⟩ := own s k state (exchanged_raise exchanged).1
      refine ⟨committing, row, ?_⟩
      simp only [Logins.raise, setRequest, rollback, Table.get?_map, drafted, Option.map_some]
      simp [Cell.rollback, different]

/-- A call deletes the row of its state. -/
theorem Orderly.deleteState (held : Orderly σ) {exchange : Exchange} (here : σ.request x = some request)
    (point : request.point = .deleteState exchange)
    (free : ∀ row ∈ σ.states, some row.state = request.state → row.deletedBy.all (· == x) = true) :
    Orderly ((σ.deleteState x request.state).goto x request (.insertCall exchange)) := by
  have found : request.point.found = true := by
    rw [point]
    rfl
  obtain ⟨present, -, own⟩ := held.holds x request here found
  have fresh (s : String) (k : Nat) (state : request.state = some s) : ¬ σ.Exchanged s k := by
    intro exchanged
    have committing := (own s k state exchanged).1
    rw [point] at committing
    cases committing
  have row_before {row : StateRow} (member : row ∈ (σ.deleteState x request.state).states) :
      row ∈ σ.states ∧ some row.state ≠ request.state ∨ some row.state = request.state ∧ row.deletedBy = some x := by
    obtain ⟨old, there, rfl⟩ := List.mem_map.mp member
    by_cases same : some old.state = request.state
    · exact .inr (by simp [same])
    · exact .inl (by simpa [same] using there)
  constructor
  case single => exact held.single
  case unused =>
    intro row member unmarked
    rcases row_before member with ⟨there, -⟩ | ⟨-, marked⟩
    · exact held.unused row there unmarked
    · rw [marked] at unmarked
      cases unmarked
  case apart =>
    intro y one z two openOne foundOne openTwo foundTwo same
    rcases setRequest_cases openOne with ⟨rfl, isOne⟩ | ⟨-, beforeOne⟩ <;>
      rcases setRequest_cases openTwo with ⟨rfl, isTwo⟩ | ⟨-, beforeTwo⟩
    · rfl
    · obtain rfl := Option.some.inj isOne
      exact held.apart y request z two here found beforeTwo foundTwo same
    · obtain rfl := Option.some.inj isTwo
      exact held.apart y one z request beforeOne foundOne here found same
    · exact held.apart y one z two beforeOne foundOne beforeTwo foundTwo same
  case marked =>
    intro row member y marked
    rcases row_before member with ⟨there, different⟩ | ⟨state, deleted⟩
    · obtain ⟨other, open_, deleted, state⟩ := held.marked row there y marked
      refine ⟨other, (Function.update_of_ne ?_ ..).trans open_, deleted, state⟩
      rintro rfl
      rw [here] at open_
      obtain rfl := Option.some.inj open_
      exact different state.symm
    · obtain rfl := Option.some.inj (marked.symm.trans deleted)
      exact ⟨_, Function.update_self .., rfl, state.symm⟩
  case holds =>
    have kept {other : Option String} (there : ∃ row ∈ σ.states, some row.state = other) :
        ∃ row ∈ (σ.deleteState x request.state).states, some row.state = other := by
      obtain ⟨row, member, state⟩ := there
      refine ⟨_, List.mem_map_of_mem member, ?_⟩
      split <;> exact state
    intro y other open_ foundOther
    rcases setRequest_cases open_ with ⟨rfl, isOther⟩ | ⟨different, before⟩
    · obtain rfl := Option.some.inj isOther
      refine ⟨kept present, fun _ row member state => ?_, fun s k state exchanged => absurd exchanged (fresh s k state)⟩
      rcases row_before member with ⟨-, other⟩ | ⟨-, marked⟩
      · exact absurd state other
      · exact marked
    · obtain ⟨there, cleared, own⟩ := held.holds y other before foundOther
      refine ⟨kept there, fun deleted row member state => ?_, own⟩
      rcases row_before member with ⟨old, -⟩ | ⟨same, -⟩
      · exact cleared deleted row old state
      · exact absurd (held.apart x request y other here found before foundOther (state.symm.trans same)) different

/-- A call inserts its exchange. -/
theorem Orderly.insertCall (held : Orderly σ) {exchange : Exchange} {row : OauthCallRow}
    (here : σ.request x = some request) (point : request.point = .insertCall exchange) :
    Orderly ((σ.insertCall x request.state row).goto x request .commit) := by
  have found : request.point.found = true := by
    rw [point]
    rfl
  obtain ⟨present, cleared, own⟩ := held.holds x request here found
  have fresh (s : String) (k : Nat) (state : request.state = some s) : ¬ σ.Exchanged s k := by
    intro exchanged
    have committing := (own s k state exchanged).1
    rw [point] at committing
    cases committing
  have gone : request.point.deleted = true := by
    rw [point]
    rfl
  have exchanged_before {s : String} {k : Nat}
      (now : ((σ.insertCall x request.state row).goto x request .commit).Exchanged s k) :
      k = σ.calls.next ∧ request.state = some s ∨ k ≠ σ.calls.next ∧ σ.Exchanged s k :=
    exchanged_insert (σ := σ) (x := x) now
  have drafted_after {y k : Nat} (before : σ.Drafted y k) :
      ((σ.insertCall x request.state row).goto x request .commit).Drafted y k := by
    obtain ⟨mine, drafted⟩ := before
    exact ⟨mine, Table.get?_insert_old _ drafted⟩
  constructor
  case single =>
    intro s k k' first second
    rcases exchanged_before first with ⟨rfl, state⟩ | ⟨-, old⟩ <;>
      rcases exchanged_before second with ⟨rfl, state'⟩ | ⟨-, old'⟩
    · rfl
    · exact absurd old' (fresh s k' state)
    · exact absurd old (fresh s k state')
    · exact held.single s k k' old old'
  case unused =>
    intro held_row member unmarked k exchanged
    rcases exchanged_before exchanged with ⟨-, state⟩ | ⟨-, old⟩
    · have marked := cleared gone held_row member state.symm
      rw [unmarked] at marked
      cases marked
    · exact held.unused held_row member unmarked k old
  case apart =>
    intro y one z two openOne foundOne openTwo foundTwo same
    rcases setRequest_cases openOne with ⟨rfl, isOne⟩ | ⟨-, beforeOne⟩ <;>
      rcases setRequest_cases openTwo with ⟨rfl, isTwo⟩ | ⟨-, beforeTwo⟩
    · rfl
    · obtain rfl := Option.some.inj isOne
      exact held.apart y request z two here found beforeTwo foundTwo same
    · obtain rfl := Option.some.inj isTwo
      exact held.apart y one z request beforeOne foundOne here found same
    · exact held.apart y one z two beforeOne foundOne beforeTwo foundTwo same
  case marked =>
    intro held_row member y marked
    obtain ⟨other, open_, deleted, state⟩ := held.marked held_row member y marked
    by_cases same : y = x
    · subst same
      rw [here] at open_
      obtain rfl := Option.some.inj open_
      exact ⟨_, Function.update_self .., rfl, state⟩
    · exact ⟨other, (Function.update_of_ne same ..).trans open_, deleted, state⟩
  case holds =>
    intro y other open_ foundOther
    rcases setRequest_cases open_ with ⟨rfl, isOther⟩ | ⟨different, before⟩
    · obtain rfl := Option.some.inj isOther
      refine ⟨present, fun _ => cleared gone, fun s k state exchanged => ⟨rfl, ?_⟩⟩
      rcases exchanged_before exchanged with ⟨rfl, -⟩ | ⟨-, old⟩
      · exact ⟨row, (Table.get?_insert ..).trans (if_pos rfl)⟩
      · exact absurd old (fresh s k state)
    · obtain ⟨there, clearedOther, ownOther⟩ := held.holds y other before foundOther
      refine ⟨there, clearedOther, fun s k state exchanged => ?_⟩
      rcases exchanged_before exchanged with ⟨-, mine⟩ | ⟨-, old⟩
      · exact absurd (held.apart x request y other here found before foundOther (state.trans mine.symm)) different
      · exact (ownOther s k state old).imp_right drafted_after

/-- A call commits: its state is gone, and its exchange stays. -/
theorem Orderly.commit (held : Orderly σ) (here : σ.request x = some request) (point : request.point = .commit) :
    Orderly ((σ.commit x).setRequest x none) := by
  have found : request.point.found = true := by
    rw [point]
    rfl
  have before {y : Nat} {other : TokenRequest} (open_ : ((σ.commit x).setRequest x none).request y = some other) :
      y ≠ x ∧ σ.request y = some other := by
    rcases setRequest_cases open_ with ⟨-, none⟩ | earlier
    · cases none
    · exact earlier
  have exchanged_before {s : String} {k : Nat} (now : ((σ.commit x).setRequest x none).Exchanged s k) :
      σ.Exchanged s k :=
    exchanged_commit (σ := σ) (x := x) now
  have row_before {row : StateRow} (member : row ∈ ((σ.commit x).setRequest x none).states) :
      row ∈ σ.states ∧ row.deletedBy ≠ some x := by
    simpa using List.mem_filter.mp member
  constructor
  case single =>
    intro s k k' first second
    exact held.single s k k' (exchanged_before first) (exchanged_before second)
  case apart =>
    intro y one z two openOne foundOne openTwo foundTwo
    exact held.apart y one z two (before openOne).2 foundOne (before openTwo).2 foundTwo
  case unused =>
    intro row member unmarked k exchanged
    exact held.unused row (row_before member).1 unmarked k (exchanged_before exchanged)
  case marked =>
    intro row member y marked
    obtain ⟨there, notMine⟩ := row_before member
    obtain ⟨other, open_, deleted, state⟩ := held.marked row there y marked
    refine ⟨other, (Function.update_of_ne ?_ ..).trans open_, deleted, state⟩
    rintro rfl
    exact notMine marked
  case holds =>
    intro y other open_ foundOther
    obtain ⟨different, earlier⟩ := before open_
    obtain ⟨⟨row, there, state⟩, cleared, own⟩ := held.holds y other earlier foundOther
    refine ⟨⟨row, ?_, state⟩, fun deleted row member => cleared deleted row (row_before member).1,
      fun s k same exchanged => ?_⟩
    · -- the row that the other call has found is not the one that this call has deleted
      refine List.mem_filter.mpr ⟨there, ?_⟩
      simp only [bne_iff_ne, ne_eq]
      intro mine
      obtain ⟨_, open', -, state'⟩ := held.marked row there x mine
      rw [here] at open'
      obtain rfl := Option.some.inj open'
      exact different (held.apart x request y other here found earlier foundOther (state.symm.trans state'.symm))
    · obtain ⟨committing, row, drafted⟩ := own s k same (exchanged_before exchanged)
      refine ⟨committing, row, ?_⟩
      simp only [setRequest, Logins.commit, Table.get?_map, drafted, Option.map_some]
      rw [Cell.commit_other rfl different]

/-- A login is started with a new state. -/
theorem Orderly.start (held : Orderly σ) (providerId : Nat) (absent : ∀ row ∈ σ.states, row.state ≠ s)
    (unknown : ∀ k, σ.stateOf k ≠ some s) : Orderly { σ with states := σ.states ++ [⟨s, providerId, none⟩] } := by
  constructor
  case single => exact held.single
  case apart => exact held.apart
  case unused =>
    intro row member unmarked k exchanged
    rcases List.mem_append.mp member with old | new
    · exact held.unused row old unmarked k exchanged
    · obtain rfl := List.mem_singleton.mp new
      exact unknown k exchanged.1
  case marked =>
    intro row member y marked
    rcases List.mem_append.mp member with old | new
    · exact held.marked row old y marked
    · obtain rfl := List.mem_singleton.mp new
      cases marked
  case holds =>
    intro y other open_ found
    obtain ⟨⟨row, there, state⟩, cleared, own⟩ := held.holds y other open_ found
    refine ⟨⟨row, List.mem_append_left _ there, state⟩, fun deleted row' member same => ?_, own⟩
    rcases List.mem_append.mp member with old | new
    · exact cleared deleted row' old same
    · obtain rfl := List.mem_singleton.mp new
      exact absurd (Option.some.inj (state.trans same.symm)) (absent row there)

/-- A call that has found its state goes on before it has deleted the row. -/
theorem Orderly.advance (held : Orderly σ) {point : ExchangePoint} (here : σ.request x = some request)
    (before : request.point.found = true) (keeps : request.point.deleted = false) (kept : point.deleted = false) :
    Orderly (σ.goto x request point) := by
  obtain ⟨present, cleared, own⟩ := held.holds x request here before
  refine held.goto here (kept.trans keeps.symm) (fun y other open_ foundOther same => ?_) present cleared
    fun s k state exchanged => ?_
  · exact held.apart x request y other here before open_ foundOther same
  · have committing := (own s k state exchanged).1
    rw [committing] at keeps
    cases keeps

theorem Orderly.findState (held : Orderly σ) {row : StateRow} {point : ExchangePoint} (here : σ.request x = some request)
    (first : request.point = .findState) (kept : point.deleted = false)
    (alone : ∀ y other, σ.request y = some other → other.point.found = true → other.state = request.state → y = x)
    (seen : σ.states.find? (seesState x request.state) = some row) : Orderly (σ.goto x request point) := by
  have there := List.mem_of_find?_eq_some seen
  have visible : some row.state = request.state ∧ row.deletedBy ≠ some x := by
    simpa [seesState] using List.find?_some seen
  have still : request.point.deleted = false := by
    rw [first]
    rfl
  -- nobody else can have deleted the row, as no other call has found it
  have unmarked : row.deletedBy = none := by
    rcases mark : row.deletedBy with _ | y
    · rfl
    · obtain ⟨other, open_, deleted, state⟩ := held.marked row there y mark
      have same := alone y other open_ (found_of_deleted deleted) (state.trans visible.1)
      exact absurd (same ▸ mark) visible.2
  refine held.goto here (kept.trans still.symm) alone ⟨row, there, visible.1⟩ (fun deleted => ?_)
    fun s k state exchanged => ?_
  · rw [still] at deleted
    cases deleted
  · obtain rfl := Option.some.inj (visible.1.trans state)
    exact held.unused row there unmarked k exchanged

theorem Orderly.continueRequest (held : Orderly σ) (here : σ.request x = some request)
    (done : σ.continueRequest x request = some σ') (apart : Apart (.statement x) σ) : Orderly σ' := by
  unfold Logins.continueRequest at done
  split at done
  case h_1 first =>
    split at done
    · obtain rfl := Option.some.inj done
      exact held.raise x
    · rename_i row seen
      obtain rfl := Option.some.inj done
      exact held.findState here first rfl (fun y other open_ found same => apart request y other here first open_ found same)
        seen
  case h_2 providerId point =>
    have found : request.point.found = true := by
      rw [point]
      rfl
    have still : request.point.deleted = false := by
      rw [point]
      rfl
    split at done
    · obtain rfl := Option.some.inj done
      exact held.raise x
    · split at done
      · split at done
        · obtain rfl := Option.some.inj done
          exact held.raise x
        · obtain rfl := Option.some.inj done
          exact held.advance here found still rfl
      · obtain rfl := Option.some.inj done
        exact held.raise x
  case h_3 exchange point =>
    split at done
    · rename_i unlocked
      obtain rfl := Option.some.inj done
      refine held.deleteState here point fun row member state => ?_
      simpa [state] using List.all_eq_true.mp unlocked row member
    · cases done
  case h_4 exchange point =>
    obtain rfl := Option.some.inj done
    exact held.insertCall here point
  case h_5 point =>
    obtain rfl := Option.some.inj done
    exact held.commit here point

theorem Orderly.step (held : Orderly σ) (step : Step label σ σ') (apart : Apart label σ) : Orderly σ' := by
  cases step with
  | call idle first => exact held.call idle first
  | statement here done => exact held.continueRequest here done apart
  | abort => exact held.raise _
  | start providerId absent unknown => exact held.start providerId absent unknown
  | configure providers => exact ⟨held.single, held.apart, held.unused, held.marked, fun x request open_ found =>
      ⟨(held.holds x request open_ found).present, (held.holds x request open_ found).cleared,
        (held.holds x request open_ found).own⟩⟩

/-- The tables as they are created. -/
def created : Logins := ofSite .empty fun _ => none

theorem orderly_created : Orderly created := by
  have unused (s : String) (k : Nat) : ¬ created.Exchanged s k := fun exchanged => by cases exchanged.1
  have absent (row : StateRow) : row ∉ created.states := List.not_mem_nil
  have idle (x : Nat) (request : TokenRequest) : created.request x ≠ some request := nofun
  constructor
  case single => exact fun s k k' exchanged => (unused s k exchanged).elim
  case apart => exact fun x first y second open_ => (idle x first open_).elim
  case unused => exact fun row member => (absent row member).elim
  case marked => exact fun row member => (absent row member).elim
  case holds => exact fun x request open_ => (idle x request open_).elim

/-- A state is good for at most one exchange, in any interleaving in which no call looks for its state
while another one that has found the same state is open. -/
theorem state_single_use (run : Path Step Apart created σ) : σ.SingleUse := by
  have orderly : Orderly σ := by
    refine run.invariant ?_ orderly_created
    intro label before after step apart held
    exact held.step step apart
  exact orderly.single

/-! ### Without interleaving, a call is `fn_oauth_token_request` -/

/-- The statements of a call until it has ended. -/
def finish (σ : Logins) (x : Nat) : Nat → Option Logins
  | 0 => none
  | fuel + 1 =>
    match σ.request x with
    | none => some σ
    | some request => (σ.continueRequest x request).bind fun σ => σ.finish x fuel

theorem finish_done {fuel : Nat} (ended : σ.request x = none) : σ.finish x (fuel + 1) = some σ := by
  simp only [finish, ended]

theorem setRequest_request (request : Option TokenRequest) : (σ.setRequest x request).request x = request := by
  simp only [setRequest, Function.update_self]

theorem finish_statement {fuel : Nat} {request : TokenRequest} {after : Logins}
    (done : (σ.setRequest x (some request)).continueRequest x request = some after) :
    (σ.setRequest x (some request)).finish x (fuel + 1) = after.finish x fuel := by
  simp only [finish, setRequest_request, done, Option.bind_some]

theorem setRequest_setRequest (first second : Option TokenRequest) :
    (σ.setRequest x first).setRequest x second = σ.setRequest x second := by
  simp only [setRequest, Function.update_idem]

variable {site : Site} {stateOf : Nat → Option String}

theorem raise_ofSite (request : Option TokenRequest) :
    ((ofSite site stateOf).setRequest x request).raise x = ofSite site stateOf := by
  have idle : Function.update (ofSite site stateOf).request x none = (ofSite site stateOf).request :=
    Function.update_eq_self x _
  have states : (ofSite site stateOf).states.map (fun row => { row with deletedBy := row.deletedBy.filter (· != x) }) =
      (ofSite site stateOf).states := by
    simp [ofSite]
  have calls : (ofSite site stateOf).calls.map (Cell.rollback x) = (ofSite site stateOf).calls := by
    simp only [ofSite, Table.map, List.map_map]
    rfl
  simp only [raise, setRequest, rollback, Function.update_idem, idle, states, calls]

theorem find?_ofSite (state : Option String) :
    (ofSite site stateOf).states.find? (seesState x state) =
      (site.oauthStates.find? fun held => some held.1 == state).map fun held => ⟨held.1, held.2, none⟩ := by
  have sees : (seesState x state ∘ fun held : String × Nat => ⟨held.1, held.2, none⟩) =
      fun held => some held.1 == state := by
    funext held
    simp [seesState]
  rw [ofSite, List.find?_map, sees]

theorem commit_deleted (state : Option String) :
    ((ofSite site stateOf).deleteState x state).states.filter (fun row => row.deletedBy != some x) =
      (site.oauthStates.filter fun held => some held.1 != state).map fun held => ⟨held.1, held.2, none⟩ := by
  simp only [ofSite, deleteState]
  induction site.oauthStates with
  | nil => rfl
  | cons held rest ih =>
    by_cases same : some held.1 = state
    · simpa [same] using ih
    · simpa [same] using ih

/-- What a call leaves that has passed its checks. -/
theorem finish_writes (request : TokenRequest) (exchange : Exchange) :
    ((ofSite site stateOf).setRequest x (some { request with point := .deleteState exchange })).finish x 4 =
      some (ofSite { site with
        db := { site.db with oauthCalls := site.db.oauthCalls.insert (exchangeCall request exchange) }
        oauthStates := site.oauthStates.filter fun held => some held.1 != request.state }
        (Function.update stateOf site.db.oauthCalls.next request.state)) := by
  let turn (point : ExchangePoint) : TokenRequest := { request with point := point }
  let start := ofSite site stateOf
  let deleted := start.deleteState x request.state
  let inserted := deleted.insertCall x request.state (exchangeCall request exchange)
  have unlocked : start.states.all (fun row => some row.state != request.state || row.deletedBy.all (· == x)) = true := by
    simp [start, ofSite]
  have deletes : (start.setRequest x (some (turn (.deleteState exchange)))).continueRequest x
      (turn (.deleteState exchange)) = some (deleted.setRequest x (some (turn (.insertCall exchange)))) :=
    (if_pos unlocked).trans (congrArg some (@setRequest_setRequest deleted x _ _))
  have inserts : (deleted.setRequest x (some (turn (.insertCall exchange)))).continueRequest x
      (turn (.insertCall exchange)) = some (inserted.setRequest x (some (turn .commit))) :=
    congrArg some (@setRequest_setRequest inserted x _ _)
  have commits : (inserted.setRequest x (some (turn .commit))).continueRequest x (turn .commit) =
      some ((inserted.commit x).setRequest x none) :=
    congrArg some (@setRequest_setRequest (inserted.commit x) x _ _)
  rw [finish_statement deletes, finish_statement inserts, finish_statement commits, finish_done (setRequest_request _)]
  have idle : Function.update start.request x none = start.request := Function.update_eq_self x _
  have calls : inserted.calls.map (Cell.commit x) =
      (site.db.oauthCalls.insert (exchangeCall request exchange)).map .stored := by
    refine commits_insert ?_ _
    simp only [deleted, start, Logins.deleteState, ofSite, Table.map, List.map_map]
    rfl
  have states := @commit_deleted x site stateOf request.state
  refine congrArg some ?_
  change Logins.mk start.providers (deleted.states.filter fun row => row.deletedBy != some x)
    (inserted.calls.map (Cell.commit x)) (Function.update stateOf site.db.oauthCalls.next request.state)
    (Function.update start.request x none) = _
  rw [idle, calls, states]
  rfl

/-- A call whose statements are not interleaved with those of others. -/
theorem request_alone (env : WebEnv) (state code redirect : Option String) :
    ((ofSite site stateOf).setRequest x (some ⟨env, state, code, redirect, .findState⟩)).finish x 6 =
      some (match fnOauthTokenRequest env site state code redirect with
        | .ok (_, after) => ofSite after (Function.update stateOf site.db.oauthCalls.next state)
        | .error _ => ofSite site stateOf) := by
  let turn (point : ExchangePoint) : TokenRequest := ⟨env, state, code, redirect, point⟩
  let stands (point : ExchangePoint) : Logins := (ofSite site stateOf).setRequest x (some (turn point))
  have raises {fuel : Nat} {point : ExchangePoint}
      (raised : (stands point).continueRequest x (turn point) = some ((stands point).raise x)) :
      (stands point).finish x (fuel + 2) = some (ofSite site stateOf) := by
    rw [finish_statement raised, raise_ofSite]
    exact finish_done rfl
  have moves {fuel : Nat} {point next : ExchangePoint}
      (moved : (stands point).continueRequest x (turn point) = some ((stands point).goto x (turn point) next)) :
      (stands point).finish x (fuel + 1) = (stands next).finish x fuel := by
    rw [finish_statement moved]
    exact congrArg (finish · x fuel) (setRequest_setRequest _ _)
  have seen := @find?_ofSite x site stateOf state
  unfold fnOauthTokenRequest
  change (stands .findState).finish x 6 = _
  cases found : site.oauthStates.find? fun held => some held.1 == state with
  | none =>
    rw [found] at seen
    exact raises (by simp only [continueRequest, turn, stands, setRequest, seen, Option.map_none])
  | some held =>
    obtain ⟨name, providerId⟩ := held
    rw [found] at seen
    have first : (stands .findState).continueRequest x (turn .findState) =
        some ((stands .findState).goto x (turn .findState) (.findProvider providerId)) := by
      simp only [continueRequest, turn, stands, setRequest, seen, Option.map_some]
    rw [moves first]
    have provider? : (stands (.findProvider providerId)).providers = site.db.providers := rfl
    dsimp only
    cases provided : site.db.providers.get? providerId with
    | none => exact raises (by simp only [continueRequest, turn, provider?, provided])
    | some provider =>
      dsimp only
      rcases tokenUrl : provider.oauthTokenUrl with _ | url
      · exact raises (by simp only [continueRequest, turn, provider?, provided, tokenUrl])
      rcases clientId : provider.oauthClientId with _ | client
      · exact raises (by simp only [continueRequest, turn, provider?, provided, tokenUrl, clientId])
      dsimp only
      cases checked : checkOutboundUrl env.pg (some url) provider.allowPrivateNetwork with
      | some reason =>
        exact raises (by simp only [continueRequest, turn, provider?, provided, tokenUrl, clientId, checked])
      | none =>
        have second : (stands (.findProvider providerId)).continueRequest x (turn (.findProvider providerId)) =
            some ((stands (.findProvider providerId)).goto x (turn (.findProvider providerId))
              (.deleteState ⟨providerId, provider, url, client⟩)) := by
          simp only [continueRequest, turn, provider?, provided, tokenUrl, clientId, checked]
        rw [moves second]
        exact finish_writes (turn .findState) ⟨providerId, provider, url, client⟩

/-! ### Two requests with one state -/

/-- The calls' statements in the given order of backends. -/
def interleave (σ : Logins) : List Nat → Option Logins
  | [] => some σ
  | x :: rest => (σ.request x).bind fun request => (σ.continueRequest x request).bind fun σ => σ.interleave rest

theorem interleave_path {order : List Nat} (done : σ.interleave order = some σ') :
    Path Step (fun _ _ => True) σ σ' := by
  induction order generalizing σ with
  | nil =>
    obtain rfl := Option.some.inj done
    exact .refl
  | cons x rest ih =>
    obtain ⟨request, here, continued⟩ := Option.bind_eq_some_iff.mp done
    obtain ⟨after, statement, others⟩ := Option.bind_eq_some_iff.mp continued
    exact (Path.single (.statement here statement) trivial).trans (ih others)

theorem continueRequest_others (done : σ.continueRequest x request = some σ') (other : y ≠ x) :
    σ'.request y = σ.request y := by
  have moved (σ : Logins) (request : Option TokenRequest) : (σ.setRequest x request).request y = σ.request y :=
    Function.update_of_ne other _ _
  unfold continueRequest at done
  split at done
  · split at done <;> obtain rfl := Option.some.inj done <;> exact moved _ _
  · split at done
    · obtain rfl := Option.some.inj done
      exact moved _ _
    · split at done
      · split at done <;> obtain rfl := Option.some.inj done <;> exact moved _ _
      · obtain rfl := Option.some.inj done
        exact moved _ _
  · split at done
    · obtain rfl := Option.some.inj done
      exact moved _ _
    · cases done
  · obtain rfl := Option.some.inj done
    exact moved _ _
  · obtain rfl := Option.some.inj done
    exact moved _ _

/-- A call that is alone looks for its state alone. -/
theorem finish_path {fuel : Nat} (others : ∀ y, y ≠ x → σ.request y = none) (done : σ.finish x fuel = some σ') :
    Path Step Apart σ σ' := by
  induction fuel generalizing σ with
  | zero => cases done
  | succ fuel ih =>
    cases here : σ.request x with
    | none =>
      rw [finish_done here] at done
      obtain rfl := Option.some.inj done
      exact .refl
    | some request =>
      simp only [finish, here] at done
      obtain ⟨after, statement, rest⟩ := Option.bind_eq_some_iff.mp done
      have apart : Apart (.statement x) σ := by
        intro mine y other _ _ open_ _ _
        by_contra different
        rw [others y different] at open_
        cases open_
      refine (Path.single (.statement here statement) apart).trans (ih ?_ rest)
      intro y other
      rw [continueRequest_others statement other]
      exact others y other

def loginProvider : ProviderRow :=
  ⟨"login", .oauth, "https://llm.example", true, false, .chat, none, false, 0, some "https://login.example/token",
    some "allgres"⟩

/-- A provider, and a login that has been started. -/
def started : Logins :=
  { created with providers := Table.empty.insert loginProvider, states := [⟨"state", 0, none⟩] }

def presents : TokenRequest := ⟨.bare, some "state", some "code", some "https://here.example", .findState⟩

theorem started_path : Path Step Apart created started := by
  have configured : Path Step Apart created { created with providers := Table.empty.insert loginProvider } :=
    .single (.configure _) trivial
  exact configured.trans (.single (.start 0 (fun row member => absurd member List.not_mem_nil) nofun) trivial)

def doubleClick : Logins := (started.setRequest 0 (some presents)).setRequest 1 (some presents)

def isExchange (σ : Logins) (k : Nat) : Bool :=
  σ.stateOf k == some "state" && (σ.calls.get? k).any fun cell => cell.committed.any fun row =>
    row.operation == .tokenExchange

theorem exchanged_of_isExchange (holds : σ.isExchange k = true) : σ.Exchanged "state" k := by
  simp only [isExchange, Bool.and_eq_true, beq_iff_eq, Option.any_eq_true] at holds
  obtain ⟨state, cell, found, row, committed, exchange⟩ := holds
  exact ⟨state, cell, row, found, exchange, .inl committed⟩

/-- Both requests find the state before either deletes it, and the second one deletes nothing. -/
theorem not_state_single_use : ¬ ∀ σ : Logins, Path Step (fun _ _ => True) created σ → σ.SingleUse := by
  intro claimed
  have both : (doubleClick.interleave [0, 1, 0, 1, 0, 0, 0, 1, 1, 1]).any (fun σ =>
      σ.isExchange 0 && σ.isExchange 1) = true := by decide +kernel
  rw [Option.any_eq_true] at both
  obtain ⟨σ, interleaved, exchanges⟩ := both
  rw [Bool.and_eq_true] at exchanges
  have begin : Path Step (fun _ _ => True) created doubleClick :=
    ((started_path.mono fun _ _ _ => trivial).trans (.single (@Step.call started 0 presents rfl rfl) trivial)).trans
      (.single (@Step.call _ 1 presents rfl rfl) trivial)
  have single := claimed σ (begin.trans (interleave_path interleaved))
  cases single "state" 0 1 (exchanged_of_isExchange exchanges.1) (exchanged_of_isExchange exchanges.2)

theorem state_single_use_login : ∃ σ : Logins, σ.isExchange 0 = true ∧ σ.SingleUse := by
  have one : ((started.setRequest 0 (some presents)).finish 0 6).any (fun σ => σ.isExchange 0) = true := by
    decide +kernel
  rw [Option.any_eq_true] at one
  obtain ⟨σ, finished, exchange⟩ := one
  have begin : Path Step Apart created (started.setRequest 0 (some presents)) :=
    started_path.trans (.single (@Step.call started 0 presents rfl rfl) trivial)
  have continued := finish_path (fun y other => Function.update_of_ne other _ _) finished
  exact ⟨σ, exchange, state_single_use (begin.trans continued)⟩

end Allgres.Logins
