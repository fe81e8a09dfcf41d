import Allgres.Protocol.Tasks

namespace Allgres

namespace Flow

variable {ρ : Type} {σ σ' : Flow ρ}

/-- The call `k` of the task is queued or in flight. -/
def Holds (σ : Flow ρ) (t : Nat) (k : CallKey) : Prop :=
  ∃ view, σ.call k = some view ∧ view.task = t ∧ view.status.outstanding = true

/-- Calls belong to tasks. A task has at most one outstanding call, and none
while it is queued or waits. A call that was submitted is retired for good. -/
structure Calls (σ : Flow ρ) : Prop where
  owner : ∀ k view, σ.call k = some view → σ.task view.task ≠ none
  single : ∀ t k k', σ.Holds t k → σ.Holds t k' → k = k'
  engaged : ∀ t k view, σ.Holds t k → σ.task t = some view → view.status = .running ∨ view.status.terminal = true
  retired : ∀ k ∈ σ.submits, ∃ view, σ.call k = some view ∧ view.status.outstanding = false
  once : σ.submits.Nodup

/-- No terminal task has an outstanding call. -/
def NoLeftover (σ : Flow ρ) : Prop :=
  ∀ t k view, σ.Holds t k → σ.task t = some view → view.status.terminal = false

theorem free_iff {t : Nat} : σ.Free t ↔ ∀ k, ¬ σ.Holds t k := by
  constructor
  · rintro free k ⟨view, found, belongs, outstanding⟩
    rw [free k view found belongs] at outstanding
    cases outstanding
  · intro none k view found belongs
    by_contra outstanding
    exact none k ⟨view, found, belongs, by simpa using outstanding⟩

theorem Free.congr {t : Nat} (free : σ.Free t) (call : σ'.call = σ.call) : σ'.Free t := by
  intro k view found
  rw [call] at found
  exact free k view found

/-- The rows of `σ'` are those of `σ`, none of them taken up again. -/
structure Shrinks (σ σ' : Flow ρ) : Prop where
  from_old : ∀ k view, σ'.call k = some view → ∃ old, σ.call k = some old ∧ view.task = old.task ∧
    (view.status.outstanding = true → old.status.outstanding = true)
  to_new : ∀ k old, σ.call k = some old → ∃ view, σ'.call k = some view ∧
    (old.status.outstanding = false → view.status.outstanding = false)

theorem Shrinks.holds (shrinks : Shrinks σ σ') {t : Nat} {k : CallKey} (held : σ'.Holds t k) : σ.Holds t k := by
  obtain ⟨view, found, belongs, outstanding⟩ := held
  obtain ⟨old, before, task, still⟩ := shrinks.from_old k view found
  exact ⟨old, before, task.symm.trans belongs, still outstanding⟩

theorem Calls.shrink (calls : Calls σ) (shrinks : Shrinks σ σ') (task : σ'.task = σ.task)
    (submits : σ'.submits = σ.submits) : Calls σ' where
  owner := by
    intro k view found
    obtain ⟨old, before, belongs, -⟩ := shrinks.from_old k view found
    rw [task, belongs]
    exact calls.owner k old before
  single t k k' held held' := calls.single t k k' (shrinks.holds held) (shrinks.holds held')
  engaged := by
    intro t k view held
    rw [task]
    exact calls.engaged t k view (shrinks.holds held)
  retired := by
    intro k member
    rw [submits] at member
    obtain ⟨old, before, done⟩ := calls.retired k member
    obtain ⟨view, found, stays⟩ := shrinks.to_new k old before
    exact ⟨view, found, stays done⟩
  once := by rw [submits]; exact calls.once

theorem Shrinks.ofCallEq (call : σ'.call = σ.call) : Shrinks σ σ' where
  from_old k view found := ⟨view, by rw [← call]; exact found, rfl, id⟩
  to_new k old found := ⟨old, by rw [call]; exact found, id⟩

theorem Calls.congr (calls : Calls σ) (call : σ'.call = σ.call) (task : σ'.task = σ.task)
    (submits : σ'.submits = σ.submits) : Calls σ' :=
  calls.shrink (.ofCallEq call) task submits

/-- A write to a task that keeps its call, or has none. -/
theorem Calls.setTask (calls : Calls σ) (t : Nat) (new : TaskView ρ)
    (fits : σ.Free t ∨ new.status = .running ∨ new.status.terminal = true) : Calls (σ.setTask t new) where
  owner := by
    intro k view found
    by_cases same : view.task = t
    · rw [same, setTask_self]; simp
    · rw [setTask_other new same]; exact calls.owner k view found
  single := calls.single
  engaged := by
    intro other k view held now
    by_cases same : other = t
    · subst same
      rw [setTask_self, Option.some.injEq] at now
      rw [← now]
      rcases fits with free | running
      · exact absurd held (free_iff.mp free k)
      · exact running
    · rw [setTask_other new same] at now
      exact calls.engaged other k view held now
  retired := calls.retired
  once := calls.once

theorem Calls.addTask (calls : Calls σ) {t : Nat} (view : TaskView ρ) (fresh : σ.task t = none) :
    Calls (σ.addTask t view) where
  owner := by
    intro k call found
    by_cases same : call.task = t
    · rw [same, addTask_self]; simp
    · rw [addTask_other view same]; exact calls.owner k call found
  single := calls.single
  engaged := by
    intro other k row held now
    by_cases same : other = t
    · subst same
      obtain ⟨call, found, belongs, -⟩ := held
      have owned := calls.owner k call found
      rw [belongs, fresh] at owned
      cases owned rfl
    · rw [addTask_other view same] at now
      exact calls.engaged other k row held now
  retired := calls.retired
  once := calls.once

theorem addCall_holds {k : CallKey} {t : Nat} {llm : Bool} (fresh : σ.call k = none) {other : Nat} {k' : CallKey} :
    (σ.addCall k t llm).Holds other k' ↔ (k' = k ∧ other = t) ∨ σ.Holds other k' := by
  unfold Holds
  by_cases same : k' = k
  · subst same
    simp only [addCall, fresh, Function.update_self, Option.some.injEq, exists_eq_left', CallStatus.outstanding,
      and_true, true_and, reduceCtorEq, false_and, exists_false, or_false]
    exact eq_comm
  · simp [addCall, same]

/-- A new call for a running task that has none. -/
theorem Calls.addCall (calls : Calls σ) {k : CallKey} {t : Nat} {view : TaskView ρ} (llm : Bool)
    (fresh : σ.call k = none) (free : σ.Free t) (found : σ.task t = some view) (running : view.status = .running) :
    Calls (σ.addCall k t llm) where
  owner := by
    intro k' call now
    by_cases same : k' = k
    · subst same
      simp only [Flow.addCall, Function.update_self, Option.some.injEq] at now
      rw [← now, show (σ.addCall k' t llm).task t = σ.task t from rfl, found]
      simp
    · simp only [Flow.addCall, Function.update_of_ne same] at now
      exact calls.owner k' call now
  single := by
    intro other k₁ k₂ held₁ held₂
    rw [addCall_holds fresh] at held₁ held₂
    rcases held₁ with ⟨rfl, rfl⟩ | old₁
    · rcases held₂ with ⟨rfl, -⟩ | old₂
      · rfl
      · exact absurd old₂ (free_iff.mp free k₂)
    · rcases held₂ with ⟨rfl, rfl⟩ | old₂
      · exact absurd old₁ (free_iff.mp free k₁)
      · exact calls.single other k₁ k₂ old₁ old₂
  engaged := by
    intro other k' row held now
    rw [addCall_holds fresh] at held
    rcases held with ⟨rfl, rfl⟩ | old
    · rw [show (σ.addCall k' other llm).task other = σ.task other from rfl, found, Option.some.injEq] at now
      rw [← now]
      exact .inl running
    · exact calls.engaged other k' row old now
  retired := by
    intro k' member
    obtain ⟨call, before, done⟩ := calls.retired k' member
    have different : k' ≠ k := by
      intro same
      rw [same, fresh] at before
      cases before
    exact ⟨call, by simpa [Flow.addCall, different] using before, done⟩
  once := calls.once

/-- An outstanding call that changes its status. -/
theorem setCall_shrinks {k : CallKey} {call : CallView} (found : σ.call k = some call)
    (outstanding : call.status.outstanding = true) (status : CallStatus) :
    Shrinks σ (σ.setCall k { call with status := status }) where
  from_old := by
    intro k' view now
    by_cases same : k' = k
    · subst same
      simp only [setCall, Function.update_self, Option.some.injEq] at now
      subst now
      exact ⟨call, found, rfl, fun _ => outstanding⟩
    · simp only [setCall, Function.update_of_ne same] at now
      exact ⟨view, now, rfl, id⟩
  to_new := by
    intro k' old before
    by_cases same : k' = k
    · subst same
      rw [found, Option.some.injEq] at before
      subst before
      refine ⟨{ call with status := status }, by simp [setCall], ?_⟩
      rw [outstanding]
      intro impossible
      cases impossible
    · exact ⟨old, by simpa [setCall, same] using before, id⟩

/-- The retired call was the only one its task had. -/
theorem Calls.free_of_retired (calls : Calls σ) {k : CallKey} {call : CallView} {status : CallStatus}
    (found : σ.call k = some call) (outstanding : call.status.outstanding = true)
    (done : status.outstanding = false) : (σ.setCall k { call with status := status }).Free call.task := by
  rw [free_iff]
  intro k' held
  have before := (setCall_shrinks found outstanding status).holds held
  have same : k' = k := calls.single call.task k' k before ⟨call, found, rfl, outstanding⟩
  obtain ⟨view, now, -, still⟩ := held
  subst same
  simp only [setCall, Function.update_self, Option.some.injEq] at now
  subst now
  rw [done] at still
  cases still

/-- Retiring a call in flight and submitting its result. -/
theorem Calls.submit (calls : Calls σ) {k : CallKey} {call : CallView} {status : CallStatus}
    (found : σ.call k = some call) (inFlight : call.status = .inFlight) (done : status.outstanding = false) :
    Calls ((σ.setCall k { call with status := status }).submitted k) := by
  have outstanding : call.status.outstanding = true := by rw [inFlight]; rfl
  have retiredFirst := calls.shrink (setCall_shrinks found outstanding status) rfl rfl
  have unsubmitted : k ∉ σ.submits := by
    intro member
    obtain ⟨view, before, settled⟩ := calls.retired k member
    rw [found, Option.some.injEq] at before
    rw [← before, outstanding] at settled
    cases settled
  refine ⟨retiredFirst.owner, retiredFirst.single, retiredFirst.engaged, ?_, ?_⟩
  · intro k' member
    rcases List.mem_append.mp member with earlier | last
    · exact retiredFirst.retired k' earlier
    · rw [List.mem_singleton.mp last]
      exact ⟨{ call with status := status }, by simp [submitted, setCall], done⟩
  · show (σ.submits ++ [k]).Nodup
    rw [List.nodup_append]
    refine ⟨calls.once, by simp, ?_⟩
    intro a member b last same
    rw [List.mem_singleton.mp last] at same
    rw [same] at member
    exact unsubmitted member

theorem done_of_retired {status : CallStatus} (retired : status = .harvested ∨ status = .lost) :
    status.outstanding = false := by
  rcases retired with rfl | rfl <;> rfl

theorem Effect.calls {t : Nat} {view : TaskView ρ} (effect : Effect t view σ σ') (found : σ.task t = some view)
    (running : view.status = .running) (free : σ.Free t) (calls : Calls σ) : Calls σ' := by
  cases effect with
  | proceed => exact calls.setTask t _ (.inl free)
  | fail steps result counted closes =>
    exact (calls.setTask t _ (.inl free)).congr closes.call closes.task closes.submits
  | complete result closes => exact (calls.setTask t _ (.inl free)).congr closes.call closes.task closes.submits
  | queue k fresh => exact (calls.addCall false fresh free found running).setTask t _ (.inr (.inl running))
  | spawn child blank fresh apart => exact (calls.addTask _ fresh).setTask t _ (.inl (free.congr rfl))
  | handOff child blank result fresh apart => exact (calls.addTask _ fresh).setTask t _ (.inl (free.congr rfl))
  | pause a fresh =>
    have written := calls.setTask t { view with status := .waitingHuman, steps := view.steps + 1 } (.inl free)
    exact written.congr rfl rfl rfl
  | park => exact calls.setTask t _ (.inl free)

theorem loseHttpAndSql_shrinks (cond : Nat → Prop) [DecidablePred cond] : Shrinks σ (σ.loseHttpAndSql cond) where
  from_old := by
    intro k view now
    simp only [loseHttpAndSql, Option.map_eq_some_iff] at now
    obtain ⟨old, before, rfl⟩ := now
    refine ⟨old, before, ?_, ?_⟩
    · split <;> rfl
    · split
      · intro impossible; cases impossible
      · exact id
  to_new := by
    intro k old before
    simp only [loseHttpAndSql, before, Option.map_some, Option.some.injEq, exists_eq_left']
    split
    · intro; rfl
    · exact id

theorem cancelled_shrinks (s : Nat) (finish : ρ → ρ) (live : List Nat) : Shrinks σ (σ.cancelled s finish live) where
  from_old := by
    intro k view now
    simp only [cancelled, Option.map_eq_some_iff] at now
    obtain ⟨old, before, rfl⟩ := now
    refine ⟨old, before, ?_, ?_⟩
    · split <;> rfl
    · split
      · intro impossible; cases impossible
      · exact id
  to_new := by
    intro k old before
    simp only [cancelled, before, Option.map_some, Option.some.injEq, exists_eq_left']
    split
    · intro; rfl
    · exact id

/-- A cancellation ends tasks, so it leaves no task waiting with a call. -/
theorem Calls.cancelled (calls : Calls σ) (s : Nat) (finish : ρ → ρ) (live : List Nat) :
    Calls (σ.cancelled s finish live) := by
  have shrinks := cancelled_shrinks (σ := σ) s finish live
  refine ⟨?_, ?_, ?_, ?_, calls.once⟩
  · intro k view found
    obtain ⟨old, before, belongs, -⟩ := shrinks.from_old k view found
    have owned := calls.owner k old before
    simpa [Flow.cancelled, belongs] using owned
  · intro t k k' held held'
    exact calls.single t k k' (shrinks.holds held) (shrinks.holds held')
  · intro t k row held now
    simp only [Flow.cancelled, Option.map_eq_some_iff] at now
    obtain ⟨view, found, rfl⟩ := now
    split
    · exact .inr rfl
    · exact calls.engaged t k view (shrinks.holds held) found
  · intro k member
    obtain ⟨old, before, done⟩ := calls.retired k member
    obtain ⟨view, found, stays⟩ := shrinks.to_new k old before
    exact ⟨view, found, stays done⟩

/-- A waiting or queued task has no call to lose. -/
theorem Calls.free_of_idle (calls : Calls σ) {t : Nat} {view : TaskView ρ} (found : σ.task t = some view)
    (notRunning : view.status ≠ .running) (live : view.status.terminal = false) : σ.Free t := by
  rw [free_iff]
  intro k held
  rcases calls.engaged t k view held found with running | ended
  · exact notRunning running
  · rw [live] at ended
    cases ended

/-- A submission that settles no call finds none of its task outstanding. -/
def Rests : Event → Flow ρ → Prop
  | .report t, σ => σ.Free t
  | _, _ => True

theorem Move.calls {event : Event} (move : Move event σ σ') (rests : Rests event σ) (calls : Calls σ) :
    Calls σ' := by
  cases move with
  | create s t blank newSession fresh =>
    have opened : Calls (σ.setSession s .opened) := calls.congr rfl rfl rfl
    exact opened.addTask _ fresh
  | reopen s t blank known fresh =>
    have opened : Calls (σ.setSession s .opened) := calls.congr rfl rfl rfl
    exact opened.addTask _ fresh
  | start t found queued => exact calls.setTask t _ (.inr (.inl rfl))
  | dispatch t limit k found running free below fresh => exact calls.addCall true fresh free found running
  | report t found running effect => exact effect.calls found running rests calls
  | claim k found queued _ _ =>
    exact calls.shrink (setCall_shrinks found (by rw [queued]; rfl) .inFlight) rfl rfl
  | discard k status found inFlight retired _ =>
    exact calls.shrink (setCall_shrinks found (by rw [inFlight]; rfl) status) rfl rfl
  | settle k status found inFlight retired owner running effect =>
    have done := done_of_retired retired
    have free := calls.free_of_retired found (by rw [inFlight]; rfl) done
    exact effect.calls owner running (free.congr rfl) (calls.submit found inFlight done)
  | swallow k status found inFlight retired owner running =>
    exact calls.submit found inFlight (done_of_retired retired)
  | @ambiguous _ call view k a found inFlight _ owner running _ =>
    have outstanding : call.status.outstanding = true := by rw [inFlight]; rfl
    have retired := calls.shrink (setCall_shrinks found outstanding .lost) rfl rfl
    have free := calls.free_of_retired found outstanding (done_of_retired (.inr rfl))
    have written := retired.setTask call.task { view with status := .waitingHuman } (.inl free)
    exact written.congr rfl rfl rfl
  | approve a t pending found waiting =>
    have free := calls.free_of_idle found (by rw [waiting]; decide) (by rw [waiting]; rfl)
    have decided : Calls (σ.setApproval a ⟨t, .approved⟩) := calls.congr rfl rfl rfl
    exact decided.setTask t _ (.inl (free.congr rfl))
  | reject a t result pending found waiting closes =>
    have decided : Calls (σ.setApproval a ⟨t, .rejected⟩) := calls.congr rfl rfl rfl
    exact (decided.setTask t _ (.inr (.inr rfl))).congr closes.call closes.task closes.submits
  | decideStale => exact calls.congr rfl rfl rfl
  | @timeout _ _ view t result found active closes =>
    have written := calls.setTask t { view with status := .failed, steps := view.steps + 1, result := result }
      (.inr (.inr rfl))
    have lost := written.shrink (loseHttpAndSql_shrinks (· = t)) rfl rfl
    exact lost.congr closes.call closes.task closes.submits
  | wake t found waiting done =>
    have free := calls.free_of_idle found (by rw [waiting]; decide) (by rw [waiting]; rfl)
    exact calls.setTask t _ (.inl free)
  | cancel s finish live known nodup exactly => exact calls.cancelled s finish live

end Flow

end Allgres
