import Allgres.Protocol.Calls

namespace Allgres

namespace Flow

variable {ρ : Type} {σ σ' : Flow ρ}

/-- Queues whose calls the cancellation and the turn timeout retire. -/
def swept (k : CallKey) : Prop := k.1 = .outbound ∨ k.1 = .sql

/-- A timed-out or cancelled task has no call outside the swept queues. -/
def SweepsAll : Event → Flow ρ → Prop
  | .timeout t, σ => ∀ k, σ.Holds t k → swept k
  | .cancel s, σ => ∀ t view k, σ.task t = some view → view.session = s → view.status.terminal = false →
      σ.Holds t k → swept k
  | _, _ => True

theorem NoLeftover.shrink (clean : NoLeftover σ) (shrinks : Shrinks σ σ') (task : σ'.task = σ.task) :
    NoLeftover σ' := by
  intro t k view held
  rw [task]
  exact clean t k view (shrinks.holds held)

theorem NoLeftover.congr (clean : NoLeftover σ) (call : σ'.call = σ.call) (task : σ'.task = σ.task) :
    NoLeftover σ' :=
  clean.shrink (.ofCallEq call) task

theorem NoLeftover.setTask (clean : NoLeftover σ) (t : Nat) (new : TaskView ρ)
    (fits : σ.Free t ∨ new.status.terminal = false) : NoLeftover (σ.setTask t new) := by
  intro other k view held now
  by_cases same : other = t
  · subst same
    rw [setTask_self, Option.some.injEq] at now
    rw [← now]
    exact fits.resolve_left fun free => free_iff.mp free k held
  · rw [setTask_other new same] at now
    exact clean other k view held now

theorem NoLeftover.addTask (clean : NoLeftover σ) {t : Nat} (view : TaskView ρ) (queued : view.status = .queued) :
    NoLeftover (σ.addTask t view) := by
  intro other k row held now
  by_cases same : other = t
  · subst same
    rw [addTask_self, Option.some.injEq] at now
    rw [← now, queued]
    rfl
  · rw [addTask_other view same] at now
    exact clean other k row held now

theorem NoLeftover.addCall (clean : NoLeftover σ) {k : CallKey} {t : Nat} {view : TaskView ρ} (llm : Bool)
    (fresh : σ.call k = none) (found : σ.task t = some view) (running : view.status = .running) :
    NoLeftover (σ.addCall k t llm) := by
  intro other k' row held now
  rw [addCall_holds fresh] at held
  rcases held with ⟨rfl, rfl⟩ | old
  · rw [show (σ.addCall k' other llm).task other = σ.task other from rfl, found, Option.some.injEq] at now
    rw [← now, running]
    rfl
  · exact clean other k' row old now

theorem Effect.noLeftover {t : Nat} {view : TaskView ρ} (effect : Effect t view σ σ')
    (found : σ.task t = some view) (running : view.status = .running) (free : σ.Free t) (clean : NoLeftover σ) :
    NoLeftover σ' := by
  cases effect with
  | proceed => exact clean.setTask t _ (.inl free)
  | fail steps result counted closes => exact (clean.setTask t _ (.inl free)).congr closes.call closes.task
  | complete result closes => exact (clean.setTask t _ (.inl free)).congr closes.call closes.task
  | queue k fresh =>
    exact (clean.addCall false fresh found running).setTask t _ (.inr (by rw [running]; rfl))
  | spawn child blank fresh apart => exact (clean.addTask _ rfl).setTask t _ (.inl (free.congr rfl))
  | handOff child blank result fresh apart => exact (clean.addTask _ rfl).setTask t _ (.inl (free.congr rfl))
  | pause a fresh =>
    have written := clean.setTask t { view with status := .waitingHuman, steps := view.steps + 1 } (.inl free)
    exact written.congr rfl rfl
  | park => exact clean.setTask t _ (.inl free)

/-- The sweep frees a task whose calls are all in the swept queues. -/
theorem loseHttpAndSql_free {t : Nat} (sweeps : ∀ k, σ.Holds t k → swept k) :
    (σ.loseHttpAndSql (· = t)).Free t := by
  rw [free_iff]
  intro k held
  have inQueue := sweeps k ((loseHttpAndSql_shrinks (· = t)).holds held)
  obtain ⟨view, now, belongs, outstanding⟩ := held
  simp only [loseHttpAndSql, Option.map_eq_some_iff] at now
  obtain ⟨old, before, rfl⟩ := now
  split at belongs
  · rename_i lost
    rw [if_pos lost] at outstanding
    cases outstanding
  · rename_i kept
    rw [if_neg kept] at outstanding
    exact kept ⟨inQueue, belongs, outstanding⟩

theorem cancelled_free {s t : Nat} {finish : ρ → ρ} {live : List Nat} {view : TaskView ρ}
    (found : σ.task t = some view) (belongs : view.session = s) (sweeps : ∀ k, σ.Holds t k → swept k) :
    (σ.cancelled s finish live).Free t := by
  rw [free_iff]
  intro k held
  have inQueue := sweeps k ((cancelled_shrinks s finish live).holds held)
  obtain ⟨call, now, owner, outstanding⟩ := held
  simp only [cancelled, Option.map_eq_some_iff] at now
  obtain ⟨old, before, rfl⟩ := now
  split at owner
  · rename_i lost
    rw [if_pos lost] at outstanding
    cases outstanding
  · rename_i kept
    rw [if_neg kept] at outstanding
    exact kept ⟨inQueue, ⟨view, by rw [owner]; exact found, belongs⟩, outstanding⟩

/-- Under `SweepsAll`, terminal tasks leave nothing outstanding. -/
theorem Move.noLeftover {event : Event} (move : Move event σ σ') (rests : Rests event σ)
    (sweeps : SweepsAll event σ) (calls : Calls σ) (clean : NoLeftover σ) : NoLeftover σ' := by
  cases move with
  | create s t blank newSession fresh =>
    have opened : NoLeftover (σ.setSession s .opened) := clean.congr rfl rfl
    exact opened.addTask _ rfl
  | reopen s t blank known fresh =>
    have opened : NoLeftover (σ.setSession s .opened) := clean.congr rfl rfl
    exact opened.addTask _ rfl
  | start t found queued => exact clean.setTask t _ (.inr rfl)
  | dispatch t limit k found running free below fresh => exact clean.addCall true fresh found running
  | report t found running effect => exact effect.noLeftover found running rests clean
  | claim k found queued _ _ => exact clean.shrink (setCall_shrinks found (by rw [queued]; rfl) .inFlight) rfl
  | discard k status found inFlight retired _ =>
    exact clean.shrink (setCall_shrinks found (by rw [inFlight]; rfl) status) rfl
  | @settle _ _ call _ k status found inFlight retired owner running effect =>
    have outstanding : call.status.outstanding = true := by rw [inFlight]; rfl
    have free := calls.free_of_retired found outstanding (done_of_retired retired)
    have retiredFirst := clean.shrink (setCall_shrinks found outstanding status) rfl
    exact effect.noLeftover owner running (free.congr rfl) (retiredFirst.congr rfl rfl)
  | @swallow _ call _ k status found inFlight retired owner running =>
    have outstanding : call.status.outstanding = true := by rw [inFlight]; rfl
    have retiredFirst := clean.shrink (setCall_shrinks found outstanding status) rfl
    exact retiredFirst.congr rfl rfl
  | @ambiguous _ call view k a found inFlight _ owner running _ =>
    have outstanding : call.status.outstanding = true := by rw [inFlight]; rfl
    have retiredFirst := clean.shrink (setCall_shrinks found outstanding .lost) rfl
    have written := retiredFirst.setTask call.task { view with status := .waitingHuman } (.inr rfl)
    exact written.congr rfl rfl
  | approve a t pending found waiting =>
    have decided : NoLeftover (σ.setApproval a ⟨t, .approved⟩) := clean.congr rfl rfl
    exact decided.setTask t _ (.inr rfl)
  | reject a t result pending found waiting closes =>
    have free := calls.free_of_idle found (by rw [waiting]; decide) (by rw [waiting]; rfl)
    have decided : NoLeftover (σ.setApproval a ⟨t, .rejected⟩) := clean.congr rfl rfl
    exact (decided.setTask t _ (.inl (free.congr rfl))).congr closes.call closes.task
  | decideStale => exact clean.congr rfl rfl
  | @timeout _ _ view t result found active closes =>
    have free : (σ.loseHttpAndSql (· = t)).Free t := loseHttpAndSql_free sweeps
    have lost := clean.shrink (loseHttpAndSql_shrinks (· = t)) rfl
    have written := lost.setTask t { view with status := .failed, steps := view.steps + 1, result := result }
      (.inl free)
    exact written.congr closes.call closes.task
  | wake t found waiting done => exact clean.setTask t _ (.inr rfl)
  | cancel s finish live known nodup exactly =>
    intro t k row held now
    have before := (cancelled_shrinks s finish live).holds held
    simp only [cancelled, Option.map_eq_some_iff] at now
    obtain ⟨view, found, rfl⟩ := now
    split
    · rename_i member
      obtain ⟨stopped, foundAgain, belongs, running⟩ := (exactly t).mp member
      have free : (σ.cancelled s finish live).Free t :=
        cancelled_free foundAgain belongs fun k' held' => sweeps t stopped k' foundAgain belongs running held'
      exact absurd held (free_iff.mp free k)
    · exact clean t k view before found

end Flow

end Allgres
