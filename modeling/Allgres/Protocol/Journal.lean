import Allgres.Protocol.Tasks
import Mathlib.Data.List.Induction

namespace Allgres

/-- The status a task has after the given writes; it was inserted as `queued`. -/
def replay (journal : List StatusWrite) (t : Nat) : TaskStatus :=
  journal.foldl (fun status write => if write.task = t then write.new else status) .queued

/-- Every write starts from the status that the earlier ones left and is an edge. -/
inductive Lawful : List StatusWrite → Prop
  | nil : Lawful []
  | snoc {journal : List StatusWrite} {write : StatusWrite} : Lawful journal →
      replay journal write.task = write.old → Flow.edge write.old write.new = true → Lawful (journal ++ [write])

theorem replay_snoc (journal : List StatusWrite) (write : StatusWrite) (t : Nat) :
    replay (journal ++ [write]) t = if write.task = t then write.new else replay journal t := by
  simp [replay]

theorem Lawful.edge {journal : List StatusWrite} (lawful : Lawful journal) {write : StatusWrite}
    (member : write ∈ journal) : Flow.edge write.old write.new = true := by
  induction lawful with
  | nil => cases member
  | snoc previous old allowed ih =>
    rcases List.mem_append.mp member with earlier | last
    · exact ih earlier
    · rw [List.mem_singleton.mp last]
      exact allowed

namespace Flow

variable {ρ : Type} {σ σ' : Flow ρ}

/-- The journal is lawful and ends in the present statuses. -/
structure Recorded (σ : Flow ρ) : Prop where
  lawful : Lawful σ.journal
  current : ∀ t view, σ.task t = some view → replay σ.journal t = view.status
  absent : ∀ t, σ.task t = none → replay σ.journal t = .queued

/-- Only the tasks and the journal matter. -/
theorem Recorded.congr (recorded : Recorded σ) (task : σ'.task = σ.task) (journal : σ'.journal = σ.journal) :
    Recorded σ' where
  lawful := by rw [journal]; exact recorded.lawful
  current := by rw [task, journal]; exact recorded.current
  absent := by rw [task, journal]; exact recorded.absent

theorem Recorded.setTask (recorded : Recorded σ) {t : Nat} {old : TaskView ρ} (new : TaskView ρ) (found : σ.task t = some old)
    (allowed : new.status = old.status ∨ edge old.status new.status = true) : Recorded (σ.setTask t new) := by
  have known : ∀ other, other ≠ t → (σ.setTask t new).task other = σ.task other := fun _ => setTask_other new
  rcases Decidable.eq_or_ne old.status new.status with same | different
  · have journal : (σ.setTask t new).journal = σ.journal := by simp [Flow.setTask, statusChange, found, same]
    refine ⟨by rw [journal]; exact recorded.lawful, ?_, ?_⟩
    · intro other view now
      rw [journal]
      by_cases here : other = t
      · subst here
        rw [setTask_self, Option.some.injEq] at now
        rw [recorded.current other old found, ← now, same]
      · rw [known other here] at now
        exact recorded.current other view now
    · intro other now
      rw [journal]
      by_cases here : other = t
      · subst here; rw [setTask_self] at now; cases now
      · rw [known other here] at now
        exact recorded.absent other now
  · have journal : (σ.setTask t new).journal = σ.journal ++ [⟨t, old.status, new.status⟩] := by
      simp [Flow.setTask, statusChange, found, different]
    have step : edge old.status new.status = true := allowed.resolve_left fun same => different same.symm
    refine ⟨by rw [journal]; exact .snoc recorded.lawful (recorded.current t old found) step, ?_, ?_⟩
    · intro other view now
      rw [journal, replay_snoc]
      by_cases here : other = t
      · subst here
        rw [setTask_self, Option.some.injEq] at now
        rw [if_pos rfl, now]
      · rw [known other here] at now
        rw [if_neg fun same => here same.symm]
        exact recorded.current other view now
    · intro other now
      rw [journal, replay_snoc]
      by_cases here : other = t
      · subst here; rw [setTask_self] at now; cases now
      · rw [known other here] at now
        rw [if_neg fun same => here same.symm]
        exact recorded.absent other now

theorem Recorded.addTask (recorded : Recorded σ) {t : Nat} (view : TaskView ρ) (fresh : σ.task t = none)
    (queued : view.status = .queued) : Recorded (σ.addTask t view) := by
  refine ⟨recorded.lawful, ?_, ?_⟩
  · intro other row now
    by_cases here : other = t
    · subst here
      rw [addTask_self, Option.some.injEq] at now
      rw [← now, queued]
      exact recorded.absent other fresh
    · rw [addTask_other view here] at now
      exact recorded.current other row now
  · intro other now
    by_cases here : other = t
    · subst here; rw [addTask_self] at now; cases now
    · rw [addTask_other view here] at now
      exact recorded.absent other now

/-- The writes of a cancellation, one for each task that it stops. -/
theorem cancel_writes (recorded : Recorded σ) {live : List Nat} (nodup : live.Nodup)
    (stopped : ∀ t ∈ live, ∃ view, σ.task t = some view ∧ view.status.terminal = false) :
    Lawful (σ.journal ++ live.flatMap fun t => σ.statusChange t .cancelled) ∧
      ∀ t, replay (σ.journal ++ live.flatMap fun t => σ.statusChange t .cancelled) t =
        if t ∈ live then .cancelled else replay σ.journal t := by
  induction live using List.reverseRecOn with
  | nil => simpa using recorded.lawful
  | append_singleton earlier last ih =>
    obtain ⟨first, unvisited⟩ := List.nodup_append.mp nodup |>.imp_right fun rest => rest.2
    have notEarlier : last ∉ earlier := fun member => unvisited last member last (by simp) rfl
    obtain ⟨lawful, statuses⟩ := ih first fun t member => stopped t (by simp [member])
    obtain ⟨view, found, running⟩ := stopped last (by simp)
    have different : view.status ≠ .cancelled := by
      intro same
      rw [same] at running
      cases running
    have change : σ.statusChange last .cancelled = [⟨last, view.status, .cancelled⟩] := by
      simp [statusChange, found, different]
    simp only [List.flatMap_append, List.flatMap_cons, List.flatMap_nil, List.append_nil, change]
    rw [← List.append_assoc]
    constructor
    · refine .snoc lawful ?_ ?_
      · rw [statuses last, if_neg notEarlier]
        exact recorded.current last view found
      · cases now : view.status <;> simp_all [edge, TaskStatus.terminal]
    · intro t
      rw [replay_snoc, statuses t]
      by_cases here : last = t
      · subst here; simp
      · simp [here, eq_comm]

theorem Effect.recorded {t : Nat} {view : TaskView ρ} (effect : Effect t view σ σ') (found : σ.task t = some view)
    (running : view.status = .running) (recorded : Recorded σ) : Recorded σ' := by
  cases effect with
  | proceed => exact recorded.setTask _ found (.inl rfl)
  | fail steps result counted closes =>
    have written := recorded.setTask { view with status := .failed, steps := steps, result := result } found
      (.inr (by rw [running]; rfl))
    exact written.congr closes.task closes.journal
  | complete result closes =>
    have written := recorded.setTask { view with status := .completed, steps := view.steps + 1, result := result } found
      (.inr (by rw [running]; rfl))
    exact written.congr closes.task closes.journal
  | queue k fresh =>
    have called : Recorded (σ.addCall k t false) := recorded.congr rfl rfl
    exact called.setTask _ found (.inl rfl)
  | spawn child blank fresh apart =>
    have born := recorded.addTask ⟨view.session, some t, .queued, 0, blank⟩ fresh rfl
    have kept := (addTask_other ⟨view.session, some t, .queued, 0, blank⟩ apart.symm).trans found
    exact born.setTask _ kept (.inl rfl)
  | handOff child blank result fresh apart =>
    have born := recorded.addTask ⟨view.session, some t, .queued, 0, blank⟩ fresh rfl
    have kept := (addTask_other ⟨view.session, some t, .queued, 0, blank⟩ apart.symm).trans found
    exact born.setTask _ kept (.inr (by rw [running]; rfl))
  | pause a fresh =>
    have written := recorded.setTask { view with status := .waitingHuman, steps := view.steps + 1 } found
      (.inr (by rw [running]; rfl))
    exact written.congr rfl rfl
  | park => exact recorded.setTask _ found (.inr (by rw [running]; rfl))

theorem Move.recorded {event : Event} (move : Move event σ σ') (recorded : Recorded σ) : Recorded σ' := by
  cases move with
  | create s t blank newSession fresh =>
    have opened : Recorded (σ.setSession s .opened) := recorded.congr rfl rfl
    exact opened.addTask _ fresh rfl
  | reopen s t blank known fresh =>
    have opened : Recorded (σ.setSession s .opened) := recorded.congr rfl rfl
    exact opened.addTask _ fresh rfl
  | start t found queued => exact recorded.setTask _ found (.inr (by rw [queued]; rfl))
  | dispatch => exact recorded.congr rfl rfl
  | report t found running effect => exact effect.recorded found running recorded
  | claim => exact recorded.congr rfl rfl
  | discard => exact recorded.congr rfl rfl
  | settle k status _ _ _ found running effect => exact effect.recorded found running (recorded.congr rfl rfl)
  | swallow => exact recorded.congr rfl rfl
  | @ambiguous _ call view k a _ _ _ found running _ =>
    have retired : Recorded (σ.setCall k { call with status := .lost }) := recorded.congr rfl rfl
    have written := retired.setTask { view with status := .waitingHuman } found
      (.inr (by rw [running]; rfl))
    exact written.congr rfl rfl
  | approve a t pending found waiting =>
    have decided : Recorded (σ.setApproval a ⟨t, .approved⟩) := recorded.congr rfl rfl
    exact decided.setTask _ found (.inr (by rw [waiting]; rfl))
  | @reject _ _ view a t result pending found waiting closes =>
    have decided : Recorded (σ.setApproval a ⟨t, .rejected⟩) := recorded.congr rfl rfl
    have written := decided.setTask { view with status := .failed, steps := view.steps + 1, result := result } found
      (.inr (by rw [waiting]; rfl))
    exact written.congr closes.task closes.journal
  | decideStale => exact recorded.congr rfl rfl
  | @timeout _ _ view t result found active closes =>
    have allowed : edge view.status .failed = true := by rcases active with now | now | now <;> rw [now] <;> rfl
    have written := recorded.setTask { view with status := .failed, steps := view.steps + 1, result := result } found
      (.inr allowed)
    exact written.congr closes.task closes.journal
  | wake t found waiting done => exact recorded.setTask _ found (.inr (by rw [waiting]; rfl))
  | cancel s finish live known nodup exactly =>
    have stopped : ∀ t ∈ live, ∃ view, σ.task t = some view ∧ view.status.terminal = false := by
      intro t member
      obtain ⟨view, found, -, running⟩ := (exactly t).mp member
      exact ⟨view, found, running⟩
    obtain ⟨lawful, statuses⟩ := cancel_writes recorded nodup stopped
    refine ⟨lawful, ?_, ?_⟩
    · intro t row now
      simp only [cancelled, Option.map_eq_some_iff] at now
      obtain ⟨view, found, rfl⟩ := now
      refine (statuses t).trans ?_
      by_cases member : t ∈ live
      · simp [member]
      · simp only [member, if_false]
        exact recorded.current t view found
    · intro t now
      simp only [cancelled, Option.map_eq_none_iff] at now
      have outside : t ∉ live := by
        intro member
        obtain ⟨view, found, -⟩ := stopped t member
        rw [now] at found
        cases found
      exact (statuses t).trans ((if_neg outside).trans (recorded.absent t now))

end Flow

end Allgres
