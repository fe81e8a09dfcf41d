import Allgres.Protocol.Tasks

namespace Allgres

namespace Flow

variable {ρ : Type} {σ σ' : Flow ρ}

/-- Every task belongs to a session, and a session is open exactly while one of
its tasks is not terminal. -/
structure Tracks (σ : Flow ρ) : Prop where
  known : ∀ t view, σ.task t = some view → σ.session view.session ≠ none
  opened : ∀ s, σ.session s ≠ none → (σ.session s = some .opened ↔ ¬ σ.Idle s)

/-- `Tracks` for all sessions but `s`, which is open. -/
structure TracksBut (s : Nat) (σ : Flow ρ) : Prop where
  known : ∀ t view, σ.task t = some view → σ.session view.session ≠ none
  here : σ.session s = some .opened
  elsewhere : ∀ other, other ≠ s → σ.session other ≠ none → (σ.session other = some .opened ↔ ¬ σ.Idle other)

theorem Tracks.congr (tracks : Tracks σ) (task : σ'.task = σ.task) (session : σ'.session = σ.session) :
    Tracks σ' where
  known := by rw [task, session]; exact tracks.known
  opened := by unfold Idle; rw [task, session]; exact tracks.opened

theorem TracksBut.congr {s : Nat} (tracks : TracksBut s σ) (task : σ'.task = σ.task)
    (session : σ'.session = σ.session) : TracksBut s σ' where
  known := by rw [task, session]; exact tracks.known
  here := by rw [session]; exact tracks.here
  elsewhere := by unfold Idle; rw [task, session]; exact tracks.elsewhere

/-- The session of a live task is open. -/
theorem Tracks.session_opened (tracks : Tracks σ) {t : Nat} {view : TaskView ρ} (found : σ.task t = some view)
    (live : view.status.terminal = false) : σ.session view.session = some .opened := by
  rw [tracks.opened _ (tracks.known t view found)]
  intro idle
  have ended := idle t view found rfl
  rw [live] at ended
  cases ended

theorem Tracks.but (tracks : Tracks σ) {s : Nat} (here : σ.session s = some .opened) : TracksBut s σ :=
  ⟨tracks.known, here, fun other _ => tracks.opened other⟩

/-- Writing a task of session `s` touches no other session. -/
theorem TracksBut.setTask {t : Nat} {old : TaskView ρ} (tracks : TracksBut old.session σ) (new : TaskView ρ)
    (found : σ.task t = some old) (session : new.session = old.session) :
    TracksBut old.session (σ.setTask t new) := by
  refine ⟨?_, tracks.here, ?_⟩
  · intro other view now
    by_cases same : other = t
    · subst same
      rw [setTask_self, Option.some.injEq] at now
      rw [← now, session]
      exact tracks.known other old found
    · rw [setTask_other new same] at now
      exact tracks.known other view now
  · intro s different exists?
    rw [show (σ.setTask t new).session s = σ.session s from rfl, tracks.elsewhere s different exists?, not_iff_not]
    constructor
    · intro idle other view now belongs
      by_cases same : other = t
      · subst same
        rw [setTask_self, Option.some.injEq] at now
        rw [← now, session] at belongs
        exact absurd belongs.symm different
      · rw [setTask_other new same] at now
        exact idle other view now belongs
    · intro idle other view now belongs
      by_cases same : other = t
      · subst same
        rw [found, Option.some.injEq] at now
        rw [← now] at belongs
        exact absurd belongs.symm different
      · exact idle other view (by rw [setTask_other new same]; exact now) belongs

theorem TracksBut.addTask {s t : Nat} (tracks : TracksBut s σ) (view : TaskView ρ) (fresh : σ.task t = none)
    (belongs : view.session = s) : TracksBut s (σ.addTask t view) := by
  refine ⟨?_, tracks.here, ?_⟩
  · intro other row now
    by_cases same : other = t
    · subst same
      rw [addTask_self, Option.some.injEq] at now
      rw [← now, belongs, show (σ.addTask other view).session s = σ.session s from rfl, tracks.here]
      simp
    · rw [addTask_other view same] at now
      exact tracks.known other row now
  · intro other different exists?
    rw [show (σ.addTask t view).session other = σ.session other from rfl,
      tracks.elsewhere other different exists?, not_iff_not]
    constructor
    · intro idle u row now belongsTo
      by_cases same : u = t
      · subst same
        rw [addTask_self, Option.some.injEq] at now
        rw [← now, belongs] at belongsTo
        exact absurd belongsTo.symm different
      · rw [addTask_other view same] at now
        exact idle u row now belongsTo
    · intro idle u row now belongsTo
      by_cases same : u = t
      · subst same; rw [fresh] at now; cases now
      · exact idle u row (by rw [addTask_other view same]; exact now) belongsTo

/-- An open session with a live task completes the picture. -/
theorem TracksBut.close {s t : Nat} {view : TaskView ρ} (tracks : TracksBut s σ) (found : σ.task t = some view)
    (belongs : view.session = s) (live : view.status.terminal = false) : Tracks σ := by
  refine ⟨tracks.known, ?_⟩
  intro other exists?
  by_cases same : other = s
  · subst same
    refine iff_of_true tracks.here ?_
    intro idle
    have ended := idle t view found belongs
    rw [live] at ended
    cases ended
  · exact tracks.elsewhere other same exists?

/-- `maybe_complete_session` completes the picture as well. -/
theorem TracksBut.closes {s : Nat} (tracks : TracksBut s σ) (closes : Closes s σ σ') : Tracks σ' := by
  cases closes with
  | busy busy =>
    refine ⟨tracks.known, ?_⟩
    intro other exists?
    by_cases same : other = s
    · subst same; exact iff_of_true tracks.here busy
    · exact tracks.elsewhere other same exists?
  | closed idle closed => exact absurd tracks.here closed
  | close status idle notOpened =>
    refine ⟨?_, ?_⟩
    · intro t view found
      by_cases same : view.session = s
      · simp [setSession, same]
      · simp only [setSession, Function.update_of_ne same]
        exact tracks.known t view found
    · intro other exists?
      by_cases same : other = s
      · subst same
        refine iff_of_false ?_ (not_not_intro idle)
        simpa [setSession] using notOpened
      · simp only [setSession, Function.update_of_ne same] at exists? ⊢
        exact tracks.elsewhere other same exists?

/-- A write between live statuses. -/
theorem Tracks.setLive (tracks : Tracks σ) {t : Nat} {old : TaskView ρ} (new : TaskView ρ)
    (found : σ.task t = some old) (session : new.session = old.session) (before : old.status.terminal = false)
    (after : new.status.terminal = false) : Tracks (σ.setTask t new) := by
  have but := (tracks.but (tracks.session_opened found before)).setTask new found session
  exact but.close (setTask_self t new) session after

/-- A write that ends a task, followed by `maybe_complete_session`. -/
theorem Tracks.finish (tracks : Tracks σ) {t : Nat} {old new : TaskView ρ} (found : σ.task t = some old)
    (before : old.status.terminal = false) (closes : Closes old.session (σ.setTask t new) σ')
    (session : new.session = old.session) : Tracks σ' :=
  ((tracks.but (tracks.session_opened found before)).setTask new found session).closes closes

/-- A new queued task in session `s`, which becomes or stays open. -/
theorem Tracks.openWith (tracks : Tracks σ) (s t : Nat) (blank : ρ) (fresh : σ.task t = none) :
    Tracks ((σ.setSession s .opened).addTask t ⟨s, none, .queued, 0, blank⟩) := by
  have but : TracksBut s (σ.setSession s .opened) := by
    refine ⟨?_, by simp [setSession], ?_⟩
    · intro u view found
      by_cases same : view.session = s
      · simp [setSession, same]
      · simp only [setSession, Function.update_of_ne same]
        exact tracks.known u view found
    · intro other different exists?
      simp only [setSession, Function.update_of_ne different] at exists? ⊢
      exact tracks.opened other exists?
  exact (but.addTask _ fresh rfl).close (addTask_self t _) rfl rfl

/-- A child in the session of its running parent, and a write to the parent. -/
theorem Tracks.spawn (tracks : Tracks σ) {t child : Nat} {old : TaskView ρ} (new : TaskView ρ) (blank : ρ)
    (found : σ.task t = some old) (before : old.status.terminal = false) (fresh : σ.task child = none)
    (apart : child ≠ t) (session : new.session = old.session) :
    Tracks ((σ.addTask child ⟨old.session, some t, .queued, 0, blank⟩).setTask t new) := by
  have but := (tracks.but (tracks.session_opened found before)).addTask
    ⟨old.session, some t, .queued, 0, blank⟩ fresh rfl
  have kept := (addTask_other ⟨old.session, some t, .queued, 0, blank⟩ apart.symm).trans found
  have born : ((σ.addTask child ⟨old.session, some t, .queued, 0, blank⟩).setTask t new).task child =
      some ⟨old.session, some t, .queued, 0, blank⟩ := by
    rw [setTask_other new apart, addTask_self]
  exact (but.setTask new kept session).close born rfl rfl

theorem Effect.tracks {t : Nat} {view : TaskView ρ} (effect : Effect t view σ σ') (found : σ.task t = some view)
    (running : view.status = .running) (tracks : Tracks σ) : Tracks σ' := by
  have live : view.status.terminal = false := by rw [running]; rfl
  cases effect with
  | proceed => exact tracks.setLive _ found rfl live live
  | fail steps result counted closes => exact tracks.finish found live closes rfl
  | complete result closes => exact tracks.finish found live closes rfl
  | queue k fresh =>
    have called : Tracks (σ.addCall k t false) := tracks.congr rfl rfl
    exact called.setLive _ found rfl live live
  | spawn child blank fresh apart => exact tracks.spawn _ blank found live fresh apart rfl
  | handOff child blank result fresh apart => exact tracks.spawn _ blank found live fresh apart rfl
  | pause a fresh =>
    have written := tracks.setLive { view with status := .waitingHuman, steps := view.steps + 1 } found rfl live rfl
    exact written.congr rfl rfl
  | park => exact tracks.setLive _ found rfl live rfl

theorem cancelled_session (s : Nat) (finish : ρ → ρ) (live : List Nat) (other : Nat) :
    (σ.cancelled s finish live).session other =
      if other = s ∧ σ.session s = some .opened then some .cancelled else σ.session other := by
  simp only [cancelled]
  by_cases here : σ.session s = some .opened
  · by_cases same : other = s
    · subst same; simp [here]
    · simp [here, same]
  · simp [here]

theorem Move.tracks {event : Event} (move : Move event σ σ') (tracks : Tracks σ) : Tracks σ' := by
  cases move with
  | create s t blank newSession fresh => exact tracks.openWith s t blank fresh
  | reopen s t blank known fresh => exact tracks.openWith s t blank fresh
  | start t found queued => exact tracks.setLive _ found rfl (by rw [queued]; rfl) rfl
  | dispatch => exact tracks.congr rfl rfl
  | report t found running effect => exact effect.tracks found running tracks
  | claim => exact tracks.congr rfl rfl
  | discard => exact tracks.congr rfl rfl
  | settle k status _ _ _ found running effect => exact effect.tracks found running (tracks.congr rfl rfl)
  | swallow => exact tracks.congr rfl rfl
  | @ambiguous _ call view k a _ _ _ found running _ =>
    have retired : Tracks (σ.setCall k { call with status := .lost }) := tracks.congr rfl rfl
    have written := retired.setLive { view with status := .waitingHuman } found rfl (by rw [running]; rfl) rfl
    exact written.congr rfl rfl
  | approve a t pending found waiting =>
    have decided : Tracks (σ.setApproval a ⟨t, .approved⟩) := tracks.congr rfl rfl
    exact decided.setLive _ found rfl (by rw [waiting]; rfl) rfl
  | reject a t result pending found waiting closes =>
    have decided : Tracks (σ.setApproval a ⟨t, .rejected⟩) := tracks.congr rfl rfl
    exact decided.finish found (by rw [waiting]; rfl) closes rfl
  | decideStale => exact tracks.congr rfl rfl
  | @timeout _ _ view t result found active closes =>
    have live : view.status.terminal = false := by rcases active with now | now | now <;> rw [now] <;> rfl
    have but := (tracks.but (tracks.session_opened found live)).setTask
      { view with status := .failed, steps := view.steps + 1, result := result } found rfl
    have lost : TracksBut view.session ((σ.setTask t
        { view with status := .failed, steps := view.steps + 1, result := result }).loseHttpAndSql (· = t)) :=
      but.congr rfl rfl
    exact lost.closes closes
  | wake t found waiting done => exact tracks.setLive _ found rfl (by rw [waiting]; rfl) rfl
  | cancel s finish live known nodup exactly =>
    have session := cancelled_session (σ := σ) s finish live
    have rows : ∀ t row, (σ.cancelled s finish live).task t = some row → ∃ view, σ.task t = some view ∧
        row.session = view.session ∧ (t ∈ live → row.status = .cancelled) ∧ (t ∉ live → row = view) := by
      intro t row now
      simp only [cancelled, Option.map_eq_some_iff] at now
      obtain ⟨view, found, rfl⟩ := now
      refine ⟨view, found, ?_, ?_, ?_⟩ <;> by_cases member : t ∈ live <;> simp [member]
    refine ⟨?_, ?_⟩
    · intro t row now
      obtain ⟨view, found, belongs, -⟩ := rows t row now
      rw [session, belongs]
      split
      · simp
      · exact tracks.known t view found
    · intro other exists?
      rw [session] at exists? ⊢
      by_cases same : other = s
      · subst same
        refine iff_of_false ?_ (not_not_intro ?_)
        · by_cases here : σ.session other = some .opened
          · simp [here]
          · simp [here]
        · intro t row now belongs
          obtain ⟨view, found, sessionKept, stopped, untouched⟩ := rows t row now
          by_cases member : t ∈ live
          · rw [stopped member]; rfl
          · rw [untouched member]
            by_contra running
            exact member ((exactly t).mpr ⟨view, found, by rw [← sessionKept, belongs], by simpa using running⟩)
      · simp only [same, false_and, if_false] at exists? ⊢
        rw [tracks.opened other exists?, not_iff_not]
        have untouched : ∀ t view, σ.task t = some view → view.session = other →
            (σ.cancelled s finish live).task t = some view := by
          intro t view found belongs
          have outside : t ∉ live := by
            intro member
            obtain ⟨stopped, foundAgain, inSession, -⟩ := (exactly t).mp member
            rw [found, Option.some.injEq] at foundAgain
            rw [← foundAgain, belongs] at inSession
            exact same inSession
          simp [cancelled, found, outside]
        constructor
        · intro idle t row now belongs
          obtain ⟨view, found, sessionKept, -⟩ := rows t row now
          have kept := untouched t view found (by rw [← sessionKept, belongs])
          rw [kept, Option.some.injEq] at now
          rw [← now]
          exact idle t view found (by rw [now, belongs])
        · intro idle t view found belongs
          exact idle t view (untouched t view found belongs) belongs

end Flow

end Allgres
