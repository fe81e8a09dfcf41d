import Allgres.Protocol.Tasks

namespace Allgres

namespace Flow

variable {ρ : Type} {σ σ' : Flow ρ}

/-- A pending approval belongs to a task that waits for a human, and such a
task has exactly one pending approval, the newest it asked for. -/
structure Approvals (σ : Flow ρ) : Prop where
  owner : ∀ a view, σ.approval a = some view → σ.task view.task ≠ none
  waiting : ∀ a t, σ.approval a = some ⟨t, .pending⟩ → ∃ view, σ.task t = some view ∧ view.status = .waitingHuman
  asked : ∀ t view, σ.task t = some view → view.status = .waitingHuman →
    ∃ a, σ.approval a = some ⟨t, .pending⟩ ∧ ∀ b other, σ.approval b = some other → other.task = t → b ≤ a
  unique : ∀ t a b, σ.approval a = some ⟨t, .pending⟩ → σ.approval b = some ⟨t, .pending⟩ → a = b

/-- A turn timeout does not hit a task that waits for a human. -/
def SparesWaiting : Event → Flow ρ → Prop
  | .timeout t, σ => ∀ view, σ.task t = some view → view.status ≠ .waitingHuman
  | _, _ => True

theorem Approvals.congr (agree : Approvals σ) (approval : σ'.approval = σ.approval) (task : σ'.task = σ.task) :
    Approvals σ' where
  owner := by rw [approval, task]; exact agree.owner
  waiting := by rw [approval, task]; exact agree.waiting
  asked := by rw [approval, task]; exact agree.asked
  unique := by rw [approval]; exact agree.unique

/-- A write that neither starts nor ends a wait. -/
theorem Approvals.setTask (agree : Approvals σ) {t : Nat} {old : TaskView ρ} (new : TaskView ρ)
    (found : σ.task t = some old) (before : old.status ≠ .waitingHuman) (after : new.status ≠ .waitingHuman) :
    Approvals (σ.setTask t new) where
  owner := by
    intro a view row
    by_cases same : view.task = t
    · rw [same, setTask_self]; simp
    · rw [setTask_other new same]; exact agree.owner a view row
  waiting := by
    intro a other row
    obtain ⟨view, foundOther, waits⟩ := agree.waiting a other row
    have different : other ≠ t := by
      intro same
      rw [same, found, Option.some.injEq] at foundOther
      rw [← foundOther] at waits
      exact before waits
    exact ⟨view, by rw [setTask_other new different]; exact foundOther, waits⟩
  asked := by
    intro other view now waits
    by_cases same : other = t
    · subst same
      rw [setTask_self, Option.some.injEq] at now
      rw [← now] at waits
      exact absurd waits after
    · rw [setTask_other new same] at now
      exact agree.asked other view now waits
  unique := agree.unique

theorem Approvals.addTask (agree : Approvals σ) {t : Nat} (view : TaskView ρ) (fresh : σ.task t = none)
    (queued : view.status = .queued) : Approvals (σ.addTask t view) where
  owner := by
    intro a row now
    by_cases same : row.task = t
    · rw [same, addTask_self]; simp
    · rw [addTask_other view same]; exact agree.owner a row now
  waiting := by
    intro a other row
    obtain ⟨old, found, waits⟩ := agree.waiting a other row
    have different : other ≠ t := by
      intro same
      rw [same, fresh] at found
      cases found
    exact ⟨old, by rw [addTask_other view different]; exact found, waits⟩
  asked := by
    intro other row now waits
    by_cases same : other = t
    · subst same
      rw [addTask_self, Option.some.injEq] at now
      rw [← now, queued] at waits
      cases waits
    · rw [addTask_other view same] at now
      exact agree.asked other row now waits
  unique := agree.unique

/-- A task that starts to wait, with a new approval. -/
theorem Approvals.pause (agree : Approvals σ) {t a : Nat} {old : TaskView ρ} (new : TaskView ρ)
    (found : σ.task t = some old) (before : old.status ≠ .waitingHuman) (after : new.status = .waitingHuman)
    (newest : ∀ other, σ.approval other ≠ none → other < a) :
    Approvals ((σ.setTask t new).setApproval a ⟨t, .pending⟩) := by
  have fresh : σ.approval a = none := by
    by_contra used
    exact absurd (newest a used) (Nat.lt_irrefl a)
  have noPending : ∀ b, σ.approval b ≠ some ⟨t, .pending⟩ := by
    intro b row
    obtain ⟨view, foundAgain, waits⟩ := agree.waiting b t row
    rw [found, Option.some.injEq] at foundAgain
    rw [← foundAgain] at waits
    exact before waits
  refine ⟨?_, ?_, ?_, ?_⟩
  · intro b view row
    by_cases same : view.task = t
    · simp [setApproval, same]
    · by_cases here : b = a
      · subst here
        simp only [setApproval, Function.update_self, Option.some.injEq] at row
        exact absurd (by rw [← row]) same
      · simp only [setApproval, Function.update_of_ne here] at row
        simp only [setApproval, setTask_other new same]
        exact agree.owner b view row
  · intro b other row
    by_cases here : b = a
    · subst here
      simp only [setApproval, Function.update_self, Option.some.injEq, ApprovalView.mk.injEq, and_true] at row
      subst row
      exact ⟨new, by simp [setApproval], after⟩
    · simp only [setApproval, Function.update_of_ne here] at row
      obtain ⟨view, foundOther, waits⟩ := agree.waiting b other row
      have different : other ≠ t := by
        intro same
        rw [same] at row
        exact noPending b row
      exact ⟨view, by simpa [setApproval, Flow.setTask, different] using foundOther, waits⟩
  · intro other view now waits
    by_cases same : other = t
    · subst same
      refine ⟨a, by simp [setApproval], ?_⟩
      intro b row rowFound belongs
      by_cases here : b = a
      · exact Nat.le_of_eq here
      · simp only [setApproval, Function.update_of_ne here] at rowFound
        exact Nat.le_of_lt (newest b (by rw [show σ.approval b = some row from rowFound]; simp))
    · simp only [setApproval, setTask_other new same] at now
      obtain ⟨b, row, last⟩ := agree.asked other view now waits
      have notNew : b ≠ a := by
        intro here
        rw [here, fresh] at row
        cases row
      refine ⟨b, by simpa [setApproval, Flow.setTask, notNew] using row, ?_⟩
      intro c rowC foundC belongs
      by_cases here : c = a
      · subst here
        simp only [setApproval, Function.update_self, Option.some.injEq] at foundC
        rw [← foundC] at belongs
        exact absurd belongs.symm same
      · simp only [setApproval, Function.update_of_ne here] at foundC
        exact last c rowC foundC belongs
  · intro other b c rowB rowC
    have old : ∀ d, d ≠ a → ((σ.setTask t new).setApproval a ⟨t, .pending⟩).approval d =
        some ⟨other, .pending⟩ → σ.approval d = some ⟨other, .pending⟩ := by
      intro d different row
      simpa [setApproval, Flow.setTask, different] using row
    have isNew : ∀ d, d = a → ((σ.setTask t new).setApproval a ⟨t, .pending⟩).approval d =
        some ⟨other, .pending⟩ → other = t := by
      rintro d rfl row
      simp only [setApproval, Function.update_self, Option.some.injEq, ApprovalView.mk.injEq, and_true] at row
      exact row.symm
    by_cases hereB : b = a
    · by_cases hereC : c = a
      · rw [hereB, hereC]
      · have task := isNew b hereB rowB
        have row := old c hereC rowC
        rw [task] at row
        exact absurd row (noPending c)
    · by_cases hereC : c = a
      · have task := isNew c hereC rowC
        have row := old b hereB rowB
        rw [task] at row
        exact absurd row (noPending b)
      · exact agree.unique other b c (old b hereB rowB) (old c hereC rowC)

/-- A decided approval and a task that stops waiting. -/
theorem Approvals.decide (agree : Approvals σ) {t a : Nat} {old : TaskView ρ} (new : TaskView ρ)
    (status : ApprovalStatus) (pending : σ.approval a = some ⟨t, .pending⟩) (decided : status ≠ .pending)
    (found : σ.task t = some old) (after : new.status ≠ .waitingHuman) :
    Approvals ((σ.setApproval a ⟨t, status⟩).setTask t new) := by
  have rows : ∀ b view, ((σ.setApproval a ⟨t, status⟩).setTask t new).approval b = some view →
      ∃ before, σ.approval b = some before ∧ before.task = view.task ∧ (b = a ∨ before = view) := by
    intro b view row
    by_cases here : b = a
    · subst here
      simp only [Flow.setTask, setApproval, Function.update_self, Option.some.injEq] at row
      exact ⟨_, pending, by rw [← row], .inl rfl⟩
    · simp only [Flow.setTask, setApproval, Function.update_of_ne here] at row
      exact ⟨view, row, rfl, .inr rfl⟩
  have stillPending : ∀ b other, ((σ.setApproval a ⟨t, status⟩).setTask t new).approval b =
      some ⟨other, .pending⟩ → σ.approval b = some ⟨other, .pending⟩ ∧ b ≠ a := by
    intro b other row
    have different : b ≠ a := by
      rintro rfl
      simp only [Flow.setTask, setApproval, Function.update_self, Option.some.injEq, ApprovalView.mk.injEq] at row
      exact decided row.2
    exact ⟨by simpa [Flow.setTask, setApproval, different] using row, different⟩
  refine ⟨?_, ?_, ?_, ?_⟩
  · intro b view row
    obtain ⟨before, rowBefore, task, -⟩ := rows b view row
    by_cases same : view.task = t
    · rw [same, setTask_self]; simp
    · rw [setTask_other new same, ← task]
      exact agree.owner b before rowBefore
  · intro b other row
    obtain ⟨before, different⟩ := stillPending b other row
    obtain ⟨view, foundOther, waits⟩ := agree.waiting b other before
    have apart : other ≠ t := by
      intro same
      rw [same] at before
      exact different (agree.unique t b a before pending)
    exact ⟨view, by rw [setTask_other new apart]; exact foundOther, waits⟩
  · intro other view now waits
    have apart : other ≠ t := by
      rintro rfl
      rw [setTask_self, Option.some.injEq] at now
      rw [← now] at waits
      exact after waits
    rw [setTask_other new apart] at now
    obtain ⟨b, row, last⟩ := agree.asked other view now waits
    have different : b ≠ a := by
      rintro rfl
      rw [pending, Option.some.injEq, ApprovalView.mk.injEq] at row
      exact apart row.1.symm
    refine ⟨b, by simpa [Flow.setTask, setApproval, different] using row, ?_⟩
    intro c rowC foundC belongs
    obtain ⟨before, rowBefore, task, -⟩ := rows c rowC foundC
    exact last c before rowBefore (task.trans belongs)
  · intro other b c rowB rowC
    exact agree.unique other b c (stillPending b other rowB).1 (stillPending c other rowC).1

theorem Effect.approvals {t : Nat} {view : TaskView ρ} (effect : Effect t view σ σ')
    (found : σ.task t = some view) (running : view.status = .running) (agree : Approvals σ) : Approvals σ' := by
  have before : view.status ≠ .waitingHuman := by rw [running]; decide
  cases effect with
  | proceed => exact agree.setTask _ found before before
  | fail steps result counted closes =>
    have written := agree.setTask { view with status := .failed, steps := steps, result := result } found before
      (by simp)
    exact written.congr closes.approval closes.task
  | complete result closes =>
    have written := agree.setTask { view with status := .completed, steps := view.steps + 1, result := result } found
      before (by simp)
    exact written.congr closes.approval closes.task
  | queue k fresh =>
    have called : Approvals (σ.addCall k t false) := agree.congr rfl rfl
    exact called.setTask _ found before before
  | spawn child blank fresh apart =>
    have born := agree.addTask ⟨view.session, some t, .queued, 0, blank⟩ fresh rfl
    have kept := (addTask_other ⟨view.session, some t, .queued, 0, blank⟩ apart.symm).trans found
    exact born.setTask _ kept before before
  | handOff child blank result fresh apart =>
    have born := agree.addTask ⟨view.session, some t, .queued, 0, blank⟩ fresh rfl
    have kept := (addTask_other ⟨view.session, some t, .queued, 0, blank⟩ apart.symm).trans found
    exact born.setTask _ kept before (by simp)
  | pause a newest => exact agree.pause _ found before rfl newest
  | park => exact agree.setTask _ found before (by simp)

theorem Approvals.cancelled (agree : Approvals σ) {s : Nat} (finish : ρ → ρ) {live : List Nat}
    (exactly : ∀ t, t ∈ live ↔ ∃ view, σ.task t = some view ∧ view.session = s ∧ view.status.terminal = false) :
    Approvals (σ.cancelled s finish live) := by
  have rows : ∀ a view, (σ.cancelled s finish live).approval a = some view →
      ∃ before, σ.approval a = some before ∧ before.task = view.task := by
    intro a view row
    simp only [Flow.cancelled, Option.map_eq_some_iff] at row
    obtain ⟨before, rowBefore, rfl⟩ := row
    refine ⟨before, rowBefore, ?_⟩
    split <;> rfl
  have stillPending : ∀ a t, (σ.cancelled s finish live).approval a = some ⟨t, .pending⟩ →
      σ.approval a = some ⟨t, .pending⟩ ∧ ∀ view, σ.task t = some view → view.session ≠ s := by
    intro a t row
    simp only [Flow.cancelled, Option.map_eq_some_iff] at row
    obtain ⟨before, rowBefore, same⟩ := row
    split at same
    · rw [ApprovalView.mk.injEq] at same
      cases same.2
    · rename_i kept
      rw [same] at rowBefore kept
      exact ⟨rowBefore, fun view found belongs => kept ⟨⟨view, found, belongs⟩, rfl⟩⟩
  refine ⟨?_, ?_, ?_, ?_⟩
  · intro a view row
    obtain ⟨before, rowBefore, task⟩ := rows a view row
    have owned := agree.owner a before rowBefore
    rw [task] at owned
    simpa [Flow.cancelled] using owned
  · intro a t row
    obtain ⟨before, elsewhere⟩ := stillPending a t row
    obtain ⟨view, found, waits⟩ := agree.waiting a t before
    have outside : t ∉ live := by
      intro member
      obtain ⟨stopped, foundAgain, belongs, -⟩ := (exactly t).mp member
      exact elsewhere stopped foundAgain belongs
    exact ⟨view, by simp [Flow.cancelled, found, outside], waits⟩
  · intro t row now waits
    simp only [Flow.cancelled, Option.map_eq_some_iff] at now
    obtain ⟨view, found, rfl⟩ := now
    have outside : t ∉ live := by
      intro member
      rw [if_pos member] at waits
      cases waits
    rw [if_neg outside] at waits
    obtain ⟨a, row, last⟩ := agree.asked t view found waits
    have elsewhere : view.session ≠ s := by
      intro belongs
      exact outside ((exactly t).mpr ⟨view, found, belongs, by rw [waits]; rfl⟩)
    refine ⟨a, ?_, ?_⟩
    · simp [Flow.cancelled, row, found, elsewhere]
    · intro b other rowB belongs
      obtain ⟨before, rowBefore, task⟩ := rows b other rowB
      exact last b before rowBefore (task.trans belongs)
  · intro t a b rowA rowB
    exact agree.unique t a b (stillPending a t rowA).1 (stillPending b t rowB).1

theorem Move.approvals {event : Event} (move : Move event σ σ') (spares : SparesWaiting event σ)
    (agree : Approvals σ) : Approvals σ' := by
  cases move with
  | create s t blank newSession fresh =>
    have opened : Approvals (σ.setSession s .opened) := agree.congr rfl rfl
    exact opened.addTask _ fresh rfl
  | reopen s t blank known fresh =>
    have opened : Approvals (σ.setSession s .opened) := agree.congr rfl rfl
    exact opened.addTask _ fresh rfl
  | start t found queued => exact agree.setTask _ found (by rw [queued]; decide) (by simp)
  | dispatch => exact agree.congr rfl rfl
  | report t found running effect => exact effect.approvals found running agree
  | claim => exact agree.congr rfl rfl
  | discard => exact agree.congr rfl rfl
  | settle k status _ _ _ found running effect => exact effect.approvals found running (agree.congr rfl rfl)
  | swallow => exact agree.congr rfl rfl
  | @ambiguous _ call view k a _ _ _ found running newest =>
    have retired : Approvals (σ.setCall k { call with status := .lost }) := agree.congr rfl rfl
    exact retired.pause _ found (by rw [running]; decide) rfl newest
  | approve a t pending found waiting => exact agree.decide _ .approved pending (by decide) found (by simp)
  | @reject _ _ view a t result pending found waiting closes =>
    have written := agree.decide { view with status := .failed, steps := view.steps + 1, result := result }
      .rejected pending (by decide) found (by simp)
    exact written.congr closes.approval closes.task
  | decideStale a t status pending decided notWaiting =>
    obtain ⟨view, found, waits⟩ := agree.waiting a t pending
    exact absurd waits (notWaiting view found)
  | @timeout _ _ view t result found active closes =>
    have written := agree.setTask { view with status := .failed, steps := view.steps + 1, result := result } found
      (spares view found) (by simp)
    exact written.congr closes.approval closes.task
  | wake t found waiting done => exact agree.setTask _ found (by rw [waiting]; decide) (by simp)
  | cancel s finish live known nodup exactly => exact agree.cancelled finish exactly

end Flow

end Allgres
