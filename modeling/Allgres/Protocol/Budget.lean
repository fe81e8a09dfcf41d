import Allgres.Protocol.Calls

namespace Allgres

namespace Flow

variable {ρ : Type} {σ σ' : Flow ρ}

/-- The call is an `llm` call of the task that is queued or in flight. -/
def Asks (σ : Flow ρ) (t : Nat) (k : CallKey) : Prop :=
  ∃ call, σ.call k = some call ∧ call.task = t ∧ call.llm = true ∧ call.status.outstanding = true

/-- The task has ended or has counted more steps than that. -/
def Paid (σ : Flow ρ) (t steps : Nat) : Prop :=
  ∃ view, σ.task t = some view ∧ (view.status.terminal = true ∨ steps < view.steps)

/-- Dispatches of `t` respect the limit, and no `llm` reply for it is swallowed. -/
def Pays (t limit : Nat) : Event → Flow ρ → Prop
  | .dispatch other bound, _ => other = t → bound ≤ limit
  | .swallow k, σ => ∀ call, σ.call k = some call → call.task = t → call.llm = false
  | _, _ => True

theorem Effect.llmRows {t : Nat} {view : TaskView ρ} (effect : Effect t view σ σ') : σ'.llmRows = σ.llmRows := by
  cases effect with
  | fail steps result counted closes => exact closes.llmRows
  | complete result closes => exact closes.llmRows
  | proceed | queue | spawn | handOff | pause | park => rfl

/-- The task that submitted has ended or is one step further. -/
theorem Effect.paid {t : Nat} {view : TaskView ρ} (effect : Effect t view σ σ') : σ'.Paid t view.steps := by
  cases effect with
  | fail steps result counted closes => exact ⟨_, by rw [closes.task, setTask_self], .inl rfl⟩
  | complete result closes => exact ⟨_, by rw [closes.task, setTask_self], .inl rfl⟩
  | proceed | queue | spawn | handOff | pause | park => exact ⟨_, setTask_self _ _, .inr (Nat.lt_succ_self _)⟩

theorem addCall_asks {t other : Nat} {k k' : CallKey} {llm : Bool} (fresh : σ.call k' = none) (asks : σ.Asks t k) :
    (σ.addCall k' other llm).Asks t k := by
  obtain ⟨call, found, rest⟩ := asks
  have different : k ≠ k' := by
    rintro rfl
    rw [fresh] at found
    cases found
  exact ⟨call, by simpa [addCall, different] using found, rest⟩

theorem Closes.asks {s t : Nat} {k : CallKey} (closes : Closes s σ σ') (asks : σ.Asks t k) : σ'.Asks t k := by
  obtain ⟨call, found, rest⟩ := asks
  exact ⟨call, by rw [closes.call]; exact found, rest⟩

theorem Effect.asks {t other : Nat} {k : CallKey} {view : TaskView ρ} (effect : Effect t view σ σ')
    (asks : σ.Asks other k) : σ'.Asks other k := by
  cases effect with
  | fail steps result counted closes => exact closes.asks asks
  | complete result closes => exact closes.asks asks
  | queue new fresh => exact addCall_asks fresh asks
  | proceed | spawn | handOff | pause | park => exact asks

/-- A changed call is another one than the outstanding `llm` call, or still outstanding. -/
theorem setCall_asks {t : Nat} {k k' : CallKey} {call : CallView} {status : CallStatus}
    (found : σ.call k' = some call)
    (spares : call.task = t → call.llm = true → status.outstanding = true) (asks : σ.Asks t k) :
    (σ.setCall k' { call with status := status }).Asks t k := by
  obtain ⟨view, before, belongs, llm, outstanding⟩ := asks
  by_cases same : k = k'
  · subst same
    rw [found, Option.some.injEq] at before
    subst before
    exact ⟨{ call with status := status }, by simp [setCall], belongs, llm, spares belongs llm⟩
  · exact ⟨view, by simpa [setCall, same] using before, belongs, llm, outstanding⟩

/-- The calls that a sweep loses are those of tasks it has just ended. -/
theorem timeout_asks {t other : Nat} {k : CallKey} {view : TaskView ρ} {s : Nat} (different : other ≠ t)
    (closes : Closes s ((σ.setTask other view).loseHttpAndSql (· = other)) σ') (asks : σ.Asks t k) :
    σ'.Asks t k := by
  obtain ⟨call, before, belongs, rest⟩ := asks
  refine ⟨call, ?_, belongs, rest⟩
  rw [closes.call]
  simp only [loseHttpAndSql, setTask, before, Option.map_some]
  rw [if_neg]
  rintro ⟨-, mine, -⟩
  exact different (mine.symm.trans belongs)

/-- An outstanding `llm` call of a live task stays outstanding until the task
has ended or has paid for it. -/
theorem Move.asks_or_paid {t limit : Nat} {k : CallKey} {view : TaskView ρ} {event : Event} (move : Move event σ σ')
    (pays : Pays t limit event σ) (calls : Calls σ) (found : σ.task t = some view)
    (live : view.status.terminal = false) (asks : σ.Asks t k) : σ'.Asks t k ∨ σ'.Paid t view.steps := by
  cases move with
  | create | reopen | start | approve | decideStale | wake => exact .inl asks
  | dispatch other bound new _ _ _ _ fresh => exact .inl (addCall_asks fresh asks)
  | report other there running effect =>
    by_cases same : other = t
    · subst same
      obtain rfl := Option.some.inj (there.symm.trans found)
      exact .inr effect.paid
    · exact .inl (effect.asks asks)
  | claim new there queued _ _ => exact .inl (setCall_asks there (fun _ _ => rfl) asks)
  | discard new status there inFlight retired notRunning =>
    refine .inl (setCall_asks there (fun belongs _ => ?_) asks)
    have held : σ.Holds t new := ⟨_, there, belongs, by rw [inFlight]; rfl⟩
    rcases calls.engaged t new view held found with running | ended
    · exact absurd running (notRunning view (by rw [belongs]; exact found))
    · rw [live] at ended
      cases ended
  | @settle _ _ call owner new status there inFlight retired owned running effect =>
    by_cases same : call.task = t
    · subst same
      obtain rfl := Option.some.inj (owned.symm.trans found)
      exact .inr effect.paid
    · exact .inl (effect.asks (setCall_asks there (fun belongs => absurd belongs same) asks))
  | @swallow _ call owner new status there inFlight retired owned running =>
    refine .inl (setCall_asks there (fun belongs llm => ?_) asks)
    have notLlm := pays call there belongs
    rw [llm] at notLlm
    cases notLlm
  | @ambiguous _ call owner new a there inFlight notLlm owned running _ =>
    refine .inl (setCall_asks there (fun _ llm => ?_) asks)
    rw [notLlm] at llm
    cases llm
  | reject a other result pending there waiting closes => exact .inl (closes.asks asks)
  | @timeout _ _ owner other result there active closes =>
    by_cases same : other = t
    · subst same
      exact .inr ⟨_, by rw [closes.task]; exact setTask_self _ _, .inl rfl⟩
    · exact .inl (timeout_asks same closes asks)
  | cancel s finish ended known nodup exactly =>
    by_cases owned : view.session = s
    · have member := (exactly t).mpr ⟨view, found, owned, live⟩
      refine .inr ⟨{ view with status := .cancelled, steps := view.steps + 1, result := finish view.result }, ?_, .inl rfl⟩
      simp only [cancelled, found, Option.map_some, member, if_true]
    · left
      obtain ⟨call, before, belongs, rest⟩ := asks
      refine ⟨call, ?_, belongs, rest⟩
      simp only [cancelled, before, Option.map_some]
      rw [if_neg]
      rintro ⟨-, ⟨task, owner, same⟩, -⟩
      rw [belongs, found, Option.some.injEq] at owner
      rw [← owner] at same
      exact owned same

/-- Only a dispatch makes an `llm` call, and only for a running task below its
limit that has no outstanding call. -/
theorem Move.llmRows {t : Nat} {event : Event} (move : Move event σ σ') :
    σ'.llmRows t = σ.llmRows t ∨
      ∃ limit view k, event = .dispatch t limit ∧ σ.task t = some view ∧ view.status = .running ∧ σ.Free t ∧
        view.steps < limit ∧ σ'.task = σ.task ∧ σ'.llmRows t = σ.llmRows t + 1 ∧ σ'.Asks t k := by
  cases move with
  | create | reopen | start | claim | discard | swallow | ambiguous | approve | decideStale | wake | cancel =>
    exact .inl rfl
  | @dispatch _ view other limit k found running free below fresh =>
    by_cases same : other = t
    · subst same
      exact .inr ⟨limit, view, k, rfl, found, running, free, below, rfl, by simp [addCall],
        ⟨other, true, .queued⟩, by simp [addCall], rfl, rfl, rfl⟩
    · exact .inl (by simp [addCall, Ne.symm same])
  | report other found running effect => exact .inl (by rw [effect.llmRows])
  | settle k status found inFlight retired owner running effect =>
    left
    rw [effect.llmRows]
    rfl
  | reject a other result pending found waiting closes =>
    left
    rw [closes.llmRows]
    rfl
  | timeout other result found active closes =>
    left
    rw [closes.llmRows]
    rfl

/-- The call is outstanding, or the task has ended or counted a step since. -/
def Charged (t steps : Nat) (k : CallKey) (σ : Flow ρ) : Prop :=
  σ.Paid t steps ∨ (σ.Asks t k ∧ ∃ view, σ.task t = some view ∧ steps ≤ view.steps)

theorem Move.paid {t steps : Nat} {event : Event} (move : Move event σ σ') (paid : σ.Paid t steps) :
    σ'.Paid t steps := by
  obtain ⟨view, found, done⟩ := paid
  have taken := move.task_step t
  rw [found] at taken
  rcases done with ended | counted
  · exact ⟨view, taken.terminal ended, .inl ended⟩
  · obtain ⟨new, now, -, -, more⟩ := taken.kept
    exact ⟨new, now, .inr (by omega)⟩

theorem Move.charged {t limit steps : Nat} {k : CallKey} {event : Event} (move : Move event σ σ')
    (pays : Pays t limit event σ) (calls : Calls σ) (charged : Charged t steps k σ) : Charged t steps k σ' := by
  rcases charged with paid | ⟨asks, view, found, counted⟩
  · exact .inl (move.paid paid)
  · by_cases ended : view.status.terminal = true
    · exact .inl (move.paid ⟨view, found, .inl ended⟩)
    · rcases move.asks_or_paid pays calls found (Bool.not_eq_true _ ▸ ended) asks with still | ⟨new, now, done⟩
      · have taken := move.task_step t
        rw [found] at taken
        obtain ⟨new, now, -, -, more⟩ := taken.kept
        exact .inr ⟨still, new, now, by omega⟩
      · exact .inl ⟨new, now, done.imp_right fun more => by omega⟩

end Flow

end Allgres
