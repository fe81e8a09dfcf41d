import Allgres.Protocol.Calls

namespace Allgres

/-- The order `queued → in_flight → {harvested, lost}`, `queued → lost`,
with no way out of `harvested` and `lost`. -/
def CallStatus.onward : CallStatus → CallStatus → Bool
  | .queued, _ => true
  | .inFlight, .queued => false
  | .inFlight, _ => true
  | .harvested, .harvested => true
  | .lost, .lost => true
  | _, _ => false

theorem CallStatus.onward_refl (status : CallStatus) : status.onward status = true := by
  cases status <;> rfl

theorem CallStatus.onward_trans {a b c : CallStatus} (first : a.onward b = true) (second : b.onward c = true) :
    a.onward c = true := by
  cases a <;> cases b <;> cases c <;> simp_all [CallStatus.onward]

namespace Flow

variable {ρ : Type} {σ σ' : Flow ρ}

/-- Every row of a queue is kept, belongs to the same task and moves onward. -/
def Onward (σ σ' : Flow ρ) : Prop :=
  ∀ k view, σ.call k = some view → ∃ new, σ'.call k = some new ∧ new.task = view.task ∧ new.llm = view.llm ∧
    view.status.onward new.status = true

theorem Onward.refl (σ : Flow ρ) : Onward σ σ := fun _ view found =>
  ⟨view, found, rfl, rfl, view.status.onward_refl⟩

theorem Onward.trans {σ₁ σ₂ σ₃ : Flow ρ} (first : Onward σ₁ σ₂) (second : Onward σ₂ σ₃) : Onward σ₁ σ₃ := by
  intro k view found
  obtain ⟨new, found₂, task₂, llm₂, onward₂⟩ := first k view found
  obtain ⟨last, found₃, task₃, llm₃, onward₃⟩ := second k new found₂
  exact ⟨last, found₃, task₃.trans task₂, llm₃.trans llm₂, CallStatus.onward_trans onward₂ onward₃⟩

theorem Onward.ofCallEq (call : σ'.call = σ.call) : Onward σ σ' := by
  intro k view found
  exact ⟨view, by rw [call]; exact found, rfl, rfl, view.status.onward_refl⟩

theorem addCall_onward {k : CallKey} (t : Nat) (llm : Bool) (fresh : σ.call k = none) :
    Onward σ (σ.addCall k t llm) := by
  intro k' view found
  have different : k' ≠ k := by
    intro same
    rw [same, fresh] at found
    cases found
  exact ⟨view, by simpa [addCall, different] using found, rfl, rfl, view.status.onward_refl⟩

theorem setCall_onward {k : CallKey} {call : CallView} {status : CallStatus} (found : σ.call k = some call)
    (onward : call.status.onward status = true) : Onward σ (σ.setCall k { call with status := status }) := by
  intro k' view before
  by_cases same : k' = k
  · subst same
    rw [found, Option.some.injEq] at before
    subst before
    exact ⟨{ call with status := status }, by simp [setCall], rfl, rfl, onward⟩
  · exact ⟨view, by simpa [setCall, same] using before, rfl, rfl, view.status.onward_refl⟩

theorem onward_lost {status : CallStatus} (outstanding : status.outstanding = true) :
    status.onward .lost = true := by
  cases status <;> first | rfl | cases outstanding

theorem Effect.onward {t : Nat} {view : TaskView ρ} (effect : Effect t view σ σ') : Onward σ σ' := by
  cases effect with
  | fail steps result counted closes => exact .ofCallEq closes.call
  | complete result closes => exact .ofCallEq closes.call
  | queue k fresh => exact (addCall_onward t false fresh).trans (.ofCallEq rfl)
  | proceed | spawn | handOff | pause | park => exact .ofCallEq rfl

theorem onward_of_retired {status : CallStatus} (retired : status = .harvested ∨ status = .lost) :
    CallStatus.inFlight.onward status = true := by
  rcases retired with rfl | rfl <;> rfl

/-- No move takes a call back. -/
theorem Move.onward {event : Event} (move : Move event σ σ') : Onward σ σ' := by
  cases move with
  | dispatch t limit k found running free below fresh => exact addCall_onward t true fresh
  | report t found running effect => exact effect.onward
  | claim k found queued _ _ => exact setCall_onward found (by rw [queued]; rfl)
  | discard k status found inFlight retired _ =>
    exact setCall_onward found (by rw [inFlight]; exact onward_of_retired retired)
  | settle k status found inFlight retired owner running effect =>
    have first := setCall_onward found (by rw [inFlight]; exact onward_of_retired retired)
    exact first.trans effect.onward
  | swallow k status found inFlight retired owner running =>
    exact setCall_onward found (by rw [inFlight]; exact onward_of_retired retired)
  | ambiguous k a found inFlight _ owner running _ => exact setCall_onward found (by rw [inFlight]; rfl)
  | reject a t result pending found waiting closes => exact .ofCallEq closes.call
  | timeout t result found active closes =>
    intro k view before
    rw [closes.call]
    simp only [loseHttpAndSql, setTask, before, Option.map_some, Option.some.injEq, exists_eq_left']
    split
    · rename_i lost
      exact ⟨rfl, rfl, onward_lost lost.2.2⟩
    · exact ⟨rfl, rfl, view.status.onward_refl⟩
  | cancel s finish live known nodup exactly =>
    intro k view before
    simp only [cancelled, before, Option.map_some, Option.some.injEq, exists_eq_left']
    split
    · rename_i lost
      exact ⟨rfl, rfl, onward_lost lost.2.2⟩
    · exact ⟨rfl, rfl, view.status.onward_refl⟩
  | create | reopen | start | approve | decideStale | wake => exact .ofCallEq rfl

end Flow

end Allgres
