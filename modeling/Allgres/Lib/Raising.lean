import Mathlib.Logic.Basic

/-! Partial correctness of computations that may raise an exception. -/

namespace Raising

variable {ε α β σ : Type}

/-- If the computation returns, its value is as required. -/
def Ensures (program : Except ε α) (post : α → Prop) : Prop := ∀ value, program = .ok value → post value

@[simp] theorem ensures_ok {value : α} {post : α → Prop} :
    Ensures (.ok value : Except ε α) post ↔ post value := by
  simp [Ensures]

@[simp] theorem ensures_error {error : ε} {post : α → Prop} : Ensures (.error error) post ↔ True := by
  simp [Ensures]

@[simp] theorem ensures_true {program : Except ε α} : Ensures program (fun _ => True) ↔ True := by
  simp [Ensures]

@[simp] theorem ensures_bind {program : Except ε α} {next : α → Except ε β} {post : β → Prop} :
    Ensures (program >>= next) post ↔ Ensures program fun value => Ensures (next value) post := by
  cases program with
  | error error => simp [bind, Except.bind]
  | ok value => simp [bind, Except.bind]

@[simp] theorem ensures_map {program : Except ε α} {image : α → β} {post : β → Prop} :
    Ensures (program.map image) post ↔ Ensures program fun value => post (image value) := by
  cases program with
  | error error => simp [Except.map]
  | ok value => simp [Except.map]

@[simp] theorem map_bind {program : Except ε α} {next : α → Except ε β} {image : β → σ} :
    (program >>= next).map image = program >>= fun value => (next value).map image := by
  cases program with
  | error error => rfl
  | ok value => rfl

@[simp] theorem map_ok {value : α} {image : α → β} : (.ok value : Except ε α).map image = .ok (image value) := rfl

@[simp] theorem map_error {error : ε} {image : α → β} : (.error error : Except ε α).map image = .error error := rfl

@[simp] theorem bind_error {error : ε} {next : α → Except ε β} : (.error error >>= next) = .error error := rfl

@[simp] theorem bind_ok {value : α} {next : α → Except ε β} : (.ok value >>= next) = next value := rfl

theorem map_eq_ok {program : Except ε α} {image : α → β} {value : β} :
    program.map image = .ok value ↔ ∃ raw, program = .ok raw ∧ image raw = value := by
  cases program with
  | error error => simp
  | ok raw => simp

theorem Ensures.imp {program : Except ε α} {post weaker : α → Prop} (holds : Ensures program post)
    (implied : ∀ value, post value → weaker value) : Ensures program weaker :=
  fun value returned => implied value (holds value returned)

/-- Whatever a computation returns may be passed on if the rest takes it. -/
theorem Ensures.of_forall {program : Except ε α} {post : α → Prop} (holds : ∀ value, post value) :
    Ensures program post :=
  fun value _ => holds value

/-! ### Computations that return -/

def Returns (program : Except ε α) : Prop := ∃ value, program = .ok value

@[simp] theorem returns_ok {value : α} : Returns (.ok value : Except ε α) := ⟨value, rfl⟩

@[simp] theorem not_returns_error {error : ε} : ¬ Returns (.error error : Except ε α) := by
  rintro ⟨value, returned⟩
  cases returned

@[simp] theorem returns_map {program : Except ε α} {image : α → β} : Returns (program.map image) ↔ Returns program := by
  cases program with
  | error error => simp
  | ok value => simp

theorem returns_bind {program : Except ε α} {next : α → Except ε β} :
    Returns (program >>= next) ↔ ∃ value, program = .ok value ∧ Returns (next value) := by
  cases program with
  | error error => simp
  | ok value => simp [bind, Except.bind]

/-- A loop returns if every pass does. -/
theorem returns_mapM {pass : α → Except ε β} {items : List α} :
    Returns (items.mapM pass) ↔ ∀ item ∈ items, Returns (pass item) := by
  induction items with
  | nil => simp [pure, Except.pure]
  | cons item rest ih =>
    rw [List.mapM_cons, returns_bind, List.forall_mem_cons, ← ih]
    constructor
    · rintro ⟨value, passed, others⟩
      obtain ⟨values, all, -⟩ := returns_bind.mp others
      exact ⟨⟨value, passed⟩, values, all⟩
    · rintro ⟨⟨value, passed⟩, values, all⟩
      exact ⟨value, passed, returns_bind.mpr ⟨values, all, returns_ok⟩⟩

end Raising
