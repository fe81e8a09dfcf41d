import Mathlib.Logic.Basic

/-! Runs of a labelled transition system whose moves all meet a condition on
their label and on the state they start from. -/

namespace Runs

variable {State Label : Type}

inductive Path (move : Label → State → State → Prop) (ok : Label → State → Prop) (start : State) : State → Prop
  | refl : Path move ok start start
  | step {before after : State} {label : Label} : Path move ok start before → move label before after →
      ok label before → Path move ok start after

variable {move : Label → State → State → Prop} {ok ok' : Label → State → Prop} {a b c : State}

theorem Path.single {label : Label} (taken : move label a b) (allowed : ok label a) : Path move ok a b :=
  .step .refl taken allowed

theorem Path.trans (first : Path move ok a b) (second : Path move ok b c) : Path move ok a c := by
  induction second with
  | refl => exact first
  | step _ taken allowed ih => exact .step ih taken allowed

/-- An invariant of every allowed move holds along a run. -/
theorem Path.invariant {P : State → Prop}
    (keeps : ∀ label before after, move label before after → ok label before → P before → P after)
    (run : Path move ok a b) (initially : P a) : P b := by
  induction run with
  | refl => exact initially
  | step _ taken allowed ih => exact keeps _ _ _ taken allowed ih

/-- A reflexive and transitive relation that every allowed move respects relates the
ends of a run, where the moves may be assumed to keep an invariant. -/
theorem Path.relates {P : State → Prop} {R : State → State → Prop}
    (refl : ∀ s, R s s) (trans : ∀ r s t, R r s → R s t → R r t)
    (keeps : ∀ label before after, move label before after → ok label before → P before → P after)
    (respects : ∀ label before after, move label before after → ok label before → P before → R before after)
    (run : Path move ok a b) (initially : P a) : R a b := by
  induction run with
  | refl => exact refl a
  | @step before after label previous taken allowed ih =>
    have held := previous.invariant keeps initially
    exact trans _ _ _ ih (respects label before after taken allowed held)

/-- A loop is a run if every pass is one, given what the passes to come still rely on. -/
theorem Path.foldl {Concrete Item : Type} (view : Concrete → State) {pass : Concrete → Item → Concrete}
    (relies : List Item → Concrete → Prop)
    (passes : ∀ item rest before, relies (item :: rest) before →
      Path move ok (view before) (view (pass before item)) ∧ relies rest (pass before item))
    (items : List Item) (start : Concrete) (initially : relies items start) :
    Path move ok (view start) (view (items.foldl pass start)) ∧ relies [] (items.foldl pass start) := by
  induction items generalizing start with
  | nil => exact ⟨.refl, initially⟩
  | cons item rest ih =>
    obtain ⟨first, held⟩ := passes item rest start initially
    obtain ⟨others, last⟩ := ih (pass start item) held
    exact ⟨first.trans others, last⟩

/-- A run keeps its moves under a weaker condition. -/
theorem Path.mono (weaker : ∀ label state, ok label state → ok' label state) (run : Path move ok a b) :
    Path move ok' a b := by
  induction run with
  | refl => exact .refl
  | step _ taken allowed ih => exact .step ih taken (weaker _ _ allowed)

end Runs
