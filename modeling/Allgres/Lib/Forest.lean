import Mathlib.Data.List.Basic
import Mathlib.Data.Set.Finite.Basic
import Mathlib.Logic.Relation
import Mathlib.Order.WellFounded

/-! Forests given by what each node says about its parent. -/

namespace Forest

variable {ν μ : Type} {parent : ν → Option Nat} {nodes nodes' : Nat → Option ν} {t : Nat} {above : List ν}

/-- The nodes from `t` up to its root, `t` itself first. -/
inductive Ancestry (parent : ν → Option Nat) (nodes : Nat → Option ν) : Nat → List ν → Prop
  | root {t : Nat} {node : ν} : nodes t = some node → parent node = none → Ancestry parent nodes t [node]
  | child {t p : Nat} {node : ν} {above : List ν} : nodes t = some node → parent node = some p →
      Ancestry parent nodes p above → Ancestry parent nodes t (node :: above)

theorem Ancestry.head (chain : Ancestry parent nodes t above) : ∃ node rest, nodes t = some node ∧ above = node :: rest := by
  cases chain with
  | root found _ => exact ⟨_, _, found, rfl⟩
  | child found _ _ => exact ⟨_, _, found, rfl⟩

theorem Ancestry.unique {other : List ν} (chain : Ancestry parent nodes t above)
    (again : Ancestry parent nodes t other) : other = above := by
  induction chain generalizing other with
  | root found top =>
    cases again with
    | root found' _ => rw [Option.some.inj (found'.symm.trans found)]
    | child found' up _ =>
      obtain rfl := Option.some.inj (found'.symm.trans found)
      rw [top] at up
      cases up
  | child found up _ ih =>
    cases again with
    | root found' top =>
      obtain rfl := Option.some.inj (found'.symm.trans found)
      rw [up] at top
      cases top
    | child found' up' rest =>
      obtain rfl := Option.some.inj (found'.symm.trans found)
      obtain rfl := Option.some.inj (up'.symm.trans up)
      rw [ih rest]

/-- New nodes do not change the ancestry of the old ones. -/
theorem Ancestry.grow (kept : ∀ t node, nodes t = some node → nodes' t = some node)
    (chain : Ancestry parent nodes t above) : Ancestry parent nodes' t above := by
  induction chain with
  | root found top => exact .root (kept _ _ found) top
  | child found up _ ih => exact .child (kept _ _ found) up ih

/-- Every parent exists and is older than its children. -/
def Leftward (parent : ν → Option Nat) (nodes : Nat → Option ν) : Prop :=
  ∀ t node p, nodes t = some node → parent node = some p → p < t ∧ (nodes p).isSome

theorem Leftward.ancestry (leftward : Leftward parent nodes) {node : ν} (found : nodes t = some node) :
    ∃ above, Ancestry parent nodes t above := by
  induction t using Nat.strongRecOn generalizing node with
  | ind t ih =>
    rcases up : parent node with _ | p
    · exact ⟨_, .root found up⟩
    · obtain ⟨older, known⟩ := leftward t node p found up
      obtain ⟨top, here⟩ := Option.isSome_iff_exists.mp known
      obtain ⟨above, chain⟩ := ih p older here
      exact ⟨_, .child found up chain⟩

/-- A rank that falls towards the root bounds the length of an ancestry. -/
theorem Ancestry.length_le (rank : Nat → Nat)
    (falls : ∀ t node p, nodes t = some node → parent node = some p → (nodes p).isSome → rank p < rank t)
    (chain : Ancestry parent nodes t above) : above.length ≤ rank t + 1 := by
  induction chain with
  | root found top => simp
  | @child t p node above found up rest ih =>
    obtain ⟨_, _, here, _⟩ := rest.head
    have lower := falls t node p found up (by rw [here]; rfl)
    simp only [List.length_cons]
    omega

/-- The same forest seen through an image of its nodes. -/
theorem Ancestry.map {parent' : μ → Option Nat} {image : ν → μ} (same : ∀ node, parent' (image node) = parent node)
    (chain : Ancestry parent nodes t above) :
    Ancestry parent' (fun t => (nodes t).map image) t (above.map image) := by
  induction chain with
  | root found top => exact .root (by rw [found]; rfl) (by rw [same, top])
  | child found up _ ih => exact .child (by rw [found]; rfl) (by rw [same, up]) ih

/-- Where everything in a finite set leads to something in it, it leads around. -/
theorem exists_cycle {α : Type} {leads : α → α → Prop} {within : Set α} (finite : within.Finite)
    (some : within.Nonempty) (onward : ∀ a ∈ within, ∃ b ∈ within, leads a b) :
    ∃ a ∈ within, Relation.TransGen leads a a := by
  by_contra acyclic
  have := finite.to_subtype
  let after (b a : within) : Prop := Relation.TransGen leads a.1 b.1
  have : IsTrans within after := ⟨fun _ _ _ first second => second.trans first⟩
  have : Std.Irrefl after := ⟨fun a around => acyclic ⟨a.1, a.2, around⟩⟩
  have wellFounded : WellFounded after := Finite.wellFounded_of_trans_of_irrefl after
  obtain ⟨a, member⟩ := some
  obtain ⟨last, -, final⟩ := wellFounded.has_min Set.univ ⟨⟨a, member⟩, trivial⟩
  obtain ⟨next, inside, step⟩ := onward last.1 last.2
  exact final ⟨next, inside⟩ trivial (.single step)

end Forest
