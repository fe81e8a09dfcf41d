import Mathlib.Data.List.Nodup
import Mathlib.Data.List.Range
import Mathlib.Logic.Relation

/-! A record whose versions are counted: one of them is in force, and each one that was
replaced by a different version has been filed. -/

namespace Archive

/-- The version in force and the filed ones, the oldest first. -/
@[ext]
structure State (V : Type) where
  live : Option V
  filed : List V

variable {V : Type} (generation : V → Nat)

/-- The filed versions are all those before the one in force, without a gap. -/
inductive Complete : State V → Prop
  | absent : Complete ⟨none, []⟩
  | present {filed : List V} {v : V} (positive : 0 < generation v)
      (counted : filed.map generation = List.range' 1 (generation v - 1)) : Complete ⟨some v, filed⟩

section Complete

variable {generation} {u v w : V} {filed : List V} (complete : Complete generation ⟨some v, filed⟩)

theorem filter_generation (nodup : (filed.map generation).Nodup) (member : u ∈ filed) :
    filed.filter (fun w => generation w == generation u) = [u] := by
  induction filed with
  | nil => cases member
  | cons first rest ih =>
    rw [List.map_cons, List.nodup_cons] at nodup
    rcases List.mem_cons.mp member with rfl | later
    · have others : rest.filter (fun w => generation w == generation u) = [] := by
        rw [List.filter_eq_nil_iff]
        intro w listed same
        exact nodup.1 (beq_iff_eq.mp same ▸ List.mem_map_of_mem listed)
      rw [List.filter_cons_of_pos (by simp), others]
    · have apart : (generation first == generation u) = false := by
        rw [beq_eq_false_iff_ne]
        intro same
        exact nodup.1 (same ▸ List.mem_map_of_mem later)
      rw [List.filter_cons, apart, if_neg Bool.false_ne_true, ih nodup.2 later]

include complete

theorem Complete.positive : 0 < generation v := by
  cases complete with
  | present positive _ => exact positive

theorem Complete.nodup : (filed.map generation).Nodup := by
  cases complete with
  | present _ counted => exact counted ▸ List.nodup_range'

theorem Complete.lt (member : u ∈ filed) : generation u < generation v := by
  cases complete with
  | present positive counted =>
    have listed : generation u ∈ filed.map generation := List.mem_map_of_mem member
    rw [counted, List.mem_range'_1] at listed
    omega

theorem Complete.filed_pos (member : u ∈ filed) : 0 < generation u := by
  cases complete with
  | present positive counted =>
    have listed : generation u ∈ filed.map generation := List.mem_map_of_mem member
    rw [counted, List.mem_range'_1] at listed
    omega

theorem Complete.unique (first : u ∈ filed) (second : w ∈ filed) (same : generation u = generation w) : u = w :=
  List.inj_on_of_nodup_map complete.nodup first second same

theorem Complete.filed_once {g : Nat} (positive : 0 < g) (earlier : g < generation v) :
    ∃ u ∈ filed, generation u = g ∧ filed.filter (fun w => generation w == g) = [u] := by
  have listed : g ∈ filed.map generation := by
    cases complete with
    | present _ counted =>
      rw [counted, List.mem_range'_1]
      omega
  obtain ⟨u, member, rfl⟩ := List.mem_map.mp listed
  exact ⟨u, member, rfl, filter_generation complete.nodup member⟩

theorem Complete.not_filed : filed.filter (fun w => generation w == generation v) = [] := by
  rw [List.filter_eq_nil_iff]
  intro w member same
  have earlier := complete.lt member
  rw [beq_iff_eq] at same
  omega

end Complete

variable [Setoid V]

inductive Step : State V → State V → Prop
  | absent {filed : List V} : Step ⟨none, filed⟩ ⟨none, filed⟩
  | created {filed : List V} {new : V} (first : generation new = 1) : Step ⟨none, filed⟩ ⟨some new, filed⟩
  | kept {filed : List V} {old new : V} (same : new ≈ old) (counted : generation new = generation old) :
      Step ⟨some old, filed⟩ ⟨some new, filed⟩
  | changed {filed : List V} {old new : V} (different : ¬ new ≈ old)
      (counted : generation new = generation old + 1) : Step ⟨some old, filed⟩ ⟨some new, filed ++ [old]⟩

abbrev Run : State V → State V → Prop := Relation.ReflTransGen (Step generation)

variable {generation} {a b : State V} {u v : V}

theorem Step.refl (a : State V) : Step generation a a := by
  obtain ⟨live, filed⟩ := a
  cases live with
  | none => exact .absent
  | some v => exact .kept (Setoid.refl v) rfl

theorem Step.complete (step : Step generation a b) (complete : Complete generation a) : Complete generation b := by
  cases step with
  | absent => exact complete
  | created first =>
    cases complete
    exact .present (by omega) (by simp [first])
  | kept same counted =>
    cases complete with
    | present positive filed => exact .present (counted ▸ positive) (counted ▸ filed)
  | @changed _ old new different counted =>
    cases complete with
    | present positive filed =>
      refine .present (by omega) ?_
      have last : generation new - 1 = (generation old - 1) + 1 := by omega
      have here : 1 + (generation old - 1) = generation old := by omega
      rw [List.map_append, filed, last, List.range'_concat]
      simp [here]

/-- Only the version in force is filed. -/
theorem Step.filed (step : Step generation a b) (member : u ∈ b.filed) : u ∈ a.filed ∨ a.live = some u := by
  cases step with
  | absent => exact .inl member
  | created => exact .inl member
  | kept => exact .inl member
  | changed =>
    rcases List.mem_append.mp member with earlier | now
    · exact .inl earlier
    · exact .inr (congrArg some (List.mem_singleton.mp now).symm)

/-- A version with the same fields is the same version: nothing is filed. -/
theorem Step.unchanged {filed : List V} (step : Step generation ⟨some u, filed⟩ b) (held : b.live = some v)
    (same : v ≈ u) : generation v = generation u ∧ b.filed = filed := by
  cases step with
  | kept _ counted =>
    obtain rfl := Option.some.inj held
    exact ⟨counted, rfl⟩
  | changed different counted =>
    obtain rfl := Option.some.inj held
    exact absurd same different

/-- Once a version has been in force it is still in force, or it is on file, up to
the fields that do not count as a change. -/
theorem Run.remembers (run : Run generation a b) (held : a.live = some v) : ∃ w, b.live = some w ∧
    (w ≈ v ∧ generation w = generation v ∨
      generation v < generation w ∧ ∃ u ∈ b.filed, u ≈ v ∧ generation u = generation v) := by
  induction run with
  | refl => exact ⟨v, held, .inl ⟨Setoid.refl v, rfl⟩⟩
  | tail _ step ih =>
    obtain ⟨w, live, kept⟩ := ih
    cases step with
    | absent => cases live
    | created => cases live
    | kept same counted =>
      obtain rfl := Option.some.inj live
      refine ⟨_, rfl, ?_⟩
      rcases kept with ⟨here, equal⟩ | ⟨later, there⟩
      · exact .inl ⟨Setoid.trans same here, counted.trans equal⟩
      · exact .inr ⟨by omega, there⟩
    | changed different counted =>
      obtain rfl := Option.some.inj live
      refine ⟨_, rfl, .inr ?_⟩
      rcases kept with ⟨here, equal⟩ | ⟨later, u, member, there⟩
      · exact ⟨by omega, _, List.mem_append_right _ (List.mem_singleton_self _), here, equal⟩
      · exact ⟨by omega, u, List.mem_append_left _ member, there⟩

/-- The version on file under a generation is the one that was in force under it. -/
theorem Run.filed_was_live (run : Run generation a b) (complete : Complete generation b) (held : a.live = some v)
    (member : u ∈ b.filed) (same : generation u = generation v) : u ≈ v := by
  obtain ⟨w, live, kept⟩ := run.remembers held
  obtain ⟨found, filed⟩ := b
  obtain rfl : found = some w := live
  rcases kept with ⟨_, equal⟩ | ⟨_, other, listed, alike, equal⟩
  · have earlier := complete.lt member
    omega
  · obtain rfl := complete.unique member listed (same.trans equal.symm)
    exact alike

end Archive
