import Allgres.Lib.RustStr

/-! Searching a text for a marker whose first character does not come again in it. -/

namespace Search

open RustStr

variable {head c : Char} {tail marker piece more rest text : List Char}

/-- What follows each occurrence of the marker. -/
def hits (marker : List Char) : List Char → List (List Char)
  | [] => []
  | c :: rest =>
    if marker.isPrefixOf (c :: rest) then (c :: rest).drop marker.length :: hits marker rest else hits marker rest

/-- No occurrence starts in the piece. -/
def Silent (marker : List Char) : List Char → List Char → Prop
  | [], _ => True
  | c :: piece, rest => ¬ marker <+: c :: (piece ++ rest) ∧ Silent marker piece rest

theorem silent_append : Silent marker (piece ++ more) rest ↔ Silent marker piece (more ++ rest) ∧ Silent marker more rest := by
  induction piece with
  | nil => simp [Silent]
  | cons c piece ih => simp only [List.cons_append, Silent, List.append_assoc, ih, and_assoc]

theorem silent_of_not_mem (absent : head ∉ piece) : Silent (head :: tail) piece rest := by
  induction piece with
  | nil => trivial
  | cons c piece ih =>
    rw [List.mem_cons, not_or] at absent
    exact ⟨fun starts => absent.1 (List.cons_prefix_cons.mp starts).1, ih absent.2⟩

theorem silent_cons (apart : c = head → ¬ tail <+: piece ++ rest) (quiet : Silent (head :: tail) piece rest) :
    Silent (head :: tail) (c :: piece) rest := by
  refine ⟨fun starts => ?_, quiet⟩
  obtain ⟨same, more⟩ := List.cons_prefix_cons.mp starts
  exact apart same.symm more

theorem hits_miss (missed : ¬ marker <+: c :: rest) : hits marker (c :: rest) = hits marker rest := by
  have other : ¬ marker.isPrefixOf (c :: rest) = true := fun starts => missed (List.isPrefixOf_iff_prefix.mp starts)
  rw [hits, if_neg other]

theorem hits_silent (quiet : Silent marker piece rest) : hits marker (piece ++ rest) = hits marker rest := by
  induction piece with
  | nil => rfl
  | cons c piece ih =>
    rw [List.cons_append, hits_miss quiet.1]
    exact ih quiet.2

theorem hits_marker (once : head ∉ tail) :
    hits (head :: tail) (head :: tail ++ rest) = rest :: hits (head :: tail) rest := by
  have found : (head :: tail).isPrefixOf (head :: (tail ++ rest)) = true :=
    List.isPrefixOf_iff_prefix.mpr (List.cons_prefix_cons.mpr ⟨rfl, List.prefix_append tail rest⟩)
  rw [List.cons_append, hits, if_pos found, hits_silent (silent_of_not_mem once)]
  simp

/-- The first occurrence is the one that a search from the left finds. -/
theorem afterFirst_eq : afterFirst (head :: tail) text = (hits (head :: tail) text).head? := by
  induction text with
  | nil => rfl
  | cons c rest ih =>
    rw [afterFirst, hits]
    split
    · rfl
    · exact ih

theorem hits_ne_nil : hits (head :: tail) text ≠ [] ↔ head :: tail <:+: text := by
  induction text with
  | nil => simp [hits]
  | cons c rest ih =>
    rw [hits, List.infix_cons_iff, ← ih]
    split
    next found => simp [List.isPrefixOf_iff_prefix.mp found]
    next missed =>
      have other : ¬ head :: tail <+: c :: rest := fun starts => missed (List.isPrefixOf_iff_prefix.mpr starts)
      simp [other]

theorem afterFirst_isSome : (afterFirst (head :: tail) text).isSome = true ↔ head :: tail <:+: text := by
  rw [afterFirst_eq, ← hits_ne_nil, List.isSome_head?]

end Search
