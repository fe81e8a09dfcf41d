import Allgres.Lib.Table

/-! How a table may evolve: which changes of a row are allowed, which rows may be deleted, and which values stay
unique. -/

namespace Relational

open Table

/-- Every row has changed as it may or is gone if it may; the others are new. -/
structure Evolves {α : Type} (changes : α → α → Prop) (goes : α → Prop) (old new : Table α) : Prop where
  next : old.next ≤ new.next
  row : ∀ key row, old.get? key = some row →
    (∃ later, new.get? key = some later ∧ changes row later) ∨ new.get? key = none ∧ goes row
  fresh : ∀ key row, new.get? key = some row → old.get? key = none → old.next ≤ key

/-- An update of the columns that an image leaves out. -/
theorem Table.map_update {α β : Type} {image : α → β} {set : Nat → α → α} (table : Table α) (cond : Nat → α → Bool)
    (same : ∀ key row, image (set key row) = image row) : (table.update cond set).map image = table.map image := by
  simp only [Table.map, Table.update, mk.injEq, List.map_map, and_true]
  refine List.map_congr_left fun row _ => ?_
  dsimp only [Function.comp]
  split
  · rw [same]
  · rfl

namespace Evolves

variable {α : Type} {changes : α → α → Prop} {goes : α → Prop} {a b c : Table α} {key : Nat} {row later : α}

theorem refl (reflexive : ∀ row, changes row row) (a : Table α) : Evolves changes goes a a where
  next := Nat.le_refl _
  row _ row found := .inl ⟨row, found, reflexive row⟩
  fresh key row found absent := by
    rw [absent] at found
    cases found

/-- A row that is deleted later could have been deleted at once. -/
theorem trans (transitive : ∀ {x y z}, changes x y → changes y z → changes x z)
    (backwards : ∀ {x y}, changes x y → goes y → goes x) (first : Evolves changes goes a b)
    (second : Evolves changes goes b c) : Evolves changes goes a c where
  next := Nat.le_trans first.next second.next
  row key row found := by
    rcases first.row key row found with ⟨middle, there, change⟩ | ⟨gone, goes⟩
    · rcases second.row key middle there with ⟨last, now, again⟩ | ⟨gone, goes⟩
      · exact .inl ⟨last, now, transitive change again⟩
      · exact .inr ⟨gone, backwards change goes⟩
    · refine .inr ⟨?_, goes⟩
      cases now : c.get? key with
      | none => rfl
      | some again =>
        have issued : b.next ≤ key := second.fresh key again now gone
        have held : key < a.next := get?_lt_next found
        exact absurd (Nat.le_trans first.next issued) (by omega)
  fresh key row found absent := by
    cases there : b.get? key with
    | some middle => exact first.fresh key middle there absent
    | none => exact Nat.le_trans first.next (second.fresh key row found there)

theorem insert (reflexive : ∀ row, changes row row) (a : Table α) (row : α) :
    Evolves changes goes a (a.insert row) where
  next := Nat.le_succ a.next
  row key old found := .inl ⟨old, get?_insert_old row found, reflexive old⟩
  fresh key new found absent := by
    rw [get?_insert] at found
    split at found
    · rename_i here
      exact Nat.le_of_eq here.symm
    · rw [absent] at found
      cases found

theorem update (reflexive : ∀ row, changes row row) (a : Table α) {cond : Nat → α → Bool} {set : Nat → α → α}
    (allowed : ∀ key row, a.get? key = some row → cond key row = true → changes row (set key row)) :
    Evolves changes goes a (a.update cond set) where
  next := Nat.le_refl _
  row key row found := by
    refine .inl ⟨if cond key row then set key row else row, by rw [get?_update, found]; rfl, ?_⟩
    split
    · rename_i chosen
      exact allowed key row found chosen
    · exact reflexive row
  fresh key row found absent := by
    rw [get?_update, absent] at found
    cases found

theorem modify (reflexive : ∀ row, changes row row) (a : Table α) (key : Nat) {set : α → α}
    (allowed : ∀ row, a.get? key = some row → changes row (set row)) : Evolves changes goes a (a.modify key set) := by
  refine update reflexive a fun other row found chosen => ?_
  obtain rfl := beq_iff_eq.mp chosen
  exact allowed row found

theorem delete (reflexive : ∀ row, changes row row) (a : Table α) {cond : Nat → α → Bool}
    (allowed : ∀ key row, a.get? key = some row → cond key row = true → goes row) :
    Evolves changes goes a (a.delete cond) where
  next := Nat.le_refl _
  row key row found := by
    rw [get?_delete, found, Option.filter_some]
    cases chosen : cond key row with
    | true => exact .inr ⟨rfl, allowed key row found chosen⟩
    | false => exact .inl ⟨row, rfl, reflexive row⟩
  fresh key row found absent := by
    rw [get?_delete, absent] at found
    cases found

/-- Where no row may be deleted every row is there later. -/
theorem kept (evolves : Evolves changes (fun _ => False) a b) (found : a.get? key = some row) :
    ∃ later, b.get? key = some later ∧ changes row later :=
  (evolves.row key row found).resolve_right fun gone => gone.2

end Evolves

/-- A partial unique index: no two rows have the same value, if they have one. -/
def Table.Indexed {α β : Type} (index : α → Option β) (table : Table α) : Prop :=
  ∀ a b x y value, table.get? a = some x → table.get? b = some y → index x = some value → index y = some value → a = b

namespace Table.Indexed

variable {α β : Type} {index : α → Option β} {table : Table α}

theorem insert (indexed : table.Indexed index) {row : α}
    (free : ∀ key old value, table.get? key = some old → index row = some value → index old ≠ some value) :
    (table.insert row).Indexed index := by
  intro a b x y value first second left right
  rw [get?_insert] at first second
  split at first
  · rename_i here
    obtain rfl := Option.some.inj first
    split at second
    · rename_i there
      exact here.trans there.symm
    · exact absurd right (free b y value second left)
  · split at second
    · obtain rfl := Option.some.inj second
      exact absurd left (free a x value first right)
    · exact indexed a b x y value first second left right

/-- A row that is rewritten keeps its value or loses it. -/
theorem update (indexed : table.Indexed index) {cond : Nat → α → Bool} {set : Nat → α → α}
    (keeps : ∀ key row value, index (set key row) = some value → index row = some value) :
    (table.update cond set).Indexed index := by
  have old (key : Nat) (row : α) (value : β)
      (found : index (if cond key row then set key row else row) = some value) : index row = some value := by
    split at found
    · exact keeps key row value found
    · exact found
  intro a b x y value first second left right
  rw [get?_update] at first second
  obtain ⟨x, here, rfl⟩ := Option.map_eq_some_iff.mp first
  obtain ⟨y, there, rfl⟩ := Option.map_eq_some_iff.mp second
  exact indexed a b x y value here there (old a x value left) (old b y value right)

theorem modify (indexed : table.Indexed index) (key : Nat) {set : α → α}
    (keeps : ∀ row value, table.get? key = some row → index (set row) = some value → index row = some value) :
    (table.modify key set).Indexed index := by
  cases found : table.get? key with
  | none =>
    rw [modify_absent set found]
    exact indexed
  | some row =>
    rw [modify_const set found]
    intro a b x y value first second left right
    rw [get?_modify] at first second
    have old (other : Nat) (now : α) (there : (if other = key then (table.get? other).map fun _ => set row
        else table.get? other) = some now) (held : index now = some value) :
        ∃ before, table.get? other = some before ∧ index before = some value := by
      split at there
      · rename_i same
        subst same
        rw [found] at there
        obtain rfl := Option.some.inj there
        exact ⟨row, found, keeps row value found held⟩
      · exact ⟨now, there, held⟩
    obtain ⟨x, first, left⟩ := old a x first left
    obtain ⟨y, second, right⟩ := old b y second right
    exact indexed a b x y value first second left right

end Table.Indexed

end Relational
