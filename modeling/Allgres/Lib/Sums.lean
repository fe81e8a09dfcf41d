import Allgres.Lib.Table
import Mathlib.Algebra.BigOperators.Group.Finset.Basic
import Mathlib.Algebra.BigOperators.Ring.Finset

/-! Totals over a table. -/

namespace Relational.Table

variable {α β : Type} [AddCommMonoid β] {table later : Table α} {value value' : Nat → α → β} {key bound : Nat}

/-- `SELECT sum(value)`. -/
def sum (table : Table α) (value : Nat → α → β) : β :=
  (table.rows.map fun row => value row.1 row.2).sum

/-- What the row under the key adds to the total. -/
def share (table : Table α) (value : Nat → α → β) (key : Nat) : β := (table.get? key).elim 0 (value key)

theorem share_of_next_le (above : table.next ≤ key) : table.share value key = 0 := by
  have absent : table.get? key = none := by
    by_contra present
    obtain ⟨row, found⟩ := Option.ne_none_iff_exists'.mp present
    have below := get?_lt_next found
    omega
  rw [share, absent, Option.elim_none]

theorem sum_eq_shares (covers : table.next ≤ bound) :
    table.sum value = ∑ key ∈ Finset.range bound, table.share value key := by
  have distinct : (table.rows.map Prod.fst).Nodup := table.ascending.imp Nat.ne_of_lt
  have rows : table.sum value = ((table.rows.map Prod.fst).map (table.share value)).sum := by
    rw [sum, List.map_map]
    refine congrArg List.sum (List.map_congr_left fun row member => ?_)
    have found : table.get? row.1 = some row.2 := mem_rows_iff.mp member
    simp only [Function.comp_apply, share, found, Option.elim_some]
  have keys : (table.rows.map Prod.fst).toFinset ⊆ Finset.range bound := by
    intro key member
    have below := table.issued key (List.mem_toFinset.mp member)
    exact Finset.mem_range.mpr (by omega)
  calc table.sum value
      = ∑ key ∈ (table.rows.map Prod.fst).toFinset, table.share value key := by
        rw [rows, List.sum_toFinset _ distinct]
    _ = ∑ key ∈ Finset.range bound, table.share value key := by
        refine Finset.sum_subset keys fun key _ outside => ?_
        have absent : table.get? key = none := by
          by_contra present
          obtain ⟨row, found⟩ := Option.ne_none_iff_exists'.mp present
          exact outside (List.mem_toFinset.mpr (List.mem_map.mpr ⟨(key, row), mem_rows_iff.mpr found, rfl⟩))
        rw [share, absent, Option.elim_none]

/-- The total depends on what is under each key only. -/
theorem sum_congr (same : ∀ key, later.share value' key = table.share value key) :
    later.sum value' = table.sum value := by
  have first : table.sum value = _ := sum_eq_shares (le_max_left table.next later.next)
  have second : later.sum value' = _ := sum_eq_shares (le_max_right table.next later.next)
  rw [first, second]
  exact Finset.sum_congr rfl fun key _ => same key

/-- A change under one key changes the total by as much. -/
theorem sum_change (others : ∀ other, other ≠ key → later.share value' other = table.share value other) :
    later.sum value' + table.share value key = table.sum value + later.share value' key := by
  obtain ⟨bound, old, new, here⟩ : ∃ bound, table.next ≤ bound ∧ later.next ≤ bound ∧ key < bound :=
    ⟨table.next + later.next + key + 1, by omega, by omega, by omega⟩
  have inside : key ∈ Finset.range bound := Finset.mem_range.mpr here
  have rest : ∑ other ∈ (Finset.range bound).erase key, later.share value' other =
      ∑ other ∈ (Finset.range bound).erase key, table.share value other :=
    Finset.sum_congr rfl fun other member => others other (Finset.ne_of_mem_erase member)
  rw [sum_eq_shares old, sum_eq_shares new, ← Finset.sum_erase_add _ _ inside, ← Finset.sum_erase_add _ _ inside, rest]
  exact add_right_comm _ _ _

end Relational.Table
