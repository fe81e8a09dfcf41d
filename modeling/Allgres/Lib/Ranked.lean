import Mathlib.Data.List.Sort
import Allgres.Lib.Table

/-! Rows sorted by a score, the highest first: where the newest row stands among them,
and what a cut behind the first rows keeps and drops. -/

namespace Relational

variable {α κ : Type} [LinearOrder κ] {score : α → κ} {r : α → α → Prop} [DecidableRel r] {a x : α} {l pre post : List α}

section Sorting

variable (spec : ∀ a b, r a b ↔ score b ≤ score a)

include spec

theorem pairwise_score (l : List α) : (l.insertionSort r).Pairwise fun a b => score b ≤ score a := by
  have total : Std.Total r := ⟨fun a b => by rw [spec, spec]; exact le_total (score b) (score a)⟩
  have trans : IsTrans α r := ⟨fun a b c => by rw [spec, spec, spec]; exact fun ab bc => le_trans bc ab⟩
  exact (List.pairwise_insertionSort r l).imp fun {a b} ordered => (spec a b).mp ordered

theorem orderedInsert_front (before : score x ≤ score a) (pre : List α) :
    (pre ++ x :: post).orderedInsert r a = pre.orderedInsert r a ++ x :: post := by
  induction pre with
  | nil =>
    have first : r a x := (spec a x).mpr before
    simp [first]
  | cons b pre ih =>
    simp only [List.cons_append, List.orderedInsert_cons]
    split
    · rfl
    · rw [ih, List.cons_append]

theorem orderedInsert_behind (behind : score a < score x) (higher : ∀ b ∈ pre, score x ≤ score b) :
    (pre ++ x :: post).orderedInsert r a = pre ++ x :: post.orderedInsert r a := by
  induction pre with
  | nil =>
    have later : ¬ r a x := fun first => absurd ((spec a x).mp first) (not_le.mpr behind)
    simp [later]
  | cons b pre ih =>
    have later : ¬ r a b := by
      intro first
      have low : score a < score b := lt_of_lt_of_le behind (higher b (List.mem_cons_self ..))
      exact absurd ((spec a b).mp first) (not_le.mpr low)
    rw [List.cons_append, List.orderedInsert_cons, if_neg later, List.cons_append,
      ih fun c inside => higher c (List.mem_cons_of_mem b inside)]

/-- The last row stands behind the rows that score as much as it does. -/
theorem insertionSort_last (l : List α) (x : α) :
    ∃ pre post, (l ++ [x]).insertionSort r = pre ++ x :: post ∧ (pre ++ post).Perm l ∧
      (∀ b ∈ pre, score x ≤ score b) ∧ ∀ b ∈ post, score b < score x := by
  induction l with
  | nil => exact ⟨[], [], rfl, .refl [], by simp, by simp⟩
  | cons a l ih =>
    obtain ⟨pre, post, sorted, perm, higher, lower⟩ := ih
    rw [List.cons_append, List.insertionSort_cons, sorted]
    rcases le_or_gt (score x) (score a) with before | behind
    · refine ⟨pre.orderedInsert r a, post, orderedInsert_front spec before pre, ?_, ?_, lower⟩
      · exact ((List.perm_orderedInsert r a pre).append_right post).trans (perm.cons a)
      · intro b inside
        rcases (List.mem_orderedInsert r).mp inside with rfl | old
        · exact before
        · exact higher b old
    · refine ⟨pre, post.orderedInsert r a, orderedInsert_behind spec behind higher, ?_, higher, ?_⟩
      · exact ((List.perm_orderedInsert r a post).append_left pre).trans
          (List.perm_middle.trans (perm.cons a))
      · intro b inside
        rcases (List.mem_orderedInsert r).mp inside with rfl | old
        · exact behind
        · exact lower b old

end Sorting

/-- How many rows score as much as the last one is its place. -/
theorem place_last (perm : (pre ++ post).Perm l) (higher : ∀ b ∈ pre, score x ≤ score b)
    (lower : ∀ b ∈ post, score b < score x) : pre.length = l.countP fun b => decide (score x ≤ score b) := by
  have front : (pre.countP fun b => decide (score x ≤ score b)) = pre.length :=
    List.countP_eq_length.mpr fun b inside => decide_eq_true (higher b inside)
  have behind : (post.countP fun b => decide (score x ≤ score b)) = 0 :=
    List.countP_eq_zero.mpr fun b inside => by simpa using lower b inside
  rw [← perm.countP_eq, List.countP_append, front, behind, Nat.add_zero]

/-- The rows in front of the n-th place score at least what the row there does, the rows
behind it at most that. -/
theorem split_nth (sorted : l.Pairwise fun a b => score b ≤ score a) {n : Nat} (nth : l[n]? = some x) :
    ∃ pre post, l = pre ++ x :: post ∧ pre.length = n ∧ (∀ a ∈ pre, score x ≤ score a) ∧ ∀ a ∈ post, score a ≤ score x := by
  obtain ⟨long, rfl⟩ := List.getElem?_eq_some_iff.mp nth
  have split : l = l.take n ++ l[n] :: l.drop (n + 1) := by
    rw [← List.drop_eq_getElem_cons long, List.take_append_drop]
  have parts := sorted
  rw [split, List.pairwise_append, List.pairwise_cons] at parts
  refine ⟨l.take n, l.drop (n + 1), split, List.length_take_of_le (Nat.le_of_lt long), ?_, parts.2.1.1⟩
  exact fun a inside => parts.2.2 a inside _ (List.mem_cons_self ..)

/-- A score is at least that of the row in the n-th place where at most n rows score more. -/
theorem nth_score_le (sorted : l.Pairwise fun a b => score b ≤ score a) {n : Nat} (nth : l[n]? = some x) (s : κ) :
    score x ≤ s ↔ (l.countP fun a => decide (s < score a)) ≤ n := by
  obtain ⟨pre, post, rfl, size, higher, lower⟩ := split_nth sorted nth
  rw [List.countP_append]
  constructor
  · intro low
    have front : (pre.countP fun a => decide (s < score a)) ≤ pre.length := List.countP_le_length
    have behind : ((x :: post).countP fun a => decide (s < score a)) = 0 := by
      refine List.countP_eq_zero.mpr fun a inside => ?_
      have atMost : score a ≤ score x := by
        rcases List.mem_cons.mp inside with rfl | later
        · exact le_refl _
        · exact lower a later
      simpa using le_trans atMost low
    omega
  · intro few
    by_contra high
    have more := not_le.mp high
    have front : (pre.countP fun a => decide (s < score a)) = pre.length :=
      List.countP_eq_length.mpr fun a inside => decide_eq_true (lt_of_lt_of_le more (higher a inside))
    have behind : 0 < (x :: post).countP fun a => decide (s < score a) :=
      List.countP_pos_iff.mpr ⟨x, List.mem_cons_self .., decide_eq_true more⟩
    omega

/-- The rows up to the n-th place score at least what the row there does. -/
theorem nth_score_count (sorted : l.Pairwise fun a b => score b ≤ score a) {n : Nat} (nth : l[n]? = some x) :
    n < l.countP fun a => decide (score x ≤ score a) := by
  obtain ⟨pre, post, rfl, size, higher, -⟩ := split_nth sorted nth
  have front : (pre.countP fun a => decide (score x ≤ score a)) = pre.length :=
    List.countP_eq_length.mpr fun a inside => decide_eq_true (higher a inside)
  have behind : 0 < (x :: post).countP fun a => decide (score x ≤ score a) :=
    List.countP_pos_iff.mpr ⟨x, List.mem_cons_self .., decide_eq_true (le_refl _)⟩
  rw [List.countP_append]
  omega

namespace Table

section Cutting

variable {table : Table α} {cond : α → Bool} {ranked : List (Nat × α)} {limit key other : Nat} {row kept : α}

/-- `DELETE` of the rows of a list behind the first ones. -/
def cut (table : Table α) (ranked : List (Nat × α)) (limit : Nat) : Table α :=
  table.delete fun key _ => (ranked.drop limit).any fun row => row.1 == key

variable (perm : ranked.Perm (table.select fun _ row => cond row))

include perm

theorem mem_ranked : (key, row) ∈ ranked ↔ table.get? key = some row ∧ cond row = true :=
  perm.mem_iff.trans mem_select

theorem get?_cut : (table.cut ranked limit).get? key = some row ↔
    table.get? key = some row ∧ (key, row) ∉ ranked.drop limit := by
  have dropped (found : table.get? key = some row) :
      ((ranked.drop limit).any fun row => row.1 == key) = true ↔ (key, row) ∈ ranked.drop limit := by
    rw [List.any_eq_true]
    constructor
    · rintro ⟨⟨first, value⟩, inside, same⟩
      obtain rfl : first = key := eq_of_beq same
      have held := ((mem_ranked perm).mp (List.mem_of_mem_drop inside)).1
      obtain rfl : value = row := Option.some.inj (held.symm.trans found)
      exact inside
    · intro inside
      exact ⟨_, inside, beq_self_eq_true key⟩
  rw [cut, get?_delete, Option.filter_eq_some_iff]
  refine and_congr_right fun found => ?_
  rw [Bool.not_eq_true', ← Bool.not_eq_true, not_iff_not]
  exact dropped found

theorem get?_cut_unfit (unfit : cond row = false) :
    (table.cut ranked limit).get? key = some row ↔ table.get? key = some row := by
  rw [get?_cut perm]
  refine ⟨And.left, fun found => ⟨found, fun dropped => ?_⟩⟩
  have fit := ((mem_ranked perm).mp (List.mem_of_mem_drop dropped)).2
  rw [unfit] at fit
  cases fit

theorem mem_take_of_cut (fit : cond row = true) (found : (table.cut ranked limit).get? key = some row) :
    (key, row) ∈ ranked.take limit := by
  obtain ⟨held, stays⟩ := (get?_cut perm).mp found
  have among : (key, row) ∈ ranked.take limit ++ ranked.drop limit := by
    rw [List.take_append_drop]
    exact (mem_ranked perm).mpr ⟨held, fit⟩
  exact (List.mem_append.mp among).resolve_right stays

theorem count_cut_le : (table.cut ranked limit).count (fun _ row => cond row) ≤ limit := by
  have fits : ((table.cut ranked limit).select fun _ row => cond row).Subperm (ranked.take limit) := by
    refine List.subperm_of_subset ?_ ?_
    · exact List.Nodup.of_map Prod.fst (select_keys_nodup (table.cut ranked limit) _)
    · rintro ⟨key, row⟩ member
      obtain ⟨found, fit⟩ := mem_select.mp member
      exact mem_take_of_cut perm fit found
  have short := fits.length_le
  rw [List.length_take] at short
  have size : (table.cut ranked limit).count (fun _ row => cond row) =
      ((table.cut ranked limit).select fun _ row => cond row).length := List.countP_eq_length_filter
  omega

/-- No dropped row scores above a kept one. -/
theorem score_cut {score : Nat × α → κ} (sorted : ranked.Pairwise fun a b => score b ≤ score a)
    (found : table.get? key = some row) (dropped : (table.cut ranked limit).get? key ≠ some row)
    (fit : cond kept = true) (stays : (table.cut ranked limit).get? other = some kept) :
    score (key, row) ≤ score (other, kept) := by
  have first := mem_take_of_cut perm fit stays
  have last : (key, row) ∈ ranked.drop limit := by
    by_contra remains
    exact dropped ((get?_cut perm).mpr ⟨found, remains⟩)
  rw [← List.take_append_drop limit ranked, List.pairwise_append] at sorted
  exact sorted.2.2 _ first _ last

end Cutting

theorem select_insert_fit (table : Table α) (cond : Nat → α → Bool) {row : α} (fit : cond table.next row = true) :
    (table.insert row).select cond = table.select cond ++ [(table.next, row)] := by
  simp [select, insert, fit]

/-- The newest row stays where fewer than the limit score as much as it does. -/
theorem newest_kept (table : Table α) (cond : α → Bool) {row : α} {r : Nat × α → Nat × α → Prop} [DecidableRel r]
    {score : Nat × α → κ} (spec : ∀ a b, r a b ↔ score b ≤ score a) (fit : cond row = true) (limit : Nat) :
    (((table.insert row).cut (((table.insert row).select fun _ row => cond row).insertionSort r) limit).get?
        table.next).isSome = true ↔
      ((table.select fun _ row => cond row).countP fun other => decide (score (table.next, row) ≤ score other)) < limit := by
  obtain ⟨pre, post, sorted, perm, higher, lower⟩ :=
    insertionSort_last spec (table.select fun _ row => cond row) (table.next, row)
  rw [← select_insert_fit table (fun _ row => cond row) fit] at sorted
  have place := place_last perm higher lower
  have absent (old : (table.next, row) ∈ pre ++ post) : False := by
    have found := (mem_select.mp (perm.mem_iff.mp old)).1
    rw [get?_next] at found
    cases found
  have stays : (table.next, row) ∉ (pre ++ (table.next, row) :: post).drop limit ↔ pre.length < limit := by
    rw [List.drop_append, List.mem_append, not_or]
    constructor
    · intro apart
      by_contra long
      rw [Nat.sub_eq_zero_of_le (by omega), List.drop_zero] at apart
      exact apart.2 (List.mem_cons_self ..)
    · intro short
      obtain ⟨more, size⟩ : ∃ more, limit - pre.length = more + 1 := ⟨limit - pre.length - 1, by omega⟩
      rw [size, List.drop_succ_cons]
      exact ⟨fun inside => absent (List.mem_append_left post (List.mem_of_mem_drop inside)),
        fun inside => absent (List.mem_append_right pre (List.mem_of_mem_drop inside))⟩
  have whole : ((table.insert row).cut (((table.insert row).select fun _ row => cond row).insertionSort r) limit).get?
      table.next = some row ↔ pre.length < limit := by
    rw [get?_cut (List.perm_insertionSort r _), sorted, stays]
    exact and_iff_right (get?_insert_next table row)
  rw [← place, ← whole, Option.isSome_iff_exists]
  constructor
  · rintro ⟨value, found⟩
    have held := ((get?_cut (List.perm_insertionSort r _)).mp found).1
    rw [get?_insert_next] at held
    rw [held]
    exact found
  · exact fun found => ⟨row, found⟩

end Table

end Relational
