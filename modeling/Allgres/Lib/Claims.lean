import Allgres.Lib.Table
import Mathlib.Data.List.Sort
import Mathlib.Logic.Relation

/-! Batches of rows that are picked from a table and rewritten, until none is left. -/

namespace Relational.Table

variable {α : Type} {cond : Nat → α → Bool} {earlier : Nat × α → Nat × α → Prop} [DecidableRel earlier]
  {set : α → α} {limit key : Nat} {row : α} {table : Table α}

/-- The first rows that satisfy `cond`, in the given order. -/
def pick (cond : Nat → α → Bool) (earlier : Nat × α → Nat × α → Prop) [DecidableRel earlier] (limit : Nat)
    (table : Table α) : List (Nat × α) :=
  ((table.select cond).insertionSort earlier).take limit

def rewrite (set : α → α) (table : Table α) (picked : List (Nat × α)) : Table α :=
  picked.foldl (fun table entry => table.modify entry.1 set) table

theorem get?_rewrite {picked : List (Nat × α)} (nodup : (picked.map Prod.fst).Nodup) (key : Nat) :
    (rewrite set table picked).get? key =
      if key ∈ picked.map Prod.fst then (table.get? key).map set else table.get? key := by
  induction picked generalizing table with
  | nil => rfl
  | cons entry rest ih =>
    obtain ⟨apart, distinct⟩ := List.nodup_cons.mp (show (entry.1 :: rest.map Prod.fst).Nodup from nodup)
    have onward := @ih (table.modify entry.1 set) distinct
    rw [get?_modify] at onward
    rw [show rewrite set table (entry :: rest) = rewrite set (table.modify entry.1 set) rest from rfl, onward]
    rw [List.map_cons]
    by_cases same : key = entry.1
    · subst same
      rw [if_neg apart, if_pos rfl, if_pos List.mem_cons_self]
    · have member : key ∈ entry.1 :: rest.map Prod.fst ↔ key ∈ rest.map Prod.fst := by
        rw [List.mem_cons, or_iff_right same]
      rw [if_neg same]
      simp only [member]

/-- Every rewritten row counts for one less. -/
theorem count_rewrite {picked : List (Nat × α)} (nodup : (picked.map Prod.fst).Nodup)
    (fits : ∀ entry ∈ picked, table.get? entry.1 = some entry.2 ∧ cond entry.1 entry.2 = true)
    (spent : ∀ key row, cond key (set row) = false) :
    (rewrite set table picked).count cond + picked.length = table.count cond := by
  induction picked generalizing table with
  | nil => rfl
  | cons entry rest ih =>
    obtain ⟨apart, distinct⟩ := List.nodup_cons.mp (show (entry.1 :: rest.map Prod.fst).Nodup from nodup)
    obtain ⟨found, chosen⟩ := fits entry List.mem_cons_self
    have counted := count_modify set cond found
    rw [chosen, spent] at counted
    have later : ∀ other ∈ rest, (table.modify entry.1 set).get? other.1 = some other.2 ∧
        cond other.1 other.2 = true := by
      intro other member
      have different : other.1 ≠ entry.1 := fun same => apart (same ▸ List.mem_map_of_mem member)
      rw [get?_modify, if_neg different]
      exact fits other (List.mem_cons_of_mem _ member)
    have onward := ih distinct later
    rw [show rewrite set table (entry :: rest) = rewrite set (table.modify entry.1 set) rest from rfl]
    simp only [if_true, Bool.false_eq_true, if_false, List.length_cons] at counted ⊢
    omega

theorem pick_nodup : ((table.pick cond earlier limit).map Prod.fst).Nodup := by
  have sorted : ((table.select cond).insertionSort earlier).Perm (table.select cond) := List.perm_insertionSort _ _
  have whole := (sorted.map Prod.fst).nodup_iff.mpr (select_keys_nodup table cond)
  exact whole.sublist ((List.take_sublist _ _).map _)

theorem mem_pick {entry : Nat × α} (member : entry ∈ table.pick cond earlier limit) :
    table.get? entry.1 = some entry.2 ∧ cond entry.1 entry.2 = true :=
  mem_select.mp ((List.mem_insertionSort _).mp (List.mem_of_mem_take member))

/-- One batch. -/
def batch (cond : Nat → α → Bool) (earlier : Nat × α → Nat × α → Prop) [DecidableRel earlier] (limit : Nat)
    (set : α → α) (table : Table α) : Table α :=
  rewrite set table (table.pick cond earlier limit)

/-- A row that does not satisfy `cond` is in no batch. -/
theorem get?_batch_other (found : table.get? key = some row) (unfit : cond key row = false) :
    (table.batch cond earlier limit set).get? key = some row := by
  have apart : key ∉ (table.pick cond earlier limit).map Prod.fst := by
    intro listed
    obtain ⟨entry, member, rfl⟩ := List.mem_map.mp listed
    obtain ⟨here, fits⟩ := mem_pick member
    obtain rfl := Option.some.inj (found.symm.trans here)
    rw [unfit] at fits
    cases fits
  rw [batch, get?_rewrite pick_nodup, if_neg apart, found]

theorem get?_batch_none (absent : table.get? key = none) : (table.batch cond earlier limit set).get? key = none := by
  rw [batch, get?_rewrite pick_nodup, absent]
  split <;> rfl

/-- Batch after batch, a row that satisfies `cond` gets its turn. -/
theorem exists_batch (some : 0 < limit) (spent : ∀ key row, cond key (set row) = false)
    (found : table.get? key = .some row) (fits : cond key row = true) :
    ∃ m, ((batch cond earlier limit set)^[m] table).get? key = .some (set row) := by
  induction left : table.count cond using Nat.strongRecOn generalizing table with
  | ind left ih =>
    by_cases listed : key ∈ (table.pick cond earlier limit).map Prod.fst
    · refine ⟨1, ?_⟩
      rw [Function.iterate_one, batch, get?_rewrite pick_nodup, if_pos listed, found]
      rfl
    · have still : (table.batch cond earlier limit set).get? key = .some row := by
        rw [batch, get?_rewrite pick_nodup, if_neg listed, found]
      have counted : (table.batch cond earlier limit set).count cond + (table.pick cond earlier limit).length =
          table.count cond := count_rewrite pick_nodup (fun entry member => mem_pick member) spent
      have member : (key, row) ∈ (table.select cond).insertionSort earlier :=
        (List.mem_insertionSort _).mpr (mem_select.mpr ⟨found, fits⟩)
      have nonempty : 0 < (table.pick cond earlier limit).length := by
        have more := List.length_pos_of_mem member
        rw [pick, List.length_take]
        omega
      obtain ⟨m, reached⟩ := ih _ (by omega) still rfl
      exact ⟨m + 1, by rw [Function.iterate_succ_apply]; exact reached⟩

/-- Repeated batches are a run of any moves that a batch is one of. -/
theorem iterate_path {σ τ : Type} {move : σ → σ → Prop} (put : τ → σ) (step : τ → τ)
    (moves : ∀ x, move (put x) (put (step x))) (m : Nat) (x : τ) :
    Relation.ReflTransGen move (put x) (put (step^[m] x)) := by
  induction m with
  | zero => exact .refl
  | succ m ih =>
    rw [Function.iterate_succ_apply']
    exact ih.tail (moves _)

end Relational.Table
