import Mathlib.Data.List.Basic
import Mathlib.Data.List.Count
import Mathlib.Data.List.Pairwise
import Mathlib.Data.List.Nodup

namespace Relational

/-- A keyed relation whose keys are handed out by the relation itself. Rows
stay in the order in which they were inserted, so keys increase along them. -/
structure Table (α : Type) where
  rows : List (Nat × α)
  next : Nat
  ascending : (rows.map Prod.fst).Pairwise (· < ·)
  issued : ∀ key ∈ rows.map Prod.fst, key < next

namespace Table

variable {α : Type}

def empty : Table α where
  rows := []
  next := 0
  ascending := by simp
  issued := by simp

def get? (table : Table α) (key : Nat) : Option α :=
  table.rows.lookup key

/-- `INSERT`: the new row gets the key `table.next`. -/
def insert (table : Table α) (row : α) : Table α where
  rows := table.rows ++ [(table.next, row)]
  next := table.next + 1
  ascending := by
    simp only [List.map_append, List.map_cons, List.map_nil, List.pairwise_append, List.pairwise_cons,
      List.not_mem_nil, false_imp_iff, implies_true, List.Pairwise.nil, and_self, List.mem_singleton, true_and]
    refine ⟨table.ascending, ?_⟩
    intro key member last same
    rw [same]
    exact table.issued key member
  issued := by
    intro key member
    simp only [List.map_append, List.map_cons, List.map_nil, List.mem_append, List.mem_singleton] at member
    rcases member with old | new
    · exact Nat.lt_succ_of_lt (table.issued key old)
    · omega

/-- `UPDATE … WHERE`: the rows that satisfy `cond` are rewritten in place. -/
def update (table : Table α) (cond : Nat → α → Bool) (set : Nat → α → α) : Table α where
  rows := table.rows.map fun row => (row.1, if cond row.1 row.2 then set row.1 row.2 else row.2)
  next := table.next
  ascending := by simpa only [List.map_map, Function.comp_def] using table.ascending
  issued := by simpa only [List.map_map, Function.comp_def] using table.issued

def modify (table : Table α) (key : Nat) (set : α → α) : Table α :=
  table.update (fun other _ => other == key) (fun _ row => set row)

/-- The same keys with every row replaced by its image. -/
def map {β : Type} (table : Table α) (image : α → β) : Table β where
  rows := table.rows.map fun row => (row.1, image row.2)
  next := table.next
  ascending := by simpa only [List.map_map, Function.comp_def] using table.ascending
  issued := by simpa only [List.map_map, Function.comp_def] using table.issued

/-- `DELETE … WHERE`. -/
def delete (table : Table α) (cond : Nat → α → Bool) : Table α where
  rows := table.rows.filter fun row => !cond row.1 row.2
  next := table.next
  ascending := table.ascending.sublist (List.filter_sublist.map _)
  issued := fun key member => table.issued key ((List.filter_sublist.map Prod.fst).subset member)

/-- `SELECT … WHERE` in insertion order. -/
def select (table : Table α) (cond : Nat → α → Bool) : List (Nat × α) :=
  table.rows.filter fun row => cond row.1 row.2

def count (table : Table α) (cond : Nat → α → Bool) : Nat :=
  table.rows.countP fun row => cond row.1 row.2

def exists? (table : Table α) (cond : Nat → α → Bool) : Bool :=
  table.rows.any fun row => cond row.1 row.2

/-- The first row that satisfies `cond`, as `SELECT … LIMIT 1` returns it. -/
def find? (table : Table α) (cond : Nat → α → Bool) : Option (Nat × α) :=
  table.rows.find? fun row => cond row.1 row.2

theorem mem_rows_iff {table : Table α} {key : Nat} {row : α} :
    (key, row) ∈ table.rows ↔ table.get? key = some row := by
  have ascending := table.ascending
  unfold get?
  generalize table.rows = rows at ascending ⊢
  induction rows with
  | nil => simp
  | cons head tail ih =>
    obtain ⟨first, value⟩ := head
    simp only [List.map_cons, List.pairwise_cons] at ascending
    have inTail := ih ascending.2
    by_cases same : key = first
    · subst same
      have absent : (key, row) ∉ tail := by
        intro member
        have later := ascending.1 key (List.mem_map.mpr ⟨_, member, rfl⟩)
        omega
      simp [absent, eq_comm]
    · have other : (key == first) = false := by simpa using same
      simp [List.lookup_cons, other, same, inTail]

theorem get?_lt_next {table : Table α} {key : Nat} {row : α} (found : table.get? key = some row) :
    key < table.next :=
  table.issued key (List.mem_map.mpr ⟨_, mem_rows_iff.mpr found, rfl⟩)

theorem get?_next (table : Table α) : table.get? table.next = none := by
  rcases found : table.get? table.next with _ | row
  · rfl
  · have below := get?_lt_next found
    omega

@[simp] theorem get?_empty (key : Nat) : (empty : Table α).get? key = none := rfl

theorem get?_insert (table : Table α) (row : α) (key : Nat) :
    (table.insert row).get? key = if key = table.next then some row else table.get? key := by
  split
  · rename_i same
    subst same
    apply mem_rows_iff.mp
    simp [insert]
  · rename_i different
    apply Option.ext
    intro value
    rw [← mem_rows_iff, ← mem_rows_iff]
    simp [insert, different]

@[simp] theorem get?_insert_next (table : Table α) (row : α) :
    (table.insert row).get? table.next = some row := by
  rw [get?_insert, if_pos rfl]

theorem get?_insert_old {table : Table α} {key : Nat} {old : α} (row : α) (found : table.get? key = some old) :
    (table.insert row).get? key = some old := by
  have below := get?_lt_next found
  rw [get?_insert, if_neg (by omega), found]

theorem get?_update (table : Table α) (cond : Nat → α → Bool) (set : Nat → α → α) (key : Nat) :
    (table.update cond set).get? key =
      (table.get? key).map fun row => if cond key row then set key row else row := by
  simp only [get?, update]
  generalize table.rows = rows
  induction rows with
  | nil => rfl
  | cons head tail ih =>
    obtain ⟨first, value⟩ := head
    simp only [List.map_cons, List.lookup_cons]
    by_cases same : key = first
    · subst same; simp
    · have other : (key == first) = false := by simpa using same
      simp only [other, ih]

theorem get?_modify (table : Table α) (key : Nat) (set : α → α) (other : Nat) :
    (table.modify key set).get? other =
      if other = key then (table.get? other).map set else table.get? other := by
  unfold modify
  rw [get?_update]
  by_cases same : other = key
  · simp [same]
  · simp [same]

/-- Only the row with the key is rewritten, so only its new value matters. -/
theorem modify_const {table : Table α} {key : Nat} {row : α} (set : α → α) (found : table.get? key = some row) :
    table.modify key set = table.modify key fun _ => set row := by
  unfold modify update
  congr 1
  apply List.map_congr_left
  rintro ⟨other, value⟩ member
  by_cases same : other = key
  · subst same
    have here := mem_rows_iff.mp member
    rw [found] at here
    obtain rfl := Option.some.inj here
    rfl
  · simp [same]

theorem modify_absent {table : Table α} {key : Nat} (set : α → α) (absent : table.get? key = none) :
    table.modify key set = table := by
  have same : ∀ row ∈ table.rows, (row.1, if row.1 == key then set row.2 else row.2) = row := by
    intro row member
    have different : row.1 ≠ key := by
      intro same
      have here := mem_rows_iff.mp (same ▸ member : (key, row.2) ∈ table.rows)
      rw [absent] at here
      cases here
    simp [different]
  cases table
  simp only [modify, update, mk.injEq, and_true]
  exact (List.map_congr_left same).trans (List.map_id _)

theorem modify_insert_next (table : Table α) (row : α) (set : α → α) :
    (table.insert row).modify table.next set = table.insert (set row) := by
  have old : ∀ entry ∈ table.rows, (entry.1, if entry.1 == table.next then set entry.2 else entry.2) = entry := by
    intro entry member
    have below := table.issued entry.1 (List.mem_map_of_mem member)
    have different : entry.1 ≠ table.next := by omega
    simp [different]
  simp only [modify, update, insert, mk.injEq, List.map_append, List.map_cons, List.map_nil, beq_self_eq_true, if_true,
    and_true]
  rw [(List.map_congr_left old).trans (List.map_id _)]

theorem get?_delete (table : Table α) (cond : Nat → α → Bool) (key : Nat) :
    (table.delete cond).get? key = (table.get? key).filter fun row => !cond key row := by
  apply Option.ext
  intro row
  rw [← mem_rows_iff, Option.filter_eq_some_iff, ← mem_rows_iff]
  simp [delete]

theorem mem_select {table : Table α} {cond : Nat → α → Bool} {key : Nat} {row : α} :
    (key, row) ∈ table.select cond ↔ table.get? key = some row ∧ cond key row = true := by
  rw [select, List.mem_filter, mem_rows_iff]

theorem select_keys_nodup (table : Table α) (cond : Nat → α → Bool) :
    ((table.select cond).map Prod.fst).Nodup := by
  have sublist : ((table.select cond).map Prod.fst).Sublist (table.rows.map Prod.fst) :=
    List.filter_sublist.map _
  exact (table.ascending.sublist sublist).imp fun below => Nat.ne_of_lt below

theorem exists?_eq_true {table : Table α} {cond : Nat → α → Bool} :
    table.exists? cond = true ↔ ∃ key row, table.get? key = some row ∧ cond key row = true := by
  simp only [exists?, List.any_eq_true, Prod.exists, mem_rows_iff]

theorem count_eq_zero {table : Table α} {cond : Nat → α → Bool} :
    table.count cond = 0 ↔ ∀ key row, table.get? key = some row → cond key row = false := by
  simp only [count, List.countP_eq_zero, Prod.forall, mem_rows_iff, Bool.not_eq_true]

theorem count_pos {table : Table α} {cond : Nat → α → Bool} :
    0 < table.count cond ↔ ∃ key row, table.get? key = some row ∧ cond key row = true := by
  simp only [count, List.countP_pos_iff, Prod.exists, mem_rows_iff]

theorem count_le_one {table : Table α} {cond : Nat → α → Bool}
    (unique : ∀ key row key' row', table.get? key = some row → cond key row = true → table.get? key' = some row' →
      cond key' row' = true → key = key') : table.count cond ≤ 1 := by
  have nodup := table.select_keys_nodup cond
  rw [count, List.countP_eq_length_filter]
  change (table.select cond).length ≤ 1
  rcases chosen : table.select cond with _ | ⟨first, _ | ⟨second, rest⟩⟩
  · simp
  · simp
  · have here := mem_select.mp (chosen ▸ List.mem_cons_self : (first.1, first.2) ∈ table.select cond)
    have there := mem_select.mp
      (chosen ▸ List.mem_cons_of_mem _ List.mem_cons_self : (second.1, second.2) ∈ table.select cond)
    have same := unique _ _ _ _ here.1 here.2 there.1 there.2
    rw [chosen] at nodup
    simp [same] at nodup

theorem find?_some {table : Table α} {cond : Nat → α → Bool} {key : Nat} {row : α}
    (found : table.find? cond = some (key, row)) : table.get? key = some row ∧ cond key row = true :=
  ⟨mem_rows_iff.mp (List.mem_of_find?_eq_some found), by simpa using List.find?_some found⟩

theorem find?_insert (table : Table α) (row : α) (cond : Nat → α → Bool) :
    (table.insert row).find? cond = (table.find? cond).or (if cond table.next row then some (table.next, row) else none) := by
  simp only [find?, insert, List.find?_append, List.find?_singleton]

/-- An update that does not change which rows are looked for. -/
theorem find?_update (table : Table α) (cond other : Nat → α → Bool) (set : Nat → α → α)
    (stable : ∀ key row, other key (if cond key row then set key row else row) = other key row) :
    (table.update cond set).find? other =
      (table.find? other).map fun row => (row.1, if cond row.1 row.2 then set row.1 row.2 else row.2) := by
  simp only [find?, update, List.find?_map, Function.comp_def, stable]

theorem count_insert (table : Table α) (row : α) (cond : Nat → α → Bool) :
    (table.insert row).count cond = table.count cond + if cond table.next row then 1 else 0 := by
  simp [count, insert, List.countP_append, List.countP_singleton]

theorem count_update (table : Table α) (cond other : Nat → α → Bool) (set : Nat → α → α)
    (stable : ∀ key row, other key (if cond key row then set key row else row) = other key row) :
    (table.update cond set).count other = table.count other := by
  simp only [count, update, List.countP_map, Function.comp_def, stable]

theorem count_lt_count {table : Table α} {cond other : Nat → α → Bool} {key : Nat} {row : α}
    (implies : ∀ key row, cond key row = true → other key row = true) (found : table.get? key = some row)
    (without : cond key row = false) (within : other key row = true) : table.count cond < table.count other := by
  have same : table.count cond = (table.select other).countP fun row => cond row.1 row.2 := by
    rw [select, List.countP_filter, count]
    apply List.countP_congr
    intro entry _
    rw [Bool.and_eq_true]
    exact ⟨fun chosen => ⟨chosen, implies _ _ chosen⟩, And.left⟩
  have fewer : ((table.select other).countP fun row => cond row.1 row.2) < (table.select other).length :=
    List.countP_lt_length_iff.mpr ⟨(key, row), mem_select.mpr ⟨found, within⟩, without⟩
  rw [same, show table.count other = (table.select other).length from List.countP_eq_length_filter]
  exact fewer

/-! ### What leaves a table as it is -/

theorem insert_ne (table : Table α) (row : α) : table.insert row ≠ table := by
  intro same
  have keys : table.next + 1 = table.next := congrArg next same
  omega

theorem update_eq_self_iff {table : Table α} {cond : Nat → α → Bool} {set : Nat → α → α} :
    table.update cond set = table ↔ ∀ key row, table.get? key = some row → cond key row = true → set key row = row := by
  constructor
  · intro same key row found chosen
    have now := table.get?_update cond set key
    rw [same, found, Option.map_some, if_pos chosen] at now
    exact (Option.some.inj now).symm
  · intro kept
    have rows : ∀ entry ∈ table.rows, (entry.1, if cond entry.1 entry.2 then set entry.1 entry.2 else entry.2) = entry := by
      intro entry member
      split
      · rename_i chosen
        rw [kept entry.1 entry.2 (mem_rows_iff.mp member) chosen]
      · rfl
    cases table
    simp only [update, mk.injEq, and_true]
    exact (List.map_congr_left rows).trans (List.map_id _)

theorem modify_eq_self_iff {table : Table α} {key : Nat} {set : α → α} :
    table.modify key set = table ↔ ∀ row, table.get? key = some row → set row = row := by
  rw [modify, update_eq_self_iff]
  constructor
  · intro kept row found
    exact kept key row found (beq_self_eq_true key)
  · intro kept other row found chosen
    obtain rfl := eq_of_beq chosen
    exact kept row found

theorem delete_eq_self_iff {table : Table α} {cond : Nat → α → Bool} :
    table.delete cond = table ↔ ∀ key row, table.get? key = some row → cond key row = false := by
  constructor
  · intro same key row found
    have now := table.get?_delete cond key
    rw [same, found, eq_comm, Option.filter_eq_some_iff] at now
    simpa using now.2
  · intro spared
    have rows : table.rows.filter (fun row => !cond row.1 row.2) = table.rows := by
      refine List.filter_eq_self.mpr fun entry member => ?_
      rw [spared entry.1 entry.2 (mem_rows_iff.mp member)]
      rfl
    cases table
    simpa only [delete, mk.injEq, and_true] using rows

/-- The rows before and after a given one have other keys. -/
theorem rows_split {table : Table α} {key : Nat} {row : α} (found : table.get? key = some row) :
    ∃ before after, table.rows = before ++ (key, row) :: after ∧ ∀ entry ∈ before ++ after, entry.1 ≠ key := by
  obtain ⟨before, after, split⟩ := List.append_of_mem (mem_rows_iff.mpr found)
  have apart := table.ascending
  rw [split, List.map_append, List.map_cons, List.pairwise_append, List.pairwise_cons] at apart
  refine ⟨before, after, split, fun entry member => ?_⟩
  rcases List.mem_append.mp member with early | late
  · have below := apart.2.2 entry.1 (List.mem_map_of_mem early) key List.mem_cons_self
    omega
  · have above := apart.2.1.1 entry.1 (List.mem_map_of_mem late)
    omega

theorem length_delete {table : Table α} {key : Nat} {row : α} (found : table.get? key = some row) :
    (table.delete fun other _ => other == key).rows.length + 1 = table.rows.length := by
  obtain ⟨before, after, split, others⟩ := rows_split found
  have kept {part : List (Nat × α)} (inside : part ⊆ before ++ after) :
      (part.filter fun entry => !(entry.1 == key)) = part := by
    refine List.filter_eq_self.mpr fun entry member => ?_
    have different := others entry (inside member)
    simp [different]
  simp only [delete, split, List.filter_append, List.filter_cons, beq_self_eq_true, Bool.not_true, Bool.false_eq_true,
    if_false, kept (List.subset_append_left before after), kept (List.subset_append_right before after),
    List.length_append, List.length_cons]
  omega

/-- Rewriting one row changes a count by what it changes about that row. -/
theorem count_modify {table : Table α} {key : Nat} {row : α} (set : α → α) (cond : Nat → α → Bool)
    (found : table.get? key = some row) :
    (table.modify key set).count cond + (if cond key row then 1 else 0) =
      table.count cond + if cond key (set row) then 1 else 0 := by
  obtain ⟨before, after, split, others⟩ := rows_split found
  have kept {part : List (Nat × α)} (inside : part ⊆ before ++ after) :
      (part.map fun entry => (entry.1, if entry.1 == key then set entry.2 else entry.2)) = part := by
    refine (List.map_congr_left fun entry member => ?_).trans (List.map_id _)
    have different := others entry (inside member)
    simp [different]
  simp only [modify, update, count, split, List.map_append, List.map_cons, beq_self_eq_true, if_true,
    kept (List.subset_append_left before after), kept (List.subset_append_right before after), List.countP_append,
    List.countP_cons]
  omega

/-- A row counts for one among all the rows that satisfy `cond`. -/
theorem count_others {table : Table α} {key : Nat} {row : α} (cond : Nat → α → Bool)
    (found : table.get? key = some row) :
    (table.count fun other row => cond other row && other != key) + (if cond key row then 1 else 0) =
      table.count cond := by
  obtain ⟨before, after, split, others⟩ := rows_split found
  have kept {part : List (Nat × α)} (inside : part ⊆ before ++ after) :
      (part.countP fun entry => cond entry.1 entry.2 && entry.1 != key) =
        part.countP fun entry => cond entry.1 entry.2 := by
    refine List.countP_congr fun entry member => ?_
    have different := others entry (inside member)
    simp [different]
  simp only [count, split, List.countP_append, List.countP_cons, kept (List.subset_append_left before after),
    kept (List.subset_append_right before after), bne_self_eq_false, Bool.and_false, Bool.false_eq_true, if_false]
  omega

/-- A row that is deleted counts no longer. -/
theorem count_delete {table : Table α} {key : Nat} {row : α} (cond : Nat → α → Bool)
    (found : table.get? key = some row) :
    (table.delete fun other _ => other == key).count cond + (if cond key row then 1 else 0) = table.count cond := by
  rw [← count_others cond found, count, count, delete, List.countP_filter]
  rfl

/-- A count does not fall where the rows that count are still there and still count. -/
theorem count_le_count {table later : Table α} {cond : Nat → α → Bool}
    (kept : ∀ key row, table.get? key = some row → cond key row = true →
      ∃ row, later.get? key = some row ∧ cond key row = true) : table.count cond ≤ later.count cond := by
  have inside : (table.select cond).map Prod.fst ⊆ (later.select cond).map Prod.fst := by
    intro key member
    obtain ⟨⟨key, row⟩, chosen, rfl⟩ := List.mem_map.mp member
    obtain ⟨found, fits⟩ := mem_select.mp chosen
    obtain ⟨new, here, still⟩ := kept key row found fits
    exact List.mem_map.mpr ⟨(key, new), mem_select.mpr ⟨here, still⟩, rfl⟩
  have shorter := (List.subperm_of_subset (select_keys_nodup table cond) inside).length_le
  rw [List.length_map, List.length_map] at shorter
  rw [count, count, List.countP_eq_length_filter, List.countP_eq_length_filter]
  exact shorter

/-- A new row that does not satisfy the condition is not selected. -/
theorem select_insert_unfit {table : Table α} {cond : Nat → α → Bool} {row : α}
    (unfit : cond table.next row = false) : (table.insert row).select cond = table.select cond := by
  simp only [select, insert, List.filter_append, List.filter_cons, unfit, Bool.false_eq_true, if_false, List.filter_nil,
    List.append_nil]

/-- Neither is a row that satisfies it neither before nor after a change. -/
theorem select_modify_unfit {table : Table α} {key : Nat} {old : α} {cond : Nat → α → Bool} {set : α → α}
    (found : table.get? key = some old) (before : cond key old = false) (changed : cond key (set old) = false) :
    (table.modify key set).select cond = table.select cond := by
  obtain ⟨first, last, rows, apart⟩ := rows_split found
  have away {rest : List (Nat × α)} (other : ∀ row ∈ rest, row.1 ≠ key) :
      rest.map (fun row => (row.1, if row.1 == key then set row.2 else row.2)) = rest := by
    refine (List.map_congr_left fun row member => ?_).trans (List.map_id rest)
    rw [if_neg (by simpa using other row member)]
    rfl
  have earlier := away fun row member => apart row (List.mem_append_left _ member)
  have later := away fun row member => apart row (List.mem_append_right _ member)
  simp only [select, modify, update, rows, List.map_append, List.map_cons, earlier, later, beq_self_eq_true, if_true,
    List.filter_append, List.filter_cons, before, changed, Bool.false_eq_true, if_false]

theorem get?_map {β : Type} (table : Table α) (image : α → β) (key : Nat) :
    (table.map image).get? key = (table.get? key).map image := by
  simp only [get?, map]
  generalize table.rows = rows
  induction rows with
  | nil => rfl
  | cons head tail ih =>
    obtain ⟨first, value⟩ := head
    simp only [List.map_cons, List.lookup_cons]
    by_cases same : key = first
    · subst same; simp
    · have other : (key == first) = false := by simpa using same
      simp only [other, ih]

theorem exists?_map {β : Type} (table : Table α) (image : α → β) (cond : Nat → β → Bool) :
    (table.map image).exists? cond = table.exists? fun key row => cond key (image row) := by
  simp only [exists?, map, List.any_map, Function.comp_def]

theorem select_map {β : Type} (table : Table α) (image : α → β) (cond : Nat → β → Bool) :
    (table.map image).select cond =
      (table.select fun key row => cond key (image row)).map fun row => (row.1, image row.2) := by
  simp only [select, map, List.filter_map, Function.comp_def]

/-- An update that commutes with taking images. -/
theorem update_map {β : Type} (table : Table α) (image : α → β) (cond : Nat → β → Bool) (set : Nat → β → β)
    (set' : Nat → α → α) (commutes : ∀ key row, set key (image row) = image (set' key row)) :
    (table.map image).update cond set = (table.update (fun key row => cond key (image row)) set').map image := by
  simp only [update, map, mk.injEq, List.map_map, Function.comp_def, commutes, and_true]
  congr 1
  funext row
  split <;> rfl

theorem map_insert {β : Type} (table : Table α) (image : α → β) (row : α) :
    (table.insert row).map image = (table.map image).insert (image row) := by
  simp only [insert, map, List.map_append, List.map_cons, List.map_nil]

/-- Taking images of a table with one row rewritten. -/
theorem map_modify {β : Type} {table : Table α} {key : Nat} {image : α → β} {set : α → α} {set' : β → β}
    (commutes : ∀ row, table.get? key = some row → image (set row) = set' (image row)) :
    (table.modify key set).map image = (table.map image).modify key set' := by
  simp only [modify, update, map, mk.injEq, List.map_map, Function.comp_def, and_true]
  refine List.map_congr_left fun row member => ?_
  by_cases same : row.1 = key
  · have found : table.get? key = some row.2 := mem_rows_iff.mp (same ▸ member)
    simp [same, commutes row.2 found]
  · simp [same]

/-- A loop over rows with different names that rewrites each of them, where a row is found by its name. -/
theorem foldl_rewrite {β γ : Type} [DecidableEq γ] {name : β → γ} {set : β → β → β}
    (keeps : ∀ r row, name (set r row) = name row) (rows done : List β)
    (distinct : ((done ++ rows).map name).Nodup) :
    rows.foldl (fun all r => all.map fun row => if name row = name r then set r row else row) (done ++ rows) =
      done ++ rows.map fun row => set row row := by
  induction rows generalizing done with
  | nil => rfl
  | cons r rest ih =>
    have others : ∀ row ∈ done ++ rest, name row ≠ name r := by
      have moved : ((r :: (done ++ rest)).map name).Nodup :=
        ((List.perm_middle (a := r)).map name).nodup_iff.mp distinct
      intro row member same
      refine (List.nodup_cons.mp moved).1 ?_
      exact List.mem_map.mpr ⟨row, member, same⟩
    have untouched {part : List β} (inside : ∀ row ∈ part, row ∈ done ++ rest) :
        part.map (fun row => if name row = name r then set r row else row) = part := by
      refine (List.map_congr_left fun row member => ?_).trans (List.map_id part)
      rw [if_neg (others row (inside row member)), id]
    have stepped : (done ++ r :: rest).map (fun row => if name row = name r then set r row else row) =
        (done ++ [set r r]) ++ rest := by
      rw [List.map_append, List.map_cons, untouched fun row => List.mem_append_left rest,
        untouched fun row => List.mem_append_right done, if_pos rfl, List.append_assoc]
      rfl
    have still : (((done ++ [set r r]) ++ rest).map name).Nodup := by
      have same : ((done ++ [set r r]) ++ rest).map name = (done ++ r :: rest).map name := by
        simp [keeps]
      rw [same]
      exact distinct
    rw [List.foldl_cons, stepped, ih _ still, List.map_cons, List.append_assoc]
    rfl

/-- `FOR r IN SELECT … LOOP UPDATE … WHERE` the row is `r`. -/
theorem foldl_update_each {γ : Type} [DecidableEq γ] {name : Nat × α → γ} {set : Nat × α → α → α}
    (keeps : ∀ r row, name (row.1, set r row.2) = name row) (table : Table α) (distinct : (table.rows.map name).Nodup) :
    table.rows.foldl (fun held r => held.update (fun key row => name (key, row) == name r) fun _ row => set r row) table =
      table.update (fun _ _ => true) fun key row => set (key, row) row := by
  have rows (held : Table α) (loop : List (Nat × α)) :
      (loop.foldl (fun held r => held.update (fun key row => name (key, row) == name r) fun _ row => set r row) held).rows =
        loop.foldl (fun all r => all.map fun row => if name row = name r then (row.1, set r row.2) else row) held.rows := by
    induction loop generalizing held with
    | nil => rfl
    | cons r rest ih =>
      rw [List.foldl_cons, List.foldl_cons, ih]
      congr 1
      refine List.map_congr_left fun row _ => ?_
      by_cases same : name row = name r
      · simp [same]
      · simp [same]
  have next (held : Table α) (loop : List (Nat × α)) :
      (loop.foldl (fun held r => held.update (fun key row => name (key, row) == name r) fun _ row => set r row) held).next =
        held.next := by
    induction loop generalizing held with
    | nil => rfl
    | cons r rest ih => exact (ih _).trans rfl
  have each := @foldl_rewrite _ _ _ name (fun r row => (row.1, set r row.2)) keeps table.rows [] distinct
  rw [mk.injEq, rows, next]
  exact ⟨each, rfl⟩

@[simp] theorem next_insert (table : Table α) (row : α) : (table.insert row).next = table.next + 1 := rfl

@[simp] theorem next_update (table : Table α) (cond : Nat → α → Bool) (set : Nat → α → α) :
    (table.update cond set).next = table.next := rfl

@[simp] theorem next_modify (table : Table α) (key : Nat) (set : α → α) :
    (table.modify key set).next = table.next := rfl

end Table

end Relational
