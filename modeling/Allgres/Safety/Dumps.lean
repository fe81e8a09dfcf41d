import Allgres.Refine.Writing

/-! The analysis of a parsed statement against its tree. -/

namespace Allgres

open Search RustStr

variable {tree : RawTree} {rest : List Char}

theorem occurrences_skip (marker text : List Char) (skip : Nat) :
    occurrences marker skip text = occurrences marker 0 (text.drop skip) := by
  induction text generalizing skip with
  | nil => cases skip <;> rfl
  | cons c rest ih =>
    cases skip with
    | zero => rfl
    | succ skip => exact ih skip

theorem occurrences_silent {marker piece : List Char} (quiet : Silent marker piece rest) :
    occurrences marker 0 (piece ++ rest) = occurrences marker 0 rest := by
  induction piece with
  | nil => rfl
  | cons c piece ih =>
    have missed : ¬ marker.isPrefixOf (c :: (piece ++ rest)) = true := fun starts =>
      quiet.1 (List.isPrefixOf_iff_prefix.mp starts)
    rw [List.cons_append, occurrences, if_neg missed]
    exact ih quiet.2

/-- Occurrences of a marker do not overlap, so that a search may go on behind each one. -/
theorem occurrences_eq {head : Char} {tail : List Char} (once : head ∉ tail) (text : List Char) :
    occurrences (head :: tail) 0 text = hits (head :: tail) text := by
  induction text with
  | nil => rfl
  | cons c rest ih =>
    rw [occurrences, hits]
    split
    next found =>
      obtain ⟨behind, shape⟩ := List.isPrefixOf_iff_prefix.mp found
      obtain ⟨rfl, rfl⟩ := List.cons.inj shape
      have quiet : Silent (head :: tail) tail behind := silent_of_not_mem once
      have left : List.drop tail.length (tail.append behind) = behind := List.drop_left
      have length : (head :: tail).length - 1 = tail.length := rfl
      have further : occurrences (head :: tail) 0 (tail.append behind) = occurrences (head :: tail) 0 behind :=
        occurrences_silent quiet
      rw [length, occurrences_skip, left, ← further, ih]
    next => exact ih

theorem scan_some {γ : Type} {f : List Char → Option (Option γ)} {rests : List (List Char)} {found : List γ}
    (read : scan f rests = some found) : ∃ entries, rests.mapM f = some entries ∧ entries.reduceOption = found := by
  rw [scan, Option.map_eq_some_iff] at read
  exact read

theorem scan_filterMap {γ : Type} (f : List Char → Option γ) (rests : List (List Char)) :
    scan (some ∘ f) rests = some (rests.filterMap f) := by
  induction rests with
  | nil => rfl
  | cons rest rests ih =>
    rw [scan_cons rfl, ih, Option.map_some, List.filterMap_cons]
    cases f rest <;> rfl

theorem adds_tree {γ : Type} {head : Char} {tail : List Char} {f : List Char → Option (Option γ)} {onMark : RawMark → Option γ}
    (scans : Scans head tail f (fun mark => (onMark mark).toList) ReadRight (·.sound = true) (fun _ => True))
    (clear : ∀ mark ∈ tree.value.marks, mark.clear = true) :
    scan f (hits (head :: tail) tree.text) = some (tree.value.marks.filterMap onMark) := by
  have sound := sound_tree tree
  have read : Throughout ReadRight (·.sound = true) tree.value.marks tree.value.parts :=
    ⟨fun mark inside => ⟨sound.onMarks mark inside, clear mark inside⟩, sound.onParts⟩
  have adds := adds_text scans tree.value rfl read [] trivial
  rw [Adds, List.append_nil] at adds
  have empty : scan f (hits (head :: tail) []) = some [] := rfl
  rw [RawTree.text, adds, empty, Option.map_some, List.append_nil, List.filterMap_eq_flatMap_toList]

/-- What is reported of a tree whose names are read right. -/
theorem analyze_text (clear : ∀ mark ∈ tree.value.marks, mark.clear = true) : analyzeDump tree.text = some (some {
    statements := tree.stmts.length
    kind := if tree.stmts.map RawStmt.tag = ["SELECTSTMT"] then "select" else "other"
    writes := tree.seemsWriting
    relations := tree.relations
    functions := tree.functions
    ctes := tree.ctes }) := by
  have nonempty : tree.text ≠ [] := by
    rw [RawTree.text, RawTree.value]
    cases tree.stmts <;> exact List.cons_ne_nil _ _
  have kinds : (occurrences rawStmtMark 0 tree.text).filterMap kindAt = tree.stmts.map RawStmt.tag := by
    have marks : occurrences rawStmtMark 0 tree.text = hits rawStmtMark tree.text := occurrences_eq (by decide) _
    have found := kinds_text tree
    rw [scan_filterMap, Option.some_inj] at found
    rw [marks, found]
  have marks : occurrences rangeVarMark 0 tree.text = hits rangeVarMark tree.text := occurrences_eq (by decide) _
  obtain ⟨relations, readRelations, sameRelations⟩ := scan_some (adds_tree scans_relations clear)
  have marks' : occurrences cteNameMark 0 tree.text = hits cteNameMark tree.text := occurrences_eq (by decide) _
  obtain ⟨ctes, readCtes, sameCtes⟩ := scan_some (adds_tree scans_ctes clear)
  have marks'' : occurrences funcNameMark 0 tree.text = hits funcNameMark tree.text := occurrences_eq (by decide) _
  obtain ⟨functions, readFunctions, sameFunctions⟩ := scan_some (adds_tree scans_functions clear)
  have readRelations : (hits rangeVarMark tree.text).mapM relationAt = some relations := readRelations
  have readCtes : (hits cteNameMark tree.text).mapM cteAt = some ctes := readCtes
  have readFunctions : (hits funcNameMark tree.text).mapM functionAt = some functions := readFunctions
  rw [analyzeDump, if_neg nonempty, marks, marks', marks'', readRelations, readCtes, readFunctions]
  simp only [kinds, List.length_map, writes_text, sameRelations, sameCtes, sameFunctions]
  rfl

/-- The report tells what the tree says; entries count as often as they come. -/
structure Report.Tells (report : Report) (tree : RawTree) : Prop where
  statements : report.statements = tree.stmts.length
  kind : report.kind = "select" ↔ ∃ raw, tree.stmts = [raw] ∧ raw.tag = "SELECTSTMT"
  relations : report.relations.Perm tree.relations
  ctes : report.ctes.Perm tree.ctes
  functions : report.functions.Perm tree.functions
  writes : report.writes = tree.writes

/-- A tree whose names are read right is reported as it is if and only if the signs of
writing are right: the tag of a statement that modifies data in a name or a string is
one too, and the `INTO` of `CREATE TABLE AS` is none. -/
theorem analyzeDump_exact_iff (tree : RawTree) (clear : ∀ mark ∈ tree.value.marks, mark.clear = true) :
    (∃ report, analyzeDump tree.text = some (some report) ∧ report.Tells tree) ↔ tree.seemsWriting = tree.writes := by
  rw [analyze_text clear]
  constructor
  · rintro ⟨report, same, tells⟩
    obtain rfl := Option.some.inj (Option.some.inj same)
    exact tells.writes
  · intro writes
    refine ⟨_, rfl, rfl, ?_, .refl _, .refl _, .refl _, writes⟩
    have select : (if tree.stmts.map RawStmt.tag = ["SELECTSTMT"] then "select" else "other") = "select" ↔
        tree.stmts.map RawStmt.tag = ["SELECTSTMT"] := by
      split
      next found => exact iff_of_true rfl found
      next other => exact iff_of_false (by decide) other
    rw [select]
    constructor
    · intro tags
      obtain ⟨raw, shape, tag⟩ := List.map_eq_singleton_iff.mp tags
      exact ⟨raw, shape, tag⟩
    · rintro ⟨raw, shape, tag⟩
      rw [shape, List.map_singleton, tag]

/-- A `SelectStmt` of a query without the clauses that are not given. -/
def selectStmt (targetList fromClause : RawValue) : RawStmt where
  tag := "SELECTSTMT"
  fields := [(some "distinctClause", .null), (some "intoClause", .null), (some "targetList", targetList),
    (some "fromClause", fromClause), (some "whereClause", .null), (some "groupClause", .null),
    (some "groupDistinct", .plain "false"), (some "havingClause", .null), (some "windowClause", .null),
    (some "valuesLists", .null), (some "sortClause", .null), (some "limitOffset", .null), (some "limitCount", .null),
    (some "limitOption", .plain "0"), (some "lockingClause", .null), (some "withClause", .null), (some "op", .plain "0"),
    (some "all", .plain "false"), (some "larg", .null), (some "rarg", .null)]
  location := "-1"
  len := "-1"

def resTarget (val : RawValue) : RawValue :=
  .node "RESTARGET" [(some "name", .null), (some "indirection", .null), (some "val", val), (some "location", .plain "-1")]

/-- `SELECT pg_catalog.now() FROM public.agents`. -/
def nowTree : RawTree where
  stmts := [selectStmt
    (.list [resTarget (.node "FUNCCALL" [(some "funcname", .list [.str "pg_catalog", .str "now"]), (some "args", .null),
      (some "agg_order", .null), (some "agg_filter", .null), (some "over", .null), (some "agg_within_group", .plain "false"),
      (some "agg_star", .plain "false"), (some "agg_distinct", .plain "false"), (some "func_variadic", .plain "false"),
      (some "funcformat", .plain "0"), (some "location", .plain "-1")])])
    (.list [.node "RANGEVAR" [(some "catalogname", .null), (some "schemaname", .token "public"),
      (some "relname", .token "agents"), (some "inh", .plain "true"), (some "relpersistence", .token "p"),
      (some "alias", .null), (some "location", .plain "-1")]])]
  sound := by decide +kernel

theorem analyzeDump_exact_iff_now : ∃ report, analyzeDump nowTree.text = some (some report) ∧ report.Tells nowTree :=
  (analyzeDump_exact_iff nowTree (by decide +kernel)).mpr (by decide +kernel)

/-- `SELECT '{INSERTSTMT'`. -/
def quotedTree : RawTree where
  stmts := [selectStmt
    (.list [resTarget (.node "A_CONST" [(some "val", .str "\x7bINSERTSTMT"), (some "location", .plain "-1")])]) .null]
  sound := by decide +kernel

theorem not_analyzeDump_exact : ¬ ∃ report, analyzeDump quotedTree.text = some (some report) ∧ report.Tells quotedTree := by
  rintro ⟨report, same, tells⟩
  have writes : quotedTree.writes = false := by decide +kernel
  have reported : ∃ other, analyzeDump quotedTree.text = some (some other) ∧ other.writes = true :=
    ⟨_, analyze_text (by decide +kernel), by decide +kernel⟩
  obtain ⟨other, found, looks⟩ := reported
  rw [found] at same
  obtain rfl := Option.some.inj (Option.some.inj same)
  rw [tells.writes, writes] at looks
  cases looks

end Allgres
