import Allgres.Refine.Dump

/-! How `analyze_dump` counts statements. -/

namespace Allgres

open Search RustStr

variable {γ : Type} {w back rest : List Char} {tag : String} {more : RawFields} {raw : RawStmt}

/-! ### Fields that hold a node -/

/-- A field of the given name with a node in it. -/
def RawMark.holds (word : String) : RawMark → Bool
  | .field _ name (.node _ _) _ => name = some word
  | _ => false

def RawMark.held (word : String) (mark : RawMark) : List Unit := if mark.holds word then [()] else []

/-- The search for a field with a node is never misled: no token prints a brace as it is. -/
theorem scans_held {word : String} {okMark : RawMark → Prop} (letters : ∀ c ∈ word.toList, isWordChar c = true)
    (sound : ∀ mark, okMark mark → mark.sound = true)
    (values : ∀ tag value more, okMark (.field tag (some word) value more) → value = .null ∨ ∃ tag fields, value = .node tag fields) :
    Scans ':' (word.toList ++ ' ' :: ['\x7b']) seen (RawMark.held word) okMark (·.sound = true) (fun _ => True) := by
  refine scans_field letters sound (fun _ _ => rfl) ?_ ?_ ?_
  · intro tag name value more other
    have apart : name ≠ some word := fun same => other (by rw [same]; rfl)
    cases value <;> simp [RawMark.held, RawMark.holds, apart]
  · intro tag name value more rest ok same
    have once : ':' ∉ word.toList ++ [' '] := by
      rw [List.mem_append, not_or]
      exact ⟨fun inside => (by cases letters ':' inside), by decide⟩
    have named : name = word := String.toList_injective same
    subst named
    rcases values tag value more ok with rfl | ⟨inner, fields, rfl⟩
    · refine adds_silent (silent_cons (fun _ starts => ?_) (silent_of_not_mem once))
      have front : ' ' :: ['\x7b'] <+: ' ' :: ('<' :: '>' :: (fieldsText more ++ '}' :: rest)) := by
        rw [List.append_assoc] at starts
        exact (List.prefix_append_right_inj name.toList).mp starts
      exact absurd (List.cons_prefix_cons.mp (List.cons_prefix_cons.mp front).2).1 (by decide)
    · have found : RawMark.held name (.field tag (some name) (.node inner fields) more) = (some ()).toList := by
        simp [RawMark.held, RawMark.holds]
      rw [found]
      exact adds_marker once (by simp [RawValue.text]; rfl) rfl
  · intro tag name text more rest ok all _
    exact not_bracket (all.imp sound (fun _ ok => ok)) (.inl rfl)

/-! ### Statements -/

/-- A mark below a statement's own. -/
def Below (mark : RawMark) : Prop := mark.sound = true ∧ mark.nested = true

theorem scans_stmt : Scans ':' ("stmt".toList ++ ' ' :: ['\x7b']) seen (RawMark.held "stmt") Below (·.sound = true)
    (fun _ => True) :=
  scans_held (letters_of_all (by decide)) (fun _ ok => ok.1) fun tag value more ok => absurd ok.2 (by simp [RawMark.nested])

/-- No statement seems to begin in the rest of the node. -/
def Unstated (rest : List Char) : Prop := hits stmtMark (nodeBody rest) = []

theorem kindAt_unstated (unstated : Unstated rest) : kindAt rest = none := by
  have first : afterFirst stmtMark (nodeBody rest) = (hits stmtMark (nodeBody rest)).head? := afterFirst_eq
  rw [kindAt, first, unstated]
  rfl

theorem held_below {marks : List RawMark} (below : ∀ mark ∈ marks, Below mark) : marks.flatMap (RawMark.held "stmt") = [] := by
  refine List.flatMap_eq_nil_iff.mpr fun mark inside => ?_
  have nested := (below mark inside).2
  cases mark with
  | opening tag fields => rfl
  | field tag name value more =>
    have apart : name ≠ some "stmt" := by simpa [RawMark.nested] using nested
    cases value <;> simp [RawMark.held, RawMark.holds, apart]

theorem hits_nil {head : Char} {tail text longer : List Char} (inside : text <:+: longer)
    (none : hits (head :: tail) longer = []) : hits (head :: tail) text = [] := by
  by_contra some
  exact (hits_ne_nil.mpr ((hits_ne_nil.mp some).trans inside)) none

theorem unstated_fields (all : Throughout Below (·.sound = true) (fieldsMarks tag more) (fieldsParts more)) (rest : List Char) :
    Unstated (fieldsText more ++ '}' :: rest) := by
  have adds := adds_fieldsText scans_stmt tag more all []
  rw [held_below all.onMarks] at adds
  have counted := hits_of_adds adds
  have nothing : hits stmtMark (fieldsText more ++ ['}']) = [] := List.eq_nil_of_length_eq_zero counted
  rw [Unstated, nodeBody_fieldsText (all.imp (fun _ ok => ok.1) (fun _ ok => ok))]
  exact hits_nil (List.infix_append' [] _ _) nothing

theorem unstated_items {items : List RawValue} (apart : ∀ item ∈ items, item.isToken = false)
    (all : Throughout Below (·.sound = true) (itemsMarks items) (itemsParts items)) (unstated : Unstated rest) :
    Unstated (itemsText items ++ ')' :: rest) := by
  have neutral := neutral_itemsText (.inl ⟨rfl, rfl⟩) items (all.imp (fun _ ok => ok.1) (fun _ ok => ok))
  have adds := adds_itemsText scans_stmt items apart all (nodeBody rest) trivial
  rw [held_below all.onMarks] at adds
  have counted := hits_of_adds adds
  have behind : hits stmtMark (')' :: nodeBody rest) = [] := by
    have quiet : Silent stmtMark [')'] (nodeBody rest) := silent_of_not_mem (by decide)
    exact (hits_silent quiet).trans unstated
  have closing : nodeBody (')' :: rest) = ')' :: nodeBody rest := by
    rw [nodeBody, bodyTo_cons (by decide), if_neg (by decide), if_neg (by decide)]
    rfl
  have body : nodeBody (itemsText items ++ ')' :: rest) = itemsText items ++ ')' :: nodeBody rest := by
    rw [← closing]
    exact neutral 0 _
  rw [Unstated, body]
  exact List.eq_nil_of_length_eq_zero (counted.trans (by rw [List.length_nil, Nat.zero_add]; exact congrArg List.length behind))

/-- What is read behind a token's text is read behind the token. -/
theorem adds_escapeAll {f : List Char → Option (Option γ)} {s : List Char} (word : ∀ c ∈ w, isWordChar c = true)
    (parted : Parted rest) (nothing : ∀ later, f (escapeAll later ++ rest) = some none) :
    Adds ('\x7b' :: w) f (escapeAll s) rest [] := by
  induction s with
  | nil => exact adds_silent trivial
  | cons c s ih =>
    have here : Adds ('\x7b' :: w) f [c] (escapeAll s ++ rest) [] := by
      rcases Decidable.em (c = '\x7b' ∧ w <+: escapeAll s ++ rest) with ⟨rfl, starts⟩ | apart
      · rw [← List.append_nil w] at starts
        obtain ⟨behind, shape, -⟩ := word_front word parted starts
        have split : [] ++ (escapeAll s ++ rest) = w ++ (escapeAll behind ++ rest) := by
          rw [shape, escapeAll_append, escapeAll_word word]
          simp
        exact adds_marker (by simp) split (nothing behind)
      · exact adds_silent (silent_cons (fun same starts => apart ⟨same, starts⟩) trivial)
    have both := here.append ih
    cases special : escapedAnywhere c with
    | true =>
      have slash : Silent ('\x7b' :: w) ['\\'] ([c] ++ escapeAll s ++ rest) := silent_of_not_mem (by decide)
      have whole := both.after_silent slash
      rw [escapeAll_cons, escape_special special]
      exact whole
    | false =>
      rw [escapeAll_cons, escape_plain special]
      exact both

theorem adds_outToken {f : List Char → Option (Option γ)} {text : String} (word : ∀ c ∈ w, isWordChar c = true)
    (parted : Parted rest) (nothing : ∀ later, f (escapeAll later ++ rest) = some none) :
    Adds ('\x7b' :: w) f (outToken text) rest [] := by
  rw [outToken]
  split
  · exact adds_silent (silent_of_not_mem (by decide))
  · have letters := adds_escapeAll (s := text.toList) word parted nothing
    rw [outChars]
    split
    · have slash : Silent ('\x7b' :: w) ['\\'] (escapeAll text.toList ++ rest) := silent_of_not_mem (by decide)
      have whole := letters.after_silent slash
      exact whole
    · exact letters

/-- What stands in a name or in a string does not begin a statement. -/
theorem unstated_escapeAll {later : List Char} (parted : Parted (nodeBody rest)) (apart : ¬ [' ', '\x7b'] <+: nodeBody rest)
    (unstated : Unstated rest) : Unstated (escapeAll later ++ rest) := by
  have neutral : nodeBody (escapeAll later ++ rest) = escapeAll later ++ nodeBody rest := neutral_escapeAll rfl rfl later 0 rest
  have quiet : Silent stmtMark (escapeAll later) (nodeBody rest) :=
    silent_escapeAll (by decide) (apart_space (w := "stmt".toList) (letters_of_all (by decide)) parted fun _ => apart)
  rw [Unstated, neutral, hits_silent quiet]
  exact unstated

theorem parted_front {text longer : List Char} (parted : Parted longer) (front : text <+: longer) : Parted text := by
  intro c more same
  obtain ⟨behind, rfl⟩ := front
  exact parted c (more ++ behind) (by rw [same]; rfl)

/-- Below a statement's node no further statement is found, whatever the names and strings are. -/
theorem scans_nested : Scans '\x7b' "RAWSTMT".toList (some ∘ kindAt) (fun _ => []) Below (·.sound = true) Unstated where
  begins := rfl
  opening := fun {tag fields} rest ok _ => by
    have letters := letters_of_opening ok.1
    have once : '\x7b' ∉ tag.toList := fun inside => by cases letters '\x7b' inside
    refine adds_silent (silent_cons (fun _ starts => ?_) (silent_of_not_mem once))
    rw [← escapeAll_word letters, ← List.append_nil "RAWSTMT".toList] at starts
    obtain ⟨later, shape, -⟩ := word_front (w := "RAWSTMT".toList) (letters_of_all (by decide)) (parted_fieldsText fields rest) starts
    have front : "RAWSTMT".toList.isPrefixOf tag.toList = true := List.isPrefixOf_iff_prefix.mpr ⟨later, shape.symm⟩
    have sound := ok.1
    have nested := ok.2
    simp only [RawMark.sound, markedTags, List.all_cons, Bool.and_eq_true, front] at sound
    simp only [RawMark.nested, decide_eq_true_eq] at nested
    exact absurd sound.1.2.1 (by simpa using nested)
  field := fun {tag name value more} rest ok => adds_silent (silent_fieldMark ok.1)
  token := fun {tag name text more} rest ok all => by
    have sound := all.imp (fun _ ok => ok.1) (fun _ ok => ok)
    have body := nodeBody_fieldsText sound rest
    have front : fieldsText more <+: fieldsText more ++ '}' :: rest := ⟨_, rfl⟩
    have unstated := unstated_fields all rest
    refine adds_outToken (letters_of_all (by decide)) (parted_fieldsText more rest) fun later => ?_
    refine congrArg some (kindAt_unstated (unstated_escapeAll ?_ ?_ unstated))
    · rw [body]
      exact parted_front (parted_fieldsText more rest) front
    · rw [body]
      exact fun starts => not_bracket sound (.inl rfl) (starts.trans front)
  str := fun {text} rest _ unstated => by
    have body : nodeBody ('"' :: rest) = '"' :: nodeBody rest := neutral_quote rfl rfl 0 rest
    have quoted : Unstated ('"' :: rest) := by
      have quiet : Silent stmtMark ['"'] (nodeBody rest) := silent_of_not_mem (by decide)
      rw [Unstated, body]
      exact (hits_silent quiet).trans unstated
    have inner : Adds ('\x7b' :: "RAWSTMT".toList) (some ∘ kindAt) (if text = "" then [] else outToken text) ('"' :: rest) [] := by
      split
      · exact adds_silent trivial
      · refine adds_outToken (letters_of_all (by decide)) (parted_quote rest) fun later => ?_
        refine congrArg some (kindAt_unstated (unstated_escapeAll ?_ ?_ quoted))
        · rw [body]
          exact parted_quote _
        · rw [body]
          exact not_space_quote
    have quote : ∀ rest, Silent ('\x7b' :: "RAWSTMT".toList) ['"'] rest := fun rest => silent_of_not_mem (by decide)
    have whole := (inner.then_silent (quote rest)).after_silent (quote _)
    exact whole
  part := fun ok => ok
  fields := fun rest all => unstated_fields all rest
  others := fun rest apart all unstated => unstated_items apart all unstated

/-! ### The statements at the top -/

/-- The fields behind the statement's node. -/
def RawStmt.locations (raw : RawStmt) : RawFields :=
  [(some "stmt_location", .plain raw.location), (some "stmt_len", .plain raw.len)]

theorem below_stmt (sound : raw.sound = true) : Throughout Below (·.sound = true) raw.stmt.marks raw.stmt.parts := by
  rw [RawStmt.sound, Bool.and_eq_true] at sound
  obtain ⟨parts, marks⟩ := sound
  refine ⟨fun mark inside => ?_, fun part inside => ?_⟩
  · exact Bool.and_eq_true_iff.mp (List.all_eq_true.mp marks mark inside)
  · exact List.all_eq_true.mp parts part (List.mem_cons_of_mem _ (List.mem_append_left _ inside))

theorem below_locations (sound : raw.sound = true) :
    Throughout Below (·.sound = true) (fieldsMarks "RAWSTMT" raw.locations) (fieldsParts raw.locations) := by
  rw [RawStmt.sound, Bool.and_eq_true] at sound
  refine ⟨fun mark inside => ?_, fun part inside => ?_⟩
  · have known : mark = .field "RAWSTMT" (some "stmt_location") (.plain raw.location) [(some "stmt_len", .plain raw.len)] ∨
        mark = .field "RAWSTMT" (some "stmt_len") (.plain raw.len) [] := by
      simpa [fieldsMarks, RawStmt.locations, RawValue.marks] using inside
    rcases known with same | same <;>
      · rw [same]
        exact ⟨rfl, rfl⟩
  · exact List.all_eq_true.mp sound.1 part (List.mem_cons_of_mem _ (List.mem_append_right _ inside))

theorem sound_fields (sound : raw.sound = true) : SoundBelow (fieldsMarks "RAWSTMT" ((some "stmt", raw.stmt) :: raw.locations))
    (fieldsParts ((some "stmt", raw.stmt) :: raw.locations)) := by
  have stmt := below_stmt sound
  have locations := below_locations sound
  refine ⟨fun mark inside => ?_, fun part inside => ?_⟩
  · rcases List.mem_cons.mp inside with same | inside
    · rw [same]
      rfl
    · rcases List.mem_append.mp inside with inside | inside
      · exact (stmt.onMarks mark inside).1
      · exact (locations.onMarks mark inside).1
  · rcases List.mem_append.mp inside with inside | inside
    · exact stmt.onParts part inside
    · exact locations.onParts part inside

theorem isAscii_alphanum {c : Char} (letter : c.isAlphanum = true) : isAscii c = true := by
  have small : c.toNat < 128 := by
    delta Char.isAlphanum Char.isAlpha Char.isUpper Char.isLower Char.isDigit at letter
    simp only [Bool.or_eq_true, Bool.and_eq_true, decide_eq_true_eq] at letter
    rcases letter with (⟨-, below⟩ | ⟨-, below⟩) | ⟨-, below⟩
    · exact Nat.lt_of_le_of_lt (UInt32.le_iff_toNat_le.mp below) (by decide)
    · exact Nat.lt_of_le_of_lt (UInt32.le_iff_toNat_le.mp below) (by decide)
    · exact Nat.lt_of_le_of_lt (UInt32.le_iff_toNat_le.mp below) (by decide)
  exact decide_eq_true small

theorem readIdent_word {word : List Char} (letters : ∀ c ∈ word, isWordChar c = true) (parted : Parted rest) :
    readIdent (word ++ rest) = String.ofList word := by
  have same : (fun c => isAscii c && c.isAlphanum || c == '_') = isWordChar := by
    funext c
    rw [isWordChar]
    cases letter : c.isAlphanum with
    | true => rw [isAscii_alphanum letter]; rfl
    | false => rw [Bool.and_false]
  rw [readIdent, same, List.takeWhile_append_of_pos letters]
  cases rest with
  | nil => simp
  | cons c rest => rw [List.takeWhile_cons_of_neg (by rw [parted c rest rfl]; decide), List.append_nil]

theorem kindAt_raw (sound : raw.sound = true) (rest : List Char) :
    kindAt (fieldsText ((some "stmt", raw.stmt) :: raw.locations) ++ '}' :: rest) = some raw.tag := by
  have letters := letters_of_opening ((below_stmt sound).mark).1
  have marker : stmtMark = ':' :: "stmt \x7b".toList := rfl
  have shape : fieldsText ((some "stmt", raw.stmt) :: raw.locations) =
      [' '] ++ (':' :: "stmt \x7b".toList ++ (raw.tag.toList ++ (fieldsText raw.fields ++ '}' :: fieldsText raw.locations))) := by
    simp [fieldsText, fieldMark, RawStmt.stmt, RawValue.text, List.append_assoc]
  have found : afterFirst stmtMark (fieldsText ((some "stmt", raw.stmt) :: raw.locations)) =
      some (raw.tag.toList ++ (fieldsText raw.fields ++ '}' :: fieldsText raw.locations)) := by
    rw [shape, marker, afterFirst_eq, hits_silent (silent_of_not_mem (by decide)), hits_marker (by decide)]
    rfl
  rw [kindAt, nodeBody_fieldsText (sound_fields sound), found, Option.map_some,
    readIdent_word letters (parted_fieldsText _ _), String.ofList_toList]

theorem flatMap_none {γ : Type} (marks : List RawMark) : marks.flatMap (fun _ => ([] : List γ)) = [] := by
  induction marks with
  | nil => rfl
  | cons mark marks ih => exact ih

theorem adds_raw (sound : raw.sound = true) (rest : List Char) :
    Adds rawStmtMark (some ∘ kindAt) raw.value.text rest [raw.tag] := by
  let fields := (some "stmt", raw.stmt) :: raw.locations
  have read : (some ∘ kindAt) (fieldsText fields ++ '}' :: rest) = some (some raw.tag) := congrArg some (kindAt_raw sound rest)
  have opening : Adds ('\x7b' :: "RAWSTMT".toList) (some ∘ kindAt) ('\x7b' :: "RAWSTMT".toList)
      (fieldsText fields ++ '}' :: rest) (some raw.tag).toList := adds_marker (by decide) rfl read
  have inner := adds_text scans_nested raw.stmt rfl (below_stmt sound) _ (unstated_fields (below_locations sound) rest)
  have later := adds_fieldsText scans_nested "RAWSTMT" raw.locations (below_locations sound) rest
  rw [flatMap_none] at inner later
  have named : Adds rawStmtMark (some ∘ kindAt) (fieldsText fields) ('}' :: rest) [] := by
    have mark : Silent rawStmtMark (fieldMark (some "stmt")) (raw.stmt.text ++ fieldsText raw.locations ++ '}' :: rest) :=
      silent_of_not_mem (by decide)
    exact (inner.append later).after_silent mark
  have closing : Silent rawStmtMark ['}'] rest := silent_of_not_mem (by decide)
  have shape : raw.value.text = ('\x7b' :: "RAWSTMT".toList) ++ (fieldsText fields ++ ['}']) := by
    rw [RawStmt.value, RawValue.text]
    rfl
  rw [shape]
  exact Adds.append (by rw [List.append_assoc]; exact opening) (named.then_silent closing)

theorem adds_stmts {stmts : List RawStmt} (sound : ∀ raw ∈ stmts, raw.sound = true) (rest : List Char) :
    Adds rawStmtMark (some ∘ kindAt) (itemsText (stmts.map RawStmt.value)) rest (stmts.map RawStmt.tag) := by
  induction stmts with
  | nil => exact adds_silent trivial
  | cons raw stmts ih =>
    have first := adds_raw (sound raw (List.mem_cons_self ..)) (itemsText (stmts.map RawStmt.value) ++ rest)
    have later := ih fun other inside => sound other (List.mem_cons_of_mem raw inside)
    have space : Silent rawStmtMark [' '] (raw.value.text ++ itemsText (stmts.map RawStmt.value) ++ rest) :=
      silent_of_not_mem (by decide)
    have whole := (first.append later).after_silent space
    exact whole

theorem kinds_text (tree : RawTree) :
    scan (some ∘ kindAt) (hits rawStmtMark tree.text) = some (tree.stmts.map RawStmt.tag) := by
  have sound := List.all_eq_true.mp tree.sound
  rw [RawTree.text, RawTree.value]
  cases shape : tree.stmts with
  | nil => rfl
  | cons raw stmts =>
    rw [shape] at sound
    have adds := adds_stmts sound [')']
    have front : hits rawStmtMark (RawValue.list ((raw :: stmts).map RawStmt.value)).text =
        hits rawStmtMark (itemsText ((raw :: stmts).map RawStmt.value) ++ [')']) := by
      have left : (RawValue.list ((raw :: stmts).map RawStmt.value)).text =
          ['('] ++ (raw.value.text ++ (itemsText (stmts.map RawStmt.value) ++ [')'])) := rfl
      have right : itemsText ((raw :: stmts).map RawStmt.value) ++ [')'] =
          [' '] ++ (raw.value.text ++ (itemsText (stmts.map RawStmt.value) ++ [')'])) := by
        simp [itemsText]
      have quiet (c : Char) (apart : '\x7b' ∉ [c]) (rest : List Char) : Silent rawStmtMark [c] rest := silent_of_not_mem apart
      rw [left, right, hits_silent (quiet '(' (by decide) _), hits_silent (quiet ' ' (by decide) _)]
    have nothing : hits rawStmtMark [')'] = [] := rfl
    have empty : scan (some ∘ kindAt) [] = some [] := rfl
    rw [front, adds, nothing, empty, Option.map_some, List.append_nil]

/-! ### The tree as a whole -/

theorem sound_stmts {stmts : List RawStmt} (sound : ∀ raw ∈ stmts, raw.sound = true) :
    SoundBelow (itemsMarks (stmts.map RawStmt.value)) (itemsParts (stmts.map RawStmt.value)) := by
  induction stmts with
  | nil => exact ⟨nofun, nofun⟩
  | cons raw stmts ih =>
    have first := sound_fields (sound raw (List.mem_cons_self ..))
    have later := ih fun other inside => sound other (List.mem_cons_of_mem raw inside)
    refine ⟨fun mark inside => ?_, fun part inside => ?_⟩
    · rcases List.mem_cons.mp inside with same | inside
      · rw [same]
        rfl
      · rcases List.mem_append.mp inside with inside | inside
        · exact first.onMarks mark inside
        · exact later.onMarks mark inside
    · rcases List.mem_cons.mp inside with same | inside
      · rw [same]
        rfl
      · rcases List.mem_append.mp inside with inside | inside
        · exact first.onParts part inside
        · exact later.onParts part inside

theorem sound_tree (tree : RawTree) : SoundBelow tree.value.marks tree.value.parts := by
  have below := sound_stmts (List.all_eq_true.mp tree.sound)
  refine ⟨below.onMarks, fun part inside => ?_⟩
  rcases List.mem_cons.mp inside with same | inside
  · rw [same]
    refine List.all_eq_true.mpr fun item member => ?_
    obtain ⟨raw, -, rfl⟩ := List.mem_map.mp member
    rfl
  · exact below.onParts part inside

end Allgres
