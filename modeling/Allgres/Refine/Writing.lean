import Allgres.Refine.Statements

/-! How `analyze_dump` sees that a statement writes. -/

namespace Allgres

open Search RustStr

variable {tree : RawTree} {rest : List Char}

/-- The text has one of the tags of statements that modify data. -/
def RawValue.looksWriting : RawValue → Bool
  | .token text => dmlMarks.any fun mark => occurs mark text.toList
  | .str text => dmlMarks.any fun mark => occurs mark text.toList
  | _ => false

/-- What `analyze_dump` takes for a sign of writing: a statement that modifies data, or
the `INTO` of a query. -/
def RawMark.announced : RawMark → Bool
  | .opening tag _ => ["INSERTSTMT", "UPDATESTMT", "DELETESTMT", "MERGESTMT"].contains tag
  | mark => mark.holds "intoClause"

def RawTree.seemsWriting (tree : RawTree) : Bool :=
  tree.value.marks.any RawMark.announced || tree.value.parts.any RawValue.looksWriting

theorem occurs_iff {head : Char} {tail text : List Char} : occurs (head :: tail) text = true ↔ head :: tail <:+: text :=
  afterFirst_isSome

theorem self_within {part value : RawValue} (same : part = value) : part.text <:+: value.text := by
  subst same
  exact List.infix_rfl

-- Each part stands in the text as it is.
mutual
theorem text_within : ∀ (value : RawValue), ∀ part ∈ value.parts, part.text <:+: value.text
  | .null, part, inside => self_within (List.mem_singleton.mp inside)
  | .plain text, part, inside => self_within (List.mem_singleton.mp inside)
  | .token text, part, inside => self_within (List.mem_singleton.mp inside)
  | .str text, part, inside => self_within (List.mem_singleton.mp inside)
  | .node tag fields, part, inside => by
    rcases List.mem_cons.mp inside with same | inside
    · exact self_within same
    · have below := fieldsText_within fields part inside
      rw [RawValue.text]
      exact below.trans ⟨'\x7b' :: tag.toList, ['}'], by simp⟩
  | .list [], part, inside => self_within (List.mem_singleton.mp inside)
  | .list (item :: more), part, inside => by
    rcases List.mem_cons.mp inside with same | inside
    · exact self_within same
    · rw [RawValue.text]
      rcases List.mem_append.mp inside with inside | inside
      · exact (text_within item part inside).trans ⟨['('], itemsText more ++ [')'], by simp⟩
      · exact (itemsText_within more part inside).trans ⟨'(' :: item.text, [')'], by simp⟩

theorem fieldsText_within : ∀ (fields : List (Option String × RawValue)), ∀ part ∈ fieldsParts fields, part.text <:+: fieldsText fields
  | (name, value) :: more, part, inside => by
    rw [fieldsText]
    rcases List.mem_append.mp inside with inside | inside
    · exact (text_within value part inside).trans ⟨fieldMark name, fieldsText more, by simp⟩
    · exact (fieldsText_within more part inside).trans ⟨fieldMark name ++ value.text, [], by simp⟩

theorem itemsText_within : ∀ (items : List RawValue), ∀ part ∈ itemsParts items, part.text <:+: itemsText items
  | item :: more, part, inside => by
    rw [itemsText]
    rcases List.mem_append.mp inside with inside | inside
    · exact (text_within item part inside).trans ⟨[' '], itemsText more, by simp⟩
    · exact (itemsText_within more part inside).trans ⟨' ' :: item.text, [], by simp⟩
end

theorem escapeAll_within {s t : List Char} (inside : s <:+: t) : escapeAll s <:+: escapeAll t := by
  obtain ⟨front, back, rfl⟩ := inside
  rw [escapeAll_append, escapeAll_append]
  exact List.infix_append _ _ _

/-- A tag in a name or in a string is printed with a backslash in front. -/
theorem outToken_within {w : List Char} {text : String} (word : ∀ c ∈ w, isWordChar c = true)
    (inside : '\x7b' :: w <:+: text.toList) : '\x7b' :: w <:+: outToken text := by
  have nonempty : text ≠ "" := fun empty => by
    rw [empty] at inside
    simp at inside
  have escaped : escapeAll ('\x7b' :: w) = '\\' :: '\x7b' :: w := by
    rw [escapeAll_cons, escapeAll_word word]
    rfl
  have inner := escapeAll_within inside
  rw [escaped] at inner
  have short : '\x7b' :: w <:+: '\\' :: '\x7b' :: w := ⟨['\\'], [], by simp⟩
  rw [outToken, if_neg nonempty, outChars]
  exact (short.trans inner).trans (List.suffix_append _ _).isInfix

theorem self_part (value : RawValue) : value ∈ value.parts := by
  cases value <;> exact List.mem_cons_self ..

-- The value of a field is a part.
mutual
theorem value_part : ∀ (value : RawValue) {tag : String} {name : Option String} {inner : RawValue} {more : RawFields},
    RawMark.field tag name inner more ∈ value.marks → inner ∈ value.parts
  | .node tag fields, _, _, _, _, inside => by
    rcases List.mem_cons.mp inside with same | inside
    · cases same
    · exact List.mem_cons_of_mem _ (value_fieldsPart tag fields inside)
  | .list items, _, _, _, _, inside => List.mem_cons_of_mem _ (value_itemsPart items inside)

theorem value_fieldsPart (tag' : String) : ∀ (fields : List (Option String × RawValue)) {tag : String} {name : Option String}
    {inner : RawValue} {more : RawFields}, RawMark.field tag name inner more ∈ fieldsMarks tag' fields →
    inner ∈ fieldsParts fields
  | (_, value) :: more, _, _, _, _, inside => by
    rcases List.mem_cons.mp inside with same | inside
    · injection same with _ _ same _
      rw [same]
      exact List.mem_append_left _ (self_part value)
    · rcases List.mem_append.mp inside with inside | inside
      · exact List.mem_append_left _ (value_part value inside)
      · exact List.mem_append_right _ (value_fieldsPart tag' more inside)

theorem value_itemsPart : ∀ (items : List RawValue) {tag : String} {name : Option String} {inner : RawValue} {more : RawFields},
    RawMark.field tag name inner more ∈ itemsMarks items → inner ∈ itemsParts items
  | item :: more, _, _, _, _, inside => by
    rcases List.mem_append.mp inside with inside | inside
    · exact List.mem_append_left _ (value_part item inside)
    · exact List.mem_append_right _ (value_itemsPart more inside)
end

def RawMark.opens (word : String) : RawMark → Bool
  | .opening tag _ => tag = word
  | .field .. => false

/-- The search for a tag in a tree whose names and strings do not have it. -/
theorem scans_opens {word : String} (known : word ∈ ["INSERTSTMT", "UPDATESTMT", "DELETESTMT", "MERGESTMT"]) :
    Scans '\x7b' word.toList seen (fun mark => if mark.opens word then [()] else [])
      (fun mark => mark.sound = true ∧ ∀ tag name text more, mark = .field tag name (.token text) more →
        ¬ '\x7b' :: word.toList <:+: text.toList)
      (fun part => part.sound = true ∧ ∀ text, part = .str text → ¬ '\x7b' :: word.toList <:+: text.toList)
      (fun _ => True) := by
  have letters : ∀ c ∈ word.toList, isWordChar c = true := by
    have all : ∀ word ∈ ["INSERTSTMT", "UPDATESTMT", "DELETESTMT", "MERGESTMT"], word.toList.all isWordChar = true := by decide
    exact List.all_eq_true.mp (all word known)
  have once : '\x7b' ∉ word.toList := fun inside => by cases letters '\x7b' inside
  constructor
  · rfl
  · intro tag fields rest ok _
    have outside : '\x7b' ∉ tag.toList := fun inside => by cases letters_of_opening ok.1 '\x7b' inside
    rcases Decidable.em (tag = word) with same | other
    · have found : (RawMark.opening tag fields).opens word = true := decide_eq_true same
      have read : seen (fieldsText fields ++ '}' :: rest) = some (some ()) := rfl
      rw [if_pos found, same]
      exact adds_marker once rfl read
    · have missed : ¬ (RawMark.opening tag fields).opens word = true := fun found => other (of_decide_eq_true found)
      rw [if_neg missed]
      refine adds_silent (silent_cons (fun _ starts => other ?_) (silent_of_not_mem outside))
      rw [← escapeAll_word (letters_of_opening ok.1), ← List.append_nil word.toList] at starts
      obtain ⟨later, shape, -⟩ := word_front letters (parted_fieldsText fields rest) starts
      have front : word.toList.isPrefixOf tag.toList = true := List.isPrefixOf_iff_prefix.mpr ⟨later, shape.symm⟩
      have sound := ok.1
      simp only [RawMark.sound, Bool.and_eq_true] at sound
      have marked : word ∈ markedTags := List.mem_cons_of_mem _ known
      have checked := List.all_eq_true.mp sound.1.2 word marked
      rw [front] at checked
      simpa using checked
  · intro tag name value more rest ok
    exact adds_silent (silent_fieldMark ok.1)
  · intro tag name text more rest ok _
    exact adds_silent (silent_outToken rfl (apart_word letters (parted_fieldsText more rest) (ok.2 tag name text more rfl)))
  · intro text rest ok _
    exact adds_silent (silent_outString rfl (apart_word letters (parted_quote rest) (ok.2 text rfl)))
  · exact fun ok => ok.1
  · exact fun _ _ => trivial
  · exact fun _ _ _ _ => trivial

theorem looks_at {text word : String} (known : word ∈ ["INSERTSTMT", "UPDATESTMT", "DELETESTMT", "MERGESTMT"]) {part : RawValue}
    (holds : part = .token text ∨ part = .str text) (inside : '\x7b' :: word.toList <:+: text.toList) :
    part.looksWriting = true := by
  have marks : ∀ word ∈ ["INSERTSTMT", "UPDATESTMT", "DELETESTMT", "MERGESTMT"], '\x7b' :: word.toList ∈ dmlMarks := by decide
  have found : (dmlMarks.any fun mark => occurs mark text.toList) = true :=
    List.any_eq_true.mpr ⟨_, marks word known, occurs_iff.mpr inside⟩
  rcases holds with same | same <;>
    · rw [same]
      exact found

theorem marked_within {word : String} (known : word ∈ ["INSERTSTMT", "UPDATESTMT", "DELETESTMT", "MERGESTMT"])
    (plain : tree.value.parts.any RawValue.looksWriting = false) :
    '\x7b' :: word.toList <:+: tree.text ↔ tree.value.marks.any (RawMark.opens word) = true := by
  have sound := sound_tree tree
  have quiet : ∀ part ∈ tree.value.parts, part.looksWriting = false := fun part inside => by
    rw [Bool.eq_false_iff]
    intro looks
    exact absurd (List.any_eq_true.mpr ⟨part, inside, looks⟩) (by rw [plain]; decide)
  have adds := adds_text (scans_opens known) tree.value rfl
    ⟨fun mark inside => ⟨sound.onMarks mark inside, fun tag name text more same found => by
        have part := value_part tree.value (same ▸ inside)
        have looks := looks_at known (.inl rfl) found
        rw [quiet _ part] at looks
        cases looks⟩,
      fun part inside => ⟨sound.onParts part inside, fun text same found => by
        have looks := looks_at known (.inr rfl) found
        rw [quiet _ (same ▸ inside)] at looks
        cases looks⟩⟩ [] trivial
  have iff := infix_of_adds adds rfl
  rw [List.append_nil] at iff
  rw [RawTree.text, iff, List.any_eq_true]
  constructor
  · intro some
    obtain ⟨_, inside⟩ := List.exists_mem_of_ne_nil _ some
    obtain ⟨mark, member, inside⟩ := List.mem_flatMap.mp inside
    refine ⟨mark, member, ?_⟩
    split at inside
    next found => exact found
    next => cases inside
  · rintro ⟨mark, member, found⟩
    have inside : () ∈ tree.value.marks.flatMap fun mark => if mark.opens word then [()] else [] :=
      List.mem_flatMap.mpr ⟨mark, member, by rw [if_pos found]; exact List.mem_singleton.mpr rfl⟩
    exact List.ne_nil_of_mem inside

theorem into_within (tree : RawTree) : intoMark <:+: tree.text ↔ tree.value.marks.any (RawMark.holds "intoClause") = true := by
  have sound := sound_tree tree
  have scans : Scans ':' ("intoClause".toList ++ ' ' :: ['\x7b']) seen (RawMark.held "intoClause") (·.sound = true)
      (·.sound = true) (fun _ => True) :=
    scans_held (letters_of_all (by decide)) (fun _ ok => ok) fun tag value more ok => by
      simp only [RawMark.sound, fieldSound, Bool.and_eq_true] at ok
      cases value with
      | null => exact .inl rfl
      | node inner fields => exact .inr ⟨inner, fields, rfl⟩
      | _ => simp at ok
  have adds := adds_text scans tree.value rfl sound [] trivial
  have iff := infix_of_adds adds rfl
  rw [List.append_nil] at iff
  have marker : intoMark = ':' :: ("intoClause".toList ++ ' ' :: ['\x7b']) := rfl
  rw [marker, RawTree.text, iff, List.any_eq_true]
  constructor
  · intro some
    obtain ⟨_, inside⟩ := List.exists_mem_of_ne_nil _ some
    obtain ⟨mark, member, inside⟩ := List.mem_flatMap.mp inside
    refine ⟨mark, member, ?_⟩
    rw [RawMark.held] at inside
    split at inside
    next found => exact found
    next => cases inside
  · rintro ⟨mark, member, found⟩
    have inside : () ∈ tree.value.marks.flatMap (RawMark.held "intoClause") :=
      List.mem_flatMap.mpr ⟨mark, member, by rw [RawMark.held, if_pos found]; exact List.mem_singleton.mpr rfl⟩
    exact List.ne_nil_of_mem inside

theorem announced_iff (mark : RawMark) : mark.announced = true ↔ mark.holds "intoClause" = true ∨
    ∃ word ∈ ["INSERTSTMT", "UPDATESTMT", "DELETESTMT", "MERGESTMT"], mark.opens word = true := by
  cases mark with
  | opening tag fields => simp [RawMark.announced, RawMark.holds, RawMark.opens]
  | field tag name value more => simp [RawMark.announced, RawMark.opens]

theorem dmlMarks_iff {mark : List Char} : mark ∈ dmlMarks ↔
    ∃ word ∈ ["INSERTSTMT", "UPDATESTMT", "DELETESTMT", "MERGESTMT"], mark = '\x7b' :: word.toList := by
  have known : dmlMarks = ["INSERTSTMT", "UPDATESTMT", "DELETESTMT", "MERGESTMT"].map fun word => '\x7b' :: word.toList := rfl
  rw [known, List.mem_map]
  constructor
  · rintro ⟨word, inside, same⟩
    exact ⟨word, inside, same.symm⟩
  · rintro ⟨word, inside, same⟩
    exact ⟨word, inside, same.symm⟩

/-- The text of a name or a string with the tag of a statement shows it in the dump. -/
theorem looks_within {part : RawValue} (inside : part ∈ tree.value.parts) (looks : part.looksWriting = true) :
    ∃ mark ∈ dmlMarks, mark <:+: tree.text := by
  have below := text_within tree.value part inside
  have printed : ∀ text : String, (dmlMarks.any fun mark => occurs mark text.toList) = true →
      ∃ mark ∈ dmlMarks, mark <:+: outToken text ∧ text ≠ "" := by
    intro text any
    obtain ⟨mark, member, found⟩ := List.any_eq_true.mp any
    obtain ⟨word, known, rfl⟩ := dmlMarks_iff.mp member
    have letters : ∀ word ∈ ["INSERTSTMT", "UPDATESTMT", "DELETESTMT", "MERGESTMT"], word.toList.all isWordChar = true := by decide
    have held := occurs_iff.mp found
    refine ⟨_, member, outToken_within (List.all_eq_true.mp (letters word known)) held, fun empty => ?_⟩
    rw [empty] at held
    simp at held
  cases part with
  | token text =>
    obtain ⟨mark, member, held, -⟩ := printed text looks
    exact ⟨mark, member, held.trans below⟩
  | str text =>
    obtain ⟨mark, member, held, nonempty⟩ := printed text looks
    have quoted : outToken text <:+: (RawValue.str text).text := by
      rw [RawValue.text, outString, if_neg nonempty]
      exact ⟨['"'], ['"'], by simp⟩
    exact ⟨mark, member, (held.trans quoted).trans below⟩
  | _ => cases looks

theorem writes_text (tree : RawTree) :
    (occurs intoMark tree.text || dmlMarks.any fun mark => occurs mark tree.text) = tree.seemsWriting := by
  have into : occurs intoMark tree.text = true ↔ tree.value.marks.any (RawMark.holds "intoClause") = true :=
    occurs_iff.trans (into_within tree)
  have dml : (dmlMarks.any fun mark => occurs mark tree.text) = true ↔ ∃ mark ∈ dmlMarks, mark <:+: tree.text := by
    rw [List.any_eq_true]
    constructor
    · rintro ⟨mark, member, found⟩
      obtain ⟨word, -, rfl⟩ := dmlMarks_iff.mp member
      exact ⟨_, member, occurs_iff.mp found⟩
    · rintro ⟨mark, member, held⟩
      obtain ⟨word, -, rfl⟩ := dmlMarks_iff.mp member
      exact ⟨_, member, occurs_iff.mpr held⟩
  rw [Bool.eq_iff_iff, RawTree.seemsWriting, Bool.or_eq_true, Bool.or_eq_true, into, dml]
  cases plain : tree.value.parts.any RawValue.looksWriting with
  | true =>
    obtain ⟨part, inside, looks⟩ := List.any_eq_true.mp plain
    exact iff_of_true (.inr (looks_within inside looks)) (.inr rfl)
  | false =>
    rw [or_iff_left (show ¬ false = true by decide)]
    constructor
    · rintro (held | ⟨mark, member, text⟩)
      · obtain ⟨mark, inside, found⟩ := List.any_eq_true.mp held
        exact List.any_eq_true.mpr ⟨mark, inside, (announced_iff mark).mpr (.inl found)⟩
      · obtain ⟨word, known, rfl⟩ := dmlMarks_iff.mp member
        obtain ⟨mark, inside, opened⟩ := List.any_eq_true.mp ((marked_within known plain).mp text)
        exact List.any_eq_true.mpr ⟨mark, inside, (announced_iff mark).mpr (.inr ⟨word, known, opened⟩)⟩
    · intro any
      obtain ⟨mark, inside, announced⟩ := List.any_eq_true.mp any
      rcases (announced_iff mark).mp announced with held | ⟨word, known, opened⟩
      · exact .inl (List.any_eq_true.mpr ⟨mark, inside, held⟩)
      · have text := (marked_within known plain).mpr (List.any_eq_true.mpr ⟨mark, inside, opened⟩)
        exact .inr ⟨_, dmlMarks_iff.mpr ⟨word, known, rfl⟩, text⟩

end Allgres
