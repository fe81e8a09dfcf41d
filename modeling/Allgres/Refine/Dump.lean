import Allgres.Sandbox.Finds

/-! What `analyze_dump` reads at the marks of a tree: the relation of a `RangeVar`,
the name of a common table expression, the function of a call. -/

namespace Allgres

open Search RustStr

/-- A mark that is read right. -/
def ReadRight (mark : RawMark) : Prop := mark.sound = true ∧ mark.clear = true

variable {γ : Type} {w back rest : List Char} {tag : String} {more : RawFields} {value : RawValue}

theorem stops_space : Stops (' ' :: rest) := fun c later same => by
  rw [← (List.cons.inj same).1]
  exact ⟨rfl, by decide⟩

theorem stops_fieldsText (fields : RawFields) : Stops (fieldsText fields) := fun c later same => by
  cases fields with
  | nil => cases same
  | cons field fields =>
    obtain ⟨name, value⟩ := field
    cases name <;> exact stops_space c later same

theorem stops_closed (fields : RawFields) (rest : List Char) : Stops (fieldsText fields ++ '}' :: rest) := fun c later same => by
  cases fields with
  | nil =>
    rw [← (List.cons.inj same).1]
    exact ⟨rfl, by decide⟩
  | cons field fields =>
    obtain ⟨name, value⟩ := field
    cases name <;> exact stops_space c later same

/-! ### Relations -/

/-- The string of a `char *` field. -/
def RawValue.name : RawValue → Option String
  | .token text => some text
  | _ => none

theorem unbroken_token {text : String} (unbroken : (RawValue.token text).unbroken = true) :
    ∀ c ∈ text.toList, isBreak c = false := fun c inside => by
  have checked := List.all_eq_true.mp unbroken c inside
  simpa using checked

theorem readToken_name (isName : value.isName = true) (unbroken : value.unbroken = true) (stops : Stops rest) :
    (readToken (value.text ++ rest)).map Prod.fst = some value.name := by
  cases value with
  | null => rfl
  | token text =>
    rw [RawValue.text, readToken_outToken (unbroken_token unbroken) stops]
    rfl
  | _ => cases isName

theorem silent_name {word : String} (isName : value.isName = true) (letters : ∀ c ∈ word.toList, isWordChar c = true)
    (other : value.endsIn (":" ++ word) = false) :
    Silent (':' :: (word.toList ++ ' ' :: back)) value.text (' ' :: rest) := by
  cases value with
  | null => exact silent_chars rfl (by decide)
  | token text =>
    have parted : Parted (' ' :: rest) := fun c later same => by
      rw [← (List.cons.inj same).1]
      rfl
    refine silent_outToken rfl (apart_space letters parted fun ends => ?_)
    have other : (":" ++ word).toList.isSuffixOf text.toList = false := other
    rw [Bool.eq_false_iff, ne_eq, List.isSuffixOf_iff_suffix] at other
    exact absurd ends (by simpa using other)
  | _ => cases isName

theorem rangeVar_fields {fields : RawFields} (sound : rangeVarSound fields = true) : ∃ catalog schema name more,
    fields = (some "catalogname", catalog) :: (some "schemaname", schema) :: (some "relname", .token name) :: more ∧
    catalog.isName = true ∧ schema.isName = true := by
  rw [rangeVarSound.eq_def] at sound
  split at sound
  · simp only [Bool.and_eq_true, decide_eq_true_eq] at sound
    obtain ⟨⟨⟨⟨rfl, catalog⟩, rfl⟩, schema⟩, rfl⟩ := sound
    exact ⟨_, _, _, _, rfl, catalog, schema⟩
  · cases sound

/-- The first field that seems to have the name is read. -/
theorem field_found {name : String} {piece : List Char} (once : ':' ∉ name.toList)
    (quiet : Silent (':' :: (name.toList ++ [' '])) piece (':' :: (name.toList ++ [' ']) ++ rest)) :
    field (piece ++ (':' :: (name.toList ++ [' ']) ++ rest)) name = (readToken rest).map Prod.fst := by
  have marker : (":" ++ name ++ " ").toList = ':' :: (name.toList ++ [' ']) := by
    rw [String.toList_append, String.toList_append]
    rfl
  have once : ':' ∉ name.toList ++ [' '] := by
    rw [List.mem_append, not_or]
    exact ⟨once, by decide⟩
  rw [field, marker, afterFirst_eq, hits_silent quiet, hits_marker once]
  rfl

theorem nodeBody_space (rest : List Char) : nodeBody (' ' :: rest) = ' ' :: nodeBody rest := by
  rw [nodeBody, bodyTo_cons (by decide), if_neg (by decide), if_neg (by decide)]
  rfl

/-- The name of one field does not begin that of another. -/
theorem silent_other {name other : String} (letters : ∀ c ∈ name.toList, isWordChar c = true)
    (letters' : ∀ c ∈ other.toList, isWordChar c = true) (apart : other ≠ name) :
    Silent (':' :: (name.toList ++ ' ' :: back)) (':' :: (other.toList ++ [' '])) rest := by
  have parted : Parted (' ' :: rest) := fun c later same => by
    rw [← (List.cons.inj same).1]
    rfl
  have quiet : Silent (':' :: (name.toList ++ ' ' :: back)) (other.toList ++ [' ']) rest := silent_of_not_mem fun inside => by
    rcases List.mem_append.mp inside with inside | inside
    · cases letters' ':' inside
    · cases List.mem_singleton.mp inside
  refine silent_cons (fun _ starts => apart ?_) quiet
  rw [List.append_assoc] at starts
  exact String.toList_injective (word_eq letters letters' parted starts).1

theorem relationAt_rangeVar {fields : RawFields} (sound : rangeVarSound fields = true) (clear : rangeVarClear fields = true)
    (all : SoundBelow (fieldsMarks tag fields) (fieldsParts fields)) (rest : List Char) : ∃ body,
    fieldsText fields = ' ' :: body ∧
    relationAt (body ++ '}' :: rest) = some (RawMark.relation (.opening "RANGEVAR" fields)) := by
  obtain ⟨catalog, schema, name, more, rfl, isCatalog, isSchema⟩ := rangeVar_fields sound
  simp only [rangeVarClear, Bool.and_eq_true, Bool.not_eq_true'] at clear
  obtain ⟨⟨⟨⟨catalogSchema, catalogName⟩, schemaName⟩, schemaRead⟩, nameRead⟩ := clear
  have relname : ∀ c ∈ "relname".toList, isWordChar c = true := letters_of_all (by decide)
  have schemaname : ∀ c ∈ "schemaname".toList, isWordChar c = true := letters_of_all (by decide)
  have catalogname : ∀ c ∈ "catalogname".toList, isWordChar c = true := letters_of_all (by decide)
  have space (word : List Char) (rest : List Char) : Silent (':' :: word) [' '] rest := silent_of_not_mem (by decide)
  let named := outToken name ++ fieldsText more
  let behindSchema := ':' :: ("relname".toList ++ [' ']) ++ named
  let behindCatalog := ':' :: ("schemaname".toList ++ [' ']) ++ (schema.text ++ ' ' :: behindSchema)
  let body := ':' :: ("catalogname".toList ++ [' ']) ++ (catalog.text ++ ' ' :: behindCatalog)
  have shape : fieldsText ((some "catalogname", catalog) :: (some "schemaname", schema) ::
      (some "relname", .token name) :: more) = ' ' :: body := rfl
  have ends : nodeBody (body ++ '}' :: rest) = body := by
    have whole := nodeBody_fieldsText all rest
    rw [shape, List.cons_append, nodeBody_space] at whole
    exact (List.cons.inj whole).2
  have nameField : field body "relname" = some (some name) := by
    have front : body = (':' :: ("catalogname".toList ++ [' ']) ++ (catalog.text ++ ([' '] ++
        (':' :: ("schemaname".toList ++ [' ']) ++ (schema.text ++ [' ']))))) ++ behindSchema := by
      simp [body, behindCatalog, List.append_assoc]
    rw [front]
    have read := readToken_outToken (unbroken_token nameRead) (stops_fieldsText more)
    refine (field_found (by decide) ?_).trans (by rw [read]; rfl)
    refine silent_append.mpr ⟨silent_other relname catalogname (by decide), ?_⟩
    refine silent_append.mpr ⟨silent_name isCatalog relname catalogName, ?_⟩
    refine silent_append.mpr ⟨space _ _, ?_⟩
    refine silent_append.mpr ⟨silent_other relname schemaname (by decide), ?_⟩
    exact silent_append.mpr ⟨silent_name isSchema relname schemaName, space _ _⟩
  have schemaField : field body "schemaname" = some schema.name := by
    have front : body = (':' :: ("catalogname".toList ++ [' ']) ++ (catalog.text ++ [' '])) ++ behindCatalog := by
      simp [body, List.append_assoc]
    rw [front]
    refine (field_found (by decide) ?_).trans (readToken_name isSchema schemaRead stops_space)
    refine silent_append.mpr ⟨silent_other schemaname catalogname (by decide), ?_⟩
    exact silent_append.mpr ⟨silent_name isCatalog schemaname catalogSchema, space _ _⟩
  have named : RawMark.relation (.opening "RANGEVAR" ((some "catalogname", catalog) :: (some "schemaname", schema) ::
      (some "relname", .token name) :: more)) = some (schema.name, name) := by
    cases schema with
    | null => rfl
    | token text => rfl
    | _ => cases isSchema
  refine ⟨body, shape, ?_⟩
  simp only [relationAt, ends, nameField, schemaField, named, Option.map_some]

theorem flatMap_nothing (marks : List RawMark) : marks.flatMap (fun _ => ([] : List Unit)) = [] := by
  induction marks with
  | nil => rfl
  | cons mark marks ih => exact ih

theorem endsIn_token {text word : String} (ends : word.toList <:+ text.toList) : (RawValue.token text).endsIn word = true :=
  List.isSuffixOf_iff_suffix.mpr ends

theorem scans_relname : Scans ':' ("relname".toList ++ [' ']) seen (fun _ => [])
    (fun mark => mark.sound = true ∧ mark.nameless = true) (·.sound = true) (fun _ => True) :=
  scans_field (letters_of_all (by decide)) (fun _ ok => ok.1) (fun _ _ => rfl) (fun _ _ _ _ _ => rfl)
    (fun tag name value more rest ok same => by
      have nameless := ok.2
      have named : name = "relname" := String.toList_injective same
      rw [named] at nameless
      simp [RawMark.nameless] at nameless)
    (fun tag name text more rest ok _ ends => by
      have nameless := ok.2
      have found : (RawValue.token text).endsIn ":relname" = true := endsIn_token ends
      simp only [RawMark.nameless, found, Bool.and_eq_true, Bool.not_true, Bool.false_or] at nameless
      exact not_space_end nameless.2)

/-- Where no name of a relation follows in the node, the search for one finds nothing. -/
theorem relationAt_nameless {body : List Char} (shape : fieldsText more = ' ' :: body)
    (all : SoundBelow (fieldsMarks tag more) (fieldsParts more))
    (nameless : (fieldsMarks tag more).all RawMark.nameless = true) (rest : List Char) :
    relationAt (body ++ '}' :: rest) = some none := by
  have ends : nodeBody (body ++ '}' :: rest) = body := by
    have whole := nodeBody_fieldsText all rest
    rw [shape, List.cons_append, nodeBody_space] at whole
    exact (List.cons.inj whole).2
  have both : Throughout (fun mark => mark.sound = true ∧ mark.nameless = true) (·.sound = true) (fieldsMarks tag more)
      (fieldsParts more) :=
    ⟨fun mark inside => ⟨all.onMarks mark inside, List.all_eq_true.mp nameless mark inside⟩, all.onParts⟩
  have adds := adds_fieldsText scans_relname tag more both []
  rw [flatMap_nothing] at adds
  have absent : ¬ ':' :: ("relname".toList ++ [' ']) <:+: body := fun inside => by
    have further : body <:+: fieldsText more ++ ['}'] := by
      rw [shape]
      exact ⟨[' '], ['}'], rfl⟩
    exact (infix_of_adds adds rfl).mp (inside.trans further) rfl
  have missed : afterFirst (":" ++ "relname" ++ " ").toList body = none := by
    have other : ¬ (afterFirst (':' :: ("relname".toList ++ [' '])) body).isSome = true := fun found =>
      absent (afterFirst_isSome.mp found)
    rw [Bool.not_eq_true, Option.isSome_eq_false_iff, Option.isNone_iff_eq_none] at other
    exact other
  simp only [relationAt, ends, field, missed]

theorem escapeAll_append (s t : List Char) : escapeAll (s ++ t) = escapeAll s ++ escapeAll t := List.flatMap_append

/-- A token at whose end a marker seems to stand hides nothing and adds nothing, if
nothing is read behind it. -/
theorem adds_ending {f : List Char → Option (Option γ)} {text : String} (word : ∀ c ∈ w, isWordChar c = true)
    (ends : '\x7b' :: w <:+ text.toList) (nothing : ∀ body, rest = ' ' :: body → f body = some none) :
    Adds ('\x7b' :: (w ++ [' '])) f (outToken text) rest [] := by
  obtain ⟨front, shape⟩ := ends
  have nonempty : text ≠ "" := fun empty => by
    rw [empty] at shape
    simp at shape
  have printed : outToken text = ((if escapedInFront text.toList then ['\\'] else []) ++ (escapeAll front ++ ['\\'])) ++
      '\x7b' :: w := by
    rw [outToken, if_neg nonempty, outChars, ← shape, escapeAll_append, escapeAll_cons, escapeAll_word word]
    simp [escape, escapedAnywhere]
  have parted : Parted ('\\' :: ('\x7b' :: w ++ rest)) := fun c later same => by
    rw [← (List.cons.inj same).1]
    rfl
  have slash : ∀ rest, Silent ('\x7b' :: (w ++ [' '])) ['\\'] rest := fun rest => silent_of_not_mem (by decide)
  have before : Silent ('\x7b' :: (w ++ [' '])) ((if escapedInFront text.toList then ['\\'] else []) ++
      (escapeAll front ++ ['\\'])) ('\x7b' :: w ++ rest) := by
    refine silent_append.mpr ⟨?_, silent_append.mpr ⟨?_, slash _⟩⟩
    · split
      · exact slash _
      · trivial
    · refine silent_escapeAll (by decide) (apart_space word parted fun _ starts => ?_)
      exact absurd (List.cons_prefix_cons.mp starts).1 (by decide)
  have once : '\x7b' ∉ w := fun inside => by cases word '\x7b' inside
  rw [printed]
  refine Adds.after_silent before ?_
  rcases rest with _ | ⟨c, body⟩
  · refine adds_silent (silent_cons (fun _ starts => ?_) (silent_of_not_mem once))
    have longer := starts.length_le
    simp only [List.length_append, List.length_singleton, List.length_nil] at longer
    omega
  · rcases Decidable.em (c = ' ') with rfl | other
    · exact adds_marker once (by simp) (nothing body rfl)
    · refine adds_silent (silent_cons (fun _ starts => other ?_) (silent_of_not_mem once))
      have second := (List.prefix_append_right_inj w).mp starts
      exact (List.cons_prefix_cons.mp second).1.symm

theorem scans_relations : Scans '\x7b' ("RANGEVAR".toList ++ [' ']) relationAt (fun mark => mark.relation.toList) ReadRight
    (·.sound = true) (fun _ => True) where
  begins := rfl
  opening := fun {tag fields} rest ok all => by
    have letters := letters_of_opening ok.1
    have once : '\x7b' ∉ tag.toList := fun inside => by cases letters '\x7b' inside
    have sound : SoundBelow (fieldsMarks tag fields) (fieldsParts fields) := all.imp (fun _ ok => ok.1) (fun _ ok => ok)
    rcases Decidable.em (tag = "RANGEVAR") with same | other
    · have isRangeVar : rangeVarSound fields = true := by
        have checked := ok.1
        simp only [RawMark.sound, Bool.and_eq_true, same] at checked
        simpa using checked.2
      have clear : rangeVarClear fields = true := by
        have checked := ok.2
        simpa [RawMark.clear, same] using checked
      obtain ⟨body, shape, read⟩ := relationAt_rangeVar isRangeVar clear sound rest
      rw [same]
      exact adds_marker (by decide) (by rw [shape, List.append_assoc]; rfl) read
    · have nothing : (RawMark.opening tag fields).relation = none := if_neg other
      rw [nothing]
      refine adds_silent (silent_cons (fun _ starts => other ?_) (silent_of_not_mem once))
      exact String.toList_injective (word_eq (letters_of_all (by decide)) letters (parted_fieldsText fields rest) starts).1
  field := fun {tag name value more} rest ok => adds_silent (silent_fieldMark ok.1)
  token := fun {tag name text more} rest ok all => by
    rcases Decidable.em ('\x7b' :: "RANGEVAR".toList <:+ text.toList) with ends | other
    · refine adds_ending (letters_of_all (by decide)) ends fun body shape => ?_
      have found : (RawValue.token text).endsIn "\x7bRANGEVAR" = true := endsIn_token ends
      have nameless : (fieldsMarks tag more).all RawMark.nameless = true := by
        have clear := ok.2
        simp only [RawMark.clear, found, Bool.and_eq_true, Bool.not_true, Bool.false_or] at clear
        exact clear.2
      cases more with
      | nil => cases shape
      | cons field more =>
        obtain ⟨name, value⟩ := field
        have sound := all.imp (fun _ ok => ok.1) (fun _ ok => ok)
        obtain ⟨inner, front⟩ : ∃ inner, fieldsText ((name, value) :: more) = ' ' :: inner := by
          cases name <;> exact ⟨_, rfl⟩
        rw [front] at shape
        rw [← (List.cons.inj shape).2]
        exact relationAt_nameless front sound nameless rest
    · exact adds_silent (silent_outToken rfl (apart_space (letters_of_all (by decide)) (parted_fieldsText more rest)
        (fun ends => absurd ends other)))
  str := fun {text} rest _ _ => adds_silent (silent_outString rfl
    (apart_space (letters_of_all (by decide)) (parted_quote rest) (fun _ => not_space_quote)))
  part := fun ok => ok
  fields := fun _ _ => trivial
  others := fun _ _ _ _ => trivial

/-! ### Common table expressions -/

theorem scans_ctes : Scans ':' ("ctename".toList ++ [' ']) cteAt (fun mark => mark.cte.toList) ReadRight (·.sound = true)
    (fun _ => True) := by
  refine scans_field (letters_of_all (by decide)) (fun _ ok => ok.1) (fun _ _ => rfl) ?_ ?_ ?_
  · intro tag name value more other
    cases value with
    | token text =>
      have apart : name ≠ some "ctename" := fun same => other (by rw [same]; rfl)
      simp [RawMark.cte, apart]
    | _ => rfl
  · intro tag name value more rest ok same
    have named : name = "ctename" := String.toList_injective same
    subst named
    have sound := ok.1
    simp only [RawMark.sound, fieldSound, Bool.and_eq_true] at sound
    have isToken : value.isToken = true := by simpa using sound.2.1.1.1
    have clear := ok.2
    simp only [RawMark.clear, Bool.and_eq_true] at clear
    have unbroken : value.unbroken = true := by simpa using clear.1.1.1
    cases value with
    | token text =>
      have read : cteAt (outToken text ++ (fieldsText more ++ '}' :: rest)) = some (some text) := by
        rw [cteAt, readToken_outToken (unbroken_token unbroken) (stops_closed more rest)]
        rfl
      exact adds_marker (by decide) rfl read
    | _ => cases isToken
  · intro tag name text more rest ok _ ends
    have clear := ok.2
    have found : (RawValue.token text).endsIn ":ctename" = true := endsIn_token ends
    simp only [RawMark.clear, found, Bool.and_eq_true, Bool.not_true, Bool.false_or] at clear
    exact not_space_end clear.1.2

/-! ### Functions -/

theorem quotedFrom_itemsText {items : List RawValue} (strings : items.all RawValue.isString = true)
    (unquoted : (RawValue.list items).unquoted = true) : quotedFrom none (itemsText items) = some (stringsOf items) := by
  induction items with
  | nil => rfl
  | cons item items ih =>
    simp only [RawValue.unquoted, List.all_cons, Bool.and_eq_true] at strings unquoted ih
    cases item with
    | str text =>
      have plain : '"' ∉ text.toList.tail := by simpa using unquoted.1
      have later := ih strings.2 unquoted.2
      show quotedFrom none (outString text ++ itemsText items) = _
      rw [quotedFrom_outString plain, later]
      rfl
    | _ => cases strings.1

theorem functionAt_list {item : RawValue} {items : List RawValue} (strings : (item :: items).all RawValue.isString = true)
    (unquoted : (RawValue.list (item :: items)).unquoted = true) (rest : List Char) :
    functionAt (item.text ++ (itemsText items ++ ')' :: rest)) = some (lastTwo (stringsOf (item :: items))) := by
  have all : ∀ items : List RawValue, items.all RawValue.isString = true → SoundBelow (itemsMarks items) (itemsParts items) := by
    intro items strings
    induction items with
    | nil => exact ⟨nofun, nofun⟩
    | cons item items ih =>
      rw [List.all_cons, Bool.and_eq_true] at strings
      have later := ih strings.2
      cases item with
      | str text =>
        refine ⟨later.onMarks, fun part inside => ?_⟩
        rcases List.mem_cons.mp inside with same | inside
        · rw [same]
          rfl
        · exact later.onParts part inside
      | _ => cases strings.1
  have neutral := neutral_itemsText (.inr ⟨rfl, rfl⟩) (item :: items) (all _ strings)
  have ends : parenBody (item.text ++ (itemsText items ++ ')' :: rest)) = item.text ++ itemsText items := by
    have whole : bodyTo '(' ')' 0 (itemsText (item :: items) ++ ')' :: rest) = itemsText (item :: items) :=
      bodyTo_closes (by decide) (by decide) neutral rest
    have shape : itemsText (item :: items) = ' ' :: (item.text ++ itemsText items) := rfl
    rw [shape, List.cons_append, bodyTo_cons (by decide), if_neg (by decide), if_neg (by decide), List.append_assoc] at whole
    exact (List.cons.inj whole).2
  have read : quotedStrings (item.text ++ itemsText items) = some (stringsOf (item :: items)) :=
    quotedFrom_itemsText strings unquoted
  rw [functionAt, ends, read]
  rfl

theorem scans_functions : Scans ':' ("funcname".toList ++ ' ' :: ['(']) functionAt (fun mark => mark.function.toList) ReadRight
    (·.sound = true) (fun _ => True) := by
  refine scans_field (letters_of_all (by decide)) (fun _ ok => ok.1) (fun _ _ => rfl) ?_ ?_ ?_
  · intro tag name value more other
    cases value with
    | list items =>
      have apart : name ≠ some "funcname" := fun same => other (by rw [same]; rfl)
      simp [RawMark.function, apart]
    | _ => rfl
  · intro tag name value more rest ok same
    have named : name = "funcname" := String.toList_injective same
    subst named
    have sound := ok.1
    have clear := ok.2
    simp only [RawMark.sound, fieldSound, Bool.and_eq_true] at sound
    simp only [RawMark.clear, Bool.and_eq_true] at clear
    have call : tag = "FUNCCALL" ∧ value.unquoted = true := by simpa using clear.1.1.2
    cases value with
    | list items =>
      have strings : items ≠ [] ∧ items.all RawValue.isString = true := by simpa using sound.2.2
      cases items with
      | nil => exact absurd rfl strings.1
      | cons item items =>
        have read := functionAt_list strings.2 call.2 (fieldsText more ++ '}' :: rest)
        have shape : (RawValue.list (item :: items)).text ++ (fieldsText more ++ '}' :: rest) =
            '(' :: (item.text ++ (itemsText items ++ ')' :: (fieldsText more ++ '}' :: rest))) := by
          simp [RawValue.text]
        have found : (RawMark.field tag (some "funcname") (.list (item :: items)) more).function =
            lastTwo (stringsOf (item :: items)) := if_pos ⟨call.1, rfl⟩
        rw [found, shape]
        exact adds_marker (by decide) rfl read
    | _ => simp at sound
  · intro tag name text more rest ok all _
    exact not_bracket (all.imp (fun _ ok => ok.1) (fun _ ok => ok)) (.inr rfl)

end Allgres
