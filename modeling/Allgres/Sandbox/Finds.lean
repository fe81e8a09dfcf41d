import Allgres.Sandbox.Walk

/-! Each search of `analyze_dump` finds what it is for, unless a name looks like a
marker or like the end of itself. -/

namespace Allgres

open Search

/-! ### Where the text misleads -/

/-- A token whose text ends in the word. -/
def RawValue.endsIn (word : String) : RawValue → Bool
  | .token text => word.toList.isSuffixOf text.toList
  | _ => false

/-- The reader does not take a character of the name for the end of it. -/
def RawValue.unbroken : RawValue → Bool
  | .token text => text.toList.all fun c => !isBreak c
  | _ => true

def RawValue.unquoted : RawValue → Bool
  | .str text => !text.toList.tail.contains '"'
  | .list items => items.all fun
    | .str text => !text.toList.tail.contains '"'
    | _ => true
  | _ => true

/-- The fields in front of a relation's name do not look like the fields behind them. -/
def rangeVarClear : RawFields → Bool
  | (_, catalog) :: (_, schema) :: (_, name) :: _ =>
    !catalog.endsIn ":schemaname" && !catalog.endsIn ":relname" && !schema.endsIn ":relname" &&
      schema.unbroken && name.unbroken
  | _ => true

/-- No relation's name seems to stand here. -/
def RawMark.nameless : RawMark → Bool
  | .opening .. => true
  | .field _ name value more => name ≠ some "relname" && (!value.endsIn ":relname" || more.isEmpty)

def RawMark.clear : RawMark → Bool
  | .opening tag fields => tag ≠ "RANGEVAR" || rangeVarClear fields
  | .field tag name value more =>
    (name ≠ some "ctename" || value.unbroken) &&
      (name ≠ some "funcname" || (tag = "FUNCCALL" && value.unquoted)) &&
      (!value.endsIn ":ctename" || more.isEmpty) &&
      (!value.endsIn "\x7bRANGEVAR" || (fieldsMarks tag more).all RawMark.nameless)

/-! ### What follows a token -/

section Scans

variable {γ : Type} {f : List Char → Option (Option γ)} {onMark : RawMark → List γ} {okMark : RawMark → Prop}
  {Behind : List Char → Prop} {w back rest : List Char} {tag : String} {more : RawFields}

theorem parted_fieldsText (fields : RawFields) (rest : List Char) : Parted (fieldsText fields ++ '}' :: rest) := by
  intro c later same
  cases fields with
  | nil =>
    rw [← (List.cons.inj same).1]
    rfl
  | cons field fields =>
    obtain ⟨name, value⟩ := field
    cases name <;>
      · rw [← (List.cons.inj same).1]
        rfl

theorem parted_quote (rest : List Char) : Parted ('"' :: rest) := by
  intro c later same
  rw [← (List.cons.inj same).1]
  rfl

theorem not_space_quote : ¬ ' ' :: back <+: '"' :: rest := fun starts => absurd (List.cons_prefix_cons.mp starts).1 (by decide)

theorem not_space_end (last : more.isEmpty = true) : ¬ ' ' :: back <+: fieldsText more ++ '}' :: rest := by
  rw [List.isEmpty_iff.mp last]
  exact fun starts => absurd (List.cons_prefix_cons.mp starts).1 (by decide)

/-- A field begins with its name or with a word. -/
theorem not_bracket (sound : SoundBelow (fieldsMarks tag more) (fieldsParts more)) {c : Char} (bracket : c = '\x7b' ∨ c = '(') :
    ¬ [' ', c] <+: fieldsText more ++ '}' :: rest := by
  intro starts
  cases more with
  | nil => exact absurd (List.cons_prefix_cons.mp starts).1 (by decide)
  | cons field more =>
    obtain ⟨name, value⟩ := field
    cases name with
    | some name =>
      have second := (List.cons_prefix_cons.mp (List.cons_prefix_cons.mp starts).2).1
      rcases bracket with same | same <;>
        · rw [same] at second
          cases second
    | none =>
      cases value with
      | plain text =>
        have plain : text.toList.all isPlainChar = true := sound.part
        have second : [c] <+: text.toList ++ (fieldsText more ++ '}' :: rest) := by
          rw [← List.append_assoc]
          exact (List.cons_prefix_cons.mp starts).2
        cases shape : text.toList with
        | nil =>
          rw [shape] at second
          cases more with
          | nil => rcases bracket with same | same <;> simp [same, fieldsText] at second
          | cons field more =>
            obtain ⟨name, value⟩ := field
            rcases bracket with same | same <;> cases name <;> simp [same, fieldsText, fieldMark] at second
        | cons d letters =>
          rw [shape] at second plain
          have same : c = d := (List.cons_prefix_cons.mp second).1
          have letter : isPlainChar d = true := List.all_eq_true.mp plain d (List.mem_cons_self ..)
          rw [← same] at letter
          rcases bracket with same | same <;>
            · rw [same] at letter
              cases letter
      | _ => exact absurd sound.mark (by simp [RawMark.sound])

theorem escapeAll_word (word : ∀ c ∈ w, isWordChar c = true) : escapeAll w = w := by
  induction w with
  | nil => rfl
  | cons c w ih =>
    rw [escapeAll_cons, escape_plain (isWordChar_plain (word c (List.mem_cons_self ..))).1,
      ih fun d inside => word d (List.mem_cons_of_mem c inside)]
    rfl

/-- One word with a space behind it is found in another only if they are the same. -/
theorem word_eq {v : List Char} (word : ∀ c ∈ w, isWordChar c = true) (word' : ∀ c ∈ v, isWordChar c = true)
    (parted : Parted rest) (starts : w ++ ' ' :: back <+: v ++ rest) : v = w ∧ ' ' :: back <+: rest := by
  rw [← escapeAll_word word'] at starts
  obtain ⟨later, shape, behind⟩ := word_front word parted starts
  cases later with
  | nil => exact ⟨by rw [shape, List.append_nil], behind⟩
  | cons c later => exact absurd behind (not_space_front (List.cons_ne_nil c later))

theorem letters_of_field {name : String} {value : RawValue} (sound : (RawMark.field tag (some name) value more).sound = true) :
    ∀ c ∈ name.toList, isWordChar c = true := List.all_eq_true.mp (Bool.and_eq_true_iff.mp sound).1

theorem silent_opening (word : ∀ c ∈ tag.toList, isWordChar c = true) : Silent (':' :: back) ('\x7b' :: tag.toList) rest :=
  silent_of_not_mem fun inside => by
    rcases List.mem_cons.mp inside with same | inside
    · cases same
    · cases word ':' inside

theorem silent_fieldMark {name : Option String} {value : RawValue} (sound : (RawMark.field tag name value more).sound = true) :
    Silent ('\x7b' :: back) (fieldMark name) rest := silent_of_not_mem fun inside => by
  cases name with
  | none => cases List.mem_singleton.mp inside
  | some name =>
    rcases List.mem_cons.mp inside with same | inside
    · cases same
    · rcases List.mem_cons.mp inside with same | inside
      · cases same
      · rcases List.mem_append.mp inside with inside | inside
        · cases letters_of_field sound '\x7b' inside
        · cases List.mem_singleton.mp inside

/-- The searches for a field's name. -/
theorem scans_field (word : ∀ c ∈ w, isWordChar c = true) (sound : ∀ mark, okMark mark → mark.sound = true)
    (openings : ∀ tag fields, onMark (.opening tag fields) = [])
    (others : ∀ tag name value more, name.map String.toList ≠ some w → onMark (.field tag name value more) = [])
    (finds : ∀ tag name value more rest, okMark (.field tag (some name) value more) → name.toList = w →
      Adds (':' :: (w ++ ' ' :: back)) f (':' :: (w ++ [' '])) (value.text ++ (fieldsText more ++ '}' :: rest))
        (onMark (.field tag (some name) value more)))
    (last : ∀ tag name text more rest, okMark (.field tag name (.token text) more) →
      Throughout okMark (·.sound = true) (fieldsMarks tag more) (fieldsParts more) →
      ':' :: w <:+ text.toList → ¬ ' ' :: back <+: fieldsText more ++ '}' :: rest) :
    Scans ':' (w ++ ' ' :: back) f onMark okMark (·.sound = true) (fun _ => True) where
  begins := rfl
  opening := fun {tag fields} rest ok _ => by
    rw [openings]
    exact adds_silent (silent_opening (letters_of_opening (sound _ ok)))
  field := fun {tag name value more} rest ok => by
    have space : ∀ rest, Silent (':' :: (w ++ ' ' :: back)) [' '] rest := fun rest => silent_of_not_mem (by decide)
    cases name with
    | none =>
      rw [others tag none value more (by simp)]
      exact adds_silent (space _)
    | some name =>
      rcases Decidable.em (name.toList = w) with same | other
      · have found := finds tag name value more rest ok same
        have shape : fieldMark (some name) = [' '] ++ (':' :: (w ++ [' '])) := by
          rw [fieldMark, same]
          rfl
        rw [shape]
        exact found.after_silent (space _)
      · have letters := letters_of_field (sound _ ok)
        have quiet : Silent (':' :: (w ++ ' ' :: back)) (name.toList ++ [' ']) (value.text ++ (fieldsText more ++ '}' :: rest)) := by
          refine silent_of_not_mem fun inside => ?_
          rcases List.mem_append.mp inside with inside | inside
          · cases letters ':' inside
          · cases List.mem_singleton.mp inside
        have apart : Parted (' ' :: (value.text ++ (fieldsText more ++ '}' :: rest))) := fun c later same => by
          rw [← (List.cons.inj same).1]
          rfl
        rw [others tag (some name) value more (fun same => other (Option.some.inj same))]
        have named : Silent (':' :: (w ++ ' ' :: back)) (':' :: (name.toList ++ [' ']))
            (value.text ++ (fieldsText more ++ '}' :: rest)) := by
          refine silent_cons (fun _ starts => other ?_) quiet
          rw [List.append_assoc] at starts
          exact (word_eq word letters apart starts).1
        exact adds_silent (silent_append.mpr ⟨space _, named⟩)
  token := fun {tag name text more} rest ok all => adds_silent (silent_outToken rfl
    (apart_space word (parted_fieldsText more rest) (last tag name text more rest ok all)))
  str := fun {text} rest _ _ => adds_silent (silent_outString rfl
    (apart_space word (parted_quote rest) (fun _ => not_space_quote)))
  part := fun ok => ok
  fields := fun _ _ => trivial
  others := fun _ _ _ _ => trivial

end Scans

/-! ### Searches that only count -/

section Seen

variable {head : Char} {tail piece rest : List Char} {found : List Unit}

def seen : List Char → Option (Option Unit) := fun _ => some (some ())

theorem scan_seen (rests : List (List Char)) : scan seen rests = some (List.replicate rests.length ()) := by
  induction rests with
  | nil => rfl
  | cons rest rests ih =>
    rw [scan_cons  rfl, ih]
    rfl

theorem hits_of_adds (adds : Adds (head :: tail) seen piece rest found) :
    (hits (head :: tail) (piece ++ rest)).length = found.length + (hits (head :: tail) rest).length := by
  rw [Adds, scan_seen, scan_seen, Option.map_some, Option.some_inj] at adds
  have lengths := congrArg List.length adds
  simpa using lengths

theorem infix_of_adds (adds : Adds (head :: tail) seen piece rest found) (nothing : hits (head :: tail) rest = []) :
    head :: tail <:+: piece ++ rest ↔ found ≠ [] := by
  have counted := hits_of_adds adds
  rw [nothing, List.length_nil, Nat.add_zero] at counted
  rw [← hits_ne_nil, ← List.length_pos_iff, ← List.length_pos_iff, counted]

end Seen

end Allgres
