import Allgres.Sandbox.Printed

/-! The searches of `analyze_dump` over a printed tree: a search finds what it is
for at the marks of the tree, if no token looks like its marker. -/

namespace Allgres

open Search

/-! ### Bodies -/

/-- The two kinds of brackets. -/
def Brackets (opens closes : Char) : Prop := opens = '\x7b' ∧ closes = '}' ∨ opens = '(' ∧ closes = ')'

section Bodies

variable {opens closes : Char} {piece : List Char}

theorem Brackets.escaped (brackets : Brackets opens closes) : escapedAnywhere opens = true ∧ escapedAnywhere closes = true := by
  rcases brackets with ⟨left, right⟩ | ⟨left, right⟩ <;>
    · rw [left, right]
      exact ⟨rfl, rfl⟩

theorem Brackets.other {c : Char} (brackets : Brackets opens closes) (plain : escapedAnywhere c = false) :
    c ≠ '\\' ∧ c ≠ opens ∧ c ≠ closes := by
  refine ⟨ne_backslash plain, fun same => ?_, fun same => ?_⟩
  · rw [same, brackets.escaped.1] at plain
    cases plain
  · rw [same, brackets.escaped.2] at plain
    cases plain

theorem Brackets.plain (brackets : Brackets opens closes) (plain : ∀ c ∈ piece, escapedAnywhere c = false) :
    Neutral opens closes piece := neutral_all fun c inside => brackets.other (plain c inside)

theorem Brackets.chars (brackets : Brackets opens closes) (plain : (piece.all fun c => !escapedAnywhere c) = true) :
    Neutral opens closes piece := brackets.plain fun c inside => by
  simpa using List.all_eq_true.mp plain c inside

theorem Brackets.space (brackets : Brackets opens closes) : Neutral opens closes [' '] := by
  rcases brackets with ⟨left, right⟩ | ⟨left, right⟩ <;>
    · rw [left, right]
      exact neutral_char (by decide) (by decide) (by decide)

/-- A body ends at the bracket that closes it. -/
theorem bodyTo_closes (apart : opens ≠ closes) (plain : closes ≠ '\\') (neutral : Neutral opens closes piece)
    (rest : List Char) : bodyTo opens closes 0 (piece ++ closes :: rest) = piece := by
  rw [neutral, bodyTo_cons plain, if_neg (fun same => apart same.symm), if_pos rfl]
  exact List.append_nil piece

/-- What stands in brackets of the same kind is passed over, and in brackets of the other kind too. -/
theorem neutral_enclosed {left right : Char} (brackets : Brackets opens closes) (enclosed : Brackets left right)
    (neutral : Neutral opens closes piece) : Neutral opens closes (left :: (piece ++ [right])) := by
  intro depth rest
  have shape : left :: (piece ++ [right]) ++ rest = left :: (piece ++ right :: rest) := by simp
  rw [shape]
  rcases brackets with ⟨rfl, rfl⟩ | ⟨rfl, rfl⟩ <;> rcases enclosed with ⟨rfl, rfl⟩ | ⟨rfl, rfl⟩
  · rw [bodyTo_cons (by decide), if_pos rfl, neutral, bodyTo_cons (by decide), if_neg (by decide), if_pos rfl]
    simp
  · rw [bodyTo_cons (by decide), if_neg (by decide), if_neg (by decide), neutral, bodyTo_cons (by decide),
      if_neg (by decide), if_neg (by decide)]
    simp
  · rw [bodyTo_cons (by decide), if_neg (by decide), if_neg (by decide), neutral, bodyTo_cons (by decide),
      if_neg (by decide), if_neg (by decide)]
    simp
  · rw [bodyTo_cons (by decide), if_pos rfl, neutral, bodyTo_cons (by decide), if_neg (by decide), if_pos rfl]
    simp

theorem isPlainChar_plain {c : Char} (plain : isPlainChar c = true) : escapedAnywhere c = false := by
  rw [Bool.eq_false_iff]
  intro special
  simp only [escapedAnywhere, Bool.or_eq_true, beq_iff_eq] at special
  rcases special with ((((((same | same) | same) | same) | same) | same) | same) | same <;>
    · rw [same] at plain
      cases plain

theorem isWordChar_isPlainChar {c : Char} (letter : isWordChar c = true) : isPlainChar c = true := by
  simp [isPlainChar, letter]

/-- What holds of the marks and the parts of a value. -/
structure Throughout (okMark : RawMark → Prop) (okPart : RawValue → Prop) (marks : List RawMark) (parts : List RawValue) :
    Prop where
  onMarks : ∀ mark ∈ marks, okMark mark
  onParts : ∀ part ∈ parts, okPart part

section Throughout

variable {okMark : RawMark → Prop} {okPart : RawValue → Prop} {marks marks' : List RawMark} {parts parts' : List RawValue}

theorem Throughout.left (all : Throughout okMark okPart (marks ++ marks') (parts ++ parts')) :
    Throughout okMark okPart marks parts :=
  ⟨fun mark inside => all.onMarks mark (List.mem_append_left _ inside), fun part inside => all.onParts part (List.mem_append_left _ inside)⟩

theorem Throughout.right (all : Throughout okMark okPart (marks ++ marks') (parts ++ parts')) :
    Throughout okMark okPart marks' parts' :=
  ⟨fun mark inside => all.onMarks mark (List.mem_append_right _ inside), fun part inside => all.onParts part (List.mem_append_right _ inside)⟩

theorem Throughout.mark {mark : RawMark} (all : Throughout okMark okPart (mark :: marks) parts) : okMark mark :=
  all.onMarks mark (List.mem_cons_self ..)

theorem Throughout.part {part : RawValue} (all : Throughout okMark okPart marks (part :: parts)) : okPart part :=
  all.onParts part (List.mem_cons_self ..)

theorem Throughout.behind {mark : RawMark} (all : Throughout okMark okPart (mark :: marks) parts) :
    Throughout okMark okPart marks parts :=
  ⟨fun other inside => all.onMarks other (List.mem_cons_of_mem _ inside), all.onParts⟩

theorem Throughout.below {part : RawValue} (all : Throughout okMark okPart marks (part :: parts)) :
    Throughout okMark okPart marks parts :=
  ⟨all.onMarks, fun other inside => all.onParts other (List.mem_cons_of_mem _ inside)⟩

theorem Throughout.imp {okMark' : RawMark → Prop} {okPart' : RawValue → Prop} (all : Throughout okMark okPart marks parts)
    (onMarks : ∀ mark, okMark mark → okMark' mark) (onParts : ∀ part, okPart part → okPart' part) :
    Throughout okMark' okPart' marks parts :=
  ⟨fun mark inside => onMarks mark (all.onMarks mark inside), fun part inside => onParts part (all.onParts part inside)⟩

end Throughout

abbrev SoundBelow : List RawMark → List RawValue → Prop := Throughout (·.sound = true) (·.sound = true)

theorem fieldMark_plain {name : Option String} {value : RawValue} {tag : String} {more : RawFields}
    (sound : (RawMark.field tag name value more).sound = true) (brackets : Brackets opens closes) :
    Neutral opens closes (fieldMark name) := by
  cases name with
  | none => exact brackets.space
  | some name =>
    have word : name.toList.all isWordChar = true := (Bool.and_eq_true_iff.mp sound).1
    have letters : Neutral opens closes (':' :: name.toList) := brackets.plain fun c inside => by
      rcases List.mem_cons.mp inside with same | inside
      · rw [same]
        rfl
      · exact isPlainChar_plain (isWordChar_isPlainChar (List.all_eq_true.mp word c inside))
    exact brackets.space.append (letters.append brackets.space)

theorem letters_of_opening {tag : String} {fields : RawFields} (sound : (RawMark.opening tag fields).sound = true) :
    ∀ c ∈ tag.toList, isWordChar c = true := by
  simp only [RawMark.sound, Bool.and_eq_true] at sound
  exact List.all_eq_true.mp sound.1.1

-- By induction on the value; the texts of its parts are neutral.
mutual
theorem neutral_text (brackets : Brackets opens closes) : ∀ value : RawValue, SoundBelow value.marks value.parts →
    Neutral opens closes value.text
  | .null, _ => brackets.chars (by decide)
  | .plain text, sound => brackets.plain fun c inside =>
      isPlainChar_plain (List.all_eq_true.mp sound.part c inside)
  | .token text, _ => neutral_outToken brackets.escaped.1 brackets.escaped.2 text
  | .str text, _ => neutral_outString brackets.escaped.1 brackets.escaped.2 text
  | .node tag fields, sound => by
    have letters : Neutral opens closes tag.toList := brackets.plain fun c inside =>
      isPlainChar_plain (isWordChar_isPlainChar (letters_of_opening sound.mark c inside))
    have inner := letters.append (neutral_fieldsText brackets tag fields sound.behind.below)
    have shape : (RawValue.node tag fields).text = '\x7b' :: ((tag.toList ++ fieldsText fields) ++ ['}']) := by
      rw [RawValue.text, List.append_assoc]
    rw [shape]
    exact neutral_enclosed brackets (.inl ⟨rfl, rfl⟩) inner
  | .list [], _ => brackets.chars (by decide)
  | .list (item :: more), sound => by
    have first := neutral_text brackets item sound.below.left
    have others := neutral_itemsText brackets more sound.below.right
    have shape : (RawValue.list (item :: more)).text = '(' :: ((item.text ++ itemsText more) ++ [')']) := by
      rw [RawValue.text, List.append_assoc]
    rw [shape]
    exact neutral_enclosed brackets (.inr ⟨rfl, rfl⟩) (first.append others)

theorem neutral_fieldsText (brackets : Brackets opens closes) (tag : String) : ∀ fields : List (Option String × RawValue),
    SoundBelow (fieldsMarks tag fields) (fieldsParts fields) → Neutral opens closes (fieldsText fields)
  | [], _ => neutral_nil
  | (_, value) :: more, sound => by
    have first := neutral_text brackets value sound.behind.left
    have others := neutral_fieldsText brackets tag more sound.behind.right
    exact (fieldMark_plain sound.mark brackets).append (first.append others)

theorem neutral_itemsText (brackets : Brackets opens closes) : ∀ items : List RawValue,
    SoundBelow (itemsMarks items) (itemsParts items) → Neutral opens closes (itemsText items)
  | [], _ => neutral_nil
  | item :: more, sound => by
    have first := neutral_text brackets item sound.left
    have others := neutral_itemsText brackets more sound.right
    exact brackets.space.append (first.append others)
end

/-- `node_body` behind a field ends where the field's node does. -/
theorem nodeBody_fieldsText {tag : String} {fields : RawFields} (sound : SoundBelow (fieldsMarks tag fields) (fieldsParts fields))
    (rest : List Char) : nodeBody (fieldsText fields ++ '}' :: rest) = fieldsText fields :=
  bodyTo_closes (by decide) (by decide) (neutral_fieldsText (.inl ⟨rfl, rfl⟩) tag fields sound) rest

end Bodies

/-! ### Searches -/

section Scan

variable {γ : Type} {head : Char} {tail : List Char} {f : List Char → Option (Option γ)} {marker piece more rest : List Char}
  {found found' : List γ}

/-- What a search reports that reads behind each occurrence of its marker. -/
def scan (f : List Char → Option (Option γ)) (rests : List (List Char)) : Option (List γ) :=
  (rests.mapM f).map List.reduceOption

theorem scan_cons {entry : Option γ} {rests : List (List Char)} (read : f rest = some entry) :
    scan f (rest :: rests) = (scan f rests).map (entry.toList ++ ·) := by
  rw [scan, scan, List.mapM_cons, read]
  cases rests.mapM f with
  | none => rfl
  | some entries => cases entry <;> rfl

/-- What the search finds in the piece comes before what it finds behind it. -/
def Adds (marker : List Char) (f : List Char → Option (Option γ)) (piece rest : List Char) (found : List γ) : Prop :=
  scan f (hits marker (piece ++ rest)) = (scan f (hits marker rest)).map (found ++ ·)

theorem adds_silent (quiet : Silent marker piece rest) : Adds marker f piece rest [] := by
  rw [Adds, hits_silent quiet]
  cases scan f (hits marker rest) <;> rfl

theorem Adds.append (first : Adds marker f piece (more ++ rest) found) (second : Adds marker f more rest found') :
    Adds marker f (piece ++ more) rest (found ++ found') := by
  rw [Adds, List.append_assoc, first, second, Option.map_map]
  congr 1
  funext later
  simp

theorem Adds.then_silent (first : Adds marker f piece (more ++ rest) found) (quiet : Silent marker more rest) :
    Adds marker f (piece ++ more) rest found := by
  have both := first.append (adds_silent quiet)
  rwa [List.append_nil] at both

theorem Adds.after_silent (quiet : Silent marker piece (more ++ rest)) (second : Adds marker f more rest found) :
    Adds marker f (piece ++ more) rest found := (adds_silent quiet).append second

/-- The marker stands at the front of the piece, and may reach behind it. -/
theorem adds_marker {behind : List Char} {entry : Option γ} (once : head ∉ piece)
    (starts : piece ++ rest = tail ++ behind) (read : f behind = some entry) :
    Adds (head :: tail) f (head :: piece) rest entry.toList := by
  have reached : (head :: tail).isPrefixOf (head :: (piece ++ rest)) = true :=
    List.isPrefixOf_iff_prefix.mpr (List.cons_prefix_cons.mpr ⟨rfl, behind, starts.symm⟩)
  have left : (head :: (piece ++ rest)).drop (head :: tail).length = behind := by
    rw [starts]
    simp
  rw [Adds, List.cons_append, hits, if_pos reached, left, hits_silent (silent_of_not_mem once), scan_cons read]

/-- What makes a search report just what the marks say: at each mark it finds what is
there, and tokens and strings do not look like its marker. -/
structure Scans (head : Char) (tail : List Char) (f : List Char → Option (Option γ)) (onMark : RawMark → List γ)
    (okMark : RawMark → Prop) (okPart : RawValue → Prop) (Behind : List Char → Prop) : Prop where
  begins : isMarkHead head = true
  opening : ∀ {tag fields} (rest), okMark (.opening tag fields) →
    Throughout okMark okPart (fieldsMarks tag fields) (fieldsParts fields) →
    Adds (head :: tail) f ('\x7b' :: tag.toList) (fieldsText fields ++ '}' :: rest) (onMark (.opening tag fields))
  field : ∀ {tag name value more} (rest), okMark (.field tag name value more) →
    Adds (head :: tail) f (fieldMark name) (value.text ++ (fieldsText more ++ '}' :: rest)) (onMark (.field tag name value more))
  token : ∀ {tag name text more} (rest), okMark (.field tag name (.token text) more) →
    Throughout okMark okPart (fieldsMarks tag more) (fieldsParts more) →
    Adds (head :: tail) f (outToken text) (fieldsText more ++ '}' :: rest) []
  str : ∀ {text} (rest), okPart (.str text) → Behind rest → Adds (head :: tail) f (outString text) rest []
  part : ∀ {value}, okPart value → value.sound = true
  fields : ∀ {tag more} (rest), Throughout okMark okPart (fieldsMarks tag more) (fieldsParts more) →
    Behind (fieldsText more ++ '}' :: rest)
  others : ∀ {more} (rest), (∀ item ∈ more, item.isToken = false) →
    Throughout okMark okPart (itemsMarks more) (itemsParts more) → Behind rest → Behind (itemsText more ++ ')' :: rest)

variable {onMark : RawMark → List γ} {okMark : RawMark → Prop} {okPart : RawValue → Prop} {Behind : List Char → Prop}

theorem silent_plain (begins : isMarkHead head = true) (plain : ∀ c ∈ piece, isMarkHead c = false) :
    Silent (head :: tail) piece rest := by
  refine silent_of_not_mem fun inside => ?_
  rw [plain head inside] at begins
  cases begins

theorem silent_chars (begins : isMarkHead head = true) (plain : (piece.all fun c => !isMarkHead c) = true) :
    Silent (head :: tail) piece rest := silent_plain begins fun c inside => by
  simpa using List.all_eq_true.mp plain c inside

theorem isPlainChar_mark {c : Char} (plain : isPlainChar c = true) : isMarkHead c = false := by
  rw [Bool.eq_false_iff]
  intro mark
  rcases isMarkHead_cases mark with same | same <;>
    · rw [same] at plain
      cases plain

-- By induction on the value, with what stands behind it.
mutual
theorem adds_text (scans : Scans head tail f onMark okMark okPart Behind) : ∀ value : RawValue, value.isToken = false →
    Throughout okMark okPart value.marks value.parts → ∀ rest, Behind rest →
    Adds (head :: tail) f value.text rest (value.marks.flatMap onMark)
  | .null, _, _, _, _ => adds_silent (silent_chars scans.begins (by decide))
  | .plain text, _, all, _, _ => by
    have plain := scans.part all.part
    exact adds_silent (silent_plain scans.begins fun c inside => isPlainChar_mark (List.all_eq_true.mp plain c inside))
  | .token _, other, _, _, _ => by cases other
  | .str _, _, all, rest, behind => scans.str rest all.part behind
  | .node tag fields, _, all, rest, _ => by
    have first := scans.opening rest all.mark all.behind.below
    have later := adds_fieldsText scans tag fields all.behind.below rest
    have closing : Silent (head :: tail) ['}'] rest := silent_chars scans.begins (by decide)
    have shape : (RawValue.node tag fields).text = ('\x7b' :: tag.toList) ++ (fieldsText fields ++ ['}']) := by
      rw [RawValue.text, List.cons_append]
    rw [shape]
    exact Adds.append (by rw [List.append_assoc]; exact first) (later.then_silent closing)
  | .list [], _, _, _, _ => adds_silent (silent_chars scans.begins (by decide))
  | .list (item :: more), _, all, rest, behind => by
    have sound := scans.part all.part
    have apart : ∀ other ∈ item :: more, other.isToken = false := fun other inside => by
      have checked := List.all_eq_true.mp sound other inside
      simpa using checked
    have opening : Silent (head :: tail) ['('] (item.text ++ (itemsText more ++ [')']) ++ rest) :=
      silent_chars scans.begins (by decide)
    have closing : Silent (head :: tail) [')'] rest := silent_chars scans.begins (by decide)
    have apart' : ∀ other ∈ more, other.isToken = false := fun other inside => apart other (List.mem_cons_of_mem _ inside)
    have first := adds_text scans item (apart item (List.mem_cons_self ..)) all.below.left _
      (scans.others rest apart' all.below.right behind)
    have later := adds_itemsText scans more apart' all.below.right rest behind
    have items := Adds.append (by rw [List.append_assoc]; exact first) (later.then_silent closing)
    have shape : (RawValue.list (item :: more)).text = ['('] ++ (item.text ++ (itemsText more ++ [')'])) := by
      rw [RawValue.text, List.singleton_append]
    have marks : (RawValue.list (item :: more)).marks = item.marks ++ itemsMarks more := rfl
    rw [shape, marks, List.flatMap_append]
    exact items.after_silent opening

theorem adds_fieldsText (scans : Scans head tail f onMark okMark okPart Behind) (tag : String) :
    ∀ fields : List (Option String × RawValue), Throughout okMark okPart (fieldsMarks tag fields) (fieldsParts fields) →
    ∀ rest, Adds (head :: tail) f (fieldsText fields) ('}' :: rest) ((fieldsMarks tag fields).flatMap onMark)
  | [], _, _ => adds_silent trivial
  | (name, value) :: more, all, rest => by
    have later := adds_fieldsText scans tag more all.behind.right rest
    have first := scans.field rest all.mark
    have inner : Adds (head :: tail) f value.text (fieldsText more ++ '}' :: rest) (value.marks.flatMap onMark) := by
      cases shape : value.isToken with
      | true =>
        cases value with
        | token text => exact scans.token rest all.mark all.behind.right
        | _ => cases shape
      | false => exact adds_text scans value shape all.behind.left _ (scans.fields rest all.behind.right)
    have both := (inner.append later)
    have whole := Adds.append (by rw [List.append_assoc]; exact first) both
    rw [fieldsText, fieldsMarks, List.flatMap_cons, List.flatMap_append]
    exact whole

theorem adds_itemsText (scans : Scans head tail f onMark okMark okPart Behind) : ∀ items : List RawValue,
    (∀ item ∈ items, item.isToken = false) → Throughout okMark okPart (itemsMarks items) (itemsParts items) →
    ∀ rest, Behind rest → Adds (head :: tail) f (itemsText items) (')' :: rest) ((itemsMarks items).flatMap onMark)
  | [], _, _, _, _ => adds_silent trivial
  | item :: more, apart, all, rest, behind => by
    have apart' : ∀ other ∈ more, other.isToken = false := fun other inside => apart other (List.mem_cons_of_mem _ inside)
    have first := adds_text scans item (apart item (List.mem_cons_self ..)) all.left _
      (scans.others rest apart' all.right behind)
    have later := adds_itemsText scans more apart' all.right rest behind
    have between : Silent (head :: tail) [' '] (item.text ++ itemsText more ++ ')' :: rest) :=
      silent_chars scans.begins (by decide)
    have shape : itemsText (item :: more) = [' '] ++ (item.text ++ itemsText more) := by
      rw [itemsText, List.singleton_append]
    rw [shape, itemsMarks, List.flatMap_append]
    exact (first.append later).after_silent between
end

end Scan

end Allgres
