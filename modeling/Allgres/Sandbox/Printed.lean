import Allgres.Lib.Search
import Allgres.Sandbox.Print
import Mathlib.Algebra.GroupWithZero.Nat

/-! What the reader makes of printed tokens: it finds their ends, and only the text
itself can look like a marker. -/

namespace Allgres

open Search

variable {c head : Char} {s w tail rest : List Char}

theorem escape_plain (plain : escapedAnywhere c = false) : escape c = [c] := by
  rw [escape, plain]
  rfl

theorem escape_special (special : escapedAnywhere c = true) : escape c = ['\\', c] := by
  rw [escape, special]
  rfl

theorem escapeAll_cons (c : Char) (s : List Char) : escapeAll (c :: s) = escape c ++ escapeAll s := rfl

theorem isAscii_special (special : escapedAnywhere c = true) : isAscii c = true := by
  simp only [escapedAnywhere, Bool.or_eq_true, beq_iff_eq] at special
  rcases special with ((((((same | same) | same) | same) | same) | same) | same) | same <;>
    · rw [same]
      rfl

theorem isAscii_digit (digit : c.isDigit = true) : isAscii c = true := by
  have small : c.toNat ≤ 57 := by
    simp only [Char.isDigit, Bool.and_eq_true, decide_eq_true_eq] at digit
    exact digit.2
  simp only [isAscii, decide_eq_true_eq]
  omega

theorem ne_backslash (plain : escapedAnywhere c = false) : c ≠ '\\' := by
  intro same
  rw [same] at plain
  cases plain

/-- `outToken` prints a backslash in front of a character that none of the readers escapes. -/
theorem outChars_cases (s : List Char) : outChars s = escapeAll s ∨
    ∃ c rest, s = c :: rest ∧ escapedAnywhere c = false ∧ isAscii c = true ∧ outChars s = '\\' :: c :: escapeAll rest := by
  cases s with
  | nil => exact .inl rfl
  | cons c rest =>
    cases front : escapedInFront (c :: rest) with
    | false =>
      refine .inl ?_
      rw [outChars, front]
      rfl
    | true =>
      have known : c = '<' ∨ c = '"' ∨ c = '+' ∨ c = '-' ∨ c.isDigit = true := by
        rw [escapedInFront.eq_def] at front
        split at front <;> simp_all
      have plain : escapedAnywhere c = false := by
        rcases known with same | same | same | same | digit
        · rw [same]; rfl
        · rw [same]; rfl
        · rw [same]; rfl
        · rw [same]; rfl
        · rw [Bool.eq_false_iff]
          intro special
          simp only [escapedAnywhere, Bool.or_eq_true, beq_iff_eq] at special
          rcases special with ((((((same | same) | same) | same) | same) | same) | same) | same <;>
            · rw [same] at digit
              cases digit
      have ascii : isAscii c = true := by
        rcases known with same | same | same | same | digit
        · rw [same]; rfl
        · rw [same]; rfl
        · rw [same]; rfl
        · rw [same]; rfl
        · exact isAscii_digit digit
      refine .inr ⟨c, rest, rfl, plain, ascii, ?_⟩
      rw [outChars, front, escapeAll_cons, escape_plain plain]
      rfl

/-! ### Brackets -/

/-- The reader of a body passes over the piece. -/
def Neutral (opens closes : Char) (piece : List Char) : Prop :=
  ∀ depth rest, bodyTo opens closes depth (piece ++ rest) = piece ++ bodyTo opens closes depth rest

section Brackets

variable {opens closes : Char} {piece more : List Char}

theorem neutral_nil : Neutral opens closes [] := fun _ _ => rfl

theorem Neutral.append (first : Neutral opens closes piece) (second : Neutral opens closes more) :
    Neutral opens closes (piece ++ more) := by
  intro depth rest
  rw [List.append_assoc, first, second, List.append_assoc]

theorem bodyTo_cons (plain : c ≠ '\\') (depth : Nat) (rest : List Char) : bodyTo opens closes depth (c :: rest) =
    if c = opens then c :: bodyTo opens closes (depth + 1) rest
    else if c = closes then
      match depth with
      | 0 => []
      | depth + 1 => c :: bodyTo opens closes depth rest
    else c :: bodyTo opens closes depth rest := by
  rw [bodyTo.eq_def]
  split
  next none => cases none
  next same => exact absurd (List.cons.inj same).1 plain
  next same => exact absurd (List.cons.inj same).1 plain
  next other more _ _ same =>
    obtain ⟨rfl, rfl⟩ := List.cons.inj same
    rfl

theorem neutral_char (plain : c ≠ '\\') (left : c ≠ opens) (right : c ≠ closes) : Neutral opens closes [c] := by
  intro depth rest
  rw [List.singleton_append, bodyTo_cons plain, if_neg left, if_neg right]
  rfl

theorem neutral_escaped : Neutral opens closes ['\\', c] := fun _ _ => rfl

theorem neutral_all (plain : ∀ c ∈ piece, c ≠ '\\' ∧ c ≠ opens ∧ c ≠ closes) : Neutral opens closes piece := by
  induction piece with
  | nil => exact neutral_nil
  | cons c piece ih =>
    have front := plain c (List.mem_cons_self ..)
    exact (neutral_char front.1 front.2.1 front.2.2).append (ih fun d inside => plain d (List.mem_cons_of_mem c inside))

variable (left : escapedAnywhere opens = true) (right : escapedAnywhere closes = true)

include left right

theorem neutral_escape (c : Char) : Neutral opens closes (escape c) := by
  cases special : escapedAnywhere c with
  | true =>
    rw [escape_special special]
    exact neutral_escaped
  | false =>
    rw [escape_plain special]
    refine neutral_char (ne_backslash special) ?_ ?_
    · intro same
      rw [same, left] at special
      cases special
    · intro same
      rw [same, right] at special
      cases special

theorem neutral_escapeAll (s : List Char) : Neutral opens closes (escapeAll s) := by
  induction s with
  | nil => exact neutral_nil
  | cons c s ih => exact (neutral_escape left right c).append ih

theorem neutral_outChars (s : List Char) : Neutral opens closes (outChars s) := by
  rcases outChars_cases s with same | ⟨c, rest, -, -, -, same⟩
  · rw [same]
    exact neutral_escapeAll left right s
  · rw [same]
    exact neutral_escaped.append (neutral_escapeAll left right rest)

theorem neutral_quote : Neutral opens closes ['"'] := by
  refine neutral_char (by decide) ?_ ?_
  · intro same
    rw [← same] at left
    cases left
  · intro same
    rw [← same] at right
    cases right

theorem neutral_outToken (text : String) : Neutral opens closes (outToken text) := by
  rw [outToken]
  split
  · exact (neutral_quote left right).append (neutral_quote left right)
  · exact neutral_outChars left right text.toList

theorem neutral_outString (text : String) : Neutral opens closes (outString text) := by
  refine (neutral_quote left right).append (Neutral.append ?_ (neutral_quote left right))
  split
  · exact neutral_nil
  · exact neutral_outToken left right text

end Brackets

/-! ### Tokens -/

/-- What may stand behind a token. -/
def Stops (rest : List Char) : Prop := ∀ c more, rest = c :: more → endsToken c = true ∧ c ≠ '\\'

def bytes (chars : List Char) : Nat := (chars.map Char.utf8Size).sum

/-- Rust's white space that `outToken` prints as it is. -/
def isBreak (c : Char) : Bool := c == '\r' || c == '\x0c'

theorem endsToken_plain (plain : escapedAnywhere c = false) (unbroken : isBreak c = false) : endsToken c = false := by
  simp only [escapedAnywhere, isBreak, endsToken, isAsciiWhitespace, Bool.or_eq_false_iff] at plain unbroken ⊢
  simp [plain, unbroken]

theorem tokenChars_escaped (ascii : isAscii c = true) (rest : List Char) :
    tokenChars ('\\' :: c :: rest) = (tokenChars rest).map fun read => (c :: read.1, read.2 + 2) := by
  rw [tokenChars, if_pos ascii]

theorem tokenChars_plain (plain : c ≠ '\\') (rest : List Char) : tokenChars (c :: rest) =
    if endsToken c then some ([], 0) else (tokenChars rest).map fun read => (c :: read.1, read.2 + c.utf8Size) := by
  rw [tokenChars]
  · exact fun same => absurd same plain
  · exact fun _ _ same => absurd same plain

theorem size_ascii (ascii : isAscii c = true) : c.utf8Size = 1 := by
  have small : c.toNat < 128 := of_decide_eq_true ascii
  have code : c.val ≤ 127 := by
    rw [UInt32.le_iff_toNat_le]
    exact Nat.le_of_lt_succ small
  exact if_pos code

theorem tokenChars_escapeAll (unbroken : ∀ c ∈ s, isBreak c = false) (stops : Stops rest) :
    tokenChars (escapeAll s ++ rest) = some (s, bytes (escapeAll s)) := by
  induction s with
  | nil =>
    cases rest with
    | nil => rfl
    | cons c more =>
      obtain ⟨ends, plain⟩ := stops c more rfl
      show tokenChars (c :: more) = _
      rw [tokenChars_plain plain, if_pos ends]
      rfl
  | cons c s ih =>
    have later := ih fun d inside => unbroken d (List.mem_cons_of_mem c inside)
    cases special : escapedAnywhere c with
    | true =>
      have ascii := isAscii_special special
      rw [escapeAll_cons, escape_special special]
      show tokenChars ('\\' :: c :: (escapeAll s ++ rest)) = _
      rw [tokenChars_escaped ascii, later, Option.map_some]
      have one : Char.utf8Size '\\' = 1 := rfl
      simp only [bytes, List.cons_append, List.nil_append, List.map_cons, List.sum_cons, size_ascii ascii, one]
      congr 2
      omega
    | false =>
      have stays := endsToken_plain special (unbroken c (List.mem_cons_self ..))
      rw [escapeAll_cons, escape_plain special]
      show tokenChars (c :: (escapeAll s ++ rest)) = _
      rw [tokenChars_plain (ne_backslash special), stays, later]
      simp only [Bool.false_eq_true, if_false, Option.map_some, bytes, List.cons_append, List.nil_append, List.map_cons,
        List.sum_cons]
      congr 2
      omega

theorem tokenChars_outChars (unbroken : ∀ c ∈ s, isBreak c = false) (stops : Stops rest) :
    tokenChars (outChars s ++ rest) = some (s, bytes (outChars s)) := by
  rcases outChars_cases s with same | ⟨c, more, shape, -, ascii, same⟩
  · rw [same]
    exact tokenChars_escapeAll unbroken stops
  · have later := tokenChars_escapeAll (fun d inside => unbroken d (shape ▸ List.mem_cons_of_mem c inside)) stops
    rw [same, shape]
    show tokenChars ('\\' :: c :: (escapeAll more ++ rest)) = _
    rw [tokenChars_escaped ascii, later, Option.map_some]
    have one : Char.utf8Size '\\' = 1 := rfl
    simp only [bytes, List.map_cons, List.sum_cons, size_ascii ascii, one]
    congr 2
    omega

/-- A token does not begin like NULL or the empty string. -/
theorem outChars_head (nonempty : s ≠ []) : ∃ c more, outChars s = c :: more ∧ c ≠ '<' ∧ c ≠ '"' := by
  cases s with
  | nil => exact absurd rfl nonempty
  | cons c rest =>
    cases front : escapedInFront (c :: rest) with
    | true =>
      refine ⟨'\\', escapeAll (c :: rest), ?_, by decide, by decide⟩
      rw [outChars, front]
      rfl
    | false =>
      have apart : c ≠ '<' ∧ c ≠ '"' := by
        constructor
        · intro same
          rw [same] at front
          cases front
        · intro same
          rw [same] at front
          cases front
      have same : outChars (c :: rest) = escape c ++ escapeAll rest := by
        rw [outChars, front]
        rfl
      rw [same]
      cases special : escapedAnywhere c with
      | true =>
        rw [escape_special special]
        exact ⟨'\\', c :: escapeAll rest, rfl, by decide, by decide⟩
      | false =>
        rw [escape_plain special]
        exact ⟨c, escapeAll rest, rfl, apart⟩

theorem readToken_outToken {text : String} (unbroken : ∀ c ∈ text.toList, isBreak c = false) (stops : Stops rest) :
    readToken (outToken text ++ rest) = some (some text, bytes (outToken text)) := by
  rw [outToken]
  split
  next empty =>
    rw [empty]
    rfl
  next nonempty =>
    have chars : text.toList ≠ [] := fun none => nonempty (String.toList_eq_nil_iff.mp none)
    obtain ⟨c, more, front, left, quote⟩ := outChars_head chars
    have read := tokenChars_outChars unbroken stops
    rw [front] at read
    rw [front, List.cons_append, readToken]
    · rw [← List.cons_append, read, Option.map_some, String.ofList_toList]
    · exact fun _ same => absurd (List.cons.inj same).1 left
    · exact fun _ same => absurd (List.cons.inj same).1 quote

/-! ### Lists of strings -/

/-- The reader of a list takes an inner quote for the end of the string. -/
theorem quotedFrom_escapeAll {read : List Char} (plain : '"' ∉ s) :
    quotedFrom (some read) (escapeAll s ++ '"' :: rest) = (quotedFrom none rest).map (String.ofList (read ++ s) :: ·) := by
  induction s generalizing read with
  | nil =>
    rw [List.append_nil]
    rfl
  | cons c s ih =>
    rw [List.mem_cons, not_or] at plain
    have joined : read ++ c :: s = (read ++ [c]) ++ s := by simp
    rw [joined]
    cases special : escapedAnywhere c with
    | true =>
      rw [escapeAll_cons, escape_special special]
      show quotedFrom (some read) ('\\' :: c :: (escapeAll s ++ '"' :: rest)) = _
      rw [quotedFrom, if_neg (by decide)]
      exact (if_pos (isAscii_special special)).trans (ih plain.2)
    | false =>
      rw [escapeAll_cons, escape_plain special]
      show quotedFrom (some read) (c :: (escapeAll s ++ '"' :: rest)) = _
      rw [quotedFrom, if_neg (fun same => plain.1 same.symm)]
      · exact ih plain.2
      · exact fun _ _ same => absurd same (ne_backslash special)

theorem quotedFrom_outString {text : String} (plain : '"' ∉ text.toList.tail) :
    quotedFrom none (outString text ++ rest) = (quotedFrom none rest).map (text :: ·) := by
  have opened : quotedFrom none (outString text ++ rest) =
      quotedFrom (some []) (((if text = "" then [] else outToken text) ++ ['"']) ++ rest) := rfl
  rw [opened, outToken]
  split
  next empty =>
    rw [empty]
    rfl
  next nonempty =>
    have back : String.ofList text.toList = text := String.ofList_toList
    rw [List.append_assoc]
    show quotedFrom (some []) (outChars text.toList ++ '"' :: rest) = _
    cases shape : text.toList with
    | nil => exact absurd (String.toList_eq_nil_iff.mp shape) nonempty
    | cons c more =>
      rw [shape] at plain back
      cases front : escapedInFront (c :: more) with
      | true =>
        rcases outChars_cases (c :: more) with same | ⟨d, later, same, special, ascii, printed⟩
        · rw [outChars, front] at same
          exact absurd (congrArg List.length same) (by simp)
        · obtain ⟨rfl, rfl⟩ := List.cons.inj same
          rw [printed]
          show quotedFrom (some []) ('\\' :: c :: (escapeAll more ++ '"' :: rest)) = _
          rw [quotedFrom, if_neg (by decide)]
          have read : quotedFrom (some [c]) (escapeAll more ++ '"' :: rest) = (quotedFrom none rest).map
              (String.ofList ([c] ++ more) :: ·) := quotedFrom_escapeAll plain
          rw [List.singleton_append, back] at read
          exact (if_pos ascii).trans read
      | false =>
        have clean : '"' ∉ c :: more := by
          rw [List.mem_cons, not_or]
          refine ⟨fun same => ?_, plain⟩
          rw [← same] at front
          cases front
        have read : quotedFrom (some []) (escapeAll (c :: more) ++ '"' :: rest) = (quotedFrom none rest).map
            (String.ofList ([] ++ c :: more) :: ·) := quotedFrom_escapeAll clean
        rw [List.nil_append, back] at read
        rw [outChars, front]
        exact read

/-! ### Markers in tokens -/

theorem letters_of_all (all : w.all isWordChar = true) : ∀ c ∈ w, isWordChar c = true := List.all_eq_true.mp all

theorem isWordChar_plain (letter : isWordChar c = true) : escapedAnywhere c = false ∧ c ≠ '\\' ∧ c ≠ ' ' := by
  have plain : escapedAnywhere c = false := by
    rw [Bool.eq_false_iff]
    intro special
    simp only [escapedAnywhere, Bool.or_eq_true, beq_iff_eq] at special
    rcases special with ((((((same | same) | same) | same) | same) | same) | same) | same <;>
      · rw [same] at letter
        cases letter
  refine ⟨plain, ne_backslash plain, fun same => ?_⟩
  rw [same] at letter
  cases letter

/-- What follows a token does not go on with a letter. -/
def Parted (rest : List Char) : Prop := ∀ c more, rest = c :: more → isWordChar c = false

/-- A word is found in a token's text only where the text has it. -/
theorem word_front (word : ∀ c ∈ w, isWordChar c = true) (parted : Parted rest)
    (starts : w ++ tail <+: escapeAll s ++ rest) : ∃ later, s = w ++ later ∧ tail <+: escapeAll later ++ rest := by
  induction w generalizing s with
  | nil => exact ⟨s, rfl, starts⟩
  | cons c w ih =>
    have letter := word c (List.mem_cons_self ..)
    cases s with
    | nil =>
      obtain ⟨back, same⟩ := starts
      have other := parted c _ same.symm
      rw [letter] at other
      cases other
    | cons d s =>
      cases special : escapedAnywhere d with
      | true =>
        rw [escapeAll_cons, escape_special special] at starts
        exact absurd (List.cons_prefix_cons.mp starts).1 (isWordChar_plain letter).2.1
      | false =>
        rw [escapeAll_cons, escape_plain special] at starts
        obtain ⟨same, starts⟩ := List.cons_prefix_cons.mp starts
        obtain ⟨later, shape, behind⟩ := ih (fun e inside => word e (List.mem_cons_of_mem c inside)) starts
        exact ⟨later, by rw [shape, same]; rfl, behind⟩

theorem not_space_front {back : List Char} (nonempty : s ≠ []) : ¬ ' ' :: back <+: escapeAll s ++ rest := by
  intro starts
  cases s with
  | nil => exact nonempty rfl
  | cons c s =>
    cases special : escapedAnywhere c with
    | true =>
      rw [escapeAll_cons, escape_special special] at starts
      exact absurd (List.cons_prefix_cons.mp starts).1 (by decide)
    | false =>
      rw [escapeAll_cons, escape_plain special] at starts
      rw [← (List.cons_prefix_cons.mp starts).1] at special
      cases special

theorem silent_escapeAll (other : head ≠ '\\')
    (apart : ∀ front later, s = front ++ head :: later → ¬ tail <+: escapeAll later ++ rest) :
    Silent (head :: tail) (escapeAll s) rest := by
  induction s with
  | nil => trivial
  | cons c s ih =>
    have quiet := ih fun front later same => apart (c :: front) later (by rw [same]; rfl)
    have here : Silent (head :: tail) (c :: escapeAll s) rest :=
      silent_cons (fun same => apart [] s (by rw [same]; rfl)) quiet
    cases special : escapedAnywhere c with
    | true =>
      rw [escapeAll_cons, escape_special special]
      exact silent_cons (fun same => absurd same.symm other) here
    | false =>
      rw [escapeAll_cons, escape_plain special]
      exact here

theorem silent_outChars (other : head ≠ '\\')
    (apart : ∀ front later, s = front ++ head :: later → ¬ tail <+: escapeAll later ++ rest) :
    Silent (head :: tail) (outChars s) rest := by
  have quiet := silent_escapeAll other apart
  rw [outChars]
  split
  · exact silent_cons (fun same => absurd same.symm other) quiet
  · exact quiet

/-- The characters that a marker may begin with. -/
def isMarkHead (c : Char) : Bool := c == '\x7b' || c == ':'

theorem isMarkHead_cases (mark : isMarkHead head = true) : head = '\x7b' ∨ head = ':' := by
  simpa [isMarkHead] using mark

theorem silent_outToken {text : String} (mark : isMarkHead head = true)
    (apart : ∀ front later, text.toList = front ++ head :: later → ¬ tail <+: escapeAll later ++ rest) :
    Silent (head :: tail) (outToken text) rest := by
  rw [outToken]
  split
  · refine silent_of_not_mem ?_
    rcases isMarkHead_cases mark with same | same <;>
      · rw [same]
        decide
  · refine silent_outChars ?_ apart
    rcases isMarkHead_cases mark with same | same <;>
      · rw [same]
        decide

theorem silent_outString {text : String} (mark : isMarkHead head = true)
    (apart : ∀ front later, text.toList = front ++ head :: later → ¬ tail <+: escapeAll later ++ '"' :: rest) :
    Silent (head :: tail) (outString text) rest := by
  have quote : ∀ rest, Silent (head :: tail) ['"'] rest := fun rest => by
    refine silent_of_not_mem ?_
    rcases isMarkHead_cases mark with same | same <;>
      · rw [same]
        decide
  refine silent_append.mpr ⟨quote _, silent_append.mpr ⟨?_, quote rest⟩⟩
  split
  · trivial
  · exact silent_outToken mark apart

/-- A marker made of a word stands in a token only if the token's text has it. -/
theorem apart_word (word : ∀ c ∈ tail, isWordChar c = true) (parted : Parted rest) (absent : ¬ head :: tail <:+: s) :
    ∀ front later, s = front ++ head :: later → ¬ tail <+: escapeAll later ++ rest := by
  intro front later same starts
  rw [← List.append_nil tail] at starts
  obtain ⟨more, shape, -⟩ := word_front word parted starts
  refine absent ⟨front, more, ?_⟩
  rw [same, shape]
  simp

/-- A marker with a space behind its word stands at the end of a token or nowhere. -/
theorem apart_space {back : List Char} (word : ∀ c ∈ w, isWordChar c = true) (parted : Parted rest)
    (last : head :: w <:+ s → ¬ ' ' :: back <+: rest) :
    ∀ front later, s = front ++ head :: later → ¬ w ++ ' ' :: back <+: escapeAll later ++ rest := by
  intro front later same starts
  obtain ⟨more, shape, behind⟩ := word_front word parted starts
  cases more with
  | nil =>
    refine last ⟨front, ?_⟩ behind
    rw [same, shape, List.append_nil]
  | cons c more => exact not_space_front (List.cons_ne_nil c more) behind

end Allgres
