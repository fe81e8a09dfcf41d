import Allgres.Sandbox.Printed

/-! The readers of tokens and of lists of strings against PostgreSQL's printer: which
strings come back as they were. -/

namespace Allgres

variable {c : Char} {text : String} {a b rest : List Char}

/-! ### What ends a reader too early -/

/-- A character that is never escaped does not change how the text in front of it is printed. -/
theorem outChars_append (plain : escapedAnywhere c = false) (front : escapedInFront (a ++ c :: b) = escapedInFront a) :
    outChars (a ++ c :: b) = outChars a ++ c :: escapeAll b := by
  have tail : escapeAll (c :: b) = c :: escapeAll b := by rw [escapeAll_cons, escape_plain plain, List.singleton_append]
  have whole : escapeAll (a ++ c :: b) = escapeAll a ++ c :: escapeAll b := by
    rw [← tail]
    exact List.flatMap_append ..
  rw [outChars, outChars, front, whole, List.append_assoc]

theorem escapedInFront_cons (d : Char) (more : List Char) : escapedInFront (d :: more) =
    (d == '<' || d == '"' || d.isDigit || ((d == '+' || d == '-') && more.head?.any fun c => c.isDigit || c == '.')) := by
  unfold escapedInFront
  split
  · simp_all
  · simp_all
  · simp_all
  · simp_all
  next other rest less quote plus minus same =>
    obtain ⟨rfl, rfl⟩ := List.cons.inj same
    have angle : (d == '<') = false := beq_eq_false_iff_ne.mpr less
    have mark : (d == '"') = false := beq_eq_false_iff_ne.mpr quote
    cases more with
    | nil => simp [angle, mark]
    | cons e more =>
      have left : (d == '+') = false := beq_eq_false_iff_ne.mpr fun same => plus e more same rfl
      have right : (d == '-') = false := beq_eq_false_iff_ne.mpr fun same => minus e more same rfl
      simp [angle, mark, left, right]
  · simp_all

theorem escapedInFront_append (some : a ≠ []) (digit : c.isDigit = false) (point : c ≠ '.') (b : List Char) :
    escapedInFront (a ++ c :: b) = escapedInFront a := by
  cases a with
  | nil => exact absurd rfl some
  | cons d more =>
    have same : ((more ++ c :: b).head?.any fun c => c.isDigit || c == '.') =
        more.head?.any fun c => c.isDigit || c == '.' := by
      cases more with
      | nil => simp [digit, point]
      | cons e more => rfl
    rw [List.cons_append, escapedInFront_cons, escapedInFront_cons, same]

/-- A text that holds such a character, up to the first one. -/
theorem split_first {p : Char → Bool} {s : List Char} (found : ¬ ∀ c ∈ s, p c = false) :
    ∃ a c b, s = a ++ c :: b ∧ (∀ d ∈ a, p d = false) ∧ p c = true := by
  induction s with
  | nil => exact absurd (fun _ inside => absurd inside List.not_mem_nil) found
  | cons d s ih =>
    cases first : p d with
    | true => exact ⟨[], d, s, rfl, fun _ inside => absurd inside List.not_mem_nil, first⟩
    | false =>
      have later : ¬ ∀ c ∈ s, p c = false := fun all => found fun c inside => by
        rcases List.mem_cons.mp inside with rfl | inside
        · exact first
        · exact all c inside
      obtain ⟨a, c, b, rfl, before, stops⟩ := ih later
      refine ⟨d :: a, c, b, rfl, fun e inside => ?_, stops⟩
      rcases List.mem_cons.mp inside with rfl | inside
      · exact first
      · exact before e inside

/-! ### Tokens -/

/-- `outToken` of a string or of NULL. -/
def outTokenOf : Option String → List Char
  | none => ['<', '>']
  | some text => outToken text

/-- What stands behind a token in a dump. -/
def Follows (rest : List Char) : Prop := ∃ c more, rest = c :: more ∧ (c = ' ' ∨ c = '}' ∨ c = ')')

theorem Follows.stops (follows : Follows rest) : Stops rest := by
  rintro c more rfl
  obtain ⟨d, more, same, known⟩ := follows
  obtain ⟨rfl, -⟩ := List.cons.inj same
  rcases known with rfl | rfl | rfl <;>
    · exact ⟨rfl, by decide⟩

theorem isBreak_cases (breaks : isBreak c = true) : c = '\r' ∨ c = '\x0c' := by
  simpa [isBreak] using breaks

/-- A carriage return or a form feed is printed as it is, and ends the token for the reader. -/
theorem readToken_broken (shape : text.toList = a ++ c :: b) (before : ∀ d ∈ a, isBreak d = false)
    (breaks : isBreak c = true) (rest : List Char) :
    readToken (outToken text ++ rest) = some (some (String.ofList a), bytes (outChars a)) := by
  have facts : escapedAnywhere c = false ∧ c.isDigit = false ∧ c ≠ '.' ∧ endsToken c = true ∧ c ≠ '\\' ∧
      escapedInFront (c :: b) = false := by
    rcases isBreak_cases breaks with rfl | rfl <;>
      · exact ⟨rfl, rfl, by decide, rfl, by decide, rfl⟩
  have front : escapedInFront (a ++ c :: b) = escapedInFront a := by
    rcases Decidable.em (a = []) with rfl | some
    · exact facts.2.2.2.2.2
    · exact escapedInFront_append some facts.2.1 facts.2.2.1 b
  have nonempty : text ≠ "" := by
    intro empty
    rw [empty] at shape
    exact absurd shape.symm (List.append_ne_nil_of_right_ne_nil a (List.cons_ne_nil c b))
  have printed : outToken text = outChars (a ++ c :: b) := by
    rw [outToken, if_neg nonempty, shape]
  have stops : Stops (c :: (escapeAll b ++ rest)) := by
    rintro d more same
    obtain ⟨rfl, -⟩ := List.cons.inj same
    exact ⟨facts.2.2.2.1, facts.2.2.2.2.1⟩
  have read : tokenChars (outChars (a ++ c :: b) ++ rest) = some (a, bytes (outChars a)) := by
    rw [outChars_append facts.1 front, List.append_assoc, List.cons_append]
    exact tokenChars_outChars before stops
  obtain ⟨d, more, head, left, quote⟩ :=
    outChars_head (s := a ++ c :: b) (List.append_ne_nil_of_right_ne_nil a (List.cons_ne_nil c b))
  rw [head] at read
  rw [printed, head, List.cons_append, readToken]
  · rw [← List.cons_append, read, Option.map_some]
  · exact fun _ same => absurd (List.cons.inj same).1 left
  · exact fun _ same => absurd (List.cons.inj same).1 quote

/-- No character of a printed token is split in two, and the token is read back if and
only if the string holds neither a carriage return nor a form feed. -/
theorem readToken_outToken_iff (text : Option String) (follows : Follows rest) :
    (readToken (outTokenOf text ++ rest)).isSome = true ∧
    (readToken (outTokenOf text ++ rest) = some (text, bytes (outTokenOf text)) ↔
      ∀ s ∈ text, '\r' ∉ s.toList ∧ '\x0c' ∉ s.toList) := by
  cases text with
  | none =>
    refine ⟨rfl, fun _ => ?_, fun _ => rfl⟩
    rintro s ⟨⟩
  | some s =>
    have unbroken : (∀ t ∈ some s, '\r' ∉ t.toList ∧ '\x0c' ∉ t.toList) ↔ ∀ c ∈ s.toList, isBreak c = false := by
      constructor
      · intro free c inside
        rw [Bool.eq_false_iff]
        intro breaks
        rcases isBreak_cases breaks with rfl | rfl
        · exact (free s rfl).1 inside
        · exact (free s rfl).2 inside
      · rintro free t same
        obtain rfl := Option.some.inj same
        refine ⟨fun inside => ?_, fun inside => ?_⟩
        · exact absurd (free _ inside) (by decide)
        · exact absurd (free _ inside) (by decide)
    rw [unbroken]
    rcases Decidable.em (∀ c ∈ s.toList, isBreak c = false) with free | found
    · have read := readToken_outToken free follows.stops
      exact ⟨by rw [outTokenOf, read]; rfl, fun _ => free, fun _ => read⟩
    · obtain ⟨a, c, b, shape, before, breaks⟩ := split_first found
      have read := readToken_broken shape before breaks rest
      refine ⟨by rw [outTokenOf, read]; rfl, fun same => ?_, fun free => absurd free found⟩
      rw [outTokenOf, read] at same
      have strings := Option.some.inj (Prod.mk.inj (Option.some.inj same)).1
      have lengths := congrArg (fun s => s.toList.length) strings
      simp only [String.toList_ofList, shape, List.length_append, List.length_cons] at lengths
      omega

theorem readToken_outToken_iff_name : (readToken (outTokenOf (some "2 fast") ++ " :x".toList)).isSome = true ∧
    (readToken (outTokenOf (some "2 fast") ++ " :x".toList) = some (some "2 fast", bytes (outTokenOf (some "2 fast"))) ↔
      ∀ s ∈ some "2 fast", '\r' ∉ s.toList ∧ '\x0c' ∉ s.toList) :=
  readToken_outToken_iff _ ⟨' ', ":x".toList, rfl, .inl rfl⟩

/-- The relation `a\rb` is taken for `a`. -/
theorem not_readToken_outToken : ¬ ∀ text rest, Follows rest →
    readToken (outTokenOf text ++ rest) = some (text, bytes (outTokenOf text)) := by
  intro exact
  have read := exact (some "a\rb") [' '] ⟨' ', [], rfl, .inl rfl⟩
  exact absurd read (by decide +kernel)

/-! ### Lists of strings -/

/-- The items of a list of `String` nodes, without its brackets. -/
def outStrings : List String → List Char
  | [] => []
  | text :: more => outString text ++ itemsText (more.map RawValue.str)

theorem quotedFrom_items (strings : List String) (plain : ∀ s ∈ strings, '"' ∉ s.toList.tail) :
    quotedFrom none (itemsText (strings.map RawValue.str)) = some strings := by
  induction strings with
  | nil => rfl
  | cons text strings ih =>
    have first := plain text (List.mem_cons_self ..)
    have later := ih fun s inside => plain s (List.mem_cons_of_mem _ inside)
    show quotedFrom none (outString text ++ itemsText (strings.map RawValue.str)) = _
    rw [quotedFrom_outString first, later, Option.map_some]

/-- The reader ends a string at an inner quote. -/
theorem quotedFrom_broken (shape : text.toList = a ++ '"' :: b) (some : a ≠ []) (before : '"' ∉ a.tail) (rest : List Char) :
    ∃ later : Option (List String), quotedFrom none (outString text ++ rest) = later.map (String.ofList a :: ·) := by
  have nonempty : text ≠ "" := by
    intro empty
    rw [empty] at shape
    exact absurd shape.symm (List.append_ne_nil_of_right_ne_nil a (List.cons_ne_nil '"' b))
  have nonempty' : String.ofList a ≠ "" := fun empty => some (by
    have chars := congrArg String.toList empty
    rwa [String.toList_ofList] at chars)
  have front : outChars (a ++ '"' :: b) = outChars a ++ '"' :: escapeAll b :=
    outChars_append rfl (escapedInFront_append some rfl (by decide) b)
  have printed : outString text ++ rest = outString (String.ofList a) ++ (escapeAll b ++ '"' :: rest) := by
    rw [outString, outString, if_neg nonempty, if_neg nonempty', outToken, outToken, if_neg nonempty, if_neg nonempty',
      shape, String.toList_ofList, front]
    simp
  rw [printed, quotedFrom_outString (by rwa [String.toList_ofList])]
  exact ⟨_, rfl⟩

/-- The strings up to the first one with an inner quote, and that one, cut off. -/
theorem quotedFrom_first (strings : List String) (found : ¬ ∀ s ∈ strings, '"' ∉ s.toList.tail) :
    quotedFrom none (itemsText (strings.map RawValue.str)) ≠ some strings := by
  induction strings with
  | nil => exact absurd (fun _ inside => absurd inside List.not_mem_nil) found
  | cons text strings ih =>
    show quotedFrom none (outString text ++ itemsText (strings.map RawValue.str)) ≠ _
    intro same
    rcases Decidable.em ('"' ∈ text.toList.tail) with inner | plain
    · have quotes : ¬ ∀ c ∈ text.toList.tail, (c == '"') = false := fun none => absurd (none '"' inner) (by decide)
      obtain ⟨a, c, b, shape, before, quote⟩ := split_first quotes
      obtain rfl := beq_iff_eq.mp quote
      cases whole : text.toList with
      | nil =>
        rw [whole] at inner
        cases inner
      | cons d more =>
        rw [whole, List.tail_cons] at shape
        have parts : text.toList = (d :: a) ++ '"' :: b := by rw [whole, shape, List.cons_append]
        have clean : '"' ∉ (d :: a).tail := fun inside => absurd (before '"' inside) (by decide)
        obtain ⟨later, read⟩ := quotedFrom_broken parts (List.cons_ne_nil d a) clean (itemsText (strings.map RawValue.str))
        rw [read, Option.map_eq_some_iff] at same
        obtain ⟨_, -, heads⟩ := same
        have lengths := congrArg (fun s => s.toList.length) (List.cons.inj heads).1
        simp only [String.toList_ofList, parts, List.length_append, List.length_cons] at lengths
        omega
    · rw [quotedFrom_outString plain, Option.map_eq_some_iff] at same
      obtain ⟨later, read, heads⟩ := same
      obtain ⟨-, rfl⟩ := List.cons.inj heads
      refine ih (fun all => found fun s inside => ?_) read
      rcases List.mem_cons.mp inside with rfl | inside
      · exact plain
      · exact all s inside

theorem quotedStrings_outStrings (strings : List String) :
    quotedStrings (outStrings strings) = quotedFrom none (itemsText (strings.map RawValue.str)) := by
  cases strings with
  | nil => rfl
  | cons text more => rfl

/-- A list of strings is read back if and only if no string has a double quote behind its first character. -/
theorem quotedStrings_outStrings_iff (strings : List String) :
    quotedStrings (outStrings strings) = some strings ↔ ∀ s ∈ strings, '"' ∉ s.toList.tail := by
  rw [quotedStrings_outStrings]
  constructor
  · intro read
    by_contra found
    exact quotedFrom_first strings found read
  · exact quotedFrom_items strings

/-- The function `a"b` is taken for two. -/
theorem not_quotedStrings_outStrings : ¬ ∀ strings, quotedStrings (outStrings strings) = some strings := by
  intro exact
  exact absurd (exact ["a\"b"]) (by decide +kernel)

end Allgres
