import Mathlib.Data.List.TakeDrop
import Mathlib.Data.List.TakeWhile
import Allgres.Lib.Jsonb

/-! What a conversion to `jsonb` reads of its input. -/

namespace Jsonb


/-- A string literal after its opening quote. -/
inductive Quoted : List Char → Prop
  | close : Quoted ['"']
  | escaped (c : Char) {rest : List Char} : Quoted rest → Quoted ('\\' :: c :: rest)
  | plain {c : Char} {rest : List Char} : c ≠ '"' → c ≠ '\\' → Quoted rest → Quoted (c :: rest)

/-- The braces outside of the string literals are in pairs. -/
inductive Balanced : List Char → Prop
  | nil : Balanced []
  | plain {c : Char} {rest : List Char} : c ≠ '"' → c ≠ '\x7b' → c ≠ '\x7d' → Balanced rest → Balanced (c :: rest)
  | string {literal rest : List Char} : Quoted literal → Balanced rest → Balanced ('"' :: (literal ++ rest))
  | braces {inner rest : List Char} : Balanced inner → Balanced rest →
      Balanced ('\x7b' :: (inner ++ '\x7d' :: rest))

theorem Balanced.append {first second : List Char} (left : Balanced first) (right : Balanced second) :
    Balanced (first ++ second) := by
  induction left with
  | nil => exact right
  | plain quote left right _ ih => exact .plain quote left right ih
  | string quoted _ ih =>
    rw [List.cons_append, List.append_assoc]
    exact .string quoted ih
  | braces inner _ _ ih =>
    rw [List.cons_append, List.append_assoc]
    exact .braces inner ih

private theorem hexValue_plain {c : Char} {value : Nat} (hex : hexValue c = some value) : c ≠ '"' ∧ c ≠ '\\' := by
  constructor <;> rintro rfl <;> cases hex

private theorem quoted_unicode {a b c d : Char} {code : Nat} {literal : List Char} (hex : hex4 a b c d = some code)
    (quoted : Quoted literal) : Quoted ('\\' :: 'u' :: a :: b :: c :: d :: literal) := by
  simp only [hex4, Option.bind_eq_bind, Option.bind_eq_some_iff] at hex
  obtain ⟨_, hexA, _, hexB, _, hexC, _, hexD, -⟩ := hex
  obtain ⟨a₁, a₂⟩ := hexValue_plain hexA
  obtain ⟨b₁, b₂⟩ := hexValue_plain hexB
  obtain ⟨c₁, c₂⟩ := hexValue_plain hexC
  obtain ⟨d₁, d₂⟩ := hexValue_plain hexD
  exact .escaped _ (.plain a₁ a₂ (.plain b₁ b₂ (.plain c₁ c₂ (.plain d₁ d₂ quoted))))

private theorem map_pair {α β : Type} {result : Option (α × List Char)} {f : α → β} {value : β} {rest : List Char}
    (done : (result.map fun (found, left) => (f found, left)) = some (value, rest)) :
    ∃ found, result = some (found, rest) ∧ f found = value := by
  obtain ⟨⟨found, left⟩, same, pair⟩ := Option.map_eq_some_iff.mp done
  obtain ⟨rfl, rfl⟩ := Prod.mk.inj pair
  exact ⟨found, same, rfl⟩

theorem parseString_quoted {input chars rest : List Char} (parsed : parseString input = some (chars, rest)) :
    ∃ literal, input = literal ++ rest ∧ Quoted literal := by
  fun_induction parseString input generalizing chars rest with
  | case2 rest =>
    obtain ⟨-, rfl⟩ := Prod.mk.inj (Option.some.inj parsed)
    exact ⟨['"'], rfl, .close⟩
  | case6 _ _ _ _ _ high _ _ _ _ _ _ _ _ low _ ih =>
    obtain ⟨found, left, -⟩ := map_pair parsed
    obtain ⟨literal, rfl, quoted⟩ := ih left
    exact ⟨_, rfl, quoted_unicode high (quoted_unicode low quoted)⟩
  | case10 _ _ _ _ _ _ code _ _ _ ih =>
    obtain ⟨found, left, -⟩ := map_pair parsed
    obtain ⟨literal, rfl, quoted⟩ := ih left
    exact ⟨_, rfl, quoted_unicode code quoted⟩
  | case12 c _ _ _ _ ih =>
    obtain ⟨found, left, -⟩ := map_pair parsed
    obtain ⟨literal, rfl, quoted⟩ := ih left
    exact ⟨_, rfl, .escaped c quoted⟩
  | case14 c _ quote _ _ plain ih =>
    obtain ⟨found, left, -⟩ := map_pair parsed
    obtain ⟨literal, rfl, quoted⟩ := ih left
    exact ⟨_, rfl, .plain quote (fun slash => plain (.inr slash)) quoted⟩
  | _ => cases parsed

/-- A literal ends where it ends, whatever follows. -/
theorem parseString_append {input chars rest : List Char} (parsed : parseString input = some (chars, rest))
    (tail : List Char) : parseString (input ++ tail) = some (chars, rest ++ tail) := by
  fun_induction parseString input generalizing chars rest with
  | case2 rest =>
    obtain ⟨rfl, rfl⟩ := Prod.mk.inj (Option.some.inj parsed)
    rfl
  | case6 _ _ _ _ _ high nonzero first _ _ _ _ _ _ low second ih =>
    obtain ⟨found, left, rfl⟩ := map_pair parsed
    simp [parseString, high, low, nonzero, first, second, ih left]
  | case10 _ _ _ _ _ _ code nonzero first second ih =>
    obtain ⟨found, left, rfl⟩ := map_pair parsed
    simp [parseString, code, nonzero, first, second, ih left]
  | case12 c _ short _ known ih =>
    obtain ⟨found, left, rfl⟩ := map_pair parsed
    have notU : c ≠ 'u' := by
      rintro rfl
      cases known
    simp [parseString, known, ih left, notU]
  | case14 c _ quote _ _ plain ih =>
    obtain ⟨found, left, rfl⟩ := map_pair parsed
    have slash : c ≠ '\\' := fun slash => plain (.inr slash)
    have control : 32 ≤ c.toNat := Nat.le_of_not_lt fun low => plain (.inl low)
    simp [parseString, control, ih left, slash]
  | _ => cases parsed

/-- A character that neither opens nor closes anything that the scan of an object looks at. -/
private def PlainChar (c : Char) : Prop := c ≠ '"' ∧ c ≠ '\x7b' ∧ c ≠ '\x7d'

private theorem balanced_of_plain {chars : List Char} (plain : ∀ c ∈ chars, PlainChar c) : Balanced chars := by
  induction chars with
  | nil => exact .nil
  | cons c rest ih =>
    have first := plain c List.mem_cons_self
    exact .plain first.1 first.2.1 first.2.2 (ih fun other member => plain other (List.mem_cons_of_mem c member))

/-- The parser takes plain characters only, and what follows them does not matter unless they end the input. -/
private def ReadsPlainly {α : Type} (parser : List Char → Option (α × List Char)) : Prop :=
  ∀ input value rest, parser input = some (value, rest) →
    (∃ taken, input = taken ++ rest ∧ ∀ c ∈ taken, PlainChar c) ∧
      ∀ tail, rest ≠ [] → parser (input ++ tail) = some (value, rest ++ tail)

private theorem ReadsPlainly.bind {α β : Type} {first : List Char → Option (α × List Char)}
    {second : α → List Char → Option (β × List Char)} (reads : ReadsPlainly first)
    (then_ : ∀ found, ReadsPlainly (second found)) :
    ReadsPlainly fun input => (first input).bind fun (found, rest) => second found rest := by
  intro input value rest parsed
  obtain ⟨⟨found, middle⟩, one, two⟩ := Option.bind_eq_some_iff.mp parsed
  obtain ⟨⟨front, rfl, plain⟩, stable⟩ := reads input found middle one
  obtain ⟨⟨back, rfl, plain'⟩, stable'⟩ := then_ found middle value rest two
  refine ⟨⟨front ++ back, by rw [List.append_assoc], fun c member => ?_⟩, fun tail more => ?_⟩
  · rcases List.mem_append.mp member with inside | inside
    · exact plain c inside
    · exact plain' c inside
  · have between : back ++ rest ≠ [] := List.append_ne_nil_of_right_ne_nil back more
    have next := stable' tail more
    simp only [stable tail between, Option.bind_some]
    exact next

private theorem readsPlainly_pure {α : Type} (value : α) : ReadsPlainly fun input => some (value, input) := by
  intro input found rest parsed
  obtain ⟨rfl, rfl⟩ := Prod.mk.inj (Option.some.inj parsed)
  exact ⟨⟨[], rfl, by simp⟩, fun _ _ => rfl⟩

private theorem ReadsPlainly.guard {α : Type} {parser : List Char → Option (α × List Char)} (bad : Prop) [Decidable bad]
    (reads : ReadsPlainly parser) : ReadsPlainly fun input => if bad then none else parser input := by
  intro input value rest parsed
  by_cases refused : bad
  · simp [refused] at parsed
  · simp only [refused, if_false] at parsed ⊢
    exact reads input value rest parsed

private theorem digit_plain {c : Char} (digit : c.isDigit = true) : PlainChar c := by
  refine ⟨?_, ?_, ?_⟩ <;> rintro rfl <;> exact absurd digit (by decide)

private theorem readsPlainly_spanDigits : ReadsPlainly fun input => some (spanDigits input) := by
  intro input digits rest parsed
  simp only [spanDigits, List.span_eq_takeWhile_dropWhile, Option.some.injEq, Prod.mk.injEq] at parsed ⊢
  obtain ⟨rfl, rfl⟩ := parsed
  refine ⟨⟨_, List.takeWhile_append_dropWhile.symm, fun c member => digit_plain (List.mem_takeWhile_imp member)⟩,
    fun tail more => ⟨?_, ?_⟩⟩
  · have short : (input.takeWhile Char.isDigit).length ≠ input.length := by
      have parts := congrArg List.length (@List.takeWhile_append_dropWhile _ Char.isDigit input)
      have some := List.length_pos_iff.mpr more
      rw [List.length_append] at parts
      omega
    rw [List.takeWhile_append, if_neg short]
  · rw [List.dropWhile_append, if_neg (by simpa using more)]

/-- A character in front of what a parser reads. -/
private theorem ReadsPlainly.cons {α : Type} {parser whole : List Char → Option (α × List Char)} {c : Char}
    (reads : ReadsPlainly parser) (plain : PlainChar c) (input : List Char) {value : α} {rest : List Char}
    (same : ∀ more, whole (c :: more) = parser more) (parsed : whole (c :: input) = some (value, rest)) :
    (∃ taken, c :: input = taken ++ rest ∧ ∀ c ∈ taken, PlainChar c) ∧
      ∀ tail, rest ≠ [] → whole (c :: input ++ tail) = some (value, rest ++ tail) := by
  rw [same] at parsed
  obtain ⟨⟨taken, rfl, inside⟩, stable⟩ := reads input value rest parsed
  refine ⟨⟨c :: taken, rfl, ?_⟩, fun tail more => ?_⟩
  · intro other member
    rcases List.mem_cons.mp member with rfl | later
    · exact plain
    · exact inside other later
  · rw [List.cons_append, same]
    exact stable tail more

private theorem readsPlainly_digits {α : Type} (value : List Char → α) : ReadsPlainly fun input =>
    let (digits, rest) := spanDigits input
    if digits.isEmpty then none else some (value digits, rest) :=
  readsPlainly_spanDigits.bind fun digits => ReadsPlainly.guard (digits.isEmpty = true) (readsPlainly_pure (value digits))

private theorem readsPlainly_parseFrac : ReadsPlainly parseFrac := by
  intro input value rest parsed
  unfold parseFrac at parsed
  split at parsed
  · exact ReadsPlainly.cons (readsPlainly_digits fun digits => digits) (by simp [PlainChar]) _ (fun _ => rfl) parsed
  · rename_i other
    obtain ⟨rfl, rfl⟩ := Prod.mk.inj (Option.some.inj parsed)
    refine ⟨⟨[], rfl, by simp⟩, fun tail more => ?_⟩
    rcases input with _ | ⟨c, input⟩
    · exact absurd rfl more
    · have notPoint : c ≠ '.' := fun point => other input (by rw [point])
      simp [parseFrac, notPoint]

private theorem readsPlainly_parseSigned : ReadsPlainly parseSigned := by
  intro input value rest parsed
  have plainly := @readsPlainly_digits Int
  unfold parseSigned at parsed
  split at parsed
  · exact ReadsPlainly.cons (plainly fun digits => -(digitsValue digits : Int)) (by simp [PlainChar]) _
      (fun _ => rfl) parsed
  · exact ReadsPlainly.cons (plainly fun digits => (digitsValue digits : Int)) (by simp [PlainChar]) _
      (fun _ => rfl) parsed
  · rename_i minus plus
    obtain ⟨taken, stable⟩ := plainly (fun digits => (digitsValue digits : Int)) input value rest parsed
    refine ⟨taken, fun tail more => ?_⟩
    rcases input with _ | ⟨c, input⟩
    · cases parsed
    · have notMinus : c ≠ '-' := fun same => minus input (by rw [same])
      have notPlus : c ≠ '+' := fun same => plus input (by rw [same])
      have whole : parseSigned (c :: (input ++ tail)) =
          (let (digits, rest) := spanDigits (c :: (input ++ tail))
            if digits.isEmpty then none else some ((digitsValue digits : Int), rest)) := by
        simp [parseSigned, notMinus, notPlus]
      rw [List.cons_append, whole]
      exact stable tail more

private theorem readsPlainly_parseExponent : ReadsPlainly parseExponent := by
  intro input value rest parsed
  unfold parseExponent at parsed
  split at parsed
  · exact ReadsPlainly.cons readsPlainly_parseSigned (by simp [PlainChar]) _ (fun _ => rfl) parsed
  · exact ReadsPlainly.cons readsPlainly_parseSigned (by simp [PlainChar]) _ (fun _ => rfl) parsed
  · rename_i lower upper
    obtain ⟨rfl, rfl⟩ := Prod.mk.inj (Option.some.inj parsed)
    refine ⟨⟨[], rfl, by simp⟩, fun tail more => ?_⟩
    rcases input with _ | ⟨c, input⟩
    · exact absurd rfl more
    · have notLower : c ≠ 'e' := fun same => lower input (by rw [same])
      have notUpper : c ≠ 'E' := fun same => upper input (by rw [same])
      simp [parseExponent, notLower, notUpper]

private theorem readsPlainly_parseNumber (negative : Bool) : ReadsPlainly (parseNumber negative) := by
  have value (whole frac : List Char) (exponent : Int) :
      ReadsPlainly fun rest => (numeric negative whole frac exponent).bind fun value => some (value, rest) := by
    rcases numeric negative whole frac exponent with _ | found
    · intro _ _ _ parsed
      cases parsed
    · exact readsPlainly_pure found
  have reads := readsPlainly_spanDigits.bind fun whole =>
    ReadsPlainly.guard (whole.isEmpty ∨ (whole.head? = some '0' ∧ 1 < whole.length))
      (readsPlainly_parseFrac.bind fun frac => readsPlainly_parseExponent.bind fun exponent => value whole frac exponent)
  convert reads using 1
  funext input
  simp only [parseNumber, Option.bind_some, Option.bind_eq_bind, Option.pure_def]

private theorem parseNumber_digit {negative : Bool} {input rest : List Char} {value : Json}
    (parsed : parseNumber negative input = some (value, rest)) : ∃ c more, input = c :: more ∧ c.isDigit = true := by
  rcases input with _ | ⟨c, more⟩
  · cases parsed
  · refine ⟨c, more, rfl, ?_⟩
    by_contra other
    simp [parseNumber, spanDigits, other] at parsed

private theorem skip_plain (input : List Char) : ∃ blanks, input = blanks ++ skip input ∧ ∀ c ∈ blanks, PlainChar c := by
  refine ⟨input.takeWhile isSpace, List.takeWhile_append_dropWhile.symm, fun c member => ?_⟩
  have space := List.mem_takeWhile_imp member
  refine ⟨?_, ?_, ?_⟩ <;> rintro rfl <;> exact absurd space (by decide)

private theorem skip_append {input : List Char} (more : skip input ≠ []) (tail : List Char) :
    skip (input ++ tail) = skip input ++ tail := by
  rw [skip, List.dropWhile_append, if_neg (by simpa [skip] using more)]
  rfl

/-- Blanks, a token, and what follows. -/
private theorem balanced_token {input token taken rest : List Char} (start : skip input = token ++ (taken ++ rest))
    (plain : ∀ c ∈ token, PlainChar c) (balanced : Balanced taken) :
    ∃ taken, input = taken ++ rest ∧ Balanced taken := by
  obtain ⟨blanks, whole, space⟩ := skip_plain input
  refine ⟨blanks ++ (token ++ taken), ?_, ?_⟩
  · rw [whole, start]
    simp only [List.append_assoc]
  · exact (balanced_of_plain space).append ((balanced_of_plain plain).append balanced)

/-- What the parsers of that fuel take, and that more fuel and more input make no difference to them. -/
private structure Reads (fuel : Nat) : Prop where
  value : ∀ input value rest, parseValue fuel input = some (value, rest) →
    (∃ taken, input = taken ++ rest ∧ Balanced taken) ∧
      ∀ fuel', fuel ≤ fuel' → ∀ tail, rest ≠ [] → parseValue fuel' (input ++ tail) = some (value, rest ++ tail)
  items : ∀ input items rest, parseItems fuel input = some (items, rest) →
    (∃ taken, input = taken ++ rest ∧ Balanced taken) ∧
      ∀ fuel', fuel ≤ fuel' → ∀ tail, parseItems fuel' (input ++ tail) = some (items, rest ++ tail)
  fields : ∀ input fields rest, parseFields fuel input = some (fields, rest) →
    (∃ inner, input = inner ++ '\x7d' :: rest ∧ Balanced inner) ∧
      ∀ fuel', fuel ≤ fuel' → ∀ tail, parseFields fuel' (input ++ tail) = some (fields, rest ++ tail)

private theorem reads_zero : Reads 0 where
  value := by
    intro _ _ _ parsed
    cases parsed
  items := by
    intro _ _ _ parsed
    cases parsed
  fields := by
    intro _ _ _ parsed
    cases parsed

private theorem reads_items {fuel : Nat} (reads : Reads fuel) {input rest : List Char} {items : List Json}
    (parsed : parseItems (fuel + 1) input = some (items, rest)) :
    (∃ taken, input = taken ++ rest ∧ Balanced taken) ∧
      ∀ fuel', fuel + 1 ≤ fuel' → ∀ tail, parseItems fuel' (input ++ tail) = some (items, rest ++ tail) := by
  rw [parseItems] at parsed
  split at parsed
  · cases parsed
  rename_i item after one
  obtain ⟨⟨front, rfl, balanced⟩, stable⟩ := reads.value _ _ _ one
  have between {c : Char} {left : List Char} (start : skip after = c :: left) : after ≠ [] := by
    rintro rfl
    cases start
  split at parsed
  · rename_i others start
    obtain ⟨found, two, rfl⟩ := map_pair parsed
    obtain ⟨⟨back, rfl, balanced'⟩, stable'⟩ := reads.items _ _ _ two
    obtain ⟨comma, rfl, balancedComma⟩ := @balanced_token after [','] back rest start (by simp [PlainChar]) balanced'
    refine ⟨⟨front ++ comma, by rw [List.append_assoc], balanced.append balancedComma⟩, fun fuel' more tail => ?_⟩
    obtain ⟨k, rfl⟩ : ∃ k, fuel' = k + 1 := ⟨fuel' - 1, by omega⟩
    have skipped := skip_append (by rw [start]; simp) tail
    have next := stable' k (by omega) tail
    rw [start, List.cons_append] at skipped
    simp only [parseItems, stable k (by omega) tail (between start), skipped, next, Option.map_some]
  · rename_i left start
    obtain ⟨rfl, rfl⟩ := Prod.mk.inj (Option.some.inj parsed)
    obtain ⟨close, rfl, balancedClose⟩ := @balanced_token after [']'] [] left start (by simp [PlainChar]) .nil
    refine ⟨⟨front ++ close, by rw [List.append_assoc], balanced.append balancedClose⟩, fun fuel' more tail => ?_⟩
    obtain ⟨k, rfl⟩ : ∃ k, fuel' = k + 1 := ⟨fuel' - 1, by omega⟩
    have skipped := skip_append (by rw [start]; simp) tail
    rw [start, List.cons_append] at skipped
    simp only [parseItems, stable k (by omega) tail (between start), skipped]
  · cases parsed

private theorem reads_fields {fuel : Nat} (reads : Reads fuel) {input rest : List Char} {fields : List (String × Json)}
    (parsed : parseFields (fuel + 1) input = some (fields, rest)) :
    (∃ inner, input = inner ++ '\x7d' :: rest ∧ Balanced inner) ∧
      ∀ fuel', fuel + 1 ≤ fuel' → ∀ tail, parseFields fuel' (input ++ tail) = some (fields, rest ++ tail) := by
  rw [parseFields] at parsed
  split at parsed
  case h_2 => cases parsed
  rename_i afterQuote quote
  split at parsed
  · cases parsed
  rename_i key afterKey string
  split at parsed
  case h_2 => cases parsed
  rename_i afterColon colon
  split at parsed
  · cases parsed
  rename_i value after one
  obtain ⟨literal, rfl, quoted⟩ := parseString_quoted string
  obtain ⟨blanks, whole, space⟩ := skip_plain input
  obtain ⟨⟨front, rfl, balanced⟩, stable⟩ := reads.value _ _ _ one
  obtain ⟨named, rfl, balancedNamed⟩ := @balanced_token afterKey [':'] front after colon (by simp [PlainChar]) balanced
  -- the key, the colon and the value
  have field : input = (blanks ++ '"' :: (literal ++ named)) ++ after := by
    rw [whole, quote]
    simp only [List.append_assoc, List.cons_append]
  have balancedField : Balanced (blanks ++ '"' :: (literal ++ named)) :=
    (balanced_of_plain space).append (.string quoted balancedNamed)
  have between {c : Char} {left : List Char} (start : skip after = c :: left) : after ≠ [] := by
    rintro rfl
    cases start
  have again {c : Char} {left : List Char} (start : skip after = c :: left) (k : Nat) (more : fuel ≤ k)
      (tail : List Char) : skip (input ++ tail) = '"' :: (literal ++ (named ++ after) ++ tail) ∧
        parseString (literal ++ (named ++ after) ++ tail) = some (key, named ++ after ++ tail) ∧
        skip (named ++ after ++ tail) = ':' :: (front ++ after ++ tail) ∧
        parseValue k (front ++ after ++ tail) = some (value, after ++ tail) ∧
        skip (after ++ tail) = c :: (left ++ tail) := by
    refine ⟨?_, parseString_append string tail, ?_, stable k more tail (between start), ?_⟩
    · rw [skip_append (by rw [quote]; simp), quote, List.cons_append]
    · rw [skip_append (by rw [colon]; simp), colon, List.cons_append]
    · rw [skip_append (by rw [start]; simp), start, List.cons_append]
  split at parsed
  · rename_i others start
    obtain ⟨found, two, rfl⟩ := map_pair parsed
    obtain ⟨⟨inner, rfl, balanced'⟩, stable'⟩ := reads.fields _ _ _ two
    obtain ⟨comma, rfl, balancedComma⟩ :=
      @balanced_token after [','] inner ('\x7d' :: rest) start (by simp [PlainChar]) balanced'
    refine ⟨⟨(blanks ++ '"' :: (literal ++ named)) ++ comma, ?_, balancedField.append balancedComma⟩,
      fun fuel' more tail => ?_⟩
    · rw [field]
      simp only [List.append_assoc, List.cons_append]
    · obtain ⟨k, rfl⟩ : ∃ k, fuel' = k + 1 := ⟨fuel' - 1, by omega⟩
      obtain ⟨skipQuote, readKey, skipColon, readValue, skipComma⟩ := again start k (by omega) tail
      have next := stable' k (by omega) tail
      simp only [parseFields, skipQuote, readKey, skipColon, readValue, skipComma, next, Option.map_some]
  · rename_i left start
    obtain ⟨rfl, rfl⟩ := Prod.mk.inj (Option.some.inj parsed)
    obtain ⟨space', after_eq, plain'⟩ := skip_plain after
    rw [start] at after_eq
    refine ⟨⟨(blanks ++ '"' :: (literal ++ named)) ++ space', ?_, balancedField.append (balanced_of_plain plain')⟩,
      fun fuel' more tail => ?_⟩
    · have closed := congrArg (fun rest => (blanks ++ '"' :: (literal ++ named)) ++ rest) after_eq
      exact field.trans (closed.trans (List.append_assoc _ _ _).symm)
    · obtain ⟨k, rfl⟩ : ∃ k, fuel' = k + 1 := ⟨fuel' - 1, by omega⟩
      obtain ⟨skipQuote, readKey, skipColon, readValue, skipClose⟩ := again start k (by omega) tail
      simp only [parseFields, skipQuote, readKey, skipColon, readValue, skipClose]
  · cases parsed

/-- An object, up to its closing brace. -/
private theorem reads_object {fuel : Nat} (reads : Reads fuel) {input inside rest : List Char} {value : Json}
    (start : skip input = '\x7b' :: inside) (parsed : parseValue (fuel + 1) input = some (value, rest)) :
    (∃ inner, inside = inner ++ '\x7d' :: rest ∧ Balanced inner) ∧
      ∀ fuel', fuel + 1 ≤ fuel' → ∀ tail, parseValue fuel' (input ++ tail) = some (value, rest ++ tail) := by
  have skipped (tail : List Char) : skip (input ++ tail) = '\x7b' :: (inside ++ tail) := by
    rw [skip_append (by rw [start]; simp), start, List.cons_append]
  simp only [parseValue, start] at parsed
  obtain ⟨blanks, whole, space⟩ := skip_plain inside
  split at parsed
  · rename_i left close
    obtain ⟨rfl, rfl⟩ := Prod.mk.inj (Option.some.inj parsed)
    refine ⟨⟨blanks, by rw [← close]; exact whole, balanced_of_plain space⟩, fun fuel' more tail => ?_⟩
    obtain ⟨k, rfl⟩ : ∃ k, fuel' = k + 1 := ⟨fuel' - 1, by omega⟩
    have skipClose := skip_append (by rw [close]; simp) tail
    rw [close, List.cons_append] at skipClose
    simp only [parseValue, skipped, skipClose]
  · rename_i other
    obtain ⟨found, one, rfl⟩ := map_pair parsed
    obtain ⟨⟨inner, same, balanced⟩, stable⟩ := reads.fields _ _ _ one
    refine ⟨⟨blanks ++ inner, by rw [List.append_assoc, ← same]; exact whole,
      (balanced_of_plain space).append balanced⟩, fun fuel' more tail => ?_⟩
    obtain ⟨k, rfl⟩ : ∃ k, fuel' = k + 1 := ⟨fuel' - 1, by omega⟩
    have next := stable k (by omega) tail
    have some : skip inside ≠ [] := by
      rw [same]
      simp
    have skipInside := skip_append some tail
    rcases head : skip inside with _ | ⟨c, more'⟩
    · exact absurd head some
    · have notClose : c ≠ '\x7d' := by
        rintro rfl
        exact other more' head
      rw [head, List.cons_append] at skipInside next
      simp only [parseValue, skipped, skipInside]
      split
      · rename_i close
        exact absurd (List.cons.inj close).1 notClose
      · rw [next, Option.map_some]

private theorem reads_array {fuel : Nat} (reads : Reads fuel) {input inside rest : List Char} {value : Json}
    (start : skip input = '[' :: inside) (parsed : parseValue (fuel + 1) input = some (value, rest)) :
    (∃ taken, inside = taken ++ rest ∧ Balanced taken) ∧
      ∀ fuel', fuel + 1 ≤ fuel' → ∀ tail, parseValue fuel' (input ++ tail) = some (value, rest ++ tail) := by
  have skipped (tail : List Char) : skip (input ++ tail) = '[' :: (inside ++ tail) := by
    rw [skip_append (by rw [start]; simp), start, List.cons_append]
  simp only [parseValue, start] at parsed
  obtain ⟨blanks, whole, space⟩ := skip_plain inside
  split at parsed
  · rename_i left close
    obtain ⟨rfl, rfl⟩ := Prod.mk.inj (Option.some.inj parsed)
    obtain ⟨closed, balanced⟩ := @balanced_token inside [']'] [] left close (by simp [PlainChar]) .nil
    refine ⟨⟨closed, balanced⟩, fun fuel' more tail => ?_⟩
    obtain ⟨k, rfl⟩ : ∃ k, fuel' = k + 1 := ⟨fuel' - 1, by omega⟩
    have skipClose := skip_append (by rw [close]; simp) tail
    rw [close, List.cons_append] at skipClose
    simp only [parseValue, skipped, skipClose]
  · rename_i other
    obtain ⟨found, one, rfl⟩ := map_pair parsed
    obtain ⟨⟨taken, same, balanced⟩, stable⟩ := reads.items _ _ _ one
    refine ⟨⟨blanks ++ taken, by rw [List.append_assoc, ← same]; exact whole,
      (balanced_of_plain space).append balanced⟩, fun fuel' more tail => ?_⟩
    obtain ⟨k, rfl⟩ : ∃ k, fuel' = k + 1 := ⟨fuel' - 1, by omega⟩
    have next := stable k (by omega) tail
    rcases head : skip inside with _ | ⟨c, more'⟩
    · rw [head] at one
      rcases fuel with _ | fuel
      · cases one
      · cases fuel <;> simp [parseItems, parseValue, skip, parseNumber, spanDigits] at one
    · have notClose : c ≠ ']' := by
        rintro rfl
        exact other more' head
      have skipInside := skip_append (by rw [head]; simp) tail
      rw [head, List.cons_append] at skipInside next
      simp only [parseValue, skipped, skipInside]
      split
      · rename_i close
        exact absurd (List.cons.inj close).1 notClose
      · rw [next, Option.map_some]

private theorem reads_value {fuel : Nat} (reads : Reads fuel) {input rest : List Char} {value : Json}
    (parsed : parseValue (fuel + 1) input = some (value, rest)) :
    (∃ taken, input = taken ++ rest ∧ Balanced taken) ∧
      ∀ fuel', fuel + 1 ≤ fuel' → ∀ tail, rest ≠ [] →
        parseValue fuel' (input ++ tail) = some (value, rest ++ tail) := by
  have whole := parsed
  have skipped {c : Char} {more : List Char} (start : skip input = c :: more) (tail : List Char) :
      skip (input ++ tail) = c :: (more ++ tail) := by
    rw [skip_append (by rw [start]; simp), start, List.cons_append]
  rw [parseValue] at parsed
  split at parsed
  · rename_i start
    obtain ⟨rfl, rfl⟩ := Prod.mk.inj (Option.some.inj parsed)
    refine ⟨@balanced_token input ['n', 'u', 'l', 'l'] [] _ start (by simp [PlainChar]) .nil, fun fuel' more tail _ => ?_⟩
    obtain ⟨k, rfl⟩ : ∃ k, fuel' = k + 1 := ⟨fuel' - 1, by omega⟩
    rw [parseValue, skipped start]
    rfl
  · rename_i start
    obtain ⟨rfl, rfl⟩ := Prod.mk.inj (Option.some.inj parsed)
    refine ⟨@balanced_token input ['t', 'r', 'u', 'e'] [] _ start (by simp [PlainChar]) .nil, fun fuel' more tail _ => ?_⟩
    obtain ⟨k, rfl⟩ : ∃ k, fuel' = k + 1 := ⟨fuel' - 1, by omega⟩
    rw [parseValue, skipped start]
    rfl
  · rename_i start
    obtain ⟨rfl, rfl⟩ := Prod.mk.inj (Option.some.inj parsed)
    refine ⟨@balanced_token input ['f', 'a', 'l', 's', 'e'] [] _ start (by simp [PlainChar]) .nil,
      fun fuel' more tail _ => ?_⟩
    obtain ⟨k, rfl⟩ : ∃ k, fuel' = k + 1 := ⟨fuel' - 1, by omega⟩
    rw [parseValue, skipped start]
    rfl
  · rename_i text start
    obtain ⟨chars, string, rfl⟩ := @map_pair _ _ (parseString text) (fun chars => Json.str (String.ofList chars)) _ _ parsed
    obtain ⟨literal, rfl, quoted⟩ := parseString_quoted string
    obtain ⟨blanks, whole, space⟩ := skip_plain input
    refine ⟨⟨blanks ++ '"' :: literal, ?_, ?_⟩, fun fuel' more tail _ => ?_⟩
    · rw [whole, start]
      simp only [List.append_assoc, List.cons_append]
    · have closed := Balanced.string quoted .nil
      rw [List.append_nil] at closed
      exact (balanced_of_plain space).append closed
    · obtain ⟨k, rfl⟩ : ∃ k, fuel' = k + 1 := ⟨fuel' - 1, by omega⟩
      simp only [parseValue, skipped start, parseString_append string tail, Option.map_some]
  · rename_i text start
    obtain ⟨⟨taken, rfl, plain⟩, stable⟩ := readsPlainly_parseNumber true _ _ _ parsed
    refine ⟨@balanced_token input ['-'] taken rest start (by simp [PlainChar]) (balanced_of_plain plain),
      fun fuel' more tail some => ?_⟩
    obtain ⟨k, rfl⟩ : ∃ k, fuel' = k + 1 := ⟨fuel' - 1, by omega⟩
    simp only [parseValue, skipped start, stable tail some]
  · rename_i inside start
    obtain ⟨⟨taken, rfl, balanced⟩, stable⟩ := reads_array reads start whole
    exact ⟨@balanced_token input ['['] taken rest start (by simp [PlainChar]) balanced,
      fun fuel' more tail _ => stable fuel' more tail⟩
  · rename_i inside start
    obtain ⟨⟨inner, rfl, balanced⟩, stable⟩ := reads_object reads start whole
    obtain ⟨blanks, same, space⟩ := skip_plain input
    refine ⟨⟨blanks ++ '\x7b' :: (inner ++ ['\x7d']), ?_, ?_⟩, fun fuel' more tail _ => stable fuel' more tail⟩
    · rw [same, start]
      simp only [List.append_assoc, List.cons_append, List.nil_append]
    · exact (balanced_of_plain space).append (.braces balanced .nil)
  · obtain ⟨⟨taken, same, plain⟩, stable⟩ := readsPlainly_parseNumber false _ _ _ parsed
    obtain ⟨c, more, start, digit⟩ := parseNumber_digit parsed
    obtain ⟨blanks, whole, space⟩ := skip_plain input
    refine ⟨⟨blanks ++ taken, ?_, (balanced_of_plain space).append (balanced_of_plain plain)⟩,
      fun fuel' le tail some => ?_⟩
    · rw [List.append_assoc, ← same]
      exact whole
    · obtain ⟨k, rfl⟩ : ∃ k, fuel' = k + 1 := ⟨fuel' - 1, by omega⟩
      have next := stable tail some
      rw [start] at next
      rw [parseValue, skipped start]
      have apart {d : Char} {left left' : List Char} (other : d.isDigit = false) : c :: left ≠ d :: left' := by
        intro heads
        rw [(List.cons.inj heads).1, other] at digit
        cases digit
      split
      case h_8 => exact next
      all_goals
        rename_i heads
        exact absurd heads (apart (by decide))

private theorem reads (fuel : Nat) : Reads fuel := by
  induction fuel with
  | zero => exact reads_zero
  | succ fuel ih => exact ⟨fun _ _ _ => reads_value ih, fun _ _ _ => reads_items ih, fun _ _ _ => reads_fields ih⟩

/-- A text that starts with a brace and converts is an object between balanced braces, and the same
object is read where more follows. -/
theorem parse_object {object : List Char} {value : Json} (opens : object.head? = some '\x7b')
    (closes : object.getLast? = some '\x7d') (converts : parse (String.ofList object) = some value) :
    (∃ inner, object = '\x7b' :: (inner ++ ['\x7d']) ∧ Balanced inner) ∧
      ∀ tail other, parse (String.ofList (object ++ tail)) = some other → other = value := by
  obtain ⟨inside, rfl⟩ : ∃ inside, object = '\x7b' :: inside := by
    rcases object with _ | ⟨c, inside⟩
    · cases opens
    · exact ⟨inside, congrArg (· :: inside) (Option.some.inj opens)⟩
  have start : skip ('\x7b' :: inside) = '\x7b' :: inside := by
    rw [skip, List.dropWhile_cons, if_neg (by decide)]
  rw [parse, String.toList_ofList, String.length_ofList] at converts
  split at converts
  case h_2 => cases converts
  rename_i found rest parsed
  split at converts
  case isFalse => cases converts
  rename_i blank
  obtain rfl := Option.some.inj converts
  obtain ⟨⟨inner, rfl, balanced⟩, stable⟩ := reads_object (reads _) start parsed
  have ends : rest = [] := by
    rcases rest.eq_nil_or_concat with none | ⟨front, last, rfl⟩
    · exact none
    · have space := List.dropWhile_eq_nil_iff.mp (List.isEmpty_iff.mp blank) last (by simp)
      have whole : '\x7b' :: (inner ++ '\x7d' :: front.concat last) = '\x7b' :: (inner ++ '\x7d' :: front) ++ [last] := by
        simp
      rw [whole, List.getLast?_concat] at closes
      rw [Option.some.inj closes] at space
      exact absurd space (by decide)
  subst ends
  refine ⟨⟨inner, rfl, balanced⟩, fun tail other reread => ?_⟩
  rw [parse, String.toList_ofList, String.length_ofList, stable _ (by rw [List.length_append]; omega) tail] at reread
  simp only [List.nil_append] at reread
  split at reread
  · exact (Option.some.inj reread).symm
  · cases reread

end Jsonb
