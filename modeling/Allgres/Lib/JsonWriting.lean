import Mathlib.Data.List.TakeWhile
import Allgres.Lib.Jsonb

/-! The text of a `jsonb` value can be read in one way only. -/

namespace Jsonb.Json

/-! ### Strings -/

/-- What an escape stands for, and what follows it. -/
def readEscape : List Char → Option (Char × List Char)
  | '\\' :: '"' :: rest => some ('"', rest)
  | '\\' :: '\\' :: rest => some ('\\', rest)
  | '\\' :: 'n' :: rest => some ('\n', rest)
  | '\\' :: 'r' :: rest => some ('\r', rest)
  | '\\' :: 't' :: rest => some ('\t', rest)
  | '\\' :: 'b' :: rest => some ('\x08', rest)
  | '\\' :: 'f' :: rest => some ('\x0c', rest)
  | '\\' :: 'u' :: a :: b :: c :: d :: rest => (hex4 a b c d).map fun code => (Char.ofNat code, rest)
  | c :: rest => some (c, rest)
  | [] => none

theorem readEscape_escapeChar (c : Char) (rest : List Char) : readEscape (escapeChar c ++ rest) = some (c, rest) := by
  have control : ∀ code < 32, hex4 '0' '0' (hexDigit (code / 16)) (hexDigit (code % 16)) = some code := by decide
  unfold escapeChar
  split
  case h_8 quote slash newline carriage tab backspace feed =>
    split
    · rename_i low
      simp only [List.cons_append, List.nil_append, readEscape, control c.toNat low, Option.map_some, Char.ofNat_toNat]
    · unfold readEscape
      split <;> simp_all
  all_goals rfl

theorem escapeChar_head (c : Char) : ∃ d more, escapeChar c = d :: more ∧ d ≠ '"' := by
  unfold escapeChar
  split
  case h_8 quote _ _ _ _ _ _ =>
    split
    · exact ⟨'\\', _, rfl, by decide⟩
    · exact ⟨c, [], rfl, quote⟩
  all_goals exact ⟨'\\', _, rfl, by decide⟩

/-- A literal ends at the first quote that is not escaped. -/
theorem escaped_inj {chars chars' rest rest' : List Char}
    (same : chars.flatMap escapeChar ++ '"' :: rest = chars'.flatMap escapeChar ++ '"' :: rest') :
    chars = chars' ∧ rest = rest' := by
  have apart (c : Char) (more left left' : List Char) :
      '"' :: left ≠ escapeChar c ++ more ++ left' := by
    obtain ⟨d, tail, head, other⟩ := escapeChar_head c
    intro equal
    rw [head] at equal
    exact other (List.cons.inj equal).1.symm
  induction chars generalizing chars' with
  | nil =>
    cases chars' with
    | nil => exact ⟨rfl, (List.cons.inj same).2⟩
    | cons d more => exact absurd same (apart d _ rest _)
  | cons c tail ih =>
    cases chars' with
    | nil => exact absurd same.symm (apart c _ rest' _)
    | cons d more =>
      rw [List.flatMap_cons, List.flatMap_cons, List.append_assoc, List.append_assoc] at same
      have read := congrArg readEscape same
      rw [readEscape_escapeChar, readEscape_escapeChar] at read
      obtain ⟨rfl, left⟩ := Prod.mk.inj (Option.some.inj read)
      obtain ⟨rfl, ends⟩ := ih left
      exact ⟨rfl, ends⟩

theorem quote_toList (value : String) : (quote value).toList = '"' :: (value.toList.flatMap escapeChar ++ ['"']) := by
  rw [quote, String.toList_ofList]
  rfl

theorem quote_inj {value value' : String} {rest rest' : List Char}
    (same : (quote value).toList ++ rest = (quote value').toList ++ rest') : value = value' ∧ rest = rest' := by
  rw [quote_toList, quote_toList] at same
  simp only [List.cons_append, List.append_assoc, List.nil_append, List.cons.injEq, true_and] at same
  obtain ⟨chars, ends⟩ := escaped_inj same
  exact ⟨String.toList_inj.mp chars, ends⟩

/-! ### Numbers -/

/-- The sign, the digits before the point and those behind it. -/
theorem numText_toList (mantissa : Int) (scale : Nat) : ∃ whole frac : List Char,
    (numText mantissa scale).toList =
      (if mantissa < 0 then ['-'] else []) ++ (whole ++ if scale = 0 then [] else '.' :: frac) ∧
    whole ≠ [] ∧ (∀ c ∈ whole ++ frac, c.isDigit = true) ∧ frac.length = scale ∧
    Nat.ofDigitChars 10 (whole ++ frac) 0 = mantissa.natAbs := by
  have listed : (toString mantissa.natAbs).toList = Nat.toDigits 10 mantissa.natAbs := Nat.toList_repr
  have digits : ∀ c ∈ Nat.toDigits 10 mantissa.natAbs, c.isDigit = true :=
    fun c member => Nat.isDigit_of_mem_toDigits (by decide) (by decide) member
  have sign : (if mantissa < 0 then "-" else "").toList = if mantissa < 0 then ['-'] else [] := by
    split <;> rfl
  by_cases integral : scale = 0
  · refine ⟨Nat.toDigits 10 mantissa.natAbs, [], ?_, Nat.toDigits_ne_nil, ?_, integral.symm, ?_⟩
    · simp only [numText, integral, if_true, String.toList_append, listed, sign, List.append_nil]
    · rw [List.append_nil]
      exact digits
    · rw [List.append_nil, Nat.ofDigitChars_ten_toDigits]
  · generalize padding : scale + 1 - (toString mantissa.natAbs).length = zeros
    have size : (toString mantissa.natAbs).length = (Nat.toDigits 10 mantissa.natAbs).length := by
      rw [← listed, String.length_toList]
    have padded : (String.ofList (List.replicate zeros '0') ++ toString mantissa.natAbs).toList =
        List.replicate zeros '0' ++ Nat.toDigits 10 mantissa.natAbs := by
      rw [String.toList_append, String.toList_ofList, listed]
    generalize chars_eq : List.replicate zeros '0' ++ Nat.toDigits 10 mantissa.natAbs = chars at padded
    have long : scale + 1 ≤ chars.length := by
      rw [← chars_eq, List.length_append, List.length_replicate]
      omega
    refine ⟨chars.take (chars.length - scale), chars.drop (chars.length - scale), ?_, ?_, ?_, ?_, ?_⟩
    · simp only [numText, integral, if_false, padding, padded, String.toList_append, sign, String.toList_ofList]
      simp
    · have some : 0 < (chars.take (chars.length - scale)).length := by
        rw [List.length_take]
        omega
      exact List.length_pos_iff.mp some
    · rw [List.take_append_drop, ← chars_eq]
      intro c member
      rcases List.mem_append.mp member with zero | digit
      · rw [List.eq_of_mem_replicate zero]
        rfl
      · exact digits c digit
    · rw [List.length_drop]
      omega
    · rw [List.take_append_drop, ← chars_eq, Nat.ofDigitChars_append, Nat.ofDigitChars_replicate_zero, Nat.mul_zero,
        Nat.ofDigitChars_ten_toDigits]

/-- A number ends where neither a digit nor a point follows. -/
def Ends (rest : List Char) : Prop := ∀ c ∈ rest.head?, c.isDigit = false ∧ c ≠ '.'

theorem digits_inj {digits digits' rest rest' : List Char} (plain : ∀ c ∈ digits, c.isDigit = true)
    (plain' : ∀ c ∈ digits', c.isDigit = true) (ends : ∀ c ∈ rest.head?, c.isDigit = false)
    (ends' : ∀ c ∈ rest'.head?, c.isDigit = false) (same : digits ++ rest = digits' ++ rest') :
    digits = digits' ∧ rest = rest' := by
  have stops {rest : List Char} (ends : ∀ c ∈ rest.head?, c.isDigit = false) : rest.takeWhile Char.isDigit = [] := by
    cases rest with
    | nil => rfl
    | cons c more => rw [List.takeWhile_cons, ends c rfl, if_neg Bool.false_ne_true]
  have front := congrArg (List.takeWhile Char.isDigit) same
  rw [List.takeWhile_append_of_pos plain, List.takeWhile_append_of_pos plain', stops ends, stops ends',
    List.append_nil, List.append_nil] at front
  subst front
  exact ⟨rfl, List.append_cancel_left same⟩

theorem numText_inj {mantissa mantissa' : Int} {scale scale' : Nat} {rest rest' : List Char} (ends : Ends rest)
    (ends' : Ends rest') (same : (numText mantissa scale).toList ++ rest = (numText mantissa' scale').toList ++ rest') :
    mantissa = mantissa' ∧ scale = scale' ∧ rest = rest' := by
  obtain ⟨whole, frac, text, some, digits, size, value⟩ := numText_toList mantissa scale
  obtain ⟨whole', frac', text', some', digits', size', value'⟩ := numText_toList mantissa' scale'
  have inside : ∀ c ∈ whole, c.isDigit = true := fun c member => digits c (List.mem_append_left _ member)
  have inside' : ∀ c ∈ whole', c.isDigit = true := fun c member => digits' c (List.mem_append_left _ member)
  have behind : ∀ c ∈ frac, c.isDigit = true := fun c member => digits c (List.mem_append_right _ member)
  have behind' : ∀ c ∈ frac', c.isDigit = true := fun c member => digits' c (List.mem_append_right _ member)
  rw [text, text'] at same
  -- the sign is there or not on both sides
  have apart {w w' t t' : List Char} (filled : w' ≠ []) (plain : ∀ c ∈ w', c.isDigit = true) :
      '-' :: (w ++ t) ≠ w' ++ t' := by
    rcases w' with _ | ⟨c, more⟩
    · exact absurd rfl filled
    · intro equal
      have digit := plain c List.mem_cons_self
      rw [← (List.cons.inj equal).1] at digit
      cases digit
  have signs : (mantissa < 0 ↔ mantissa' < 0) ∧
      whole ++ ((if scale = 0 then [] else '.' :: frac) ++ rest) =
        whole' ++ ((if scale' = 0 then [] else '.' :: frac') ++ rest') := by
    by_cases negative : mantissa < 0 <;> by_cases negative' : mantissa' < 0 <;>
      simp only [negative, negative', if_true, if_false, List.nil_append, List.append_assoc, List.cons_append] at same
    · exact ⟨by simp [negative, negative'], (List.cons.inj same).2⟩
    · exact absurd same (apart some' inside')
    · exact absurd same.symm (apart some inside)
    · exact ⟨by simp [negative, negative'], same⟩
  have point {scale : Nat} {frac rest : List Char} (ends : Ends rest) :
      ∀ c ∈ ((if scale = 0 then [] else '.' :: frac) ++ rest).head?, c.isDigit = false := by
    split
    · exact fun c member => (ends c member).1
    · intro c member
      obtain rfl := Option.some.inj member
      rfl
  obtain ⟨rfl, behindPoint⟩ := digits_inj inside inside' (point ends) (point ends') signs.2
  have same : frac = frac' ∧ rest = rest' := by
    by_cases integral : scale = 0 <;> by_cases integral' : scale' = 0 <;>
      simp only [integral, integral', if_true, if_false, List.nil_append, List.cons_append] at behindPoint
    · rw [integral] at size
      rw [integral'] at size'
      exact ⟨(List.length_eq_zero_iff.mp size).trans (List.length_eq_zero_iff.mp size').symm, behindPoint⟩
    · rw [behindPoint] at ends
      have clash := ends '.' rfl
      exact absurd rfl clash.2
    · rw [← behindPoint] at ends'
      have clash := ends' '.' rfl
      exact absurd rfl clash.2
    · exact digits_inj behind behind' (fun c member => (ends c member).1) (fun c member => (ends' c member).1)
        (List.cons.inj behindPoint).2
  obtain ⟨rfl, rfl⟩ := same
  have absolute : mantissa.natAbs = mantissa'.natAbs := value.symm.trans value'
  have sign := signs.1
  exact ⟨by omega, size.symm.trans size', rfl⟩

/-! ### Values -/

/-- Which kind of value begins with the character. -/
def kindOf (c : Char) : Nat :=
  if c = 'n' then 0 else if c = 't' then 1 else if c = 'f' then 2 else if c = '"' then 3
  else if c = '[' then 4 else if c = '\x7b' then 5 else if c = '-' ∨ c.isDigit then 6 else 7

def kind : Json → Nat
  | null => 0
  | bool true => 1
  | bool false => 2
  | str _ => 3
  | arr _ => 4
  | obj _ => 5
  | num _ _ => 6

theorem text_head (value : Json) : ∃ c more, (text value).toList = c :: more ∧ kindOf c = kind value := by
  cases value with
  | null => exact ⟨'n', _, rfl, by decide⟩
  | bool truth => cases truth <;> exact ⟨_, _, rfl, by decide⟩
  | num mantissa scale =>
    obtain ⟨whole, frac, same, some, digits, -, -⟩ := numText_toList mantissa scale
    rcases whole with _ | ⟨d, tail⟩
    · exact absurd rfl some
    · have digit := digits d (by simp)
      have other : kindOf d = 6 := by
        unfold kindOf
        simp only [digit, or_true, if_true]
        rw [if_neg, if_neg, if_neg, if_neg, if_neg, if_neg] <;> rintro rfl <;> cases digit
      rw [text, same]
      split
      · exact ⟨'-', _, rfl, rfl⟩
      · exact ⟨d, _, rfl, other⟩
  | str value =>
    rw [text, quote_toList]
    exact ⟨'"', _, rfl, rfl⟩
  | arr items =>
    rw [text, String.toList_append, String.toList_append]
    exact ⟨'[', _, rfl, rfl⟩
  | obj fields =>
    rw [text, String.toList_append, String.toList_append]
    exact ⟨'\x7b', _, rfl, rfl⟩

theorem kind_eq {value value' : Json} {rest rest' : List Char}
    (same : (text value).toList ++ rest = (text value').toList ++ rest') : kind value = kind value' := by
  obtain ⟨c, more, head, named⟩ := text_head value
  obtain ⟨c', more', head', named'⟩ := text_head value'
  rw [head, head'] at same
  rw [← named, ← named', (List.cons.inj same).1]

/-- What closes an array or an object, or comes after one of its values. -/
theorem ends_cons {c : Char} {rest : List Char} (other : c.isDigit = false) (point : c ≠ '.') : Ends (c :: rest) := by
  intro d member
  obtain rfl := Option.some.inj member
  exact ⟨other, point⟩

inductive SameKind : Json → Json → Prop
  | null : SameKind null null
  | bool (truth : Bool) : SameKind (bool truth) (bool truth)
  | num (mantissa mantissa' : Int) (scale scale' : Nat) : SameKind (num mantissa scale) (num mantissa' scale')
  | str (value value' : String) : SameKind (str value) (str value')
  | arr (items items' : List Json) : SameKind (arr items) (arr items')
  | obj (fields fields' : List (String × Json)) : SameKind (obj fields) (obj fields')

theorem sameKind : ∀ {value value' : Json}, kind value = kind value' → SameKind value value'
  | null, null, _ => .null
  | bool true, bool true, _ => .bool true
  | bool false, bool false, _ => .bool false
  | num _ _, num _ _, _ => .num _ _ _ _
  | str _, str _, _ => .str _ _
  | arr _, arr _, _ => .arr _ _
  | obj _, obj _, _ => .obj _ _

theorem text_ne {value : Json} {c : Char} {rest rest' : List Char} (other : kindOf c = 7) :
    c :: rest ≠ (text value).toList ++ rest' := by
  obtain ⟨d, more, head, named⟩ := text_head value
  intro same
  rw [head] at same
  rw [(List.cons.inj same).1, named] at other
  cases value with
  | bool truth => cases truth <;> cases other
  | _ => cases other

/-- What follows the first item of an array. -/
def itemsRest : List Json → List Char
  | [] => []
  | more => ',' :: ' ' :: (itemsText more).toList

theorem itemsText_cons (item : Json) (more : List Json) :
    (itemsText (item :: more)).toList = (text item).toList ++ itemsRest more := by
  cases more with
  | nil => rw [itemsText, itemsRest, List.append_nil]
  | cons next more =>
    rw [itemsText, String.toList_append, String.toList_append, List.append_assoc]
    · rfl
    · simp

/-- What follows the first field of an object. -/
def fieldsRest : List (String × Json) → List Char
  | [] => []
  | more => ',' :: ' ' :: (fieldsText more).toList

theorem fieldsText_cons (field : String × Json) (more : List (String × Json)) :
    (fieldsText (field :: more)).toList =
      (quote field.1).toList ++ (':' :: ' ' :: ((text field.2).toList ++ fieldsRest more)) := by
  cases more with
  | nil =>
    rw [fieldsText, String.toList_append, String.toList_append, List.append_assoc, fieldsRest, List.append_nil]
    rfl
  | cons next more =>
    rw [fieldsText, String.toList_append, String.toList_append, String.toList_append, String.toList_append]
    · simp only [List.append_assoc]
      rfl
    · simp

/-- What closes an array or an object. -/
structure Closes (c : Char) : Prop where
  digit : c.isDigit = false
  point : c ≠ '.'
  comma : c ≠ ','

theorem closes_bracket : Closes ']' := ⟨by decide, by decide, by decide⟩

theorem closes_brace : Closes '\x7d' := ⟨by decide, by decide, by decide⟩

theorem ends_itemsRest (more : List Json) {c : Char} (closes : Closes c) (rest : List Char) :
    Ends (itemsRest more ++ c :: rest) := by
  cases more with
  | nil => exact ends_cons closes.digit closes.point
  | cons item more => exact ends_cons (by decide) (by decide)

theorem ends_fieldsRest (more : List (String × Json)) {c : Char} (closes : Closes c) (rest : List Char) :
    Ends (fieldsRest more ++ c :: rest) := by
  cases more with
  | nil => exact ends_cons closes.digit closes.point
  | cons field more => exact ends_cons (by decide) (by decide)

theorem quote_ne {key : String} {rest rest' : List Char} : '\x7d' :: rest ≠ (quote key).toList ++ rest' := by
  intro same
  rw [quote_toList] at same
  cases (List.cons.inj same).1

-- By induction on the first value, with what follows both of them.
mutual
theorem text_inj : ∀ (value value' : Json) {rest rest' : List Char}, Ends rest → Ends rest' →
    (text value).toList ++ rest = (text value').toList ++ rest' → value = value' ∧ rest = rest'
  | value, value', rest, rest', ends, ends', same => by
    cases sameKind (kind_eq same) with
    | null => exact ⟨rfl, List.append_cancel_left same⟩
    | bool truth => exact ⟨rfl, List.append_cancel_left same⟩
    | num mantissa mantissa' scale scale' =>
      obtain ⟨rfl, rfl, after⟩ := numText_inj ends ends' same
      exact ⟨rfl, after⟩
    | str value value' =>
      obtain ⟨rfl, after⟩ := quote_inj same
      exact ⟨rfl, after⟩
    | arr items items' =>
      simp only [text, String.toList_append, List.append_assoc] at same
      obtain ⟨rfl, after⟩ := itemsText_inj items items' (List.append_cancel_left same)
      exact ⟨rfl, after⟩
    | obj fields fields' =>
      simp only [text, String.toList_append, List.append_assoc] at same
      obtain ⟨rfl, after⟩ := fieldsText_inj fields fields' (List.append_cancel_left same)
      exact ⟨rfl, after⟩

theorem itemsText_inj : ∀ (items items' : List Json) {rest rest' : List Char},
    (itemsText items).toList ++ (']' :: rest) = (itemsText items').toList ++ (']' :: rest') →
      items = items' ∧ rest = rest'
  | [], [], _, _, same => by
    exact ⟨rfl, (List.cons.inj same).2⟩
  | [], item :: more, _, _, same => by
    rw [itemsText_cons, List.append_assoc] at same
    exact absurd same (text_ne (by decide))
  | item :: more, [], _, _, same => by
    rw [itemsText_cons, List.append_assoc] at same
    exact absurd same.symm (text_ne (by decide))
  | item :: more, item' :: more', rest, rest', same => by
    rw [itemsText_cons, itemsText_cons, List.append_assoc, List.append_assoc] at same
    obtain ⟨rfl, after⟩ := text_inj item item' (ends_itemsRest more closes_bracket rest)
      (ends_itemsRest more' closes_bracket rest') same
    match more, more' with
    | [], [] => exact ⟨rfl, (List.cons.inj after).2⟩
    | [], _ :: _ => exact absurd (List.cons.inj after).1 closes_bracket.comma
    | _ :: _, [] => exact absurd (List.cons.inj after).1.symm closes_bracket.comma
    | next :: more, next' :: more' =>
      obtain ⟨others, left⟩ := itemsText_inj (next :: more) (next' :: more') (List.cons.inj (List.cons.inj after).2).2
      exact ⟨congrArg (item :: ·) others, left⟩

theorem fieldsText_inj : ∀ (fields fields' : List (String × Json)) {rest rest' : List Char},
    (fieldsText fields).toList ++ ('\x7d' :: rest) = (fieldsText fields').toList ++ ('\x7d' :: rest') →
      fields = fields' ∧ rest = rest'
  | [], [], _, _, same => by
    exact ⟨rfl, (List.cons.inj same).2⟩
  | [], field :: more, _, _, same => by
    rw [fieldsText_cons, List.append_assoc] at same
    exact absurd same quote_ne
  | field :: more, [], _, _, same => by
    rw [fieldsText_cons, List.append_assoc] at same
    exact absurd same.symm quote_ne
  | (key, value) :: more, (key', value') :: more', rest, rest', same => by
    rw [fieldsText_cons, fieldsText_cons, List.append_assoc, List.append_assoc] at same
    obtain ⟨rfl, named⟩ := quote_inj same
    simp only [List.cons_append, List.append_assoc, List.cons.injEq, true_and] at named
    obtain ⟨rfl, after⟩ := text_inj value value' (ends_fieldsRest more closes_brace rest)
      (ends_fieldsRest more' closes_brace rest') named
    match more, more' with
    | [], [] => exact ⟨rfl, (List.cons.inj after).2⟩
    | [], _ :: _ => exact absurd (List.cons.inj after).1 closes_brace.comma
    | _ :: _, [] => exact absurd (List.cons.inj after).1.symm closes_brace.comma
    | next :: more, next' :: more' =>
      obtain ⟨others, left⟩ := fieldsText_inj (next :: more) (next' :: more') (List.cons.inj (List.cons.inj after).2).2
      exact ⟨congrArg ((key, value) :: ·) others, left⟩
end

/-- Values with the same text are the same, the scale of their numbers included. -/
theorem text_injective : Function.Injective text := by
  intro value value' same
  have nothing : Ends [] := fun c member => by cases member
  exact (text_inj value value' nothing nothing (by rw [same])).1

/-! ### Bars -/

/-- Where in a text a reader is: outside of the literals, in one, or behind a backslash in one. -/
inductive Reader
  | outside
  | literal
  | escaped

/-- Outside of its literals a text has neither backslashes nor bars. -/
def Reader.next : Reader → Char → Option Reader
  | outside, c => if c = '"' then some literal else if c = '\\' ∨ c = '|' then none else some outside
  | literal, c => if c = '"' then some outside else if c = '\\' then some escaped else some literal
  | escaped, _ => some literal

def Reader.run (reader : Reader) : List Char → Option Reader
  | [] => some reader
  | c :: rest => (reader.next c).bind fun reader => reader.run rest

theorem Reader.run_append (reader : Reader) (first second : List Char) :
    reader.run (first ++ second) = (reader.run first).bind fun reader => reader.run second := by
  induction first generalizing reader with
  | nil => rfl
  | cons c rest ih =>
    rw [List.cons_append, run, run]
    cases reader.next c with
    | none => rfl
    | some later => exact ih later

theorem Reader.run_plain {chars : List Char} (plain : ∀ c ∈ chars, c ≠ '"' ∧ c ≠ '\\' ∧ c ≠ '|') :
    outside.run chars = some outside := by
  induction chars with
  | nil => rfl
  | cons c rest ih =>
    obtain ⟨quote, slash, bar⟩ := plain c List.mem_cons_self
    simp only [run, next, quote, slash, bar, or_self, if_false, Option.bind_some]
    exact ih fun d member => plain d (List.mem_cons_of_mem c member)

theorem Reader.run_escapeChar (c : Char) : literal.run (escapeChar c) = some literal := by
  have control : ∀ code < 32, literal.run ['\\', 'u', '0', '0', hexDigit (code / 16), hexDigit (code % 16)] =
      some literal := by
    intro code low
    have plain : ∀ code < 16, hexDigit code ≠ '"' ∧ hexDigit code ≠ '\\' := by decide
    obtain ⟨quote, slash⟩ := plain (code / 16) (by omega)
    obtain ⟨quote', slash'⟩ := plain (code % 16) (by omega)
    simp [run, next, quote, slash, quote', slash']
  unfold escapeChar
  split
  case h_8 quote slash _ _ _ _ _ =>
    split
    · rename_i low
      exact control c.toNat low
    · have notQuote : c ≠ '"' := quote
      have notSlash : c ≠ '\\' := slash
      simp [run, next, notQuote, notSlash]
  all_goals rfl

theorem Reader.run_quote (value : String) : outside.run (quote value).toList = some outside := by
  have inside (chars : List Char) : literal.run (chars.flatMap escapeChar ++ ['"']) = some outside := by
    induction chars with
    | nil => rfl
    | cons c rest ih =>
      rw [List.flatMap_cons, List.append_assoc, run_append, run_escapeChar]
      exact ih
  rw [quote_toList]
  exact inside value.toList

theorem Reader.run_numText (mantissa : Int) (scale : Nat) :
    outside.run (numText mantissa scale).toList = some outside := by
  obtain ⟨whole, frac, same, -, digits, -, -⟩ := numText_toList mantissa scale
  have digit_plain (c : Char) (digit : c.isDigit = true) : c ≠ '"' ∧ c ≠ '\\' ∧ c ≠ '|' := by
    refine ⟨?_, ?_, ?_⟩ <;> rintro rfl <;> cases digit
  rw [same]
  refine run_plain fun c member => ?_
  rcases List.mem_append.mp member with sign | number
  · split at sign
    · obtain rfl := List.mem_singleton.mp sign
      decide
    · cases sign
  · rcases List.mem_append.mp number with inside | behind
    · exact digit_plain c (digits c (List.mem_append_left _ inside))
    · split at behind
      · cases behind
      · rcases List.mem_cons.mp behind with rfl | inside
        · decide
        · exact digit_plain c (digits c (List.mem_append_right _ inside))

mutual
theorem Reader.run_text : ∀ value : Json, outside.run (text value).toList = some outside
  | null => rfl
  | bool true => rfl
  | bool false => rfl
  | num mantissa scale => by
    rw [text]
    exact run_numText mantissa scale
  | str value => by
    rw [text]
    exact run_quote value
  | arr items => by
    rw [text, String.toList_append, String.toList_append, run_append, run_append]
    have opened : outside.run "[".toList = some outside := rfl
    rw [opened, Option.bind_some, run_itemsText items]
    rfl
  | obj fields => by
    rw [text, String.toList_append, String.toList_append, run_append, run_append]
    have opened : outside.run "\x7b".toList = some outside := rfl
    rw [opened, Option.bind_some, run_fieldsText fields]
    rfl

theorem Reader.run_itemsText : ∀ items : List Json, outside.run (itemsText items).toList = some outside
  | [] => rfl
  | [item] => by
    rw [itemsText]
    exact run_text item
  | item :: next :: more => by
    rw [itemsText_cons, run_append, run_text item]
    exact run_itemsText (next :: more)

theorem Reader.run_fieldsText : ∀ fields : List (String × Json), outside.run (fieldsText fields).toList = some outside
  | [] => rfl
  | [(key, value)] => by
    rw [fieldsText_cons, run_append, run_quote]
    have after := run_text value
    rw [fieldsRest, List.append_nil]
    exact after
  | (key, value) :: next :: more => by
    rw [fieldsText_cons, run_append, run_quote]
    have after := run_text value
    have others := run_fieldsText (next :: more)
    have both : outside.run ((text value).toList ++ fieldsRest (next :: more)) = some outside := by
      rw [run_append, after]
      exact others
    exact both
end

/-- A text that is read from its start ends outside of its literals; read from within a literal it cannot. -/
theorem Reader.run_apart (chars : List Char) (starts : outside.run chars = some outside) :
    literal.run chars ≠ some outside := by
  induction chars with
  | nil => simp [run]
  | cons c rest ih =>
    intro inside
    by_cases quote : c = '"'
    · subst quote
      exact ih inside starts
    · by_cases special : c = '\\' ∨ c = '|'
      · simp [run, next, quote, special] at starts
      · have notSlash : c ≠ '\\' := fun slash => special (.inl slash)
        have notBar : c ≠ '|' := fun bar => special (.inr bar)
        simp only [run, next, quote, notSlash, notBar, or_self, if_false, Option.bind_some] at starts inside
        exact ih starts inside

/-- A bar within the text of a value does not start another such text. -/
theorem text_bar {value value' : Json} {front : List Char} :
    (text value).toList ≠ front ++ '|' :: (text value').toList := by
  intro same
  have whole := Reader.run_text value
  rw [same, Reader.run_append] at whole
  obtain ⟨reader, -, rest⟩ := Option.bind_eq_some_iff.mp whole
  have back : Reader.literal.run (text value').toList = some .outside := by
    cases reader with
    | outside => cases rest
    | literal => exact rest
    | escaped => exact rest
  exact Reader.run_apart _ (Reader.run_text value') back

/-- The last bar that is followed by a value's text separates it from what is in front. -/
theorem bar_inj {front front' : List Char} {value value' : Json}
    (same : front ++ '|' :: (text value).toList = front' ++ '|' :: (text value').toList) :
    front = front' ∧ value = value' := by
  rcases List.append_eq_append_iff.mp same with ⟨more, longer, rest⟩ | ⟨more, longer, rest⟩
  · rcases more with _ | ⟨c, more⟩
    · rw [List.append_nil] at longer
      exact ⟨longer.symm, text_injective (String.toList_inj.mp (List.cons.inj rest).2)⟩
    · exact absurd (List.cons.inj rest).2 text_bar
  · rcases more with _ | ⟨c, more⟩
    · rw [List.append_nil] at longer
      exact ⟨longer, text_injective (String.toList_inj.mp (List.cons.inj rest).2.symm)⟩
    · exact absurd (List.cons.inj rest).2 text_bar

end Jsonb.Json
