import Allgres.Lib.RustStr

/-! The query of a URL: its parameters, and the bytes that their percent-encoding stands for. -/

namespace QueryString

open RustStr (splitOnce)

variable {text rest more piece name : List Char} {c : Char}

def utf8 (text : List Char) : List UInt8 := text.flatMap String.utf8EncodeChar

def hexDigit (c : Char) : Option Nat :=
  let n := c.toNat
  if 48 ≤ n ∧ n ≤ 57 then some (n - 48)
  else if 65 ≤ n ∧ n ≤ 70 then some (n - 55)
  else if 97 ≤ n ∧ n ≤ 102 then some (n - 87)
  else none

/-- The byte that two hexadecimal digits at the front stand for. -/
def hexByte? : List Char → Option UInt8
  | a :: b :: _ => match hexDigit a, hexDigit b with
    | some high, some low => some (UInt8.ofNat (16 * high + low))
    | _, _ => none
  | _ => none

/-- Percent-decoding; `skip` digits of an escape are still to be passed over. -/
def decodeFrom : Nat → List Char → List UInt8
  | _, [] => []
  | skip + 1, _ :: rest => decodeFrom skip rest
  | 0, c :: rest => match (hexByte? rest).filter fun _ => c == '%' with
    | some byte => byte :: decodeFrom 2 rest
    | none => String.utf8EncodeChar c ++ decodeFrom 0 rest

def decode (text : List Char) : List UInt8 := decodeFrom 0 text

/-- Some `%` has two hexadecimal digits behind it. -/
def escaped : List Char → Bool
  | [] => false
  | c :: rest => (c == '%' && (hexByte? rest).isSome) || escaped rest

/-- A parameter; a piece without an equals sign is a name. -/
def parameter (piece : List Char) : List UInt8 × List UInt8 :=
  match splitOnce '=' piece with
  | none => (decode piece, [])
  | some (name, value) => (decode name, decode value)

def parameters (query : List Char) : List (List UInt8 × List UInt8) :=
  ((query.splitOn '&').filter fun piece => piece ≠ []).map parameter

/-- What precedes the fragment. -/
def beforeFragment (text : List Char) : List Char := text.takeWhile (· != '#')

def query (url : List Char) : List Char := ((splitOnce '?' (beforeFragment url)).map Prod.snd).getD []

/-! ### Percent-decoding -/

theorem decodeFrom_drop (skip : Nat) (text : List Char) : decodeFrom skip text = decode (text.drop skip) := by
  induction text generalizing skip with
  | nil => cases skip <;> rfl
  | cons c rest ih =>
    cases skip with
    | zero => rfl
    | succ skip =>
      rw [decodeFrom, ih, List.drop_succ_cons]

theorem decode_nil : decode [] = [] := rfl

theorem decode_char (plain : c ≠ '%') (rest : List Char) : decode (c :: rest) = String.utf8EncodeChar c ++ decode rest := by
  have other : (c == '%') = false := beq_eq_false_iff_ne.mpr plain
  rw [decode, decodeFrom, other]
  cases hexByte? rest <;> rfl

theorem decode_escape {byte : UInt8} (escape : hexByte? rest = some byte) :
    decode ('%' :: rest) = byte :: decode (rest.drop 2) := by
  rw [decode, decodeFrom, escape, ← decodeFrom_drop]
  rfl

theorem decode_percent (bare : hexByte? rest = none) : decode ('%' :: rest) = 37 :: decode rest := by
  rw [decode, decodeFrom, bare]
  rfl

theorem hexByte?_append (stop : hexDigit c = none) (text more : List Char) :
    hexByte? (text ++ c :: more) = hexByte? text := by
  match text with
  | [] =>
    cases more with
    | nil => rfl
    | cons d more => rw [List.nil_append, hexByte?, stop]; rfl
  | [a] => rw [List.cons_append, List.nil_append, hexByte?, stop]; cases hexDigit a <;> rfl
  | a :: b :: rest => rfl

theorem length_of_hexByte? {byte : UInt8} (escape : hexByte? rest = some byte) : 2 ≤ rest.length := by
  match rest with
  | [] => cases escape
  | [a] => cases escape
  | a :: b :: rest => rw [List.length_cons, List.length_cons]; omega

/-- A character that is no digit ends an escape. -/
theorem decode_append (stop : hexDigit c = none) (text more : List Char) :
    decode (text ++ c :: more) = decode text ++ decode (c :: more) := by
  induction length : text.length using Nat.strong_induction_on generalizing text with
  | _ n ih =>
    match text with
    | [] => rfl
    | d :: rest =>
      rw [List.length_cons] at length
      by_cases percent : d = '%'
      · subst percent
        have same := hexByte?_append stop rest more
        cases escape : hexByte? rest with
        | none =>
          rw [escape] at same
          rw [List.cons_append, decode_percent same, decode_percent escape, ih _ (by omega) rest rfl, List.cons_append]
        | some byte =>
          rw [escape] at same
          have long := length_of_hexByte? escape
          have shorter : (rest.drop 2).length < n := by rw [List.length_drop]; omega
          rw [List.cons_append, decode_escape same, decode_escape escape, List.drop_append_of_le_length long,
            ih _ shorter (rest.drop 2) rfl, List.cons_append]
      · rw [List.cons_append, decode_char percent, decode_char percent, ih _ (by omega) rest rfl, List.append_assoc]

theorem utf8EncodeChar_pos (c : Char) : 0 < (String.utf8EncodeChar c).length := by
  rw [String.length_utf8EncodeChar]
  exact c.utf8Size_pos

theorem utf8_cons (c : Char) (text : List Char) : utf8 (c :: text) = String.utf8EncodeChar c ++ utf8 text := List.flatMap_cons ..

/-- Every character takes a byte. -/
theorem utf8_length_le (text : List Char) : text.length ≤ (utf8 text).length := by
  induction text with
  | nil => exact Nat.le_refl 0
  | cons c rest ih =>
    have size := utf8EncodeChar_pos c
    rw [utf8_cons, List.length_append, List.length_cons]
    omega

theorem utf8_drop_add_le {n : Nat} (long : n ≤ text.length) : (utf8 (text.drop n)).length + n ≤ (utf8 text).length := by
  have whole := congrArg (fun text => (utf8 text).length) (List.take_append_drop n text)
  have front := utf8_length_le (text.take n)
  rw [List.length_take, min_eq_left long] at front
  simp only [utf8, List.flatMap_append, List.length_append] at whole front ⊢
  omega

/-! ### Parameters -/

theorem parameters_append (text more : List Char) : parameters (text ++ '&' :: more) = parameters text ++ parameters more := by
  rw [parameters, List.splitOn_append_cons_self, List.filter_append, List.map_append]
  rfl

theorem parameters_nil : parameters [] = [] := rfl

/-- An empty piece is no parameter. -/
theorem parameters_joint (text : List Char) : parameters ('&' :: text) = parameters text := parameters_append [] text

theorem parameters_piece (plain : '&' ∉ piece) (some : piece ≠ []) : parameters piece = [parameter piece] := by
  rw [parameters, List.splitOn_eq_singleton plain]
  simp [some]

theorem splitOnce_append {sep : Char} (plain : sep ∉ text) (more : List Char) :
    splitOnce sep (text ++ sep :: more) = some (text, more) := by
  induction text with
  | nil => rw [List.nil_append, splitOnce, if_pos rfl]
  | cons c rest ih =>
    obtain ⟨apart, plain⟩ := List.ne_and_not_mem_of_not_mem_cons plain
    rw [List.cons_append, splitOnce, if_neg apart.symm, ih plain]
    rfl

theorem splitOnce_none {sep : Char} (none : splitOnce sep text = none) : sep ∉ text := by
  induction text with
  | nil => exact List.not_mem_nil
  | cons c rest ih =>
    rw [splitOnce] at none
    split at none
    · cases none
    next apart => exact List.not_mem_cons_of_ne_of_not_mem (Ne.symm apart) (ih (Option.map_eq_none_iff.mp none))

theorem splitOnce_some {sep : Char} {front back : List Char} (parts : splitOnce sep text = some (front, back)) :
    text = front ++ sep :: back ∧ sep ∉ front := by
  induction text generalizing front with
  | nil => cases parts
  | cons c rest ih =>
    rw [splitOnce] at parts
    split at parts
    next same =>
      obtain ⟨rfl, rfl⟩ := Prod.mk.inj (Option.some.inj parts)
      exact ⟨by rw [same]; rfl, List.not_mem_nil⟩
    next apart =>
      obtain ⟨⟨first, second⟩, inner, whole⟩ := Option.map_eq_some_iff.mp parts
      obtain ⟨rfl, rfl⟩ := Prod.mk.inj whole
      obtain ⟨shape, plain⟩ := ih inner
      exact ⟨by rw [shape]; rfl, List.not_mem_cons_of_ne_of_not_mem (Ne.symm apart) plain⟩

theorem splitOnce_absent {sep : Char} (plain : sep ∉ text) : splitOnce sep text = none := by
  cases parts : splitOnce sep text with
  | none => rfl
  | some found =>
    obtain ⟨shape, -⟩ := splitOnce_some parts
    refine absurd ?_ plain
    rw [shape]
    exact List.mem_append_right _ (List.mem_cons_self ..)

/-- What comes behind a text only changes its last piece. -/
theorem parameters_last (text : List Char) :
    ∃ lead last, '&' ∉ last ∧ ∀ more, parameters (text ++ more) = lead ++ parameters (last ++ more) := by
  induction length : text.length using Nat.strong_induction_on generalizing text with
  | _ n ih =>
    cases parts : splitOnce '&' text with
    | none => exact ⟨[], text, splitOnce_none parts, fun more => rfl⟩
    | some found =>
      obtain ⟨front, back⟩ := found
      obtain ⟨rfl, -⟩ := splitOnce_some parts
      have shorter : back.length < n := by
        rw [← length, List.length_append, List.length_cons]
        omega
      obtain ⟨lead, last, plain, reads⟩ := ih _ shorter back rfl
      refine ⟨parameters front ++ lead, last, plain, fun more => ?_⟩
      rw [List.append_assoc, List.cons_append, parameters_append, reads, List.append_assoc]

theorem parameter_value (plain : '=' ∉ name) (value : List Char) :
    parameter (name ++ '=' :: value) = (decode name, decode value) := by
  rw [parameter, splitOnce_append plain]

/-- A piece does not stay the same parameter when more, which is no digit, comes with another value behind it. -/
theorem parameter_grown (stop : hexDigit c = none) (piece : List Char) {value : List Char} (some : decode value ≠ [])
    (plain : '=' ∉ name) (apart : c ≠ '=') : parameter (piece ++ c :: (name ++ '=' :: value)) ≠ parameter piece := by
  intro same
  cases parts : splitOnce '=' piece with
  | none =>
    have bare : '=' ∉ piece ++ c :: name := by
      intro inside
      rcases List.mem_append.mp inside with inside | inside
      · exact splitOnce_none parts inside
      · rcases List.mem_cons.mp inside with rfl | inside
        · exact apart rfl
        · exact plain inside
    have grown := parameter_value bare value
    rw [List.append_assoc, List.cons_append] at grown
    rw [grown, parameter, parts] at same
    exact some (congrArg Prod.snd same)
  | some found =>
    obtain ⟨front, back⟩ := found
    obtain ⟨rfl, bare⟩ := splitOnce_some parts
    rw [List.append_assoc, List.cons_append, parameter_value bare, parameter_value bare] at same
    have values : decode (back ++ c :: (name ++ '=' :: value)) = decode back := congrArg Prod.snd same
    have lengths := congrArg List.length values
    have more : 0 < (decode (c :: (name ++ '=' :: value))).length := by
      by_cases percent : c = '%'
      · subst percent
        cases escape : hexByte? (name ++ '=' :: value) with
        | none => rw [decode_percent escape]; exact Nat.succ_pos _
        | some byte => rw [decode_escape escape]; exact Nat.succ_pos _
      · rw [decode_char percent, List.length_append]
        have first := utf8EncodeChar_pos c
        omega
    rw [decode_append stop, List.length_append] at lengths
    omega

end QueryString
