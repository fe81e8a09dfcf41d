import Allgres.Web.Http

/-! Percent-encoded text: the two decoders of the web worker against the encoding they undo. -/

namespace Allgres

open Utf8

/-! ### The encoding -/

/-- A percent sign with two hexadecimal digits stands for a byte, and a plus sign for a space. -/
def referenceBytes : List UInt8 → List UInt8
  | [] => []
  | 37 :: a :: b :: rest => match hexValue a, hexValue b with
    | some high, some low => UInt8.ofNat (high * 16 + low) :: referenceBytes rest
    | _, _ => 37 :: referenceBytes (a :: b :: rest)
  | b :: rest => (if b = 43 then 32 else b) :: referenceBytes rest

def referenceDecode (text : String) : String := decodeLossy (referenceBytes (encode text))

def upperHex (value : Nat) : Char := if value < 10 then Char.ofNat (48 + value) else Char.ofNat (55 + value)

/-- Letters, digits and four signs stay, a space becomes a plus sign, and any other byte an escape. -/
def formEncodeByte (b : UInt8) : List Char :=
  let n := b.toNat
  if n = 32 then ['+']
  else if (48 ≤ n ∧ n ≤ 57) ∨ (65 ≤ n ∧ n ≤ 90) ∨ (97 ≤ n ∧ n ≤ 122) ∨ n = 42 ∨ n = 45 ∨ n = 46 ∨ n = 95 then [Char.ofNat n]
  else ['%', upperHex (n / 16), upperHex (n % 16)]

/-- The `application/x-www-form-urlencoded` encoding of a text. -/
def formEncode (text : String) : String := String.ofList ((encode text).flatMap formEncodeByte)

/-! ### The two loops -/

variable {a b : UInt8} {rest bytes : List UInt8}

theorem percentBytes_plain (plain : b ≠ 37) (rest : List UInt8) :
    percentBytes (b :: rest) = (if b = 43 then 32 else b) :: percentBytes rest := by
  rw [percentBytes]
  exact fun _ _ _ same => absurd same plain

theorem formBytes_plain (plain : b ≠ 37) (rest : List UInt8) :
    formBytes (b :: rest) = (if b = 43 then 32 else b) :: formBytes rest := by
  rcases Decidable.em (b = 43) with rfl | other
  · rfl
  · rw [formBytes, if_neg other]
    · exact fun same => absurd same other
    · exact fun _ _ _ same => absurd same plain

theorem referenceBytes_plain (plain : b ≠ 37) (rest : List UInt8) :
    referenceBytes (b :: rest) = (if b = 43 then 32 else b) :: referenceBytes rest := by
  rw [referenceBytes]
  exact fun _ _ _ same => absurd same plain

/-- The order of the cases makes no difference. -/
theorem formBytes_eq (bytes : List UInt8) : formBytes bytes = percentBytes bytes := by
  induction bytes using percentBytes.induct with
  | case1 => rfl
  | case2 a b rest byte pair ih => rw [formBytes, percentBytes, pair, ih]
  | case3 a b rest pair ih => rw [formBytes, percentBytes, pair, ih]
  | case4 b rest short ih =>
    rcases Decidable.em (b = 37) with rfl | plain
    · match rest, short with
      | [], _ => rfl
      | [c], _ =>
        have last : formBytes [c] = percentBytes [c] := ih
        show 37 :: formBytes [c] = 37 :: percentBytes [c]
        rw [last]
      | c :: d :: rest, short => exact absurd rfl (short c d rest rfl)
    · rw [formBytes_plain plain, percentBytes_plain plain, ih]

/-! ### Signed escapes -/

/-- A percent sign in front of a plus sign and a hexadecimal digit. -/
def signedEscape : List UInt8 → Bool
  | 37 :: 43 :: b :: _ => (hexValue b).isSome
  | _ => false

/-- How many there are. -/
def signedEscapes : List UInt8 → Nat
  | [] => 0
  | b :: rest => (if signedEscape (b :: rest) then 1 else 0) + signedEscapes rest

theorem signedEscapes_plain (plain : b ≠ 37) (rest : List UInt8) : signedEscapes (b :: rest) = signedEscapes rest := by
  have none : signedEscape (b :: rest) = false := by
    rw [signedEscape.eq_def]
    split
    next same => exact absurd (List.cons.inj same).1 plain
    next => rfl
  rw [signedEscapes, none]
  exact Nat.zero_add _

theorem hexValue_ne {value : Nat} (digit : hexValue b = some value) : b ≠ 37 ∧ b ≠ 43 ∧ value < 16 := by
  refine ⟨?_, ?_, ?_⟩
  · rintro rfl
    cases digit
  · rintro rfl
    cases digit
  · simp only [hexValue] at digit
    split at digit
    · obtain rfl := Option.some.inj digit
      omega
    · split at digit
      · obtain rfl := Option.some.inj digit
        omega
      · split at digit
        · obtain rfl := Option.some.inj digit
          omega
        · cases digit

theorem hexPair_cases (a b : UInt8) (rest : List UInt8) :
    (∃ value, a = 43 ∧ hexValue b = some value ∧ hexPair a b = some (UInt8.ofNat value)) ∨
    (∃ high low, hexValue a = some high ∧ hexValue b = some low ∧ hexPair a b = some (UInt8.ofNat (high * 16 + low))) ∨
    (hexPair a b = none ∧ signedEscape (37 :: a :: b :: rest) = false ∧ (hexValue a = none ∨ hexValue b = none)) := by
  rcases Decidable.em (a = 43) with rfl | unsigned
  · cases digit : hexValue b with
    | none =>
      refine .inr (.inr ⟨?_, ?_, .inl rfl⟩)
      · rw [hexPair, if_pos rfl, digit]
        rfl
      · rw [signedEscape, digit]
        rfl
    | some value =>
      refine .inl ⟨value, rfl, rfl, ?_⟩
      rw [hexPair, if_pos rfl, digit]
      rfl
  · have other : signedEscape (37 :: a :: b :: rest) = false := by
      rw [signedEscape.eq_def]
      split
      next same => exact absurd (List.cons.inj (List.cons.inj same).2).1 unsigned
      next => rfl
    cases high : hexValue a with
    | none =>
      refine .inr (.inr ⟨?_, other, .inl rfl⟩)
      rw [hexPair, if_neg unsigned, high]
    | some high' =>
      cases low : hexValue b with
      | none =>
        refine .inr (.inr ⟨?_, other, .inr rfl⟩)
        rw [hexPair, if_neg unsigned, high, low]
      | some low' =>
        refine .inr (.inl ⟨high', low', rfl, rfl, ?_⟩)
        rw [hexPair, if_neg unsigned, high, low]

theorem signedEscapes_short (short : ∀ c d more, rest = c :: d :: more → b ≠ 37) :
    signedEscapes (b :: rest) = signedEscapes rest := by
  have none : signedEscape (b :: rest) = false := by
    rw [signedEscape.eq_def]
    split
    next c more same =>
      obtain ⟨rfl, shape⟩ := List.cons.inj same
      exact absurd rfl (short _ _ _ shape)
    next => rfl
  rw [signedEscapes, none]
  exact Nat.zero_add _

theorem referenceBytes_none (none : hexValue a = none ∨ hexValue b = none) (rest : List UInt8) :
    referenceBytes (37 :: a :: b :: rest) = 37 :: referenceBytes (a :: b :: rest) := by
  rw [referenceBytes]
  split
  next high low =>
    rcases none with none | none
    · rw [none] at high
      cases high
    · rw [none] at low
      cases low
  next => rfl

/-- The loop follows the reference but for signed escapes, each of which costs a percent sign. -/
theorem percentBytes_reference (bytes : List UInt8) :
    (signedEscapes bytes = 0 → percentBytes bytes = referenceBytes bytes) ∧
    (referenceBytes bytes).count 37 = (percentBytes bytes).count 37 + signedEscapes bytes := by
  induction bytes using percentBytes.induct with
  | case1 => exact ⟨fun _ => rfl, rfl⟩
  | case2 a b rest byte pair ih =>
    rcases hexPair_cases a b rest with ⟨value, rfl, digit, read⟩ | ⟨high, low, first, second, read⟩ | ⟨read, -⟩
    · obtain ⟨plain, unsigned, small⟩ := hexValue_ne digit
      have signed : signedEscapes (37 :: 43 :: b :: rest) = 1 + signedEscapes rest := by
        have found : signedEscape (37 :: 43 :: b :: rest) = true := by
          rw [signedEscape, digit]
          rfl
        rw [signedEscapes, found, signedEscapes_plain (by decide), signedEscapes_plain plain]
        rfl
      have kept : referenceBytes (37 :: 43 :: b :: rest) = 37 :: 32 :: b :: referenceBytes rest := by
        rw [referenceBytes_none (.inl rfl), referenceBytes_plain (by decide), referenceBytes_plain plain, if_neg unsigned]
        rfl
      have byteless : (UInt8.ofNat value == 37) = false := by
        rw [beq_eq_false_iff_ne]
        intro same
        have values := congrArg UInt8.toNat same
        rw [UInt8.toNat_ofNat_of_lt' (Nat.lt_trans small (by decide))] at values
        have known : (37 : UInt8).toNat = 37 := rfl
        omega
      rw [signed, kept, percentBytes, read]
      refine ⟨fun none => by omega, ?_⟩
      have digits : (b == 37) = false := beq_eq_false_iff_ne.mpr plain
      simp only [List.count_cons, ih.2, byteless, digits]
      simp
      omega
    · obtain ⟨plain, -⟩ := hexValue_ne first
      obtain ⟨plain', -⟩ := hexValue_ne second
      have unsigned := (hexValue_ne first).2.1
      have signed : signedEscapes (37 :: a :: b :: rest) = signedEscapes rest := by
        have none : signedEscape (37 :: a :: b :: rest) = false := by
          rw [signedEscape.eq_def]
          split
          next same => exact absurd (List.cons.inj (List.cons.inj same).2).1 unsigned
          next => rfl
        rw [signedEscapes, none, signedEscapes_plain plain, signedEscapes_plain plain']
        exact Nat.zero_add _
      rw [signed, percentBytes, read, referenceBytes, first, second]
      refine ⟨fun none => by simp only [ih.1 none], ?_⟩
      simp only [List.count_cons, ih.2]
      omega
    · rw [read] at pair
      cases pair
  | case3 a b rest pair ih =>
    rcases hexPair_cases a b rest with ⟨value, -, -, read⟩ | ⟨high, low, -, -, read⟩ | ⟨-, unsigned, none⟩
    · rw [read] at pair
      cases pair
    · rw [read] at pair
      cases pair
    · have signed : signedEscapes (37 :: a :: b :: rest) = signedEscapes (a :: b :: rest) := by
        rw [signedEscapes, unsigned]
        exact Nat.zero_add _
      rw [signed, percentBytes, pair, referenceBytes_none none]
      refine ⟨fun none => by simp only [ih.1 none], ?_⟩
      simp only [List.count_cons, ih.2]
      omega
  | case4 b rest short ih =>
    have signed : signedEscapes (b :: rest) = signedEscapes rest :=
      signedEscapes_short fun c d more shape same => short c d more same shape
    have plain : percentBytes (b :: rest) = (if b = 43 then 32 else b) :: percentBytes rest := by
      rw [percentBytes]
      exact short
    have kept : referenceBytes (b :: rest) = (if b = 43 then 32 else b) :: referenceBytes rest := by
      rw [referenceBytes]
      exact short
    rw [signed, plain, kept]
    refine ⟨fun none => by rw [ih.1 none], ?_⟩
    simp only [List.count_cons, ih.2]
    omega

theorem percentDecode_reference_iff (text : String) :
    percentDecode text = referenceDecode text ↔ signedEscapes (encode text) = 0 := by
  obtain ⟨same, counts⟩ := percentBytes_reference (encode text)
  constructor
  · intro decoded
    have percents := congrArg (fun text => text.toList.count '%') decoded
    have left := count_decodeLossy (c := '%') (by decide) (by decide) (percentBytes (encode text))
    have right := count_decodeLossy (c := '%') (by decide) (by decide) (referenceBytes (encode text))
    have byte : UInt8.ofNat '%'.toNat = 37 := rfl
    rw [byte] at left right
    simp only [percentDecode, referenceDecode] at percents
    omega
  · intro none
    rw [percentDecode, referenceDecode, same none]

/-! ### Decoding what was encoded -/

theorem hexValue_upperHex : ∀ value < 16, hexValue (UInt8.ofNat (upperHex value).toNat) = some value ∧
    (upperHex value).toNat < 128 ∧ UInt8.ofNat (upperHex value).toNat ≠ 43 := by decide

/-- The bytes of an encoded byte are decoded to that byte. -/
theorem percentBytes_formEncodeByte (b : UInt8) (rest : List UInt8) :
    percentBytes (encode (String.ofList (formEncodeByte b)) ++ rest) = b :: percentBytes rest := by
  have small : b.toNat < 256 := b.toNat_lt
  have back : UInt8.ofNat b.toNat = b := UInt8.ofNat_toNat
  rw [formEncodeByte]
  split
  next space =>
    have same : b = 32 := by rw [← back, space]; rfl
    rw [same]
    rfl
  next =>
    split
    next kept =>
      have ascii : (Char.ofNat b.toNat).toNat = b.toNat := by
        rw [Char.ofNat, dif_pos (Or.inl (by omega))]
        rfl
      have single : encode (String.ofList [Char.ofNat b.toNat]) = [b] := by
        rw [encode_cons, encodeChar_ascii (by omega), ascii, back]
        rfl
      have percent : b ≠ 37 := by
        rintro rfl
        revert kept
        decide
      have plus : b ≠ 43 := by
        rintro rfl
        revert kept
        decide
      rw [single, List.singleton_append, percentBytes_plain percent, if_neg plus]
    next =>
      obtain ⟨high, ascii, unsigned⟩ := hexValue_upperHex (b.toNat / 16) (by omega)
      obtain ⟨low, ascii', -⟩ := hexValue_upperHex (b.toNat % 16) (by omega)
      have bytes : encode (String.ofList ['%', upperHex (b.toNat / 16), upperHex (b.toNat % 16)]) =
          [37, UInt8.ofNat (upperHex (b.toNat / 16)).toNat, UInt8.ofNat (upperHex (b.toNat % 16)).toNat] := by
        rw [encode_cons, encode_cons, encode_cons, encodeChar_ascii ascii, encodeChar_ascii ascii']
        rfl
      have pair : hexPair (UInt8.ofNat (upperHex (b.toNat / 16)).toNat) (UInt8.ofNat (upperHex (b.toNat % 16)).toNat) =
          some b := by
        rw [hexPair, if_neg unsigned, high, low]
        have whole : b.toNat / 16 * 16 + b.toNat % 16 = b.toNat := by omega
        simp only [whole, back]
      rw [bytes]
      simp only [List.cons_append, List.nil_append, percentBytes, pair]

theorem percentBytes_formEncode (bytes : List UInt8) :
    percentBytes (encode (String.ofList (bytes.flatMap formEncodeByte))) = bytes := by
  induction bytes with
  | nil => rfl
  | cons b bytes ih => rw [List.flatMap_cons, encode_append, percentBytes_formEncodeByte, ih]

/-- Both decoders of the worker are the same function. It is the reference decoder on
the texts where no percent sign stands in front of a plus sign and a hexadecimal digit,
and it gives back every text from its encoding. -/
theorem percentDecode_exact_iff (text : String) :
    (percentDecode text = formDecode text ∧ percentDecode text = referenceDecode text ↔ signedEscapes (encode text) = 0) ∧
    percentDecode text = formDecode text ∧ percentDecode (formEncode text) = text := by
  have same : percentDecode text = formDecode text := by rw [percentDecode, formDecode, formBytes_eq]
  refine ⟨?_, same, ?_⟩
  · rw [← percentDecode_reference_iff]
    exact ⟨And.right, fun decoded => ⟨same, decoded⟩⟩
  · rw [percentDecode, formEncode, percentBytes_formEncode, decodeLossy_encode]

/-- A sign is taken for a digit. -/
theorem not_percentDecode_exact : ¬ ∀ text, percentDecode text = referenceDecode text := by
  intro exact
  exact absurd (exact "100%+5") (by decide +kernel)

end Allgres
