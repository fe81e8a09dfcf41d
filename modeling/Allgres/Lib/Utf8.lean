import Mathlib.Algebra.Group.Nat.Defs
import Mathlib.Data.List.Count

/-! UTF-8 text as bytes: its encoding, and the decoding that replaces what is not UTF-8. -/

namespace Utf8

def encode (text : String) : List UInt8 := text.toList.flatMap String.utf8EncodeChar

/-- How a character that has begun goes on: the number of bytes that are still to
come, the bounds of the next one, and the bits so far. -/
structure Pending where
  owed : Nat
  low : UInt8
  high : UInt8
  bits : Nat

def replacement : Char := Char.ofNat 0xFFFD

/-- What a first byte is by itself: a character, a part of one, or neither. -/
def first (b : UInt8) : List Char × Option Pending :=
  let n := b.toNat
  if n < 0x80 then ([Char.ofNat n], none)
  else if 0xC2 ≤ n ∧ n ≤ 0xDF then ([], some ⟨1, 0x80, 0xBF, n - 0xC0⟩)
  else if n = 0xE0 then ([], some ⟨2, 0xA0, 0xBF, 0⟩)
  else if n = 0xED then ([], some ⟨2, 0x80, 0x9F, 0xD⟩)
  else if 0xE1 ≤ n ∧ n ≤ 0xEF then ([], some ⟨2, 0x80, 0xBF, n - 0xE0⟩)
  else if n = 0xF0 then ([], some ⟨3, 0x90, 0xBF, 0⟩)
  else if n = 0xF4 then ([], some ⟨3, 0x80, 0x8F, 4⟩)
  else if 0xF1 ≤ n ∧ n ≤ 0xF3 then ([], some ⟨3, 0x80, 0xBF, n - 0xF0⟩)
  else ([replacement], none)

/-- One byte. A character that breaks off is replaced, and the byte begins another. -/
def step : Option Pending → UInt8 → List Char × Option Pending
  | none, b => first b
  | some pending, b =>
    if pending.low ≤ b ∧ b ≤ pending.high then
      let bits := pending.bits * 64 + (b.toNat - 0x80)
      if pending.owed = 1 then ([Char.ofNat bits], none) else ([], some ⟨pending.owed - 1, 0x80, 0xBF, bits⟩)
    else
      let (out, next) := first b
      (replacement :: out, next)

def decodeFrom : Option Pending → List UInt8 → List Char
  | none, [] => []
  | some _, [] => [replacement]
  | pending, b :: rest =>
    let (out, next) := step pending b
    out ++ decodeFrom next rest

/-- `String::from_utf8_lossy`. -/
def decodeLossy (bytes : List UInt8) : String := String.ofList (decodeFrom none bytes)

example : decodeLossy [0xE2, 0x82, 0xAC, 0x41, 0xE2, 0x82, 0x42, 0xFF] = "€A�B�" := by decide +kernel

/-! ### The bytes of a character -/

variable {c : Char} {n : Nat} {b : UInt8} {bytes : List UInt8} {pending : Pending}

theorem encodeChar_ascii (ascii : c.toNat < 128) : String.utf8EncodeChar c = [UInt8.ofNat c.toNat] :=
  if_pos (Nat.le_of_lt_succ ascii)

/-- A byte of a character that is not ASCII is none of an ASCII character. -/
theorem encodeChar_high (high : 128 ≤ c.toNat) : ∀ b ∈ String.utf8EncodeChar c, 128 ≤ b.toNat := by
  have large : ¬ c.val.toNat ≤ 0x7f := by
    have same : c.val.toNat = c.toNat := rfl
    omega
  have lead (bits front : Nat) (lower : 128 ≤ front) (upper : bits + front < 256) :
      128 ≤ (UInt8.ofNat (bits + front)).toNat := by
    rw [UInt8.toNat_ofNat_of_lt' upper]
    omega
  intro b inside
  rw [String.utf8EncodeChar] at inside
  simp only [large, if_false] at inside
  split at inside
  · simp only [List.mem_cons, List.not_mem_nil, or_false] at inside
    rcases inside with rfl | rfl <;>
      · exact lead _ _ (by decide) (by omega)
  · split at inside
    · simp only [List.mem_cons, List.not_mem_nil, or_false] at inside
      rcases inside with rfl | rfl | rfl <;>
        · exact lead _ _ (by decide) (by omega)
    · simp only [List.mem_cons, List.not_mem_nil, or_false] at inside
      rcases inside with rfl | rfl | rfl | rfl <;>
        · exact lead _ _ (by decide) (by omega)

theorem encode_cons (c : Char) (text : List Char) :
    encode (String.ofList (c :: text)) = String.utf8EncodeChar c ++ encode (String.ofList text) := by
  rw [encode, encode, String.toList_ofList, String.toList_ofList, List.flatMap_cons]

theorem encode_append (text more : List Char) :
    encode (String.ofList (text ++ more)) = encode (String.ofList text) ++ encode (String.ofList more) := by
  simp only [encode, String.toList_ofList, List.flatMap_append]

/-! ### Decoding what was encoded -/

theorem first_ofNat (small : n < 256) : first (UInt8.ofNat n) =
    if n < 0x80 then ([Char.ofNat n], none)
    else if 0xC2 ≤ n ∧ n ≤ 0xDF then ([], some ⟨1, 0x80, 0xBF, n - 0xC0⟩)
    else if n = 0xE0 then ([], some ⟨2, 0xA0, 0xBF, 0⟩)
    else if n = 0xED then ([], some ⟨2, 0x80, 0x9F, 0xD⟩)
    else if 0xE1 ≤ n ∧ n ≤ 0xEF then ([], some ⟨2, 0x80, 0xBF, n - 0xE0⟩)
    else if n = 0xF0 then ([], some ⟨3, 0x90, 0xBF, 0⟩)
    else if n = 0xF4 then ([], some ⟨3, 0x80, 0x8F, 4⟩)
    else if 0xF1 ≤ n ∧ n ≤ 0xF3 then ([], some ⟨3, 0x80, 0xBF, n - 0xF0⟩)
    else ([replacement], none) := by
  rw [first, UInt8.toNat_ofNat_of_lt' small]

theorem decodeFrom_first (rest : List UInt8) : decodeFrom none (b :: rest) = (first b).1 ++ decodeFrom (first b).2 rest := rfl

theorem decodeFrom_later {owed bits : Nat} {low high : UInt8} (small : n < 256) (lower : low.toNat ≤ n) (upper : n ≤ high.toNat)
    (rest : List UInt8) : decodeFrom (some ⟨owed, low, high, bits⟩) (UInt8.ofNat n :: rest) =
      if owed = 1 then Char.ofNat (bits * 64 + (n - 0x80)) :: decodeFrom none rest
      else decodeFrom (some ⟨owed - 1, 0x80, 0xBF, bits * 64 + (n - 0x80)⟩) rest := by
  have within : low ≤ UInt8.ofNat n ∧ UInt8.ofNat n ≤ high := by
    rw [UInt8.le_iff_toNat_le, UInt8.le_iff_toNat_le, UInt8.toNat_ofNat_of_lt' small]
    exact ⟨lower, upper⟩
  have stepped : step (some ⟨owed, low, high, bits⟩) (UInt8.ofNat n) =
      if owed = 1 then ([Char.ofNat (bits * 64 + (n - 0x80))], none)
      else ([], some ⟨owed - 1, 0x80, 0xBF, bits * 64 + (n - 0x80)⟩) := by
    rw [step, if_pos within, UInt8.toNat_ofNat_of_lt' small]
  have unfolded : decodeFrom (some ⟨owed, low, high, bits⟩) (UInt8.ofNat n :: rest) =
      (step (some ⟨owed, low, high, bits⟩) (UInt8.ofNat n)).1 ++
        decodeFrom (step (some ⟨owed, low, high, bits⟩) (UInt8.ofNat n)).2 rest := rfl
  rw [unfolded, stepped]
  split
  · rfl
  · rfl

/-- The further bytes of a character, six bits each. -/
theorem decodeFrom_last {bits : Nat} {low high : UInt8} (small : n < 256) (lower : low.toNat ≤ n) (upper : n ≤ high.toNat)
    (rest : List UInt8) : decodeFrom (some ⟨1, low, high, bits⟩) (UInt8.ofNat n :: rest) =
      Char.ofNat (bits * 64 + (n - 0x80)) :: decodeFrom none rest := decodeFrom_later small lower upper rest

theorem decodeFrom_encodeChar (c : Char) (rest : List UInt8) :
    decodeFrom none (String.utf8EncodeChar c ++ rest) = c :: decodeFrom none rest := by
  have scalar : c.toNat < 0xD800 ∨ (0xDFFF < c.toNat ∧ c.toNat < 0x110000) := c.valid
  have back (bits : Nat) (same : bits = c.toNat) : Char.ofNat bits = c := by
    rw [same]
    exact Char.ofNat_toNat c
  have code : c.val.toNat = c.toNat := rfl
  rw [String.utf8EncodeChar]
  simp only [code]
  generalize c.toNat = v at *
  split
  next one =>
    rw [List.singleton_append, decodeFrom_first, first_ofNat (by omega), if_pos (by omega), back v rfl]
    rfl
  next =>
    split
    next two =>
      rw [List.cons_append, List.singleton_append, decodeFrom_first, first_ofNat (by omega), if_neg (by omega),
        if_pos (by omega), List.nil_append, decodeFrom_last (by omega) (by simp) (by simp; omega), back _ (by omega)]
    next =>
      split
      next three =>
        rw [List.cons_append, List.cons_append, List.singleton_append, decodeFrom_first, first_ofNat (by omega),
          if_neg (by omega), if_neg (by omega)]
        by_cases low : v / 4096 = 0
        · rw [if_pos (by omega), List.nil_append, decodeFrom_later (by omega) (by simp; omega) (by simp; omega),
            if_neg (by decide), decodeFrom_last (by omega) (by simp) (by simp; omega), back _ (by omega)]
        · by_cases last : v / 4096 = 13
          · rw [if_neg (by omega), if_pos (by omega), List.nil_append, decodeFrom_later (by omega) (by simp)
              (by simp; omega), if_neg (by decide), decodeFrom_last (by omega) (by simp) (by simp; omega), back _ (by omega)]
          · rw [if_neg (by omega), if_neg (by omega), if_pos (by omega), List.nil_append, decodeFrom_later (by omega)
              (by simp) (by simp; omega), if_neg (by decide), decodeFrom_last (by omega) (by simp) (by simp; omega),
              back _ (by omega)]
      next four =>
        rw [List.cons_append, List.cons_append, List.cons_append, List.singleton_append, decodeFrom_first,
          first_ofNat (by omega), if_neg (by omega), if_neg (by omega), if_neg (by omega), if_neg (by omega),
          if_neg (by omega)]
        by_cases low : v / 262144 = 0
        · rw [if_pos (by omega), List.nil_append, decodeFrom_later (by omega) (by simp; omega) (by simp; omega),
            if_neg (by decide), decodeFrom_later (by omega) (by simp) (by simp; omega), if_neg (by decide),
            decodeFrom_last (by omega) (by simp) (by simp; omega), back _ (by omega)]
        · by_cases last : v / 262144 = 4
          · rw [if_neg (by omega), if_pos (by omega), List.nil_append, decodeFrom_later (by omega) (by simp) (by simp; omega),
              if_neg (by decide), decodeFrom_later (by omega) (by simp) (by simp; omega), if_neg (by decide),
              decodeFrom_last (by omega) (by simp) (by simp; omega), back _ (by omega)]
          · rw [if_neg (by omega), if_neg (by omega), if_pos (by omega), List.nil_append, decodeFrom_later (by omega)
              (by simp) (by simp; omega), if_neg (by decide), decodeFrom_later (by omega) (by simp) (by simp; omega),
              if_neg (by decide), decodeFrom_last (by omega) (by simp) (by simp; omega), back _ (by omega)]

theorem decodeFrom_encode (text : List Char) (rest : List UInt8) :
    decodeFrom none (encode (String.ofList text) ++ rest) = text ++ decodeFrom none rest := by
  induction text with
  | nil => rfl
  | cons c text ih => rw [encode_cons, List.append_assoc, decodeFrom_encodeChar, ih, List.cons_append]

theorem decodeLossy_encode (text : String) : decodeLossy (encode text) = text := by
  have read := decodeFrom_encode text.toList []
  have last : decodeFrom none [] = [] := rfl
  rw [String.ofList_toList, List.append_nil, last, List.append_nil] at read
  rw [decodeLossy, read, String.ofList_toList]

/-! ### ASCII in what is decoded -/

/-- The bits that are still to come make no ASCII character. -/
def Pending.Wide (pending : Pending) : Prop :=
  0 < pending.owed ∧ 128 ≤ pending.low.toNat ∧
    128 ≤ (pending.bits * 64 + (pending.low.toNat - 128)) * 64 ^ (pending.owed - 1)

theorem Pending.wide_mk {owed bits : Nat} {low high : UInt8} (owes : 0 < owed) (lower : 128 ≤ low.toNat)
    (large : 128 ≤ (bits * 64 + (low.toNat - 128)) * 64 ^ (owed - 1)) : (Pending.mk owed low high bits).Wide :=
  ⟨owes, lower, large⟩

theorem ofNat_ne (ascii : c.toNat < 128) (some : c ≠ '\x00') {bits : Nat} (high : 128 ≤ bits) : Char.ofNat bits ≠ c := by
  rintro rfl
  rcases Decidable.em bits.isValidChar with valid | invalid
  · have same : (Char.ofNat bits).toNat = bits := by
      rw [Char.ofNat, dif_pos valid]
      rfl
    omega
  · refine some ?_
    rw [Char.ofNat, dif_neg invalid]
    rfl

variable (ascii : c.toNat < 128) (some : c ≠ '\x00')

include ascii some

theorem count_high {bits : Nat} (high : 128 ≤ bits) : [Char.ofNat bits].count c = 0 :=
  List.count_eq_zero.mpr fun inside => ofNat_ne ascii some high (List.mem_singleton.mp inside).symm

omit some in
theorem count_byte_high (high : 128 ≤ b.toNat) : [b].count (UInt8.ofNat c.toNat) = 0 := by
  have back : (UInt8.ofNat c.toNat).toNat = c.toNat := UInt8.toNat_ofNat_of_lt' (Nat.lt_trans ascii (by decide))
  refine List.count_eq_zero.mpr fun inside => ?_
  rw [← List.mem_singleton.mp inside] at high
  omega

omit some in
theorem count_byte (b : UInt8) : [b].count (UInt8.ofNat c.toNat) = if b.toNat = c.toNat then 1 else 0 := by
  have back : (UInt8.ofNat c.toNat).toNat = c.toNat := UInt8.toNat_ofNat_of_lt' (Nat.lt_trans ascii (by decide))
  have same : (b == UInt8.ofNat c.toNat) = decide (b.toNat = c.toNat) := by
    rw [Bool.eq_iff_iff, beq_iff_eq, decide_eq_true_eq]
    constructor
    · rintro rfl
      exact back
    · intro values
      exact UInt8.toNat_inj.mp (values.trans back.symm)
  rw [List.count_singleton, same]
  simp only [decide_eq_true_eq]

/-- A first byte is the character, or none of it. -/
theorem first_spec (b : UInt8) : (first b).1.count c = [b].count (UInt8.ofNat c.toNat) ∧
    ∀ pending ∈ (first b).2, pending.Wide := by
  unfold first
  dsimp only
  split
  next low =>
    refine ⟨?_, fun _ some => (by cases some)⟩
    rw [count_byte ascii]
    have value : (Char.ofNat b.toNat).toNat = b.toNat := by
      rw [Char.ofNat, dif_pos (Or.inl (by omega))]
      rfl
    have same : Char.ofNat b.toNat = c ↔ b.toNat = c.toNat := by
      constructor
      · rintro rfl
        exact value.symm
      · intro same
        rw [same]
        exact Char.ofNat_toNat c
    rw [List.count_singleton]
    simp only [beq_iff_eq, same]
  next high =>
    rw [count_byte_high ascii (by omega)]
    have replaced : [replacement].count c = 0 := count_high ascii some (by decide)
    split
    · refine ⟨rfl, ?_⟩
      rintro _ ⟨⟩
      exact Pending.wide_mk (by decide) (by decide) (by simp; omega)
    split
    · refine ⟨rfl, ?_⟩
      rintro _ ⟨⟩
      exact Pending.wide_mk (by decide) (by decide) (by decide)
    split
    · refine ⟨rfl, ?_⟩
      rintro _ ⟨⟩
      exact Pending.wide_mk (by decide) (by decide) (by decide)
    split
    · refine ⟨rfl, ?_⟩
      rintro _ ⟨⟩
      exact Pending.wide_mk (by decide) (by decide) (by simp; omega)
    split
    · refine ⟨rfl, ?_⟩
      rintro _ ⟨⟩
      exact Pending.wide_mk (by decide) (by decide) (by decide)
    split
    · refine ⟨rfl, ?_⟩
      rintro _ ⟨⟩
      exact Pending.wide_mk (by decide) (by decide) (by decide)
    split
    · refine ⟨rfl, ?_⟩
      rintro _ ⟨⟩
      exact Pending.wide_mk (by decide) (by decide) (by simp; omega)
    · exact ⟨replaced, fun _ some => (by cases some)⟩

theorem step_spec {pending : Option Pending} (wide : ∀ p ∈ pending, p.Wide) (b : UInt8) :
    (step pending b).1.count c = [b].count (UInt8.ofNat c.toNat) ∧ ∀ p ∈ (step pending b).2, p.Wide := by
  cases pending with
  | none => exact first_spec ascii some b
  | some pending =>
    obtain ⟨owes, low, large⟩ := wide pending rfl
    rw [step]
    split
    next within =>
      have above : pending.low.toNat ≤ b.toNat := UInt8.le_iff_toNat_le.mp within.1
      rw [count_byte_high ascii (by omega)]
      dsimp only
      split
      next last =>
        rw [last] at large
        refine ⟨count_high ascii some ?_, nofun⟩
        omega
      next more =>
        refine ⟨rfl, ?_⟩
        rintro _ ⟨⟩
        refine ⟨by dsimp only; omega, by simp, ?_⟩
        have power : 64 ^ (pending.owed - 1) = 64 * 64 ^ (pending.owed - 1 - 1) := by
          rw [← Nat.pow_succ']
          congr 1
          omega
        have grown : pending.bits * 64 + (pending.low.toNat - 128) ≤ pending.bits * 64 + (b.toNat - 128) := by omega
        calc 128 ≤ (pending.bits * 64 + (pending.low.toNat - 128)) * 64 ^ (pending.owed - 1) := large
          _ ≤ (pending.bits * 64 + (b.toNat - 128)) * 64 ^ (pending.owed - 1) := Nat.mul_le_mul_right _ grown
          _ = ((pending.bits * 64 + (b.toNat - 128)) * 64 + ((0x80 : UInt8).toNat - 128)) * 64 ^ (pending.owed - 1 - 1) := by
            have zero : (0x80 : UInt8).toNat - 128 = 0 := by decide
            rw [zero, Nat.add_zero, power, Nat.mul_assoc]
    next =>
      obtain ⟨counted, next⟩ := first_spec ascii some b
      refine ⟨?_, next⟩
      have replaced : (replacement == c) = false := beq_eq_false_iff_ne.mpr (ofNat_ne ascii some (by decide))
      show (replacement :: (first b).1).count c = _
      rw [List.count_cons, counted, replaced]
      rfl

theorem count_decodeFrom {pending : Option Pending} (wide : ∀ p ∈ pending, p.Wide) (bytes : List UInt8) :
    (decodeFrom pending bytes).count c = bytes.count (UInt8.ofNat c.toNat) := by
  induction bytes generalizing pending with
  | nil =>
    cases pending with
    | none => rfl
    | some => exact count_high ascii some (by decide)
  | cons b rest ih =>
    obtain ⟨counted, next⟩ := step_spec ascii some wide b
    have unfolded : decodeFrom pending (b :: rest) = (step pending b).1 ++ decodeFrom (step pending b).2 rest := by
      cases pending <;> rfl
    rw [unfolded, List.count_append, counted, ih next, ← List.count_append, List.singleton_append]

/-- Decoding neither loses nor makes an ASCII character. -/
theorem count_decodeLossy (bytes : List UInt8) :
    (decodeLossy bytes).toList.count c = bytes.count (UInt8.ofNat c.toNat) := by
  rw [decodeLossy, String.toList_ofList]
  exact count_decodeFrom ascii some (fun _ absent => by cases absent) bytes

end Utf8
