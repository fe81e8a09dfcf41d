import Allgres.Safety.Blocklists

/-! What Rust's parser has read of an IPv6 address. -/

namespace Allgres

variable {c : Char} {radix digitCap max value left : Nat} {allowZero first : Bool} {text rest digits : List Char}
  {v4 : Ipv4Addr} {segments : List UInt16}

theorem readNumber_some (read : readNumber radix digitCap allowZero max text = some (value, rest)) :
    ∃ digits, text = digits ++ rest ∧ digits ≠ [] ∧ digits.length ≤ digitCap ∧
      (∀ c ∈ digits, (toDigit radix c).isSome = true) ∧ value = digitsNumber radix digits ∧ value ≤ max ∧
      (allowZero = false → digits.head? = some '0' → digits.length = 1) := by
  unfold readNumber at read
  dsimp only at read
  split_ifs at read with long none zero small
  obtain ⟨rfl, rfl⟩ := Prod.mk.inj (Option.some.inj read)
  have whole := List.prefix_iff_eq_append.mp (List.takeWhile_prefix (l := text) fun c => (toDigit radix c).isSome)
  refine ⟨text.takeWhile fun c => (toDigit radix c).isSome, whole.symm, ?_, by omega, ?_, rfl, small, ?_⟩
  · intro empty
    exact none (by rw [empty]; rfl)
  · exact fun c => List.mem_takeWhile_imp
  · intro strict starts
    have same : text.head? = some '0' := by
      rw [← whole, List.head?_append, starts]
      rfl
    rw [strict, same] at zero
    have short : ¬ 1 < (text.takeWhile fun c => (toDigit radix c).isSome).length := by simpa using zero
    omega

theorem toDigit_ten : toDigit 10 c = if c.isDigit then some (c.toNat - 48) else none := by
  simp [toDigit]

theorem digitsNumber_ten (plain : ∀ c ∈ digits, (toDigit 10 c).isSome = true) :
    digitsNumber 10 digits = Nat.ofDigitChars 10 digits 0 := by
  rw [digitsNumber, Nat.ofDigitChars_eq_foldl]
  refine List.foldl_ext _ _ 0 fun value c inside => ?_
  have digit := plain c inside
  rw [toDigit_ten] at digit ⊢
  split at digit
  next yes =>
    rw [if_pos yes, Option.getD_some, Nat.mul_comm]
    rfl
  · cases digit

theorem isDigit_of_ten (digit : (toDigit 10 c).isSome = true) : c.isDigit = true := by
  rw [toDigit_ten] at digit
  split at digit
  next yes => exact yes
  · cases digit

theorem isDigit_bounds (digit : c.isDigit = true) : 48 ≤ c.toNat ∧ c.toNat ≤ 57 := by
  simp only [Char.isDigit, Bool.and_eq_true, decide_eq_true_eq] at digit
  exact ⟨digit.1, digit.2⟩

theorem eq_digitChar (digit : c.isDigit = true) : c = Nat.digitChar (c.toNat - 48) := by
  obtain ⟨lower, upper⟩ := isDigit_bounds digit
  have all : (List.range 10).all (fun d => Nat.digitChar d == Char.ofNat (48 + d)) = true := by decide
  have same := beq_iff_eq.mp (List.all_eq_true.mp all (c.toNat - 48) (List.mem_range.mpr (by omega)))
  rw [same, Nat.add_sub_cancel' lower, Char.ofNat_toNat]

/-- Decimal digits without a superfluous zero are the canonical ones. -/
theorem decimal_ofDigitChars (digits : List Char) (some : digits ≠ []) (plain : ∀ c ∈ digits, c.isDigit = true)
    (strict : digits.head? = .some '0' → digits.length = 1) : decimal (Nat.ofDigitChars 10 digits 0) = digits := by
  induction digits using List.reverseRecOn with
  | nil => exact absurd rfl some
  | append_singleton front last ih =>
    have digit := plain last (by simp)
    obtain ⟨d, small, rfl⟩ : ∃ d, d < 10 ∧ last = Nat.digitChar d := by
      refine ⟨last.toNat - 48, ?_, ?_⟩
      · have upper := (isDigit_bounds digit).2
        omega
      · exact eq_digitChar digit
    rw [Nat.ofDigitChars_append, Nat.ofDigitChars_cons_digitChar_of_lt_ten small, Nat.ofDigitChars_nil]
    rcases front.eq_nil_or_concat with rfl | ⟨_, _, shape⟩
    · rw [Nat.ofDigitChars_nil, decimal]
      simpa using Nat.toDigits_of_lt_base small
    · have more : front ≠ [] := by simp [shape]
      have heads : (front ++ [Nat.digitChar d]).head? = front.head? := by
        rw [List.head?_append_of_ne_nil _ more]
      have led : front.head? ≠ .some '0' := by
        intro zero
        have single := strict (heads.trans zero)
        have positive := List.length_pos_iff.mpr more
        simp only [List.length_append, List.length_singleton] at single
        omega
      have held := ih more (fun c inside => plain c (List.mem_append_left _ inside)) fun zero => absurd zero led
      have positive : 0 < Nat.ofDigitChars 10 front 0 := by
        by_contra none
        have zero : Nat.ofDigitChars 10 front 0 = 0 := by omega
        rw [zero] at held
        exact led (by rw [← held]; rfl)
      have joined := Nat.toDigits_append_toDigits (b := 10) (by decide) positive small
      rw [Nat.toDigits_of_lt_base small] at joined
      rw [decimal, ← joined, ← decimal, held]

/-- What stands in front of a part. -/
def separated (separator : Char) (first : Bool) : List Char := if first then [] else [separator]

theorem readSeparator_some {α : Type} {separator : Char} {inner : List Char → Option (α × List Char)} {part : α}
    (read : readSeparator separator first inner text = some (part, rest)) :
    ∃ body, text = separated separator first ++ body ∧ inner body = some (part, rest) := by
  cases first with
  | true => exact ⟨text, rfl, read⟩
  | false =>
    cases text with
    | nil => cases read
    | cons c text =>
      rw [readSeparator, if_neg Bool.false_ne_true] at read
      split at read
      next same => exact ⟨text, by rw [same]; rfl, read⟩
      · cases read

theorem readOctet_some {octet : UInt8} (read : readOctet first text = some (octet, rest)) :
    text = separated '.' first ++ decimal octet.toNat ++ rest := by
  obtain ⟨⟨value, behind⟩, number, same⟩ := Option.map_eq_some_iff.mp read
  obtain ⟨rfl, rfl⟩ := Prod.mk.inj same
  obtain ⟨body, rfl, inner⟩ := readSeparator_some number
  obtain ⟨digits, rfl, some, -, plain, rfl, small, strict⟩ := readNumber_some inner
  rw [digitsNumber_ten plain] at small ⊢
  have exact : (UInt8.ofNat (Nat.ofDigitChars 10 digits 0)).toNat = Nat.ofDigitChars 10 digits 0 := by
    rw [UInt8.toNat_ofNat']
    exact Nat.mod_eq_of_lt (by omega)
  rw [exact, decimal_ofDigitChars digits some (fun c inside => isDigit_of_ten (plain c inside)) (strict rfl), List.append_assoc]

theorem readIpv4Addr_some (read : readIpv4Addr text = some (v4, rest)) : text = v4.text ++ rest := by
  obtain ⟨⟨a, t⟩, one, read⟩ := Option.bind_eq_some_iff.mp read
  obtain ⟨⟨b, u⟩, two, read⟩ := Option.bind_eq_some_iff.mp read
  obtain ⟨⟨c, v⟩, three, read⟩ := Option.bind_eq_some_iff.mp read
  obtain ⟨⟨d, w⟩, four, same⟩ := Option.map_eq_some_iff.mp read
  obtain ⟨rfl, rfl⟩ := Prod.mk.inj same
  rw [readOctet_some one, readOctet_some two, readOctet_some three, readOctet_some four]
  simp [Ipv4Addr.text, quadText, separated]

theorem text_chars (inside : c ∈ v4.text) : c.isDigit = true ∨ c = '.' := quadText_chars inside

theorem text_cons (v4 : Ipv4Addr) : ∃ first more, v4.text = first :: more ∧ first.isDigit = true := quadText_cons ..

/-- The characters of the spellings. -/
def addressChar (c : Char) : Bool := (toDigit 16 c).isSome || c == ':' || c == '.'

theorem addressChar_text (inside : c ∈ v4.text) : addressChar c = true := by
  rcases text_chars inside with digit | rfl
  · simp [addressChar, toDigit, digit]
  · rfl

/-- What a run of the loop has read. -/
structure ReadGroups (first : Bool) (text : List Char) (groups : List UInt16) (front rest : List Char) : Prop where
  text : text = front ++ rest
  chars : ∀ c ∈ front, addressChar c = true
  none : groups = [] → front = []
  colon : first = false → groups ≠ [] → front.head? = some ':'

theorem readGroups_read (first : Bool) (left : Nat) (text : List Char) :
    ∃ front, ReadGroups first text (readGroups first left text).1 front (readGroups first left text).2.2 := by
  induction left generalizing first text with
  | zero => exact ⟨[], rfl, by simp, fun _ => rfl, fun _ some => absurd rfl some⟩
  | succ left ih =>
    have colons : ∀ c ∈ separated ':' first, addressChar c = true := by
      intro c inside
      cases first with
      | true => cases inside
      | false =>
        rw [List.mem_singleton.mp inside]
        rfl
    have led {body : List Char} (later : first = false) : (separated ':' first ++ body).head? = some ':' := by
      rw [later]
      rfl
    rw [readGroups]
    split
    next v4 rest read =>
      split at read
      · obtain ⟨body, rfl, quad⟩ := readSeparator_some read
        rw [readIpv4Addr_some quad]
        refine ⟨separated ':' first ++ v4.text, by rw [List.append_assoc], ?_,
          fun some => (by cases some), fun later _ => led later⟩
        intro c inside
        rcases List.mem_append.mp inside with separator | within
        · exact colons c separator
        · exact addressChar_text within
      · cases read
    · split
      next group rest read =>
        obtain ⟨body, rfl, number⟩ := readSeparator_some read
        obtain ⟨digits, rfl, -, -, plain, -, -, -⟩ := readNumber_some number
        obtain ⟨front, more⟩ := ih false rest
        refine ⟨separated ':' first ++ (digits ++ front), ?_, ?_, fun some => (by cases some), fun later _ => led later⟩
        · conv_lhs => rw [more.text]
          simp
        · intro c inside
          rcases List.mem_append.mp inside with separator | within
          · exact colons c separator
          · rcases List.mem_append.mp within with digit | behind
            · simp [addressChar, plain c digit]
            · exact more.chars c behind
      · exact ⟨[], rfl, by simp, fun _ => rfl, fun _ some => absurd rfl some⟩

theorem readIpv6Addr_chars (read : readIpv6Addr text = some segments) : ∀ c ∈ text, addressChar c = true := by
  obtain ⟨front, head⟩ := readGroups_read true 8 text
  unfold readIpv6Addr at read
  dsimp only at read
  split_ifs at read with whole nothing
  · rw [head.text, nothing, List.append_nil]
    exact head.chars
  · split at read
    next behind same =>
      obtain ⟨back, tail⟩ := readGroups_read true (7 - (readGroups true 8 text).1.length) behind
      split_ifs at read with nothing
      rw [head.text, same, tail.text, nothing, List.append_nil]
      intro c inside
      simp only [List.mem_append, List.mem_cons] at inside
      rcases inside with early | rfl | rfl | late
      · exact head.chars c early
      · rfl
      · rfl
      · exact tail.chars c late
    · cases read

/-- The two groups of an IPv4 address. -/
def Ipv4Addr.pair (v4 : Ipv4Addr) : List UInt16 :=
  [fromBeBytes v4.octets.1 v4.octets.2.1, fromBeBytes v4.octets.2.2.1 v4.octets.2.2.2]

/-- A group as it is spelled. -/
structure Group (digits : List Char) : Prop where
  some : digits ≠ []
  short : digits.length ≤ 4
  plain : ∀ c ∈ digits, (toDigit 16 c).isSome = true
  small : digitsNumber 16 digits ≤ 65535

/-- One round of the loop: an IPv4 address, a group and the rest of the loop, or nothing. -/
theorem readGroups_step (first : Bool) (left : Nat) (text : List Char) :
    (∃ (v4 : Ipv4Addr) (rest : List Char), text = separated ':' first ++ (v4.text ++ rest) ∧ readGroups first (left + 1) text = (v4.pair, true, rest)) ∨
      (∃ digits rest, Group digits ∧ text = separated ':' first ++ (digits ++ rest) ∧
        readGroups first (left + 1) text = (UInt16.ofNat (digitsNumber 16 digits) :: (readGroups false left rest).1,
          (readGroups false left rest).2)) ∨
      readGroups first (left + 1) text = ([], false, text) := by
  rw [readGroups]
  split
  next v4 rest read =>
    split at read
    · obtain ⟨body, rfl, quad⟩ := readSeparator_some read
      exact .inl ⟨v4, rest, by rw [readIpv4Addr_some quad], rfl⟩
    · cases read
  · split
    next group rest read =>
      obtain ⟨body, rfl, number⟩ := readSeparator_some read
      obtain ⟨digits, rfl, some, short, plain, rfl, small, -⟩ := readNumber_some number
      exact .inr (.inl ⟨digits, rest, ⟨some, short, plain, small⟩, rfl, rfl⟩)
    · exact .inr (.inr rfl)

/-- A spelling starts with two colons, or with the first group and a colon. -/
theorem readIpv6Addr_front (read : readIpv6Addr text = some segments) :
    (∃ more, text = ':' :: ':' :: more ∧ segments.headD 0 = 0) ∨
      ∃ digits more, Group digits ∧ text = digits ++ ':' :: more ∧
        segments.headD 0 = UInt16.ofNat (digitsNumber 16 digits) := by
  unfold readIpv6Addr at read
  rcases readGroups_step true 7 text with ⟨v4, rest, -, step⟩ | ⟨digits, rest, group, shape, step⟩ | step
  · rw [step] at read
    simp [Ipv4Addr.pair] at read
  · right
    obtain ⟨front, more⟩ := readGroups_read false 7 rest
    rw [step] at read
    dsimp only at read
    have colon : ∃ behind, rest = ':' :: behind := by
      rcases front with _ | ⟨c, front⟩
      · have none : (readGroups false 7 rest).1 = [] := by
          by_contra some
          cases more.colon rfl some
        rw [none] at read
        have same : (readGroups false 7 rest).2.2 = rest := more.text.symm
        rw [same] at read
        split_ifs at read with whole _ nothing
        · cases whole
        · split at read
          next behind => exact ⟨_, rfl⟩
          · cases read
      · have some : (readGroups false 7 rest).1 ≠ [] := fun none => by cases more.none none
        have led := more.colon rfl some
        obtain rfl : c = ':' := Option.some.inj led
        exact ⟨_, more.text⟩
    obtain ⟨behind, colon⟩ := colon
    refine ⟨digits, behind, group, by rw [shape, colon]; rfl, ?_⟩
    split_ifs at read
    · obtain rfl := Option.some.inj read
      rfl
    · split at read
      · split_ifs at read
        obtain rfl := Option.some.inj read
        rfl
      · cases read
  · left
    rw [step] at read
    dsimp only at read
    rw [if_neg (by decide)] at read
    rw [if_neg Bool.false_ne_true] at read
    split at read
    next behind =>
      refine ⟨behind, rfl, ?_⟩
      split_ifs at read
      have short := readGroups_length true 7 behind
      obtain ⟨zeros, size⟩ : ∃ zeros, 8 - 0 - (readGroups true 7 behind).1.length = zeros + 1 :=
        ⟨7 - (readGroups true 7 behind).1.length, by omega⟩
      obtain rfl := Option.some.inj read
      simp only [List.nil_append, List.length_nil]
      change ((List.replicate (8 - 0 - (readGroups true 7 behind).1.length) 0 ++ _).headD 0 : UInt16) = 0
      rw [size]
      rfl
    · cases read

end Allgres
