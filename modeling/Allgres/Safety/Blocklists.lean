import Allgres.Addresses

/-! The hosts that the URL check blocks are the addresses that the resolver refuses, for
canonical IPv4 literals. -/

namespace Allgres

open Sql

variable {pg : Pg} {c : Char} {n low high : Nat} {label host rest : List Char}

/-! ### Decimal labels -/

def decimal (n : Nat) : List Char := Nat.toDigits 10 n

theorem decimal_inj {m : Nat} : decimal n = decimal m ↔ n = m := by
  refine ⟨fun same => ?_, fun same => congrArg decimal same⟩
  have values : Nat.ofDigitChars 10 (decimal n) 0 = Nat.ofDigitChars 10 (decimal m) 0 := by rw [same]
  rwa [decimal, decimal, Nat.ofDigitChars_ten_toDigits, Nat.ofDigitChars_ten_toDigits] at values

theorem decimal_digits (inside : c ∈ decimal n) : c.isDigit = true :=
  Nat.isDigit_of_mem_toDigits (by decide) (by decide) inside

theorem decimal_cons (n : Nat) : ∃ first more, decimal n = first :: more ∧ first.isDigit = true := by
  obtain ⟨first, more, shape⟩ := List.exists_cons_of_ne_nil (Nat.toDigits_ne_nil (n := n) (b := 10))
  exact ⟨first, more, shape, decimal_digits (n := n) (by rw [decimal, shape]; exact List.mem_cons_self ..)⟩

theorem decimal_ne (inside : c ∈ decimal n) : c ≠ '.' ∧ c ≠ ':' := by
  have digit := decimal_digits inside
  refine ⟨?_, ?_⟩ <;>
    · rintro rfl
      cases digit

theorem octet_decimal (small : n < 256) : octet (decimal n) = true := by
  have long : 0 < (decimal n).length := Nat.length_toDigits_pos
  have short : (decimal n).length ≤ 3 := (Nat.length_toDigits_le_iff (by decide) (by decide)).mpr (by omega)
  rw [octet, Bool.and_eq_true, Bool.and_eq_true, decide_eq_true_iff, decide_eq_true_iff, List.all_eq_true]
  exact ⟨⟨long, short⟩, fun c inside => decimal_digits inside⟩

theorem labelIn_decimal : labelIn low high (decimal n) = decide (low ≤ n ∧ n ≤ high) := by
  rw [Bool.eq_iff_iff, labelIn, List.any_eq_true, decide_eq_true_iff]
  constructor
  · rintro ⟨value, within, same⟩
    obtain rfl : value = n := decimal_inj.mp (by simpa [decimal] using same)
    rw [List.mem_range'_1] at within
    omega
  · intro within
    refine ⟨n, List.mem_range'_1.mpr (by omega), ?_⟩
    simp [decimal]

/-! ### Canonical dotted quads -/

def quadText (a b c d : Nat) : List Char := decimal a ++ '.' :: (decimal b ++ '.' :: (decimal c ++ '.' :: decimal d))

theorem splitOn_label (plain : ∀ c ∈ label, c ≠ '.') : (label ++ '.' :: rest).splitOn '.' = label :: rest.splitOn '.' := by
  rw [List.splitOn_eq_splitOnP, List.splitOn_eq_splitOnP]
  exact List.splitOnP_append_cons_of_forall_mem (fun c inside => beq_eq_false_iff_ne.mpr (plain c inside)) '.' rfl rest

theorem splitOn_quadText (a b c d : Nat) :
    (quadText a b c d).splitOn '.' = [decimal a, decimal b, decimal c, decimal d] := by
  have plain (n : Nat) : ∀ c ∈ decimal n, c ≠ '.' := fun c inside => (decimal_ne inside).1
  have last : (decimal d).splitOn '.' = [decimal d] := by
    rw [List.splitOn_eq_splitOnP]
    exact List.splitOnP_eq_singleton fun c inside => beq_eq_false_iff_ne.mpr (plain d c inside)
  rw [quadText, splitOn_label (plain a), splitOn_label (plain b), splitOn_label (plain c), last]

theorem dottedQuad_quadText {a b c d : Nat} (small : a < 256 ∧ b < 256 ∧ c < 256 ∧ d < 256) :
    dottedQuad (quadText a b c d) = true := by
  rw [dottedQuad, splitOn_quadText]
  simp [octet_decimal small.1, octet_decimal small.2.1, octet_decimal small.2.2.1, octet_decimal small.2.2.2]

theorem label_eq {m : Nat} {digits : List Char} (same : decimal m = digits) : (decimal n == digits) = decide (n = m) := by
  rw [← same, Bool.eq_iff_iff, beq_iff_eq, decide_eq_true_iff, decimal_inj]

/-- The ranges of the pattern list, on the labels' values. -/
theorem blockedV4_quadText (a b c d : Nat) : blockedV4 (quadText a b c d) =
    ((decide (a = 0) || (decide (a = 10) || decide (a = 127))) || (decide (a = 169) && decide (b = 254)) ||
      (decide (a = 172) && decide (16 ≤ b ∧ b ≤ 31)) || (decide (a = 192) && decide (b = 168)) ||
      (decide (a = 192) && decide (b = 0) && (decide (c = 0) || decide (c = 2))) ||
      (decide (a = 198) && decide (18 ≤ b ∧ b ≤ 19)) || (decide (a = 100) && decide (64 ≤ b ∧ b ≤ 127)) ||
      decide (224 ≤ a ∧ a ≤ 259)) := by
  have is (m : Nat) (digits : List Char) (same : decimal m = digits) (n : Nat) : (decimal n == digits) = decide (n = m) :=
    label_eq same
  rw [blockedV4, splitOn_quadText]
  simp only [List.contains_cons, List.contains_nil, Bool.or_false, labelIn_decimal, is 0 ['0'] rfl, is 10 ['1', '0'] rfl,
    is 127 ['1', '2', '7'] rfl, is 169 ['1', '6', '9'] rfl, is 254 ['2', '5', '4'] rfl, is 172 ['1', '7', '2'] rfl,
    is 192 ['1', '9', '2'] rfl, is 168 ['1', '6', '8'] rfl, is 2 ['2'] rfl, is 198 ['1', '9', '8'] rfl,
    is 100 ['1', '0', '0'] rfl]

/-! ### The other patterns -/

theorem quadText_chars {a b c d : Nat} {x : Char} (inside : x ∈ quadText a b c d) : x.isDigit = true ∨ x = '.' := by
  simp only [quadText, List.mem_append, List.mem_cons] at inside
  rcases inside with first | rfl | second | rfl | third | rfl | last
  · exact .inl (decimal_digits first)
  · exact .inr rfl
  · exact .inl (decimal_digits second)
  · exact .inr rfl
  · exact .inl (decimal_digits third)
  · exact .inr rfl
  · exact .inl (decimal_digits last)

theorem quadText_cons (a b c d : Nat) : ∃ first more, quadText a b c d = first :: more ∧ first.isDigit = true := by
  obtain ⟨first, more, shape, digit⟩ := decimal_cons a
  exact ⟨first, more ++ '.' :: (decimal b ++ '.' :: (decimal c ++ '.' :: decimal d)), by rw [quadText, shape]; rfl, digit⟩

theorem not_all_digits (a b c d : Nat) : (quadText a b c d).all Char.isDigit = false := by
  rw [List.all_eq_false]
  exact ⟨'.', by simp [quadText], by decide⟩

/-- A canonical label starts with a zero only where it is zero. -/
theorem decimal_zero {more : List Char} (starts : decimal n = '0' :: more) : n = 0 := by
  induction n using Nat.strongRecOn generalizing more with
  | ind n ih =>
    rw [decimal, Nat.toDigits_eq_if (by decide)] at starts
    split at starts
    · exact Nat.digitChar_eq_zero.mp (List.cons.inj starts).1
    next large =>
      obtain ⟨first, rest, shape, -⟩ := decimal_cons (n / 10)
      rw [decimal] at shape
      rw [shape, List.cons_append] at starts
      obtain ⟨rfl, -⟩ := List.cons.inj starts
      have none := ih (n / 10) (by omega) shape
      omega

theorem octalStart_quadText (a b c d : Nat) : octalStart (quadText a b c d) = decide (a = 0) := by
  by_cases zero : a = 0
  · subst zero
    rfl
  · obtain ⟨first, more, shape, digit⟩ := decimal_cons a
    have other : first ≠ '0' := by
      rintro rfl
      exact zero (decimal_zero shape)
    rw [decide_eq_false zero, quadText, shape, List.cons_append]
    unfold octalStart
    split
    next same => exact absurd (List.cons.inj same).1 other
    · rfl

theorem not_blockedNames {first : Char} {more : List Char} (digit : first.isDigit = true) :
    blockedNames.contains (String.ofList (first :: more)) = false := by
  have letters : ∀ name ∈ blockedNames, (name.toList.head?.any Char.isDigit) = false := by decide
  rw [Bool.eq_false_iff]
  intro listed
  have front := letters _ (List.contains_iff_mem.mp listed)
  rw [String.toList_ofList, List.head?_cons, Option.any_some, digit] at front
  cases front

theorem not_uniqueOrLinkLocal {first : Char} {more : List Char} (digit : first.isDigit = true) :
    uniqueOrLinkLocal (first :: more) = false := by
  unfold uniqueOrLinkLocal
  split
  next same =>
    obtain ⟨rfl, -⟩ := List.cons.inj same
    cases digit
  · rfl

theorem mappedV4_none {first : Char} {more : List Char} (plain : first ≠ ':') : mappedV4 (first :: more) = none := by
  unfold mappedV4
  split
  next same => exact absurd (List.cons.inj same).1 plain
  next same => exact absurd (List.cons.inj same).1 plain
  · rfl

theorem not_blockedLabels (label : List Char) (digits : ∀ c ∈ label, c.isDigit = true) :
    blockedLabels.contains (String.ofList label) = false := by
  have letters : ∀ name ∈ blockedLabels, name.toList.all Char.isDigit = false := by decide
  rw [Bool.eq_false_iff]
  intro listed
  have front := letters _ (List.contains_iff_mem.mp listed)
  rw [String.toList_ofList, List.all_eq_true.mpr digits] at front
  cases front

/-- The patterns of a text that is no hexadecimal number. -/
theorem blockedName_eq (hexadecimal : ∀ rest, host ≠ '0' :: 'x' :: rest) : blockedName host =
    (host.all Char.isDigit || octalStart host || blockedNames.contains (String.ofList host) ||
      ((host.splitOn '.').getLast?.any fun label => blockedLabels.contains (String.ofList label)) ||
      uniqueOrLinkLocal host || (dottedQuad host && blockedV4 host)) := by
  unfold blockedName
  split
  next rest => exact absurd rfl (hexadecimal rest)
  · rw [Bool.or_false]

/-- On a canonical quad only the ranges count, and zero in front is one of them. -/
theorem blockedName_quadText {a b c d : Nat} (small : a < 256 ∧ b < 256 ∧ c < 256 ∧ d < 256) :
    blockedName (quadText a b c d) = blockedV4 (quadText a b c d) := by
  obtain ⟨first, more, shape, digit⟩ := quadText_cons a b c d
  have hexadecimal (rest : List Char) : quadText a b c d ≠ '0' :: 'x' :: rest := by
    intro same
    have inside : 'x' ∈ quadText a b c d := by simp [same]
    rcases quadText_chars inside with digit | dot
    · cases digit
    · cases dot
  have names : blockedNames.contains (String.ofList (quadText a b c d)) = false := by
    rw [shape]
    exact not_blockedNames digit
  have labels : (((quadText a b c d).splitOn '.').getLast?.any fun label => blockedLabels.contains (String.ofList label)) = false := by
    rw [splitOn_quadText]
    exact not_blockedLabels (decimal d) fun c inside => decimal_digits inside
  have groups : uniqueOrLinkLocal (quadText a b c d) = false := by
    rw [shape]
    exact not_uniqueOrLinkLocal digit
  rw [blockedName_eq hexadecimal, not_all_digits, octalStart_quadText, names, labels, groups, dottedQuad_quadText small]
  by_cases zero : a = 0
  · rw [blockedV4_quadText]
    simp [zero]
  · simp [zero]

def Ipv4Addr.text (v4 : Ipv4Addr) : List Char :=
  quadText v4.octets.1.toNat v4.octets.2.1.toNat v4.octets.2.2.1.toNat v4.octets.2.2.2.toNat

theorem blockedName_text (v4 : Ipv4Addr) : blockedName v4.text = isBlockedIpv4 v4 := by
  obtain ⟨a, b, c, d⟩ := v4
  have small (x : UInt8) : x.toNat < 256 := x.toNat_lt
  rw [Ipv4Addr.text, blockedName_quadText ⟨small a, small b, small c, small d⟩, blockedV4_quadText]
  have is (x y : UInt8) : (x == y) = decide (x.toNat = y.toNat) := by
    rw [Bool.eq_iff_iff, beq_iff_eq, decide_eq_true_iff, UInt8.toNat_inj]
  have benchmark : decide (18 ≤ b.toNat ∧ b.toNat ≤ 19) = (decide (b.toNat = 18) || decide (b.toNat = 19)) := by
    rw [Bool.eq_iff_iff, Bool.or_eq_true, decide_eq_true_iff, decide_eq_true_iff, decide_eq_true_iff]
    omega
  have reserved : decide (224 ≤ a.toNat ∧ a.toNat ≤ 259) = decide (224 ≤ a.toNat) := by
    have below := small a
    rw [Bool.eq_iff_iff, decide_eq_true_iff, decide_eq_true_iff]
    omega
  rw [benchmark, reserved, ← Bool.or_assoc]
  simp only [isBlockedIpv4, is, UInt8.le_iff_toNat_le]
  rfl

/-- `lower` leaves a canonical quad alone. -/
theorem lower_text (dot : pg.lowerChar '.' = ['.']) (v4 : Ipv4Addr) :
    (pg.lower (String.ofList v4.text)).toList = v4.text := by
  rw [Pg.lower, String.toList_ofList, String.toList_ofList]
  have plain : ∀ c ∈ v4.text, pg.lowerChar c = [c] := by
    intro c inside
    rcases quadText_chars inside with digit | rfl
    · exact pg.lowerChar_plain c (.inr (.inl digit))
    · exact dot
  rw [List.flatMap_congr plain]
  exact List.flatMap_singleton' _

/-- The URL check blocks a canonical IPv4 literal where the resolver refuses the address. -/
theorem isBlockedHost_ipv4 (pg : Pg) (dot : pg.lowerChar '.' = ['.']) (a b c d : UInt8) :
    isBlockedHost pg (some (String.ofList (Ipv4Addr.text ⟨a, b, c, d⟩))) = isBlockedIpv4 ⟨a, b, c, d⟩ := by
  obtain ⟨first, more, shape, digit⟩ := quadText_cons a.toNat b.toNat c.toNat d.toNat
  have plain : first ≠ ':' := by
    rintro rfl
    cases digit
  rw [isBlockedHost, Option.getD_some, lower_text dot, ← blockedName_text]
  have cons : Ipv4Addr.text ⟨a, b, c, d⟩ = first :: more := shape
  rw [cons, mappedV4_none plain]
  rfl

theorem isBlockedHost_ipv4_loopback :
    isBlockedHost .bare (some (String.ofList (Ipv4Addr.text ⟨127, 0, 0, 1⟩))) = isBlockedIpv4 ⟨127, 0, 0, 1⟩ :=
  isBlockedHost_ipv4 .bare rfl 127 0 0 1

end Allgres
