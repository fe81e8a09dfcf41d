import Allgres.Safety.Literals

/-! Which spellings of an IPv6 address the URL check and the resolver judge alike. -/

namespace Allgres

open Sql

variable {pg : Pg} {c : Char} {left : Nat} {first flag : Bool} {text rest digits host quad : List Char} {v4 : Ipv4Addr}
  {addr : Ipv6Addr} {groups segments : List UInt16}

/-! ### Lower case -/

/-- `lower` on the characters of an address. -/
structure LowersAscii (pg : Pg) : Prop where
  dot : pg.lowerChar '.' = ['.']
  colon : pg.lowerChar ':' = [':']
  letter : ∀ c, 'A' ≤ c → c ≤ 'F' → pg.lowerChar c = [c.toLower]

def lowered (text : List Char) : List Char := text.map Char.toLower

/-- The digits of both cases. -/
def hexChars : List Char := (List.range' 48 10 ++ List.range' 97 6 ++ List.range' 65 6).map Char.ofNat

theorem mem_hexChars (digit : (toDigit 16 c).isSome = true) : c ∈ hexChars := by
  have among {low count : Nat} (lower : low ≤ c.toNat) (upper : c.toNat < low + count) : c.toNat ∈ List.range' low count :=
    List.mem_range'_1.mpr ⟨lower, upper⟩
  refine List.mem_map.mpr ⟨c.toNat, ?_, Char.ofNat_toNat c⟩
  unfold toDigit at digit
  split_ifs at digit with decimal small large
  · obtain ⟨lower, upper⟩ := isDigit_bounds decimal
    exact List.mem_append_left _ (List.mem_append_left _ (among lower (by omega)))
  · have lower : 97 ≤ c.toNat := small.2.1
    have upper : c.toNat ≤ 102 := small.2.2
    exact List.mem_append_left _ (List.mem_append_right _ (among lower (by omega)))
  · have lower : 65 ≤ c.toNat := large.2.1
    have upper : c.toNat ≤ 70 := large.2.2
    exact List.mem_append_right _ (among lower (by omega))
  · cases digit

theorem of_hexChars {p : Char → Bool} (all : hexChars.all p = true) (digit : (toDigit 16 c).isSome = true) : p c = true :=
  List.all_eq_true.mp all c (mem_hexChars digit)

theorem lowerChar_hex (ascii : LowersAscii pg) (digit : (toDigit 16 c).isSome = true) : pg.lowerChar c = [c.toLower] := by
  have kinds := of_hexChars (p := fun c => (c.isLower || c.isDigit) && c.toLower == c || decide ('A' ≤ c) && decide (c ≤ 'F'))
    (by decide) digit
  simp only [Bool.or_eq_true, Bool.and_eq_true, decide_eq_true_eq, beq_iff_eq] at kinds
  rcases kinds with ⟨small | decimal, same⟩ | ⟨lower, upper⟩
  · rw [same]
    exact pg.lowerChar_plain c (.inl small)
  · rw [same]
    exact pg.lowerChar_plain c (.inr (.inl decimal))
  · exact ascii.letter c lower upper

theorem lower_address (ascii : LowersAscii pg) (chars : ∀ c ∈ text, addressChar c = true) :
    (pg.lower (String.ofList text)).toList = lowered text := by
  rw [Pg.lower, String.toList_ofList, String.toList_ofList, lowered]
  have each : ∀ c ∈ text, pg.lowerChar c = [c.toLower] := by
    intro c inside
    have char := chars c inside
    simp only [addressChar, Bool.or_eq_true, beq_iff_eq] at char
    rcases char with (digit | rfl) | rfl
    · exact lowerChar_hex ascii digit
    · exact ascii.colon
    · exact ascii.dot
  rw [List.flatMap_congr each]
  exact List.map_eq_flatMap.symm

/-! ### The patterns on an address -/

theorem addressChar_toLower (char : addressChar c = true) : addressChar c.toLower = true := by
  simp only [addressChar, Bool.or_eq_true, beq_iff_eq] at char
  rcases char with (digit | rfl) | rfl
  · have kept := of_hexChars (p := fun c => (toDigit 16 c.toLower).isSome) (by decide) digit
    simp [addressChar, kept]
  · rfl
  · rfl

theorem lowered_chars (chars : ∀ c ∈ text, addressChar c = true) : ∀ c ∈ lowered text, addressChar c = true := by
  intro c inside
  obtain ⟨d, within, rfl⟩ := List.mem_map.mp inside
  exact addressChar_toLower (chars d within)

theorem mem_of_splitOn {label : List Char} (listed : label ∈ host.splitOn '.') (inside : c ∈ label) : c ∈ host := by
  induction host generalizing label with
  | nil =>
    rw [List.splitOn_nil, List.mem_singleton] at listed
    rw [listed] at inside
    cases inside
  | cons d host ih =>
    rw [List.splitOn_cons_eq_if_modifyHead] at listed
    split at listed
    · rcases List.mem_cons.mp listed with rfl | later
      · cases inside
      · exact List.mem_cons_of_mem d (ih later inside)
    · obtain ⟨head, tail, shape⟩ := List.exists_cons_of_ne_nil (List.splitOn_ne_nil '.' host)
      rw [shape] at listed ih
      rcases List.mem_cons.mp listed with rfl | later
      · rcases List.mem_cons.mp inside with rfl | within
        · exact List.mem_cons_self ..
        · exact List.mem_cons_of_mem d (ih (List.mem_cons_self ..) within)
      · exact List.mem_cons_of_mem d (ih (List.mem_cons_of_mem head later) inside)

theorem mem_splitOn (inside : c ∈ host) (plain : c ≠ '.') : ∃ label ∈ host.splitOn '.', c ∈ label := by
  induction host with
  | nil => cases inside
  | cons d host ih =>
    rw [List.splitOn_cons_eq_if_modifyHead]
    obtain ⟨head, tail, shape⟩ := List.exists_cons_of_ne_nil (List.splitOn_ne_nil '.' host)
    rw [shape] at ih ⊢
    split
    next dot =>
      rcases List.mem_cons.mp inside with rfl | later
      · exact absurd (eq_of_beq dot) plain
      · obtain ⟨label, listed, within⟩ := ih later
        exact ⟨label, List.mem_cons_of_mem [] listed, within⟩
    · rcases List.mem_cons.mp inside with rfl | later
      · exact ⟨_, List.mem_cons_self .., List.mem_cons_self ..⟩
      · obtain ⟨label, listed, within⟩ := ih later
        rcases List.mem_cons.mp listed with rfl | behind
        · exact ⟨_, List.mem_cons_self .., List.mem_cons_of_mem d within⟩
        · exact ⟨label, List.mem_cons_of_mem _ behind, within⟩

theorem dottedQuad_chars (quads : dottedQuad quad = true) (inside : c ∈ quad) : c.isDigit = true ∨ c = '.' := by
  by_cases dot : c = '.'
  · exact .inr dot
  · obtain ⟨label, listed, within⟩ := mem_splitOn inside dot
    rw [dottedQuad, Bool.and_eq_true, List.all_eq_true] at quads
    have valid := quads.2 label listed
    simp only [octet, Bool.and_eq_true, List.all_eq_true] at valid
    exact .inl (valid.2 c within)

theorem dottedQuad_dot (quads : dottedQuad quad = true) : '.' ∈ quad := by
  by_contra absent
  have whole : quad.splitOn '.' = [quad] := by
    rw [List.splitOn_eq_splitOnP]
    refine List.splitOnP_eq_singleton fun c inside => beq_eq_false_iff_ne.mpr ?_
    rintro rfl
    exact absent inside
  rw [dottedQuad, whole] at quads
  cases quads

/-- Of the patterns only those for IPv6 can match a text with a colon that starts with no octal number. -/
theorem blockedName_address (chars : ∀ c ∈ host, addressChar c = true) (colon : ':' ∈ host) (start : octalStart host = false) :
    blockedName host = (decide (host = "::".toList ∨ host = "::1".toList) || uniqueOrLinkLocal host) := by
  have hexadecimal (rest : List Char) : host ≠ '0' :: 'x' :: rest := by
    rintro rfl
    have char := chars 'x' (by simp)
    revert char
    decide
  have digits : host.all Char.isDigit = false := List.all_eq_false.mpr ⟨':', colon, by decide⟩
  have quads : dottedQuad host = false := by
    rw [Bool.eq_false_iff]
    intro quads
    rcases dottedQuad_chars quads colon with digit | dot
    · cases digit
    · cases dot
  have foreign : ∀ name ∈ blockedLabels, name.toList.all addressChar = false := by decide
  have labels : ((host.splitOn '.').getLast?.any fun label => blockedLabels.contains (String.ofList label)) = false := by
    rw [Bool.eq_false_iff]
    intro listed
    rcases last : (host.splitOn '.').getLast? with _ | label
    · rw [last] at listed
      cases listed
    rw [last, Option.any_some] at listed
    have known := foreign _ (List.contains_iff_mem.mp listed)
    rw [String.toList_ofList, List.all_eq_true.mpr fun c inside => chars c
      (mem_of_splitOn (List.mem_of_getLast? last) inside)] at known
    cases known
  have names : blockedNames.contains (String.ofList host) = decide (host = "::".toList ∨ host = "::1".toList) := by
    have is (name : String) : String.ofList host = name ↔ host = name.toList :=
      ⟨fun same => by rw [← same, String.toList_ofList], fun same => by rw [same, String.ofList_toList]⟩
    have other (name : String) (letters : name.toList.all addressChar = false) : String.ofList host ≠ name := by
      rintro rfl
      rw [String.toList_ofList, List.all_eq_true.mpr chars] at letters
      cases letters
    rw [Bool.eq_iff_iff, List.contains_iff_mem, decide_eq_true_iff, blockedNames]
    simp only [List.mem_cons, List.not_mem_nil, or_false, other "localhost" (by decide),
      other "localhost.localdomain" (by decide), other "ip6-localhost" (by decide), other "ip6-loopback" (by decide), false_or, is]
  rw [blockedName_eq hexadecimal, digits, start, names, labels, quads]
  simp

theorem Group.lowered (group : Group digits) : ∀ c ∈ lowered digits, addressChar c = true ∧ c ≠ ':' ∧ c ≠ '.' := by
  intro c inside
  obtain ⟨d, within, rfl⟩ := List.mem_map.mp inside
  have kept := of_hexChars (p := fun c => addressChar c.toLower && c.toLower != ':' && c.toLower != '.') (by decide)
    (group.plain d within)
  simpa [and_assoc] using kept

theorem dropWhile_colon (rest : List Char) (p : Char → Bool) (stops : p ':' = false) (plain : ∀ c ∈ digits, c ≠ '.') :
    ∃ c more, (digits ++ ':' :: rest).dropWhile p = c :: more ∧ c ≠ '.' := by
  induction digits with
  | nil => exact ⟨':', rest, by simp [stops], by decide⟩
  | cons d digits ih =>
    rw [List.cons_append, List.dropWhile_cons]
    split
    · exact ih fun c inside => plain c (List.mem_cons_of_mem d inside)
    · exact ⟨d, _, rfl, plain d (List.mem_cons_self ..)⟩

theorem octalStart_group (plain : ∀ c ∈ digits, c ≠ '.') : octalStart (digits ++ ':' :: rest) = false := by
  unfold octalStart
  split
  next more same =>
    have later : ∃ front, more = front ++ ':' :: rest ∧ ∀ c ∈ front, c ≠ '.' := by
      cases digits with
      | nil => cases (List.cons.inj same).1
      | cons d digits =>
        obtain ⟨-, rfl⟩ := List.cons.inj same
        exact ⟨digits, rfl, fun c inside => plain c (List.mem_cons_of_mem d inside)⟩
    obtain ⟨front, rfl, clean⟩ := later
    obtain ⟨c, behind, stops, dot⟩ := dropWhile_colon rest (fun c => decide ('0' ≤ c) && decide (c ≤ '7'))
      (by decide) clean
    rw [stops]
    exact beq_eq_false_iff_ne.mpr dot
  · rfl

/-! ### The first group -/

theorem and_high {k w r m : Nat} (low : r < 2 ^ k) : (2 ^ k * w + r) &&& (2 ^ k * m) = 2 ^ k * (w &&& m) := by
  refine Nat.eq_of_testBit_eq fun i => ?_
  rw [Nat.testBit_and, Nat.testBit_two_pow_mul_add _ low, Nat.testBit_two_pow_mul, Nat.testBit_two_pow_mul, Nat.testBit_and]
  by_cases below : i < k
  · have apart : ¬ k ≤ i := by omega
    simp [below, apart]
  · have beyond : k ≤ i := by omega
    simp [below, beyond]

/-- The two masks as ranges. -/
theorem masks_iff {n : Nat} (small : n < 65536) :
    (n &&& 0xfe00 = 0xfc00 ↔ 1008 ≤ n / 64 ∧ n / 64 < 1016) ∧ (n &&& 0xffc0 = 0xfe80 ↔ n / 64 = 1018) := by
  have parts : n = 2 ^ 6 * (n / 64) + n % 64 := by omega
  have low : n % 64 < 2 ^ 6 := by omega
  have unique : n &&& 0xfe00 = 2 ^ 6 * (n / 64 &&& 0x3f8) := by
    conv_lhs => rw [parts]
    exact and_high (m := 0x3f8) low
  have link : n &&& 0xffc0 = 2 ^ 6 * (n / 64 &&& 0x3ff) := by
    conv_lhs => rw [parts]
    exact and_high (m := 0x3ff) low
  have ranges : (List.range 1024).all (fun w => ((w &&& 0x3f8 == 0x3f0) == (decide (1008 ≤ w) && decide (w < 1016))) &&
      (w &&& 0x3ff == w)) = true := by decide +kernel
  have range := List.all_eq_true.mp ranges (n / 64) (List.mem_range.mpr (by omega))
  rw [Bool.and_eq_true, beq_iff_eq, beq_iff_eq, Bool.eq_iff_iff, beq_iff_eq, Bool.and_eq_true, decide_eq_true_iff,
    decide_eq_true_iff] at range
  rw [unique, link, range.2, ← range.1]
  omega

def digitValue (c : Char) : Nat := (toDigit 16 c).getD 0

/-- What the patterns see of a digit is its value. -/
structure Digit (c : Char) : Prop where
  small : digitValue c < 16
  hex : isHex c.toLower = true
  f : c.toLower = 'f' ↔ digitValue c = 15
  cd : (c.toLower == 'c' || c.toLower == 'd') = decide (12 ≤ digitValue c ∧ digitValue c ≤ 13)
  e : (c.toLower == 'e') = decide (digitValue c = 14)
  high : (c.toLower == '8' || c.toLower == '9' || c.toLower == 'a' || c.toLower == 'b') =
    decide (8 ≤ digitValue c ∧ digitValue c ≤ 11)

theorem digit_of (digit : (toDigit 16 c).isSome = true) : Digit c where
  small := of_decide_eq_true (of_hexChars (p := fun c => decide (digitValue c < 16)) (by decide) digit)
  hex := of_hexChars (p := fun c => isHex c.toLower) (by decide) digit
  f := of_decide_eq_true (of_hexChars (p := fun c => decide (c.toLower = 'f' ↔ digitValue c = 15)) (by decide) digit)
  cd := of_decide_eq_true (of_hexChars (p := fun c => decide ((c.toLower == 'c' || c.toLower == 'd') =
    decide (12 ≤ digitValue c ∧ digitValue c ≤ 13))) (by decide) digit)
  e := of_decide_eq_true (of_hexChars (p := fun c => decide ((c.toLower == 'e') = decide (digitValue c = 14))) (by decide) digit)
  high := of_decide_eq_true (of_hexChars (p := fun c => decide
    ((c.toLower == '8' || c.toLower == '9' || c.toLower == 'a' || c.toLower == 'b') =
      decide (8 ≤ digitValue c ∧ digitValue c ≤ 11))) (by decide) digit)

theorem uniqueOrLinkLocal_short (colon : host[1]? = some ':' ∨ host[2]? = some ':' ∨ host[3]? = some ':') :
    uniqueOrLinkLocal host = false := by
  unfold uniqueOrLinkLocal
  split
  · simp only [List.getElem?_cons_succ, List.getElem?_cons_zero, Option.some.injEq] at colon
    rcases colon with rfl | rfl | rfl
    · rfl
    · simp [show isHex ':' = false from rfl]
    · simp [show isHex ':' = false from rfl]
  · rfl

/-- Only a group with all four digits is large enough for the ranges. -/
theorem masks_short {n : Nat} (short : n < 4096) : decide (n &&& 0xfe00 = 0xfc00 ∨ n &&& 0xffc0 = 0xfe80) = false := by
  have ranges := masks_iff (n := n) (by omega)
  rw [decide_eq_false_iff_not, ranges.1, ranges.2]
  omega

theorem uniqueOrLinkLocal_group (group : Group digits) :
    uniqueOrLinkLocal (lowered digits ++ ':' :: rest) = decide (digitsNumber 16 digits &&& 0xfe00 = 0xfc00 ∨
      digitsNumber 16 digits &&& 0xffc0 = 0xfe80) := by
  have each : ∀ c ∈ digits, Digit c := fun c inside => digit_of (group.plain c inside)
  have short := group.short
  match digits, each with
  | [], _ => exact absurd rfl group.some
  | [a], each =>
    have size := (each a (by simp)).small
    rw [uniqueOrLinkLocal_short (.inl rfl)]
    exact (masks_short (show 0 * 16 + digitValue a < 4096 by omega)).symm
  | [a, b], each =>
    have sizes := And.intro (each a (by simp)).small (each b (by simp)).small
    rw [uniqueOrLinkLocal_short (.inr (.inl rfl))]
    exact (masks_short (show (0 * 16 + digitValue a) * 16 + digitValue b < 4096 by omega)).symm
  | [a, b, c], each =>
    have sizes := And.intro (each a (by simp)).small (And.intro (each b (by simp)).small (each c (by simp)).small)
    rw [uniqueOrLinkLocal_short (.inr (.inr rfl))]
    exact (masks_short (show ((0 * 16 + digitValue a) * 16 + digitValue b) * 16 + digitValue c < 4096 by omega)).symm
  | [a, b, c, d], each =>
    have one := each a (by simp)
    have two := each b (by simp)
    have three := each c (by simp)
    have four := each d (by simp)
    have sizes := And.intro one.small (And.intro two.small (And.intro three.small four.small))
    have ranges := masks_iff
      (show (((0 * 16 + digitValue a) * 16 + digitValue b) * 16 + digitValue c) * 16 + digitValue d < 65536 by omega)
    have shape : uniqueOrLinkLocal (lowered [a, b, c, d] ++ ':' :: rest) = (decide (a.toLower = 'f') &&
        ((b.toLower == 'c' || b.toLower == 'd') && isHex c.toLower && isHex d.toLower ||
          b.toLower == 'e' && (c.toLower == '8' || c.toLower == '9' || c.toLower == 'a' || c.toLower == 'b') &&
            isHex d.toLower)) := by
      by_cases f : a.toLower = 'f'
      · simp [lowered, uniqueOrLinkLocal, f]
      · rw [decide_eq_false f, Bool.false_and]
        unfold uniqueOrLinkLocal
        split
        next same => exact absurd (List.cons.inj same).1 f
        · rfl
    have number : digitsNumber 16 [a, b, c, d] =
        (((0 * 16 + digitValue a) * 16 + digitValue b) * 16 + digitValue c) * 16 + digitValue d := rfl
    rw [shape, number, three.hex, four.hex, two.cd, two.e, three.high, Bool.eq_iff_iff, decide_eq_true_iff, ranges.1, ranges.2]
    simp only [Bool.and_eq_true, Bool.or_eq_true, decide_eq_true_iff, one.f, and_true]
    omega
  | _ :: _ :: _ :: _ :: _ :: _, _ =>
    simp only [List.length_cons] at short
    omega

/-! ### Mapped and compatible addresses -/

theorem mappedV4_some (mapped : mappedV4 host = some quad) :
    (host = "::ffff:".toList ++ quad ∨ host = "::".toList ++ quad) ∧ dottedQuad quad = true := by
  unfold mappedV4 at mapped
  split at mapped
  · split_ifs at mapped with quads
    obtain rfl := Option.some.inj mapped
    exact ⟨.inl rfl, quads⟩
  · split_ifs at mapped with quads
    obtain rfl := Option.some.inj mapped
    exact ⟨.inr rfl, quads⟩
  · cases mapped

theorem dottedQuad_text (v4 : Ipv4Addr) : dottedQuad v4.text = true := by
  have small (x : UInt8) : x.toNat < 256 := x.toNat_lt
  exact dottedQuad_quadText ⟨small _, small _, small _, small _⟩

theorem mappedV4_text (v4 : Ipv4Addr) :
    mappedV4 ("::ffff:".toList ++ v4.text) = some v4.text ∧ mappedV4 ("::".toList ++ v4.text) = some v4.text := by
  obtain ⟨first, more, cons, digit⟩ := text_cons v4
  have quads := dottedQuad_text v4
  constructor
  · show (if dottedQuad v4.text then some v4.text else none) = some v4.text
    rw [if_pos quads]
  · have other : first ≠ 'f' := by
      rintro rfl
      cases digit
    show mappedV4 (':' :: ':' :: v4.text) = some v4.text
    rw [cons] at quads ⊢
    unfold mappedV4
    split
    next same =>
      obtain ⟨-, same⟩ := List.cons.inj same
      obtain ⟨-, same⟩ := List.cons.inj same
      exact absurd (List.cons.inj same).1 other
    next same =>
      obtain ⟨-, same⟩ := List.cons.inj same
      obtain ⟨-, rfl⟩ := List.cons.inj same
      rw [if_pos quads]
    next none => exact absurd rfl (none _)

/-- A dotted quad that the parser reads to its end is a canonical one. -/
theorem readGroups_quad (first : Bool) (left : Nat) (quads : dottedQuad quad = true)
    (read : readGroups first (left + 2) (separated ':' first ++ quad) = (groups, flag, [])) :
    ∃ v4 : Ipv4Addr, quad = v4.text ∧ groups = v4.pair := by
  have dot := dottedQuad_dot quads
  rcases readGroups_step first (left + 1) (separated ':' first ++ quad) with
    ⟨v4, rest, shape, step⟩ | ⟨digits, rest, group, shape, step⟩ | step
  · obtain ⟨rfl, same⟩ := Prod.mk.inj (step.symm.trans read)
    obtain ⟨-, rfl⟩ := Prod.mk.inj same
    exact ⟨v4, by rw [List.append_cancel_left shape, List.append_nil], rfl⟩
  · obtain ⟨front, more⟩ := readGroups_read false (left + 1) rest
    have ends : (readGroups false (left + 1) rest).2.2 = [] := congrArg (fun read => read.2.2) (step.symm.trans read)
    have whole : quad = digits ++ rest := List.append_cancel_left shape
    by_cases none : (readGroups false (left + 1) rest).1 = []
    · -- The text would be one group.
      have nothing : rest = [] := by rw [more.text, more.none none, ends]; rfl
      rw [whole, nothing, List.append_nil] at dot
      cases group.plain '.' dot
    · -- There would be another colon.
      have led := more.colon rfl none
      have inside : ':' ∈ quad := by
        rw [whole, more.text]
        exact List.mem_append_right _ (List.mem_append_left _ (List.mem_of_head? led))
      rcases dottedQuad_chars quads inside with digit | same
      · cases digit
      · cases same
  · have nothing : separated ':' first ++ quad = [] := congrArg (fun read => read.2.2) (step.symm.trans read)
    rw [(List.append_eq_nil_iff.mp nothing).2] at dot
    cases dot

/-- Nothing can be read in front of two colons. -/
theorem readGroups_colon (left : Nat) (text : List Char) : readGroups true (left + 1) (':' :: text) = ([], false, ':' :: text) := by
  rcases readGroups_step true left (':' :: text) with ⟨v4, rest, shape, -⟩ | ⟨digits, rest, group, shape, -⟩ | step
  · obtain ⟨c, more, same, digit⟩ := text_cons v4
    rw [same] at shape
    obtain ⟨rfl, -⟩ := List.cons.inj shape
    cases digit
  · obtain ⟨c, more, same⟩ := List.exists_cons_of_ne_nil group.some
    rw [same] at shape
    obtain ⟨rfl, -⟩ := List.cons.inj shape
    cases group.plain ':' (by rw [same]; exact List.mem_cons_self ..)
  · exact step

/-- A spelling that starts with two colons is read behind them. -/
theorem readIpv6Addr_colons (text : List Char) (read : readIpv6Addr (':' :: ':' :: text) = some segments) :
    ∃ tail flag, readGroups true 7 text = (tail, flag, []) ∧ segments = List.replicate (8 - tail.length) 0 ++ tail := by
  unfold readIpv6Addr at read
  rw [readGroups_colon] at read
  dsimp only at read
  rw [if_neg (by decide), if_neg Bool.false_ne_true] at read
  split at read
  next rest same =>
    obtain ⟨-, same⟩ := List.cons.inj same
    obtain ⟨-, rfl⟩ := List.cons.inj same
    split_ifs at read with ends
    refine ⟨_, (readGroups true 7 text).2.1, ?_, (Option.some.inj read).symm⟩
    rw [← ends]
    rfl
  next none => exact absurd rfl (none _)

theorem readIpv6Addr_compatible (quads : dottedQuad quad = true)
    (read : readIpv6Addr ("::".toList ++ quad) = some segments) :
    ∃ v4 : Ipv4Addr, quad = v4.text ∧ segments = List.replicate 6 0 ++ v4.pair := by
  obtain ⟨tail, flag, groups, rfl⟩ := readIpv6Addr_colons quad read
  obtain ⟨v4, same, rfl⟩ := readGroups_quad true 5 quads groups
  exact ⟨v4, same, rfl⟩

theorem toLower_digit (digit : c.isDigit = true) : c.toLower = c := by
  have known : (toDigit 16 c).isSome = true := by simp [toDigit, digit]
  have kept := of_hexChars (p := fun c => !c.isDigit || c.toLower == c) (by decide) known
  rw [digit] at kept
  exact eq_of_beq kept

/-- Four letters `f`, of either case. -/
def Marker (marker : List Char) : Prop := lowered marker = "ffff".toList

theorem Marker.letters {marker : List Char} (marked : Marker marker) :
    ∃ a b c d, marker = [a, b, c, d] ∧ ∀ x ∈ marker, x.toLower = 'f' := by
  have each : ∀ x ∈ marker, x.toLower = 'f' := by
    intro x inside
    have listed : x.toLower ∈ lowered marker := List.mem_map_of_mem inside
    rw [marked] at listed
    simpa using listed
  have size : marker.length = 4 := by
    rw [← List.length_map (f := Char.toLower), ← lowered, marked]
    rfl
  match marker, size with
  | [a, b, c, d], _ => exact ⟨a, b, c, d, rfl, each⟩

theorem Marker.number {marker : List Char} (marked : Marker marker) (plain : ∀ c ∈ marker, (toDigit 16 c).isSome = true) :
    digitsNumber 16 marker = 65535 := by
  obtain ⟨a, b, c, d, rfl, each⟩ := marked.letters
  have value : ∀ x ∈ [a, b, c, d], digitValue x = 15 := fun x inside =>
    (digit_of (plain x inside)).f.mp (each x inside)
  have number : digitsNumber 16 [a, b, c, d] =
      (((0 * 16 + digitValue a) * 16 + digitValue b) * 16 + digitValue c) * 16 + digitValue d := rfl
  rw [number, value a (by simp), value b (by simp), value c (by simp), value d (by simp)]

theorem readIpv6Addr_mapped (marker : List Char) (marked : Marker marker) (quads : dottedQuad quad = true)
    (read : readIpv6Addr ("::".toList ++ (marker ++ ':' :: quad)) = some segments) :
    ∃ v4 : Ipv4Addr, quad = v4.text ∧ segments = List.replicate 5 0 ++ 0xffff :: v4.pair := by
  obtain ⟨tail, flag, groups, rfl⟩ := readIpv6Addr_colons (marker ++ ':' :: quad) read
  obtain ⟨a, b, c, d, shape, letters⟩ := marked.letters
  rcases readGroups_step true 6 (marker ++ ':' :: quad) with ⟨v4, rest, split, -⟩ | ⟨digits, rest, group, split, step⟩ | step
  · -- An IPv4 address starts with a digit.
    obtain ⟨first, more, same, digit⟩ := text_cons v4
    rw [same, shape] at split
    obtain ⟨rfl, -⟩ := List.cons.inj split
    have lower := letters a (by rw [shape]; exact List.mem_cons_self ..)
    rw [toLower_digit digit] at lower
    rw [lower] at digit
    cases digit
  · have split : marker ++ ':' :: quad = digits ++ rest := split
    obtain ⟨front, more⟩ := readGroups_read false 6 rest
    have ends : (readGroups false 6 rest).2.2 = [] := congrArg (fun read => read.2.2) (step.symm.trans groups)
    have size : marker.length = 4 := by rw [shape]; rfl
    have same : marker = digits ∧ ':' :: quad = rest := by
      refine List.append_inj split ?_
      by_contra other
      have short := group.short
      have behind : rest = marker.drop digits.length ++ ':' :: quad := by
        have dropped := congrArg (List.drop digits.length) split
        rw [List.drop_left, List.drop_append_of_le_length (by omega)] at dropped
        exact dropped.symm
      obtain ⟨x, letters', next⟩ := List.exists_cons_of_ne_nil (show marker.drop digits.length ≠ [] by
        rw [Ne, List.drop_eq_nil_iff]
        omega)
      rw [next, List.cons_append] at behind
      by_cases none : (readGroups false 6 rest).1 = []
      · have nothing : rest = [] := by rw [more.text, more.none none, ends]; rfl
        rw [behind] at nothing
        cases nothing
      · have led : rest.head? = some ':' := by
          rw [more.text, List.head?_append, more.colon rfl none]
          rfl
        rw [behind] at led
        obtain rfl : x = ':' := Option.some.inj led
        have lower := letters ':' (List.mem_of_mem_drop (by rw [next]; exact List.mem_cons_self ..))
        cases lower
    obtain ⟨rfl, rfl⟩ := same
    obtain ⟨v4, same, pair⟩ := readGroups_quad false 4 quads
      (show readGroups false 6 (':' :: quad) = ((readGroups false 6 (':' :: quad)).1, (readGroups false 6 (':' :: quad)).2.1, [])
        by rw [← ends])
    have tails : tail = UInt16.ofNat (digitsNumber 16 marker) :: (readGroups false 6 (':' :: quad)).1 :=
      congrArg Prod.fst (groups.symm.trans step)
    rw [tails, pair, marked.number group.plain]
    exact ⟨v4, same, rfl⟩
  · have nothing : marker ++ ':' :: quad = [] := congrArg (fun read => read.2.2) (step.symm.trans groups)
    simp at nothing

/-! ### The two lists -/

theorem toBeBytes_fromBeBytes (high low : UInt8) : toBeBytes (fromBeBytes high low) = (high, low) := by
  have upper := high.toNat_lt
  have lower := low.toNat_lt
  have value : (fromBeBytes high low).toNat = high.toNat * 256 + low.toNat := by
    rw [fromBeBytes, UInt16.toNat_ofNat']
    exact Nat.mod_eq_of_lt (by omega)
  have first : (high.toNat * 256 + low.toNat) / 256 = high.toNat := by omega
  have second : (high.toNat * 256 + low.toNat) % 256 = low.toNat := by omega
  rw [toBeBytes, value, first, second, UInt8.ofNat_toNat, UInt8.ofNat_toNat]

theorem toIpv4Mapped_mapped (same : addr.segments = List.replicate 5 0 ++ 0xffff :: v4.pair) : addr.toIpv4Mapped = some v4 := by
  rw [Ipv6Addr.toIpv4Mapped, same]
  show some _ = _
  rw [toBeBytes_fromBeBytes, toBeBytes_fromBeBytes]

theorem toIpv4Mapped_compatible (same : addr.segments = List.replicate 6 0 ++ v4.pair) : addr.toIpv4Mapped = none := by
  rw [Ipv6Addr.toIpv4Mapped, same]
  rfl

theorem toIpv4Mapped_some (mapped : addr.toIpv4Mapped = some v4) :
    ∃ high low, addr.segments = [0, 0, 0, 0, 0, 0xffff, high, low] := by
  unfold Ipv6Addr.toIpv4Mapped at mapped
  split at mapped
  next high low same => exact ⟨high, low, same⟩
  · cases mapped

theorem zero_group : ((0 : UInt16) &&& 0xfe00 == 0xfc00 || (0 : UInt16) &&& 0xffc0 == 0xfe80) = false := by decide

theorem parseIpv6_segments (parsed : parseIpv6 text = some addr) : readIpv6Addr text = some addr.segments := by
  unfold parseIpv6 at parsed
  split at parsed
  next segments read =>
    obtain rfl := Option.some.inj parsed
    exact read
  · cases parsed

/-- A character whose lower case is no letter. -/
def solid (c : Char) : Bool := c.isDigit || c == '.' || c == ':'

theorem lowered_solid (chars : ∀ c ∈ text, addressChar c = true) (plain : ∀ c ∈ lowered text, solid c = true) :
    lowered text = text := by
  refine (List.map_congr_left fun c inside => ?_).trans (List.map_id text)
  have fixed := plain c.toLower (List.mem_map_of_mem inside)
  have char := chars c inside
  simp only [addressChar, Bool.or_eq_true, beq_iff_eq] at char
  rcases char with (digit | rfl) | rfl
  · have kept := of_hexChars (p := fun c => !solid c.toLower || c.toLower == c) (by decide) digit
    rw [fixed] at kept
    exact eq_of_beq kept
  · rfl
  · rfl

theorem lowered_quad (chars : ∀ c ∈ text, addressChar c = true) (quads : dottedQuad (lowered text) = true) :
    lowered text = text := by
  refine lowered_solid chars fun c inside => ?_
  rcases dottedQuad_chars quads inside with digit | rfl
  · simp [solid, digit]
  · rfl

/-- The spellings of which the pattern of the check sees the IPv4 address. -/
theorem mapped_cases (read : readIpv6Addr text = some segments) (mapped : mappedV4 (lowered text) = some quad) :
    ∃ v4 : Ipv4Addr, quad = v4.text ∧
      ((lowered text = "::ffff:".toList ++ v4.text ∧ segments = List.replicate 5 0 ++ 0xffff :: v4.pair) ∨
        (text = "::".toList ++ v4.text ∧ segments = List.replicate 6 0 ++ v4.pair)) := by
  have chars := readIpv6Addr_chars read
  obtain ⟨shape | shape, quads⟩ := mappedV4_some mapped
  · obtain ⟨front, digits, rfl, colons, tail⟩ := List.map_eq_append_iff.mp shape
    obtain ⟨start, behind, rfl, two, marks⟩ := List.map_eq_append_iff.mp
      (show front.map Char.toLower = "::".toList ++ "ffff:".toList from colons)
    obtain ⟨marker, colon, rfl, marked, last⟩ := List.map_eq_append_iff.mp
      (show behind.map Char.toLower = "ffff".toList ++ ":".toList from marks)
    have starts : start = "::".toList := by
      have fixed := lowered_solid (fun c (inside : c ∈ start) => chars c (by simp [inside]))
        (by rw [lowered, two]; exact List.all_eq_true.mp (by decide))
      rw [← fixed, lowered, two]
    have ends : colon = [':'] := by
      have fixed := lowered_solid (fun c (inside : c ∈ colon) => chars c (by simp [inside]))
        (by rw [lowered, last]; exact List.all_eq_true.mp (by decide))
      rw [← fixed, lowered, last]
      rfl
    have same : lowered digits = digits := lowered_quad (fun c inside => chars c (List.mem_append_right _ inside)) (by
      rw [lowered, tail]
      exact quads)
    have quadSame : digits = quad := same.symm.trans tail
    subst starts ends quadSame
    obtain ⟨v4, rfl, pair⟩ := readIpv6Addr_mapped marker marked quads (by simpa using read)
    exact ⟨v4, rfl, .inl ⟨shape, pair⟩⟩
  · have fixed : lowered text = text := by
      refine lowered_solid chars fun c inside => ?_
      rw [shape] at inside
      rcases List.mem_append.mp inside with colon | within
      · exact List.all_eq_true.mp (by decide : "::".toList.all solid = true) c colon
      · rcases dottedQuad_chars quads within with digit | rfl
        · simp [solid, digit]
        · rfl
    rw [fixed] at shape
    rw [shape] at read
    obtain ⟨v4, rfl, pair⟩ := readIpv6Addr_compatible quads read
    exact ⟨v4, rfl, .inr ⟨shape, pair⟩⟩

/-- The check judges the other spellings by their first group and by their look. -/
theorem unmapped_blocked (read : readIpv6Addr text = some segments) : ':' ∈ lowered text ∧
    blockedName (lowered text) = (decide (lowered text = "::".toList ∨ lowered text = "::1".toList) ||
      (segments.headD 0 &&& 0xfe00 == 0xfc00 || segments.headD 0 &&& 0xffc0 == 0xfe80)) := by
  have chars := lowered_chars (readIpv6Addr_chars read)
  rcases readIpv6Addr_front read with ⟨more, rfl, zero⟩ | ⟨digits, more, group, rfl, first⟩
  · have colon : ':' ∈ lowered (':' :: ':' :: more) := List.mem_cons_self ..
    refine ⟨colon, ?_⟩
    have start : octalStart (lowered (':' :: ':' :: more)) = false := rfl
    have groups : uniqueOrLinkLocal (lowered (':' :: ':' :: more)) = false := rfl
    rw [blockedName_address chars colon start, groups, zero]
    rfl
  · have shape : lowered (digits ++ ':' :: more) = lowered digits ++ ':' :: lowered more := by simp [lowered]
    have colon : ':' ∈ lowered (digits ++ ':' :: more) := by rw [shape]; simp
    have start : octalStart (lowered (digits ++ ':' :: more)) = false := by
      rw [shape]
      exact octalStart_group fun c inside => (group.lowered c inside).2.2
    have small : digitsNumber 16 digits < 65536 := Nat.lt_succ_of_le group.small
    have mask (m v : UInt16) : ((UInt16.ofNat (digitsNumber 16 digits) &&& m == v) = true) ↔
        digitsNumber 16 digits &&& m.toNat = v.toNat := by
      rw [beq_iff_eq, ← UInt16.toNat_inj, UInt16.toNat_and, UInt16.toNat_ofNat', Nat.mod_eq_of_lt small]
    refine ⟨colon, ?_⟩
    rw [blockedName_address chars colon start, shape, uniqueOrLinkLocal_group group, first]
    congr 1
    rw [Bool.eq_iff_iff, decide_eq_true_iff, Bool.or_eq_true, mask, mask]
    rfl

/-- The check recognises the spelling: an IPv4-mapped address that is blocked has to be
spelled with its dotted quad behind `::ffff:`, `::` and `::1` in the shortest way or with a
quad behind the colons, and no other address may be spelled with a blocked quad there. -/
def Recognised (text : List Char) (addr : Ipv6Addr) : Prop :=
  match addr.toIpv4Mapped with
  | some v4 => isBlockedIpv4 v4 = true → lowered text = "::ffff:".toList ++ v4.text
  | none =>
    if addr.isLoopback || addr.isUnspecified then
      text = "::".toList ∨ text = "::1".toList ∨ text = "::0.0.0.0".toList ∨ text = "::0.0.0.1".toList
    else ∀ v4 : Ipv4Addr, text = "::".toList ++ v4.text → isBlockedIpv4 v4 = false

theorem isBlockedHost_address (ascii : LowersAscii pg) (read : readIpv6Addr text = some segments) :
    isBlockedHost pg (some (String.ofList text)) = blockedName ((mappedV4 (lowered text)).getD (lowered text)) := by
  have colon := (unmapped_blocked read).1
  rw [isBlockedHost, Option.getD_some, lower_address ascii (readIpv6Addr_chars read), if_neg]
  rw [List.isEmpty_iff]
  rintro none
  rw [none] at colon
  cases colon

/-- Shortest spellings, as the parser reads them. -/
theorem short_spellings : readIpv6Addr "::".toList = some [0, 0, 0, 0, 0, 0, 0, 0] ∧
    readIpv6Addr "::1".toList = some [0, 0, 0, 0, 0, 0, 0, 1] := by decide +kernel

theorem lowered_of_solid (plain : text.all solid = true) : lowered text = text := by
  refine (List.map_congr_left fun c inside => ?_).trans (List.map_id text)
  have fixed := List.all_eq_true.mp plain c inside
  simp only [solid, Bool.or_eq_true, beq_iff_eq] at fixed
  rcases fixed with (digit | rfl) | rfl
  · exact toLower_digit digit
  · rfl
  · rfl

theorem lowered_short (chars : ∀ c ∈ text, addressChar c = true) {short : List Char} (plain : short.all solid = true) :
    lowered text = short ↔ text = short := by
  constructor
  · intro same
    rw [← same, lowered_solid chars (by rw [same]; exact List.all_eq_true.mp plain)]
  · rintro rfl
    exact lowered_of_solid plain

theorem solid_text (v4 : Ipv4Addr) : ("::".toList ++ v4.text).all solid = true := by
  rw [List.all_append, Bool.and_eq_true, List.all_eq_true (l := v4.text)]
  refine ⟨rfl, fun c inside => ?_⟩
  rcases text_chars inside with digit | rfl
  · simp [solid, digit]
  · rfl

theorem compatible_special (segments : addr.segments = List.replicate 6 0 ++ v4.pair)
    (special : (addr.isLoopback || addr.isUnspecified) = true) :
    isBlockedIpv4 v4 = true ∧ (v4.text = "0.0.0.0".toList ∨ v4.text = "0.0.0.1".toList) := by
  have bytes (last : UInt16) (same : v4.pair = [0, last]) : v4 = ⟨(toBeBytes 0).1, (toBeBytes 0).2, (toBeBytes last).1,
      (toBeBytes last).2⟩ := by
    obtain ⟨⟨a, b, c, d⟩⟩ := v4
    obtain ⟨front, same⟩ := List.cons.inj same
    obtain ⟨back, -⟩ := List.cons.inj same
    rw [← front, ← back, toBeBytes_fromBeBytes, toBeBytes_fromBeBytes]
  rw [Ipv6Addr.isLoopback, Ipv6Addr.isUnspecified, segments, Bool.or_eq_true, beq_iff_eq, beq_iff_eq] at special
  rcases special with one | zero
  · rw [bytes 1 (List.append_cancel_left (show List.replicate 6 0 ++ [_, _] = List.replicate 6 0 ++ [_, _] from one))]
    exact ⟨rfl, .inr (by decide +kernel)⟩
  · rw [bytes 0 (List.append_cancel_left (show List.replicate 6 0 ++ [_, _] = List.replicate 6 0 ++ [_, _] from zero))]
    exact ⟨rfl, .inl (by decide +kernel)⟩

/-- Where no quad is seen, the check blocks the two shortest spellings and two ranges of the first group. -/
theorem unmapped_agree_iff (read : readIpv6Addr text = some addr.segments) (mapped : mappedV4 (lowered text) = none) :
    blockedName (lowered text) = isBlockedIp (.v6 addr) ↔ Recognised text addr := by
  have chars := readIpv6Addr_chars read
  obtain ⟨shortest, single⟩ := short_spellings
  have compatible (v4 : Ipv4Addr) : text ≠ "::".toList ++ v4.text := by
    intro same
    rw [(lowered_short chars (solid_text v4)).mpr same, (mappedV4_text v4).2] at mapped
    cases mapped
  have marked (v4 : Ipv4Addr) : lowered text ≠ "::ffff:".toList ++ v4.text := by
    intro same
    rw [same, (mappedV4_text v4).1] at mapped
    cases mapped
  have zeros : text = "::".toList → addr.segments = [0, 0, 0, 0, 0, 0, 0, 0] := by
    rintro rfl
    exact Option.some.inj (read.symm.trans shortest)
  have one : text = "::1".toList → addr.segments = [0, 0, 0, 0, 0, 0, 0, 1] := by
    rintro rfl
    exact Option.some.inj (read.symm.trans single)
  have look : decide (lowered text = "::".toList ∨ lowered text = "::1".toList) =
      decide (text = "::".toList ∨ text = "::1".toList) :=
    decide_eq_decide.mpr (or_congr (lowered_short chars (by decide)) (lowered_short chars (by decide)))
  rw [(unmapped_blocked read).2, look, isBlockedIp, Recognised]
  rcases form : addr.toIpv4Mapped with _ | v4
  · dsimp only
    by_cases special : (addr.isLoopback || addr.isUnspecified) = true
    · have head : addr.segments.headD 0 = 0 := by
        rw [Bool.or_eq_true, Ipv6Addr.isLoopback, Ipv6Addr.isUnspecified, beq_iff_eq, beq_iff_eq] at special
        rcases special with same | same <;>
          · rw [same]
            rfl
      have long : text ≠ "::0.0.0.0".toList ∧ text ≠ "::0.0.0.1".toList :=
        ⟨compatible ⟨0, 0, 0, 0⟩, compatible ⟨0, 0, 0, 1⟩⟩
      rw [if_pos special, if_pos special, head, zero_group, Bool.or_false, decide_eq_true_iff]
      refine ⟨fun short => short.imp_right .inl, ?_⟩
      rintro (same | same | same | same)
      · exact .inl same
      · exact .inr same
      · exact absurd same long.1
      · exact absurd same long.2
    · have apart : decide (text = "::".toList ∨ text = "::1".toList) = false := by
        rw [decide_eq_false_iff_not]
        rintro (same | same)
        · exact special (by rw [Ipv6Addr.isLoopback, Ipv6Addr.isUnspecified, zeros same]; rfl)
        · exact special (by rw [Ipv6Addr.isLoopback, Ipv6Addr.isUnspecified, one same]; rfl)
      rw [if_neg special, if_neg special, apart, Bool.false_or]
      exact iff_of_true rfl fun v4 same => absurd same (compatible v4)
  · dsimp only
    obtain ⟨high, low, segments⟩ := toIpv4Mapped_some form
    have apart : decide (text = "::".toList ∨ text = "::1".toList) = false := by
      rw [decide_eq_false_iff_not]
      rintro (same | same)
      · cases (zeros same).symm.trans segments
      · cases (one same).symm.trans segments
    have head : addr.segments.headD 0 = 0 := by
      rw [segments]
      rfl
    rw [apart, head, zero_group, Bool.or_false, eq_comm, ← Bool.not_eq_true]
    exact ⟨fun free blocked => absurd blocked free, fun known blocked => marked v4 (known blocked)⟩

/-- The URL check and the resolver agree on a spelling of an IPv6 address exactly where the
check recognises it. -/
theorem isBlockedHost_ipv6_iff (pg : Pg) (ascii : LowersAscii pg) (text : List Char) (addr : Ipv6Addr)
    (spelled : parseIpv6 text = some addr) :
    isBlockedHost pg (some (String.ofList text)) = isBlockedIp (.v6 addr) ↔ Recognised text addr := by
  have read := parseIpv6_segments spelled
  rw [isBlockedHost_address ascii read]
  rcases mapped : mappedV4 (lowered text) with _ | quad
  · exact unmapped_agree_iff read mapped
  · obtain ⟨v4, rfl, ⟨shape, segments⟩ | ⟨shape, segments⟩⟩ := mapped_cases read mapped
    · have same := toIpv4Mapped_mapped segments
      rw [Option.getD_some, blockedName_text, isBlockedIp, Recognised, same]
      exact iff_of_true rfl fun _ => shape
    · have same := toIpv4Mapped_compatible segments
      rw [Option.getD_some, blockedName_text, isBlockedIp, Recognised, same]
      dsimp only
      by_cases special : (addr.isLoopback || addr.isUnspecified) = true
      · obtain ⟨blocked, short⟩ := compatible_special segments special
        rw [if_pos special, if_pos special, blocked, shape]
        refine iff_of_true rfl ?_
        rcases short with short | short
        · exact .inr (.inr (.inl (by rw [short]; rfl)))
        · exact .inr (.inr (.inr (by rw [short]; rfl)))
      · have head : addr.segments.headD 0 = 0 := by
          rw [segments]
          rfl
        rw [if_neg special, if_neg special, head, zero_group]
        constructor
        · intro free other same
          rw [shape] at same
          rw [← blockedName_text, ← List.append_cancel_left same, blockedName_text, free]
        · exact fun free => free v4 shape

def loopback : Ipv6Addr := ⟨[0, 0, 0, 0, 0, 0, 0, 1], rfl⟩

theorem bare_lowersAscii : LowersAscii .bare where
  dot := rfl
  colon := rfl
  letter _ _ _ := rfl

theorem parseIpv6_eq (read : readIpv6Addr text = some addr.segments) : parseIpv6 text = some addr := by
  unfold parseIpv6
  split
  next segments same =>
    obtain rfl : segments = addr.segments := Option.some.inj (same.symm.trans read)
    rfl
  next none => cases none.symm.trans read

theorem isBlockedHost_ipv6_iff_loopback :
    isBlockedHost .bare (some (String.ofList "::1".toList)) = isBlockedIp (.v6 loopback) ↔ Recognised "::1".toList loopback :=
  isBlockedHost_ipv6_iff .bare bare_lowersAscii "::1".toList loopback (parseIpv6_eq (by decide +kernel))

/-- The loopback address in full is let through by the URL check. -/
theorem not_isBlockedHost_ipv6 : ¬ ∀ (pg : Pg) (text : List Char) (addr : Ipv6Addr), LowersAscii pg → parseIpv6 text = some addr →
    isBlockedHost pg (some (String.ofList text)) = isBlockedIp (.v6 addr) := by
  intro claimed
  have same := claimed .bare "0:0:0:0:0:0:0:1".toList loopback bare_lowersAscii (parseIpv6_eq (by decide +kernel))
  revert same
  decide +kernel

end Allgres
