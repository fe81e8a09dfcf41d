import Mathlib.Data.List.DropRight
import Mathlib.Data.String.Basic
import Mathlib.Data.Rat.Defs
import Mathlib.Algebra.Order.Ring.Rat

/-! Text functions and input conversions of the SQL types, in the form in
which they do not depend on a locale. -/

namespace Sql

def trimLeft (drop : Char → Bool) (text : String) : String :=
  String.ofList (text.toList.dropWhile drop)

def trimRight (drop : Char → Bool) (text : String) : String :=
  String.ofList (text.toList.rdropWhile drop)

/-- `btrim(text)`, which removes blanks only. -/
def btrim (text : String) : String :=
  trimRight (· == ' ') (trimLeft (· == ' ') text)

/-- Nothing is cut from the end before a character that stays. -/
theorem rdropWhile_append_kept {α : Type} {drop : α → Bool} {last : α} (stays : drop last = false)
    (front more : List α) : (front ++ [last] ++ more).rdropWhile drop = front ++ [last] ++ more.rdropWhile drop := by
  induction more using List.reverseRecOn with
  | nil => rw [List.append_nil, List.rdropWhile_nil, List.append_nil, List.rdropWhile_concat_neg _ _ _ (by simp [stays])]
  | append_singleton more c ih =>
    rw [← List.append_assoc, List.rdropWhile_concat, List.rdropWhile_concat, ih]
    split
    · rfl
    · rw [List.append_assoc _ more]

def left (text : String) (count : Nat) : String :=
  String.ofList (text.toList.take count)

/-- `NULLIF(text, '')`. -/
def nonEmpty : Option String → Option String
  | some text => if text == "" then none else some text
  | none => none

private def isBlank (c : Char) : Bool :=
  c == ' ' || c == '\t' || c == '\n' || c == '\r' || c == '\x0b' || c == '\x0c'

private def stripBlanks (text : String) : List Char :=
  (text.toList.dropWhile isBlank).rdropWhile isBlank

private def startsTrue : List String := ["t", "tr", "tru", "true", "y", "ye", "yes", "on", "1"]

private def startsFalse : List String := ["f", "fa", "fal", "fals", "false", "n", "no", "of", "off", "0"]

/-- `text::boolean`; `none` where the conversion raises. -/
def toBoolean (text : String) : Option Bool :=
  let word := (String.ofList (stripBlanks text)).toLower
  if startsTrue.contains word then some true
  else if startsFalse.contains word then some false
  else none

private def digitIn (base : Nat) (c : Char) : Option Nat :=
  let value :=
    if c.isDigit then c.toNat - 48
    else if 'a' ≤ c ∧ c ≤ 'f' then c.toNat - 87
    else if 'A' ≤ c ∧ c ≤ 'F' then c.toNat - 55
    else base
  if value < base then some value else none

/-- Digits with single separators between them; `started` says whether a
separator may come next. -/
private def scanDigits (base : Nat) : Bool → Nat → List Char → Option Nat
  | started, value, [] => if started then some value else none
  | started, value, '_' :: c :: rest =>
    match digitIn base c with
    | some digit => if started then scanDigits base true (value * base + digit) rest else none
    | none => none
  | _, value, c :: rest =>
    match digitIn base c with
    | some digit => scanDigits base true (value * base + digit) rest
    | none => none

private def scanPrefixed (base : Nat) : List Char → Option Nat
  | '_' :: rest => scanDigits base false 0 rest
  | rest => scanDigits base false 0 rest

private def unsigned : List Char → Option Nat
  | '0' :: 'x' :: rest => scanPrefixed 16 rest
  | '0' :: 'X' :: rest => scanPrefixed 16 rest
  | '0' :: 'o' :: rest => scanPrefixed 8 rest
  | '0' :: 'O' :: rest => scanPrefixed 8 rest
  | '0' :: 'b' :: rest => scanPrefixed 2 rest
  | '0' :: 'B' :: rest => scanPrefixed 2 rest
  | rest => scanDigits 10 false 0 rest

/-- `text::int`; `none` where the conversion raises. -/
def toInt (text : String) : Option Int :=
  let signed : Option Int := match stripBlanks text with
    | '-' :: rest => (unsigned rest).map fun value => -(value : Int)
    | '+' :: rest => (unsigned rest).map fun value => (value : Int)
    | rest => (unsigned rest).map fun value => (value : Int)
  signed.filter fun value => decide (-2147483648 ≤ value ∧ value ≤ 2147483647)

/-- Thirty-two hexadecimal digits, with an optional hyphen after every fourth. -/
private def scanUuid : Nat → Nat → List Char → Option (Nat × List Char)
  | 0, value, rest => some (value, rest)
  | left + 2, value, a :: b :: c :: d :: rest => do
    let a ← digitIn 16 a
    let b ← digitIn 16 b
    let c ← digitIn 16 c
    let d ← digitIn 16 d
    let value := (((value * 16 + a) * 16 + b) * 16 + c) * 16 + d
    match left, rest with
    | _ + 1, '-' :: rest => scanUuid left value rest
    | _, rest => scanUuid left value rest
  | _, _, _ => none

/-- `text::uuid`; `none` where the conversion raises. -/
def toUuid (text : String) : Option Nat :=
  match text.toList with
  | '\x7b' :: rest =>
    match scanUuid 16 0 rest with
    | some (value, ['\x7d']) => some value
    | _ => none
  | rest =>
    match scanUuid 16 0 rest with
    | some (value, []) => some value
    | _ => none

private def hexChar (value : Nat) : Char :=
  if value < 10 then Char.ofNat (48 + value) else Char.ofNat (87 + value)

private def hexDigits : Nat → Nat → List Char → List Char
  | 0, _, acc => acc
  | count + 1, value, acc => hexDigits count (value / 16) (hexChar (value % 16) :: acc)

/-- `id::text`. -/
def uuidText (id : Nat) : String :=
  let hex := hexDigits 32 id []
  String.ofList (hex.take 8 ++ '-' :: (hex.drop 8).take 4 ++ '-' :: (hex.drop 12).take 4 ++
    '-' :: (hex.drop 16).take 4 ++ '-' :: hex.drop 20)

private theorem hexDigits_append (count value : Nat) (acc : List Char) :
    hexDigits count value acc = hexDigits count value [] ++ acc := by
  induction count generalizing value acc with
  | zero => rfl
  | succ count ih => rw [hexDigits, hexDigits, ih, ih _ [_], List.append_assoc, List.singleton_append]

private theorem hexDigits_succ (count value : Nat) :
    hexDigits (count + 1) value [] = hexDigits count (value / 16) [] ++ [hexChar (value % 16)] := by
  rw [hexDigits, hexDigits_append]

private theorem length_hexDigits (count value : Nat) : (hexDigits count value []).length = count := by
  induction count generalizing value with
  | zero => rfl
  | succ count ih => rw [hexDigits_succ, List.length_append, ih, List.length_singleton]

private theorem hexChar_ne {value : Nat} (small : value < 16) : (hexChar value != '-') = true := by
  revert value
  decide

private theorem hexDigits_ne (count value : Nat) : ∀ c ∈ hexDigits count value [], (c != '-') = true := by
  induction count generalizing value with
  | zero => simp [hexDigits]
  | succ count ih =>
    intro c member
    rw [hexDigits_succ] at member
    rcases List.mem_append.mp member with front | last
    · exact ih _ c front
    · rw [List.mem_singleton.mp last]
      exact hexChar_ne (Nat.mod_lt _ (by decide))

private theorem hexDigits_inj {count value value' : Nat} (small : value < 16 ^ count) (small' : value' < 16 ^ count)
    (same : hexDigits count value [] = hexDigits count value' []) : value = value' := by
  have digit : ∀ a < 16, ∀ b < 16, hexChar a = hexChar b → a = b := by decide
  induction count generalizing value value' with
  | zero => omega
  | succ count ih =>
    rw [hexDigits_succ, hexDigits_succ] at same
    obtain ⟨front, last⟩ := List.append_inj' same rfl
    have low := digit _ (Nat.mod_lt _ (by decide)) _ (Nat.mod_lt _ (by decide)) (List.cons.inj last).1
    have high := ih (by omega) (by omega) front
    omega

private theorem filter_uuidText (id : Nat) : (uuidText id).toList.filter (· != '-') = hexDigits 32 id [] := by
  have parts (hex : List Char) : hex.take 8 ++ ((hex.drop 8).take 4 ++ ((hex.drop 12).take 4 ++
      ((hex.drop 16).take 4 ++ hex.drop 20))) = hex := by
    rw [← List.drop_drop (i := 4) (j := 16), List.take_append_drop, ← List.drop_drop (i := 4) (j := 12),
      List.take_append_drop, ← List.drop_drop (i := 4) (j := 8), List.take_append_drop, List.take_append_drop]
  have solid := hexDigits_ne 32 id
  have kept {part : List Char} (inside : part ⊆ hexDigits 32 id []) : part.filter (· != '-') = part :=
    List.filter_eq_self.mpr fun c member => solid c (inside member)
  rw [uuidText, String.toList_ofList]
  simp only [List.filter_append, List.append_assoc, List.filter_cons, bne_self_eq_false, Bool.false_eq_true, if_false]
  rw [kept (List.take_subset _ _), kept (List.Subset.trans (List.take_subset _ _) (List.drop_subset _ _)),
    kept (List.Subset.trans (List.take_subset _ _) (List.drop_subset _ _)),
    kept (List.Subset.trans (List.take_subset _ _) (List.drop_subset _ _)), kept (List.drop_subset _ _), parts]

/-- A `uuid` has 128 bits. -/
theorem uuidText_inj {id id' : Nat} (fits : id < 2 ^ 128) (fits' : id' < 2 ^ 128)
    (same : uuidText id = uuidText id') : id = id' := by
  have hex := congrArg (fun text => text.toList.filter (· != '-')) same
  simp only [filter_uuidText] at hex
  exact hexDigits_inj (by omega) (by omega) hex

/-- `[0-9a-f]`. -/
def isLowerHex (c : Char) : Bool := c.isDigit || (decide ('a' ≤ c) && decide (c ≤ 'f'))

private theorem isLowerHex_hexDigits (count value : Nat) : ∀ c ∈ hexDigits count value [], isLowerHex c = true := by
  have digit : ∀ value < 16, isLowerHex (hexChar value) = true := by decide
  induction count generalizing value with
  | zero => simp [hexDigits]
  | succ count ih =>
    intro c member
    rw [hexDigits_succ] at member
    rcases List.mem_append.mp member with front | last
    · exact ih _ c front
    · rw [List.mem_singleton.mp last]
      exact digit _ (Nat.mod_lt _ (by decide))

/-- The text of a `uuid` is 32 digits in five groups. -/
theorem uuidText_digits (id : Nat) : ((uuidText id).toList.filter (· != '-')).length = 32 ∧
    (∀ c ∈ (uuidText id).toList.filter (· != '-'), isLowerHex c = true) ∧
    uuidText id = (fun hex : List Char => String.ofList (hex.take 8 ++ '-' :: (hex.drop 8).take 4 ++
      '-' :: (hex.drop 12).take 4 ++ '-' :: (hex.drop 16).take 4 ++ '-' :: hex.drop 20))
      ((uuidText id).toList.filter (· != '-')) := by
  rw [filter_uuidText]
  exact ⟨length_hexDigits 32 id, isLowerHex_hexDigits 32 id, rfl⟩

theorem length_uuidText (id : Nat) : (uuidText id).toList.length = 36 := by
  have digits := length_hexDigits 32 id
  rw [uuidText, String.toList_ofList]
  simp [digits]

/-! ### Reading a `uuid` back -/

private theorem digitIn_hexChar {value : Nat} (small : value < 16) : digitIn 16 (hexChar value) = some value := by
  revert value
  decide

private theorem digitIn_lt {base digit : Nat} {c : Char} (read : digitIn base c = some digit) : digit < base := by
  unfold digitIn at read
  grind

private theorem hexDigits_four (value : Nat) : hexDigits 4 value [] = [hexChar (value / 16 / 16 / 16 % 16),
    hexChar (value / 16 / 16 % 16), hexChar (value / 16 % 16), hexChar (value % 16)] := rfl

private theorem fourDigits (value group : Nat) :
    (((value * 16 + group / 16 / 16 / 16 % 16) * 16 + group / 16 / 16 % 16) * 16 + group / 16 % 16) * 16 +
      group % 16 = value * 65536 + group % 65536 := by omega

/-- A hyphen may follow four digits, if there are more digits to come. -/
private theorem scanUuid_hyphen (left value group : Nat) (rest : List Char) :
    scanUuid (left + 3) value (hexDigits 4 group [] ++ '-' :: rest) =
      scanUuid (left + 1) (value * 65536 + group % 65536) rest := by
  have read (value : Nat) : digitIn 16 (hexChar (value % 16)) = some (value % 16) :=
    digitIn_hexChar (Nat.mod_lt value (by decide))
  rw [hexDigits_four, ← fourDigits]
  simp only [List.cons_append, List.nil_append, scanUuid, read, Option.bind_eq_bind, Option.bind_some]

private theorem scanUuid_solid (left value group : Nat) {rest : List Char} (solid : ∀ c ∈ rest.head?, (c != '-') = true) :
    scanUuid (left + 2) value (hexDigits 4 group [] ++ rest) =
      scanUuid left (value * 65536 + group % 65536) rest := by
  have read (value : Nat) : digitIn 16 (hexChar (value % 16)) = some (value % 16) :=
    digitIn_hexChar (Nat.mod_lt value (by decide))
  rw [hexDigits_four, ← fourDigits]
  simp only [List.cons_append, List.nil_append, scanUuid, read, Option.bind_eq_bind, Option.bind_some]
  split
  · exact absurd (solid '-' rfl) (by decide)
  · rfl

private theorem hexDigits_add (front count value : Nat) :
    hexDigits (front + count) value [] = hexDigits front (value / 16 ^ count) [] ++ hexDigits count value [] := by
  induction count generalizing value with
  | zero => simp [hexDigits]
  | succ count ih =>
    rw [← Nat.add_assoc, hexDigits_succ, ih, hexDigits_succ count, ← List.append_assoc, Nat.div_div_eq_div_mul,
      Nat.pow_succ']

/-- The digits of a `uuid` in groups of four. -/
private theorem hexDigits_groups (id : Nat) : hexDigits 32 id [] =
    hexDigits 4 (id / 16 ^ 28) [] ++ (hexDigits 4 (id / 16 ^ 24) [] ++ (hexDigits 4 (id / 16 ^ 20) [] ++
      (hexDigits 4 (id / 16 ^ 16) [] ++ (hexDigits 4 (id / 16 ^ 12) [] ++ (hexDigits 4 (id / 16 ^ 8) [] ++
        (hexDigits 4 (id / 16 ^ 4) [] ++ hexDigits 4 id [])))))) := by
  have split (count value : Nat) : hexDigits (count + 4) value [] =
      hexDigits count (value / 16 ^ 4) [] ++ hexDigits 4 value [] := hexDigits_add count 4 value
  rw [split 28, split 24, split 20, split 16, split 12, split 8, split 4]
  simp only [Nat.div_div_eq_div_mul, ← Nat.pow_add, List.append_assoc]

/-- The text of a `uuid` is read back. -/
theorem toUuid_uuidText {id : Nat} (fits : id < 2 ^ 128) : toUuid (uuidText id) = some id := by
  have four (value : Nat) : (hexDigits 4 value []).length = 4 := length_hexDigits 4 value
  have solid (value : Nat) (rest : List Char) : ∀ c ∈ (hexDigits 4 value [] ++ rest).head?, (c != '-') = true := by
    intro c first
    rw [hexDigits_four] at first
    obtain rfl := Option.some.inj first
    exact hexChar_ne (Nat.mod_lt _ (by decide))
  have text : (uuidText id).toList = hexDigits 4 (id / 16 ^ 28) [] ++ (hexDigits 4 (id / 16 ^ 24) [] ++
      '-' :: (hexDigits 4 (id / 16 ^ 20) [] ++ '-' :: (hexDigits 4 (id / 16 ^ 16) [] ++
        '-' :: (hexDigits 4 (id / 16 ^ 12) [] ++ '-' :: (hexDigits 4 (id / 16 ^ 8) [] ++
          (hexDigits 4 (id / 16 ^ 4) [] ++ (hexDigits 4 id [] ++ []))))))) := by
    have whole {count : Nat} (long : 4 ≤ count) (value : Nat) :
        (hexDigits 4 value []).take count = hexDigits 4 value [] := List.take_of_length_le (by rw [four]; exact long)
    have gone {count : Nat} (long : 4 ≤ count) (value : Nat) : (hexDigits 4 value []).drop count = [] :=
      List.drop_of_length_le (by rw [four]; exact long)
    rw [uuidText, String.toList_ofList, hexDigits_groups]
    simp [List.take_append, List.drop_append, four, whole, gone]
  have scanned : scanUuid 16 0 (uuidText id).toList = some (id, []) := by
    rw [text, scanUuid_solid 14 _ _ (solid _ _), scanUuid_hyphen 11, scanUuid_hyphen 9, scanUuid_hyphen 7,
      scanUuid_hyphen 5, scanUuid_solid 4 _ _ (solid _ _), scanUuid_solid 2 _ _ (solid _ _), scanUuid_solid 0]
    · rw [scanUuid]
      exact congrArg (fun value => some (value, [])) (by omega)
    · simp
  unfold toUuid
  split
  · rename_i rest same
    rw [text, hexDigits_four] at same
    have brace := (List.cons.inj same).1
    have small : id / 16 ^ 28 / 16 / 16 / 16 % 16 < 16 := Nat.mod_lt _ (by decide)
    have plain : ∀ value < 16, hexChar value ≠ '\x7b' := by decide
    exact absurd brace (plain _ small)
  · rw [scanned]

private theorem scanUuid_lt {left value read : Nat} {chars rest : List Char}
    (scanned : scanUuid left value chars = some (read, rest)) : read < (value + 1) * 256 ^ left := by
  induction left using Nat.strong_induction_on generalizing value chars with
  | h left ih =>
    unfold scanUuid at scanned
    split at scanned
    · obtain ⟨rfl, -⟩ := Prod.mk.inj (Option.some.inj scanned)
      simp
    · rename_i left a b c d rest
      simp only [Option.bind_eq_bind, Option.bind_eq_some_iff] at scanned
      obtain ⟨a, first, b, second, c, third, d, fourth, scanned⟩ := scanned
      have bounds := And.intro (And.intro (digitIn_lt first) (digitIn_lt second))
        (And.intro (digitIn_lt third) (digitIn_lt fourth))
      have below : read < ((((value * 16 + a) * 16 + b) * 16 + c) * 16 + d + 1) * 256 ^ left := by
        split at scanned
        · exact ih _ (by omega) scanned
        · exact ih _ (by omega) scanned
      have grown : (((value * 16 + a) * 16 + b) * 16 + c) * 16 + d + 1 ≤ (value + 1) * 65536 := by omega
      calc read < ((((value * 16 + a) * 16 + b) * 16 + c) * 16 + d + 1) * 256 ^ left := below
        _ ≤ (value + 1) * 65536 * 256 ^ left := Nat.mul_le_mul_right _ grown
        _ = (value + 1) * 256 ^ (left + 2) := by rw [Nat.mul_assoc, Nat.pow_add, Nat.mul_comm (256 ^ left)]
    · cases scanned

/-- A `uuid` that was read has 128 bits. -/
theorem toUuid_lt {text : String} {id : Nat} (read : toUuid text = some id) : id < 2 ^ 128 := by
  have bound : (0 + 1) * 256 ^ 16 = 2 ^ 128 := by decide
  rw [← bound]
  unfold toUuid at read
  split at read
  · split at read
    · rename_i scanned
      rw [← Option.some.inj read]
      exact scanUuid_lt scanned
    · cases read
  · split at read
    · rename_i scanned
      rw [← Option.some.inj read]
      exact scanUuid_lt scanned
    · cases read

/-! ### Which numbers are integers -/

private theorem digitIn_digit {c : Char} (digit : c.isDigit = true) : digitIn 10 c = some (c.toNat - 48) := by
  have bounds := digit
  simp only [Char.isDigit, Bool.and_eq_true, decide_eq_true_eq] at bounds
  have high : c.toNat ≤ 57 := bounds.2
  have small : c.toNat - 48 < 10 := by omega
  simp only [digitIn, digit, if_true, small]

private theorem digitIn_point (base : Nat) : digitIn base '.' = none := by
  simp [digitIn]

private theorem scanDigits_digits {chars : List Char} (digits : ∀ c ∈ chars, c.isDigit = true) (value : Nat) :
    scanDigits 10 true value chars = some (Nat.ofDigitChars 10 chars value) := by
  induction chars generalizing value with
  | nil => rfl
  | cons c rest ih =>
    have digit := digits c List.mem_cons_self
    unfold scanDigits
    split
    · rename_i same
      cases same
    · rename_i same
      obtain ⟨rfl, -⟩ := List.cons.inj same
      cases digit
    · rename_i same
      obtain ⟨rfl, rfl⟩ := List.cons.inj same
      rw [digitIn_digit digit, Nat.ofDigitChars_cons, Nat.mul_comm 10]
      exact ih (fun d member => digits d (List.mem_cons_of_mem _ member)) _

private theorem scanDigits_point {base : Nat} {started : Bool} {value : Nat} {chars : List Char}
    (point : '.' ∈ chars) : scanDigits base started value chars = none := by
  fun_induction scanDigits base started value chars <;> grind [digitIn_point]

private theorem unsigned_point {chars : List Char} (point : '.' ∈ chars) : unsigned chars = none := by
  have prefixed (base : Nat) (rest : List Char) (point : '.' ∈ rest) : scanPrefixed base rest = none := by
    unfold scanPrefixed
    split
    · rename_i tail
      have inside : '.' ∈ tail := by simpa using point
      exact scanDigits_point inside
    · exact scanDigits_point point
  unfold unsigned
  split <;> first | exact scanDigits_point point | exact prefixed _ _ (by simpa using point)

/-- What is dropped satisfies the condition. -/
private theorem mem_dropWhile {drop : Char → Bool} {chars : List Char} {c : Char} (member : c ∈ chars)
    (solid : drop c = false) : c ∈ chars.dropWhile drop := by
  have split : chars.takeWhile drop ++ chars.dropWhile drop = chars := List.takeWhile_append_dropWhile
  rw [← split, List.mem_append] at member
  rcases member with dropped | kept
  · have blank := List.mem_takeWhile_imp dropped
    rw [solid] at blank
    cases blank
  · exact kept

private theorem mem_rdropWhile {drop : Char → Bool} {chars : List Char} {c : Char} (member : c ∈ chars)
    (solid : drop c = false) : c ∈ chars.rdropWhile drop := by
  rw [List.rdropWhile, List.mem_reverse]
  exact mem_dropWhile (List.mem_reverse.mpr member) solid

theorem btrim_ne_empty {text : String} {c : Char} (member : c ∈ text.toList) (solid : c ≠ ' ') : btrim text ≠ "" := by
  have kept : c ∈ (btrim text).toList := by
    simp only [btrim, trimLeft, trimRight, String.toList_ofList]
    exact mem_rdropWhile (mem_dropWhile member (by simpa using solid)) (by simpa using solid)
  intro empty
  rw [empty] at kept
  cases kept

private theorem mem_stripBlanks {text : String} {c : Char} (member : c ∈ text.toList) (solid : isBlank c = false) :
    c ∈ stripBlanks text := mem_rdropWhile (mem_dropWhile member solid) solid

/-- A number with a point is not taken for an integer, even if nothing but zeros follow it. -/
theorem toInt_point {text : String} (point : '.' ∈ text.toList) : toInt text = none := by
  have inside := mem_stripBlanks point (by decide)
  unfold toInt
  split
  · rename_i rest same
    rw [same] at inside
    rw [unsigned_point (by simpa using inside)]
    rfl
  · rename_i rest same
    rw [same] at inside
    rw [unsigned_point (by simpa using inside)]
    rfl
  · rw [unsigned_point inside]
    rfl

private theorem stripBlanks_digits {text : String} (digits : ∀ c ∈ text.toList, c.isDigit = true) :
    stripBlanks text = text.toList := by
  have solid (c : Char) (digit : c.isDigit = true) : isBlank c = false := by
    rw [Bool.eq_false_iff]
    intro blank
    simp only [isBlank, Bool.or_eq_true, beq_iff_eq] at blank
    rcases blank with ((((rfl | rfl) | rfl) | rfl) | rfl) | rfl <;> cases digit
  have kept (chars : List Char) (digits : ∀ c ∈ chars, c.isDigit = true) : chars.dropWhile isBlank = chars := by
    cases chars with
    | nil => rfl
    | cons c rest => rw [List.dropWhile_cons_of_neg (by rw [solid c (digits c List.mem_cons_self)]; decide)]
  rw [stripBlanks, kept _ digits, List.rdropWhile, kept _ fun c member => digits c (List.mem_reverse.mp member),
    List.reverse_reverse]

private theorem unsigned_digits {chars : List Char} (digits : ∀ c ∈ chars, c.isDigit = true) (some : chars ≠ []) :
    unsigned chars = .some (Nat.ofDigitChars 10 chars 0) := by
  have prefixed (c : Char) (rest : List Char) (same : chars = '0' :: c :: rest) (letter : c.isDigit = false) : False := by
    have digit := digits c (by simp [same])
    rw [letter] at digit
    cases digit
  unfold unsigned
  split
  case h_7 =>
    rcases chars with _ | ⟨c, rest⟩
    · exact absurd rfl some
    · have digit := digits c List.mem_cons_self
      have scanned := scanDigits_digits digits 0
      unfold scanDigits at scanned ⊢
      split at scanned <;> simp_all
  all_goals exact (prefixed _ _ rfl rfl).elim

theorem toInt_repr {n : Nat} (small : n ≤ 2147483647) : toInt n.repr = some (n : Int) := by
  have listed : n.repr.toList = Nat.toDigits 10 n := Nat.toList_repr
  have digits : ∀ c ∈ n.repr.toList, c.isDigit = true := by
    rw [listed]
    intro c member
    exact Nat.isDigit_of_mem_toDigits (by decide) (by decide) member
  have some : n.repr.toList ≠ [] := by
    rw [listed]
    exact Nat.toDigits_ne_nil
  have read : unsigned n.repr.toList = .some n := by
    rw [unsigned_digits digits some, listed, Nat.ofDigitChars_ten_toDigits]
  unfold toInt
  rw [stripBlanks_digits digits]
  split
  · rename_i same
    have sign := digits '-' (by simp [same])
    cases sign
  · rename_i same
    have sign := digits '+' (by simp [same])
    cases sign
  · rw [read]
    have bounds : (-2147483648 : Int) ≤ n ∧ (n : Int) ≤ 2147483647 := by omega
    change Option.filter (fun value : Int => decide (-2147483648 ≤ value ∧ value ≤ 2147483647)) (.some (n : Int)) = _
    rw [Option.filter_some, if_pos (decide_eq_true bounds)]

example : toInt " -12_000 " = some (-12000) := by decide +kernel

/-- A value of type `real`. -/
inductive Real4 where
  | finite (value : ℚ)
  | infinity
  | negInfinity
  | nan

/-- `LEAST(1.0, GREATEST(0.0, value))`; `NaN` counts as the largest value. -/
def Real4.clampUnit : Real4 → ℚ
  | finite value => min 1 (max 0 value)
  | infinity => 1
  | negInfinity => 0
  | nan => 1

example : toUuid (uuidText 3735928559) = some 3735928559 := by decide +kernel

end Sql
