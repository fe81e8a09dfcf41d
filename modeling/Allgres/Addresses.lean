import Allgres.Url

/-! The addresses that the outbound worker resolves a host to, and how Rust reads an IPv6 address. -/

namespace Allgres

structure Ipv4Addr where
  octets : UInt8 × UInt8 × UInt8 × UInt8

structure Ipv6Addr where
  segments : List UInt16
  eight : segments.length = 8

inductive IpAddr
  | v4 (addr : Ipv4Addr)
  | v6 (addr : Ipv6Addr)

def isBlockedIpv4 (v4 : Ipv4Addr) : Bool :=
  let (a, b, c, _) := v4.octets
  a == 0 || a == 10 || a == 127 ||
  (a == 169 && b == 254) ||
  (a == 172 && decide (16 ≤ b ∧ b ≤ 31)) ||
  (a == 192 && b == 168) ||
  (a == 192 && b == 0 && (c == 0 || c == 2)) ||
  (a == 198 && (b == 18 || b == 19)) ||
  (a == 100 && decide (64 ≤ b ∧ b ≤ 127)) ||
  decide (224 ≤ a)

/-- `u16::from_be_bytes`. -/
def fromBeBytes (high low : UInt8) : UInt16 := UInt16.ofNat (high.toNat * 256 + low.toNat)

def toBeBytes (segment : UInt16) : UInt8 × UInt8 := (UInt8.ofNat (segment.toNat / 256), UInt8.ofNat (segment.toNat % 256))

def Ipv6Addr.toIpv4Mapped (v6 : Ipv6Addr) : Option Ipv4Addr :=
  match v6.segments with
  | [0, 0, 0, 0, 0, 0xffff, high, low] =>
    some ⟨(toBeBytes high).1, (toBeBytes high).2, (toBeBytes low).1, (toBeBytes low).2⟩
  | _ => none

def Ipv6Addr.isLoopback (v6 : Ipv6Addr) : Bool := v6.segments == [0, 0, 0, 0, 0, 0, 0, 1]

def Ipv6Addr.isUnspecified (v6 : Ipv6Addr) : Bool := v6.segments == [0, 0, 0, 0, 0, 0, 0, 0]

def isBlockedIp : IpAddr → Bool
  | .v4 v4 => isBlockedIpv4 v4
  | .v6 v6 =>
    match v6.toIpv4Mapped with
    | some v4 => isBlockedIpv4 v4
    | none =>
      if v6.isLoopback || v6.isUnspecified then true
      else
        let first := v6.segments.headD 0
        first &&& 0xfe00 == 0xfc00 || first &&& 0xffc0 == 0xfe80

/-! ### Rust's parser -/

/-- `char::to_digit` for a radix of 10 or 16. -/
def toDigit (radix : Nat) (c : Char) : Option Nat :=
  if c.isDigit then some (c.toNat - 48)
  else if radix = 16 ∧ 'a' ≤ c ∧ c ≤ 'f' then some (c.toNat - 87)
  else if radix = 16 ∧ 'A' ≤ c ∧ c ≤ 'F' then some (c.toNat - 55)
  else none

def digitsNumber (radix : Nat) (digits : List Char) : Nat :=
  digits.foldl (fun value c => value * radix + (toDigit radix c).getD 0) 0

/-- `Parser::read_number` for a type whose largest value is given. -/
def readNumber (radix maxDigits : Nat) (allowZeroStart : Bool) (max : Nat) (text : List Char) : Option (Nat × List Char) :=
  let digits := text.takeWhile fun c => (toDigit radix c).isSome
  if maxDigits < digits.length then none
  else if digits.length = 0 then none
  else if !allowZeroStart && text.head? == some '0' && decide (1 < digits.length) then none
  else
    let value := digitsNumber radix digits
    if value ≤ max then some (value, text.drop digits.length) else none

/-- `Parser::read_separator`: the separator stands in front of every part but the first. -/
def readSeparator {α : Type} (separator : Char) (first : Bool) (inner : List Char → Option (α × List Char))
    (text : List Char) : Option (α × List Char) :=
  if first then inner text
  else match text with
    | c :: rest => if c = separator then inner rest else none
    | [] => none

def readOctet (first : Bool) (text : List Char) : Option (UInt8 × List Char) :=
  (readSeparator '.' first (readNumber 10 3 false 255) text).map fun read => (UInt8.ofNat read.1, read.2)

def readIpv4Addr (text : List Char) : Option (Ipv4Addr × List Char) :=
  (readOctet true text).bind fun (a, text) =>
  (readOctet false text).bind fun (b, text) =>
  (readOctet false text).bind fun (c, text) =>
  (readOctet false text).map fun (d, text) => (⟨a, b, c, d⟩, text)

/-- The groups that are read, whether the last two are an IPv4 address, and what is left. -/
abbrev Groups := List UInt16 × Bool × List Char

/-- The loop of `read_groups`, with so many groups left. -/
def readGroups (first : Bool) : Nat → List Char → Groups
  | 0, text => ([], false, text)
  | left + 1, text =>
    match if 0 < left then readSeparator ':' first readIpv4Addr text else none with
    | some (v4, rest) =>
      ([fromBeBytes v4.octets.1 v4.octets.2.1, fromBeBytes v4.octets.2.2.1 v4.octets.2.2.2], true, rest)
    | none =>
      match readSeparator ':' first (readNumber 16 4 true 65535) text with
      | some (group, rest) =>
        let (groups, v4, rest) := readGroups false left rest
        (UInt16.ofNat group :: groups, v4, rest)
      | none => ([], false, text)

/-- `Parser::read_ipv6_addr`, at the end of the text. -/
def readIpv6Addr (text : List Char) : Option (List UInt16) :=
  let (head, headIpv4, rest) := readGroups true 8 text
  if head.length = 8 then
    if rest = [] then some head else none
  else if headIpv4 then none
  else match rest with
    | ':' :: ':' :: rest =>
      let (tail, _, rest) := readGroups true (7 - head.length) rest
      if rest = [] then some (head ++ List.replicate (8 - head.length - tail.length) 0 ++ tail) else none
    | _ => none

theorem readGroups_length (first : Bool) (left : Nat) (text : List Char) : (readGroups first left text).1.length ≤ left := by
  induction left generalizing first text with
  | zero => exact Nat.le_refl 0
  | succ left ih =>
    rw [readGroups]
    split
    next v4 rest read =>
      have more : 0 < left := by
        by_contra none
        rw [if_neg none] at read
        cases read
      simp only [List.length_cons, List.length_nil]
      omega
    · split
      next group rest _ =>
        have tail := ih false rest
        simp only [List.length_cons]
        omega
      · exact Nat.zero_le _

theorem readIpv6Addr_eight {text : List Char} {segments : List UInt16} (read : readIpv6Addr text = some segments) :
    segments.length = 8 := by
  unfold readIpv6Addr at read
  have front := readGroups_length true 8 text
  dsimp only at read
  split_ifs at read with whole
  · obtain rfl := Option.some.inj read
    exact whole
  · split at read
    next behind _ =>
      split_ifs at read
      obtain rfl := Option.some.inj read
      have back := readGroups_length true (7 - (readGroups true 8 text).1.length) behind
      simp only [List.length_append, List.length_replicate]
      omega
    · cases read

/-- `Ipv6Addr::from_str`. -/
def parseIpv6 (text : List Char) : Option Ipv6Addr :=
  match read : readIpv6Addr text with
  | some segments => some ⟨segments, readIpv6Addr_eight read⟩
  | none => none

end Allgres
