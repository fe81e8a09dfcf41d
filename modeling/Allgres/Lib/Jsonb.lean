import Mathlib.Algebra.Group.Int.Defs
import Mathlib.Data.String.Basic

namespace Jsonb

/-- A `jsonb` value. A number is the `numeric` `mantissa / 10 ^ scale`, so that
its display scale survives; object fields are kept in the stored key order. -/
inductive Json where
  | null
  | bool (value : Bool)
  | num (mantissa : Int) (scale : Nat)
  | str (value : String)
  | arr (items : List Json)
  | obj (fields : List (String × Json))

namespace Json

instance : Inhabited Json := ⟨null⟩

def ofNat (value : Nat) : Json := num value 0

def ofOption {α : Type} (render : α → Json) : Option α → Json
  | none => null
  | some value => render value

def optStr : Option String → Json := ofOption str

/-- Keys are stored by byte length and then bytewise. -/
def keyBefore (a b : String) : Bool :=
  a.utf8ByteSize < b.utf8ByteSize || (a.utf8ByteSize == b.utf8ByteSize && decide (a < b))

def setField (key : String) (value : Json) : List (String × Json) → List (String × Json)
  | [] => [(key, value)]
  | (other, held) :: rest =>
    if other == key then (key, value) :: rest
    else if keyBefore key other then (key, value) :: (other, held) :: rest
    else (other, held) :: setField key value rest

/-- `jsonb_build_object`, and the value of an object literal: the last of two
equal keys wins. -/
def build (fields : List (String × Json)) : Json :=
  obj (fields.foldl (fun held field => setField field.1 field.2 held) [])

def emptyObj : Json := obj []

def isEmptyArr : Json → Bool
  | arr [] => true
  | _ => false

def isEmptyObj : Json → Bool
  | obj [] => true
  | _ => false

def isObj : Json → Bool
  | obj _ => true
  | _ => false

/-- `value -> key`. -/
def get? (value : Json) (key : String) : Option Json :=
  match value with
  | obj fields => fields.lookup key
  | _ => none

/-- `value -> index`, from the front. -/
def item? (value : Json) (index : Nat) : Option Json :=
  match value with
  | arr items => items[index]?
  | _ => none

/-- `value ? key`. -/
def hasKey (value : Json) (key : String) : Bool :=
  match value with
  | obj fields => fields.any fun field => field.1 == key
  | arr items => items.any fun item => match item with
    | str text => text == key
    | _ => false
  | str text => text == key
  | _ => false

def keys : Json → List String
  | obj fields => fields.map Prod.fst
  | _ => []

/-- `value - key`. -/
def remove (value : Json) (key : String) : Json :=
  match value with
  | obj fields => obj (fields.filter fun field => field.1 != key)
  | other => other

private def asItems : Json → List Json
  | arr items => items
  | other => [other]

/-- `left || right`. -/
def concat : Json → Json → Json
  | obj left, obj right => obj (right.foldl (fun held field => setField field.1 field.2 held) left)
  | left, right => arr (left.asItems ++ right.asItems)

def hexDigit (value : Nat) : Char :=
  if value < 10 then Char.ofNat (48 + value) else Char.ofNat (87 + value)

def escapeChar (c : Char) : List Char :=
  match c with
  | '"' => ['\\', '"']
  | '\\' => ['\\', '\\']
  | '\n' => ['\\', 'n']
  | '\r' => ['\\', 'r']
  | '\t' => ['\\', 't']
  | '\x08' => ['\\', 'b']
  | '\x0c' => ['\\', 'f']
  | c => if c.toNat < 32 then ['\\', 'u', '0', '0', hexDigit (c.toNat / 16), hexDigit (c.toNat % 16)] else [c]

def quote (text : String) : String :=
  String.ofList ('"' :: text.toList.flatMap escapeChar ++ ['"'])

/-- `numeric` output with its display scale. -/
def numText (mantissa : Int) (scale : Nat) : String :=
  let sign := if mantissa < 0 then "-" else ""
  let digits := toString mantissa.natAbs
  if scale = 0 then sign ++ digits
  else
    let padded := String.ofList (List.replicate (scale + 1 - digits.length) '0') ++ digits
    let chars := padded.toList
    let whole := chars.length - scale
    sign ++ String.ofList (chars.take whole) ++ "." ++ String.ofList (chars.drop whole)

mutual
/-- `value::text`. -/
def text : Json → String
  | null => "null"
  | bool true => "true"
  | bool false => "false"
  | num mantissa scale => numText mantissa scale
  | str value => quote value
  | arr items => "[" ++ itemsText items ++ "]"
  | obj fields => "\x7b" ++ fieldsText fields ++ "\x7d"

def itemsText : List Json → String
  | [] => ""
  | [item] => text item
  | item :: rest => text item ++ ", " ++ itemsText rest

def fieldsText : List (String × Json) → String
  | [] => ""
  | [(key, value)] => quote key ++ ": " ++ text value
  | (key, value) :: rest => quote key ++ ": " ++ text value ++ ", " ++ fieldsText rest
end

mutual
/-- `jsonb_strip_nulls`: object fields that are null disappear at every depth. -/
def stripNulls : Json → Json
  | arr items => arr (stripItems items)
  | obj fields => obj (stripFields fields)
  | other => other

def stripItems : List Json → List Json
  | [] => []
  | item :: rest => stripNulls item :: stripItems rest

def stripFields : List (String × Json) → List (String × Json)
  | [] => []
  | (_, null) :: rest => stripFields rest
  | (key, value) :: rest => (key, stripNulls value) :: stripFields rest
end

mutual
/-- Equality of `jsonb` values. Numbers are compared by value. -/
def same : Json → Json → Bool
  | null, null => true
  | bool a, bool b => a == b
  | num m s, num n r => m * 10 ^ r == n * 10 ^ s
  | str a, str b => a == b
  | arr a, arr b => sameItems a b
  | obj a, obj b => sameFields a b
  | _, _ => false

def sameItems : List Json → List Json → Bool
  | [], [] => true
  | a :: left, b :: right => same a b && sameItems left right
  | _, _ => false

def sameFields : List (String × Json) → List (String × Json) → Bool
  | [], [] => true
  | (key, a) :: left, (other, b) :: right => key == other && same a b && sameFields left right
  | _, _ => false
end

/-- `jsonb_typeof`. -/
def typeName : Json → String
  | null => "null"
  | bool _ => "boolean"
  | num _ _ => "number"
  | str _ => "string"
  | arr _ => "array"
  | obj _ => "object"

/-- The text of a value as `->>` and `#>>` return it. -/
def asText : Json → Option String
  | null => none
  | str value => some value
  | other => some other.text

/-- `value ->> key`. -/
def getText? (value : Json) (key : String) : Option String :=
  (value.get? key).bind asText

/-! ### The text of numbers -/

theorem numText_whole (n : Nat) : numText n 0 = n.repr := by
  have sign : ¬ (n : Int) < 0 := by omega
  simp only [numText, if_neg sign, if_true, Int.natAbs_natCast, Nat.toString_eq_repr, String.empty_append]

theorem numText_point {mantissa : Int} {scale : Nat} (fraction : scale ≠ 0) : '.' ∈ (numText mantissa scale).toList := by
  have point : '.' ∈ ".".toList := by decide
  simp only [numText, if_neg fraction, String.toList_append, List.mem_append]
  exact .inl (.inr point)

/-! ### The fields of an object -/

theorem mem_setField {key : String} {value : Json} {fields : List (String × Json)} {field : String × Json}
    (member : field ∈ setField key value fields) : field = (key, value) ∨ field ∈ fields := by
  induction fields with
  | nil => exact .inl (List.mem_singleton.mp member)
  | cons head rest ih =>
    simp only [setField] at member
    split_ifs at member with same first
    · rcases List.mem_cons.mp member with new | old
      · exact .inl new
      · exact .inr (List.mem_cons_of_mem _ old)
    · exact List.mem_cons.mp member
    · rcases List.mem_cons.mp member with here | later
      · exact .inr (here ▸ List.mem_cons_self)
      · exact (ih later).imp_right (List.mem_cons_of_mem _)

theorem lookup_setField {key other : String} {value : Json} {fields : List (String × Json)} :
    (setField key value fields).lookup other = if other = key then some value else fields.lookup other := by
  have first (rest : List (String × Json)) :
      ((key, value) :: rest).lookup other = if other = key then some value else rest.lookup other := by
    by_cases same : other = key
    · simp [same]
    · simp only [List.lookup_cons, beq_eq_false_iff_ne.mpr same, if_neg same]
  induction fields with
  | nil => exact first []
  | cons head rest ih =>
    obtain ⟨name, held⟩ := head
    unfold setField
    split
    · rename_i same
      rw [beq_iff_eq] at same
      subst same
      rw [first]
      split
      · rfl
      · rename_i different
        simp only [List.lookup_cons, beq_eq_false_iff_ne.mpr different]
    · split
      · exact first _
      · rename_i apart _
        rw [beq_iff_eq] at apart
        by_cases same : other = name
        · subst same
          simp [apart]
        · simp only [List.lookup_cons, beq_eq_false_iff_ne.mpr same, ih]

theorem hasKey_obj (fields : List (String × Json)) (key : String) :
    (obj fields).hasKey key = (fields.lookup key).isSome := by
  simp only [hasKey]
  induction fields with
  | nil => rfl
  | cons head rest ih =>
    obtain ⟨name, held⟩ := head
    by_cases same : key = name
    · subst same
      simp
    · have apart : (name == key) = false := beq_eq_false_iff_ne.mpr (Ne.symm same)
      simp only [List.any_cons, List.lookup_cons, beq_eq_false_iff_ne.mpr same, apart, Bool.false_or, ih]

/-- The fields of `left || right` come from one of the two. -/
theorem mem_setFields {left right : List (String × Json)} {field : String × Json}
    (member : field ∈ right.foldl (fun held field => setField field.1 field.2 held) left) :
    field ∈ left ∨ field ∈ right := by
  induction right generalizing left with
  | nil => exact .inl member
  | cons head rest ih =>
    rcases ih member with held | later
    · rcases mem_setField held with new | old
      · exact .inr (new ▸ List.mem_cons_self)
      · exact .inl old
    · exact .inr (List.mem_cons_of_mem _ later)

theorem mem_stripFields {fields : List (String × Json)} {key : String} {value : Json}
    (member : (key, value) ∈ stripFields fields) : ∃ old, (key, old) ∈ fields ∧ value = stripNulls old ∧ old ≠ null := by
  induction fields with
  | nil => cases member
  | cons head rest ih =>
    obtain ⟨name, held⟩ := head
    have later (inside : (key, value) ∈ stripFields rest) :
        ∃ old, (key, old) ∈ (name, held) :: rest ∧ value = stripNulls old ∧ old ≠ null := by
      obtain ⟨old, found, kept⟩ := ih inside
      exact ⟨old, List.mem_cons_of_mem _ found, kept⟩
    unfold stripFields at member
    split at member
    · rename_i same
      cases same
    · rename_i same
      obtain ⟨-, rfl⟩ := List.cons.inj same
      exact later member
    · rename_i other present same
      obtain ⟨pair, rfl⟩ := List.cons.inj same
      rcases List.mem_cons.mp member with here | inside
      · obtain ⟨rfl, rfl⟩ := Prod.mk.inj here
        obtain ⟨rfl, rfl⟩ := Prod.mk.inj pair
        exact ⟨held, List.mem_cons_self, rfl, fun none => present none⟩
      · exact later inside

theorem mem_of_lookup {fields : List (String × Json)} {key : String} {value : Json}
    (found : fields.lookup key = some value) : (key, value) ∈ fields := by
  obtain ⟨before, after, same, -⟩ := List.lookup_eq_some_iff.mp found
  rw [same]
  exact List.mem_append_right before List.mem_cons_self

/-- An object has each key once. -/
theorem lookup_of_mem {fields : List (String × Json)} {key : String} {value : Json}
    (distinct : (fields.map Prod.fst).Nodup) (member : (key, value) ∈ fields) : fields.lookup key = some value := by
  obtain ⟨before, after, same⟩ := List.append_of_mem member
  refine List.lookup_eq_some_iff.mpr ⟨before, after, same, fun field inside => ?_⟩
  rw [same, List.map_append, List.map_cons, List.nodup_append] at distinct
  have apart := distinct.2.2 field.1 (List.mem_map_of_mem inside) key List.mem_cons_self
  simpa using apart.symm

/-- One step of a path: `-> 'name'`, `-> position`, or a number in a text path,
which is a position in an array and a key of an object. -/
inductive PathStep
  | key (name : String)
  | index (position : Nat)
  | item (position : Nat)

def step? (value : Json) : PathStep → Option Json
  | .key name => value.get? name
  | .index position => value.item? position
  | .item position => (value.item? position).or (value.get? (toString position))

def at? (value : Json) : List PathStep → Option Json
  | [] => some value
  | step :: rest => (value.step? step).bind fun inner => inner.at? rest

def textAt? (value : Json) (path : List PathStep) : Option String :=
  (value.at? path).bind asText

end Json

/-! ### Input conversion -/

def isSpace (c : Char) : Bool := c == ' ' || c == '\t' || c == '\n' || c == '\r'

def skip (input : List Char) : List Char := input.dropWhile isSpace

def hexValue (c : Char) : Option Nat :=
  if '0' ≤ c ∧ c ≤ '9' then some (c.toNat - 48)
  else if 'a' ≤ c ∧ c ≤ 'f' then some (c.toNat - 87)
  else if 'A' ≤ c ∧ c ≤ 'F' then some (c.toNat - 55)
  else none

def hex4 (a b c d : Char) : Option Nat := do
  let a ← hexValue a
  let b ← hexValue b
  let c ← hexValue c
  let d ← hexValue d
  pure (((a * 16 + b) * 16 + c) * 16 + d)

def unescape (c : Char) : Option Char :=
  match c with
  | '"' => some '"'
  | '\\' => some '\\'
  | '/' => some '/'
  | 'b' => some '\x08'
  | 'f' => some '\x0c'
  | 'n' => some '\n'
  | 'r' => some '\r'
  | 't' => some '\t'
  | _ => none

/-- The rest of a string literal after its opening quote. `jsonb` has no
character zero and no unpaired surrogate. -/
def parseString : List Char → Option (List Char × List Char)
  | [] => none
  | '"' :: rest => some ([], rest)
  | '\\' :: 'u' :: a :: b :: c :: d :: rest =>
    match hex4 a b c d with
    | none => none
    | some code =>
      if code = 0 then none
      else if 0xD800 ≤ code ∧ code < 0xDC00 then
        match rest with
        | '\\' :: 'u' :: e :: f :: g :: h :: rest =>
          match hex4 e f g h with
          | none => none
          | some low =>
            if 0xDC00 ≤ low ∧ low < 0xE000 then
              (parseString rest).map fun (chars, left) =>
                (Char.ofNat (0x10000 + (code - 0xD800) * 0x400 + (low - 0xDC00)) :: chars, left)
            else none
        | _ => none
      else if 0xDC00 ≤ code ∧ code < 0xE000 then none
      else (parseString rest).map fun (chars, left) => (Char.ofNat code :: chars, left)
  | '\\' :: c :: rest =>
    match unescape c with
    | none => none
    | some c => (parseString rest).map fun (chars, left) => (c :: chars, left)
  | c :: rest =>
    if c.toNat < 32 ∨ c = '\\' then none
    else (parseString rest).map fun (chars, left) => (c :: chars, left)

def digitsValue (digits : List Char) : Nat :=
  digits.foldl (fun value c => value * 10 + (c.toNat - 48)) 0

def spanDigits (input : List Char) : List Char × List Char :=
  input.span Char.isDigit

/-- A number of up to 131072 digits before and 16383 after the decimal point. -/
def numeric (negative : Bool) (whole frac : List Char) (exponent : Int) : Option Json :=
  let value : Nat := digitsValue (whole ++ frac)
  let scale : Int := frac.length - exponent
  let size : Int := (toString value).length
  if value ≠ 0 ∧ size - scale > 131072 then none
  else if scale > 16383 then none
  else
    let mantissa : Nat := if scale < 0 then value * 10 ^ min scale.natAbs 131072 else value
    some (.num (if negative then -(mantissa : Int) else mantissa) scale.toNat)

def parseFrac : List Char → Option (List Char × List Char)
  | '.' :: rest =>
    let (frac, rest) := spanDigits rest
    if frac.isEmpty then none else some (frac, rest)
  | rest => some ([], rest)

def parseSigned : List Char → Option (Int × List Char)
  | '-' :: rest =>
    let (digits, rest) := spanDigits rest
    if digits.isEmpty then none else some (-(digitsValue digits : Int), rest)
  | '+' :: rest =>
    let (digits, rest) := spanDigits rest
    if digits.isEmpty then none else some ((digitsValue digits : Int), rest)
  | rest =>
    let (digits, rest) := spanDigits rest
    if digits.isEmpty then none else some ((digitsValue digits : Int), rest)

def parseExponent : List Char → Option (Int × List Char)
  | 'e' :: rest => parseSigned rest
  | 'E' :: rest => parseSigned rest
  | rest => some (0, rest)

def parseNumber (negative : Bool) (input : List Char) : Option (Json × List Char) :=
  let (whole, rest) := spanDigits input
  if whole.isEmpty ∨ (whole.head? = some '0' ∧ 1 < whole.length) then none
  else do
    let (frac, rest) ← parseFrac rest
    let (exponent, rest) ← parseExponent rest
    let value ← numeric negative whole frac exponent
    pure (value, rest)

mutual
/-- One value; `fuel` bounds the number of values that may still start. -/
def parseValue : Nat → List Char → Option (Json × List Char)
  | 0, _ => none
  | fuel + 1, input =>
    match skip input with
    | 'n' :: 'u' :: 'l' :: 'l' :: rest => some (.null, rest)
    | 't' :: 'r' :: 'u' :: 'e' :: rest => some (.bool true, rest)
    | 'f' :: 'a' :: 'l' :: 's' :: 'e' :: rest => some (.bool false, rest)
    | '"' :: rest => (parseString rest).map fun (chars, left) => (.str (String.ofList chars), left)
    | '-' :: rest => parseNumber true rest
    | '[' :: rest =>
      match skip rest with
      | ']' :: left => some (.arr [], left)
      | rest => (parseItems fuel rest).map fun (items, left) => (.arr items, left)
    | '\x7b' :: rest =>
      match skip rest with
      | '\x7d' :: left => some (.obj [], left)
      | rest => (parseFields fuel rest).map fun (fields, left) => (.build fields, left)
    | rest => parseNumber false rest

def parseItems : Nat → List Char → Option (List Json × List Char)
  | 0, _ => none
  | fuel + 1, input =>
    match parseValue fuel input with
    | none => none
    | some (item, rest) =>
      match skip rest with
      | ',' :: rest => (parseItems fuel rest).map fun (items, left) => (item :: items, left)
      | ']' :: rest => some ([item], rest)
      | _ => none

def parseFields : Nat → List Char → Option (List (String × Json) × List Char)
  | 0, _ => none
  | fuel + 1, input =>
    match skip input with
    | '"' :: rest =>
      match parseString rest with
      | none => none
      | some (key, rest) =>
        match skip rest with
        | ':' :: rest =>
          match parseValue fuel rest with
          | none => none
          | some (value, rest) =>
            match skip rest with
            | ',' :: rest =>
              (parseFields fuel rest).map fun (fields, left) => ((String.ofList key, value) :: fields, left)
            | '\x7d' :: rest => some ([(String.ofList key, value)], rest)
            | _ => none
        | _ => none
    | _ => none
end

/-- `input::jsonb`; `none` where the conversion raises. -/
def parse (input : String) : Option Json :=
  match parseValue (2 * input.length + 2) input.toList with
  | some (value, rest) => if (skip rest).isEmpty then some value else none
  | none => none

example : (parse "\x7b\"b\":[1, 2.50e1],\"a\":\"x\\u0041\"\x7d").map Json.text =
    some "\x7b\"a\": \"xA\", \"b\": [1, 25.0]\x7d" := by
  decide +kernel

end Jsonb
