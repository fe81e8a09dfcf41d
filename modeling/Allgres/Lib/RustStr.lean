import Mathlib.Algebra.Group.Nat.Defs
import Mathlib.Data.List.DropRight

/-! Methods of Rust's `str` on lists of characters. -/

namespace RustStr

/-- `char::is_whitespace`. -/
def isWhitespace (c : Char) : Bool :=
  let n := c.toNat
  (9 ≤ n && n ≤ 13) || n == 0x20 || n == 0x85 || n == 0xA0 || n == 0x1680 || (0x2000 ≤ n && n ≤ 0x200A) ||
    n == 0x2028 || n == 0x2029 || n == 0x202F || n == 0x205F || n == 0x3000

def trim (text : List Char) : List Char := (text.dropWhile isWhitespace).rdropWhile isWhitespace

/-- The line without its `\r`, which counts as a part of the line's end. -/
def chomp (line : List Char) : List Char :=
  if line.getLast? = some '\r' then line.dropLast else line

/-- `lines`; `line` is what has been read of the current one. -/
def linesFrom (line : List Char) : List Char → List (List Char)
  | [] => if line = [] then [] else [line]
  | '\n' :: rest => chomp line :: linesFrom [] rest
  | c :: rest => linesFrom (line ++ [c]) rest

def lines (text : List Char) : List (List Char) := linesFrom [] text

/-- `split` at a character. -/
def split (sep : Char) (text : List Char) : List (List Char) := text.splitOn sep

/-- `split_once` at a character. -/
def splitOnce (sep : Char) : List Char → Option (List Char × List Char)
  | [] => none
  | c :: rest => if c = sep then some ([], rest) else (splitOnce sep rest).map fun parts => (c :: parts.1, parts.2)

/-- `split_whitespace`. -/
def splitWhitespace (text : List Char) : List (List Char) :=
  (text.splitOnP isWhitespace).filter fun word => word ≠ []

def toAsciiLowercase (text : List Char) : List Char := text.map Char.toLower

def eqIgnoreAsciiCase (a b : List Char) : Bool := toAsciiLowercase a == toAsciiLowercase b

/-- `strip_prefix`. -/
def stripPrefix? (start text : List Char) : Option (List Char) :=
  if start.isPrefixOf text then some (text.drop start.length) else none

/-- What follows the first occurrence of a pattern. -/
def afterFirst (pattern : List Char) : List Char → Option (List Char)
  | [] => if pattern = [] then some [] else none
  | c :: rest => if pattern.isPrefixOf (c :: rest) then some ((c :: rest).drop pattern.length) else afterFirst pattern rest

/-- What comes before the first occurrence of a pattern, or the whole text. -/
def beforeFirst (pattern : List Char) : List Char → List Char
  | [] => []
  | c :: rest => if pattern.isPrefixOf (c :: rest) then [] else c :: beforeFirst pattern rest

/-- `parse::<usize>` on a machine with 64 bits. -/
def parseUsize (text : List Char) : Option Nat :=
  let digits := if text.head? = some '+' then text.tail else text
  if digits ≠ [] ∧ digits.all Char.isDigit then
    let value := digits.foldl (fun value c => value * 10 + (c.toNat - '0'.toNat)) 0
    if value < 2 ^ 64 then some value else none
  else none

end RustStr
