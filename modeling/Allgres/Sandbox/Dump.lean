import Allgres.Lib.RustStr

/-! The reader of the texts in which PostgreSQL writes its parse trees. A reader
that splits a character in two panics; its result is `none` then. -/

namespace Allgres

open RustStr

/-- `u8::is_ascii_whitespace`. -/
def isAsciiWhitespace (c : Char) : Bool :=
  c == ' ' || c == '\t' || c == '\n' || c == '\x0c' || c == '\r'

def endsToken (c : Char) : Bool :=
  isAsciiWhitespace c || c == '}' || c == ')' || c == '\x7b' || c == '('

def isAscii (c : Char) : Bool := c.toNat < 0x80

/-- A token's characters, and how many bytes it takes. -/
def tokenChars : List Char → Option (List Char × Nat)
  | [] => some ([], 0)
  | ['\\'] => some ([], 1)
  | '\\' :: c :: rest =>
    if isAscii c then (tokenChars rest).map fun read => (c :: read.1, read.2 + 2) else none
  | c :: rest =>
    if endsToken c then some ([], 0) else (tokenChars rest).map fun read => (c :: read.1, read.2 + c.utf8Size)

def readToken : List Char → Option (Option String × Nat)
  | '<' :: '>' :: _ => some (none, 2)
  | '"' :: '"' :: _ => some (some "", 2)
  | text => (tokenChars text).map fun read => (some (String.ofList read.1), read.2)

/-- The text up to the closing bracket of its own; a backslash takes the next character with it. -/
def bodyTo (opens closes : Char) : Nat → List Char → List Char
  | _, [] => []
  | _, ['\\'] => ['\\']
  | depth, '\\' :: c :: rest => '\\' :: c :: bodyTo opens closes depth rest
  | depth, c :: rest =>
    if c = opens then c :: bodyTo opens closes (depth + 1) rest
    else if c = closes then
      match depth with
      | 0 => []
      | depth + 1 => c :: bodyTo opens closes depth rest
    else c :: bodyTo opens closes depth rest

def nodeBody (text : List Char) : List Char := bodyTo '\x7b' '}' 0 text

def parenBody (text : List Char) : List Char := bodyTo '(' ')' 0 text

/-- The strings of a list; `inside` is what has been read of the current one. -/
def quotedFrom (inside : Option (List Char)) : List Char → Option (List String)
  | [] => some (inside.toList.map String.ofList)
  | c :: rest => match inside with
    | none => quotedFrom (if c = '"' then some [] else none) rest
    | some read =>
      if c = '"' then (quotedFrom none rest).map (String.ofList read :: ·)
      else match c, rest with
        | '\\', next :: rest => if isAscii next then quotedFrom (some (read ++ [next])) rest else none
        | c, rest => quotedFrom (some (read ++ [c])) rest

def quotedStrings (body : List Char) : Option (List String) := quotedFrom none body

/-- `field`: the token behind the first `:name`, if there is one. -/
def field (body : List Char) (name : String) : Option (Option String) :=
  match afterFirst ((":" ++ name ++ " ").toList) body with
  | none => some none
  | some rest => (readToken rest).map Prod.fst

/-- What follows each occurrence of the marker; the next search begins behind the last one. -/
def occurrences (marker : List Char) (skip : Nat) : List Char → List (List Char)
  | [] => []
  | c :: rest => match skip with
    | skip + 1 => occurrences marker skip rest
    | 0 =>
      if marker.isPrefixOf (c :: rest) then
        (c :: rest).drop marker.length :: occurrences marker (marker.length - 1) rest
      else occurrences marker 0 rest

def occurs (marker text : List Char) : Bool := (afterFirst marker text).isSome

def readIdent (text : List Char) : String :=
  String.ofList (text.takeWhile fun c => isAscii c && c.isAlphanum || c == '_')

/-- What `analyze_dump` reports of a text that is not empty. -/
structure Report where
  statements : Nat
  kind : String
  writes : Bool
  relations : List (Option String × String)
  functions : List (Option String × String)
  ctes : List String
  deriving DecidableEq

def rawStmtMark : List Char := "\x7bRAWSTMT".toList
def rangeVarMark : List Char := "\x7bRANGEVAR ".toList
def cteNameMark : List Char := ":ctename ".toList
def funcNameMark : List Char := ":funcname (".toList
def intoMark : List Char := ":intoClause \x7b".toList
def stmtMark : List Char := ":stmt \x7b".toList
def dmlMarks : List (List Char) :=
  ["\x7bINSERTSTMT".toList, "\x7bUPDATESTMT".toList, "\x7bDELETESTMT".toList, "\x7bMERGESTMT".toList]

/-- The tag of a top-level statement. -/
def kindAt (rest : List Char) : Option String := (afterFirst stmtMark (nodeBody rest)).map readIdent

def relationAt (rest : List Char) : Option (Option (Option String × String)) :=
  let body := nodeBody rest
  match field body "relname" with
  | none => none
  | some none => some none
  | some (some name) => (field body "schemaname").map fun schema => some (schema, name)

def cteAt (rest : List Char) : Option (Option String) := (readToken rest).map Prod.fst

def functionAt (rest : List Char) : Option (Option (Option String × String)) :=
  (quotedStrings (parenBody rest)).map fun parts => match parts.reverse with
    | [] => none
    | name :: before => some (before.head?, name)

/-- `analyze_dump`: `none` if it panics, and `some none` for `{"ok": false}`. -/
def analyzeDump (dump : List Char) : Option (Option Report) :=
  if dump = [] then some none
  else
    let kinds := (occurrences rawStmtMark 0 dump).filterMap kindAt
    match (occurrences rangeVarMark 0 dump).mapM relationAt, (occurrences cteNameMark 0 dump).mapM cteAt,
        (occurrences funcNameMark 0 dump).mapM functionAt with
    | some relations, some ctes, some functions => some (some {
        statements := kinds.length
        kind := if kinds = ["SELECTSTMT"] then "select" else "other"
        writes := occurs intoMark dump || dmlMarks.any fun mark => occurs mark dump
        relations := relations.reduceOption
        functions := functions.reduceOption
        ctes := ctes.reduceOption })
    | _, _, _ => none

end Allgres
