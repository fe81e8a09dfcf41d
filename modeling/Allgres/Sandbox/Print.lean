import Allgres.Sandbox.Dump

/-! PostgreSQL's raw parse trees, and the text `nodeToString` prints for one. -/

namespace Allgres

/-- The characters that are escaped wherever they stand. -/
def escapedAnywhere (c : Char) : Bool :=
  c == ' ' || c == '\n' || c == '\t' || c == '(' || c == ')' || c == '\x7b' || c == '}' || c == '\\'

/-- The characters that `read.c` would take for another kind of token. -/
def escapedInFront : List Char → Bool
  | '<' :: _ => true
  | '"' :: _ => true
  | '+' :: c :: _ => c.isDigit || c == '.'
  | '-' :: c :: _ => c.isDigit || c == '.'
  | c :: _ => c.isDigit
  | [] => false

def escape (c : Char) : List Char := if escapedAnywhere c then ['\\', c] else [c]

def escapeAll (text : List Char) : List Char := text.flatMap escape

def outChars (text : List Char) : List Char := (if escapedInFront text then ['\\'] else []) ++ escapeAll text

/-- `outToken` of a string that is not NULL. -/
def outToken (text : String) : List Char := if text = "" then ['"', '"'] else outChars text.toList

/-- `_outString`. -/
def outString (text : String) : List Char := '"' :: ((if text = "" then [] else outToken text) ++ ['"'])

/-- A value of a parse tree. A field without a name is a word that `_outA_Expr` or
`_outA_Const` prints bare. -/
inductive RawValue where
  | null
  /-- A number or a truth value. -/
  | plain (text : String)
  /-- A string that `outToken` prints. -/
  | token (text : String)
  /-- A `String` node. -/
  | str (text : String)
  | node (tag : String) (fields : List (Option String × RawValue))
  | list (items : List RawValue)

abbrev RawFields := List (Option String × RawValue)

def fieldMark : Option String → List Char
  | none => [' ']
  | some name => ' ' :: ':' :: (name.toList ++ [' '])

mutual
/-- `outNode`. The list without items is the pointer NIL. -/
def RawValue.text : RawValue → List Char
  | .null => ['<', '>']
  | .plain text => text.toList
  | .token text => outToken text
  | .str text => outString text
  | .node tag fields => '\x7b' :: (tag.toList ++ (fieldsText fields ++ ['}']))
  | .list [] => ['<', '>']
  | .list (item :: more) => '(' :: (item.text ++ (itemsText more ++ [')']))

def fieldsText : List (Option String × RawValue) → List Char
  | [] => []
  | (name, value) :: more => fieldMark name ++ (value.text ++ fieldsText more)

/-- The items behind the first one. -/
def itemsText : List RawValue → List Char
  | [] => []
  | item :: more => ' ' :: (item.text ++ itemsText more)
end

mutual
/-- A value with the values below it, in the order of the text. -/
def RawValue.parts : RawValue → List RawValue
  | .node tag fields => .node tag fields :: fieldsParts fields
  | .list items => .list items :: itemsParts items
  | .null => [.null]
  | .plain text => [.plain text]
  | .token text => [.token text]
  | .str text => [.str text]

def fieldsParts : List (Option String × RawValue) → List RawValue
  | [] => []
  | (_, value) :: more => value.parts ++ fieldsParts more

def itemsParts : List RawValue → List RawValue
  | [] => []
  | item :: more => item.parts ++ itemsParts more
end

/-- Where a node opens, or where the name of a field stands; `more` are the fields
of the same node behind it. -/
inductive RawMark where
  | opening (tag : String) (fields : RawFields)
  | field (tag : String) (name : Option String) (value : RawValue) (more : RawFields)

mutual
/-- The marks in the order of the text. -/
def RawValue.marks : RawValue → List RawMark
  | .node tag fields => .opening tag fields :: fieldsMarks tag fields
  | .list items => itemsMarks items
  | _ => []

def fieldsMarks (tag : String) : List (Option String × RawValue) → List RawMark
  | [] => []
  | (name, value) :: more => .field tag name value more :: (value.marks ++ fieldsMarks tag more)

def itemsMarks : List RawValue → List RawMark
  | [] => []
  | item :: more => item.marks ++ itemsMarks more
end

/-! ### What PostgreSQL's node types print -/

def isWordChar (c : Char) : Bool := c.isAlphanum || c == '_'

def isPlainChar (c : Char) : Bool := isWordChar c || c == '.' || c == '+' || c == '-'

def RawValue.isToken : RawValue → Bool
  | .token _ => true
  | _ => false

/-- A `char *` field. -/
def RawValue.isName : RawValue → Bool
  | .null => true
  | value => value.isToken

def RawValue.isString : RawValue → Bool
  | .str _ => true
  | _ => false

/-- No token is an item of a list. -/
def RawValue.sound : RawValue → Bool
  | .plain text => text.toList.all isPlainChar
  | .list items => items.all fun item => !item.isToken
  | _ => true

/-- The tags that `analyze_dump` looks for without what follows them. -/
def markedTags : List String := ["RAWSTMT", "INSERTSTMT", "UPDATESTMT", "DELETESTMT", "MERGESTMT"]

def rangeVarSound : RawFields → Bool
  | (some catalogname, catalog) :: (some schemaname, schema) :: (some relname, .token _) :: _ =>
    catalogname = "catalogname" && catalog.isName && schemaname = "schemaname" && schema.isName && relname = "relname"
  | _ => false

/-- The value of a field that `analyze_dump` reads. -/
def fieldSound (tag name : String) (value : RawValue) : Bool :=
  (name ≠ "ctename" || value.isToken) && (name ≠ "relname" || tag = "RANGEVAR") &&
    (name ≠ "intoClause" || match value with
      | .null => true
      | .node tag _ => tag = "INTOCLAUSE"
      | _ => false) &&
    (name ≠ "funcname" || match value with
      | .list items => items ≠ [] && items.all RawValue.isString
      | _ => false)

def RawMark.sound : RawMark → Bool
  | .opening tag fields => tag.toList.all isWordChar &&
      markedTags.all (fun mark => !mark.toList.isPrefixOf tag.toList || tag = mark) &&
      (tag ≠ "RANGEVAR" || rangeVarSound fields)
  | .field tag (some name) value _ => name.toList.all isWordChar && fieldSound tag name value
  | .field _ none (.plain _) _ => true
  | .field _ none _ _ => false

/-- `RawStmt` and its field stand at the top only. -/
def RawMark.nested : RawMark → Bool
  | .opening tag _ => tag ≠ "RAWSTMT"
  | .field _ name _ _ => name ≠ some "stmt"

/-- A `RawStmt`. -/
structure RawStmt where
  tag : String
  fields : RawFields
  location : String
  len : String

def RawStmt.stmt (raw : RawStmt) : RawValue := .node raw.tag raw.fields

def RawStmt.value (raw : RawStmt) : RawValue :=
  .node "RAWSTMT" [(some "stmt", raw.stmt), (some "stmt_location", .plain raw.location), (some "stmt_len", .plain raw.len)]

def RawStmt.sound (raw : RawStmt) : Bool :=
  raw.value.parts.all RawValue.sound && raw.stmt.marks.all (fun mark => mark.sound && mark.nested)

/-- What `raw_parser` returns. -/
structure RawTree where
  stmts : List RawStmt
  sound : stmts.all RawStmt.sound = true

def RawTree.value (tree : RawTree) : RawValue := .list (tree.stmts.map RawStmt.value)

/-- `nodeToString`. -/
def RawTree.text (tree : RawTree) : List Char := tree.value.text

/-! ### What a statement refers to -/

/-- The string in a `char *` field. -/
def nameIn (fields : RawFields) (name : String) : Option String :=
  match fields.lookup (some name) with
  | some (.token text) => some text
  | _ => none

/-- The relation that a `RangeVar` names. -/
def RawMark.relation : RawMark → Option (Option String × String)
  | .opening tag fields =>
    if tag = "RANGEVAR" then (nameIn fields "relname").map fun name => (nameIn fields "schemaname", name) else none
  | .field .. => none

def RawMark.cte : RawMark → Option String
  | .field _ name (.token text) _ => if name = some "ctename" then some text else none
  | _ => none

def stringsOf (items : List RawValue) : List String :=
  items.filterMap fun
    | .str text => some text
    | _ => none

/-- The name and the part in front of it. -/
def lastTwo (parts : List String) : Option (Option String × String) :=
  match parts.reverse with
  | [] => none
  | name :: before => some (before.head?, name)

/-- The function that a `FuncCall` names. -/
def RawMark.function : RawMark → Option (Option String × String)
  | .field tag name (.list items) _ =>
    if tag = "FUNCCALL" ∧ name = some "funcname" then lastTwo (stringsOf items) else none
  | _ => none

/-- Data is modified, or the result of a query is stored in a table. -/
def RawMark.writes : RawMark → Bool
  | .opening tag _ => ["INTOCLAUSE", "INSERTSTMT", "UPDATESTMT", "DELETESTMT", "MERGESTMT"].contains tag
  | .field .. => false

def RawTree.relations (tree : RawTree) : List (Option String × String) := tree.value.marks.filterMap RawMark.relation

def RawTree.ctes (tree : RawTree) : List String := tree.value.marks.filterMap RawMark.cte

def RawTree.functions (tree : RawTree) : List (Option String × String) := tree.value.marks.filterMap RawMark.function

def RawTree.writes (tree : RawTree) : Bool := tree.value.marks.any RawMark.writes

end Allgres
