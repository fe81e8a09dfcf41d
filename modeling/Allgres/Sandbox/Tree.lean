import Mathlib.Data.List.Basic

namespace Allgres

/-- A relation reference as the grammar leaves it. -/
structure RangeVar where
  catalog : Option String
  schema : Option String
  name : String
  deriving DecidableEq

inductive StmtKind
  | select | insert | update | delete | merge | utility
  deriving DecidableEq

/-- A raw parse tree, cut down to what the sandbox looks at. A statement has
its clauses, then the members of its `WITH` clause, then the operands of a set
operation, in the order in which the server writes them out. -/
inductive Node
  | rangeVar (ref : RangeVar)
  | funcCall (funcname : List String) (args : List Node)
  | stmt (kind : StmtKind) (into : Bool) (recursive : Bool) (ctes : List (String × Node))
      (clauses operands : List Node)
  | other (children : List Node)

namespace Node

mutual
/-- Every `RangeVar` of the tree. -/
def rangeVars : Node → List RangeVar
  | rangeVar ref => [ref]
  | funcCall _ args => rangeVarsOf args
  | stmt _ _ _ ctes clauses operands => rangeVarsOf clauses ++ rangeVarsOfCtes ctes ++ rangeVarsOf operands
  | other children => rangeVarsOf children

def rangeVarsOf : List Node → List RangeVar
  | [] => []
  | node :: rest => node.rangeVars ++ rangeVarsOf rest

def rangeVarsOfCtes : List (String × Node) → List RangeVar
  | [] => []
  | (_, query) :: rest => query.rangeVars ++ rangeVarsOfCtes rest
end

mutual
/-- Every `ctename` of the tree, at whatever depth. -/
def cteNames : Node → List String
  | rangeVar _ => []
  | funcCall _ args => cteNamesOf args
  | stmt _ _ _ ctes clauses operands => cteNamesOf clauses ++ cteNamesOfCtes ctes ++ cteNamesOf operands
  | other children => cteNamesOf children

def cteNamesOf : List Node → List String
  | [] => []
  | node :: rest => node.cteNames ++ cteNamesOf rest

def cteNamesOfCtes : List (String × Node) → List String
  | [] => []
  | (name, query) :: rest => name :: query.cteNames ++ cteNamesOfCtes rest
end

mutual
/-- The `funcname` of every function call of the tree. -/
def funcnames : Node → List (List String)
  | rangeVar _ => []
  | funcCall funcname args => funcname :: funcnamesOf args
  | stmt _ _ _ ctes clauses operands => funcnamesOf clauses ++ funcnamesOfCtes ctes ++ funcnamesOf operands
  | other children => funcnamesOf children

def funcnamesOf : List Node → List (List String)
  | [] => []
  | node :: rest => node.funcnames ++ funcnamesOf rest

def funcnamesOfCtes : List (String × Node) → List (List String)
  | [] => []
  | (_, query) :: rest => query.funcnames ++ funcnamesOfCtes rest
end

mutual
/-- A `SELECT … INTO` or a data-modifying statement anywhere in the tree. -/
def writes : Node → Bool
  | rangeVar _ => false
  | funcCall _ args => writesIn args
  | stmt kind into _ ctes clauses operands =>
    into || (kind != .select && kind != .utility) || writesIn clauses || writesInCtes ctes || writesIn operands
  | other children => writesIn children

def writesIn : List Node → Bool
  | [] => false
  | node :: rest => node.writes || writesIn rest

def writesInCtes : List (String × Node) → Bool
  | [] => false
  | (_, query) :: rest => query.writes || writesInCtes rest
end

mutual
/-- The `RangeVar`s that lexical scoping does not bind to a member of a `WITH`
clause, where the members in `scope` are visible from outside. A member is
visible in the query level of its `WITH` clause and in the later members of
it, and in its own query under `WITH RECURSIVE`. -/
def unbound (scope : List String) : Node → List RangeVar
  | rangeVar ref => if ref.schema = none ∧ ref.name ∈ scope then [] else [ref]
  | funcCall _ args => unboundOf scope args
  | stmt _ _ recursive ctes clauses operands =>
    let level := ctes.map Prod.fst ++ scope
    unboundOf level clauses ++ unboundOfCtes recursive scope ctes ++ unboundOf level operands
  | other children => unboundOf scope children

def unboundOf (scope : List String) : List Node → List RangeVar
  | [] => []
  | node :: rest => unbound scope node ++ unboundOf scope rest

def unboundOfCtes (recursive : Bool) (scope : List String) : List (String × Node) → List RangeVar
  | [] => []
  | (name, query) :: rest =>
    unbound (if recursive then name :: scope else scope) query ++ unboundOfCtes recursive (name :: scope) rest
end

mutual
theorem unbound_subset (scope : List String) : ∀ node, unbound scope node ⊆ node.rangeVars
  | rangeVar ref => by
    simp only [unbound, rangeVars]
    split <;> simp
  | funcCall _ args => by
    simpa only [unbound, rangeVars] using unboundOf_subset scope args
  | stmt _ _ recursive ctes clauses operands => by
    have inClauses := unboundOf_subset (ctes.map Prod.fst ++ scope) clauses
    have inCtes := unboundOfCtes_subset recursive scope ctes
    have inOperands := unboundOf_subset (ctes.map Prod.fst ++ scope) operands
    intro ref member
    simp only [unbound, rangeVars, List.mem_append] at member ⊢
    rcases member with (clause | cte) | operand
    · exact .inl (.inl (inClauses clause))
    · exact .inl (.inr (inCtes cte))
    · exact .inr (inOperands operand)
  | other children => by
    simpa only [unbound, rangeVars] using unboundOf_subset scope children

theorem unboundOf_subset (scope : List String) : ∀ nodes, unboundOf scope nodes ⊆ rangeVarsOf nodes
  | [] => by simp [unboundOf]
  | node :: rest => by
    have here := unbound_subset scope node
    have later := unboundOf_subset scope rest
    intro ref member
    simp only [unboundOf, rangeVarsOf, List.mem_append] at member ⊢
    exact member.imp (here ·) (later ·)

theorem unboundOfCtes_subset (recursive : Bool) (scope : List String) :
    ∀ ctes, unboundOfCtes recursive scope ctes ⊆ rangeVarsOfCtes ctes
  | [] => by simp [unboundOfCtes]
  | (name, query) :: rest => by
    have here := unbound_subset (if recursive then name :: scope else scope) query
    have later := unboundOfCtes_subset recursive (name :: scope) rest
    intro ref member
    simp only [unboundOfCtes, rangeVarsOfCtes, List.mem_append] at member ⊢
    exact member.imp (here ·) (later ·)
end

end Node

/-- The schema and the name of a called function: the last two parts of its
`funcname`. -/
structure FuncRef where
  schema : Option String
  name : String
  deriving DecidableEq

def FuncRef.ofParts (funcname : List String) : Option FuncRef :=
  match funcname.reverse with
  | [] => none
  | [name] => some ⟨none, name⟩
  | name :: schema :: _ => some ⟨some schema, name⟩

/-- What `analyze_sql` reports about the statements of a text. -/
structure Analysis where
  statements : Nat
  isSelect : Bool
  writes : Bool
  relations : List RangeVar
  functions : List FuncRef
  ctes : List String

def Node.isSelect : Node → Bool
  | stmt .select _ _ _ _ _ => true
  | _ => false

def analyzeSql (trees : List Node) : Analysis where
  statements := trees.length
  isSelect := match trees with
    | [tree] => tree.isSelect
    | _ => false
  writes := Node.writesIn trees
  relations := Node.rangeVarsOf trees
  functions := (Node.funcnamesOf trees).filterMap FuncRef.ofParts
  ctes := Node.cteNamesOf trees

end Allgres
