import Allgres.Schema
import Allgres.Sandbox.Tree

namespace Allgres

open Relational Sql Jsonb

/-- The columns of `pg_proc` that the sandbox reads, with the name of the
namespace. -/
structure ProcRow where
  namespaceName : String
  proname : String
  volatile : Bool
  prosecdef : Bool

/-- What the code uses of the server itself. Lower-case letters of the ASCII
range, digits and the underscore are their own lower case in every locale. -/
structure Pg where
  lowerChar : Char → List Char
  lowerChar_plain : ∀ c, c.isLower ∨ c.isDigit ∨ c = '_' → lowerChar c = [c]
  upperChar : Char → List Char
  /-- `[[:space:][:cntrl:]]`. -/
  spaceOrCntrl : Char → Bool
  /-- The classes `\s` and `\w`. -/
  spaceChar : Char → Bool
  wordChar : Char → Bool
  md5 : String → String
  rawParser : String → Except String (List Node)
  explainCost : String → Except String ℚ
  pgProc : List ProcRow
  timestamptzIn : String → Option Time
  timestamptzOut : Time → String
  realIn : String → Option Real4
  /-- `to_jsonb(text::float8)`. -/
  float8Json : String → Option Json

def Pg.lower (pg : Pg) (text : String) : String :=
  String.ofList (text.toList.flatMap pg.lowerChar)

def Pg.upper (pg : Pg) (text : String) : String :=
  String.ofList (text.toList.flatMap pg.upperChar)

/-- A server in the C locale that parses no statement and knows no function. -/
def Pg.bare : Pg where
  lowerChar c := [c.toLower]
  lowerChar_plain c plain := by
    have notUpper : ¬ (c.val ≥ 65 ∧ c.val ≤ 90) := by
      rcases plain with lower | digit | rfl
      · delta Char.isLower at lower
        simp only [Bool.and_eq_true, decide_eq_true_eq, ge_iff_le] at lower
        intro upper
        have := UInt32.le_trans lower.1 upper.2
        revert this
        decide
      · simp only [Char.isDigit, Bool.and_eq_true, decide_eq_true_eq, ge_iff_le] at digit
        intro upper
        have := UInt32.le_trans upper.1 digit.2
        revert this
        decide
      · decide
    delta Char.toLower
    simp [notUpper]
  upperChar c := [c.toUpper]
  spaceOrCntrl c := c.toNat ≤ 32 || c.toNat == 127
  spaceChar c := c.isWhitespace
  wordChar c := c.isAlphanum || c == '_'
  md5 text := text
  rawParser _ := .error "syntax error"
  explainCost _ := .ok 0
  pgProc := []
  timestamptzIn _ := none
  timestamptzOut time := toString time
  realIn _ := none
  float8Json _ := none

/-- What a transaction reads from outside the tables: `now()`,
`clock_timestamp()`, one `random() * 100` for each task, the outcome of
`fn_provision_agent_role`, the plain text of an encrypted secret, and the two
rankings by embedding distance. -/
structure Env where
  pg : Pg
  now : Time
  clock : Time
  roll : Nat → ℚ
  provisionAgentRole : Nat → Except String String
  decryptSecret : String → Option String
  rankAgentsByEmbedding : Table AgentRow → Table PermissionRow → Nat → Json → Option String → Except String Json
  rankMemoriesByEmbedding : Table MemoryRow → Nat → Json → Option String → Except String Json

/-- The bare server at time zero. It holds no key and ranks nothing. -/
def Env.bare : Env where
  pg := .bare
  now := 0
  clock := 0
  roll _ := 0
  provisionAgentRole _ := .ok "agent"
  decryptSecret text := some text
  rankAgentsByEmbedding _ _ _ _ _ := .ok (.arr [])
  rankMemoriesByEmbedding _ _ _ _ := .ok (.arr [])

/-- The bare server after that many microseconds. -/
def Env.after (time : Nat) : Env := { Env.bare with now := time }

def plainChar (c : Char) : Bool := c.isLower || c.isDigit || c == '_'

end Allgres
