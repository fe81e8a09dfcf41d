import Allgres.Permission

namespace Allgres

open Sql

def cReserved : List String :=
  ["allgres_private", "allgres", "pg_catalog", "pg_toast", "information_schema"]

def cDeniedFns : List String :=
  ["current_setting", "set_config",
   "current_database", "current_catalog", "current_schema", "current_schemas",
   "current_user", "session_user",
   "inet_client_addr", "inet_client_port", "inet_server_addr", "inet_server_port",
   "pg_backend_pid", "pg_postmaster_start_time", "pg_conf_load_time",
   "pg_trigger_depth", "pg_is_in_recovery",
   "version",
   "txid_current", "txid_current_snapshot", "txid_status",
   "txid_snapshot_xmin", "txid_snapshot_xmax", "txid_snapshot_xip",
   "pg_current_xact_id", "pg_current_xact_id_if_assigned", "pg_current_snapshot",
   "pg_last_wal_receive_lsn", "pg_last_wal_replay_lsn", "pg_last_xact_replay_timestamp"]

/-- `schema LIKE 'pg\_%'`. -/
def likePg (schema : String) : Bool :=
  ['p', 'g', '_'].isPrefixOf schema.toList

private def isRegexSpace (c : Char) : Bool :=
  c == ' ' || c == '\t' || c == '\n' || c == '\r' || c == '\x0b' || c == '\x0c'

/-- `regexp_replace(sql, ';+\s*$', '')`. -/
def stripTerminator (sql : String) : String :=
  let body := sql.toList.rdropWhile isRegexSpace
  if body.getLast? = some ';' then String.ofList (body.rdropWhile (· == ';')) else sql

/-- The text `fn_validate_sql` works on and returns. -/
def normalizeSql (sql : Option String) : String :=
  stripTerminator (btrim (sql.getD ""))

def relationRef (schema : String) (ref : RangeVar) : String :=
  schema ++ "." ++ ref.name

/-- The relation loop, on one reference. -/
def checkRelation (env : Env) (db : Db) (agentId : Nat) (ctes : List String) (ref : RangeVar) :
    Except String Unit :=
  match ref.schema with
  | none =>
    if ctes.contains ref.name then .ok ()
    else .error ("fn_validate_sql: unqualified name \"" ++ ref.name ++ "\" rejected")
  | some schema =>
    if cReserved.contains (env.pg.lower schema) || likePg (env.pg.lower schema) then
      .error ("fn_validate_sql: schema \"" ++ schema ++ "\" is not readable by agents")
    else if db.sqlSandboxAllowlist.contains (relationRef schema ref) &&
        agentHasPermission env db agentId .view (some (relationRef schema ref)) then .ok ()
    else .error ("fn_validate_sql: \"" ++ relationRef schema ref ++ "\" not in allowlist")

/-- The rows of `pg_proc` that one call is checked against. -/
def procsFor (pg : Pg) (ref : FuncRef) : List ProcRow :=
  pg.pgProc.filter fun proc => proc.proname == ref.name && proc.namespaceName == ref.schema.getD "pg_catalog"

/-- The function loop, on one call. -/
def checkFunction (env : Env) (db : Db) (ref : FuncRef) : Except String Unit :=
  if cDeniedFns.contains (env.pg.lower ref.name) then
    .error ("fn_validate_sql: function \"" ++ ref.name ++ "\" is not allowed")
  else if !db.sqlFunctionAllowlist.contains (env.pg.lower ref.name) then
    .error ("fn_validate_sql: function \"" ++ ref.name ++ "\" is not in the sandbox allowlist")
  else
    let all := procsFor env.pg ref
    let safe := all.filter fun proc => !proc.volatile && !proc.prosecdef
    if all.length = 0 then .error ("fn_validate_sql: unknown function \"" ++ ref.name ++ "\"")
    else if safe.length ≠ all.length then
      .error ("fn_validate_sql: function \"" ++ ref.name ++
        "\" is volatile, security-definer, or not a pg_catalog builtin, and not allowed")
    else .ok ()

/-- A loop that stops at the first row it rejects. -/
def checkAll {α : Type} (check : α → Except String Unit) : List α → Except String Unit
  | [] => .ok ()
  | item :: rest => do
    check item
    checkAll check rest

/-- The checks on the parse tree. -/
def checkAnalysis (env : Env) (db : Db) (agentId : Nat) (found : Analysis) : Except String Unit :=
  if found.statements ≠ 1 then
    .error ("fn_validate_sql: expected one statement, found " ++ toString found.statements)
  else if !found.isSelect then .error "fn_validate_sql: only SELECT / WITH ... SELECT is allowed"
  else if found.writes then .error "fn_validate_sql: statement writes; only reads are allowed"
  else if found.relations.length > 10 then
    .error "fn_validate_sql: statement references too many tables (max 10)"
  else do
    checkAll (checkRelation env db agentId found.ctes) found.relations
    checkAll (checkFunction env db) found.functions

def fnValidateSql (env : Env) (db : Db) (agentId : Nat) (sql : Option String) : Except String String :=
  let text := normalizeSql sql
  if text = "" then .error "fn_validate_sql: empty sql"
  else if text.length > 8000 then .error "fn_validate_sql: statement too long"
  else match env.pg.rawParser text with
    | .error message => .error ("fn_validate_sql: not parseable as SQL: " ++ message)
    | .ok trees => do
      checkAnalysis env db agentId (analyzeSql trees)
      match env.pg.explainCost text with
      | .error message => .error ("fn_validate_sql: engine rejected query: " ++ message)
      | .ok cost =>
        if cost > 20000000 then
          .error ("fn_validate_sql: estimated cost " ++ toString (cost + 1 / 2).floor ++ " is too high")
        else .ok text

/-- `fn_validate_sql` accepts a text that parses to the single statement `tree`. -/
def Accepts (env : Env) (db : Db) (agentId : Nat) (tree : Node) : Prop :=
  ∃ sql text, env.pg.rawParser (normalizeSql sql) = .ok [tree] ∧ fnValidateSql env db agentId sql = .ok text

theorem checkAll_eq_ok {α : Type} {check : α → Except String Unit} {items : List α} :
    checkAll check items = .ok () ↔ ∀ item ∈ items, check item = .ok () := by
  induction items with
  | nil => simp [checkAll]
  | cons head tail ih =>
    rw [List.forall_mem_cons, ← ih, checkAll]
    rcases check head with message | ⟨⟩
    · simp [bind, Except.bind]
    · simp [bind, Except.bind]

theorem checkAnalysis_eq_ok {env : Env} {db : Db} {agentId : Nat} {found : Analysis}
    (passed : checkAnalysis env db agentId found = .ok ()) :
    (∀ ref ∈ found.relations, checkRelation env db agentId found.ctes ref = .ok ()) ∧
      ∀ ref ∈ found.functions, checkFunction env db ref = .ok () := by
  unfold checkAnalysis at passed
  split at passed; · cases passed
  split at passed; · cases passed
  split at passed; · cases passed
  split at passed; · cases passed
  rcases relations : checkAll (checkRelation env db agentId found.ctes) found.relations with message | ⟨⟩
  · rw [relations] at passed
    cases passed
  · rw [relations] at passed
    exact ⟨checkAll_eq_ok.mp relations, checkAll_eq_ok.mp passed⟩

/-- What acceptance says about the references and the calls of a statement. -/
theorem Accepts.checked {env : Env} {db : Db} {agentId : Nat} {tree : Node}
    (accepted : Accepts env db agentId tree) :
    (∀ ref ∈ tree.rangeVars, checkRelation env db agentId tree.cteNames ref = .ok ()) ∧
      ∀ ref ∈ tree.funcnames.filterMap FuncRef.ofParts, checkFunction env db ref = .ok () := by
  obtain ⟨sql, text, parsed, validated⟩ := accepted
  unfold fnValidateSql at validated
  simp only [parsed] at validated
  split at validated; · cases validated
  split at validated; · cases validated
  rcases analysed : checkAnalysis env db agentId (analyzeSql [tree]) with message | ⟨⟩
  · rw [analysed] at validated
    cases validated
  · have passed := checkAnalysis_eq_ok analysed
    simpa only [analyzeSql, Node.rangeVarsOf, Node.cteNamesOf, Node.funcnamesOf, List.append_nil] using passed

end Allgres
