import Allgres.Dashboard.Rpc
import Allgres.Lib.Raising

/-! What the audit log keeps of the statements that are run in the console. -/

namespace Allgres

open Relational Jsonb Sql

variable {env : WebEnv} {site : Site}

/-- The row that the console writes before it runs a text. -/
def consoleEntry (pg : Pg) (sql : Option String) : AuditRow :=
  ⟨"sql_console.execute", .build [("sql", .str (consoleText pg sql))]⟩

/-- The tables that a statement of the console finds. -/
def Site.attempting (site : Site) (pg : Pg) (sql : Option String) : Site :=
  site.withDb { site.db with auditLog := site.db.auditLog.insert (consoleEntry pg sql) }

/-- The row that an attempt made at these tables has written is there later. -/
def AttemptAudited (pg : Pg) (site : Site) (sql : Option String) (later : Site) : Prop :=
  later.db.auditLog.get? site.db.auditLog.next = some (consoleEntry pg sql)

/-- The text has one statement at most, and the server runs it, as a query or
else on its own, with no error. The statement spares the row of the attempt. -/
structure StatementRuns (env : WebEnv) (site : Site) (sql : Option String) : Prop where
  written : btrim (sql.getD "") ≠ ""
  single : ∃ trees, env.pg.rawParser (consoleText env.pg sql) = .ok trees ∧ trees.length ≤ 1
  runs : (∃ rows later, env.executeQuery (consoleQuery (consoleText env.pg sql)) (site.attempting env.pg sql) =
        .ok (rows, later) ∧ AttemptAudited env.pg site sql later) ∨
    ∃ message count later,
      env.executeQuery (consoleQuery (consoleText env.pg sql)) (site.attempting env.pg sql) = .error message ∧
      env.executeStatement (consoleText env.pg sql) (site.attempting env.pg sql) = .ok (count, later) ∧
      AttemptAudited env.pg site sql later

theorem runConsole_audited (sql : Option String) :
    (∃ reply later, runConsole env (site.attempting env.pg sql) (consoleText env.pg sql) = .ok (reply, later) ∧
        AttemptAudited env.pg site sql later) ↔
      (∃ rows later, env.executeQuery (consoleQuery (consoleText env.pg sql)) (site.attempting env.pg sql) =
        .ok (rows, later) ∧ AttemptAudited env.pg site sql later) ∨
      ∃ message count later,
        env.executeQuery (consoleQuery (consoleText env.pg sql)) (site.attempting env.pg sql) = .error message ∧
        env.executeStatement (consoleText env.pg sql) (site.attempting env.pg sql) = .ok (count, later) ∧
        AttemptAudited env.pg site sql later := by
  unfold runConsole
  rcases queried : env.executeQuery (consoleQuery (consoleText env.pg sql)) (site.attempting env.pg sql)
    with message | ⟨rows, later⟩
  · rcases run : env.executeStatement (consoleText env.pg sql) (site.attempting env.pg sql) with message' | ⟨count, later⟩
    · simp [bind, Except.bind]
    · simp [bind, Except.bind]
  · simp

/-- A statement is run, and its row kept, if the function returns with the row. -/
theorem fnAdminExecuteSql_audited (sql : Option String) :
    (∃ reply later, fnAdminExecuteSql env site sql = .ok (reply, later) ∧ AttemptAudited env.pg site sql later) ↔
      StatementRuns env site sql := by
  have auditing : site.audit "sql_console.execute" (.build [("sql", .str (consoleText env.pg sql))]) =
      site.attempting env.pg sql := rfl
  constructor
  · rintro ⟨reply, later, returned, audited⟩
    unfold fnAdminExecuteSql at returned
    split at returned
    · cases returned
    · rename_i written
      dsimp only at returned
      rw [auditing] at returned
      split at returned
      · cases returned
      · rename_i trees parsed
        split at returned
        · cases returned
        · rename_i few
          exact ⟨written, ⟨trees, parsed, Nat.le_of_not_gt few⟩,
            (runConsole_audited sql).mp ⟨reply, later, returned, audited⟩⟩
  · rintro ⟨written, ⟨trees, parsed, few⟩, runs⟩
    obtain ⟨reply, later, returned, audited⟩ := (runConsole_audited sql).mpr runs
    refine ⟨reply, later, ?_, audited⟩
    unfold fnAdminExecuteSql
    rw [if_neg written]
    dsimp only
    rw [auditing, parsed]
    dsimp only
    rw [if_neg (Nat.not_lt.mpr few)]
    exact returned

/-- The dashboard's handler undoes the row of an attempt with all else that it has done. -/
theorem sqlExecute_audited_iff (env : WebEnv) (site admin : Site) (request : Json)
    (asked : requestedAction request = some (.config .sqlExecute))
    (admitted : requireAdminIfAccountsExist env (sessionUser env site (request.getText? "session_token")).2
      (request.getText? "session_token") = .ok admin) :
    AttemptAudited env.pg site (request.getText? "sql") (dashboardRpc env site request).2 ↔
      StatementRuns env admin (request.getText? "sql") := by
  have tables : admin.db = site.db := (requireAdminIfAccountsExist_db admitted).trans (sessionUser_db env site _)
  rw [← fnAdminExecuteSql_audited]
  have branched : branch env (sessionUser env site (request.getText? "session_token")).2 request
      (request.getText? "session_token") (.config .sqlExecute) =
      fnAdminExecuteSql env admin (request.getText? "sql") >>= fun executed =>
        executed.2.answers ((Json.build [("ok", .bool true)]).concat executed.1) := by
    simp only [branch, admitted, Raising.bind_ok, configBranch]
  unfold dashboardRpc
  rw [asked]
  dsimp only
  rw [branched]
  generalize fnAdminExecuteSql env admin (request.getText? "sql") = attempt
  rcases attempt with message | ⟨result, later⟩
  · constructor
    · intro audited
      have absent : site.db.auditLog.get? site.db.auditLog.next = none := Table.get?_next _
      exact absurd (absent.symm.trans audited) (by simp)
    · rintro ⟨_, _, returned, -⟩
      cases returned
  · simp [Site.answers, AttemptAudited, tables, bind, Except.bind]

/-- An administrator is logged in. -/
def administered : Site :=
  { Site.empty with
    users := Table.empty.insert ⟨"admin", "hash", .admin, true, 0⟩
    webSessions := [⟨"token", 0, 100, 0⟩] }

def executing (sql : String) : Json :=
  .build [("action", .str "sql.execute"), ("session_token", .str "token"), ("sql", .str sql)]

/-- The server when it is asked for `SELECT 1`. -/
def selecting : WebEnv :=
  { WebEnv.bare with
    toEnv := { Env.bare with pg := { Pg.bare with
      rawParser := fun _ => .ok [.stmt .select false false [] [.other []] []] } }
    executeQuery := fun _ site =>
      .ok (.build [("cols", .arr [.str "?column?"]), ("rows", .arr [.arr [.num 1 0]])], site)
    executeStatement := fun _ site => .ok (1, site) }

/-- The server when it is asked for `SELECT 1/0`. -/
def dividing : WebEnv :=
  { selecting with
    executeQuery := fun _ _ => .error "division by zero"
    executeStatement := fun _ _ => .error "division by zero" }

theorem sqlExecute_audited_iff_select :
    AttemptAudited selecting.pg administered (some "SELECT 1")
      (dashboardRpc selecting administered (executing "SELECT 1")).2 := by
  refine (sqlExecute_audited_iff selecting administered _ (executing "SELECT 1") (by decide +kernel) rfl).mpr ?_
  exact { written := by decide +kernel, single := ⟨_, rfl, by decide⟩, runs := .inl ⟨_, _, rfl, rfl⟩ }

theorem not_sqlExecute_audited :
    requestedAction (executing "SELECT 1/0") = some (.config .sqlExecute) ∧
      (∃ admin, requireAdminIfAccountsExist dividing (sessionUser dividing administered (some "token")).2
        (some "token") = .ok admin) ∧
      ¬ ∃ auditId entry,
        (dashboardRpc dividing administered (executing "SELECT 1/0")).2.db.auditLog.get? auditId = some entry := by
  refine ⟨by decide +kernel, ⟨_, rfl⟩, ?_⟩
  have unchanged : (dashboardRpc dividing administered (executing "SELECT 1/0")).2.db.auditLog.rows.length = 0 := by
    decide +kernel
  rintro ⟨auditId, entry, found⟩
  have member := Table.mem_rows_iff.mpr found
  rw [List.eq_nil_of_length_eq_zero unchanged] at member
  exact List.not_mem_nil member

end Allgres
