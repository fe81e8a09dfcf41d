import Mathlib.Logic.Relation
import Allgres.Safety.Identity
import Allgres.Writes.Submit

/-! Where the paths that agents supply below a connection lead. -/

namespace Allgres

open Relational Jsonb Sql Raising Relation

/-- Every stored base URL is one that may be fetched as its connection allows. -/
def CheckedConnections (pg : Pg) (db : Db) : Prop :=
  ∀ id connection, db.connections.get? id = some connection →
    checkOutboundUrl pg (some connection.baseUrl) connection.allowPrivateNetwork = none

variable {pg : Pg} {db db' : Db}

theorem CheckedConnections.of_connections (checked : CheckedConnections pg db)
    (same : db'.connections = db.connections) : CheckedConnections pg db' := by
  intro id connection found
  rw [same] at found
  exact checked id connection found

theorem fnSetConnectionSecret_connections {env : WebEnv} {connectionId : Option Nat} {apiKey : Option String}
    {answer : Json × Db} (set : fnSetConnectionSecret env db connectionId apiKey = .ok answer) :
    answer.2.connections = db.connections := by
  unfold fnSetConnectionSecret at set
  split at set
  · cases set
  · cases set
  · obtain rfl := Except.ok.inj set
    rfl

theorem fnCreateConnection_checked {env : WebEnv} {name baseUrl apiKey : Option String} {authKind : String}
    {allow : Bool} {answer : Json × Db} (checked : CheckedConnections env.pg db)
    (created : fnCreateConnection env db name baseUrl authKind apiKey allow = .ok answer) :
    CheckedConnections env.pg answer.2 := by
  unfold fnCreateConnection at created
  simp only at created
  split at created
  · cases created
  · cases created
  · cases created
  · rename_i title kind url _ _ _
    split at created
    · cases created
    · rename_i accepted
      split at created
      · cases created
      · split at created
        · cases created
        · rename_i stored secret
          obtain rfl := Except.ok.inj created
          have inserted : CheckedConnections env.pg
              { db with connections := db.connections.insert ⟨title, url, kind, allow, true⟩ } := by
            intro id connection found
            rw [Table.get?_insert] at found
            split at found
            · obtain rfl := Option.some.inj found
              exact accepted
            · exact checked id connection found
          have kept : stored.connections = db.connections.insert ⟨title, url, kind, allow, true⟩ := by
            split at secret
            · obtain ⟨whole, set, same⟩ := map_eq_ok.mp secret
              rw [← same]
              exact fnSetConnectionSecret_connections set
            · exact Except.ok.inj secret ▸ rfl
          exact inserted.of_connections kept

theorem fnSetConnection_checked {env : WebEnv} {connectionId : Option Nat} {baseUrl authKind : Option String}
    {enabled allow : Option Bool} {answer : Json × Db} (checked : CheckedConnections env.pg db)
    (set : fnSetConnection env db connectionId baseUrl authKind enabled allow = .ok answer) :
    CheckedConnections env.pg answer.2 := by
  rcases connectionId with _ | key
  · cases set
  simp only [fnSetConnection, withRow] at set
  split at set
  · cases set
  · split at set
    · cases set
    · split at set
      · cases set
      · rename_i accepted
        obtain rfl := Except.ok.inj set
        intro id connection found
        simp only [Db.audit, Table.get?_modify] at found
        split at found
        · obtain ⟨row, -, rfl⟩ := Option.map_eq_some_iff.mp found
          exact accepted
        · exact checked id connection found

/-- What befalls the connections: all else leaves each of them as it is or drops it. -/
inductive ConnectionStep (pg : Pg) : Db → Db → Prop
  | create {db : Db} (env : WebEnv) (name baseUrl : Option String) (authKind : String) (apiKey : Option String)
      (allow : Bool) (answer : Json × Db) : env.pg = pg →
      fnCreateConnection env db name baseUrl authKind apiKey allow = .ok answer → ConnectionStep pg db answer.2
  | edit {db : Db} (env : WebEnv) (connectionId : Option Nat) (baseUrl authKind : Option String)
      (enabled allow : Option Bool) (answer : Json × Db) : env.pg = pg →
      fnSetConnection env db connectionId baseUrl authKind enabled allow = .ok answer →
      ConnectionStep pg db answer.2
  | delete {db : Db} (connectionId : Option Nat) (answer : Json × Db) :
      fnDeleteConnection db connectionId = .ok answer → ConnectionStep pg db answer.2
  | other {db db' : Db} : db'.connections = db.connections → ConnectionStep pg db db'

theorem ConnectionStep.checked (step : ConnectionStep pg db db') (checked : CheckedConnections pg db) :
    CheckedConnections pg db' := by
  cases step with
  | create env name baseUrl authKind apiKey allow answer same created =>
    subst same
    exact fnCreateConnection_checked checked created
  | edit env connectionId baseUrl authKind enabled allow answer same set =>
    subst same
    exact fnSetConnection_checked checked set
  | delete connectionId answer deleted =>
    rcases connectionId with _ | key
    · cases deleted
    simp only [fnDeleteConnection, withRow] at deleted
    split at deleted
    · cases deleted
    · split at deleted
      · cases deleted
      · obtain rfl := Except.ok.inj deleted
        intro id connection found
        simp only [Db.audit, Table.get?_delete] at found
        exact checked id connection (Option.filter_eq_some_iff.mp found).1
  | other same => exact checked.of_connections same

theorem checkedConnections_of_run (run : ReflTransGen (ConnectionStep pg) db db') (checked : CheckedConnections pg db) :
    CheckedConnections pg db' := by
  induction run with
  | refl => exact checked
  | tail _ step ih => exact step.checked ih

/-- A connection's credential goes to the host of its base URL, whatever path the agent supplies. -/
theorem connection_url_confined (run : ReflTransGen (ConnectionStep pg) db db') (fresh : db.connections.rows = [])
    {args : Json} {url : Option String} {id : Nat} {connection : ConnectionRow} {allow : Bool}
    (target : requestTarget db' args = .ok (url, some (id, connection)))
    (accepted : checkOutboundUrl pg url allow = none) :
    urlHost pg url = urlHost pg (some connection.baseUrl) := by
  have initially : CheckedConnections pg db := by
    intro id connection found
    have member := Table.mem_rows_iff.mpr found
    rw [fresh] at member
    cases member
  obtain ⟨found, -, path, rfl⟩ := requestTarget_sound target
  have base := checkedConnections_of_run run initially id connection found
  exact urlHost_join base accepted

/-- The path of an agent that tries to name a host of its own. -/
private def strayArgs : Json := .build [("connection", .str "crm"), ("path", .str "//@evil.example:80/../?@x#@y")]

theorem connection_url_confined_stray : ∃ answer url connection,
    fnCreateConnection WebEnv.bare .empty (some "crm") (some "https://api.example:8443/v1?q=/") "none" none false =
      .ok answer ∧
    requestTarget answer.2 strayArgs = .ok (url, some (0, connection)) ∧
    urlHost .bare url = urlHost .bare (some connection.baseUrl) := by
  have runs : ((fnCreateConnection WebEnv.bare .empty (some "crm") (some "https://api.example:8443/v1?q=/") "none"
      none false).toOption.any fun answer => (requestTarget answer.2 strayArgs).toOption.any fun target =>
        target.2.any (fun connection => connection.1 == 0) && (checkOutboundUrl .bare target.1 false).isNone) = true := by
    decide +kernel
  rcases created : fnCreateConnection WebEnv.bare .empty (some "crm") (some "https://api.example:8443/v1?q=/") "none"
      none false with message | answer
  · simp [created, Except.toOption] at runs
  rcases target : requestTarget answer.2 strayArgs with refused | ⟨url, named⟩
  · simp [created, target, Except.toOption] at runs
  rcases named with unnamed | ⟨id, connection⟩
  · simp [created, target, Except.toOption] at runs
  obtain ⟨rfl, accepted⟩ : id = 0 ∧ checkOutboundUrl .bare url false = none := by
    simpa [created, target, Except.toOption] using runs
  exact ⟨answer, url, connection, rfl, target,
    connection_url_confined (.single (.create WebEnv.bare _ _ _ _ _ answer rfl created)) rfl target accepted⟩

end Allgres
