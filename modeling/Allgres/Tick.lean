import Allgres.Integrations
import Allgres.Build
import Allgres.Watchdog

/-! The pump of the runtime worker, and the sweep `fn_pump` that its tick is
written after. -/

namespace Allgres

open Relational Jsonb Sql

/-- A job that the worker runs itself is reported in a transaction of its own. -/
def report (done : Except String (Json × Db)) (db : Db) : Db :=
  match done with
  | .error _ => db
  | .ok (_, db) => db

end Allgres
