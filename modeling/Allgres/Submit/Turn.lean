import Allgres.Session
import Allgres.Memory

namespace Allgres

open Relational Jsonb Sql

/-- The rows `fn_submit_result` reads before it looks at the payload. -/
structure Turn where
  taskId : Nat
  task : TaskRow
  agent : AgentRow
  policy : Option PolicyRow

/-- A reply `{"action": "continue", …}`. -/
def continueWith (fields : List (String × Json)) : Json :=
  .build (("action", .str "continue") :: fields)

namespace Turn

/-- One log row at the step about to be counted. -/
def log (turn : Turn) (env : Env) (db : Db) (role : Role) (content : Json) : Db :=
  db.appendLog env turn.taskId (turn.task.stepCount + 1) role content

/-- How an action is turned down: an `error` row and one more step. -/
def refuse (turn : Turn) (env : Env) (db : Db) (content reply : List (String × Json)) : Json × Db :=
  (continueWith reply, (turn.log env db .error (.build content)).bumpStep env turn.taskId)

/-- How an action that needs no answer is recorded: an `assistant` row and one more step. -/
def note (turn : Turn) (env : Env) (db : Db) (content reply : List (String × Json)) : Json × Db :=
  (continueWith reply, (turn.log env db .assistant (.build content)).bumpStep env turn.taskId)

end Turn

/-- The task fails with the given error, without a step being counted. -/
def failTask (env : Env) (db : Db) (t : Nat) (task : TaskRow) (error : String) (content : List (String × Json)) : Db :=
  let db := db.updateTask env t fun row => { row with status := .failed, error := some error }
  let db := db.appendLog env t task.stepCount .error (.build content)
  maybeCompleteSession env db task.sessionId

/-! ### The first JSON object of a text -/

structure JsonScan where
  /-- What has been read of the object, the last character first. -/
  chunk : List Char
  depth : Nat
  inStr : Bool
  esc : Bool

def scanJson : Option JsonScan → List Char → Option Json
  | _, [] => none
  | none, c :: rest =>
    if c = '\x7b' then scanJson (some ⟨[c], 1, false, false⟩) rest else scanJson none rest
  | some scan, c :: rest =>
    let scan := { scan with chunk := c :: scan.chunk }
    if scan.inStr then
      if scan.esc then scanJson (some { scan with esc := false }) rest
      else if c = '\\' then scanJson (some { scan with esc := true }) rest
      else if c = '"' then scanJson (some { scan with inStr := false }) rest
      else scanJson (some scan) rest
    else if c = '"' then scanJson (some { scan with inStr := true }) rest
    else if c = '\x7b' then scanJson (some { scan with depth := scan.depth + 1 }) rest
    else if c = '\x7d' then
      if scan.depth = 1 then
        match parse (String.ofList scan.chunk.reverse) with
        | some value => some value
        | none => scanJson none rest
      else scanJson (some { scan with depth := scan.depth - 1 }) rest
    else scanJson (some scan) rest

def extractFirstJson (text : Option String) : Option Json :=
  match text with
  | none => none
  | some text =>
    let trimmed := btrim text
    if trimmed = "" then none
    else match (if left trimmed 1 = "\x7b" then parse trimmed else none) with
      | some value => some value
      | none => scanJson none text.toList

example : (extractFirstJson (some "ok: \x7b\"a\": \"\x7d\"\x7d.")).map Json.text = some "\x7b\"a\": \"\x7d\"\x7d" := by
  decide +kernel

end Allgres
