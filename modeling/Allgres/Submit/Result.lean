import Allgres.Submit.Queue
import Allgres.Submit.Govern

namespace Allgres

open Relational Jsonb Sql

/-- The values of `action` that `fn_submit_result` knows. -/
inductive Action
  | finalAnswer | executeSql | callFunction | runProcedure | delegate | searchAgents | recallMemories | awaitHuman
  | proposeChange | remember | createAgent | proposeFix | awaitChildren | createFunction | updateFunction
  deriving DecidableEq

def Action.ofText : String → Option Action
  | "final_answer" => some finalAnswer
  | "execute_sql" => some executeSql
  | "call_function" => some callFunction
  | "run_procedure" => some runProcedure
  | "delegate" => some delegate
  | "search_agents" => some searchAgents
  | "recall" => some recallMemories
  | "await_human" => some awaitHuman
  | "propose_change" => some proposeChange
  | "remember" => some remember
  | "create_agent" => some createAgent
  | "propose_fix" => some proposeFix
  | "await_children" => some awaitChildren
  | "create_function" => some createFunction
  | "update_function" => some updateFunction
  | _ => none

def act (env : Env) (db : Db) (turn : Turn) (parsed : Json) : Action → Except String (Json × Db)
  | .finalAnswer => .ok (finalAnswer env db turn parsed)
  | .executeSql => .ok (executeSql env db turn parsed)
  | .callFunction => .ok (callFunction env db turn parsed)
  | .runProcedure => .ok (runProcedure env db turn parsed)
  | .searchAgents => .ok (searchAgents env db turn parsed)
  | .recallMemories => .ok (recallMemories env db turn parsed)
  | .delegate => delegate env db turn parsed
  | .proposeChange => proposeChange env db turn parsed
  | .createAgent => createAgent env db turn parsed
  | .createFunction => .ok (createFunction env db turn parsed)
  | .updateFunction => updateFunction env db turn parsed
  | .proposeFix => proposeFix env db turn parsed
  | .remember => remember env db turn parsed
  | .awaitHuman => .ok (awaitHuman env db turn parsed)
  | .awaitChildren => .ok (awaitChildren env db turn)

/-- The object an `llm_response` carries: what the worker parsed, or the first one in the text. -/
def parsedReply (payload : Json) : Option Json :=
  match payload.get? "parsed" with
  | some (.obj fields) => some (.obj fields)
  | _ => extractFirstJson (payload.getText? "content")

def submitReply (env : Env) (db : Db) (turn : Turn) (payload : Json) : Except String (Json × Db) :=
  let db := turn.log env db .assistant (.str ((payload.getText? "content").getD ""))
  let parsed := parsedReply payload
  match (parsed.bind fun value => value.getText? "action").bind Action.ofText with
  | none => .ok (turn.refuse env db [("reason", .str "unknown_action"), ("parsed", parsed.getD .null)]
      [("reason", .str "unknown_action")])
  | some action => act env db turn (parsed.getD .null) action

/-- An `error` payload: the task fails once it has more error rows than retries. -/
def submitError (env : Env) (db : Db) (turn : Turn) (payload : Json) : Json × Db :=
  let message := (payload.getText? "message").getD "error"
  let db := turn.log env db .error (.build [("message", .str message)])
  let errors := db.logs.countP fun log => log.taskId == turn.taskId && log.role == .error
  let db := db.bumpStep env turn.taskId
  if turn.policy.any fun policy => policy.maxRetries < errors then
    let db := db.updateTask env turn.taskId fun task => { task with status := .failed, error := some message }
    (.build [("action", .str "done"), ("reason", .str "retries_exceeded")],
      maybeCompleteSession env db turn.task.sessionId)
  else (continueWith [], db)

/-- A `function_result` or a `procedure_result` becomes a log row. -/
def submitValue (role : Role) (env : Env) (db : Db) (turn : Turn) (payload : Json) : Json × Db :=
  (continueWith [], (turn.log env db role ((payload.get? "content").getD .emptyObj)).bumpStep env turn.taskId)

def submitPayload (env : Env) (db : Db) (turn : Turn) (payload : Json) : Except String (Json × Db) :=
  match payload.getText? "type" with
  | some "error" => .ok (submitError env db turn payload)
  | some "function_result" => .ok (submitValue .function env db turn payload)
  | some "procedure_result" => .ok (submitValue .procedure env db turn payload)
  | some "llm_response" => submitReply env db turn payload
  | _ =>
    let db := db.appendLog env turn.taskId turn.task.stepCount .error
      (.build [("reason", .str "payload_rejected"), ("payload", payload)])
    .ok (continueWith [("reason", .str "payload_rejected")], db.bumpStep env turn.taskId)

def fnSubmitResult (env : Env) (db : Db) (t : Nat) (payload : Json) : Except String (Json × Db) :=
  match db.tasks.get? t with
  | none => .error "fn_submit_result: task not found"
  | some task =>
    if task.status ≠ .running then .error ("fn_submit_result: status " ++ task.status.text ++ " is not running")
    else match (db.agents.get? task.agentId).filter AgentRow.isActive with
      | none =>
        .ok (.build [("action", .str "done"), ("reason", .str "agent_inactive")],
          failTask env db t task "agent_inactive" [("reason", .str "agent_inactive"), ("discarded", .bool true)])
      | some agent => submitPayload env db ⟨t, task, agent, db.policyOf task.agentId⟩ payload

end Allgres
