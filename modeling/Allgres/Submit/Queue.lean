import Allgres.Submit.Turn
import Allgres.Sandbox.Validate

/-! The actions of an agent that put a call on one of the task queues. -/

namespace Allgres

open Relational Jsonb Sql

/-- The columns of a new `outbound_calls` row that most inserts leave alone. -/
def plainOutbound (kind : CallKind) (url : String) (requestHeaders requestBody : Json) : OutboundBody where
  kind := kind
  function := none
  url := url
  method := .get
  requestHeaders := requestHeaders
  requestBody := requestBody
  responseStatus := none
  responseBody := none
  error := none
  allowPrivate := false
  providerId := none
  connectionId := none
  authKind := none
  idempotencyKey := none
  procedureFunctionId := none
  procedureId := none
  experimentId := none
  outcome := none
  promptTokens := none
  completionTokens := none
  costUsd := none

def executeSql (env : Env) (db : Db) (turn : Turn) (parsed : Json) : Json × Db :=
  match fnValidateSql env db turn.task.agentId (parsed.getText? "sql") with
  | .error message =>
    turn.refuse env db [("sql", .optStr (parsed.getText? "sql")), ("message", .str message)] []
  | .ok sql =>
    let callId := db.sqlCalls.next
    (.build [("action", .str "execute_sql"), ("sql", .str sql), ("call_id", idJson callId)],
      (db.insertSql env turn.taskId ⟨turn.task.agentId, sql⟩).bumpStep env turn.taskId)

/-! ### `call_function` -/

/-- The procedures that expose the function to the agent. -/
def grantsProcedure (db : Db) (agentId procedureId : Nat) : Bool :=
  (db.procedures.get? procedureId).any fun procedure =>
    procedure.isActive && (agentPermissionRefs db agentId .procedure).contains procedure.name

def boundFunction (env : Env) (db : Db) (agentId : Nat) (name : Option String) : Option (Nat × FunctionRow) :=
  db.functions.find? fun functionId function =>
    env.pg.lower function.name == env.pg.lower (name.getD "") && function.isActive &&
      db.bindings.any fun binding => binding.2 == functionId && grantsProcedure db agentId binding.1

def boundProcedure (db : Db) (agentId functionId : Nat) : Option Nat :=
  (db.bindings.find? fun binding => binding.2 == functionId && grantsProcedure db agentId binding.1).map Prod.fst

/-- What an HTTP function call will send. -/
structure Request where
  kind : CallKind
  method : Method
  url : Option String
  headers : Json
  body : Json
  connection : Option (Nat × ConnectionRow)

def Request.authKind (request : Request) : Option AuthKind :=
  (request.connection.map fun connection => connection.2.authKind).filter fun kind => kind != .none

def Request.allowPrivate (request : Request) : Bool :=
  request.connection.any fun connection => connection.2.allowPrivateNetwork

/-- `md5(task || method || url || body)`, null where the URL is missing. -/
def idempotencyKey (env : Env) (taskId : Nat) (method : Method) (url : Option String) (body : Json) : Json :=
  .ofOption (fun url => .str (env.pg.md5 (uuidText taskId ++ "|" ++ method.text ++ "|" ++ url ++ "|" ++ body.text))) url

def withIdempotencyKey (env : Env) (taskId : Nat) (request : Request) : Request :=
  if request.headers.hasKey "idempotency-key" then request
  else { request with
    headers := request.headers.concat
      (.build [("idempotency-key", idempotencyKey env taskId request.method request.url request.body)]) }

def httpGetRequest (args : Json) : Request where
  kind := .function
  method := .get
  url := args.getText? "url"
  headers := .build [("accept", .str "application/json, text/plain, */*")]
  body := .emptyObj
  connection := none

/-- The request, or the content of the log row that explains why there is none. -/
def mcpRequest (env : Env) (db : Db) (taskId : Nat) (bound : Option FunctionRow) (args origArgs : Json) :
    Except (List (String × Json)) Request :=
  match bound.bind FunctionRow.mcpConnectionId with
  | none => .error [("reason", .str "unknown_function"), ("function", .str "mcp_call")]
  | some connectionId =>
    match (db.connections.get? connectionId).filter ConnectionRow.isEnabled with
    | none => .error [("reason", .str "mcp_connection_unavailable"), ("function", .str "mcp_call")]
    | some connection =>
      .ok (withIdempotencyKey env taskId {
        kind := .mcp
        method := .post
        url := some connection.baseUrl
        headers := .build [("accept", .str "application/json, text/event-stream"),
          ("content-type", .str "application/json")]
        body := .build [("jsonrpc", .str "2.0"), ("id", .ofNat 1), ("method", .str "tools/call"),
          ("params", .build [("name", .optStr (args.getText? "tool")), ("arguments", origArgs)])]
        connection := some (connectionId, connection) })

private def reservedHeaders : List String := ["authorization", "x-api-key", "host", "content-length"]

/-- The headers an agent may set itself, under lower-case names. -/
def agentHeaders (env : Env) (args : Json) : Json :=
  let fields := match args.get? "headers" with
    | some (.obj fields) => fields
    | _ => []
  .build ((fields.filter fun field => !reservedHeaders.contains (env.pg.lower field.1)).map fun field =>
    (env.pg.lower field.1, .optStr field.2.asText))

def Method.mutates : Method → Bool
  | .get => false
  | _ => true

def Method.hasBody : Method → Bool
  | .post | .put | .patch => true
  | _ => false

private def connectedUrl (baseUrl path : String) : String :=
  trimRight (· == '/') baseUrl ++ "/" ++ trimLeft (· == '/') path

/-- Where a request goes: a path below a named connection, or a URL of the agent's own. -/
def requestTarget (db : Db) (args : Json) :
    Except (List (String × Json)) (Option String × Option (Nat × ConnectionRow)) :=
  match nonEmpty ((args.getText? "connection").map btrim) with
  | none => .ok (args.getText? "url", none)
  | some name =>
    match db.connections.find? fun _ connection => connection.name == name && connection.isEnabled with
    | none => .error [("reason", .str "unknown_connection"), ("connection", .str name)]
    | some (connectionId, connection) =>
      let path := (args.getText? "path").getD ""
      if (splitScheme path.toList).isSome then
        .error [("reason", .str "connection_path_must_be_relative"), ("path", .str path)]
      else .ok (some (connectedUrl connection.baseUrl path), some (connectionId, connection))

def httpRequest (env : Env) (db : Db) (taskId : Nat) (args : Json) : Except (List (String × Json)) Request :=
  let wanted := env.pg.upper ((nonEmpty ((args.getText? "method").map btrim)).getD "GET")
  match Method.ofText wanted with
  | none => .error [("reason", .str "unsupported_http_method"), ("method", .optStr (args.getText? "method"))]
  | some method =>
    match requestTarget db args with
    | .error content => .error content
    | .ok (url, connection) =>
      let request : Request := {
        kind := .function
        method := method
        url := url
        headers := (agentHeaders env args).concat (.build [("accept", .str "application/json, text/plain, */*")])
        body := if method.hasBody then (args.get? "body").getD .emptyObj else .emptyObj
        connection := connection }
      .ok (if method.mutates then withIdempotencyKey env taskId request else request)

def buildRequest (env : Env) (db : Db) (taskId : Nat) (function : Option String) (bound : Option FunctionRow)
    (args origArgs : Json) : Except (List (String × Json)) Request :=
  match function with
  | some "http_get" => .ok (httpGetRequest args)
  | some "mcp_call" => mcpRequest env db taskId bound args origArgs
  | some "http_request" => httpRequest env db taskId args
  | other => .error [("reason", .str "unknown_function"), ("function", .optStr other)]

/-- The checks that every outbound function call passes last, and the call itself. -/
def sendRequest (env : Env) (db : Db) (turn : Turn) (function : Option String) (bound : Option (Nat × Option Nat))
    (args : Json) (request : Request) : Json × Db :=
  match checkOutboundUrl env.pg request.url request.allowPrivate with
  | some reason => turn.refuse env db [("reason", .str reason), ("url", .optStr request.url)] []
  | none =>
    let host := urlHost env.pg request.url
    if !(bound.isSome || agentHasPermission env db turn.task.agentId .httpHost host) then
      turn.refuse env db [("reason", .str "http_host_not_permitted"), ("host", .optStr host)] []
    else
      let callId := db.outboundCalls.next
      let db := db.insertOutbound env turn.taskId
        { plainOutbound request.kind (request.url.getD "") request.headers request.body with
          function := function
          method := request.method
          allowPrivate := request.allowPrivate
          connectionId := request.connection.map Prod.fst
          authKind := request.authKind
          idempotencyKey := request.headers.getText? "idempotency-key"
          procedureFunctionId := bound.map Prod.fst
          procedureId := bound.bind Prod.snd }
      (.build [("action", .str "call_function"), ("function", .optStr function), ("args", args),
        ("call_id", idJson callId)], db.bumpStep env turn.taskId)

/-- A `plpgsql` function is queued with the agent's own arguments. -/
def callBody (env : Env) (db : Db) (turn : Turn) (name : Option String) (functionId : Nat) (function : FunctionRow)
    (args : Json) : Json × Db :=
  if function.buildStatus ≠ .built then
    turn.refuse env db [("reason", .str "function_not_built"), ("function", .optStr name),
      ("build_status", .str function.buildStatus.text)] []
  else
    let callId := db.functionCalls.next
    let db := db.insertFunctionCall env turn.taskId ⟨functionId, turn.task.agentId, args, none, none⟩
    (.build [("action", .str "call_function"), ("function", .optStr name), ("call_id", idJson callId)],
      db.bumpStep env turn.taskId)

def callOutbound (env : Env) (db : Db) (turn : Turn) (function : Option String)
    (bound : Option (Nat × FunctionRow × Option Nat)) (args origArgs : Json) : Json × Db :=
  match buildRequest env db turn.taskId function (bound.map fun target => target.2.1) args origArgs with
  | .error content => turn.refuse env db content []
  | .ok request =>
    sendRequest env db turn function (bound.map fun target => (target.1, target.2.2)) args request

def callFunction (env : Env) (db : Db) (turn : Turn) (parsed : Json) : Json × Db :=
  let name := parsed.getText? "function"
  let args := (parsed.get? "args").getD .emptyObj
  if agentHasPermission env db turn.task.agentId .function name then
    callOutbound env db turn name none args args
  else match boundFunction env db turn.task.agentId name with
    | none => turn.refuse env db [("reason", .str "function_not_permitted"), ("function", .optStr name)] []
    | some (functionId, function) =>
      if function.handler = .plpgsql then callBody env db turn name functionId function args
      else
        let procedureId := boundProcedure db turn.task.agentId functionId
        callOutbound env db turn (some function.handler.text) (some (functionId, function, procedureId))
          function.argsTemplate args

/-! ### The other queues -/

def runProcedure (env : Env) (db : Db) (turn : Turn) (parsed : Json) : Json × Db :=
  let name := nonEmpty ((parsed.getText? "procedure").map btrim)
  if !name.any (agentPermissionRefs db turn.task.agentId .procedure).contains then
    turn.refuse env db [("reason", .str "procedure_not_permitted"), ("procedure", .optStr name)] []
  else match db.procedures.find? fun _ procedure => some procedure.name == name && procedure.isActive with
    | none => turn.refuse env db [("reason", .str "unknown_procedure"), ("procedure", .optStr name)] []
    | some (procedureId, procedure) =>
      if procedure.body.isNone ∨ procedure.buildStatus ≠ .built then
        turn.refuse env db [("reason", .str "procedure_not_built"), ("procedure", .optStr name),
          ("build_status", .str procedure.buildStatus.text)] []
      else
        let callId := db.procedureCalls.next
        let args := (parsed.get? "args").getD .emptyObj
        let db := db.insertProcedureCall env turn.taskId ⟨procedureId, turn.task.agentId, args, none, none⟩
        (.build [("action", .str "run_procedure"), ("procedure", .optStr name), ("call_id", idJson callId)],
          db.bumpStep env turn.taskId)

/-- `search_agents` and `recall` embed their query first and differ only in
what is ranked when the vector comes back. -/
def embedQuery (kind : CallKind) (action missing : String) (env : Env) (db : Db) (turn : Turn) (parsed : Json) :
    Json × Db :=
  if (nonEmpty ((parsed.getText? "query").map btrim)).isNone then
    turn.refuse env db [("reason", .str missing)] []
  else match db.embeddingProvider with
    | none => turn.refuse env db [("reason", .str "no_embedding_provider_configured")] []
    | some (providerId, provider) =>
      let url := provider.baseUrl ++ "/embeddings"
      match checkOutboundUrl env.pg (some url) provider.allowPrivateNetwork with
      | some reason => turn.refuse env db [("reason", .str reason), ("url", .str url)] []
      | none =>
        let callId := db.outboundCalls.next
        let query := (parsed.getText? "query").getD ""
        let db := db.insertOutbound env turn.taskId
          { plainOutbound kind url (.build [("content-type", .str "application/json")])
              (.build [("model", .optStr provider.embeddingModel), ("input", .str (left query 8000))]) with
            allowPrivate := provider.allowPrivateNetwork
            providerId := some providerId
            authKind := some .authorization }
        (.build [("action", .str action), ("query", .str query), ("call_id", idJson callId)],
          db.bumpStep env turn.taskId)

def searchAgents : Env → Db → Turn → Json → Json × Db :=
  embedQuery .embedding "search_agents" "search_agents_needs_query"

def recallMemories : Env → Db → Turn → Json → Json × Db :=
  embedQuery .recallMemories "recall" "recall_needs_query"

end Allgres
