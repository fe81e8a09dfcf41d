import Allgres.NextStep

namespace Allgres

open Relational Jsonb Sql

/-! ### The request of a turn -/

structure LlmHttp where
  url : String
  headers : Json
  body : Json
  allowPrivate : Bool
  providerId : Nat
  authKind : AuthKind
  override : Override

/-- The system messages joined, for the API that takes them apart from the
others. A message without content makes the whole text null. -/
def joinedSystem (messages : List Json) : Option String :=
  (messages.filter fun entry => entry.getText? "role" == some "system").foldl
    (fun joined entry =>
      match joined, entry.getText? "content" with
      | some text, some content => some (if text = "" then content else text ++ "\n" ++ content)
      | _, _ => none)
    (some "")

def anthropicMessages (messages : List Json) : List Json :=
  (messages.filter fun entry => entry.getText? "role" != some "system").map fun entry =>
    message (if entry.getText? "role" == some "assistant" then "assistant" else "user")
      (.optStr (entry.getText? "content"))

/-- `COALESCE((config ->> 'max_tokens')::int, 1024)`. -/
def maxTokens (config : Json) : Except String Json :=
  match castInt (config.getText? "max_tokens") with
  | .error message => .error message
  | .ok tokens => .ok (.num (tokens.getD 1024) 0)

def temperature (env : Env) (config : Json) : Except String Json :=
  match castOr "double precision" env.pg.float8Json (config.getText? "temperature") with
  | .error message => .error message
  | .ok value => .ok (value.getD (.num 2 1))

def anthropicBody (spec : LlmSpec) (model : String) : Except String Json :=
  match maxTokens spec.llmConfig with
  | .error message => .error message
  | .ok tokens =>
    .ok (.build [("model", .str model), ("max_tokens", tokens), ("system", .optStr (joinedSystem spec.messages)),
      ("messages", .arr (anthropicMessages spec.messages))])

def chatBody (env : Env) (provider : ProviderRow) (spec : LlmSpec) (model : String) : Except String Json :=
  match temperature env spec.llmConfig with
  | .error message => .error message
  | .ok degree =>
    match maxTokens spec.llmConfig with
    | .error message => .error message
    | .ok tokens =>
      let body : Json := .build [("model", .str model), ("messages", .arr spec.messages), ("temperature", degree),
        ("max_tokens", tokens)]
      .ok (if provider.responseFormatJsonObject then
        body.concat (.build [("response_format", .build [("type", .str "json_object")])]) else body)

def buildLlmHttp (env : Env) (db : Db) (spec : LlmSpec) : Except String LlmHttp :=
  match spec.llmConfig.getText? "provider" with
  | none =>
    .error ("agent has no llm_config.provider configured -- set a provider and model before running this agent")
  | some name =>
    match db.providers.find? fun _ provider => provider.name == name && provider.isEnabled with
    | none => .error ("llm provider \"" ++ name ++ "\" is not configured or not enabled -- refusing to silently " ++
        "substitute a different provider")
    | some (providerId, provider) =>
      match spec.llmConfig.getText? "model" with
      | none =>
        .error "agent has no llm_config.model configured -- set a provider and model before running this agent"
      | some model =>
        let base := trimRight (· == '/') provider.baseUrl
        match checkOutboundUrl env.pg (some base) provider.allowPrivateNetwork with
        | some reason => .error ("llm provider \"" ++ provider.name ++ "\" endpoint rejected: " ++ reason)
        | none =>
          if provider.kind = .anthropic then
            match anthropicBody spec model with
            | .error message => .error message
            | .ok body =>
              .ok ⟨base ++ "/v1/messages", .build [("content-type", .str "application/json"),
                ("anthropic-version", .str "2023-06-01")], body, provider.allowPrivateNetwork, providerId, .xApiKey,
                spec.override⟩
          else
            match chatBody env provider spec model with
            | .error message => .error message
            | .ok body =>
              .ok ⟨base ++ "/chat/completions", .build [("content-type", .str "application/json")], body,
                provider.allowPrivateNetwork, providerId, .authorization, spec.override⟩

/-! ### `fn_dispatch_tasks` -/

structure Dispatched where
  calls : List (Nat × Nat)
  db : Db

def errorPayload (message : String) : Json := .build [("type", .str "error"), ("message", .str message)]

/-- The agent's other tasks fill its `max_concurrent_tasks`. -/
def atCapacity (db : Db) (t agentId : Nat) : Bool :=
  let active := db.tasks.count fun other task => task.agentId == agentId && other != t &&
    (task.status == .running || task.status == .waitingHuman || task.status == .waitingChildren)
  (db.policyOf agentId).any fun policy => policy.maxConcurrentTasks ≤ active

/-- The references of a new `llm` call, which the database checks. -/
def knownOverride (db : Db) (override : Override) : Bool :=
  override.procedureFunctionId.all (fun id => (db.functions.get? id).isSome) &&
  override.procedureId.all (fun id => (db.procedures.get? id).isSome) &&
  override.experimentId.all (fun id => (db.experiments.get? id).isSome)

def queueLlm (env : Env) (db : Db) (t : Nat) (http : LlmHttp) : Db :=
  db.insertOutbound env t
    { plainOutbound .llm http.url http.headers http.body with
      allowPrivate := http.allowPrivate
      providerId := some http.providerId
      authKind := some http.authKind
      procedureFunctionId := http.override.procedureFunctionId
      procedureId := http.override.procedureId
      experimentId := http.override.experimentId }

/-- A failed `fn_next_step` was rolled back; its error is handed to the task if the task accepts it. -/
def reportFailure (env : Env) (db : Db) (t : Nat) (error : String) : Db :=
  match fnSubmitResult env db t (errorPayload error) with
  | .error _ => db
  | .ok (_, db) => db

/-- One pass of the loop; the call it queued, if any. -/
def dispatchTask (env : Env) (db : Db) (t : Nat) (agentId : Nat) : Except String (Option Nat × Db) :=
  if atCapacity db t agentId then .ok (none, db)
  else match fnNextStep env db t with
    | .error error => .ok (none, reportFailure env db t error)
    | .ok (.done _, db) => .ok (none, db)
    | .ok (.callLlm spec, db) =>
      match buildLlmHttp env db spec with
      | .error error =>
        match fnSubmitResult env db t (errorPayload error) with
        | .error message => .error message
        | .ok (_, db) => .ok (none, db)
      | .ok http =>
        if knownOverride db http.override then .ok (some db.outboundCalls.next, queueLlm env db t http)
        else .error "insert or update on table \"outbound_calls\" violates foreign key constraint"

def dispatchLoop (env : Env) : List (Nat × TaskRow) → Dispatched → Except String Dispatched
  | [], state => .ok state
  | (t, task) :: rest, state =>
    match dispatchTask env state.db t task.agentId with
    | .error message => .error message
    | .ok (none, db) => dispatchLoop env rest { state with db := db }
    | .ok (some call, db) =>
      let state := ⟨state.calls ++ [(call, t)], db⟩
      if 4 ≤ state.calls.length then .ok state else dispatchLoop env rest state

def dispatchable (db : Db) : List (Nat × TaskRow) :=
  (db.tasks.select fun t task =>
    (task.status == .queued || task.status == .running) && !db.hasOutstanding t).insertionSort
      fun a b => a.2.createdAt ≤ b.2.createdAt

def fnDispatchTasks (env : Env) (db : Db) : Except String Dispatched :=
  dispatchLoop env (dispatchable db) ⟨[], db⟩

end Allgres
