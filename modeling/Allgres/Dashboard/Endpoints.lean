import Allgres.Dashboard.Governance
import Allgres.Claim
import Allgres.Build

/-! Providers, connections, prices, functions and the login flows of providers. -/

namespace Allgres

open Relational Jsonb Sql

def trimSlashes (url : String) : String := trimRight (· == '/') url

/-- A URL without blanks around it and without slashes at its end. -/
def endpointUrl (url : Option String) : Option String := (nonEmpty (url.map btrim)).map trimSlashes

def AuthKind.ofText : String → Option AuthKind
  | "none" => some none
  | "authorization" => some authorization
  | "x-api-key" => some xApiKey
  | _ => Option.none

def AuthKind.text : AuthKind → String
  | none => "none"
  | authorization => "authorization"
  | xApiKey => "x-api-key"

def ProviderKind.ofText : String → Option ProviderKind
  | "openai_compat" => some openaiCompat
  | "anthropic" => some anthropic
  | "oauth" => some oauth
  | _ => none

def ProviderKind.text : ProviderKind → String
  | openaiCompat => "openai_compat"
  | anthropic => "anthropic"
  | oauth => "oauth"

def Purpose.ofText : String → Option Purpose
  | "chat" => some chat
  | "embedding" => some embedding
  | _ => none

def Purpose.text : Purpose → String
  | chat => "chat"
  | embedding => "embedding"

/-! ### Connections -/

/-- `INSERT … ON CONFLICT DO UPDATE`, where a missing secret keeps the stored one. -/
def upsertSecret (secrets : List (Nat × Option String)) (key : Nat) (secret : Option String) :
    List (Nat × Option String) :=
  if secrets.any fun entry => entry.1 == key then
    secrets.map fun entry => if entry.1 == key then (key, secret.or entry.2) else entry
  else secrets ++ [(key, secret)]

def secretStored (env : WebEnv) : Json :=
  .build [("ok", .bool true), ("has_secret", .bool true), ("storage", .str env.secretStorageMode)]

def fnSetConnectionSecret (env : WebEnv) (db : Db) (connectionId : Option Nat) (apiKey : Option String) :
    Except String (Json × Db) :=
  match env.encryptSecret (nonEmpty apiKey), connectionId.filter fun id => (db.connections.get? id).isSome with
  | .error message, _ => .error message
  | .ok _, none => .error "insert or update on table \"api_connection_secrets\" violates a constraint"
  | .ok secret, some connectionId =>
    .ok (secretStored env, { db with connectionSecrets := upsertSecret db.connectionSecrets connectionId secret })

def fnCreateConnection (env : WebEnv) (db : Db) (name baseUrl : Option String) (authKind : String)
    (apiKey : Option String) (allowPrivateNetwork : Bool) : Except String (Json × Db) :=
  let auth := (nonEmpty (some (btrim authKind))).getD "none"
  match nonEmpty (name.map btrim), AuthKind.ofText auth, endpointUrl baseUrl with
  | none, _, _ => .error "connection name is required"
  | _, none, _ => .error ("invalid connection auth_kind: " ++ auth)
  | _, _, none => .error "connection base_url is required"
  | some name, some kind, some url => match checkOutboundUrl env.pg (some url) allowPrivateNetwork with
    | some reason => .error ("connection endpoint rejected: " ++ reason ++ " (" ++ url ++ ")")
    | none =>
      if db.connections.exists? fun _ connection => connection.name == name then
        .error "duplicate key value violates unique constraint \"api_connections_name_key\""
      else
        let connectionId := db.connections.next
        let db := { db with connections := db.connections.insert ⟨name, url, kind, allowPrivateNetwork, true⟩ }
        match (if (nonEmpty apiKey).isSome then
            (fnSetConnectionSecret env db (some connectionId) apiKey).map Prod.snd else .ok db) with
        | .error message => .error message
        | .ok db =>
          .ok (.build [("ok", .bool true), ("connection_id", idJson connectionId)],
            db.audit "connections.create" (.build [("connection_id", idJson connectionId), ("name", .str name),
              ("base_url", .str url), ("auth_kind", .str auth), ("allow_private_network", .bool allowPrivateNetwork),
              ("api_key_set", .bool (nonEmpty apiKey).isSome)]))

def fnSetConnection (env : WebEnv) (db : Db) (connectionId : Option Nat) (baseUrl authKind : Option String)
    (enabled allowPrivateNetwork : Option Bool) : Except String (Json × Db) :=
  withRow connectionId "connection not found" fun connectionId => match db.connections.get? connectionId with
  | none => .error "connection not found"
  | some connection =>
    let allow := allowPrivateNetwork.getD connection.allowPrivateNetwork
    let url := trimSlashes ((nonEmpty baseUrl).getD connection.baseUrl)
    let auth := (nonEmpty authKind).getD connection.authKind.text
    match AuthKind.ofText auth with
    | none => .error ("invalid connection auth_kind: " ++ auth)
    | some kind => match checkOutboundUrl env.pg (some url) allow with
      | some reason => .error ("connection endpoint rejected: " ++ reason ++ " (" ++ url ++ ")")
      | none =>
        let db := { db with
          connections := db.connections.modify connectionId fun row =>
            { row with
              baseUrl := url, authKind := kind, isEnabled := enabled.getD row.isEnabled, allowPrivateNetwork := allow } }
        .ok (.build [("ok", .bool true)], db.audit "connections.update" (.build [
          ("connection_id", idJson connectionId), ("base_url", .str url), ("auth_kind", .str auth),
          ("enabled", .ofOption .bool enabled), ("allow_private_network", .bool allow)]))

/-- A connection that a call or a function refers to cannot be deleted. -/
def fnDeleteConnection (db : Db) (connectionId : Option Nat) : Except String (Json × Db) :=
  withRow connectionId "connection not found" fun connectionId => match db.connections.get? connectionId with
  | none => .error "connection not found"
  | some _ =>
    if (db.outboundCalls.exists? fun _ call => call.body.connectionId == some connectionId) ||
        db.functions.exists? fun _ function => function.mcpConnectionId == some connectionId then
      .error "update or delete on table \"api_connections\" violates a foreign key constraint"
    else
      let db := { db with
        connections := db.connections.delete fun key _ => key == connectionId
        connectionSecrets := db.connectionSecrets.filter fun entry => entry.1 != connectionId }
      .ok (.build [("ok", .bool true)],
        db.audit "connections.delete" (.build [("connection_id", idJson connectionId)]))

/-! ### Providers -/

def noSecret (providerId : Nat) : LlmSecretRow := ⟨providerId, none, none, none, none, none⟩

/-- `INSERT … ON CONFLICT (provider_id) DO UPDATE` of one column. -/
def upsertLlmSecret (secrets : Table LlmSecretRow) (providerId : Nat) (set : LlmSecretRow → LlmSecretRow) :
    Table LlmSecretRow :=
  if secrets.exists? fun _ row => row.providerId == providerId then
    secrets.update (fun _ row => row.providerId == providerId) fun _ row => set row
  else secrets.insert (set (noSecret providerId))

def fnSetProviderSecret (env : WebEnv) (db : Db) (providerId : Option Nat) (apiKey : Option String) :
    Except String (Json × Db) :=
  match env.encryptSecret (nonEmpty apiKey), providerId.filter fun id => (db.providers.get? id).isSome with
  | .error message, _ => .error message
  | .ok _, none => .error "insert or update on table \"llm_secrets\" violates a constraint"
  | .ok secret, some providerId =>
    let db := { db with
      secrets := upsertLlmSecret db.secrets providerId fun row => { row with apiKey := secret.or row.apiKey } }
    .ok (secretStored env, db.audit "provider.set_secret" (.build [("provider_id", idJson providerId),
      ("api_key_set", .bool true)]))

/-- The purpose of a new provider, checked together with what it demands. -/
def providerPurpose (kind : ProviderKind) (purpose : String) (embeddingModel : Option String) :
    Except String Purpose :=
  let purpose := (nonEmpty (some (btrim purpose))).getD "chat"
  match Purpose.ofText purpose with
  | none => .error ("invalid provider purpose: " ++ purpose)
  | some .chat => .ok .chat
  | some .embedding =>
    if kind ≠ .openaiCompat then .error "embedding providers must be kind=openai_compat"
    else if (nonEmpty (embeddingModel.map btrim)).isNone then
      .error "embedding_model is required for an embedding provider"
    else .ok .embedding

structure ProviderSpec where
  name : Option String
  kind : Option String
  baseUrl : Option String
  apiKey : Option String
  allowPrivateNetwork : Bool
  purpose : String
  embeddingModel : Option String
  responseFormatJsonObject : Bool

def fnCreateProvider (env : WebEnv) (db : Db) (spec : ProviderSpec) : Except String (Json × Db) :=
  match nonEmpty (spec.name.map btrim), spec.kind.bind ProviderKind.ofText with
  | none, _ => .error "provider name is required"
  | _, none => .error ("invalid provider kind: " ++ spec.kind.getD "<NULL>")
  | some name, some kind => match providerPurpose kind spec.purpose spec.embeddingModel, endpointUrl spec.baseUrl with
    | .error message, _ => .error message
    | .ok _, none => .error "provider base_url is required"
    | .ok purpose, some url => match checkOutboundUrl env.pg (some url) spec.allowPrivateNetwork with
      | some reason => .error ("provider endpoint rejected: " ++ reason ++ " (" ++ url ++ ")")
      | none =>
        if db.providers.exists? fun _ provider => provider.name == name then
          .error "duplicate key value violates unique constraint \"llm_providers_name_key\""
        else
          let providerId := db.providers.next
          let db := { db with
            providers := db.providers.insert ⟨name, kind, url, true, spec.allowPrivateNetwork, purpose,
              nonEmpty (spec.embeddingModel.map btrim), spec.responseFormatJsonObject, env.now, none, none⟩ }
          match (if (nonEmpty spec.apiKey).isSome then
              (fnSetProviderSecret env db (some providerId) spec.apiKey).map Prod.snd else .ok db) with
          | .error message => .error message
          | .ok db =>
            .ok (.build [("ok", .bool true), ("provider_id", idJson providerId)],
              db.audit "provider.create" (.build [("provider_id", idJson providerId), ("name", .str name),
                ("kind", .str kind.text), ("base_url", .str url), ("purpose", .str purpose.text),
                ("allow_private_network", .bool spec.allowPrivateNetwork),
                ("api_key_set", .bool (nonEmpty spec.apiKey).isSome)]))

structure ProviderEdit where
  baseUrl : Option String
  enabled : Option Bool
  allowPrivateNetwork : Option Bool
  oauthAuthUrl : Option String
  oauthTokenUrl : Option String
  oauthClientId : Option String
  oauthClientSecret : Option String
  embeddingModel : Option String
  responseFormatJsonObject : Option Bool

/-- Why a URL that is given is rejected. -/
def rejectedUrl (env : Env) (url : Option String) (allow : Bool) : Option String :=
  (nonEmpty url).bind fun url => checkOutboundUrl env.pg (some url) allow

/-- The last two steps of `fn_set_provider`: the client secret and the audit row. -/
def storeClientSecret (env : WebEnv) (site : Site) (providerId : Nat) (secret : Option String) (url : String)
    (enabled : Option Bool) (allow : Bool) : Except String (Json × Site) :=
  let audited (db : Db) : Json × Site := (.build [("ok", .bool true)],
    site.withDb (db.audit "provider.update" (.build [("provider_id", idJson providerId), ("base_url", .str url),
      ("enabled", .ofOption .bool enabled), ("allow_private_network", .bool allow),
      ("oauth_client_secret_set", .bool (nonEmpty secret).isSome)])))
  match nonEmpty secret with
  | none => .ok (audited site.db)
  | some secret => match env.encryptSecret (some secret) with
    | .error message => .error message
    | .ok stored => .ok (audited { site.db with
        secrets := upsertLlmSecret site.db.secrets providerId fun row => { row with oauthClientSecret := stored } })

def fnSetProvider (env : WebEnv) (site : Site) (providerId : Option Nat) (edit : ProviderEdit) :
    Except String (Json × Site) :=
  withRow providerId "provider not found" fun providerId => match site.db.providers.get? providerId with
  | none => .error "provider not found"
  | some provider =>
    let allow := edit.allowPrivateNetwork.getD provider.allowPrivateNetwork
    let url := trimSlashes ((nonEmpty edit.baseUrl).getD provider.baseUrl)
    match checkOutboundUrl env.pg (some url) allow, rejectedUrl env.toEnv edit.oauthAuthUrl allow,
        rejectedUrl env.toEnv edit.oauthTokenUrl allow with
    | some reason, _, _ => .error ("provider endpoint rejected: " ++ reason ++ " (" ++ url ++ ")")
    | none, some reason, _ => .error ("oauth auth url rejected: " ++ reason)
    | none, none, some reason => .error ("oauth token url rejected: " ++ reason)
    | none, none, none =>
      let columns := site.oauthColumns providerId
      let site := { site with
        db := { site.db with
          providers := site.db.providers.modify providerId fun row =>
            { row with
              baseUrl := url
              isEnabled := edit.enabled.getD row.isEnabled
              allowPrivateNetwork := allow
              oauthTokenUrl := edit.oauthTokenUrl.or row.oauthTokenUrl
              oauthClientId := edit.oauthClientId.or row.oauthClientId
              embeddingModel := (nonEmpty (edit.embeddingModel.map btrim)).or row.embeddingModel
              responseFormatJsonObject := edit.responseFormatJsonObject.getD row.responseFormatJsonObject } }
        oauthColumns := Function.update site.oauthColumns providerId
          { columns with authUrl := edit.oauthAuthUrl.or columns.authUrl } }
      storeClientSecret env site providerId edit.oauthClientSecret url edit.enabled allow

/-! ### Prices -/

def fnSetModelPrice (db : Db) (providerId : Option Nat) (model : Option String) (input output : Option ℚ) :
    Except String (Json × Db) :=
  match nonEmpty (model.map btrim), providerId.filter fun id => (db.providers.get? id).isSome with
  | none, _ => .error "model is required"
  | _, none => .error "provider not found"
  | some model, some providerId =>
    if input.getD (-1) < 0 ∨ output.getD (-1) < 0 then .error "prices must be zero or a positive number"
    else
      let row : PriceRow := ⟨providerId, model, input.getD 0, output.getD 0⟩
      let here (price : PriceRow) : Bool := price.providerId == providerId && price.model == model
      let db := { db with
        prices := if db.prices.any here then db.prices.map fun price => if here price then row else price
          else db.prices ++ [row] }
      .ok (.build [("ok", .bool true)], db.audit "model_prices.set" (.build [("provider_id", idJson providerId),
        ("model", .str model)]))

def fnDeleteModelPrice (db : Db) (providerId : Option Nat) (model : Option String) : Except String (Json × Db) :=
  let here (price : PriceRow) : Bool := some price.providerId == providerId && some price.model == model
  if db.prices.any here then
    .ok (.build [("ok", .bool true)], { db with prices := db.prices.filter fun price => !here price }.audit
      "model_prices.delete" (.build [("provider_id", optId providerId), ("model", .optStr model)]))
  else .error "price not found"

/-! ### Functions -/

/-- The one argument of a template that may have no other. -/
def onlyArgument (template : Json) (key : String) : Option String :=
  if template.isObj && template.keys.all fun other => other == key then nonEmpty ((template.getText? key).map btrim)
  else none

def insertFunction (db : Db) (env : Env) (name description : String) (handler : Handler) (template : Json)
    (mcpConnectionId : Option Nat) : Except String (Json × Db) :=
  if db.functions.exists? fun _ function => function.name == name then
    .error "duplicate key value violates unique constraint \"functions_name_key\""
  else
    let functionId := db.functions.next
    let db := { db with
      functions := db.functions.insert ⟨name, description, handler, template, none, .emptyObj, .built, none, none,
        true, none, mcpConnectionId, env.now⟩ }
    .ok (.build [("ok", .bool true), ("function_id", idJson functionId)],
      db.audit "functions.create" (.build [("function_id", idJson functionId), ("name", .str name),
        ("handler", .str handler.text)]))

/-- `fn_create_function` as the dashboard calls it, for any handler. -/
def fnCreateFunctionFields (env : Env) (db : Db) (name description handler : Option String) (template : Json)
    (body : Option String) (paramSchema : Option Json) (mcpConnectionId : Option Nat) : Except String (Json × Db) :=
  let lowered := env.pg.lower (btrim (name.getD ""))
  let text := btrim (description.getD "")
  match handler with
  | some "http_get" =>
    if !isFunctionName lowered then .error "function name must use lowercase letters, digits, and underscores"
    else if text = "" then .error "function description is required"
    else if !(template.isObj && template.keys.all fun key => key == "url") then
      .error "http_get function arguments must contain only url"
    else
      let url := nonEmpty ((template.getText? "url").map btrim)
      match checkOutboundUrl env.pg url false with
      | some reason => .error ("invalid function URL: " ++ reason)
      | none => insertFunction db env lowered text .httpGet (.build [("url", .optStr url)]) none
  | some "mcp_call" =>
    if !isFunctionName lowered then .error "function name must use lowercase letters, digits, and underscores"
    else if text = "" then .error "function description is required"
    else match mcpConnectionId.filter fun id => (db.connections.get? id).any ConnectionRow.isEnabled with
      | none => .error "mcp_call function needs an existing, enabled connection"
      | some connectionId => match onlyArgument template "tool" with
        | none => .error "mcp_call function arguments must contain only a non-empty tool"
        | some tool => insertFunction db env lowered text .mcpCall (.build [("tool", .str tool)]) (some connectionId)
  | some "plpgsql" => fnCreateFunction env db name description body (paramSchema.getD .emptyObj) none
  | some other => .error ("unknown function handler: " ++ other)
  | none => .error "null value in column \"handler\" of relation \"functions\" violates not-null constraint"

def fnBindProcedureFunction (db : Db) (procedureId functionId : Option Nat) : Except String (Json × Db) :=
  match procedureId.filter fun id => (db.procedures.get? id).isSome,
      functionId.filter fun id => (db.functions.get? id).isSome with
  | none, _ => .error "procedure not found"
  | some _, none => .error "function not found"
  | some procedure, some function =>
    let db := { db with
      bindings := if db.bindings.contains (procedure, function) then db.bindings
        else db.bindings ++ [(procedure, function)] }
    .ok (.build [("ok", .bool true)], db.audit "functions.bind" (.build [("procedure_id", idJson procedure),
      ("function_id", idJson function)]))

/-- No generation below zero is on file. -/
def rollbackProcedure (env : Env) (db : Db) (procedureId : Option Nat) (generation : Option Int) :
    Except String (Json × Db) :=
  match procedureId, generation with
  | some procedureId, some (.ofNat generation) => fnRollbackProcedure env db procedureId generation
  | _, _ => .error ("fn_rollback_procedure: no history for that procedure at generation " ++
      (generation.map fun value => toString value).getD "<NULL>")

/-! ### The login flows of providers -/

/-- The provider of a login by OAuth, with the columns that the flow reads. -/
def oauthProvider (site : Site) (providerId : Option Nat) : Option (Nat × ProviderRow × OauthColumns) :=
  (providerId.bind fun id => (site.db.providers.get? id).map fun row => (id, row, site.oauthColumns id)).filter
    fun found => found.2.1.kind == .oauth

def percentBlanks (text : String) : String :=
  String.ofList (text.toList.flatMap fun c => if c == ' ' then ['%', '2', '0'] else [c])

def fnOauthStart (env : WebEnv) (site : Site) (providerId : Option Nat) (redirect : Option String) :
    Except String (Json × Site) :=
  match oauthProvider site providerId with
  | none => .error "provider is not oauth"
  | some (providerId, provider, columns) =>
    if columns.deviceCode then .error "provider uses device-code oauth"
    else match columns.authUrl, provider.oauthClientId with
      | some authUrl, some clientId =>
        if site.oauthStates.any fun state => state.1 == env.newState then
          .error "duplicate key value violates unique constraint \"oauth_states_pkey\""
        else
          let url := redirect.map fun redirect =>
            authUrl ++ (if authUrl.toList.getLast? = some '?' then "&" else "?") ++ "response_type=code" ++
              "&client_id=" ++ percentBlanks clientId ++ "&state=" ++ env.newState ++
              "&redirect_uri=" ++ percentBlanks redirect ++
              (columns.scope.map fun scope => "&scope=" ++ percentBlanks scope).getD ""
          .ok (.build [("ok", .bool true), ("redirect_url", .optStr url), ("state", .str env.newState)],
            { site with oauthStates := site.oauthStates ++ [(env.newState, providerId)] })
      | _, _ => .error "oauth urls / client id missing"

def dashboardOauthCall (env : Env) (providerId : Nat) (provider : ProviderRow) (url : String)
    (headers body : Json) (operation : OauthOperation) (deviceSessionId : Option Nat) : OauthCallRow where
  providerId := providerId
  agentId := none
  memoryId := none
  status := .queued
  url := url
  requestHeaders := headers
  requestBody := body
  allowPrivate := provider.allowPrivateNetwork
  createdAt := env.now
  updatedAt := env.now
  error := none
  operation := operation
  deviceSessionId := deviceSessionId

/-- The unfinished logins of the provider give way to a new one. -/
def supersedeLogins (env : Env) (db : Db) (providerId : Nat) : Db :=
  let live (device : DeviceSessionRow) : Bool :=
    device.providerId == providerId && (device.status == .starting || device.status == .awaitingUser)
  { db with
    oauthCalls := db.oauthCalls.update
      (fun _ call => (call.deviceSessionId.bind db.oauthDeviceSessions.get?).any live && call.status.outstanding)
      (fun _ call => { call with
        status := .harvested, error := some "superseded by a newer login", updatedAt := env.now })
    oauthDeviceSessions := db.oauthDeviceSessions.update (fun _ device => live device) fun _ device =>
      { device with status := .expired, error := some "superseded by a newer login", updatedAt := env.now } }

def fnOauthDeviceStart (env : WebEnv) (site : Site) (providerId : Option Nat) : Except String (Json × Site) :=
  match (oauthProvider site providerId).filter fun found => found.2.2.deviceCode with
  | none => .error "provider is not device-code oauth"
  | some (providerId, provider, columns) =>
    match columns.deviceUrl, provider.oauthTokenUrl, provider.oauthClientId with
    | some deviceUrl, some _, some clientId =>
      match checkOutboundUrl env.pg (some deviceUrl) provider.allowPrivateNetwork with
      | some reason => .error ("oauth device url rejected: " ++ reason)
      | none =>
        let db := supersedeLogins env.toEnv site.db providerId
        let sessionId := db.oauthDeviceSessions.next
        let callId := db.oauthCalls.next
        let body := Json.stripNulls (.build [("client_id", .str clientId), ("scope", .optStr columns.scope)])
        let db := { db with
          oauthDeviceSessions := db.oauthDeviceSessions.insert
            ⟨providerId, none, .starting, 5, none, none, none, env.now⟩
          oauthCalls := db.oauthCalls.insert (dashboardOauthCall env.toEnv providerId provider deviceUrl
            (.build [("accept", .str "application/json")]) body .deviceAuthorization (some sessionId)) }
        .ok (.build [("ok", .bool true), ("session_id", idJson sessionId), ("call_id", idJson callId),
            ("status", .str "starting")],
          site.withDb (db.audit "providers.oauth_device_start" (.build [("provider_id", idJson providerId),
            ("session_id", idJson sessionId)])))
    | _, _, _ => .error "device url / token url / client id missing"

/-- A state is used up by the first exchange that is queued for it. -/
def fnOauthTokenRequest (env : WebEnv) (site : Site) (state code redirect : Option String) :
    Except String (Json × Site) :=
  match site.oauthStates.find? fun held => some held.1 == state with
  | none => .error "unknown oauth state"
  | some (_, providerId) => match site.db.providers.get? providerId with
    | none => .error "oauth token url / client id missing"
    | some provider => match provider.oauthTokenUrl, provider.oauthClientId with
      | some tokenUrl, some clientId =>
        match checkOutboundUrl env.pg (some tokenUrl) provider.allowPrivateNetwork with
        | some reason => .error ("oauth token url rejected: " ++ reason)
        | none =>
          let callId := site.db.oauthCalls.next
          let headers := Json.build [("content-type", .str "application/x-www-form-urlencoded"),
            ("accept", .str "application/json")]
          let body := Json.build [("grant_type", .str "authorization_code"), ("code", .optStr code),
            ("redirect_uri", .optStr redirect), ("client_id", .str clientId)]
          let db := { site.db with
            oauthCalls := site.db.oauthCalls.insert
              (dashboardOauthCall env.toEnv providerId provider tokenUrl headers body .tokenExchange none) }
          .ok (.build [("ok", .bool true), ("queued", .bool true), ("call_id", idJson callId),
              ("provider_id", idJson providerId)],
            { site with
              db := db.audit "oauth.token_request" (.build [("provider_id", idJson providerId),
                ("call_id", idJson callId)])
              oauthStates := site.oauthStates.filter fun held => some held.1 != state })
      | _, _ => .error "oauth token url / client id missing"

/-- The dashboard's test of a provider; an older one that is still under way is given up. -/
def fnProviderProbeStart (env : WebEnv) (db : Db) (providerId : Option Nat) : Except String (Json × Db) :=
  withRow providerId "provider not found" fun providerId => match db.providers.get? providerId with
  | none => .error "provider not found"
  | some provider =>
    let anthropic := provider.kind == .anthropic
    let url := trimSlashes provider.baseUrl ++ (if anthropic then "/v1/models" else "/models")
    match checkOutboundUrl env.pg (some url) provider.allowPrivateNetwork with
    | some reason => .error ("provider endpoint rejected: " ++ reason)
    | none =>
      let kept := db.providerProbes.update
        (fun _ call => call.providerId == providerId && call.status.outstanding)
        (fun _ call => { call with
          status := .lost, error := some "superseded by a newer probe", updatedAt := env.now })
      let db := { db with
        providerProbes := kept.insert {
          providerId := providerId
          agentId := none
          memoryId := none
          status := .queued
          url := url
          requestHeaders := if anthropic then .build [("anthropic-version", .str "2023-06-01")] else .emptyObj
          requestBody := .emptyObj
          allowPrivate := provider.allowPrivateNetwork
          createdAt := env.now
          updatedAt := env.now
          error := none } }
      .ok (.build [("ok", .bool true), ("call_id", idJson kept.next)],
        db.audit "providers.probe_start" (.build [("provider_id", idJson providerId), ("call_id", idJson kept.next)]))

end Allgres
