import Allgres.Lib.Table
import Allgres.Lib.Jsonb
import Allgres.Web.Http
import Allgres.Web.Limits

/-! The web worker: the handler of a connection, and the loop that accepts connections. -/

namespace Allgres

open Relational Jsonb RustStr Utf8

structure WebConfig where
  token : String
  mockEnabled : Bool

/-! ### Checks -/

def constantTimeEq (a b : List UInt8) : Bool :=
  if a.length ≠ b.length then false
  else (List.zipWith (· ^^^ ·) a b).foldl (· ||| ·) 0 == 0

def bearer (r : HttpRequest) (cfg : WebConfig) : Bool :=
  ((r.header "authorization").bind fun value => stripPrefix? "Bearer ".toList value.toList).any fun token =>
    constantTimeEq (encode (String.ofList token)) (encode cfg.token)

def authorized (r : HttpRequest) (cfg : WebConfig) (tickets : Tickets) (now : Instant) : Bool × Tickets :=
  if cfg.token.isEmpty then (true, tickets)
  else if bearer r cfg then (true, tickets)
  else if r.route = "/api/v1/events" then
    match queryParam r.query "ticket" with
    | some ticket => consumeSseTicket tickets now ticket
    | none => (false, tickets)
  else (false, tickets)

/-- `origin.split("://").nth(1)`. -/
def originHost (origin : String) : List Char :=
  match afterFirst "://".toList origin.toList with
  | none => []
  | some rest => beforeFirst "://".toList rest

def csrfOk (r : HttpRequest) : Bool :=
  let foreign := (r.header "origin").any fun origin =>
    (originHost origin).isEmpty || !eqIgnoreAsciiCase (originHost origin) ((r.header "host").getD "").toList
  if foreign then false
  else if r.route = "/api/v1/events" then true
  else (r.header "x-allgres-client").isSome

/-! ### Routes -/

/-- What `serde_json` reads from a text. -/
abbrev FromStr := String → Option Json

def bodyJson (fromStr : FromStr) (r : HttpRequest) : Json := (fromStr r.body).getD .emptyObj

/-- `value[key] = …`: a null becomes an object, and anything but an object panics. -/
def setIndex (key : String) (item : Json) : Json → Option Json
  | .obj fields => some (.obj (Json.setField key item fields))
  | .null => some (.build [(key, item)])
  | _ => none

/-- What a route comes to: an answer of its own, a request to the runtime worker, or a panic. -/
inductive Routed
  | answers (answer : Json)
  | asks (request : Json)
  | unknown
  | panics

def Routed.ofEdit : Option Json → Routed
  | some request => asks request
  | none => panics

def agentsPath : String := "/api/v1/agents/"

def patchesAgent (r : HttpRequest) : Bool :=
  r.method == "PATCH" && agentsPath.toList.isPrefixOf r.route.toList

/-- `trim_start_matches("/api/v1/agents/")`, which takes off every repetition; each is 15 long. -/
def trimAgentsPath : Nat → List Char → List Char
  | 0, path => path
  | fuel + 1, path => match stripPrefix? agentsPath.toList path with
    | some rest => trimAgentsPath fuel rest
    | none => path

def optText : Option String → Json
  | some text => .str text
  | none => .null

def apiRoute (fromStr : FromStr) (r : HttpRequest) : Routed :=
  let edited (action : String) := setIndex "action" (.str action) (bodyJson fromStr r)
  match r.method, r.route with
  | "GET", "/api/v1/status" => .asks (.build [("action", .str "overview")])
  | "GET", "/api/v1/agents" => .asks (.build [("action", .str "agents.list")])
  | "POST", "/api/v1/agents" => .ofEdit (edited "agents.create")
  | "POST", "/api/v1/run" => .ofEdit (edited "run")
  | "GET", "/api/v1/tasks" => .asks (.build [("action", .str "tasks.list"), ("limit", .ofNat 200),
      ("session_token", optText (r.header "x-allgres-session"))])
  | "GET", "/api/v1/logs" => .asks (.build [("action", .str "logs.list"), ("limit", .ofNat 250),
      ("session_token", optText (r.header "x-allgres-session"))])
  | "GET", "/api/v1/settings" => .asks (.build [("action", .str "settings.get")])
  | "POST", "/api/v1/selftest" => .asks (.build [("action", .str "selftest")])
  | "POST", "/api/v1/settings/provider" => .ofEdit (edited "provider.update")
  | method, route =>
    if patchesAgent r then
      .ofEdit ((edited "agents.update").bind
        (setIndex "agent_id" (.str (String.ofList (trimAgentsPath route.length route.toList)))))
    else if method = "POST" ∧ route = "/api/v1/rpc" then
      let body := bodyJson fromStr r
      match body.get? "action" with
      | some (.str _) => .asks body
      | _ => .answers (.build [("ok", .bool false), ("error", .str "action_required")])
    else .unknown

/-! ### Answers -/

inductive Body
  | json (value : Json)
  | page (nonce : String)
  | events

structure Response where
  status : String
  body : Body
  extra : String

def respondJson (status : String) (value : Json) : Response := ⟨status, .json value, ""⟩

def refusal (status error extra : String) : Response :=
  ⟨status, .json (.build [("ok", .bool false), ("error", .str error)]), extra⟩

def notFound : Response := refusal "404 Not Found" "not_found" ""

def mockChat : Json :=
  .build [("id", .str "allgres-mock"), ("object", .str "chat.completion"), ("choices", .arr [.build [
    ("index", .ofNat 0), ("message", .build [("role", .str "assistant"), ("content",
      .str "\x7b\"action\":\"final_answer\",\"answer\":\"Allgres mock runtime OK\"\x7d")]),
    ("finish_reason", .str "stop")]])]

def mockOauthToken (r : HttpRequest) : Response :=
  let form := parseFormBody r.body
  let code := (form.lookup "code").getD ""
  let secret := (form.lookup "client_secret").getD ""
  if code.isEmpty || secret != "allgres-mock-oauth-secret" then
    respondJson "401 Unauthorized" (.build [("error", .str "invalid_client")])
  else respondJson "200 OK" (.build [("access_token", .str ("allgres-mock-access-" ++ code)),
    ("refresh_token", .str "allgres-mock-refresh"), ("expires_in", .ofNat 3600), ("token_type", .str "bearer")])

def mockKeywords : List String := ["alpha", "beta", "gamma", "delta", "epsilon", "zeta", "eta", "theta"]

def mockEmbeddings (fromStr : FromStr) (r : HttpRequest) : Json :=
  let input := match (fromStr r.body).bind fun value => value.get? "input" with
    | some (.str text) => toAsciiLowercase text.toList
    | _ => []
  let near (keyword : String) : Bool := (afterFirst keyword.toList input).isSome
  .build [("data", .arr [.build [("embedding", .arr (mockKeywords.map fun keyword =>
      if near keyword then .num 10 1 else .num 5 2)), ("index", .ofNat 0)]]),
    ("model", .str "allgres-mock-embed"), ("object", .str "list")]

/-! ### The handler of a connection -/

/-- The statics the handlers share. -/
structure Statics (Ip : Type) where
  windows : RateWindows Ip
  tickets : Tickets

/-- What a handler gets from outside. -/
structure Outside where
  now : Instant
  reads : List Read
  nonce : String
  /-- The answer of the runtime worker. -/
  rpc : Json → Json

/-- How far `handle_web_connection` has come. From one stage to the next it enters
at most one critical section. -/
inductive Stage
  | accepted
  | admitted
  | guarded (r : HttpRequest)
  | compared (r : HttpRequest)
  | refused
  | routed (r : HttpRequest)

inductive Progress
  | next (stage : Stage)
  | returns (response : Option Response)
  | panics

/-- The routes that come before the checks. -/
def triage (cfg : WebConfig) (fromStr : FromStr) (outside : Outside) (r : HttpRequest) : Progress :=
  let mock (response : Response) : Progress := .returns (some (if cfg.mockEnabled then response else notFound))
  if r.method = "OPTIONS" then
    .returns (some (refusal "405 Method Not Allowed" "method_not_allowed" "Allow: GET, POST, PATCH\r\n"))
  else if r.route = "/healthz" then .returns (some (respondJson "200 OK" (.build [("ok", .bool true)])))
  else if r.route = "/mock/chat/completions" ∨ r.route = "/mock/slow/chat/completions" then
    mock (respondJson "200 OK" mockChat)
  else if r.route = "/mock/oauth/token" then mock (mockOauthToken r)
  else if r.route = "/mock/embeddings" then mock (respondJson "200 OK" (mockEmbeddings fromStr r))
  else if r.route = "/" then .returns (some ⟨"200 OK", .page outside.nonce, ""⟩)
  else if !"/api/v1/".toList.isPrefixOf r.route.toList then .returns (some notFound)
  else if !csrfOk r then .returns (some (refusal "403 Forbidden" "cross_origin_request_rejected" ""))
  else .next (.guarded r)

def apiResponse (answer : Json) : Response :=
  respondJson (if answer.get? "ok" matches some (.bool false) then "400 Bad Request" else "200 OK") answer

section Handler

variable {Ip : Type} [DecidableEq Ip]

def serve (fromStr : FromStr) (outside : Outside) (shared : Statics Ip) (r : HttpRequest) : Statics Ip × Progress :=
  if r.route = "/api/v1/events/ticket" then
    if r.method ≠ "POST" then
      (shared, .returns (some (refusal "405 Method Not Allowed" "method_not_allowed" "Allow: POST\r\n")))
    else
      ({ shared with tickets := mintSseTicket shared.tickets outside.now outside.nonce },
        .returns (some (respondJson "200 OK" (.build [("ok", .bool true), ("ticket", .str outside.nonce),
          ("expires_in", .ofNat 30)]))))
  else if r.route = "/api/v1/events" then (shared, .returns (some ⟨"200 OK", .events, ""⟩))
  else match apiRoute fromStr r with
    | .answers answer => (shared, .returns (some (apiResponse answer)))
    | .asks request => (shared, .returns (some (apiResponse (outside.rpc request))))
    | .unknown => (shared, .returns (some notFound))
    | .panics => (shared, .panics)

/-- `handle_web_connection`, from one stage to the next. -/
def handleStep (cfg : WebConfig) (fromStr : FromStr) (peer : Option Ip) (outside : Outside) (shared : Statics Ip) :
    Stage → Statics Ip × Progress
  | .accepted => match peer with
    | none => (shared, .next .admitted)
    | some ip =>
      let (limited, windows) := rateLimited shared.windows outside.now ip
      ({ shared with windows := windows },
        if limited then .returns (some (refusal "429 Too Many Requests" "rate_limited" "Retry-After: 60\r\n"))
        else .next .admitted)
  | .admitted => match readHttpRequest outside.reads with
    | none => (shared, .returns none)
    | some r => (shared, triage cfg fromStr outside r)
  | .guarded r => match peer with
    | none => (shared, .next (.compared r))
    | some ip =>
      let (locked, windows) := authFailuresExceeded shared.windows outside.now ip
      ({ shared with windows := windows },
        if locked then .returns (some (refusal "429 Too Many Requests" "rate_limited" "Retry-After: 300\r\n"))
        else .next (.compared r))
  | .compared r =>
    let (passes, tickets) := authorized r cfg shared.tickets outside.now
    ({ shared with tickets := tickets }, .next (if passes then .routed r else .refused))
  | .refused =>
    let windows := match peer with
      | none => shared.windows
      | some ip => recordAuthFailure shared.windows outside.now ip
    ({ shared with windows := windows },
      .returns (some (refusal "401 Unauthorized" "unauthorized" "WWW-Authenticate: Bearer\r\n")))
  | .routed r => serve fromStr outside shared r

end Handler

/-! ### The accept loop -/

def maxWebThreads : Nat := 64

/-- `fetch_add(1)` and `fetch_sub(1)` on an `AtomicUsize`. -/
def fetchAdd (count : Nat) : Nat := (count + 1) % 2 ^ 64
def fetchSub (count : Nat) : Nat := (count + (2 ^ 64 - 1)) % 2 ^ 64

/-- The web worker: the counter `WEB_THREADS`, and the handlers that have been
started and have not ended, each with its peer's address. -/
structure WebWorker (Ip : Type) where
  webThreads : Nat
  shared : Statics Ip
  handlers : Table (Option Ip × Stage)

/-- A connection is accepted, and its thread is spawned or not; or a handler goes on. -/
inductive WebEvent (Ip : Type)
  | accept (peer : Option Ip) (spawned : Bool)
  | handler (id : Nat) (outside : Outside)

section Worker

variable {Ip : Type} [DecidableEq Ip]

def WebWorker.start : WebWorker Ip := ⟨0, ⟨⟨fun _ => none, fun _ => none⟩, fun _ => none⟩, .empty⟩

/-- A handler that panics ends without `fetch_sub`. -/
def WebWorker.step (cfg : WebConfig) (fromStr : FromStr) (worker : WebWorker Ip) : WebEvent Ip → WebWorker Ip
  | .accept peer spawned =>
    if maxWebThreads ≤ worker.webThreads then worker
    else
      let worker := { worker with webThreads := fetchAdd worker.webThreads }
      if spawned then { worker with handlers := worker.handlers.insert (peer, .accepted) }
      else { worker with webThreads := fetchSub worker.webThreads }
  | .handler id outside => match worker.handlers.get? id with
    | none => worker
    | some (peer, stage) =>
      let (shared, progress) := handleStep cfg fromStr peer outside worker.shared stage
      let ended := worker.handlers.delete fun key _ => key == id
      match progress with
      | .next stage => { worker with shared := shared, handlers := worker.handlers.modify id fun _ => (peer, stage) }
      | .returns _ => { webThreads := fetchSub worker.webThreads, shared := shared, handlers := ended }
      | .panics => { worker with shared := shared, handlers := ended }

def WebWorker.run (cfg : WebConfig) (fromStr : FromStr) (worker : WebWorker Ip) (events : List (WebEvent Ip)) :
    WebWorker Ip :=
  events.foldl (WebWorker.step cfg fromStr) worker

end Worker

end Allgres
