import Allgres.Complete
import Allgres.Dashboard.Endpoints

/-! `fn_complete_oauth`. -/

namespace Allgres

open Relational Jsonb Sql

/-- `text ~ '^[0-9]{1,9}$'`, cast to an integer. -/
def smallCount (text : Option String) : Option Nat :=
  (text.filter fun text => text.length != 0 && decide (text.length ≤ 9) && text.toList.all Char.isDigit).map
    fun text => text.toList.foldl (fun count c => 10 * count + (c.toNat - 48)) 0

def usable (status : Option Int) : Bool := status.any fun code => decide (200 ≤ code) && decide (code ≤ 299)

def refused (status : Option Int) : Bool := status.any fun code => decide (400 ≤ code)

def Db.writeDevice (db : Db) (session : Option Nat) (cond : DeviceSessionRow → Bool)
    (set : DeviceSessionRow → DeviceSessionRow) : Db :=
  { db with
    oauthDeviceSessions := db.oauthDeviceSessions.update (fun id device => session == some id && cond device)
      fun _ device => set device }

/-- The call is over; without a new error it keeps the one it has. -/
def Db.harvestOauth (db : Db) (env : Env) (callId : Nat) (error : Option String) : Db :=
  { db with
    oauthCalls := db.oauthCalls.modify callId fun row =>
      { row with status := .harvested, error := error.or row.error, updatedAt := env.now } }

section

variable (env : WebEnv) (db : Db) (callId : Nat) (call : OauthCallRow) (status : Option Int) (body : Option String)

/-- `p_body::jsonb ->> key`. -/
def answerText (key : String) : Option String := (body.bind parse).bind fun parsed => parsed.getText? key

/-- The text of a failed answer. -/
def failureText : String :=
  left ((((answerText body "error_description").or (answerText body "error")).or body).getD "") 500

/-- `LEAST(GREATEST(interval, 1), 60)`. -/
def pollInterval : Nat := min (max ((smallCount (answerText body "interval")).getD 5) 1) 60

/-- The instructions for the operator. -/
def authorizeDevice : Except String Db :=
  if (nonEmpty (answerText body "user_code")).isNone || (nonEmpty (answerText body "verification_uri")).isNone then
    .ok (db.writeDevice call.deviceSessionId (fun _ => true) fun device =>
      { device with
        status := .error, error := some "invalid device authorization response", updatedAt := env.now })
  else match nonEmpty (answerText body "device_code") with
    | none => .ok (db.writeDevice call.deviceSessionId (fun _ => true) fun device =>
        { device with
          status := .error, error := some "invalid device authorization response", updatedAt := env.now })
    | some code => match env.encryptSecret (some code) with
      | .error message => .error message
      | .ok stored => .ok (db.writeDevice call.deviceSessionId (fun _ => true) fun device =>
          { device with
            deviceCode := stored
            intervalSeconds := pollInterval body
            expiresAt := some (env.now + seconds ((smallCount (answerText body "expires_in")).getD 900))
            nextPollAt := some (env.now + seconds (pollInterval body))
            status := .awaitingUser
            error := none
            updatedAt := env.now })

/-- The operator has not decided yet. -/
def pollPending : Bool :=
  (answerText body "error").any ["authorization_pending", "slow_down"].contains

def slowed (device : DeviceSessionRow) : Nat :=
  if answerText body "error" = some "slow_down" then min (device.intervalSeconds + 5) 60 else device.intervalSeconds

def postponePoll : Db :=
  db.writeDevice call.deviceSessionId (fun device => device.status == .awaitingUser) fun device =>
    { device with
      intervalSeconds := slowed body device
      nextPollAt := some (env.now + seconds (slowed body device))
      updatedAt := env.now }

def pollVerdict : DeviceStatus :=
  if answerText body "error" = some "access_denied" then .denied
  else if answerText body "error" = some "expired_token" then .expired
  else .error

/-- The end of a login that was turned down. -/
def endDevice (ending : DeviceStatus) : Db :=
  db.writeDevice call.deviceSessionId (fun _ => true) fun device =>
    { device with status := ending, error := some (failureText body), updatedAt := env.now }

def storeTokens (access refresh : Option String) : Db :=
  { db with
    secrets := upsertLlmSecret db.secrets call.providerId fun row =>
      { row with
        accessToken := access
        refreshToken := refresh.or row.refreshToken
        expiresAt := (smallCount (answerText body "expires_in")).map fun count => env.now + seconds count } }

def connectDevice : Db :=
  if call.operation == .devicePoll then
    db.writeDevice call.deviceSessionId (fun _ => true) fun device =>
      { device with status := .connected, error := none, updatedAt := env.now }
  else db

/-- The answer of the token endpoint. -/
def exchangeTokens : Except String (Json × Db) :=
  match nonEmpty (answerText body "access_token") with
  | none => .ok (.build [("action", .str "error"), ("reason", .str "no_access_token")],
      db.harvestOauth env.toEnv callId (some "token endpoint response had no access_token"))
  | some access => match env.encryptSecret (some access), env.encryptSecret (nonEmpty (answerText body "refresh_token")) with
    | .error message, _ | .ok _, .error message => .error message
    | .ok access, .ok refresh =>
      let db := storeTokens env db call body access refresh
      .ok (.build [("action", .str "stored"), ("provider_id", idJson call.providerId)],
        connectDevice env (db.harvestOauth env.toEnv callId none) call)

/-- An answer that is not usable ends the login it belongs to. -/
def failOauth : Db :=
  let db := if call.operation == .devicePoll && refused status then endDevice env db call body (pollVerdict body) else db
  let db := if call.operation == .deviceAuthorization then endDevice env db call body .error else db
  db.harvestOauth env.toEnv callId (some (left (body.getD "") 2000))

def fnCompleteOauth : Except String (Json × Db) :=
  match db.oauthCalls.get? callId with
  | none => .error "fn_complete_oauth: not found"
  | some call =>
    if call.status != .inFlight then
      .ok (.build [("action", .str "stale"), ("reason", .str "call_not_in_flight"),
        ("status", .str call.status.text)], db)
    else if usable status then
      if call.operation == .deviceAuthorization then
        match authorizeDevice env db call body with
        | .error message => .error message
        | .ok db => .ok (.build [("action", .str "device_authorization_ready"),
            ("session_id", .ofOption idJson call.deviceSessionId)], db.harvestOauth env.toEnv callId none)
      else exchangeTokens env db callId call body
    else if call.operation == .devicePoll && refused status && pollPending body then
      .ok (.build [("action", .str "pending"), ("reason", .optStr (answerText body "error"))],
        (postponePoll env db call body).harvestOauth env.toEnv callId none)
    else
      .ok (.build [("action", .str "error"), ("status", .ofOption (fun code => .num code 0) status)],
        failOauth env db callId call status body)

end

end Allgres
