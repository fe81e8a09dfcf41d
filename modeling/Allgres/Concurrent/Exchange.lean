import Allgres.Dashboard.Endpoints
import Allgres.Lib.Versions
import Allgres.Lib.Runs

/-! `fn_oauth_token_request` statement by statement, next to other calls of it. -/

namespace Allgres

open Relational Jsonb Sql

/-- A row of `oauth_states`, and the open transaction that has deleted it. -/
structure StateRow where
  state : String
  providerId : Nat
  deletedBy : Option Nat

/-- What a call has read: `v_pid` and the row `v` with the two columns it demands. -/
structure Exchange where
  providerId : Nat
  provider : ProviderRow
  tokenUrl : String
  clientId : String

/-- The statement of `fn_oauth_token_request` that comes next. -/
inductive ExchangePoint
  | findState
  | findProvider (providerId : Nat)
  | deleteState (exchange : Exchange)
  | insertCall (exchange : Exchange)
  | commit

/-- The call has found its state. -/
def ExchangePoint.found : ExchangePoint → Bool
  | findState => false
  | _ => true

/-- The call has deleted the row of its state. -/
def ExchangePoint.deleted : ExchangePoint → Bool
  | insertCall _ | commit => true
  | _ => false

structure TokenRequest where
  env : WebEnv
  state : Option String
  code : Option String
  redirect : Option String
  point : ExchangePoint

/-- The tables that the calls work on, and the calls that have not ended. `stateOf` is the column
`state` of `oauth_calls`. -/
structure Logins where
  providers : Table ProviderRow
  states : List StateRow
  calls : Table (Cell Nat OauthCallRow)
  stateOf : Nat → Option String
  request : Nat → Option TokenRequest

namespace Logins

/-- The tables while no call is open. -/
def ofSite (site : Site) (stateOf : Nat → Option String) : Logins where
  providers := site.db.providers
  states := site.oauthStates.map fun held => ⟨held.1, held.2, none⟩
  calls := site.db.oauthCalls.map .stored
  stateOf := stateOf
  request _ := none

def setRequest (σ : Logins) (x : Nat) (request : Option TokenRequest) : Logins :=
  { σ with request := Function.update σ.request x request }

def goto (σ : Logins) (x : Nat) (request : TokenRequest) (point : ExchangePoint) : Logins :=
  σ.setRequest x (some { request with point := point })

def commit (σ : Logins) (x : Nat) : Logins :=
  { σ with
    states := σ.states.filter fun row => row.deletedBy != some x
    calls := σ.calls.map (Cell.commit x) }

def rollback (σ : Logins) (x : Nat) : Logins :=
  { σ with
    states := σ.states.map fun row => { row with deletedBy := row.deletedBy.filter (· != x) }
    calls := σ.calls.map (Cell.rollback x) }

/-- An exception ends the call and takes back what it has written. -/
def raise (σ : Logins) (x : Nat) : Logins := (σ.rollback x).setRequest x none

/-- Rows that another transaction has deleted are seen until it commits. -/
def seesState (x : Nat) (state : Option String) (row : StateRow) : Bool :=
  some row.state == state && row.deletedBy != some x

def deleteState (σ : Logins) (x : Nat) (state : Option String) : Logins :=
  { σ with
    states := σ.states.map fun row => if some row.state == state then { row with deletedBy := some x } else row }

/-- `RETURNING call_id` gives the key `σ.calls.next`. -/
def insertCall (σ : Logins) (x : Nat) (state : Option String) (row : OauthCallRow) : Logins :=
  { σ with
    calls := σ.calls.insert (.inserted x row)
    stateOf := Function.update σ.stateOf σ.calls.next state }

def exchangeCall (request : TokenRequest) (exchange : Exchange) : OauthCallRow :=
  dashboardOauthCall request.env.toEnv exchange.providerId exchange.provider exchange.tokenUrl
    (.build [("content-type", .str "application/x-www-form-urlencoded"), ("accept", .str "application/json")])
    (.build [("grant_type", .str "authorization_code"), ("code", .optStr request.code),
      ("redirect_uri", .optStr request.redirect), ("client_id", .str exchange.clientId)])
    .tokenExchange none

/-- The next statement of a call. The `DELETE` waits while another transaction holds the row's
lock; a row that is gone by then is passed over. -/
def continueRequest (σ : Logins) (x : Nat) (request : TokenRequest) : Option Logins :=
  match request.point with
  | .findState =>
    match σ.states.find? (seesState x request.state) with
    | none => some (σ.raise x)
    | some row => some (σ.goto x request (.findProvider row.providerId))
  | .findProvider providerId =>
    match σ.providers.get? providerId with
    | none => some (σ.raise x)
    | some provider => match provider.oauthTokenUrl, provider.oauthClientId with
      | some tokenUrl, some clientId =>
        match checkOutboundUrl request.env.pg (some tokenUrl) provider.allowPrivateNetwork with
        | some _ => some (σ.raise x)
        | none => some (σ.goto x request (.deleteState ⟨providerId, provider, tokenUrl, clientId⟩))
      | _, _ => some (σ.raise x)
  | .deleteState exchange =>
    if σ.states.all fun row => some row.state != request.state || row.deletedBy.all (· == x) then
      some ((σ.deleteState x request.state).goto x request (.insertCall exchange))
    else none
  | .insertCall exchange =>
    some ((σ.insertCall x request.state (exchangeCall request exchange)).goto x request .commit)
  | .commit => some ((σ.commit x).setRequest x none)

inductive Label
  | call (x : Nat) (request : TokenRequest)
  | statement (x : Nat)
  | abort (x : Nat)
  | start (state : String) (providerId : Nat)
  | configure

/-- `start` is `fn_oauth_start`, whose state is a new uuid; `configure` stands for whatever changes
the providers. -/
inductive Step : Label → Logins → Logins → Prop
  | call {σ : Logins} {x : Nat} {request : TokenRequest} : σ.request x = none → request.point = .findState →
      Step (.call x request) σ (σ.setRequest x (some request))
  | statement {σ σ' : Logins} {x : Nat} {request : TokenRequest} : σ.request x = some request →
      σ.continueRequest x request = some σ' → Step (.statement x) σ σ'
  | abort {σ : Logins} {x : Nat} : Step (.abort x) σ (σ.raise x)
  | start {σ : Logins} {state : String} (providerId : Nat) : (∀ row ∈ σ.states, row.state ≠ state) →
      (∀ k, σ.stateOf k ≠ some state) →
      Step (.start state providerId) σ { σ with states := σ.states ++ [⟨state, providerId, none⟩] }
  | configure {σ : Logins} (providers : Table ProviderRow) :
      Step .configure σ { σ with providers := providers }

/-- `k` is an exchange of an authorization code for the state, committed or not. -/
def Exchanged (σ : Logins) (s : String) (k : Nat) : Prop :=
  σ.stateOf k = some s ∧ ∃ cell row, σ.calls.get? k = some cell ∧ row.operation = .tokenExchange ∧
    (cell.committed = some row ∨ ∃ x, cell.draft = some (x, row))

def SingleUse (σ : Logins) : Prop := ∀ s k k', σ.Exchanged s k → σ.Exchanged s k' → k = k'

/-- A call that looks for its state finds no other open call that has found the same one. -/
def Apart : Label → Logins → Prop
  | .statement x, σ => ∀ request y other, σ.request x = some request → request.point = .findState →
      σ.request y = some other → other.point.found = true → other.state = request.state → y = x
  | _, _ => True

end Logins

end Allgres
