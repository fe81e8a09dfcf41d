import Mathlib.Logic.Basic

namespace Allgres

inductive TaskStatus
  | queued | running | completed | failed | waitingHuman | cancelled | waitingChildren
  deriving DecidableEq

namespace TaskStatus

/-- `status IN ('completed', 'failed', 'cancelled')`. -/
def terminal : TaskStatus → Bool
  | completed | failed | cancelled => true
  | _ => false

/-- The text a task status has in the database, as error messages show it. -/
def text : TaskStatus → String
  | queued => "queued"
  | running => "running"
  | completed => "completed"
  | failed => "failed"
  | waitingHuman => "waiting_human"
  | cancelled => "cancelled"
  | waitingChildren => "waiting_children"

end TaskStatus

/-- One `UPDATE` of `tasks.status` that changed the column. -/
structure StatusWrite where
  task : Nat
  old : TaskStatus
  new : TaskStatus

inductive SessionStatus
  | opened | completed | failed | cancelled
  deriving DecidableEq

/-- The text a session status has in the database. -/
def SessionStatus.text : SessionStatus → String
  | opened => "open"
  | completed => "completed"
  | failed => "failed"
  | cancelled => "cancelled"

inductive CallStatus
  | queued | inFlight | harvested | lost
  deriving DecidableEq

/-- `status IN ('queued', 'in_flight')`. -/
def CallStatus.outstanding : CallStatus → Bool
  | queued | inFlight => true
  | _ => false

inductive ApprovalStatus
  | pending | approved | rejected
  deriving DecidableEq

/-- The four queues whose rows belong to a task. -/
inductive Queue
  | outbound | sql | function | procedure
  deriving DecidableEq

inductive Role
  | system | user | assistant | function | procedure | error | operator
  deriving DecidableEq

def Role.text : Role → String
  | system => "system"
  | user => "user"
  | assistant => "assistant"
  | function => "function"
  | procedure => "procedure"
  | error => "error"
  | operator => "operator"

/-- `outbound_calls.kind`. -/
inductive CallKind
  | llm | function | embedding | recallMemories | mcp
  deriving DecidableEq

inductive Method
  | get | post | put | patch | delete
  deriving DecidableEq

def Method.text : Method → String
  | get => "GET"
  | post => "POST"
  | put => "PUT"
  | patch => "PATCH"
  | delete => "DELETE"

def Method.ofText (text : String) : Option Method :=
  [Method.get, .post, .put, .patch, .delete].find? fun method => method.text == text

inductive AuthKind
  | none | authorization | xApiKey
  deriving DecidableEq

inductive ProviderKind
  | openaiCompat | anthropic | oauth
  deriving DecidableEq

/-- `oauth_calls.operation`. -/
inductive OauthOperation
  | tokenExchange | deviceAuthorization | devicePoll | refresh
  deriving DecidableEq

/-- `oauth_device_sessions.status`. -/
inductive DeviceStatus
  | starting | awaitingUser | connected | denied | expired | error
  deriving DecidableEq

inductive Purpose
  | chat | embedding
  deriving DecidableEq

inductive Autonomy
  | auto | selfApprove | adminApproval
  deriving DecidableEq

def Autonomy.text : Autonomy → String
  | auto => "auto"
  | selfApprove => "self_approve"
  | adminApproval => "admin_approval"

/-- `functions.handler`. -/
inductive Handler
  | httpGet | plpgsql | mcpCall
  deriving DecidableEq

def Handler.text : Handler → String
  | httpGet => "http_get"
  | plpgsql => "plpgsql"
  | mcpCall => "mcp_call"

inductive BuildStatus
  | pending | building | built | failed
  deriving DecidableEq

def BuildStatus.text : BuildStatus → String
  | pending => "pending"
  | building => "building"
  | built => "built"
  | failed => "failed"

inductive ResourceType
  | view | function | agent | httpHost | procedure
  deriving DecidableEq

inductive ExperimentStatus
  | running | promoted | rejected
  deriving DecidableEq

/-- `outbound_calls.outcome`. -/
inductive CallOutcome
  | success | failure
  deriving DecidableEq

inductive ProposalKind
  | policyChange | createAgent | functionOverride | createFunction | updateFunction
  deriving DecidableEq

inductive FixKind
  | revokePermission | deactivateAgent
  deriving DecidableEq

def FixKind.ofText : String → Option FixKind
  | "revoke_permission" => some revokePermission
  | "deactivate_agent" => some deactivateAgent
  | _ => none

def ResourceType.ofText : String → Option ResourceType
  | "view" => some view
  | "function" => some function
  | "agent" => some agent
  | "http_host" => some httpHost
  | "procedure" => some procedure
  | _ => none

end Allgres
