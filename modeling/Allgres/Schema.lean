import Allgres.Lib.Table
import Allgres.Lib.Jsonb
import Allgres.Lib.Casts
import Allgres.Status

namespace Allgres

open Relational Jsonb

/-- A `timestamptz`, in microseconds since 2000-01-01 UTC. -/
abbrev Time := Int

def seconds (count : Int) : Time := count * 1000000

def days (count : Int) : Time := seconds (count * 86400)

structure AgentRow where
  name : String
  isActive : Bool
  isSystem : Bool
  parentAgentId : Option Nat
  autonomyLevel : Autonomy
  agentConfig : Json

structure PolicyRow where
  agentId : Nat
  systemPrompt : String
  maxSteps : Nat
  maxRetries : Nat
  llmConfig : Json
  generation : Nat
  maxConcurrentTasks : Nat
  maxTurnSeconds : Option Nat
  maxDelegationDepth : Nat
  maxSessionTasks : Nat

structure PolicyHistoryRow where
  policy : PolicyRow
  successRateAtChange : Option ℚ

structure PermissionRow where
  agentId : Nat
  resourceType : ResourceType
  resourceRef : String

structure ProcedureRow where
  name : String
  content : String
  body : Option String
  buildStatus : BuildStatus
  buildError : Option String
  generation : Nat
  isActive : Bool
  llmOverride : Option Json
  updatedAt : Time

structure ProcedureHistoryRow where
  procedureId : Nat
  generation : Nat
  content : String
  body : Option String

structure FunctionRow where
  name : String
  description : String
  handler : Handler
  argsTemplate : Json
  body : Option String
  paramSchema : Json
  buildStatus : BuildStatus
  buildError : Option String
  createdByAgentId : Option Nat
  isActive : Bool
  llmOverride : Option Json
  mcpConnectionId : Option Nat
  updatedAt : Time

structure ExperimentRow where
  functionId : Nat
  candidateProvider : String
  candidateModel : String
  canaryPercent : Int
  status : ExperimentStatus
  minSampleSize : Int
  baselineSuccessRate : Option ℚ
  proposedByAgentId : Option Nat
  reason : Option String
  decidedAt : Option Time

structure ProviderRow where
  name : String
  kind : ProviderKind
  baseUrl : String
  isEnabled : Bool
  allowPrivateNetwork : Bool
  purpose : Purpose
  embeddingModel : Option String
  responseFormatJsonObject : Bool
  createdAt : Time
  oauthTokenUrl : Option String
  oauthClientId : Option String

structure LlmSecretRow where
  providerId : Nat
  apiKey : Option String
  oauthClientSecret : Option String
  accessToken : Option String
  refreshToken : Option String
  expiresAt : Option Time

structure ConnectionRow where
  name : String
  baseUrl : String
  authKind : AuthKind
  allowPrivateNetwork : Bool
  isEnabled : Bool

structure PriceRow where
  providerId : Nat
  model : String
  inputPricePer1k : ℚ
  outputPricePer1k : ℚ

structure ProjectRow where
  isActive : Bool
  presetPrompt : Option String

structure SessionRow where
  agentId : Nat
  goal : String
  status : SessionStatus
  finalAnswer : Option String
  startedAt : Time
  completedAt : Option Time
  projectId : Option Nat
  compactedBefore : Option Time
  scheduleId : Option Nat

structure TaskRow where
  sessionId : Nat
  agentId : Nat
  parentTaskId : Option Nat
  status : TaskStatus
  stepCount : Nat
  input : Json
  output : Option Json
  error : Option String
  createdAt : Time
  updatedAt : Time
  startedAt : Option Time
  delegationDepth : Nat
  policyGeneration : Option Nat
  functionOverrideState : Option Json

structure ScheduleRow where
  name : String
  agentId : Nat
  goal : String
  intervalSeconds : Nat
  nextRunAt : Time
  isActive : Bool
  maxRuns : Option Nat
  runCount : Nat
  endsAt : Option Time
  lastRunAt : Option Time
  lastSessionId : Option Nat
  maxCostUsd : Option ℚ
  spentCostUsd : ℚ

structure LogRow where
  taskId : Nat
  stepNumber : Nat
  role : Role
  content : Json
  createdAt : Time

structure MemoryRow where
  agentId : Nat
  subjectId : Option String
  memoryType : String
  content : String
  importance : ℚ
  sourceSessionId : Option Nat
  sourceTaskId : Option Nat
  createdAt : Time
  lastAccessedAt : Option Time
  expiresAt : Option Time

structure ApprovalRow where
  taskId : Nat
  status : ApprovalStatus
  payload : Json
  decidedAt : Option Time
  createdAt : Time
  replyText : Option String
  expiresAt : Option Time

/-- The columns that `outbound_calls`, `sql_calls`, `function_calls` and
`procedure_calls` share, and the rest of the row. -/
structure CallRow (β : Type) where
  taskId : Nat
  status : CallStatus
  createdAt : Time
  updatedAt : Time
  body : β

structure OutboundBody where
  kind : CallKind
  function : Option String
  url : String
  method : Method
  requestHeaders : Json
  requestBody : Json
  responseStatus : Option Int
  responseBody : Option String
  error : Option String
  allowPrivate : Bool
  providerId : Option Nat
  connectionId : Option Nat
  authKind : Option AuthKind
  idempotencyKey : Option String
  procedureFunctionId : Option Nat
  procedureId : Option Nat
  experimentId : Option Nat
  outcome : Option CallOutcome
  promptTokens : Option Int
  completionTokens : Option Int
  costUsd : Option ℚ

structure SqlBody where
  agentId : Nat
  sql : String

/-- `function_calls` and `procedure_calls` differ only in what they run. -/
structure BodyCall where
  targetId : Nat
  agentId : Nat
  args : Json
  result : Option Json
  error : Option String

structure ProposalRow where
  agentId : Nat
  taskId : Option Nat
  kind : ProposalKind
  proposedChanges : Json
  reason : Option String
  baseGeneration : Nat
  targetAgentId : Option Nat
  targetFunctionId : Option Nat

structure FixRow where
  agentId : Nat
  taskId : Option Nat
  fixKind : FixKind
  targetAgentId : Nat
  detail : Json
  reason : Option String

structure AuditRow where
  action : String
  details : Json

/-- A row of one of the worker queues that belong to no task. -/
structure ServiceCall where
  providerId : Nat
  agentId : Option Nat
  memoryId : Option Nat
  status : CallStatus
  url : String
  requestHeaders : Json
  requestBody : Json
  allowPrivate : Bool
  createdAt : Time
  updatedAt : Time
  error : Option String

structure OauthCallRow extends ServiceCall where
  operation : OauthOperation
  deviceSessionId : Option Nat

structure DeviceSessionRow where
  providerId : Nat
  deviceCode : Option String
  status : DeviceStatus
  intervalSeconds : Nat
  expiresAt : Option Time
  nextPollAt : Option Time
  error : Option String
  updatedAt : Time

/-- The tables of `allgres_private`. The last two fields are history
variables: no modelled function reads them. -/
structure Db where
  agents : Table AgentRow
  policies : Table PolicyRow
  policyHistory : Table PolicyHistoryRow
  permissions : Table PermissionRow
  procedures : Table ProcedureRow
  procedureHistory : Table ProcedureHistoryRow
  functions : Table FunctionRow
  bindings : List (Nat × Nat)
  experiments : Table ExperimentRow
  providers : Table ProviderRow
  secrets : Table LlmSecretRow
  connections : Table ConnectionRow
  connectionSecrets : List (Nat × Option String)
  prices : List PriceRow
  sqlSandboxAllowlist : List String
  sqlFunctionAllowlist : List String
  projects : Table ProjectRow
  sessions : Table SessionRow
  tasks : Table TaskRow
  schedules : Table ScheduleRow
  logs : List LogRow
  memories : Table MemoryRow
  approvals : Table ApprovalRow
  outboundCalls : Table (CallRow OutboundBody)
  sqlCalls : Table (CallRow SqlBody)
  functionCalls : Table (CallRow BodyCall)
  procedureCalls : Table (CallRow BodyCall)
  proposals : Table ProposalRow
  fixes : Table FixRow
  auditLog : Table AuditRow
  embeddingCalls : Table ServiceCall
  oauthCalls : Table OauthCallRow
  oauthDeviceSessions : Table DeviceSessionRow
  providerProbes : Table ServiceCall
  journal : List StatusWrite
  submits : List (Queue × Nat)

/-- The tables as they are created. -/
def Db.empty : Db where
  agents := .empty
  policies := .empty
  policyHistory := .empty
  permissions := .empty
  procedures := .empty
  procedureHistory := .empty
  functions := .empty
  bindings := []
  experiments := .empty
  providers := .empty
  secrets := .empty
  connections := .empty
  connectionSecrets := []
  prices := []
  sqlSandboxAllowlist := []
  sqlFunctionAllowlist := []
  projects := .empty
  sessions := .empty
  tasks := .empty
  schedules := .empty
  logs := []
  memories := .empty
  approvals := .empty
  outboundCalls := .empty
  sqlCalls := .empty
  functionCalls := .empty
  procedureCalls := .empty
  proposals := .empty
  fixes := .empty
  auditLog := .empty
  embeddingCalls := .empty
  oauthCalls := .empty
  oauthDeviceSessions := .empty
  providerProbes := .empty
  journal := []
  submits := []

end Allgres
