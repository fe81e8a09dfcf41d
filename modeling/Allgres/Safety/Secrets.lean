import Allgres.Hidden.Turn
import Allgres.Integrations
import Allgres.Machine

namespace Allgres

open Relational Jsonb Sql

/-! ### The secret columns -/

/-- What a secret column shows once its content is blanked: null or not. -/
def blank (secret : Option String) : Option String := secret.map fun _ => ""

@[simp] theorem isSome_blank (secret : Option String) : (blank secret).isSome = secret.isSome := by
  cases secret <;> rfl

def LlmSecretRow.redacted (secret : LlmSecretRow) : LlmSecretRow :=
  { secret with
    apiKey := blank secret.apiKey
    oauthClientSecret := blank secret.oauthClientSecret
    accessToken := blank secret.accessToken
    refreshToken := blank secret.refreshToken }

def DeviceSessionRow.redacted (device : DeviceSessionRow) : DeviceSessionRow :=
  { device with deviceCode := blank device.deviceCode }

def Hidden.redacted (hidden : Hidden) : Hidden where
  secrets := hidden.secrets.map LlmSecretRow.redacted
  connectionSecrets := hidden.connectionSecrets.map fun secret => (secret.1, blank secret.2)
  oauthCalls := hidden.oauthCalls
  oauthDeviceSessions := hidden.oauthDeviceSessions.map DeviceSessionRow.redacted
  schedules := hidden.schedules

/-- The tables with the content of every secret column blanked. Two databases
with the same redacted tables differ only in the contents of secrets. -/
def Db.redacted (db : Db) : Db := db.cover db.hidden.redacted

/-! ### The calls of the worker -/

/-- The functions that build, claim and complete requests. -/
inductive Call
  | dispatchTasks
  | claimOutbound (limit : Option Int) (fallback : Option String)
  | claimOauth (limit : Option Int)
  | claimAgentEmbedding (limit : Option Int)
  | claimProviderProbe (limit : Option Int)
  | completeOutbound (callId : Nat) (status : Option Int) (body : Option String)
  | submitResult (t : Nat) (payload : Json)

def Call.run (env : Env) (db : Db) : Call → Except String Db
  | .dispatchTasks => (fnDispatchTasks env db).map Dispatched.db
  | .claimOutbound limit fallback => .ok (fnClaimOutbound env db limit fallback).2
  | .claimOauth limit => (fnClaimOauth env db limit).map Prod.snd
  | .claimAgentEmbedding limit => .ok (fnClaimAgentEmbedding env db limit).2
  | .claimProviderProbe limit => .ok (fnClaimProviderProbe env db limit).2
  | .completeOutbound callId status body => (fnCompleteOutbound env db callId status body).map Prod.snd
  | .submitResult t payload => (fnSubmitResult env db t payload).map Prod.snd

/-- One call after another, each a transaction of its own: one that raises changes nothing. -/
def runCalls (db : Db) (calls : List (Env × Call)) : Db :=
  calls.foldl (fun db entry => (entry.2.run entry.1 db).toOption.getD db) db

variable {env : Env} {db : Db} {hidden : Hidden}

/-! ### A function that does not read the hidden tables commutes with the redaction -/

theorem redacted_of_coverReply {α : Type} {f : Db → α × Db}
    (commutes : ∀ db hidden, f (db.cover hidden) = coverReply hidden (f db)) (db : Db) :
    f db.redacted = ((f db).1, (f db).2.redacted) := by
  rw [Db.redacted, commutes, coverReply, Db.redacted, hidden_of_coverReply commutes]

theorem redacted_of_map {α : Type} {f : Db → Except String (α × Db)}
    (commutes : ∀ db hidden, f (db.cover hidden) = (f db).map (coverReply hidden)) (db : Db) :
    f db.redacted = (f db).map fun done => (done.1, done.2.redacted) := by
  rw [Db.redacted, commutes]
  rcases done : f db with message | ⟨value, after⟩
  · rfl
  · have kept := hidden_of_map commutes done
    simp only [Except.map, coverReply, Db.redacted, kept]

/-! ### Dispatch and claims -/

theorem redacted_fnDispatchTasks :
    Call.run env db.redacted .dispatchTasks = (Call.run env db .dispatchTasks).map Db.redacted := by
  simp only [Call.run]
  rw [Db.redacted, cover_fnDispatchTasks]
  rcases done : fnDispatchTasks env db with message | out
  · rfl
  · have kept := hidden_of_dispatch done
    simp only [Except.map, Dispatched.cover, Db.redacted, kept]

theorem redacted_tokenUsable (providerId : Option Nat) :
    tokenUsable env db.redacted providerId = tokenUsable env db providerId := by
  have secrets (cond : LlmSecretRow → Bool) :
      db.redacted.secrets.exists? (fun _ secret => cond secret) =
        db.secrets.exists? fun _ secret => cond secret.redacted := Table.exists?_map db.secrets _ _
  have providers : db.redacted.providers = db.providers := rfl
  simp only [tokenUsable, providers]
  split
  · rw [secrets]
    simp only [LlmSecretRow.redacted, isSome_blank]
  · rfl

theorem redacted_fnClaimOutbound (limit : Option Int) (fallback : Option String) :
    (fnClaimOutbound env db.redacted limit fallback).2 = (fnClaimOutbound env db limit fallback).2.redacted := by
  simp only [fnClaimOutbound, redacted_tokenUsable]
  rfl

/-! ### OAuth maintenance -/

theorem redacted_expireDevices : expireDevices env db.redacted = (expireDevices env db).redacted := by
  have devices := Table.update_map db.oauthDeviceSessions DeviceSessionRow.redacted
    (fun _ device => device.status == .awaitingUser && device.expiresAt.any fun time => decide (time ≤ env.now))
    (fun _ device =>
      { device with status := .expired, error := some "device authorization expired", updatedAt := env.now })
    (fun _ device =>
      { device with status := .expired, error := some "device authorization expired", updatedAt := env.now })
    (fun _ _ => rfl)
  exact congrArg (fun sessions => ({ db.redacted with oauthDeviceSessions := sessions } : Db)) devices

theorem redacted_postponePolls : postponePolls env db.redacted = (postponePolls env db).redacted := by
  have devices := Table.update_map db.oauthDeviceSessions DeviceSessionRow.redacted
    (fun _ device => device.pollDue env)
    (fun _ device => { device with nextPollAt := some (env.now + seconds device.intervalSeconds), updatedAt := env.now })
    (fun _ device => { device with nextPollAt := some (env.now + seconds device.intervalSeconds), updatedAt := env.now })
    (fun _ _ => rfl)
  exact congrArg (fun sessions => ({ db.redacted with oauthDeviceSessions := sessions } : Db)) devices

theorem redacted_duePolls : duePolls env db.redacted = duePolls env db := by
  have devices (cond : Nat → DeviceSessionRow → Bool) : db.redacted.oauthDeviceSessions.select cond =
      (db.oauthDeviceSessions.select fun session device => cond session device.redacted).map fun row =>
        (row.1, row.2.redacted) := Table.select_map db.oauthDeviceSessions _ _
  simp only [duePolls, devices, List.filterMap_map]
  rfl

theorem redacted_dueRefreshes : dueRefreshes env db.redacted = dueRefreshes env db := by
  have secrets (cond : LlmSecretRow → Bool) :
      db.redacted.secrets.exists? (fun _ secret => cond secret) =
        db.secrets.exists? fun _ secret => cond secret.redacted := Table.exists?_map db.secrets _ _
  have due (secret : LlmSecretRow) : secret.redacted.refreshDue env = secret.refreshDue env := by
    simp only [LlmSecretRow.refreshDue, LlmSecretRow.redacted, isSome_blank]
  have same (providerId : Nat) :
      (db.redacted.secrets.exists? fun _ secret => secret.providerId == providerId && secret.refreshDue env) =
        db.secrets.exists? fun _ secret => secret.providerId == providerId && secret.refreshDue env := by
    rw [secrets fun secret => secret.providerId == providerId && secret.refreshDue env]
    simp only [due]
    rfl
  simp only [dueRefreshes, same]
  rfl

theorem redacted_insertOauth (calls : List (Except String OauthCallRow)) (db : Db) :
    insertOauth calls db.redacted = (insertOauth calls db).map Db.redacted := by
  induction calls generalizing db with
  | nil => rfl
  | cons call rest ih =>
    cases call with
    | error message => rfl
    | ok call => exact ih { db with oauthCalls := db.oauthCalls.insert call }

theorem redacted_queueOauthMaintenance :
    queueOauthMaintenance env db.redacted = (queueOauthMaintenance env db).map Db.redacted := by
  simp only [queueOauthMaintenance, redacted_expireDevices, redacted_duePolls, redacted_insertOauth]
  rcases insertOauth (duePolls env (expireDevices env db)) (expireDevices env db) with message | polled
  · rfl
  · simp only [Except.map, redacted_postponePolls, redacted_dueRefreshes, redacted_insertOauth]

theorem redacted_fnClaimOauth (limit : Option Int) :
    Call.run env db.redacted (.claimOauth limit) = (Call.run env db (.claimOauth limit)).map Db.redacted := by
  simp only [Call.run, fnClaimOauth, redacted_queueOauthMaintenance]
  rcases queueOauthMaintenance env db with message | queued <;> rfl

/-! ### Completions -/

theorem redacted_recordUsage (callId taskId : Nat) (call : OutboundBody) (body : Option String) :
    recordUsage db.redacted callId taskId call body = (recordUsage db callId taskId call body).redacted := by
  have cost (usage : Option Usage) : callCost db.redacted call usage = callCost db call usage := rfl
  have tasks : db.redacted.tasks = db.tasks := rfl
  have sessions : db.redacted.sessions = db.sessions := rfl
  simp only [recordUsage, cost, chargeSchedule, tasks, sessions]
  rcases callCost db call (llmUsageFromHttp body) with _ | cost
  · rfl
  · rcases ((db.tasks.get? taskId).bind fun task => db.sessions.get? task.sessionId).bind SessionRow.scheduleId
      with _ | schedule <;> rfl

theorem redacted_outboundPayload (callId taskId : Nat) (call : OutboundBody) (status : Option Int)
    (body : Option String) :
    outboundPayload env db.redacted callId taskId call status body =
      (outboundPayload env db callId taskId call status body).map fun out => (out.1, out.2.redacted) := by
  have mcp : mcpPayload db.redacted call status body = mcpPayload db call status body := rfl
  have rank (ranking : Nat → Json → Option String → Except String Json) :
    rankPayload ranking env db.redacted taskId call status body =
      rankPayload ranking env db taskId call status body := rfl
  have agents : db.redacted.agents = db.agents := rfl
  have permissions : db.redacted.permissions = db.permissions := rfl
  have memories : db.redacted.memories = db.memories := rfl
  simp only [outboundPayload, mcp, rank, agents, permissions, memories, redacted_recordUsage]
  cases call.kind with
  | function => rfl
  | mcp => cases mcpPayload db call status body <;> rfl
  | embedding =>
    cases rankPayload (env.rankAgentsByEmbedding db.agents db.permissions) env db taskId call status body <;> rfl
  | recallMemories =>
    cases rankPayload (env.rankMemoriesByEmbedding db.memories) env db taskId call status body <;> rfl
  | llm =>
    simp only
    split
    · simp only [Except.map, forgetResponseFormat]
      split <;> rfl
    · rfl

theorem redacted_fnCompleteOutbound (callId : Nat) (status : Option Int) (body : Option String) :
    Call.run env db.redacted (.completeOutbound callId status body) =
      (Call.run env db (.completeOutbound callId status body)).map Db.redacted := by
  have calls : db.redacted.outboundCalls = db.outboundCalls := rfl
  have harvested : harvestOutbound env db.redacted callId status body =
    (harvestOutbound env db callId status body).redacted := rfl
  simp only [Call.run, fnCompleteOutbound, calls]
  cases db.outboundCalls.get? callId with
  | none => rfl
  | some call =>
    simp only
    split
    · rfl
    · rw [harvested, redacted_outboundPayload]
      rcases outboundPayload env (harvestOutbound env db callId status body) callId call.taskId call.body status body
        with message | ⟨payload, read⟩
      · rfl
      · have submitted := redacted_of_coverReply
          (f := fun db => submitFor env db (.outbound, callId) call.taskId payload)
          (fun _ _ => cover_submitFor (.outbound, callId) call.taskId payload) read
        simp only [Except.map, submitted, scoreCall]
        split <;> rfl

/-! ### Whole sequences -/

theorem Call.redacted_run (call : Call) : call.run env db.redacted = (call.run env db).map Db.redacted := by
  cases call with
  | dispatchTasks => exact redacted_fnDispatchTasks
  | claimOutbound limit fallback => exact congrArg Except.ok (redacted_fnClaimOutbound limit fallback)
  | claimOauth limit => exact redacted_fnClaimOauth limit
  | claimAgentEmbedding limit => rfl
  | claimProviderProbe limit => rfl
  | completeOutbound callId status body => exact redacted_fnCompleteOutbound callId status body
  | submitResult t payload =>
    have submitted := redacted_of_map (f := fun db => fnSubmitResult env db t payload)
      (fun _ _ => cover_fnSubmitResult t payload) db
    simp only [Call.run, submitted]
    cases fnSubmitResult env db t payload <;> rfl

theorem redacted_runCalls (db : Db) (calls : List (Env × Call)) :
    runCalls db.redacted calls = (runCalls db calls).redacted := by
  induction calls generalizing db with
  | nil => rfl
  | cons entry rest ih =>
    obtain ⟨env, call⟩ := entry
    have step : ((call.run env db.redacted).toOption.getD db.redacted) =
        ((call.run env db).toOption.getD db).redacted := by
      rw [Call.redacted_run]
      cases call.run env db <;> rfl
    simp only [runCalls, List.foldl_cons, step]
    exact ih _

/-- The calls that build, claim and complete requests act on two databases that
differ only in the contents of secrets alike: whatever the sequence, every
table but the secret columns ends up the same. -/
theorem secrets_stay_hidden (first second : Db) (same : first.redacted = second.redacted)
    (calls : List (Env × Call)) : (runCalls first calls).redacted = (runCalls second calls).redacted := by
  rw [← redacted_runCalls, ← redacted_runCalls, same]

/-- The small installation with a key for its provider and one task to run. -/
def keyedDb (key : String) : Db :=
  let db := { helperDb (helperPolicy 5 none) with
    secrets := Table.empty.insert ⟨0, some key, none, none, none, none⟩ }
  ((fnCreateSession .bare db 0 (some "hello") none none).toOption.map Created.db).getD db

/-- The headers that the next claim would hand to the worker. -/
def claimedHeaders (db : Db) : List String :=
  (fnClaimOutbound .bare db none none).1.map fun claim => claim.headers.text

theorem secrets_stay_hidden_rotated :
    (keyedDb "old").redacted = (keyedDb "new").redacted ∧
    (runCalls (keyedDb "old") [(.bare, .dispatchTasks), (.bare, .claimOutbound none none)]).redacted =
      (runCalls (keyedDb "new") [(.bare, .dispatchTasks), (.bare, .claimOutbound none none)]).redacted ∧
    claimedHeaders (runCalls (keyedDb "old") [(.bare, .dispatchTasks)]) ≠
      claimedHeaders (runCalls (keyedDb "new") [(.bare, .dispatchTasks)]) := by
  have same : (keyedDb "old").redacted = (keyedDb "new").redacted := rfl
  exact ⟨same, secrets_stay_hidden _ _ same _, by decide +kernel⟩

end Allgres
