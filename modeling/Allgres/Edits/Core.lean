import Allgres.Dashboard.Rpc
import Allgres.Watchdog
import Allgres.Safety.Eviction
import Allgres.Lib.Evolution
import Allgres.Lib.Raising
import Mathlib.Logic.Relation

/-! What a single statement can do to the tables that no turn of a task rewrites: the configuration,
the agents and what they may do, the journals, the memories and the inbox of the operators. Every
function of the control plane and of the dashboard is a sequence of such statements. -/

namespace Allgres

open Relational Jsonb Sql Raising Relation

/-- Only the tables that hold the conversations and the requests differ. -/
def OnlyTraffic (db db' : Db) : Prop :=
  db' = { db with
    sessions := db'.sessions
    tasks := db'.tasks
    approvals := db'.approvals
    schedules := db'.schedules
    outboundCalls := db'.outboundCalls
    sqlCalls := db'.sqlCalls
    functionCalls := db'.functionCalls
    procedureCalls := db'.procedureCalls
    oauthDeviceSessions := db'.oauthDeviceSessions
    journal := db'.journal
    submits := db'.submits }

/-- Only the configuration that no agent has a say in differs. -/
def OnlyPerimeter (db db' : Db) : Prop :=
  db' = { db with
    procedures := db'.procedures
    procedureHistory := db'.procedureHistory
    bindings := db'.bindings
    providers := db'.providers
    secrets := db'.secrets
    connections := db'.connections
    connectionSecrets := db'.connectionSecrets
    prices := db'.prices
    sqlSandboxAllowlist := db'.sqlSandboxAllowlist
    sqlFunctionAllowlist := db'.sqlFunctionAllowlist
    projects := db'.projects }

/-- A function without the columns that its builds write. -/
def FunctionRow.unbuilt (function : FunctionRow) : FunctionRow :=
  { function with buildStatus := .pending, buildError := none, updatedAt := 0 }

def ProcedureRow.unbuilt (procedure : ProcedureRow) : ProcedureRow :=
  { procedure with buildStatus := .pending, buildError := none, updatedAt := 0 }

/-- What the statements of a transaction may do besides: change the agents and what they may do, or
the configuration around them. -/
structure Powers where
  governs : Table AgentRow → Prop
  configures : Prop

/-- Some agent may act without waiting for an operator. -/
def Autonomous (agents : Table AgentRow) : Prop :=
  ∃ agentId agent, agents.get? agentId = some agent ∧ agent.isActive = true ∧ agent.autonomyLevel ≠ .adminApproval

def Powers.agents : Powers := ⟨Autonomous, False⟩

def Powers.operators : Powers := ⟨fun _ => True, True⟩

/-- How a call of a service may change: what was asked stays, a call in flight is not queued again, and a call
that is over stays as it is. -/
structure ServiceCall.Onward (old new : ServiceCall) : Prop where
  request : new = { old with status := new.status, updatedAt := new.updatedAt, error := new.error }
  fence : old.status = .inFlight → new.status ≠ .queued
  settled : old.status.outstanding = false → new = old

structure OauthCallRow.Onward (old new : OauthCallRow) : Prop where
  call : old.toServiceCall.Onward new.toServiceCall
  operation : new.operation = old.operation
  device : new.deviceSessionId = old.deviceSessionId

/-- An embedding that has not been claimed gives way to a newer one, and that of a memory goes with it. -/
def ServiceCall.Withdrawable (call : ServiceCall) : Prop := call.status = .queued ∨ call.memoryId.isSome = true

abbrev AdvancesEmbeddings : Table ServiceCall → Table ServiceCall → Prop :=
  Evolves ServiceCall.Onward ServiceCall.Withdrawable

abbrev AdvancesProbes : Table ServiceCall → Table ServiceCall → Prop := Evolves ServiceCall.Onward fun _ => False

abbrev AdvancesLogins : Table OauthCallRow → Table OauthCallRow → Prop := Evolves OauthCallRow.Onward fun _ => False

/-- A login gives the provider new tokens; its API key and the client's secret stay. -/
def LlmSecretRow.Renewed (old new : LlmSecretRow) : Prop :=
  new = { old with accessToken := new.accessToken, refreshToken := new.refreshToken, expiresAt := new.expiresAt }

/-- What `write_memory` makes of its arguments. -/
structure MemoryRow.Sound (memory : MemoryRow) : Prop where
  type : memory.memoryType ∈ memoryTypes
  filled : memory.content ≠ ""
  short : memory.content.length ≤ 4000
  least : 0 ≤ memory.importance
  most : memory.importance ≤ 1

inductive Edit (env : Env) (powers : Powers) : Db → Db → Prop
  | traffic {db db' : Db} : OnlyTraffic db db' → Edit env powers db db'
  | embeddings {db : Db} (calls : Table ServiceCall) : AdvancesEmbeddings db.embeddingCalls calls →
      Edit env powers db { db with embeddingCalls := calls }
  | probes {db : Db} (calls : Table ServiceCall) : AdvancesProbes db.providerProbes calls →
      Edit env powers db { db with providerProbes := calls }
  | logins {db : Db} (calls : Table OauthCallRow) (devices : Table DeviceSessionRow) : AdvancesLogins db.oauthCalls calls →
      Edit env powers db { db with oauthCalls := calls, oauthDeviceSessions := devices }
  | tokens {db : Db} (secrets : Table LlmSecretRow) :
      Evolves LlmSecretRow.Renewed (fun _ => False) db.secrets secrets → Edit env powers db { db with secrets := secrets }
  | log {db : Db} (row : LogRow) : row.createdAt = env.now →
      Edit env powers db { db with logs := db.logs ++ [row] }
  | audit {db : Db} (row : AuditRow) : Edit env powers db { db with auditLog := db.auditLog.insert row }
  | propose {db : Db} (proposal : ProposalRow) :
      Edit env powers db { db with proposals := db.proposals.insert proposal }
  | fix {db : Db} (fix : FixRow) : Edit env powers db { db with fixes := db.fixes.insert fix }
  | remember {db : Db} (memory : MemoryRow) : memory.Sound →
      Edit env powers db { db with memories := evictMemories (db.memories.insert memory) memory.agentId }
  | touch {db : Db} (cond : Nat → MemoryRow → Bool) :
      Edit env powers db { db with memories := db.memories.update cond fun _ memory =>
        { memory with lastAccessedAt := some env.now } }
  | forget {db : Db} (cond : Nat → MemoryRow → Bool) :
      Edit env powers db { db with memories := db.memories.delete cond }
  | build {db : Db} (cond : Nat → FunctionRow → Bool) (set : Nat → FunctionRow → FunctionRow) :
      (∀ key row, (set key row).unbuilt = row.unbuilt) →
      Edit env powers db { db with functions := db.functions.update cond set }
  | buildProcedure {db : Db} (cond : Nat → ProcedureRow → Bool) (set : Nat → ProcedureRow → ProcedureRow) :
      (∀ key row, (set key row).unbuilt = row.unbuilt) →
      Edit env powers db { db with procedures := db.procedures.update cond set }
  | format {db : Db} (cond : Nat → ProviderRow → Bool) :
      Edit env powers db { db with providers := db.providers.update cond fun _ provider =>
        { provider with responseFormatJsonObject := false } }
  | perimeter {db db' : Db} : powers.configures → OnlyPerimeter db db' → Edit env powers db db'
  | policy {db : Db} (cond : Nat → PolicyRow → Bool) (set : Nat → PolicyRow → PolicyRow)
      (history : Table PolicyHistoryRow) : powers.governs db.agents → (∀ key row, (set key row).agentId = row.agentId) →
      Edit env powers db { db with policies := db.policies.update cond set, policyHistory := history }
  | newAgent {db : Db} (agent : AgentRow) (policy : PolicyRow) : powers.governs db.agents →
      db.agentNamed agent.name = none → policy.agentId = db.agents.next →
      Edit env powers db { db with agents := db.agents.insert agent, policies := db.policies.insert policy }
  | agent {db : Db} (agentId : Nat) (set : AgentRow → AgentRow) : powers.governs db.agents →
      (∀ row, (set row).name = row.name ∧ (set row).isSystem = row.isSystem) →
      Edit env powers db { db with agents := db.agents.modify agentId set }
  | permission {db : Db} (permissions : Table PermissionRow) : powers.governs db.agents →
      Edit env powers db { db with permissions := permissions }
  | newFunction {db : Db} (function : FunctionRow) : powers.governs db.agents →
      (∀ key row, db.functions.get? key = some row → row.name ≠ function.name) →
      Edit env powers db { db with functions := db.functions.insert function }
  | function {db : Db} (functionId : Nat) (set : FunctionRow → FunctionRow) : powers.governs db.agents →
      (∀ row, (set row).name = row.name ∧ (set row).handler = row.handler) →
      Edit env powers db { db with functions := db.functions.modify functionId set }
  | trial {db : Db} (experiment : ExperimentRow) : powers.governs db.agents → experiment.status = .running →
      (∀ key row, db.experiments.get? key = some row → row.status = .running → row.functionId ≠ experiment.functionId) →
      Edit env powers db { db with experiments := db.experiments.insert experiment }
  | verdict {db : Db} {experimentId : Nat} {old : ExperimentRow} (status : ExperimentStatus) (decidedAt : Option Time) :
      powers.governs db.agents → db.experiments.get? experimentId = some old → old.status = .running →
      status ≠ .running →
      Edit env powers db { db with experiments := db.experiments.modify experimentId fun _ =>
        { old with status := status, decidedAt := decidedAt } }

abbrev Edits (env : Env) (powers : Powers) : Db → Db → Prop := ReflTransGen (Edit env powers)

/-- What a function that may raise leaves behind. -/
abbrev Leaves {α : Type} (env : Env) (powers : Powers) (db : Db) (result : Except String (α × Db)) : Prop :=
  Ensures result fun result => Edits env powers db result.2

variable {env : Env} {powers : Powers} {db db' : Db} {turn : Turn} {parsed : Json}

theorem Edit.edits (edit : Edit env powers db db') : Edits env powers db db' := .single edit

theorem OnlyTraffic.edits (only : OnlyTraffic db db') : Edits env powers db db' := .single (.traffic only)

/-! ### Calls of the services -/

theorem ServiceCall.Onward.refl (call : ServiceCall) : call.Onward call where
  request := rfl
  fence flying queued := by
    rw [flying] at queued
    cases queued
  settled _ := rfl

theorem ServiceCall.Onward.trans {a b c : ServiceCall} (first : a.Onward b) (second : b.Onward c) : a.Onward c where
  request := by
    rw [second.request, first.request]
  fence flying := by
    have unqueued := first.fence flying
    cases status : b.status with
    | queued => exact absurd status unqueued
    | inFlight => exact second.fence status
    | harvested | lost =>
      rw [second.settled (by rw [status]; rfl)]
      exact unqueued
  settled ceased := by
    have same := first.settled ceased
    rw [second.settled (by rw [same]; exact ceased), same]

theorem ServiceCall.Onward.memory {a b : ServiceCall} (onward : a.Onward b) : b.memoryId = a.memoryId := by
  rw [onward.request]

theorem ServiceCall.Onward.withdrawable {a b : ServiceCall} (onward : a.Onward b) (goes : b.Withdrawable) :
    a.Withdrawable := by
  rcases goes with waits | memory
  · cases status : a.status with
    | queued => exact .inl status
    | inFlight => exact absurd waits (onward.fence status)
    | harvested | lost =>
      rw [onward.settled (by rw [status]; rfl), status] at waits
      cases waits
  · exact .inr (onward.memory ▸ memory)

theorem OauthCallRow.Onward.refl (call : OauthCallRow) : call.Onward call := ⟨.refl _, rfl, rfl⟩

theorem OauthCallRow.Onward.trans {a b c : OauthCallRow} (first : a.Onward b) (second : b.Onward c) : a.Onward c :=
  ⟨first.call.trans second.call, second.operation.trans first.operation, second.device.trans first.device⟩

theorem advancesEmbeddings_trans {a b c : Table ServiceCall} (first : AdvancesEmbeddings a b)
    (second : AdvancesEmbeddings b c) : AdvancesEmbeddings a c :=
  .trans ServiceCall.Onward.trans ServiceCall.Onward.withdrawable first second

theorem advancesProbes_trans {a b c : Table ServiceCall} (first : AdvancesProbes a b) (second : AdvancesProbes b c) :
    AdvancesProbes a c :=
  .trans ServiceCall.Onward.trans (fun _ => id) first second

theorem advancesLogins_trans {a b c : Table OauthCallRow} (first : AdvancesLogins a b) (second : AdvancesLogins b c) :
    AdvancesLogins a c :=
  .trans OauthCallRow.Onward.trans (fun _ => id) first second

/-- A call that is not over may be claimed or ended. -/
theorem ServiceCall.onward_of (call : ServiceCall) {status : CallStatus} (outstanding : call.status.outstanding = true)
    (claimed : status ≠ .queued) (updatedAt : Time) (error : Option String) :
    call.Onward { call with status := status, updatedAt := updatedAt, error := error } where
  request := rfl
  fence _ := claimed
  settled ceased := by
    rw [outstanding] at ceased
    cases ceased

/-! ### Rows -/

theorem edits_updateTask (t : Nat) (set : TaskRow → TaskRow) : Edits env powers db (db.updateTask env t set) := by
  refine OnlyTraffic.edits ?_
  unfold Db.updateTask
  split <;> rfl

theorem edits_bumpStep (t : Nat) : Edits env powers db (db.bumpStep env t) := edits_updateTask t _

theorem Edits.bumped (edits : Edits env powers db db') (t : Nat) : Edits env powers db (db'.bumpStep env t) :=
  edits.trans (edits_bumpStep t)

theorem edits_insertTask (s agentId : Nat) (parent : Option Nat) (input : Json) (depth : Nat) (generation : Option Nat) :
    Edits env powers db (db.insertTask env s agentId parent input depth generation) := OnlyTraffic.edits rfl

theorem edits_insertOutbound (t : Nat) (body : OutboundBody) : Edits env powers db (db.insertOutbound env t body) :=
  OnlyTraffic.edits rfl

theorem edits_insertSql (t : Nat) (body : SqlBody) : Edits env powers db (db.insertSql env t body) :=
  OnlyTraffic.edits rfl

theorem edits_insertFunctionCall (t : Nat) (body : BodyCall) : Edits env powers db (db.insertFunctionCall env t body) :=
  OnlyTraffic.edits rfl

theorem edits_insertProcedureCall (t : Nat) (body : BodyCall) :
    Edits env powers db (db.insertProcedureCall env t body) := OnlyTraffic.edits rfl

theorem edits_insertApproval (t : Nat) (payload : Json) (expires : Time) :
    Edits env powers db (db.insertApproval env t payload expires) := OnlyTraffic.edits rfl

theorem edits_updateSession (s : Nat) (set : SessionRow → SessionRow) : Edits env powers db (db.updateSession s set) :=
  OnlyTraffic.edits rfl

theorem edits_appendLog (t step : Nat) (role : Role) (content : Json) :
    Edits env powers db (db.appendLog env t step role content) := .single (.log _ rfl)

theorem edits_audit (action : String) (details : Json) : Edits env powers db (db.audit action details) :=
  .single (.audit _)

theorem Edits.audited (edits : Edits env powers db db') (action : String) (details : Json) :
    Edits env powers db (db'.audit action details) :=
  edits.trans (edits_audit action details)

theorem edits_log (role : Role) (content : Json) : Edits env powers db (turn.log env db role content) :=
  edits_appendLog ..

theorem edits_refuse (content reply : List (String × Json)) :
    Edits env powers db (turn.refuse env db content reply).2 :=
  (edits_log .error (.build content)).trans (edits_bumpStep turn.taskId)

theorem edits_note (content reply : List (String × Json)) : Edits env powers db (turn.note env db content reply).2 :=
  (edits_log .assistant (.build content)).trans (edits_bumpStep turn.taskId)

theorem edits_maybeCompleteSession (s : Nat) : Edits env powers db (maybeCompleteSession env db s) := by
  refine OnlyTraffic.edits ?_
  simp only [maybeCompleteSession]
  split
  · rfl
  · split <;> rfl

theorem edits_failTask (t : Nat) (task : TaskRow) (error : String) (content : List (String × Json)) :
    Edits env powers db (failTask env db t task error content) :=
  ((edits_updateTask t _).trans (edits_appendLog ..)).trans (edits_maybeCompleteSession task.sessionId)

theorem leaves_error {α : Type} {message : String} : Leaves env powers db (.error message : Except String (α × Db)) :=
  ensures_error.mpr trivial

theorem leaves_refuse (content reply : List (String × Json)) :
    Leaves env powers db (.ok (turn.refuse env db content reply)) := ensures_ok.mpr (edits_refuse content reply)

theorem leaves_note (before : Edits env powers db db') (content reply : List (String × Json)) :
    Leaves env powers db (.ok (turn.note env db' content reply)) :=
  ensures_ok.mpr (before.trans (edits_note content reply))

/-- A loop does what its passes do. -/
theorem edits_foldl {α : Type} {pass : Db → α → Db} (passes : ∀ db item, Edits env powers db (pass db item))
    (items : List α) (db : Db) : Edits env powers db (items.foldl pass db) := by
  induction items generalizing db with
  | nil => exact .refl
  | cons item rest ih => exact (passes db item).trans (ih _)

/-! ### Memories -/

/-- An embedding is queued in the place of one that has not been claimed. -/
theorem queueEmbedding_calls (agentId memoryId : Option Nat) (input : String) :
    ∃ calls, queueEmbedding env db agentId memoryId input = { db with embeddingCalls := calls } ∧
      AdvancesEmbeddings db.embeddingCalls calls := by
  unfold queueEmbedding
  split
  · exact ⟨db.embeddingCalls, rfl, .refl ServiceCall.Onward.refl _⟩
  · dsimp only
    split
    · exact ⟨db.embeddingCalls, rfl, .refl ServiceCall.Onward.refl _⟩
    · refine ⟨_, rfl, advancesEmbeddings_trans (.delete ServiceCall.Onward.refl _ ?_) (.insert ServiceCall.Onward.refl _ _)⟩
      intro key call found chosen
      rw [Bool.and_eq_true, beq_iff_eq] at chosen
      exact .inl chosen.2

theorem queueMemoryEmbedding_calls (memoryId : Nat) :
    ∃ calls, queueMemoryEmbedding env db memoryId = { db with embeddingCalls := calls } ∧
      AdvancesEmbeddings db.embeddingCalls calls := by
  unfold queueMemoryEmbedding
  split
  · exact ⟨db.embeddingCalls, rfl, .refl ServiceCall.Onward.refl _⟩
  · exact queueEmbedding_calls _ _ _

theorem edits_queueAgentEmbedding (agentId : Nat) : Edits env powers db (queueAgentEmbedding env db agentId) := by
  unfold queueAgentEmbedding
  split
  · exact .refl
  · rename_i agent found
    obtain ⟨calls, queued, advances⟩ := @queueEmbedding_calls env db (some agentId) none
      (agent.name ++ ": " ++ ((db.policyOf agentId).map PolicyRow.systemPrompt).getD "")
    dsimp only
    rw [queued]
    exact Edit.edits (.embeddings calls advances)

theorem clampUnit_bounds (value : Real4) : 0 ≤ value.clampUnit ∧ value.clampUnit ≤ 1 := by
  cases value with
  | finite value => exact ⟨le_min zero_le_one (le_max_left ..), min_le_left ..⟩
  | infinity => exact ⟨zero_le_one, le_rfl⟩
  | negInfinity => exact ⟨le_rfl, zero_le_one⟩
  | nan => exact ⟨zero_le_one, le_rfl⟩

theorem importanceOf_bounds (importance : Option String) :
    0 ≤ importanceOf env importance ∧ importanceOf env importance ≤ 1 := by
  unfold importanceOf
  split
  · norm_num
  · split
    · norm_num
    · exact clampUnit_bounds _

theorem left_ne_empty {text : String} {count : Nat} (filled : text ≠ "") : left text (count + 1) ≠ "" := by
  intro empty
  have nothing : (text.toList.take (count + 1)) = [] := by simpa [left] using congrArg String.toList empty
  rcases List.take_eq_nil_iff.mp nothing with never | blank
  · cases never
  · exact filled (String.toList_eq_nil_iff.mp blank)

theorem edits_writeMemory {agentId memoryId : Nat} {content memoryType importance subjectId expiresInDays : Option String}
    {session source : Option Nat} {kind : String}
    (done : writeMemory env db agentId content memoryType importance subjectId expiresInDays session source =
      .ok (memoryId, kind, db')) : Edits env powers db db' := by
  unfold writeMemory at done
  dsimp only at done
  split at done
  · cases done
  · rename_i filled
    split at done
    · cases done
    · rename_i known
      simp only [Except.ok.injEq, Prod.mk.injEq] at done
      obtain ⟨-, -, rfl⟩ := done
      obtain ⟨calls, queued, advances⟩ := @queueMemoryEmbedding_calls env _ db.memories.next
      rw [queued]
      refine (Edit.remember _ ?_).edits.trans (Edit.edits (.embeddings calls advances))
      exact ⟨by simpa using known, left_ne_empty filled, by simp [left], (importanceOf_bounds importance).1,
        (importanceOf_bounds importance).2⟩

end Allgres
