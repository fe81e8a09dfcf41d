import Allgres.Writes.Core
import Allgres.Refine.Submit

namespace Allgres

open Relational Jsonb Sql Runs

variable {env : Env} {db db' : Db} {turn : Turn} {parsed : Json} {ok : Mark → Core → Prop}

/-! ### Rows -/

theorem writes_log (t step : Nat) (role : Role) (content : Json) :
    Writes env Calm db.core (db.appendLog env t step role content).core :=
  .single (.log _) trivial

theorem core_updateTask {t : Nat} {old : TaskRow} (set : TaskRow → TaskRow) (found : db.tasks.get? t = some old) :
    (db.updateTask env t set).core =
      { db.core with tasks := db.tasks.modify t fun _ => { set old with updatedAt := env.now } } := by
  unfold Db.updateTask
  rw [found]
  simp only [Db.core]
  rw [Table.modify_const (fun row => { set row with updatedAt := env.now }) found]

theorem core_updateTask_updateSession {t : Nat} {old : TaskRow} (set : TaskRow → TaskRow) (s : Nat)
    (change : SessionRow → SessionRow) (found : db.tasks.get? t = some old) :
    ((db.updateTask env t set).updateSession s change).core =
      { db.core with
        tasks := db.tasks.modify t fun _ => { set old with updatedAt := env.now }
        sessions := db.sessions.modify s change } := by
  unfold Db.updateTask
  rw [found]
  simp only [Db.core, Db.updateSession]
  rw [Table.modify_const (fun row => { set row with updatedAt := env.now }) found]

theorem writes_task {t : Nat} {old : TaskRow} {mark : Mark} (set : TaskRow → TaskRow)
    (found : db.tasks.get? t = some old) (kin : Kin old (set old)) (live : old.status.terminal = false)
    (shift : Shift db.core t old { set old with updatedAt := env.now } mark) (allowed : ok mark db.core) :
    Writes env ok db.core (db.updateTask env t set).core := by
  rw [core_updateTask set found]
  exact .single (.task _ found ⟨kin.session, kin.agent, kin.parent, kin.depth, kin.input, kin.created⟩ live shift
    rfl .none) allowed

theorem writes_bumpStep (db : Db) {t : Nat} {old : TaskRow} (found : db.tasks.get? t = some old)
    (live : old.status.terminal = false) : Writes env Calm db.core (db.bumpStep env t).core :=
  writes_task _ found ⟨rfl, rfl, rfl, rfl, rfl, rfl⟩ live (.stay rfl) trivial

theorem writes_finish {t : Nat} {old : TaskRow} (set : TaskRow → TaskRow) (found : db.tasks.get? t = some old)
    (kin : Kin old (set old)) (live : old.status.terminal = false) (ends : (set old).status.terminal = true) :
    Writes env Calm db.core (db.updateTask env t set).core :=
  writes_task set found kin live (.finish ends) trivial

theorem writes_session (s : Nat) (set : SessionRow → SessionRow)
    (keeps : ∀ row, SameSession row (set row) ∧ (set row).finalAnswer = row.finalAnswer ∧
      ((set row).status = row.status ∨ (set row).status = .opened ∨ (set row).status = .cancelled)) :
    Writes env Calm db.core (db.updateSession s set).core :=
  .single (.session s set keeps) trivial

theorem writes_close (s : Nat) (set : SessionRow → SessionRow)
    (idle : ∀ t task, db.tasks.get? t = some task → task.sessionId = s → task.status.terminal = true)
    (sums : ∀ row, SameSession row (set row) ∧ (row.status = .opened → SumsUp db.tasks s row (set row)) ∧
      (row.status ≠ .opened → set row = row)) :
    Writes env Calm db.core (db.updateSession s set).core :=
  .single (.close s set idle sums) trivial

theorem writes_maybeCompleteSession (s : Nat) : Writes env Calm db.core (maybeCompleteSession env db s).core := by
  simp only [maybeCompleteSession]
  split
  · exact .refl
  · rename_i none
    have idle : ∀ t task, db.tasks.get? t = some task → task.sessionId = s → task.status.terminal = true := by
      intro t task found belongs
      by_contra live
      rw [Bool.not_eq_true] at live
      refine none (Table.count_pos.mpr ⟨t, task, found, ?_⟩)
      simpa using ⟨belongs, live⟩
    split
    · rename_i failed
      obtain ⟨some, unanswered⟩ := failed
      obtain ⟨t, task, found, fits⟩ := Table.count_pos.mp some
      simp only [Bool.and_eq_true, beq_iff_eq] at fits
      refine writes_close s _ idle fun row => ?_
      by_cases opened : row.status = .opened
      · rw [if_pos opened]
        refine ⟨⟨rfl, rfl, rfl, rfl, rfl⟩, fun _ => ?_, fun closed => absurd opened closed⟩
        exact .failed (Option.isNone_iff_eq_none.mp unanswered) ⟨t, task, found, fits.1, fits.2⟩ rfl rfl
      · rw [if_neg opened]
        exact ⟨⟨rfl, rfl, rfl, rfl, rfl⟩, fun still => absurd still opened, fun _ => rfl⟩
    · rename_i succeeded
      refine writes_close s _ idle fun row => ?_
      by_cases opened : row.status = .opened
      · rw [if_pos opened]
        refine ⟨⟨rfl, rfl, rfl, rfl, rfl⟩, fun _ => ?_, fun closed => absurd opened closed⟩
        refine .completed ?_ rfl rfl
        by_contra both
        rw [not_or] at both
        obtain ⟨t, task, found, belongs, failed⟩ : ∃ t task, db.tasks.get? t = some task ∧ task.sessionId = s ∧
            task.status = .failed := by simpa using both.2
        refine succeeded ⟨Table.count_pos.mpr ⟨t, task, found, by simp [belongs, failed]⟩, ?_⟩
        exact Option.isNone_iff_eq_none.mpr (Option.not_isSome_iff_eq_none.mp both.1)
      · rw [if_neg opened]
        exact ⟨⟨rfl, rfl, rfl, rfl, rfl⟩, fun still => absurd still opened, fun _ => rfl⟩

theorem writes_failTask {t : Nat} {old task : TaskRow} {error : String} {content : List (String × Json)}
    (found : db.tasks.get? t = some old) (live : old.status.terminal = false) :
    Writes env Calm db.core (failTask env db t task error content).core := by
  have failed : Writes env Calm db.core
      (db.updateTask env t fun row => { row with status := .failed, error := some error }).core :=
    writes_finish _ found ⟨rfl, rfl, rfl, rfl, rfl, rfl⟩ live rfl
  exact (failed.trans (writes_log _ _ _ _)).trans (writes_maybeCompleteSession _)

theorem live_of_running {task : TaskRow} (running : task.status = .running) : task.status.terminal = false := by
  rw [running]
  rfl

/-! ### The actions -/

/-- The rows that the turn was read from are still the current ones. -/
structure Current (db : Db) (turn : Turn) : Prop where
  task : db.tasks.get? turn.taskId = some turn.task
  running : turn.task.status = .running
  agent : db.agents.get? turn.task.agentId = some turn.agent
  policy : turn.policy = db.policyOf turn.task.agentId

theorem writes_refuse (current : Current db turn) (content reply : List (String × Json)) :
    Writes env Calm db.core (turn.refuse env db content reply).2.core :=
  (writes_log _ _ _ _).trans (writes_bumpStep (turn.log env db .error (.build content)) current.task
    (live_of_running current.running))

theorem writes_note (current : Current db turn) (content reply : List (String × Json)) :
    Writes env Calm db.core (turn.note env db content reply).2.core :=
  (writes_log _ _ _ _).trans (writes_bumpStep (turn.log env db .assistant (.build content)) current.task
    (live_of_running current.running))

/-- Tables outside the core do not matter to the turn. -/
theorem Current.congr (current : Current db turn) (core : db'.core = db.core) : Current db' turn := by
  have tasks : db'.tasks = db.tasks := congrArg Core.tasks core
  have agents : db'.agents = db.agents := congrArg Core.agents core
  have policies : db'.policies = db.policies := congrArg Core.policies core
  refine ⟨by rw [tasks, current.task], current.running, by rw [agents, current.agent], ?_⟩
  rw [current.policy, Db.policyOf, Db.policyOf, policies]

/-- A recorded action whose own changes are outside the core. -/
theorem writes_noted (current : Current db turn) (core : db'.core = db.core) (content reply : List (String × Json)) :
    Writes env Calm db.core (turn.note env db' content reply).2.core := by
  rw [← core]
  exact writes_note (current.congr core) content reply

theorem writes_queued (current : Current db turn) (core : db'.core = db.core) :
    Writes env Calm db.core (db'.bumpStep env turn.taskId).core := by
  rw [← core]
  exact writes_bumpStep db' (current.congr core).task (live_of_running current.running)

theorem writes_executeSql (current : Current db turn) :
    Writes env Calm db.core (executeSql env db turn parsed).2.core := by
  unfold executeSql
  split
  · exact writes_refuse current _ _
  · exact writes_queued current rfl

theorem writes_runProcedure (current : Current db turn) :
    Writes env Calm db.core (runProcedure env db turn parsed).2.core := by
  simp only [runProcedure]
  split
  · exact writes_refuse current _ _
  · split
    · exact writes_refuse current _ _
    · split
      · exact writes_refuse current _ _
      · exact writes_queued current rfl

theorem writes_callBody (current : Current db turn) (name : Option String) (functionId : Nat) (function : FunctionRow)
    (args : Json) : Writes env Calm db.core (callBody env db turn name functionId function args).2.core := by
  simp only [callBody]
  split
  · exact writes_refuse current _ _
  · exact writes_queued current rfl

/-- A new request, after which the turn is counted. -/
theorem writes_request (current : Current db turn) (body : OutboundBody)
    (trusted : Trusted env.pg db.providers db.connections body) (unpaid : body.costUsd = none) :
    Writes env Calm db.core ((db.insertOutbound env turn.taskId body).bumpStep env turn.taskId).core := by
  have queued : Writes env Calm db.core (db.insertOutbound env turn.taskId body).core :=
    .single (.request (Db.newCall env turn.taskId body) trusted (Option.isSome_iff_exists.mpr ⟨_, current.task⟩) unpaid)
      trivial
  exact queued.trans (writes_bumpStep (db.insertOutbound env turn.taskId body) current.task
    (live_of_running current.running))

theorem embeddingProvider_enabled {id : Nat} {provider : ProviderRow}
    (found : db.embeddingProvider = some (id, provider)) :
    db.providers.get? id = some provider ∧ provider.isEnabled = true := by
  have member := List.mem_of_mem_head? (by rw [Db.embeddingProvider] at found; rw [found]; rfl)
  obtain ⟨here, chosen⟩ := Table.mem_select.mp ((List.mem_insertionSort _).mp member)
  rw [Bool.and_eq_true] at chosen
  exact ⟨here, chosen.2⟩

theorem writes_embedQuery (current : Current db turn) (kind : CallKind) (action missing : String) :
    Writes env Calm db.core (embedQuery kind action missing env db turn parsed).2.core := by
  simp only [embedQuery]
  split
  · exact writes_refuse current _ _
  · split
    · exact writes_refuse current _ _
    · rename_i id provider chosen
      obtain ⟨found, enabled⟩ := embeddingProvider_enabled chosen
      split
      · exact writes_refuse current _ _
      · rename_i checked
        exact writes_request current _ (fun _ => ⟨provider, found, enabled, .embeddings _ checked⟩) rfl

/-- A request over a named connection goes to the connection itself or to a path below it. -/
structure Request.Sound (db : Db) (request : Request) : Prop where
  connected : ∀ id connection, request.connection = some (id, connection) →
    db.connections.get? id = some connection ∧ connection.isEnabled = true ∧
    (request.url = some connection.baseUrl ∨
      ∃ path, request.url = some (trimRight (· == '/') connection.baseUrl ++ "/" ++ trimLeft (· == '/') path))

theorem withIdempotencyKey_sound {t : Nat} {request : Request} (sound : request.Sound db) :
    (withIdempotencyKey env t request).Sound db := by
  unfold withIdempotencyKey
  split
  · exact sound
  · exact ⟨sound.connected⟩

theorem mcpRequest_sound {t : Nat} {bound : Option FunctionRow} {args origArgs : Json} {request : Request}
    (made : mcpRequest env db t bound args origArgs = .ok request) : request.Sound db := by
  simp only [mcpRequest] at made
  split at made
  · cases made
  · rename_i connectionId _
    split at made
    · cases made
    · rename_i connection chosen
      obtain rfl := Except.ok.inj made
      obtain ⟨found, enabled⟩ := Option.filter_eq_some_iff.mp chosen
      apply withIdempotencyKey_sound
      constructor
      intro id row same
      obtain ⟨rfl, rfl⟩ := Prod.mk.inj (Option.some.inj same)
      exact ⟨found, enabled, .inl rfl⟩

theorem requestTarget_sound {args : Json} {url : Option String} {id : Nat} {connection : ConnectionRow}
    (made : requestTarget db args = .ok (url, some (id, connection))) :
    db.connections.get? id = some connection ∧ connection.isEnabled = true ∧
      ∃ path, url = some (trimRight (· == '/') connection.baseUrl ++ "/" ++ trimLeft (· == '/') path) := by
  simp only [requestTarget] at made
  split at made
  · cases made
  · split at made
    · cases made
    · rename_i connectionId row chosen
      split at made
      · cases made
      · obtain ⟨rfl, target⟩ := Prod.mk.inj (Except.ok.inj made)
        obtain ⟨rfl, rfl⟩ := Prod.mk.inj (Option.some.inj target)
        obtain ⟨found, fits⟩ := Table.find?_some chosen
        rw [Bool.and_eq_true] at fits
        exact ⟨found, fits.2, (args.getText? "path").getD "", rfl⟩

theorem httpRequest_sound {t : Nat} {args : Json} {request : Request}
    (made : httpRequest env db t args = .ok request) : request.Sound db := by
  simp only [httpRequest] at made
  split at made
  · cases made
  · rename_i method _
    split at made
    · cases made
    · rename_i url connection target
      have plain : (⟨.function, method, url,
          (agentHeaders env args).concat (.build [("accept", .str "application/json, text/plain, */*")]),
          if method.hasBody then (args.get? "body").getD .emptyObj else .emptyObj, connection⟩ : Request).Sound db := by
        constructor
        rintro id row rfl
        obtain ⟨found, enabled, path, rfl⟩ := requestTarget_sound target
        exact ⟨found, enabled, .inr ⟨path, rfl⟩⟩
      obtain rfl := Except.ok.inj made
      split
      · exact withIdempotencyKey_sound plain
      · exact plain

theorem buildRequest_sound {t : Nat} {function : Option String} {bound : Option FunctionRow} {args origArgs : Json}
    {request : Request} (made : buildRequest env db t function bound args origArgs = .ok request) :
    request.Sound db := by
  simp only [buildRequest] at made
  split at made
  · obtain rfl := Except.ok.inj made
    exact ⟨fun _ _ none => by cases none⟩
  · exact mcpRequest_sound made
  · exact httpRequest_sound made
  · cases made

theorem writes_sendRequest (current : Current db turn) {function : Option String} {bound : Option (Nat × Option Nat)}
    {args : Json} {request : Request} (sound : request.Sound db) :
    Writes env Calm db.core (sendRequest env db turn function bound args request).2.core := by
  simp only [sendRequest]
  split
  · exact writes_refuse current _ _
  · rename_i checked
    split
    · exact writes_refuse current _ _
    · refine writes_request current _ ?_ rfl
      intro authorised
      rcases connected : request.connection with _ | ⟨id, connection⟩
      · simp [Request.authKind, connected] at authorised
      · obtain ⟨found, enabled, target⟩ := sound.connected id connection connected
        refine ⟨connection, found, enabled, ?_⟩
        rcases target with whole | ⟨path, below⟩
        · rw [whole] at checked
          simp only [whole, Option.getD_some]
          exact .whole _ checked
        · rw [below] at checked
          simp only [below, Option.getD_some]
          exact .path path _ checked

theorem writes_callOutbound (current : Current db turn) (function : Option String)
    (bound : Option (Nat × FunctionRow × Option Nat)) (args origArgs : Json) :
    Writes env Calm db.core (callOutbound env db turn function bound args origArgs).2.core := by
  simp only [callOutbound]
  split
  · exact writes_refuse current _ _
  · rename_i made
    exact writes_sendRequest current (buildRequest_sound made)

theorem writes_callFunction (current : Current db turn) :
    Writes env Calm db.core (callFunction env db turn parsed).2.core := by
  simp only [callFunction]
  split
  · exact writes_callOutbound current _ _ _ _
  · split
    · exact writes_refuse current _ _
    · split
      · exact writes_callBody current _ _ _ _
      · exact writes_callOutbound current _ _ _ _

/-! ### Answers and waiting -/

theorem writes_finalAnswer (current : Current db turn) :
    Writes env Calm db.core (finalAnswer env db turn parsed).2.core := by
  simp only [finalAnswer]
  split
  · exact writes_refuse current _ _
  · rename_i answer _
    let done : TaskRow := { turn.task with
      status := .completed
      output := some (.build [("answer", .str answer)])
      stepCount := turn.task.stepCount + 1
      updatedAt := env.now }
    have answered : Writes env Calm db.core { db.core with
        tasks := db.tasks.modify turn.taskId fun _ => done
        sessions := db.sessions.modify done.sessionId fun session => { session with finalAnswer := some answer } } :=
      .single (.task done current.task ⟨rfl, rfl, rfl, rfl, rfl, rfl⟩ (live_of_running current.running) (.finish rfl)
        rfl (.answer answer rfl rfl)) trivial
    refine .trans ?_ (writes_maybeCompleteSession _)
    rw [core_updateTask_updateSession _ _ _ current.task]
    exact answered

theorem writes_awaitHuman (current : Current db turn) :
    Writes env Calm db.core (awaitHuman env db turn parsed).2.core := by
  have paused : Writes env Calm db.core (db.updateTask env turn.taskId fun task =>
      { task with status := .waitingHuman, stepCount := task.stepCount + 1 }).core :=
    writes_task _ current.task ⟨rfl, rfl, rfl, rfl, rfl, rfl⟩ (live_of_running current.running)
      (.pause current.running rfl) trivial
  exact paused

theorem writes_awaitChildren (current : Current db turn) :
    Writes env Calm db.core (awaitChildren env db turn).2.core := by
  simp only [awaitChildren]
  split
  · exact writes_refuse current _ _
  · rename_i pending
    simp only [Bool.not_eq_true, Bool.not_eq_false'] at pending
    obtain ⟨c, child, found, fits⟩ := Table.exists?_eq_true.mp pending
    simp only [Bool.and_eq_true, beq_iff_eq, Bool.not_eq_true'] at fits
    exact writes_task _ current.task ⟨rfl, rfl, rfl, rfl, rfl, rfl⟩ (live_of_running current.running)
      (.park current.running rfl found fits.1 fits.2) trivial

/-! ### Proposals and configuration -/

theorem core_queueEmbedding (agentId memoryId : Option Nat) (input : String) :
    (queueEmbedding env db agentId memoryId input).core = db.core := by
  unfold queueEmbedding
  split
  · rfl
  · simp only
    split <;> rfl

theorem core_queueAgentEmbedding (agentId : Nat) : (queueAgentEmbedding env db agentId).core = db.core := by
  unfold queueAgentEmbedding
  split
  · rfl
  · exact core_queueEmbedding _ _ _

theorem core_queueMemoryEmbedding (memoryId : Nat) : (queueMemoryEmbedding env db memoryId).core = db.core := by
  unfold queueMemoryEmbedding
  split
  · rfl
  · exact core_queueEmbedding _ _ _

/-- A change of configuration that leaves the turn's own rows readable. -/
theorem writes_applied (current : Current db' turn) (applied : Writes env Calm db.core db'.core)
    (content reply : List (String × Json)) : Writes env Calm db.core (turn.note env db' content reply).2.core :=
  applied.trans (writes_note current content reply)

theorem writes_fnSetPolicy {agentId : Nat} {prompt : Option String} {config : Option Json} {reply : Json}
    (done : fnSetPolicy db agentId prompt config = .ok (reply, db')) :
    Writes env Calm db.core db'.core ∧ db'.tasks = db.tasks := by
  simp only [fnSetPolicy] at done
  split at done
  · cases done
  · split at done
    · obtain ⟨-, rfl⟩ := Prod.mk.inj (Except.ok.inj done)
      exact ⟨.refl, rfl⟩
    · split at done
      · cases done
      · obtain ⟨-, rfl⟩ := Prod.mk.inj (Except.ok.inj done)
        refine ⟨.single (.policy (fun _ row => row.agentId == agentId) (fun _ row =>
          { row with
            systemPrompt := (nonEmpty prompt).getD _
            llmConfig := mergedConfig _ config
            generation := row.generation + 1 }) fun _ _ => ⟨rfl, rfl, rfl, rfl⟩) trivial, rfl⟩

theorem writes_fnCreateAgent {name prompt : Option String} {reply : Json}
    (done : fnCreateAgent env db name prompt = .ok (reply, db')) :
    Writes env Calm db.core db'.core ∧ db'.tasks = db.tasks := by
  simp only [fnCreateAgent] at done
  split at done
  · cases done
  · split at done
    · cases done
    · rename_i unnamed
      split at done
      · cases done
      · obtain ⟨-, rfl⟩ := Prod.mk.inj (Except.ok.inj done)
        have core := @core_queueAgentEmbedding env { db with
          agents := db.agents.insert ⟨btrim (name.getD ""), true, false, none, .adminApproval, .emptyObj⟩
          policies := db.policies.insert (newPolicy db.agents.next prompt) } db.agents.next
        have fresh : ∀ key row, db.agents.get? key = some row → row.name ≠ btrim (name.getD "") := by
          intro key row found same
          apply unnamed
          simp only [Db.agentNamed, Table.find?, List.find?_isSome]
          exact ⟨(key, row), Table.mem_rows_iff.mpr found, by simpa using same⟩
        have owner : (newPolicy db.agents.next prompt).agentId = db.agents.next := by
          unfold newPolicy
          split <;> rfl
        constructor
        · rw [show (Db.audit _ _ _).core = (queueAgentEmbedding env _ db.agents.next).core from rfl, core]
          exact .single (.newAgent _ _ fresh rfl owner) trivial
        · exact congrArg Core.tasks core

theorem writes_applyFix {kind : FixKind} {target : Nat} {detail reply : Json}
    (done : applyFix db kind target detail = .ok (reply, db')) :
    Writes env Calm db.core db'.core ∧ db'.tasks = db.tasks := by
  cases kind with
  | revokePermission =>
    obtain ⟨-, rfl⟩ := Prod.mk.inj (Except.ok.inj done)
    exact ⟨.refl, rfl⟩
  | deactivateAgent =>
    simp only [applyFix, fnSetAgentActive] at done
    split at done
    · cases done
    · obtain ⟨-, rfl⟩ := Prod.mk.inj (Except.ok.inj done)
      exact ⟨.single (.agent target (fun agent => { agent with isActive := false }) fun _ => ⟨rfl, rfl⟩) trivial,
        rfl⟩

/-! ### `delegate` -/

/-- What the action of one turn may single out: a child or a memory of the turn's own task,
written to tables that the transaction has not changed before. -/
def Acting (db : Db) (t : Nat) (env : Env) (parsed : Json) : Mark → Core → Prop
  | .turn, _ | .fire _, _ | .start _, _ | .bill _, _ => False
  | .spawn parent _, σ => parent = t ∧ σ.tasks = db.tasks ∧ σ.policies = db.policies
  | .remember source memory, σ => source = t ∧ σ.tasks = db.tasks ∧ σ.agents = db.agents ∧
      σ.sessions = db.sessions ∧ σ.memories = db.memories ∧
      memory.subjectId = nonEmpty (some (btrim ((parsed.getText? "subject_id").getD ""))) ∧
      memory.expiresAt = expiryAfter env (parsed.getText? "expires_in_days") ∧ memory.createdAt = env.now
  | _, _ => True

theorem Acting.of_calm {t : Nat} (mark : Mark) (σ : Core) (calm : Calm mark σ) : Acting db t env parsed mark σ := by
  cases mark with
  | turn | fire | start | spawn | remember | bill => exact calm.elim
  | _ => trivial

theorem ancestorAgents_eq (db : Db) (fuel t : Nat) : ancestorAgents db fuel t = lineage db.tasks fuel t := by
  induction fuel generalizing t with
  | zero => rfl
  | succ fuel ih =>
    simp only [ancestorAgents, lineage]
    rcases db.tasks.get? t with _ | task
    · rfl
    · dsimp only
      rcases task.parentTaskId with _ | parent
      · rfl
      · dsimp only
        rw [ih]

/-- The child that `delegate` creates. -/
def childOf (env : Env) (turn : Turn) (parsed : Json) (target : Nat) : TaskRow where
  sessionId := turn.task.sessionId
  agentId := target
  parentTaskId := some turn.taskId
  status := .queued
  stepCount := 0
  input := (parsed.get? "input").getD .emptyObj
  output := none
  error := none
  createdAt := env.now
  updatedAt := env.now
  startedAt := none
  delegationDepth := turn.task.delegationDepth + 1
  policyGeneration := none
  functionOverrideState := none

theorem born_of_allowed (current : Current db turn) {name : Option String} {target : Nat} {agent : AgentRow}
    (found : db.agents.get? target = some agent) (allowed : delegateRefusal env db turn name target = none) :
    Born db.core turn.taskId turn.task (childOf env turn parsed target) := by
  have policy : policyIn db.core.policies turn.task.agentId = turn.policy := current.policy.symm
  simp only [delegateRefusal] at allowed
  split at allowed
  · cases allowed
  · split at allowed
    · cases allowed
    · rename_i shallow
      split at allowed
      · cases allowed
      · rename_i stranger
        split at allowed
        · cases allowed
        · rename_i few
          refine ⟨current.task, current.running, rfl, rfl, rfl, rfl, ?_, ?_, ?_, ?_⟩
          · have apart : target ∉ ancestorAgents db db.tasks.rows.length turn.taskId := by simpa using stranger
            rwa [ancestorAgents_eq] at apart
          · exact Option.isSome_of_eq_some found
          · intro row here
            rw [← policy, here] at shallow
            simpa [childOf] using shallow
          · intro row here
            rw [← policy, here] at few
            exact Nat.not_le.mp fun full => few (decide_eq_true full)

theorem writes_spawnChild (current : Current db turn) {name : Option String} {target : Nat} {agent : AgentRow}
    {wait : Bool} (found : db.agents.get? target = some agent)
    (allowed : delegateRefusal env db turn name target = none) :
    Writes env (Acting db turn.taskId env parsed) db.core (spawnChild env db turn parsed target wait).2.core := by
  have spawned : Writes env (Acting db turn.taskId env parsed) db.core
      (db.insertTask env turn.task.sessionId target (some turn.taskId) ((parsed.get? "input").getD .emptyObj)
        (turn.task.delegationDepth + 1) none).core :=
    .single (.spawn (childOf env turn parsed target) (born_of_allowed current found allowed)) ⟨rfl, rfl, rfl⟩
  have parent := Table.get?_insert_old (childOf env turn parsed target) current.task
  have live := live_of_running current.running
  simp only [spawnChild]
  refine spawned.trans (Path.mono Acting.of_calm ?_)
  split
  · exact writes_bumpStep (db.insertTask env turn.task.sessionId target (some turn.taskId) _ _ none) parent live
  · exact @writes_finish env (db.insertTask env turn.task.sessionId target (some turn.taskId) _ _ none)
      turn.taskId turn.task _ parent ⟨rfl, rfl, rfl, rfl, rfl, rfl⟩ live rfl

theorem writes_delegate (current : Current db turn) {reply : Json} (done : delegate env db turn parsed = .ok (reply, db')) :
    Writes env (Acting db turn.taskId env parsed) db.core db'.core := by
  simp only [delegate] at done
  split at done
  · obtain rfl := congrArg Prod.snd (Except.ok.inj done)
    exact (writes_refuse current _ _).mono Acting.of_calm
  · rename_i target agent chosen
    have found := (Table.find?_some chosen).1
    split at done
    · obtain rfl := congrArg Prod.snd (Except.ok.inj done)
      exact (writes_refuse current _ _).mono Acting.of_calm
    · rename_i allowed
      split at done
      · cases done
      · obtain rfl := congrArg Prod.snd (Except.ok.inj done)
        exact writes_spawnChild current found allowed

/-! ### Proposals and memories -/

theorem core_autoApply {functionId id : Nat} {cap slack : Int} {op : ExperimentOp}
    (done : autoApply env db turn parsed functionId cap slack op = .ok (some (id, db'))) : db'.core = db.core := by
  cases op with
  | start percent =>
    simp only [autoApply] at done
    split at done
    · split at done
      · cases done
      · split at done
        · cases done
        · rename_i started
          obtain ⟨-, rfl⟩ := Prod.mk.inj (Option.some.inj (Except.ok.inj done))
          simp only [applyFunctionExperimentStart] at started
          split at started
          · cases started
          · split at started
            · cases started
            · split at started
              · cases started
              · obtain ⟨-, rfl⟩ := Prod.mk.inj (Except.ok.inj started)
                rfl
    · cases done
  | promote experimentId experiment =>
    simp only [autoApply] at done
    split at done
    · split at done
      · cases done
      · rename_i promoted
        obtain ⟨-, rfl⟩ := Prod.mk.inj (Option.some.inj (Except.ok.inj done))
        simp only [applyFunctionExperimentPromote] at promoted
        split at promoted
        · cases promoted
        · split at promoted
          · cases promoted
          · obtain rfl := Except.ok.inj promoted
            rfl
    · cases done
  | reject experimentId =>
    simp only [autoApply] at done
    split at done
    · obtain ⟨-, rfl⟩ := Prod.mk.inj (Option.some.inj (Except.ok.inj done))
      rfl
    · cases done

theorem writes_overrideFunction (current : Current db turn) {functionId : Nat} {op : ExperimentOp} {reply : Json}
    (done : overrideFunction env db turn parsed functionId op = .ok (reply, db')) :
    Writes env Calm db.core db'.core := by
  simp only [overrideFunction] at done
  split at done
  · cases done
  · split at done
    · cases done
    · split at done
      · cases done
      · rename_i applied
        obtain rfl := congrArg Prod.snd (Except.ok.inj done)
        exact writes_noted current (core_autoApply applied) _ _
      · obtain rfl := congrArg Prod.snd (Except.ok.inj done)
        refine writes_noted current ?_ _ _
        rfl

theorem writes_proposeOverride (current : Current db turn) {reply : Json}
    (done : proposeOverride env db turn parsed = .ok (reply, db')) : Writes env Calm db.core db'.core := by
  simp only [proposeOverride] at done
  split at done
  · obtain rfl := congrArg Prod.snd (Except.ok.inj done)
    exact writes_refuse current _ _
  · split at done
    · cases done
    · split at done
      · obtain rfl := congrArg Prod.snd (Except.ok.inj done)
        exact writes_refuse current _ _
      · split at done
        · cases done
        · obtain rfl := congrArg Prod.snd (Except.ok.inj done)
          exact writes_refuse current _ _
        · exact writes_overrideFunction current done

/-- The turn's own task is all that counting the step needs. -/
theorem writes_settled (current : Current db turn) (applied : Writes env Calm db.core db'.core)
    (tasks : db'.tasks = db.tasks) (content reply : List (String × Json)) :
    Writes env Calm db.core (turn.note env db' content reply).2.core := by
  have here : (turn.log env db' .assistant (.build content)).tasks.get? turn.taskId = some turn.task := by
    rw [← current.task, ← tasks]
    rfl
  exact (applied.trans (writes_log _ _ _ _)).trans
    (writes_bumpStep (turn.log env db' .assistant (.build content)) here (live_of_running current.running))

theorem writes_changePolicy (current : Current db turn) {changes reply : Json} {target : Nat}
    (done : changePolicy env db turn parsed changes target = .ok (reply, db')) :
    Writes env Calm db.core db'.core := by
  simp only [changePolicy] at done
  split at done
  · split at done
    · cases done
    · rename_i applied
      obtain rfl := congrArg Prod.snd (Except.ok.inj done)
      obtain ⟨writes, tasks⟩ := writes_fnSetPolicy applied
      exact writes_settled current writes tasks _ _
  · split at done
    · obtain rfl := congrArg Prod.snd (Except.ok.inj done)
      exact writes_note current _ _
    · obtain rfl := congrArg Prod.snd (Except.ok.inj done)
      refine writes_noted current ?_ _ _
      rfl

theorem writes_changeTarget (current : Current db turn) {changes : Json} {refused : Json × Db}
    (done : changeTarget env db turn parsed changes = .ok (.error refused)) :
    Writes env Calm db.core refused.2.core := by
  simp only [changeTarget] at done
  split at done
  · cases done
  · split at done
    · obtain rfl := Except.error.inj (Except.ok.inj done)
      exact writes_refuse current _ _
    · split at done
      · cases done
      · cases done
      · split at done
        · cases done
        · obtain rfl := Except.error.inj (Except.ok.inj done)
          exact writes_refuse current _ _

theorem writes_proposeChange (current : Current db turn) {reply : Json}
    (done : proposeChange env db turn parsed = .ok (reply, db')) : Writes env Calm db.core db'.core := by
  simp only [proposeChange] at done
  split at done
  · exact writes_proposeOverride current done
  · split at done
    · obtain rfl := congrArg Prod.snd (Except.ok.inj done)
      exact writes_refuse current _ _
    · split at done
      · obtain rfl := congrArg Prod.snd (Except.ok.inj done)
        exact writes_refuse current _ _
      · split at done
        · cases done
        · rename_i refusal
          obtain rfl := Except.ok.inj done
          exact writes_changeTarget current refusal
        · exact writes_changePolicy current done

theorem writes_createAgent (current : Current db turn) {reply : Json}
    (done : createAgent env db turn parsed = .ok (reply, db')) : Writes env Calm db.core db'.core := by
  simp only [createAgent] at done
  split at done
  · obtain rfl := congrArg Prod.snd (Except.ok.inj done)
    exact writes_refuse current _ _
  · split at done
    · obtain rfl := congrArg Prod.snd (Except.ok.inj done)
      exact writes_refuse current _ _
    · split at done
      · split at done
        · cases done
        · rename_i created
          obtain rfl := congrArg Prod.snd (Except.ok.inj done)
          obtain ⟨writes, tasks⟩ := writes_fnCreateAgent created
          exact writes_settled current writes tasks _ _
      · obtain rfl := congrArg Prod.snd (Except.ok.inj done)
        refine writes_noted current ?_ _ _
        rfl

theorem core_fnCreateFunction {name description body : Option String} {schema reply : Json} {author : Option Nat}
    (done : fnCreateFunction env db name description body schema author = .ok (reply, db')) : db'.core = db.core := by
  simp only [fnCreateFunction] at done
  split at done
  · cases done
  · split at done
    · cases done
    · split at done
      · cases done
      · split at done
        · cases done
        · obtain ⟨-, rfl⟩ := Prod.mk.inj (Except.ok.inj done)
          rfl

theorem core_fnUpdateFunction {functionId : Nat} {description body : Option String} {schema : Option Json} {reply : Json}
    (done : fnUpdateFunction env db functionId description body schema = .ok (reply, db')) : db'.core = db.core := by
  simp only [fnUpdateFunction] at done
  split at done
  · cases done
  · split at done
    · cases done
    · split at done
      · cases done
      · obtain ⟨-, rfl⟩ := Prod.mk.inj (Except.ok.inj done)
        rfl

theorem writes_createFunction (current : Current db turn) :
    Writes env Calm db.core (createFunction env db turn parsed).2.core := by
  simp only [createFunction]
  split
  · exact writes_refuse current _ _
  · split
    · split
      · exact writes_refuse current _ _
      · rename_i created
        exact writes_noted current (core_fnCreateFunction created) _ _
    · refine writes_noted current ?_ _ _
      rfl

theorem writes_updateFunction (current : Current db turn) {reply : Json}
    (done : updateFunction env db turn parsed = .ok (reply, db')) : Writes env Calm db.core db'.core := by
  simp only [updateFunction] at done
  split at done
  · cases done
  · split at done
    · obtain rfl := congrArg Prod.snd (Except.ok.inj done)
      exact writes_refuse current _ _
    · obtain rfl := congrArg Prod.snd (Except.ok.inj done)
      simp only [editFunction]
      split
      · split
        · exact writes_refuse current _ _
        · rename_i updated
          exact writes_noted current (core_fnUpdateFunction updated) _ _
      · refine writes_noted current ?_ _ _
        rfl

theorem writes_proposeFix (current : Current db turn) {reply : Json}
    (done : proposeFix env db turn parsed = .ok (reply, db')) : Writes env Calm db.core db'.core := by
  simp only [proposeFix] at done
  split at done
  · obtain rfl := congrArg Prod.snd (Except.ok.inj done)
    exact writes_refuse current _ _
  · split at done
    · obtain rfl := congrArg Prod.snd (Except.ok.inj done)
      exact writes_refuse current _ _
    · split at done
      · cases done
      · split at done
        · obtain rfl := congrArg Prod.snd (Except.ok.inj done)
          exact writes_refuse current _ _
        · simp only [fixAgent] at done
          split at done
          · split at done
            · cases done
            · rename_i applied
              obtain rfl := congrArg Prod.snd (Except.ok.inj done)
              obtain ⟨writes, tasks⟩ := writes_applyFix applied
              exact writes_settled current writes tasks _ _
          · obtain rfl := congrArg Prod.snd (Except.ok.inj done)
            refine writes_noted current ?_ _ _
            rfl

/-- Queueing an embedding does not get in the way of the eviction. -/
theorem core_stored (memory : MemoryRow) (agentId : Nat) :
    ({ queueMemoryEmbedding env { db with memories := db.memories.insert memory } db.memories.next with
      memories := evictMemories
        (queueMemoryEmbedding env { db with memories := db.memories.insert memory } db.memories.next).memories
        agentId } : Db).core =
      { db.core with memories := evictMemories (db.memories.insert memory) agentId } := by
  have core := @core_queueMemoryEmbedding env { db with memories := db.memories.insert memory } db.memories.next
  generalize queueMemoryEmbedding env { db with memories := db.memories.insert memory } db.memories.next = queued at core ⊢
  have same : queued.memories = db.memories.insert memory := congrArg Core.memories core
  rw [same]
  exact congrArg (fun σ : Core => { σ with memories := evictMemories (db.memories.insert memory) agentId }) core

theorem writeMemory_core {agentId memoryId : Nat}
    {content memoryType importance subjectId expiresInDays : Option String} {session source : Option Nat} {kind : String}
    (done : writeMemory env db agentId content memoryType importance subjectId expiresInDays session source =
      .ok (memoryId, kind, db')) :
    ∃ memory : MemoryRow, memory.agentId = agentId ∧ memory.sourceTaskId = source ∧
      memory.subjectId = nonEmpty (some (btrim (subjectId.getD ""))) ∧
      memory.expiresAt = expiryAfter env expiresInDays ∧ memory.createdAt = env.now ∧
      db'.core = { db.core with memories := evictMemories (db.memories.insert memory) agentId } := by
  unfold writeMemory at done
  dsimp only at done
  split at done
  · cases done
  · split at done
    · cases done
    · simp only [Except.ok.injEq, Prod.mk.injEq] at done
      obtain ⟨-, -, rfl⟩ := done
      refine ⟨_, ?_, ?_, ?_, ?_, ?_, core_stored _ agentId⟩
      all_goals dsimp only

/-- The cut-off that a turn moves, if it can be read. -/
theorem moveCutoff_core (done : moveCutoff env db turn = .ok db') :
    ∃ cutoff, (∀ s, cutoffTarget turn.agent turn.task = some s → (db.core.sessions.get? s).isSome →
        castOr "timestamp with time zone" env.pg.timestamptzIn (cutoffText turn.task) = .ok cutoff) ∧
      db'.core = { db.core with
        sessions := movedSessions db.core.sessions (cutoffTarget turn.agent turn.task) cutoff } := by
  simp only [moveCutoff] at done
  unfold cutoffTarget
  split at done
  · rename_i compactor
    rw [if_pos compactor]
    rcases text : turn.task.input.getText? "target_session_id" with _ | target
    · simp only [text, castOr] at done
      obtain rfl := Except.ok.inj done
      refine ⟨none, ?_, rfl⟩
      intro s impossible
      cases impossible
    · simp only [text, castOr] at done
      rcases uuid : toUuid target with _ | s
      · simp only [uuid] at done
        cases done
      · simp only [uuid] at done
        rw [Option.bind_some, uuid]
        split at done
        · rename_i missing
          obtain rfl := Except.ok.inj done
          have absent : db.core.sessions.get? s = none := Option.isNone_iff_eq_none.mp missing
          refine ⟨none, ?_, ?_⟩
          · intro other same present
            obtain rfl := Option.some.inj same
            rw [absent] at present
            cases present
          · simp only [movedSessions]
            rw [Table.modify_absent _ absent]
        · split at done
          · cases done
          · rename_i cutoff read
            obtain rfl := Except.ok.inj done
            exact ⟨cutoff, fun _ _ _ => read, rfl⟩
  · rename_i other
    rw [if_neg other]
    obtain rfl := Except.ok.inj done
    refine ⟨none, ?_, rfl⟩
    intro s impossible
    cases impossible

theorem core_note (found : db.tasks.get? turn.taskId = some turn.task) (content reply : List (String × Json)) :
    (turn.note env db content reply).2.core = { db.core with
      logs := db.core.logs ++ [⟨turn.taskId, turn.task.stepCount + 1, .assistant, .build content, env.now⟩]
      tasks := db.core.tasks.modify turn.taskId fun _ =>
        { turn.task with stepCount := turn.task.stepCount + 1, updatedAt := env.now } } :=
  @core_updateTask env (turn.log env db .assistant (.build content)) turn.taskId turn.task
    (fun row => { row with stepCount := row.stepCount + 1 }) found

theorem writes_remember (current : Current db turn) {reply : Json}
    (done : remember env db turn parsed = .ok (reply, db')) :
    Writes env (Acting db turn.taskId env parsed) db.core db'.core := by
  simp only [remember] at done
  split at done
  · obtain rfl := congrArg Prod.snd (Except.ok.inj done)
    exact (writes_refuse current _ _).mono Acting.of_calm
  · rename_i memoryId memoryType stored written
    obtain ⟨memory, agent, source, subject, expires, created, core⟩ := writeMemory_core written
    split at done
    · cases done
    · rename_i moved
      obtain rfl := congrArg Prod.snd (Except.ok.inj done)
      obtain ⟨cutoff, readable, after⟩ := moveCutoff_core moved
      rw [core_note (by rw [show stored.tasks = db.tasks from congrArg Core.tasks core, current.task]), core]
        at after readable
      have remembered : Writes env (Acting db turn.taskId env parsed) db.core _ :=
        .single (.remember memory cutoff current.task current.running current.agent agent source readable)
          ⟨rfl, rfl, rfl, rfl, rfl, subject, expires, created⟩
      have logged (σ : Core) : Writes env Calm σ { σ with
          logs := σ.logs ++ [⟨turn.taskId, turn.task.stepCount + 1, .assistant, .build [("remembered", idJson memoryId),
            ("memory_type", .str memoryType)], env.now⟩] } := .single (.log _) trivial
      have counted (σ : Core) (found : σ.tasks.get? turn.taskId = some turn.task) : Writes env Calm σ { σ with
          tasks := σ.tasks.modify turn.taskId fun _ =>
            { turn.task with stepCount := turn.task.stepCount + 1, updatedAt := env.now } } :=
        .single (.task _ found ⟨rfl, rfl, rfl, rfl, rfl, rfl⟩ (live_of_running current.running) (.stay rfl) rfl .none) trivial
      -- The cut-off may as well be moved before the step is logged and counted.
      rw [after]
      refine (remembered.trans ((logged _).mono Acting.of_calm)).trans (Path.mono Acting.of_calm ?_)
      exact counted _ current.task

/-! ### `fn_submit_result` -/

theorem writes_act (current : Current db turn) {action : Action} {reply : Json}
    (done : act env db turn parsed action = .ok (reply, db')) :
    Writes env (Acting db turn.taskId env parsed) db.core db'.core := by
  cases action with
  | delegate => exact writes_delegate current done
  | remember => exact writes_remember current done
  | proposeChange => exact (writes_proposeChange current done).mono Acting.of_calm
  | createAgent => exact (writes_createAgent current done).mono Acting.of_calm
  | updateFunction => exact (writes_updateFunction current done).mono Acting.of_calm
  | proposeFix => exact (writes_proposeFix current done).mono Acting.of_calm
  | finalAnswer =>
    obtain rfl := congrArg Prod.snd (Except.ok.inj done)
    exact (writes_finalAnswer current).mono Acting.of_calm
  | executeSql =>
    obtain rfl := congrArg Prod.snd (Except.ok.inj done)
    exact (writes_executeSql current).mono Acting.of_calm
  | callFunction =>
    obtain rfl := congrArg Prod.snd (Except.ok.inj done)
    exact (writes_callFunction current).mono Acting.of_calm
  | runProcedure =>
    obtain rfl := congrArg Prod.snd (Except.ok.inj done)
    exact (writes_runProcedure current).mono Acting.of_calm
  | searchAgents =>
    obtain rfl := congrArg Prod.snd (Except.ok.inj done)
    exact (writes_embedQuery current _ _ _).mono Acting.of_calm
  | recallMemories =>
    obtain rfl := congrArg Prod.snd (Except.ok.inj done)
    exact (writes_embedQuery current _ _ _).mono Acting.of_calm
  | awaitHuman =>
    obtain rfl := congrArg Prod.snd (Except.ok.inj done)
    exact (writes_awaitHuman current).mono Acting.of_calm
  | createFunction =>
    obtain rfl := congrArg Prod.snd (Except.ok.inj done)
    exact (writes_createFunction current).mono Acting.of_calm
  | awaitChildren =>
    obtain rfl := congrArg Prod.snd (Except.ok.inj done)
    exact (writes_awaitChildren current).mono Acting.of_calm

theorem Current.log (current : Current db turn) (role : Role) (content : Json) :
    Current (turn.log env db role content) turn :=
  ⟨current.task, current.running, current.agent, current.policy⟩

theorem Acting.of_log {t : Nat} {role : Role} {content : Json} (mark : Mark) (σ : Core)
    (acting : Acting (turn.log env db role content) t env parsed mark σ) : Acting db t env parsed mark σ := by
  cases mark with
  | start => exact acting.elim
  | spawn | remember => exact acting
  | _ => trivial

theorem writes_submitReply (current : Current db turn) {payload reply : Json}
    (done : submitReply env db turn payload = .ok (reply, db')) :
    Writes env (Acting db turn.taskId env ((parsedReply payload).getD .null)) db.core db'.core := by
  simp only [submitReply] at done
  have logged := @writes_log env db turn.taskId (turn.task.stepCount + 1) .assistant
    (.str ((payload.getText? "content").getD ""))
  have still := @Current.log env db turn current .assistant (.str ((payload.getText? "content").getD ""))
  refine (logged.mono Acting.of_calm).trans ?_
  split at done
  · obtain rfl := congrArg Prod.snd (Except.ok.inj done)
    exact (writes_refuse still _ _).mono Acting.of_calm
  · exact (writes_act still done).mono Acting.of_log

theorem writes_submitError (current : Current db turn) (payload : Json) :
    Writes env Calm db.core (submitError env db turn payload).2.core := by
  simp only [submitError]
  have live := live_of_running current.running
  have logged : Writes env Calm db.core (turn.log env db .error (.build [("message",
      .str ((payload.getText? "message").getD "error"))])).core := writes_log _ _ _ _
  have counted := logged.trans (writes_bumpStep _ current.task live)
  split
  · have found := @get?_bumpStep (turn.log env db .error (.build [("message",
      .str ((payload.getText? "message").getD "error"))])) env turn.taskId turn.task current.task
    have failed := counted.trans (writes_finish (fun task =>
      { task with status := .failed, error := some ((payload.getText? "message").getD "error") })
      found ⟨rfl, rfl, rfl, rfl, rfl, rfl⟩ live rfl)
    exact failed.trans (writes_maybeCompleteSession _)
  · exact counted

theorem writes_submitValue (current : Current db turn) (role : Role) (payload : Json) :
    Writes env Calm db.core (submitValue role env db turn payload).2.core :=
  (writes_log _ _ _ _).trans (writes_bumpStep (turn.log env db role ((payload.get? "content").getD .emptyObj))
    current.task (live_of_running current.running))

/-- What a submitted payload may make the task single out. -/
def Submitting (env : Env) (db : Db) (t : Nat) (payload : Json) : Mark → Core → Prop :=
  if payload.getText? "type" = some "llm_response" then Acting db t env ((parsedReply payload).getD .null) else Calm

theorem writes_submitPayload (current : Current db turn) {payload reply : Json}
    (done : submitPayload env db turn payload = .ok (reply, db')) :
    Writes env (Submitting env db turn.taskId payload) db.core db'.core := by
  unfold Submitting
  simp only [submitPayload] at done
  split at done
  · rename_i type
    obtain rfl := congrArg Prod.snd (Except.ok.inj done)
    rw [if_neg (by rw [type]; decide)]
    exact writes_submitError current payload
  · rename_i type
    obtain rfl := congrArg Prod.snd (Except.ok.inj done)
    rw [if_neg (by rw [type]; decide)]
    exact writes_submitValue current .function payload
  · rename_i type
    obtain rfl := congrArg Prod.snd (Except.ok.inj done)
    rw [if_neg (by rw [type]; decide)]
    exact writes_submitValue current .procedure payload
  · rename_i type
    rw [if_pos type]
    exact writes_submitReply current done
  · rename_i other
    obtain rfl := congrArg Prod.snd (Except.ok.inj done)
    rw [if_neg other]
    exact (writes_log _ _ _ _).trans (writes_bumpStep (db.appendLog env turn.taskId turn.task.stepCount .error _)
      current.task (live_of_running current.running))

theorem writes_fnSubmitResult {t : Nat} {payload reply : Json}
    (done : fnSubmitResult env db t payload = .ok (reply, db')) :
    Writes env (Submitting env db t payload) db.core db'.core := by
  simp only [fnSubmitResult] at done
  split at done
  · cases done
  · rename_i task found
    split at done
    · cases done
    · rename_i running
      have running : task.status = .running := not_not.mp running
      split at done
      · obtain rfl := congrArg Prod.snd (Except.ok.inj done)
        have failed := @writes_failTask env db t task task "agent_inactive"
          [("reason", .str "agent_inactive"), ("discarded", .bool true)] found (live_of_running running)
        refine failed.mono ?_
        intro mark σ calm
        unfold Submitting
        split
        · exact Acting.of_calm mark σ calm
        · exact calm
      · rename_i agent chosen
        have enrolled := (Option.filter_eq_some_iff.mp chosen).1
        exact @writes_submitPayload env db db' ⟨t, task, agent, db.policyOf task.agentId⟩
          ⟨found, running, enrolled, rfl⟩ payload reply done

end Allgres
