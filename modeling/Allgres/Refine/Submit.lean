import Allgres.Refine.Queues

/-! Every way `fn_submit_result` ends is an effect of the protocol. -/

namespace Allgres

open Relational Jsonb Sql

/-- What the turn did to the tables is an effect of its task. -/
def Acts (turn : Turn) (db db' : Db) : Prop :=
  Flow.Effect turn.taskId turn.task.view db.flow db'.flow

variable {db db' : Db} {env : Env} {turn : Turn}

theorem Acts.of_quiet (quiet : Quiet db db') {after : Db} (acts : Acts turn db' after) : Acts turn db after := by
  unfold Acts at acts ⊢
  rw [← quiet.flow]
  exact acts

theorem Acts.then_quiet {after last : Db} (acts : Acts turn db after) (quiet : Quiet after last) :
    Acts turn db last := by
  unfold Acts at acts ⊢
  rw [quiet.flow]
  exact acts

/-- An action that returned is as its result is. -/
theorem Acts.of_ok {result : Json × Db} {reply : Json} (acts : Acts turn db result.2)
    (done : (Except.ok result : Except String (Json × Db)) = .ok (reply, db')) : Acts turn db db' := by
  obtain rfl := Except.ok.inj done
  exact acts

/-! ### The endings that many actions share -/

theorem get?_bumpStep (env : Env) {t : Nat} {task : TaskRow} (found : db.tasks.get? t = some task) :
    (db.bumpStep env t).tasks.get? t = some { task with stepCount := task.stepCount + 1, updatedAt := env.now } := by
  rw [Db.bumpStep, get?_updateTask _ found, if_pos rfl]

theorem bumpStep_acts (found : db.tasks.get? turn.taskId = some turn.task) :
    Acts turn db (db.bumpStep env turn.taskId) := by
  unfold Acts Db.bumpStep
  rw [flow_updateTask _ found]
  exact .proceed

theorem refuse_acts (found : db.tasks.get? turn.taskId = some turn.task) (content reply : List (String × Json)) :
    Acts turn db (turn.refuse env db content reply).2 :=
  Acts.of_quiet (Quiet.of_appendLog _ _ _ _) (bumpStep_acts found)

/-- A change of the configuration that ends in a note. -/
theorem note_acts (quiet : Quiet db db') (found : db.tasks.get? turn.taskId = some turn.task)
    (content reply : List (String × Json)) : Acts turn db (turn.note env db' content reply).2 := by
  have logged : Quiet db (turn.log env db' .assistant (.build content)) := quiet.trans (Quiet.of_appendLog _ _ _ _)
  exact Acts.of_quiet logged (bumpStep_acts (by rw [logged.tasks]; exact found))

theorem call_acts {inserted : Db} {k : CallKey} (tasks : inserted.tasks = db.tasks)
    (flow : inserted.flow = db.flow.addCall k turn.taskId false) (fresh : db.flow.call k = none)
    (found : db.tasks.get? turn.taskId = some turn.task) :
    Acts turn db (inserted.bumpStep env turn.taskId) := by
  unfold Acts Db.bumpStep
  rw [flow_updateTask _ (by rw [tasks]; exact found), flow]
  exact .queue k fresh

/-! ### Actions that queue a call -/

theorem executeSql_acts (found : db.tasks.get? turn.taskId = some turn.task) (parsed : Json) :
    Acts turn db (executeSql env db turn parsed).2 := by
  unfold executeSql
  split
  · exact refuse_acts found _ _
  · exact call_acts rfl (flow_insertSql _ _) (flow_call_next .sql) found

theorem withIdempotencyKey_kind (t : Nat) (request : Request) :
    (withIdempotencyKey env t request).kind = request.kind := by
  unfold withIdempotencyKey
  split <;> rfl

theorem mcpRequest_kind {t : Nat} {bound : Option FunctionRow} {args origArgs : Json} {request : Request}
    (built : mcpRequest env db t bound args origArgs = .ok request) : request.kind = .mcp := by
  unfold mcpRequest at built
  split at built
  · cases built
  · split at built
    · cases built
    · obtain rfl := Except.ok.inj built
      rw [withIdempotencyKey_kind]

theorem httpRequest_kind {t : Nat} {args : Json} {request : Request}
    (built : httpRequest env db t args = .ok request) : request.kind = .function := by
  unfold httpRequest at built
  dsimp only at built
  split at built
  · cases built
  · split at built
    · cases built
    · obtain rfl := Except.ok.inj built
      split
      · rw [withIdempotencyKey_kind]
      · rfl

theorem buildRequest_kind {t : Nat} {function : Option String} {bound : Option FunctionRow} {args origArgs : Json}
    {request : Request} (built : buildRequest env db t function bound args origArgs = .ok request) :
    (request.kind == .llm) = false := by
  unfold buildRequest at built
  split at built
  · obtain rfl := Except.ok.inj built
    rfl
  · rw [mcpRequest_kind built]
    rfl
  · rw [httpRequest_kind built]
    rfl
  · cases built

theorem sendRequest_acts (found : db.tasks.get? turn.taskId = some turn.task) (function : Option String)
    (bound : Option (Nat × Option Nat)) (args : Json) {request : Request}
    (kind : (request.kind == .llm) = false) :
    Acts turn db (sendRequest env db turn function bound args request).2 := by
  unfold sendRequest
  split
  · exact refuse_acts found _ _
  · dsimp only
    split
    · exact refuse_acts found _ _
    · refine call_acts rfl ?_ (flow_call_next .outbound) found
      rw [flow_insertOutbound]
      exact congrArg _ kind

theorem callOutbound_acts (found : db.tasks.get? turn.taskId = some turn.task) (function : Option String)
    (bound : Option (Nat × FunctionRow × Option Nat)) (args origArgs : Json) :
    Acts turn db (callOutbound env db turn function bound args origArgs).2 := by
  unfold callOutbound
  split
  · exact refuse_acts found _ _
  · rename_i request built
    exact sendRequest_acts found _ _ _ (buildRequest_kind built)

theorem callBody_acts (found : db.tasks.get? turn.taskId = some turn.task) (name : Option String) (functionId : Nat)
    (function : FunctionRow) (args : Json) : Acts turn db (callBody env db turn name functionId function args).2 := by
  unfold callBody
  split
  · exact refuse_acts found _ _
  · exact call_acts rfl (flow_insertFunctionCall _ _) (flow_call_next .function) found

theorem callFunction_acts (found : db.tasks.get? turn.taskId = some turn.task) (parsed : Json) :
    Acts turn db (callFunction env db turn parsed).2 := by
  unfold callFunction
  dsimp only
  split
  · exact callOutbound_acts found _ _ _ _
  · split
    · exact refuse_acts found _ _
    · split
      · exact callBody_acts found _ _ _ _
      · exact callOutbound_acts found _ _ _ _

theorem runProcedure_acts (found : db.tasks.get? turn.taskId = some turn.task) (parsed : Json) :
    Acts turn db (runProcedure env db turn parsed).2 := by
  unfold runProcedure
  dsimp only
  split
  · exact refuse_acts found _ _
  · split
    · exact refuse_acts found _ _
    · split
      · exact refuse_acts found _ _
      · exact call_acts rfl (flow_insertProcedureCall _ _) (flow_call_next .procedure) found

theorem embedQuery_acts (found : db.tasks.get? turn.taskId = some turn.task) {kind : CallKind}
    (other : (kind == .llm) = false) (action missing : String) (parsed : Json) :
    Acts turn db (embedQuery kind action missing env db turn parsed).2 := by
  unfold embedQuery
  split
  · exact refuse_acts found _ _
  · split
    · exact refuse_acts found _ _
    · dsimp only
      split
      · exact refuse_acts found _ _
      · refine call_acts rfl ?_ (flow_call_next .outbound) found
        rw [flow_insertOutbound]
        exact congrArg _ other

theorem searchAgents_acts (found : db.tasks.get? turn.taskId = some turn.task) (parsed : Json) :
    Acts turn db (searchAgents env db turn parsed).2 := by
  unfold searchAgents
  exact embedQuery_acts found rfl _ _ _

theorem recallMemories_acts (found : db.tasks.get? turn.taskId = some turn.task) (parsed : Json) :
    Acts turn db (recallMemories env db turn parsed).2 := by
  unfold recallMemories
  exact embedQuery_acts found rfl _ _ _

/-! ### Actions that end, hand on or park the task -/

theorem maybeCompleteSession_closes_of {s : Nat} {σ : Flow Left} (flow : db.flow = σ) :
    Flow.Closes s σ (maybeCompleteSession env db s).flow := by
  rw [← flow]
  exact maybeCompleteSession_closes s

theorem finalAnswer_acts (found : db.tasks.get? turn.taskId = some turn.task) (parsed : Json) :
    Acts turn db (finalAnswer env db turn parsed).2 := by
  unfold finalAnswer
  dsimp only
  split
  · exact refuse_acts found _ _
  · rename_i answer _
    refine .complete (some (.build [("answer", .str answer)]), turn.task.error) (maybeCompleteSession_closes_of ?_)
    refine (flow_updateSession_same _ _ ?_).trans ?_
    · intro session
      rfl
    · rw [flow_updateTask _ found]
      rfl

theorem spawnChild_acts (found : db.tasks.get? turn.taskId = some turn.task) (parsed : Json) (target : Nat)
    (wait : Bool) : Acts turn db (spawnChild env db turn parsed target wait).2 := by
  have below := Table.get?_lt_next found
  have different : db.tasks.next ≠ turn.taskId := by omega
  unfold spawnChild Acts
  dsimp only
  have still : (db.insertTask env turn.task.sessionId target (some turn.taskId)
      ((parsed.get? "input").getD .emptyObj) (turn.task.delegationDepth + 1) none).tasks.get? turn.taskId =
      some turn.task := Table.get?_insert_old _ found
  split
  · unfold Db.bumpStep
    rw [flow_updateTask _ still, flow_insertTask]
    exact .spawn _ _ flow_task_next different
  · rw [flow_updateTask _ still, flow_insertTask]
    exact .handOff _ _ _ flow_task_next different

theorem delegate_acts (found : db.tasks.get? turn.taskId = some turn.task) {parsed reply : Json}
    (done : delegate env db turn parsed = .ok (reply, db')) : Acts turn db db' := by
  unfold delegate at done
  dsimp only at done
  split at done
  · exact (refuse_acts found _ _).of_ok done
  · split at done
    · exact (refuse_acts found _ _).of_ok done
    · split at done
      · cases done
      · exact (spawnChild_acts found _ _ _).of_ok done

theorem awaitHuman_acts (found : db.tasks.get? turn.taskId = some turn.task) (parsed : Json) :
    Acts turn db (awaitHuman env db turn parsed).2 := by
  unfold awaitHuman Acts
  dsimp only
  rw [flow_insertApproval, flow_updateTask _ found]
  have same (set : TaskRow → TaskRow) : (db.updateTask env turn.taskId set).approvals = db.approvals := by
    unfold Db.updateTask
    rw [found]
  rw [same]
  exact .pause _ fun other known => flow_approval_newest other known

theorem awaitChildren_acts (found : db.tasks.get? turn.taskId = some turn.task) :
    Acts turn db (awaitChildren env db turn).2 := by
  unfold awaitChildren
  split
  · exact refuse_acts found _ _
  · unfold Acts
    dsimp only
    rw [flow_updateTask _ found]
    exact .park

/-! ### Actions that change the configuration -/

theorem queueEmbedding_quiet (agentId memoryId : Option Nat) (input : String) :
    Quiet db (queueEmbedding env db agentId memoryId input) := by
  unfold queueEmbedding
  split
  · exact .refl db
  · dsimp only
    split
    · exact .refl db
    · exact ⟨rfl, rfl⟩

theorem queueAgentEmbedding_quiet (agentId : Nat) : Quiet db (queueAgentEmbedding env db agentId) := by
  unfold queueAgentEmbedding
  split
  · exact .refl db
  · exact queueEmbedding_quiet _ _ _

theorem queueMemoryEmbedding_quiet (memoryId : Nat) : Quiet db (queueMemoryEmbedding env db memoryId) := by
  unfold queueMemoryEmbedding
  split
  · exact .refl db
  · exact queueEmbedding_quiet _ _ _

theorem writeMemory_quiet {agentId memoryId : Nat} {content kind importance subject expires : Option String}
    {session task : Option Nat} {memoryType : String}
    (done : writeMemory env db agentId content kind importance subject expires session task =
      .ok (memoryId, memoryType, db')) : Quiet db db' := by
  unfold writeMemory at done
  dsimp only at done
  split at done
  · cases done
  · split at done
    · cases done
    · obtain ⟨-, after⟩ := Prod.mk.inj (Except.ok.inj done)
      obtain ⟨-, rfl⟩ := Prod.mk.inj after
      exact (((Quiet.refl db).memories _).trans (queueMemoryEmbedding_quiet _)).memories _

theorem fnSetPolicy_quiet {agentId : Nat} {prompt : Option String} {config : Option Json} {reply : Json}
    (done : fnSetPolicy db agentId prompt config = .ok (reply, db')) : Quiet db db' := by
  unfold fnSetPolicy at done
  split at done
  · cases done
  · dsimp only at done
    split at done
    · obtain ⟨-, rfl⟩ := Prod.mk.inj (Except.ok.inj done)
      exact .refl db
    · split at done
      · cases done
      · obtain ⟨-, rfl⟩ := Prod.mk.inj (Except.ok.inj done)
        exact ⟨rfl, rfl⟩

theorem fnCreateAgent_quiet {name prompt : Option String} {reply : Json}
    (done : fnCreateAgent env db name prompt = .ok (reply, db')) : Quiet db db' := by
  unfold fnCreateAgent at done
  dsimp only at done
  split at done
  · cases done
  · split at done
    · cases done
    · split at done
      · cases done
      · obtain ⟨-, rfl⟩ := Prod.mk.inj (Except.ok.inj done)
        exact (((Quiet.refl db).agents _ _).trans (queueAgentEmbedding_quiet _)).trans (Quiet.of_audit _ _)

theorem applyFix_quiet {fixKind : FixKind} {target : Nat} {detail reply : Json}
    (done : applyFix db fixKind target detail = .ok (reply, db')) : Quiet db db' := by
  unfold applyFix at done
  split at done
  · obtain ⟨-, rfl⟩ := Prod.mk.inj (Except.ok.inj done)
    exact ⟨rfl, rfl⟩
  · unfold fnSetAgentActive at done
    split at done
    · cases done
    · obtain ⟨-, rfl⟩ := Prod.mk.inj (Except.ok.inj done)
      exact ⟨rfl, rfl⟩

theorem autoApply_quiet {parsed : Json} {functionId experimentId : Nat} {cap slack : Int} {op : ExperimentOp}
    (done : autoApply env db turn parsed functionId cap slack op = .ok (some (experimentId, db'))) : Quiet db db' := by
  cases op with
  | start percent =>
    simp only [autoApply] at done
    split at done
    · split at done
      · cases done
      · split at done
        · cases done
        · rename_i started
          obtain ⟨-, rfl⟩ := Prod.mk.inj (Option.some.inj (Except.ok.inj done))
          unfold applyFunctionExperimentStart at started
          dsimp only at started
          split at started
          · cases started
          · split at started
            · cases started
            · split at started
              · cases started
              · obtain ⟨-, rfl⟩ := Prod.mk.inj (Except.ok.inj started)
                exact ⟨rfl, rfl⟩
    · cases Except.ok.inj done
  | promote id experiment =>
    simp only [autoApply] at done
    split at done
    · split at done
      · cases Except.ok.inj done
      · rename_i promoted
        obtain ⟨-, rfl⟩ := Prod.mk.inj (Option.some.inj (Except.ok.inj done))
        unfold applyFunctionExperimentPromote at promoted
        split at promoted
        · cases promoted
        · split at promoted
          · cases promoted
          · obtain rfl := Except.ok.inj promoted
            exact ⟨rfl, rfl⟩
    · cases Except.ok.inj done
  | reject id =>
    simp only [autoApply] at done
    split at done
    · obtain ⟨-, rfl⟩ := Prod.mk.inj (Option.some.inj (Except.ok.inj done))
      exact ⟨rfl, rfl⟩
    · cases Except.ok.inj done

theorem insertProposal_quiet (kind : ProposalKind) (changes : Json) (reason : Option String) (base : Nat)
    (targetAgent targetFunction : Option Nat) :
    Quiet db (insertProposal db turn kind changes reason base targetAgent targetFunction) := ⟨rfl, rfl⟩

theorem insertFix_quiet (fix : FixRow) : Quiet db { db with fixes := db.fixes.insert fix } := ⟨rfl, rfl⟩

theorem fnCreateFunction_quiet {name description body : Option String} {schema reply : Json} {author : Option Nat}
    (done : fnCreateFunction env db name description body schema author = .ok (reply, db')) : Quiet db db' := by
  unfold fnCreateFunction at done
  dsimp only at done
  split at done
  · cases done
  · split at done
    · cases done
    · split at done
      · cases done
      · split at done
        · cases done
        · obtain ⟨-, rfl⟩ := Prod.mk.inj (Except.ok.inj done)
          exact ⟨rfl, rfl⟩

theorem fnUpdateFunction_quiet {functionId : Nat} {description body : Option String} {schema : Option Json}
    {reply : Json} (done : fnUpdateFunction env db functionId description body schema = .ok (reply, db')) :
    Quiet db db' := by
  unfold fnUpdateFunction at done
  split at done
  · cases done
  · split at done
    · cases done
    · split at done
      · cases done
      · obtain ⟨-, rfl⟩ := Prod.mk.inj (Except.ok.inj done)
        exact ⟨rfl, rfl⟩

theorem moveCutoff_quiet (done : moveCutoff env db turn = .ok db') : Quiet db db' := by
  unfold moveCutoff at done
  split at done
  · split at done
    · cases done
    · obtain rfl := Except.ok.inj done
      exact .refl db
    · split at done
      · obtain rfl := Except.ok.inj done
        exact .refl db
      · split at done
        · cases done
        · obtain rfl := Except.ok.inj done
          exact ⟨flow_updateSession_same _ _ fun _ => rfl, rfl⟩
  · obtain rfl := Except.ok.inj done
    exact .refl db

theorem overrideFunction_acts (found : db.tasks.get? turn.taskId = some turn.task) {parsed reply : Json}
    {functionId : Nat} {op : ExperimentOp} (done : overrideFunction env db turn parsed functionId op = .ok (reply, db')) :
    Acts turn db db' := by
  unfold overrideFunction at done
  split at done
  · cases done
  · split at done
    · cases done
    · dsimp only at done
      split at done
      · cases done
      · rename_i applied
        exact (note_acts (autoApply_quiet applied) found _ _).of_ok done
      · exact (note_acts (insertProposal_quiet _ _ _ _ _ _) found _ _).of_ok done

theorem proposeOverride_acts (found : db.tasks.get? turn.taskId = some turn.task) {parsed reply : Json}
    (done : proposeOverride env db turn parsed = .ok (reply, db')) : Acts turn db db' := by
  unfold proposeOverride at done
  split at done
  · exact (refuse_acts found _ _).of_ok done
  · split at done
    · cases done
    · split at done
      · exact (refuse_acts found _ _).of_ok done
      · split at done
        · cases done
        · exact (refuse_acts found _ _).of_ok done
        · exact overrideFunction_acts found done

theorem changePolicy_acts (found : db.tasks.get? turn.taskId = some turn.task) {parsed changes reply : Json}
    {target : Nat} (done : changePolicy env db turn parsed changes target = .ok (reply, db')) : Acts turn db db' := by
  unfold changePolicy at done
  split at done
  · split at done
    · cases done
    · rename_i changed
      exact (note_acts (fnSetPolicy_quiet changed) found _ _).of_ok done
  · dsimp only at done
    split at done
    · exact (note_acts (.refl db) found _ _).of_ok done
    · exact (note_acts (insertProposal_quiet _ _ _ _ _ _) found _ _).of_ok done

theorem changeTarget_refusal (found : db.tasks.get? turn.taskId = some turn.task) {parsed changes : Json}
    {refused : Json × Db} (done : changeTarget env db turn parsed changes = .ok (.error refused)) :
    Acts turn db refused.2 := by
  unfold changeTarget at done
  split at done
  · cases Except.ok.inj done
  · split at done
    · obtain rfl := Except.error.inj (Except.ok.inj done)
      exact refuse_acts found _ _
    · split at done
      · cases done
      · cases Except.ok.inj done
      · split at done
        · cases Except.ok.inj done
        · obtain rfl := Except.error.inj (Except.ok.inj done)
          exact refuse_acts found _ _

theorem proposeChange_acts (found : db.tasks.get? turn.taskId = some turn.task) {parsed reply : Json}
    (done : proposeChange env db turn parsed = .ok (reply, db')) : Acts turn db db' := by
  unfold proposeChange at done
  split at done
  · exact proposeOverride_acts found done
  · split at done
    · exact (refuse_acts found _ _).of_ok done
    · split at done
      · exact (refuse_acts found _ _).of_ok done
      · split at done
        · cases done
        · rename_i refusal
          exact (changeTarget_refusal found refusal).of_ok done
        · exact changePolicy_acts found done

theorem createAgent_acts (found : db.tasks.get? turn.taskId = some turn.task) {parsed reply : Json}
    (done : createAgent env db turn parsed = .ok (reply, db')) : Acts turn db db' := by
  unfold createAgent at done
  split at done
  · exact (refuse_acts found _ _).of_ok done
  · split at done
    · exact (refuse_acts found _ _).of_ok done
    · split at done
      · split at done
        · cases done
        · rename_i created
          exact (note_acts (fnCreateAgent_quiet created) found _ _).of_ok done
      · exact (note_acts (insertProposal_quiet _ _ _ _ _ _) found _ _).of_ok done

theorem createFunction_acts (found : db.tasks.get? turn.taskId = some turn.task) (parsed : Json) :
    Acts turn db (createFunction env db turn parsed).2 := by
  unfold createFunction
  dsimp only
  split
  · exact refuse_acts found _ _
  · split
    · split
      · exact refuse_acts found _ _
      · rename_i created
        exact note_acts (fnCreateFunction_quiet created) found _ _
    · exact note_acts (insertProposal_quiet _ _ _ _ _ _) found _ _

theorem editFunction_acts (found : db.tasks.get? turn.taskId = some turn.task) (parsed : Json) (functionId : Nat) :
    Acts turn db (editFunction env db turn parsed functionId).2 := by
  unfold editFunction
  split
  · split
    · exact refuse_acts found _ _
    · rename_i updated
      exact note_acts (fnUpdateFunction_quiet updated) found _ _
  · exact note_acts (insertProposal_quiet _ _ _ _ _ _) found _ _

theorem updateFunction_acts (found : db.tasks.get? turn.taskId = some turn.task) {parsed reply : Json}
    (done : updateFunction env db turn parsed = .ok (reply, db')) : Acts turn db db' := by
  unfold updateFunction at done
  split at done
  · cases done
  · split at done
    · exact (refuse_acts found _ _).of_ok done
    · exact (editFunction_acts found _ _).of_ok done

theorem fixAgent_acts (found : db.tasks.get? turn.taskId = some turn.task) {parsed reply : Json} {fixKind : FixKind}
    {target : Nat} (done : fixAgent env db turn parsed fixKind target = .ok (reply, db')) : Acts turn db db' := by
  unfold fixAgent at done
  dsimp only at done
  split at done
  · split at done
    · cases done
    · rename_i fixed
      exact (note_acts (applyFix_quiet fixed) found _ _).of_ok done
  · exact (note_acts (insertFix_quiet _) found _ _).of_ok done

theorem proposeFix_acts (found : db.tasks.get? turn.taskId = some turn.task) {parsed reply : Json}
    (done : proposeFix env db turn parsed = .ok (reply, db')) : Acts turn db db' := by
  unfold proposeFix at done
  split at done
  · exact (refuse_acts found _ _).of_ok done
  · split at done
    · exact (refuse_acts found _ _).of_ok done
    · split at done
      · cases done
      · split at done
        · exact (refuse_acts found _ _).of_ok done
        · exact fixAgent_acts found done

theorem remember_acts (found : db.tasks.get? turn.taskId = some turn.task) {parsed reply : Json}
    (done : remember env db turn parsed = .ok (reply, db')) : Acts turn db db' := by
  unfold remember at done
  split at done
  · exact (refuse_acts found _ _).of_ok done
  · rename_i written
    dsimp only at done
    split at done
    · cases done
    · rename_i moved
      obtain ⟨-, rfl⟩ := Prod.mk.inj (Except.ok.inj done)
      exact (note_acts (writeMemory_quiet written) found _ _).then_quiet (moveCutoff_quiet moved)

/-! ### The whole function -/

theorem act_acts (found : db.tasks.get? turn.taskId = some turn.task) {parsed reply : Json} {action : Action}
    (done : act env db turn parsed action = .ok (reply, db')) : Acts turn db db' := by
  cases action <;> simp only [act] at done
  case finalAnswer => exact (finalAnswer_acts found parsed).of_ok done
  case executeSql => exact (executeSql_acts found parsed).of_ok done
  case callFunction => exact (callFunction_acts found parsed).of_ok done
  case runProcedure => exact (runProcedure_acts found parsed).of_ok done
  case searchAgents => exact (searchAgents_acts found parsed).of_ok done
  case recallMemories => exact (recallMemories_acts found parsed).of_ok done
  case delegate => exact delegate_acts found done
  case proposeChange => exact proposeChange_acts found done
  case createAgent => exact createAgent_acts found done
  case createFunction => exact (createFunction_acts found parsed).of_ok done
  case updateFunction => exact updateFunction_acts found done
  case proposeFix => exact proposeFix_acts found done
  case remember => exact remember_acts found done
  case awaitHuman => exact (awaitHuman_acts found parsed).of_ok done
  case awaitChildren => exact (awaitChildren_acts found).of_ok done

theorem submitReply_acts (found : db.tasks.get? turn.taskId = some turn.task) {payload reply : Json}
    (done : submitReply env db turn payload = .ok (reply, db')) : Acts turn db db' := by
  have logged : Quiet db (turn.log env db .assistant (.str ((payload.getText? "content").getD ""))) :=
    Quiet.of_appendLog _ _ _ _
  have still : (turn.log env db .assistant (.str ((payload.getText? "content").getD ""))).tasks.get? turn.taskId =
      some turn.task := found
  unfold submitReply at done
  dsimp only at done
  apply Acts.of_quiet logged
  split at done
  · exact (refuse_acts still _ _).of_ok done
  · exact act_acts still done

/-- An update of the task's status in two steps is one update of it. -/
theorem setTask_setTask {σ : Flow Left} {t : Nat} {view first second : TaskView Left} (found : σ.task t = some view)
    (same : first.status = view.status) : (σ.setTask t first).setTask t second = σ.setTask t second := by
  ext1
  case task => exact Function.update_idem _ _ _
  case journal =>
    have kept : σ.statusChange t first.status = [] := by simp [Flow.statusChange, found, same]
    simp only [Flow.setTask, kept, List.append_nil]
    simp only [Flow.statusChange, Function.update_self, found, same]
  all_goals rfl

/-- The row `task` may have been read before the task was started. -/
theorem failTask_effect {t : Nat} {task row : TaskRow} (found : db.tasks.get? t = some row)
    (session : row.sessionId = task.sessionId) (error : String) (content : List (String × Json)) :
    Flow.Effect t row.view db.flow (failTask env db t task error content).flow := by
  unfold failTask
  rw [← session]
  refine .fail row.stepCount (row.output, some error) (.inl rfl) (maybeCompleteSession_closes_of ?_)
  exact flow_updateTask _ found

theorem submitError_acts (found : db.tasks.get? turn.taskId = some turn.task) (payload : Json) :
    Acts turn db (submitError env db turn payload).2 := by
  unfold submitError
  dsimp only
  split
  · have logged : (turn.log env db .error
        (.build [("message", .str ((payload.getText? "message").getD "error"))])).tasks.get? turn.taskId =
        some turn.task := found
    have bumped := get?_bumpStep env logged
    refine .fail (turn.task.stepCount + 1) (turn.task.output, some ((payload.getText? "message").getD "error"))
      (.inr rfl) (maybeCompleteSession_closes_of ?_)
    rw [flow_updateTask _ bumped, Db.bumpStep, flow_updateTask _ logged]
    exact setTask_setTask (flow_task found) rfl
  · exact Acts.of_quiet (Quiet.of_appendLog _ _ _ _) (bumpStep_acts found)

theorem submitPayload_acts (found : db.tasks.get? turn.taskId = some turn.task) {payload reply : Json}
    (done : submitPayload env db turn payload = .ok (reply, db')) : Acts turn db db' := by
  have logged (role : Role) (step : Nat) (content : Json) :
      Acts turn db ((db.appendLog env turn.taskId step role content).bumpStep env turn.taskId) :=
    Acts.of_quiet (Quiet.of_appendLog _ _ _ _) (bumpStep_acts found)
  unfold submitPayload at done
  split at done
  · exact (submitError_acts found payload).of_ok done
  · exact Acts.of_ok (logged _ _ _) done
  · exact Acts.of_ok (logged _ _ _) done
  · exact submitReply_acts found done
  · exact Acts.of_ok (logged _ _ _) done

/-- `fn_submit_result` returns only for a running task, and has one of the protocol's effects on it. -/
theorem fnSubmitResult_effect {t : Nat} {payload reply : Json}
    (done : fnSubmitResult env db t payload = .ok (reply, db')) :
    ∃ task, db.tasks.get? t = some task ∧ task.status = .running ∧
      Flow.Effect t task.view db.flow db'.flow := by
  unfold fnSubmitResult at done
  split at done
  · cases done
  · rename_i task found
    split at done
    · cases done
    · rename_i running
      refine ⟨task, found, by simpa using running, ?_⟩
      split at done
      · obtain ⟨-, rfl⟩ := Prod.mk.inj (Except.ok.inj done)
        exact failTask_effect found rfl _ _
      · have acted : Acts ⟨t, task, _, _⟩ db db' := submitPayload_acts found done
        exact acted

end Allgres
