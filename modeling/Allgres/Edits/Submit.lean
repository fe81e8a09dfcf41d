import Allgres.Edits.Core

/-! The edits of one reply of an agent. Whatever the agent asks for, its turn governs nothing
unless its autonomy says so. -/

namespace Allgres

open Relational Jsonb Sql Raising

variable {env : Env} {powers : Powers} {db db' : Db} {turn : Turn} {parsed : Json}

/-! ### The operator API -/

section Operators

variable (governs : powers.governs db.agents)

include governs

theorem leaves_fnSetPolicy (agentId : Nat) (prompt : Option String) (llmConfig : Option Json) :
    Leaves env powers db (fnSetPolicy db agentId prompt llmConfig) := by
  unfold fnSetPolicy
  split
  · exact leaves_error
  · dsimp only
    split
    · exact ensures_ok.mpr .refl
    · split
      · exact leaves_error
      · refine ensures_ok.mpr (Edits.audited (Edit.edits ?_) _ _)
        exact .policy _ _ _ governs fun _ _ => rfl

theorem leaves_fnCreateAgent (name prompt : Option String) :
    Leaves env powers db (fnCreateAgent env db name prompt) := by
  unfold fnCreateAgent
  dsimp only
  split
  · exact leaves_error
  · split
    · exact leaves_error
    · rename_i free
      have unnamed : db.agentNamed (btrim (name.getD "")) = none := Option.not_isSome_iff_eq_none.mp free
      have own : (newPolicy db.agents.next prompt).agentId = db.agents.next := by
        unfold newPolicy
        split <;> rfl
      split
      · exact leaves_error
      · refine ensures_ok.mpr (Edits.audited ((Edit.edits ?_).trans (edits_queueAgentEmbedding _)) _ _)
        exact .newAgent _ _ governs unnamed own

theorem leaves_fnSetAgentActive (agentId : Nat) (active : Bool) :
    Leaves env powers db (fnSetAgentActive db agentId active) := by
  unfold fnSetAgentActive
  split
  · exact leaves_error
  · refine ensures_ok.mpr (Edits.audited (Edit.edits ?_) _ _)
    exact .agent _ _ governs fun _ => ⟨rfl, rfl⟩

theorem edits_fnRevokePermission (agentId : Nat) (type ref : Option String) :
    Edits env powers db (fnRevokePermission db agentId type ref).2 :=
  Edits.audited (Edit.permission _ governs).edits _ _

theorem leaves_applyFix (fixKind : FixKind) (target : Nat) (detail : Json) :
    Leaves env powers db (applyFix db fixKind target detail) := by
  cases fixKind with
  | revokePermission =>
    rw [applyFix]
    exact ensures_ok.mpr (edits_fnRevokePermission governs _ _ _)
  | deactivateAgent => exact leaves_fnSetAgentActive governs target false

theorem leaves_fnCreateFunction (name description body : Option String) (paramSchema : Json) (author : Option Nat) :
    Leaves env powers db (fnCreateFunction env db name description body paramSchema author) := by
  unfold fnCreateFunction
  dsimp only
  split
  · exact leaves_error
  · split
    · exact leaves_error
    · split
      · exact leaves_error
      · split
        · exact leaves_error
        · rename_i free
          refine ensures_ok.mpr (Edits.audited (Edit.edits ?_) _ _)
          refine .newFunction _ governs fun key row found same => ?_
          exact free (Table.exists?_eq_true.mpr ⟨key, row, found, beq_iff_eq.mpr same⟩)

theorem leaves_fnUpdateFunction (functionId : Nat) (description body : Option String) (paramSchema : Option Json) :
    Leaves env powers db (fnUpdateFunction env db functionId description body paramSchema) := by
  unfold fnUpdateFunction
  split
  · exact leaves_error
  · split
    · exact leaves_error
    · split
      · exact leaves_error
      · refine ensures_ok.mpr (Edits.audited (Edit.edits ?_) _ _)
        exact .function _ _ governs fun _ => ⟨rfl, rfl⟩

theorem leaves_applyFunctionExperimentStart (functionId : Nat) (provider model : String) (percent : Int)
    (sample : Option Int) (agentId : Nat) (reason : Option String) :
    Leaves env powers db (applyFunctionExperimentStart db functionId provider model percent sample agentId reason) := by
  unfold applyFunctionExperimentStart
  dsimp only
  split
  · exact leaves_error
  · split
    · exact leaves_error
    · split
      · exact leaves_error
      · rename_i free
        refine ensures_ok.mpr (Edit.edits ?_)
        refine .trial _ governs rfl fun key row found running same => ?_
        refine free (Table.exists?_eq_true.mpr ⟨key, row, found, ?_⟩)
        simp [same, running]

/-- The experiment is there and still runs. -/
def Db.Running (db : Db) (experimentId : Nat) : Prop :=
  ∃ experiment, db.experiments.get? experimentId = some experiment ∧ experiment.status = .running

theorem edits_decide {experimentId : Nat} (running : db.Running experimentId) {status : ExperimentStatus}
    (decided : status ≠ .running) : Edits env powers db { db with
      experiments := db.experiments.modify experimentId fun row =>
        { row with status := status, decidedAt := some env.now } } := by
  obtain ⟨experiment, found, runs⟩ := running
  rw [Table.modify_const _ found]
  exact Edit.edits (.verdict status (some env.now) governs found runs decided)

theorem ensures_applyFunctionExperimentPromote {experimentId : Nat} (running : db.Running experimentId) :
    Ensures (applyFunctionExperimentPromote env db experimentId) fun later => Edits env powers db later := by
  unfold applyFunctionExperimentPromote
  split
  · exact ensures_error.mpr trivial
  · rename_i experiment found
    split
    · exact ensures_error.mpr trivial
    · let overridden : Db := { db with
        functions := db.functions.modify experiment.functionId fun function =>
          { function with
            llmOverride := some (.build [("provider", .str experiment.candidateProvider),
              ("model", .str experiment.candidateModel)])
            updatedAt := env.now } }
      have first : Edits env powers db overridden := Edit.edits (.function _ _ governs fun _ => ⟨rfl, rfl⟩)
      have decided := @edits_decide env powers overridden governs experimentId running .promoted (by decide)
      exact ensures_ok.mpr (first.trans decided)

end Operators

/-! ### Actions that queue a call -/

theorem edits_executeSql : Edits env powers db (executeSql env db turn parsed).2 := by
  unfold executeSql
  split
  · exact edits_refuse _ _
  · exact Edits.bumped (edits_insertSql _ _) _

theorem edits_sendRequest (function : Option String) (bound : Option (Nat × Option Nat)) (args : Json)
    (request : Request) : Edits env powers db (sendRequest env db turn function bound args request).2 := by
  unfold sendRequest
  split
  · exact edits_refuse _ _
  · dsimp only
    split
    · exact edits_refuse _ _
    · exact Edits.bumped (edits_insertOutbound _ _) _

theorem edits_callOutbound (function : Option String) (bound : Option (Nat × FunctionRow × Option Nat))
    (args origArgs : Json) : Edits env powers db (callOutbound env db turn function bound args origArgs).2 := by
  unfold callOutbound
  split
  · exact edits_refuse _ _
  · exact edits_sendRequest _ _ _ _

theorem edits_callBody (name : Option String) (functionId : Nat) (function : FunctionRow) (args : Json) :
    Edits env powers db (callBody env db turn name functionId function args).2 := by
  unfold callBody
  split
  · exact edits_refuse _ _
  · exact Edits.bumped (edits_insertFunctionCall _ _) _

theorem edits_callFunction : Edits env powers db (callFunction env db turn parsed).2 := by
  unfold callFunction
  dsimp only
  split
  · exact edits_callOutbound _ _ _ _
  · split
    · exact edits_refuse _ _
    · split
      · exact edits_callBody _ _ _ _
      · exact edits_callOutbound _ _ _ _

theorem edits_runProcedure : Edits env powers db (runProcedure env db turn parsed).2 := by
  unfold runProcedure
  dsimp only
  split
  · exact edits_refuse _ _
  · split
    · exact edits_refuse _ _
    · split
      · exact edits_refuse _ _
      · exact Edits.bumped (edits_insertProcedureCall _ _) _

theorem edits_embedQuery (kind : CallKind) (action missing : String) :
    Edits env powers db (embedQuery kind action missing env db turn parsed).2 := by
  unfold embedQuery
  split
  · exact edits_refuse _ _
  · split
    · exact edits_refuse _ _
    · dsimp only
      split
      · exact edits_refuse _ _
      · exact Edits.bumped (edits_insertOutbound _ _) _

/-! ### Actions that wait or end the task -/

theorem edits_finalAnswer : Edits env powers db (finalAnswer env db turn parsed).2 := by
  unfold finalAnswer
  dsimp only
  split
  · exact edits_refuse _ _
  · exact ((edits_updateTask _ _).trans (edits_updateSession _ _)).trans (edits_maybeCompleteSession _)

theorem edits_spawnChild (target : Nat) (wait : Bool) :
    Edits env powers db (spawnChild env db turn parsed target wait).2 := by
  unfold spawnChild
  dsimp only
  split
  · exact (edits_insertTask _ _ _ _ _ _).trans (edits_bumpStep _)
  · exact (edits_insertTask _ _ _ _ _ _).trans (edits_updateTask _ _)

theorem leaves_delegate : Leaves env powers db (delegate env db turn parsed) := by
  unfold delegate
  dsimp only
  split
  · exact leaves_refuse _ _
  · split
    · exact leaves_refuse _ _
    · split
      · exact leaves_error
      · exact ensures_ok.mpr (edits_spawnChild _ _)

theorem edits_awaitHuman : Edits env powers db (awaitHuman env db turn parsed).2 :=
  (edits_updateTask turn.taskId _).trans (edits_insertApproval _ _ _)

theorem edits_awaitChildren : Edits env powers db (awaitChildren env db turn).2 := by
  unfold awaitChildren
  split
  · exact edits_refuse _ _
  · exact edits_updateTask _ _

theorem ensures_moveCutoff : Ensures (moveCutoff env db turn) fun later => Edits env powers db later := by
  unfold moveCutoff
  split
  · split
    · exact ensures_error.mpr trivial
    · exact ensures_ok.mpr .refl
    · split
      · exact ensures_ok.mpr .refl
      · split
        · exact ensures_error.mpr trivial
        · exact ensures_ok.mpr (edits_updateSession _ _)
  · exact ensures_ok.mpr .refl

theorem leaves_remember : Leaves env powers db (remember env db turn parsed) := by
  unfold remember
  split
  · exact leaves_refuse _ _
  · rename_i written
    dsimp only
    split
    · exact leaves_error
    · rename_i moved
      have after : Edits env powers _ _ := ensures_moveCutoff _ moved
      exact ensures_ok.mpr (((edits_writeMemory written).trans (edits_note _ _)).trans after)

/-! ### Actions that change the configuration -/

theorem edits_insertProposal (kind : ProposalKind) (changes : Json) (reason : Option String) (base : Nat)
    (targetAgent targetFunction : Option Nat) :
    Edits env powers db (insertProposal db turn kind changes reason base targetAgent targetFunction) :=
  Edit.edits (.propose _)

/-- An agent that need not ask for approval may change what agents may do. -/
def Turn.Entitled (turn : Turn) (powers : Powers) (db : Db) : Prop :=
  turn.agent.autonomyLevel ≠ .adminApproval → powers.governs db.agents

def ExperimentOp.Ready (db : Db) : ExperimentOp → Prop
  | .start _ => True
  | .promote experimentId _ => db.Running experimentId
  | .reject experimentId => db.Running experimentId

theorem checkDecision_ready {functionId : Nat} {decide : Nat → ExperimentRow → ExperimentOp} {op : ExperimentOp}
    (ready : ∀ id experiment, db.Running id → (decide id experiment).Ready db)
    (checked : checkDecision db functionId parsed decide = .ok (.ok op)) : op.Ready db := by
  unfold checkDecision at checked
  split at checked
  · cases checked
  · dsimp only at checked
    split at checked
    · cases checked
    · rename_i id experiment running
      obtain rfl := Except.ok.inj (Except.ok.inj checked)
      obtain ⟨named, -, found⟩ := Option.bind_eq_some_iff.mp running
      simp only [Option.map_eq_some_iff, Option.filter_eq_some_iff, Bool.and_eq_true, beq_iff_eq, Prod.mk.injEq] at found
      obtain ⟨row, ⟨here, -, runs⟩, rfl, rfl⟩ := found
      exact ready _ _ ⟨_, here, runs⟩

theorem checkOp_ready {functionId : Nat} {op : ExperimentOp} (checked : checkOp db functionId parsed = .ok (.ok op)) :
    op.Ready db := by
  unfold checkOp at checked
  split at checked
  · unfold checkStart at checked
    split at checked
    · cases checked
    · split at checked
      · cases checked
      · dsimp only at checked
        split at checked
        · cases checked
        · split at checked
          · cases checked
          · split at checked
            · cases checked
            · obtain rfl := Except.ok.inj (Except.ok.inj checked)
              trivial
  · exact @checkDecision_ready _ _ _ .promote _ (fun _ _ running => running) checked
  · exact @checkDecision_ready _ _ _ (fun id _ => .reject id) _ (fun _ _ running => running) checked
  · cases checked

section Entitled

variable (entitled : turn.Entitled powers db)

include entitled

theorem ensures_autoApply {functionId : Nat} {cap slack : Int} {op : ExperimentOp} (ready : op.Ready db) :
    Ensures (autoApply env db turn parsed functionId cap slack op) fun applied =>
      ∀ id later, applied = some (id, later) → Edits env powers db later := by
  cases op with
  | start percent =>
    simp only [autoApply]
    split
    · rename_i free
      have governs : powers.governs db.agents := by
        apply entitled
        rcases free with level | ⟨level, -⟩
        · simp [level]
        · simp [level]
      split
      · exact ensures_error.mpr trivial
      · split
        · exact ensures_error.mpr trivial
        · rename_i started
          refine ensures_ok.mpr fun id later same => ?_
          obtain ⟨rfl, rfl⟩ := Prod.mk.inj (Option.some.inj same)
          exact leaves_applyFunctionExperimentStart governs _ _ _ _ _ _ _ _ started
    · exact ensures_ok.mpr fun id later same => (by cases same)
  | promote experimentId experiment =>
    simp only [autoApply]
    split
    · rename_i free
      have governs : powers.governs db.agents := by
        apply entitled
        simp [free.1]
      split
      · exact ensures_ok.mpr fun id later same => (by cases same)
      · rename_i promoted
        refine ensures_ok.mpr fun id later same => ?_
        obtain ⟨rfl, rfl⟩ := Prod.mk.inj (Option.some.inj same)
        exact ensures_applyFunctionExperimentPromote governs ready _ promoted
    · exact ensures_ok.mpr fun id later same => (by cases same)
  | reject experimentId =>
    simp only [autoApply]
    split
    · rename_i free
      refine ensures_ok.mpr fun id later same => ?_
      obtain ⟨rfl, rfl⟩ := Prod.mk.inj (Option.some.inj same)
      refine edits_decide (entitled free) ready ?_
      decide
    · exact ensures_ok.mpr fun id later same => (by cases same)

theorem leaves_overrideFunction (functionId : Nat) {op : ExperimentOp} (ready : op.Ready db) :
    Leaves env powers db (overrideFunction env db turn parsed functionId op) := by
  unfold overrideFunction
  split
  · exact leaves_error
  · split
    · exact leaves_error
    · dsimp only
      split
      · exact leaves_error
      · rename_i applied
        exact leaves_note (ensures_autoApply entitled ready _ applied _ _ rfl) _ _
      · exact leaves_note (edits_insertProposal ..) _ _

theorem leaves_proposeOverride : Leaves env powers db (proposeOverride env db turn parsed) := by
  unfold proposeOverride
  split
  · exact leaves_refuse _ _
  · split
    · exact leaves_error
    · split
      · exact leaves_refuse _ _
      · split
        · exact leaves_error
        · exact leaves_refuse _ _
        · rename_i checked
          exact leaves_overrideFunction entitled _ (checkOp_ready checked)

omit entitled in
theorem edits_changeTarget {changes : Json} {refused : Json × Db}
    (done : changeTarget env db turn parsed changes = .ok (.error refused)) : Edits env powers db refused.2 := by
  unfold changeTarget at done
  split at done
  · cases done
  · split at done
    · obtain rfl := Except.error.inj (Except.ok.inj done)
      exact edits_refuse _ _
    · split at done
      · cases done
      · cases done
      · split at done
        · cases done
        · obtain rfl := Except.error.inj (Except.ok.inj done)
          exact edits_refuse _ _

theorem leaves_changePolicy (changes : Json) (target : Nat) :
    Leaves env powers db (changePolicy env db turn parsed changes target) := by
  unfold changePolicy
  split
  · rename_i free
    split
    · exact leaves_error
    · rename_i applied
      exact leaves_note (leaves_fnSetPolicy (entitled free.2) _ _ _ _ applied) _ _
  · dsimp only
    split
    · exact leaves_note .refl _ _
    · exact leaves_note (edits_insertProposal ..) _ _

theorem leaves_proposeChange : Leaves env powers db (proposeChange env db turn parsed) := by
  unfold proposeChange
  split
  · exact leaves_proposeOverride entitled
  · split
    · exact leaves_refuse _ _
    · split
      · exact leaves_refuse _ _
      · split
        · exact leaves_error
        · rename_i refusal
          exact ensures_ok.mpr (edits_changeTarget refusal)
        · exact leaves_changePolicy entitled _ _

theorem leaves_createAgent : Leaves env powers db (createAgent env db turn parsed) := by
  unfold createAgent
  split
  · exact leaves_refuse _ _
  · split
    · exact leaves_refuse _ _
    · split
      · rename_i free
        split
        · exact leaves_error
        · rename_i created
          exact leaves_note (leaves_fnCreateAgent (entitled free) _ _ _ created) _ _
      · exact leaves_note (edits_insertProposal ..) _ _

theorem edits_createFunction : Edits env powers db (createFunction env db turn parsed).2 := by
  unfold createFunction
  dsimp only
  split
  · exact edits_refuse _ _
  · split
    · rename_i free
      split
      · exact edits_refuse _ _
      · rename_i created
        have made : Edits env powers db _ := leaves_fnCreateFunction (entitled free) _ _ _ _ _ _ created
        exact made.trans (edits_note _ _)
    · exact (edits_insertProposal ..).trans (edits_note _ _)

theorem edits_editFunction (functionId : Nat) : Edits env powers db (editFunction env db turn parsed functionId).2 := by
  unfold editFunction
  split
  · rename_i free
    split
    · exact edits_refuse _ _
    · rename_i updated
      have made : Edits env powers db _ := leaves_fnUpdateFunction (entitled free) _ _ _ _ _ updated
      exact made.trans (edits_note _ _)
  · exact (edits_insertProposal ..).trans (edits_note _ _)

theorem leaves_updateFunction : Leaves env powers db (updateFunction env db turn parsed) := by
  unfold updateFunction
  split
  · exact leaves_error
  · split
    · exact leaves_refuse _ _
    · exact ensures_ok.mpr (edits_editFunction entitled _)

theorem leaves_proposeFix : Leaves env powers db (proposeFix env db turn parsed) := by
  unfold proposeFix
  split
  · exact leaves_refuse _ _
  · split
    · exact leaves_refuse _ _
    · split
      · exact leaves_error
      · split
        · exact leaves_refuse _ _
        · unfold fixAgent
          dsimp only
          split
          · rename_i free
            split
            · exact leaves_error
            · rename_i applied
              exact leaves_note (leaves_applyFix (entitled free) _ _ _ _ applied) _ _
          · exact leaves_note (Edit.edits (.fix _)) _ _

theorem leaves_act (action : Action) : Leaves env powers db (act env db turn parsed action) := by
  cases action with
  | finalAnswer =>
    rw [act]
    exact ensures_ok.mpr edits_finalAnswer
  | executeSql =>
    rw [act]
    exact ensures_ok.mpr edits_executeSql
  | callFunction =>
    rw [act]
    exact ensures_ok.mpr edits_callFunction
  | runProcedure =>
    rw [act]
    exact ensures_ok.mpr edits_runProcedure
  | searchAgents =>
    rw [act]
    exact ensures_ok.mpr (edits_embedQuery _ _ _)
  | recallMemories =>
    rw [act]
    exact ensures_ok.mpr (edits_embedQuery _ _ _)
  | delegate =>
    rw [act]
    exact leaves_delegate
  | proposeChange =>
    rw [act]
    exact leaves_proposeChange entitled
  | createAgent =>
    rw [act]
    exact leaves_createAgent entitled
  | createFunction =>
    rw [act]
    exact ensures_ok.mpr (edits_createFunction entitled)
  | updateFunction =>
    rw [act]
    exact leaves_updateFunction entitled
  | proposeFix =>
    rw [act]
    exact leaves_proposeFix entitled
  | remember =>
    rw [act]
    exact leaves_remember
  | awaitHuman =>
    rw [act]
    exact ensures_ok.mpr edits_awaitHuman
  | awaitChildren =>
    rw [act]
    exact ensures_ok.mpr edits_awaitChildren

end Entitled

/-! ### `fn_submit_result` -/

theorem edits_submitError (payload : Json) : Edits env powers db (submitError env db turn payload).2 := by
  unfold submitError
  dsimp only
  split
  · refine .trans ?_ (edits_maybeCompleteSession _)
    exact ((edits_log _ _).trans (edits_bumpStep _)).trans (edits_updateTask _ _)
  · exact (edits_log _ _).trans (edits_bumpStep _)

theorem leaves_submitReply (entitled : turn.Entitled powers db) (payload : Json) :
    Leaves env powers db (submitReply env db turn payload) := by
  have said := @edits_log env powers db turn .assistant (.str ((payload.getText? "content").getD ""))
  unfold submitReply
  dsimp only
  split
  · exact ensures_ok.mpr (said.trans (edits_refuse _ _))
  · have acted := @leaves_act env powers (turn.log env db .assistant (.str ((payload.getText? "content").getD ""))) turn
      ((parsedReply payload).getD .null) entitled
    exact (acted _).imp fun _ => said.trans

theorem leaves_submitPayload (entitled : turn.Entitled powers db) (payload : Json) :
    Leaves env powers db (submitPayload env db turn payload) := by
  unfold submitPayload
  split
  · exact ensures_ok.mpr (edits_submitError payload)
  · exact ensures_ok.mpr ((edits_log _ _).trans (edits_bumpStep _))
  · exact ensures_ok.mpr ((edits_log _ _).trans (edits_bumpStep _))
  · exact leaves_submitReply entitled payload
  · exact ensures_ok.mpr ((edits_appendLog ..).trans (edits_bumpStep _))

/-- The operators may do what an agent may do. -/
def Powers.Covers (powers : Powers) : Prop := ∀ agents, Autonomous agents → powers.governs agents

theorem agents_cover : Powers.agents.Covers := fun _ => id

theorem leaves_fnSubmitResult (covers : powers.Covers) (t : Nat) (payload : Json) :
    Leaves env powers db (fnSubmitResult env db t payload) := by
  unfold fnSubmitResult
  split
  · exact leaves_error
  · split
    · exact leaves_error
    · split
      · exact ensures_ok.mpr (edits_failTask _ _ _ _)
      · rename_i agent found
        obtain ⟨here, active⟩ := Option.filter_eq_some_iff.mp found
        exact leaves_submitPayload (fun free => covers _ ⟨_, agent, here, active, free⟩) payload

end Allgres
