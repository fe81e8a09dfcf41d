import Allgres.Submit.Result

/-! The replies of a model on which `fn_submit_result` raises. Most actions turn
a reply down with a log row; what is left are conversions of the model's own
texts and nested calls without a handler. -/

namespace Allgres

open Relational Jsonb Sql

variable {env : Env} {db : Db} {turn : Turn} {parsed : Json}

def raises {α : Type} : Except String α → Bool
  | .error _ => true
  | .ok _ => false

/-- `text::type` raises. -/
def castFails {α : Type} (convert : String → Option α) (text : Option String) : Bool :=
  text.any fun text => (convert text).isNone

def uuidFails (text : Option String) : Bool := castFails toUuid (nonEmpty text)

@[simp] theorem raises_ok {α : Type} (value : α) : raises (.ok value) = false := rfl

@[simp] theorem raises_error {α : Type} (message : String) : raises (.error message : Except String α) = true := rfl

theorem raises_castOr {α : Type} (kind : String) (convert : String → Option α) (text : Option String) :
    raises (castOr kind convert text) = castFails convert text := by
  unfold castOr castFails
  cases text with
  | none => rfl
  | some text =>
    simp only [Option.any_some]
    cases convert text with
    | none => rfl
    | some value => rfl

/-- What a conversion that does not raise gives. -/
theorem castOr_ok {α : Type} {kind : String} {convert : String → Option α} {text : Option String} {value : Option α}
    (done : castOr kind convert text = .ok value) : value = text.bind convert := by
  unfold castOr at done
  cases text with
  | none => exact (Except.ok.inj done).symm
  | some text =>
    simp only [Option.bind_some]
    cases converted : convert text with
    | none => simp [converted] at done
    | some found =>
      simp only [converted, Except.ok.injEq] at done
      exact done.symm

/-! ### `delegate` and `update_function` -/

def delegateRaises (env : Env) (db : Db) (turn : Turn) (parsed : Json) : Bool :=
  let name := parsed.getText? "agent_name"
  ((db.agents.find? fun _ agent => some agent.name == name && agent.isActive).any fun target =>
    (delegateRefusal env db turn name target.1).isNone) && castFails toBoolean (parsed.getText? "wait")

theorem raises_delegate : raises (delegate env db turn parsed) = delegateRaises env db turn parsed := by
  have converted := raises_castOr "boolean" toBoolean (parsed.getText? "wait")
  unfold delegate delegateRaises castBoolean
  dsimp only
  rw [← converted]
  split
  · rename_i unknown
    rw [unknown]
    rfl
  · rename_i target row known
    rw [known]
    simp only [Option.any_some]
    split
    · rename_i refused
      rw [refused]
      rfl
    · rename_i allowed
      rw [allowed]
      split
      · rename_i failed
        rw [failed]
        rfl
      · rename_i wait done
        rw [done]
        rfl

theorem raises_updateFunction :
    raises (updateFunction env db turn parsed) = uuidFails (parsed.getText? "function_id") := by
  unfold updateFunction uuidFails castUuid
  rw [← raises_castOr "uuid"]
  split
  · rename_i failed
    rw [failed]
    rfl
  · rename_i target done
    rw [done]
    split
    · rfl
    · rfl

/-! ### `propose_change` -/

/-- A limit in the agent's own configuration is no number. -/
def configFails (turn : Turn) : Bool :=
  castFails toInt (turn.agent.agentConfig.getText? "function_override_self_approve_canary_cap") ||
    castFails toInt (turn.agent.agentConfig.getText? "function_override_auto_promote_slack_pct")

def startComplete (parsed : Json) : Bool :=
  (filled parsed "candidate_provider").isSome && (filled parsed "candidate_model").isSome &&
    (nonEmpty (parsed.getText? "canary_percent")).isSome

def canaryPercent (parsed : Json) : Int := ((parsed.getText? "canary_percent").bind toInt).getD 0

/-- The experiment may start: nothing else is left to turn it down. -/
def mayStart (db : Db) (functionId : Nat) (parsed : Json) : Bool :=
  decide (0 < canaryPercent parsed ∧ canaryPercent parsed ≤ 100) &&
    (db.providers.exists? fun _ provider =>
      some provider.name == parsed.getText? "candidate_provider" && provider.isEnabled) &&
    !db.experiments.exists? fun _ other => other.functionId == functionId && other.status == .running

/-- The agent starts the experiment without asking. -/
def startsAlone (turn : Turn) (parsed : Json) : Bool :=
  let cap := (turn.agent.agentConfig.getText? "function_override_self_approve_canary_cap").bind toInt
  turn.agent.autonomyLevel == .auto ||
    (turn.agent.autonomyLevel == .selfApprove && decide (canaryPercent parsed ≤ cap.getD 20))

/-- The sample size is no number, or none that the table accepts. -/
def sampleFails (parsed : Json) : Bool :=
  castFails toInt (parsed.getText? "min_sample_size") ||
    decide (((parsed.getText? "min_sample_size").bind toInt).getD 20 ≤ 0)

def startRaises (db : Db) (turn : Turn) (parsed : Json) (functionId : Nat) : Bool :=
  startComplete parsed && (castFails toInt (parsed.getText? "canary_percent") ||
    (mayStart db functionId parsed && (configFails turn || (startsAlone turn parsed && sampleFails parsed))))

/-- The experiment that the reply names, if it runs for this function. -/
def namedExperiment (db : Db) (functionId : Nat) (parsed : Json) : Option (Nat × ExperimentRow) :=
  ((nonEmpty (parsed.getText? "experiment_id")).bind toUuid).bind fun id =>
    ((db.experiments.get? id).filter fun experiment =>
      experiment.functionId == functionId && experiment.status == .running).map fun experiment => (id, experiment)

def decisionRaises (db : Db) (turn : Turn) (parsed : Json) (functionId : Nat) : Bool :=
  uuidFails (parsed.getText? "experiment_id") || ((namedExperiment db functionId parsed).isSome && configFails turn)

def opRaises (db : Db) (turn : Turn) (parsed : Json) (functionId : Nat) : Bool :=
  match parsed.getText? "op" with
  | some "start_experiment" => startRaises db turn parsed functionId
  | some "promote" => decisionRaises db turn parsed functionId
  | some "reject" => decisionRaises db turn parsed functionId
  | _ => false

/-- The checked operation fails on the configuration or on its own. -/
theorem raises_overrideFunction {functionId : Nat} {op : ExperimentOp} :
    raises (overrideFunction env db turn parsed functionId op) = (configFails turn ||
      raises (autoApply env db turn parsed functionId
        (((turn.agent.agentConfig.getText? "function_override_self_approve_canary_cap").bind toInt).getD 20)
        (((turn.agent.agentConfig.getText? "function_override_auto_promote_slack_pct").bind toInt).getD 0) op)) := by
  unfold overrideFunction configFails castInt
  rw [← raises_castOr "integer", ← raises_castOr "integer"]
  split
  · rename_i failed
    rw [failed]
    rfl
  · rename_i cap capDone
    split
    · rename_i failed
      rw [failed, capDone]
      rfl
    · rename_i slack slackDone
      obtain rfl := castOr_ok capDone
      obtain rfl := castOr_ok slackDone
      rw [capDone, slackDone]
      dsimp only
      split
      · rename_i failed
        rw [failed]
        rfl
      · rename_i applied
        rw [applied]
        rfl
      · rename_i proposed
        rw [proposed]
        rfl

theorem raises_autoApply_start {functionId : Nat} (ready : mayStart db functionId parsed = true) (slack : Int) :
    raises (autoApply env db turn parsed functionId
      (((turn.agent.agentConfig.getText? "function_override_self_approve_canary_cap").bind toInt).getD 20) slack
      (.start (canaryPercent parsed))) = (startsAlone turn parsed && sampleFails parsed) := by
  simp only [mayStart, Bool.and_eq_true, decide_eq_true_eq, Bool.not_eq_true'] at ready
  obtain ⟨⟨⟨positive, small⟩, -⟩, idle⟩ := ready
  have alone : startsAlone turn parsed = decide (turn.agent.autonomyLevel = .auto ∨
      (turn.agent.autonomyLevel = .selfApprove ∧ canaryPercent parsed ≤
        ((turn.agent.agentConfig.getText? "function_override_self_approve_canary_cap").bind toInt).getD 20)) := by
    simp [startsAlone, Bool.decide_or, Bool.decide_and, beq_eq_decide]
  simp only [autoApply, sampleFails, castInt]
  rw [alone, ← raises_castOr "integer"]
  split
  · rename_i decides
    rw [decide_eq_true decides, Bool.true_and]
    split
    · rename_i failed
      rw [failed]
      rfl
    · rename_i sample done
      obtain rfl := castOr_ok done
      rw [done]
      unfold applyFunctionExperimentStart
      have inRange : ¬ (canaryPercent parsed ≤ 0 ∨ 100 < canaryPercent parsed) := by omega
      by_cases tooSmall : ((parsed.getText? "min_sample_size").bind toInt).getD 20 ≤ 0
      · simp [inRange, tooSmall]
      · simp [inRange, tooSmall, idle]
  · rename_i asks
    rw [decide_eq_false asks]
    rfl

theorem raises_autoApply_promote (functionId : Nat) (cap slack : Int) (id : Nat) (experiment : ExperimentRow) :
    raises (autoApply env db turn parsed functionId cap slack (.promote id experiment)) = false := by
  simp only [autoApply]
  split
  · split
    · rfl
    · rfl
  · rfl

theorem raises_autoApply_reject (functionId : Nat) (cap slack : Int) (id : Nat) :
    raises (autoApply env db turn parsed functionId cap slack (.reject id)) = false := by
  simp only [autoApply]
  split
  · rfl
  · rfl

/-- How the checks of an operation on experiments can end. -/
inductive Checked (failed : Bool) :
    Option ExperimentOp → Except String (Except (List (String × Json)) ExperimentOp) → Prop
  | raised (message : String) (op : Option ExperimentOp) : failed = true → Checked failed op (.error message)
  | refused (content : List (String × Json)) : failed = false → Checked failed none (.ok (.error content))
  | passed (op : ExperimentOp) : failed = false → Checked failed (some op) (.ok (.ok op))

def startOp (db : Db) (functionId : Nat) (parsed : Json) : Option ExperimentOp :=
  if startComplete parsed && mayStart db functionId parsed then some (.start (canaryPercent parsed)) else none

theorem startOp_eq_none {functionId : Nat} (unready : (startComplete parsed && mayStart db functionId parsed) = false) :
    startOp db functionId parsed = none := by
  simp only [startOp, unready, Bool.false_eq_true, if_false]

theorem checkStart_checked (functionId : Nat) :
    Checked (startComplete parsed && castFails toInt (parsed.getText? "canary_percent"))
      (startOp db functionId parsed) (checkStart db functionId parsed) := by
  have converted := raises_castOr "integer" toInt (parsed.getText? "canary_percent")
  unfold checkStart castInt
  split
  · rename_i missing
    have incomplete : startComplete parsed = false := by
      rcases missing with gone | gone | gone
      · simp [startComplete, Option.isNone_iff_eq_none.mp gone]
      · simp [startComplete, Option.isNone_iff_eq_none.mp gone]
      · simp [startComplete, Option.isNone_iff_eq_none.mp gone]
    rw [startOp_eq_none (by rw [incomplete, Bool.false_and]), incomplete]
    exact .refused _ rfl
  · rename_i there
    have complete : startComplete parsed = true := by
      simp only [not_or, Bool.not_eq_true, Option.isNone_eq_false_iff] at there
      simp only [startComplete, there.1, there.2.1, there.2.2, Bool.and_self]
    rw [complete, Bool.true_and, ← converted]
    split
    · rename_i message failed
      exact .raised message _ (by rw [failed]; rfl)
    · rename_i percent done
      obtain rfl := castOr_ok done
      rw [done]
      change Checked _ _ (if canaryPercent parsed ≤ 0 ∨ 100 < canaryPercent parsed then _ else _)
      split
      · rename_i outside
        have range : decide (0 < canaryPercent parsed ∧ canaryPercent parsed ≤ 100) = false :=
          decide_eq_false (by omega)
        rw [startOp_eq_none (by simp only [mayStart, range, Bool.false_and, Bool.and_false])]
        exact .refused _ rfl
      · rename_i inside
        have range : decide (0 < canaryPercent parsed ∧ canaryPercent parsed ≤ 100) = true :=
          decide_eq_true (by omega)
        split
        · rename_i disabled
          rw [Bool.not_eq_true'] at disabled
          rw [startOp_eq_none (by simp only [mayStart, disabled, Bool.and_false, Bool.false_and])]
          exact .refused _ rfl
        · rename_i enabled
          rw [Bool.not_eq_true', Bool.not_eq_false] at enabled
          split
          · rename_i busy
            rw [startOp_eq_none (by simp only [mayStart, busy, Bool.not_true, Bool.and_false])]
            exact .refused _ rfl
          · rename_i idle
            rw [Bool.not_eq_true] at idle
            have ready : startOp db functionId parsed = some (.start (canaryPercent parsed)) := by
              simp only [startOp, complete, mayStart, range, enabled, idle, Bool.not_false, Bool.and_self, if_true]
            rw [ready]
            exact .passed _ rfl

theorem checkDecision_checked (functionId : Nat) (decide : Nat → ExperimentRow → ExperimentOp) :
    Checked (uuidFails (parsed.getText? "experiment_id"))
      ((namedExperiment db functionId parsed).map fun found => decide found.1 found.2)
      (checkDecision db functionId parsed decide) := by
  unfold checkDecision castUuid uuidFails namedExperiment
  rw [← raises_castOr "uuid"]
  split
  · rename_i message failed
    exact .raised message _ (by rw [failed]; rfl)
  · rename_i target done
    obtain rfl := castOr_ok done
    rw [done]
    dsimp only
    split
    · rename_i unknown
      rw [unknown]
      exact .refused _ rfl
    · rename_i id experiment known
      rw [known]
      exact .passed _ rfl

theorem Checked.raises_override {failed : Bool} {op : Option ExperimentOp} {functionId : Nat}
    {result : Except String (Except (List (String × Json)) ExperimentOp)} (checked : Checked failed op result) :
    raises (match result with
      | .error message => .error message
      | .ok (.error content) => .ok (turn.refuse env db content [])
      | .ok (.ok op) => overrideFunction env db turn parsed functionId op) =
      (failed || op.any fun op => raises (overrideFunction env db turn parsed functionId op)) := by
  cases checked with
  | raised message op failed =>
    rw [failed]
    rfl
  | refused content ok =>
    rw [ok]
    rfl
  | passed op ok =>
    rw [ok]
    rfl

theorem raises_decision (functionId : Nat) {decide : Nat → ExperimentRow → ExperimentOp}
    (silent : ∀ id experiment cap slack,
      raises (autoApply env db turn parsed functionId cap slack (decide id experiment)) = false) :
    raises (match checkDecision db functionId parsed decide with
      | .error message => .error message
      | .ok (.error content) => .ok (turn.refuse env db content [])
      | .ok (.ok op) => overrideFunction env db turn parsed functionId op) =
      decisionRaises db turn parsed functionId := by
  rw [(checkDecision_checked functionId _).raises_override]
  unfold decisionRaises
  rcases namedExperiment db functionId parsed with _ | ⟨id, experiment⟩
  · rfl
  · simp only [Option.map_some, Option.any_some, Option.isSome_some, Bool.true_and]
    rw [raises_overrideFunction, silent, Bool.or_false]

theorem raises_start (functionId : Nat) :
    raises (match checkStart db functionId parsed with
      | .error message => .error message
      | .ok (.error content) => .ok (turn.refuse env db content [])
      | .ok (.ok op) => overrideFunction env db turn parsed functionId op) =
      startRaises db turn parsed functionId := by
  rw [(checkStart_checked functionId).raises_override]
  unfold startRaises startOp
  cases complete : startComplete parsed with
  | false => rfl
  | true =>
    simp only [Bool.true_and]
    cases ready : mayStart db functionId parsed with
    | false => rfl
    | true =>
      simp only [if_true, Option.any_some, Bool.true_and]
      rw [raises_overrideFunction, raises_autoApply_start ready]

theorem raises_other (db : Db) (turn : Turn) (functionId : Nat) (start : parsed.getText? "op" ≠ some "start_experiment")
    (promote : parsed.getText? "op" ≠ some "promote") (reject : parsed.getText? "op" ≠ some "reject") :
    (∃ content, checkOp db functionId parsed = .ok (.error content)) ∧ opRaises db turn parsed functionId = false := by
  constructor
  · unfold checkOp
    split
    · contradiction
    · contradiction
    · contradiction
    · exact ⟨_, rfl⟩
  · unfold opRaises
    split
    · contradiction
    · contradiction
    · contradiction
    · rfl

theorem raises_op (functionId : Nat) :
    raises (match checkOp db functionId parsed with
      | .error message => .error message
      | .ok (.error content) => .ok (turn.refuse env db content [])
      | .ok (.ok op) => overrideFunction env db turn parsed functionId op) = opRaises db turn parsed functionId := by
  by_cases start : parsed.getText? "op" = some "start_experiment"
  · simp only [checkOp, opRaises, start]
    rw [raises_start]
  · by_cases promote : parsed.getText? "op" = some "promote"
    · simp only [checkOp, opRaises, promote]
      exact raises_decision functionId fun id experiment cap slack =>
        raises_autoApply_promote functionId cap slack id experiment
    · by_cases reject : parsed.getText? "op" = some "reject"
      · simp only [checkOp, opRaises, reject]
        exact raises_decision functionId fun id _ cap slack => raises_autoApply_reject functionId cap slack id
      · obtain ⟨⟨content, refused⟩, silent⟩ := raises_other db turn functionId start promote reject
        rw [refused, silent]
        rfl

def overrideRaises (db : Db) (turn : Turn) (parsed : Json) : Bool :=
  let target := (nonEmpty (parsed.getText? "target_function_id")).bind toUuid
  turn.agent.name == "self_improve" && (uuidFails (parsed.getText? "target_function_id") ||
    (target.filter fun id => (db.functions.get? id).any FunctionRow.isActive).any (opRaises db turn parsed))

theorem raises_proposeOverride : raises (proposeOverride env db turn parsed) = overrideRaises db turn parsed := by
  unfold proposeOverride overrideRaises uuidFails castUuid
  rw [← raises_castOr "uuid"]
  dsimp only
  split
  · rename_i other
    rw [beq_false_of_ne other]
    rfl
  · rename_i same
    rw [beq_iff_eq.mpr (not_not.mp same), Bool.true_and]
    split
    · rename_i failed
      rw [failed]
      rfl
    · rename_i target done
      obtain rfl := castOr_ok done
      rw [done]
      split
      · rename_i unknown
        rw [unknown]
        rfl
      · rename_i functionId known
        rw [known]
        exact raises_op functionId

/-- `fn_set_policy` finds no policy, or the generation it would file is there already. -/
def setPolicyFails (db : Db) (agentId : Nat) (prompt : Option String) (llmConfig : Option Json) : Bool :=
  match db.policyOf agentId with
  | none => true
  | some policy =>
    !((nonEmpty prompt).getD policy.systemPrompt == policy.systemPrompt &&
      (mergedConfig policy llmConfig).same policy.llmConfig) &&
    db.policyHistory.exists? fun _ old =>
      old.policy.agentId == agentId && old.policy.generation == policy.generation

theorem raises_fnSetPolicy (agentId : Nat) (prompt : Option String) (config : Option Json) :
    raises (fnSetPolicy db agentId prompt config) = setPolicyFails db agentId prompt config := by
  unfold fnSetPolicy setPolicyFails
  cases db.policyOf agentId with
  | none => rfl
  | some policy =>
    dsimp only
    split
    · rename_i same
      rw [same]
      rfl
    · rename_i changed
      rw [Bool.not_eq_true] at changed
      rw [changed]
      split
      · rename_i filed
        rw [filed]
        rfl
      · rename_i unfiled
        rw [Bool.not_eq_true] at unfiled
        rw [unfiled]
        rfl

def policyRaises (db : Db) (turn : Turn) (changes : Json) (target : Nat) : Bool :=
  turn.agent.isSystem && turn.agent.autonomyLevel != .adminApproval &&
    setPolicyFails db target (changes.getText? "system_prompt") (changes.get? "llm_config")

theorem raises_changePolicy (changes : Json) (target : Nat) :
    raises (changePolicy env db turn parsed changes target) = policyRaises db turn changes target := by
  unfold changePolicy policyRaises
  rw [← raises_fnSetPolicy]
  split
  · rename_i alone
    rw [alone.1, bne_iff_ne.mpr alone.2]
    split
    · rename_i failed
      rw [failed]
      rfl
    · rename_i done
      rw [done]
      rfl
  · rename_i asks
    have quiet : (turn.agent.isSystem && turn.agent.autonomyLevel != .adminApproval) = false := by
      rw [Bool.eq_false_iff]
      simpa only [ne_eq, Bool.and_eq_true, bne_iff_ne] using asks
    rw [quiet]
    dsimp only
    split
    · rfl
    · rfl

/-- Who the change is about, if the reply gets that far. -/
def changedAgent (db : Db) (turn : Turn) (parsed : Json) : Option Nat :=
  if !parsed.hasKey "target_agent_id" then some turn.task.agentId
  else if turn.agent.name != "self_improve" then none
  else match (nonEmpty (parsed.getText? "target_agent_id")).bind toUuid with
    | none => some turn.task.agentId
    | some target => if db.isActiveAgent target then some target else none

def targetRaises (turn : Turn) (parsed : Json) : Bool :=
  parsed.hasKey "target_agent_id" && turn.agent.name == "self_improve" &&
    uuidFails (parsed.getText? "target_agent_id")

def proposeChangeRaises (db : Db) (turn : Turn) (parsed : Json) : Bool :=
  if parsed.hasKey "target_function_id" then overrideRaises db turn parsed
  else ((parsed.get? "changes").filter fun changes => changes.isObj && !changes.isEmptyObj).any fun changes =>
    allowedChanges changes && (targetRaises turn parsed || (changedAgent db turn parsed).any (policyRaises db turn changes))

theorem raises_changeTarget (changes : Json) :
    raises (match changeTarget env db turn parsed changes with
      | .error message => .error message
      | .ok (.error refused) => .ok refused
      | .ok (.ok target) => changePolicy env db turn parsed changes target) =
      (targetRaises turn parsed || (changedAgent db turn parsed).any (policyRaises db turn changes)) := by
  unfold changeTarget targetRaises changedAgent uuidFails castUuid
  rw [← raises_castOr "uuid"]
  cases named : parsed.hasKey "target_agent_id" with
  | false => exact raises_changePolicy changes turn.task.agentId
  | true =>
    by_cases improver : turn.agent.name = "self_improve"
    · simp only [improver, Bool.not_true, Bool.false_eq_true, if_false, ne_eq, not_true_eq_false, bne_self_eq_false,
        beq_self_eq_true, Bool.true_and]
      cases done : castOr "uuid" toUuid (nonEmpty (parsed.getText? "target_agent_id")) with
      | error message => rfl
      | ok target =>
        obtain rfl := castOr_ok done
        rw [raises_ok, Bool.false_or]
        rcases (nonEmpty (parsed.getText? "target_agent_id")).bind toUuid with _ | target
        · exact raises_changePolicy changes turn.task.agentId
        · dsimp only
          cases active : db.isActiveAgent target with
          | false => rfl
          | true => exact raises_changePolicy changes target
    · simp [improver]

theorem raises_proposeChange : raises (proposeChange env db turn parsed) = proposeChangeRaises db turn parsed := by
  unfold proposeChange proposeChangeRaises
  cases overrides : parsed.hasKey "target_function_id" with
  | true => exact raises_proposeOverride
  | false =>
    simp only [Bool.false_eq_true, if_false]
    rcases proposed : (parsed.get? "changes").filter fun changes => changes.isObj && !changes.isEmptyObj with _ | changes
    · rw [proposed]
      rfl
    · rw [proposed]
      dsimp only [Option.any_some]
      cases allowed : allowedChanges changes with
      | false => rfl
      | true =>
        simp only [Bool.not_true, Bool.false_eq_true, if_false, Bool.true_and]
        exact raises_changeTarget changes

/-! ### Agents, fixes and memories -/

/-- `fn_create_agent` finds the name taken, or the agent's role cannot be made. -/
def createAgentFails (env : Env) (db : Db) (parsed : Json) : Bool :=
  (db.agentNamed (btrim ((parsed.getText? "name").getD ""))).isSome || raises (env.provisionAgentRole db.agents.next)

def createAgentRaises (env : Env) (db : Db) (turn : Turn) (parsed : Json) : Bool :=
  turn.agent.name == "creator" && (filled parsed "name").isSome && (filled parsed "system_prompt").isSome &&
    turn.agent.autonomyLevel != .adminApproval && createAgentFails env db parsed

theorem raises_fnCreateAgent {prompt : Option String} (named : (filled parsed "name").isSome = true) :
    raises (fnCreateAgent env db (parsed.getText? "name") prompt) = createAgentFails env db parsed := by
  have known : btrim ((parsed.getText? "name").getD "") ≠ "" := by
    intro blank
    simp [filled, blank, nonEmpty] at named
  unfold fnCreateAgent createAgentFails
  dsimp only
  rw [if_neg known]
  cases taken : (db.agentNamed (btrim ((parsed.getText? "name").getD ""))).isSome with
  | true => rfl
  | false =>
    simp only [Bool.false_eq_true, if_false, Bool.false_or]
    cases env.provisionAgentRole db.agents.next with
    | error message => rfl
    | ok role => rfl

theorem raises_createAgent : raises (createAgent env db turn parsed) = createAgentRaises env db turn parsed := by
  unfold createAgent createAgentRaises
  by_cases creator : turn.agent.name = "creator"
  · cases named : (filled parsed "name").isSome with
    | false => simp [creator, Option.isSome_eq_false_iff.mp named]
    | true =>
      cases prompted : (filled parsed "system_prompt").isSome with
      | false => simp [creator, Option.isSome_eq_false_iff.mp prompted]
      | true =>
        have complete : ¬ ((filled parsed "name").isNone = true ∨ (filled parsed "system_prompt").isNone = true) := by
          simp [← Option.not_isSome, named, prompted]
        rw [if_neg (not_not.mpr creator), if_neg complete, ← raises_fnCreateAgent named, beq_iff_eq.mpr creator]
        by_cases asks : turn.agent.autonomyLevel = .adminApproval
        · simp [asks]
        · rw [if_pos asks, bne_iff_ne.mpr asks]
          split
          · rename_i failed
            rw [failed]
            rfl
          · rename_i done
            rw [done]
            rfl
  · simp [creator]

def proposeFixRaises (turn : Turn) (parsed : Json) : Bool :=
  turn.agent.name == "fixer" && ((parsed.getText? "fix_kind").bind FixKind.ofText).isSome &&
    uuidFails (parsed.getText? "target_agent_id")

/-- A fix of an agent that exists does not fail. -/
theorem raises_fixAgent (fixKind : FixKind) {target : Nat} (known : (db.agents.get? target).isSome = true) :
    raises (fixAgent env db turn parsed fixKind target) = false := by
  have applies (detail : Json) : raises (applyFix db fixKind target detail) = false := by
    obtain ⟨agent, found⟩ := Option.isSome_iff_exists.mp known
    cases fixKind with
    | revokePermission => rfl
    | deactivateAgent => simp only [applyFix, fnSetAgentActive, found, raises_ok]
  unfold fixAgent
  dsimp only
  split
  · have applied := applies ((parsed.get? "detail").getD .emptyObj)
    split
    · rename_i failed
      rw [failed] at applied
      cases applied
    · rfl
  · rfl

theorem raises_proposeFix : raises (proposeFix env db turn parsed) = proposeFixRaises turn parsed := by
  unfold proposeFix proposeFixRaises uuidFails castUuid
  rw [← raises_castOr "uuid"]
  by_cases fixer : turn.agent.name = "fixer"
  · rw [if_neg (not_not.mpr fixer), beq_iff_eq.mpr fixer, Bool.true_and]
    rcases (parsed.getText? "fix_kind").bind FixKind.ofText with _ | fixKind
    · rfl
    · rw [Option.isSome_some, Bool.true_and]
      cases castOr "uuid" toUuid (nonEmpty (parsed.getText? "target_agent_id")) with
      | error message => rfl
      | ok target =>
        dsimp only
        split
        · rfl
        · rename_i found known
          exact raises_fixAgent fixKind (Option.filter_eq_some_iff.mp known).2
  · simp [fixer]

/-- The memory is written: it has a content and a type that exists. -/
def memoryWritten (parsed : Json) : Bool :=
  btrim ((parsed.getText? "content").getD "") != "" &&
    memoryTypes.contains ((nonEmpty (parsed.getText? "memory_type")).getD "semantic")

def cutoffRaises (env : Env) (sessions : Table SessionRow) (turn : Turn) : Bool :=
  let target := turn.task.input.getText? "target_session_id"
  turn.agent.name == "session_compactor" && turn.task.input.hasKey "target_session_id" &&
    turn.task.input.hasKey "compact_cutoff" &&
    (castFails toUuid target || ((target.bind toUuid).any (fun id => (sessions.get? id).isSome) &&
      castFails env.pg.timestamptzIn (turn.task.input.getText? "compact_cutoff")))

theorem raises_moveCutoff : raises (moveCutoff env db turn) = cutoffRaises env db.sessions turn := by
  unfold moveCutoff cutoffRaises
  dsimp only
  rw [← raises_castOr "uuid" toUuid, ← raises_castOr "timestamp with time zone" env.pg.timestamptzIn]
  split
  · rename_i compacts
    simp only [compacts, beq_self_eq_true, Bool.true_and]
    cases done : castOr "uuid" toUuid (turn.task.input.getText? "target_session_id") with
    | error message => rfl
    | ok target =>
      obtain rfl := castOr_ok done
      rw [raises_ok, Bool.false_or]
      rcases (turn.task.input.getText? "target_session_id").bind toUuid with _ | id
      · rfl
      · rw [Option.any_some]
        dsimp only
        rcases db.sessions.get? id with _ | session
        · rfl
        · simp only [Option.isNone_some, Bool.false_eq_true, if_false, Option.isSome_some, Bool.true_and]
          cases castOr "timestamp with time zone" env.pg.timestamptzIn
            (turn.task.input.getText? "compact_cutoff") with
          | error message => rfl
          | ok cutoff => rfl
  · rename_i other
    have quiet : (turn.agent.name == "session_compactor" && turn.task.input.hasKey "target_session_id" &&
        turn.task.input.hasKey "compact_cutoff") = false := by
      rw [Bool.eq_false_iff]
      simpa only [ne_eq, Bool.and_eq_true, beq_iff_eq, and_assoc] using other
    rw [quiet]
    rfl

theorem queueEmbedding_sessions (agentId memoryId : Option Nat) (input : String) :
    (queueEmbedding env db agentId memoryId input).sessions = db.sessions := by
  unfold queueEmbedding
  split
  · rfl
  · dsimp only
    split
    · rfl
    · rfl

theorem queueMemoryEmbedding_sessions (memoryId : Nat) :
    (queueMemoryEmbedding env db memoryId).sessions = db.sessions := by
  unfold queueMemoryEmbedding
  split
  · rfl
  · exact queueEmbedding_sessions _ _ _

theorem updateTask_sessions (t : Nat) (set : TaskRow → TaskRow) : (db.updateTask env t set).sessions = db.sessions := by
  unfold Db.updateTask
  split
  · rfl
  · rfl

theorem note_sessions (env : Env) (db : Db) (turn : Turn) (content reply : List (String × Json)) :
    (turn.note env db content reply).2.sessions = db.sessions :=
  updateTask_sessions _ _

theorem writeMemory_error {agentId : Nat} {importance subject expires : Option String} {session task : Option Nat}
    {reason : String} (refused : writeMemory env db agentId (parsed.getText? "content") (parsed.getText? "memory_type")
      importance subject expires session task = .error reason) : memoryWritten parsed = false := by
  unfold writeMemory at refused
  unfold memoryWritten
  dsimp only at refused
  split at refused
  · rename_i blank
    rw [blank]
    rfl
  · split at refused
    · rename_i unknown
      rw [Bool.not_eq_true'] at unknown
      rw [unknown, Bool.and_false]
    · cases refused

theorem writeMemory_ok {agentId memoryId : Nat} {importance subject expires : Option String}
    {session task : Option Nat} {memoryType : String} {db' : Db}
    (written : writeMemory env db agentId (parsed.getText? "content") (parsed.getText? "memory_type")
      importance subject expires session task = .ok (memoryId, memoryType, db')) :
    memoryWritten parsed = true ∧ db'.sessions = db.sessions := by
  unfold writeMemory at written
  unfold memoryWritten
  dsimp only at written
  split at written
  · cases written
  · rename_i filled
    split at written
    · cases written
    · rename_i known
      obtain ⟨-, rest⟩ := Prod.mk.inj (Except.ok.inj written)
      obtain ⟨-, rfl⟩ := Prod.mk.inj rest
      rw [Bool.not_eq_true', Bool.not_eq_false] at known
      exact ⟨by rw [known, bne_iff_ne.mpr filled]; rfl, queueMemoryEmbedding_sessions _⟩

def rememberRaises (env : Env) (db : Db) (turn : Turn) (parsed : Json) : Bool :=
  memoryWritten parsed && cutoffRaises env db.sessions turn

theorem raises_remember : raises (remember env db turn parsed) = rememberRaises env db turn parsed := by
  unfold remember rememberRaises
  split
  · rename_i refused
    rw [writeMemory_error refused]
    rfl
  · rename_i memoryId memoryType after written
    obtain ⟨filled, sessions⟩ := writeMemory_ok written
    rw [filled, Bool.true_and, ← sessions, ← note_sessions env after turn [("remembered", idJson memoryId),
      ("memory_type", .str memoryType)] [("memory_id", idJson memoryId)], ← raises_moveCutoff]
    dsimp only
    split
    · rename_i failed
      rw [failed]
      rfl
    · rename_i done
      rw [done]
      rfl

/-! ### All actions -/

/-- The action raises on this reply. -/
def actRaises (env : Env) (db : Db) (turn : Turn) (parsed : Json) : Action → Bool
  | .delegate => delegateRaises env db turn parsed
  | .proposeChange => proposeChangeRaises db turn parsed
  | .createAgent => createAgentRaises env db turn parsed
  | .updateFunction => uuidFails (parsed.getText? "function_id")
  | .proposeFix => proposeFixRaises turn parsed
  | .remember => rememberRaises env db turn parsed
  | _ => false

theorem raises_act (action : Action) : raises (act env db turn parsed action) = actRaises env db turn parsed action := by
  cases action with
  | delegate => rw [act, actRaises, raises_delegate]
  | proposeChange => rw [act, actRaises, raises_proposeChange]
  | createAgent => rw [act, actRaises, raises_createAgent]
  | updateFunction => rw [act, actRaises, raises_updateFunction]
  | proposeFix => rw [act, actRaises, raises_proposeFix]
  | remember => rw [act, actRaises, raises_remember]
  | finalAnswer | executeSql | callFunction | runProcedure | searchAgents | recallMemories | awaitHuman | awaitChildren
    | createFunction => rfl

theorem ancestorAgents_congr {db' : Db} (tasks : db'.tasks = db.tasks) (fuel t : Nat) :
    ancestorAgents db' fuel t = ancestorAgents db fuel t := by
  induction fuel generalizing t with
  | zero => rfl
  | succ fuel ih => simp only [ancestorAgents, tasks, ih]

theorem agentChain_congr {db' : Db} (agents : db'.agents = db.agents) (fuel agentId : Nat) :
    agentChain db' fuel agentId = agentChain db fuel agentId := by
  induction fuel generalizing agentId with
  | zero => rfl
  | succ fuel ih => simp only [agentChain, agents, ih]

theorem agentHasPermission_congr {db' : Db} (agents : db'.agents = db.agents)
    (permissions : db'.permissions = db.permissions) (agentId : Nat) (type : ResourceType) (ref : Option String) :
    agentHasPermission env db' agentId type ref = agentHasPermission env db agentId type ref := by
  unfold agentHasPermission Db.chain
  rw [agents, permissions]
  simp only [agentChain_congr agents]

/-- The tables that a completion has touched before its reply is looked at. -/
def Db.recording (db : Db) (calls : Table (CallRow OutboundBody)) (schedules : Table ScheduleRow)
    (logs : List LogRow) (submits : List (Queue × Nat)) : Db :=
  { db with outboundCalls := calls, schedules := schedules, logs := logs, submits := submits }

/-- None of them decides whether an action raises. -/
theorem actRaises_recording (calls : Table (CallRow OutboundBody)) (schedules : Table ScheduleRow)
    (logs : List LogRow) (submits : List (Queue × Nat)) (action : Action) :
    actRaises env (db.recording calls schedules logs submits) turn parsed action =
      actRaises env db turn parsed action := by
  cases action with
  | delegate =>
    have tasks : (db.recording calls schedules logs submits).tasks = db.tasks := rfl
    have agents : (db.recording calls schedules logs submits).agents = db.agents := rfl
    have permissions : (db.recording calls schedules logs submits).permissions = db.permissions := rfl
    have refusal (name : Option String) (target : Nat) :
        delegateRefusal env (db.recording calls schedules logs submits) turn name target =
          delegateRefusal env db turn name target := by
      simp only [delegateRefusal, ancestorAgents_congr tasks, agentHasPermission_congr agents permissions, tasks]
    simp only [actRaises, delegateRaises, refusal]
    rfl
  | proposeChange | createAgent | updateFunction | proposeFix | remember | finalAnswer | executeSql
    | callFunction | runProcedure | searchAgents | recallMemories | awaitHuman | awaitChildren | createFunction => rfl

theorem raises_submitReply (payload : Json) :
    raises (submitReply env db turn payload) =
      (((parsedReply payload).bind fun value => value.getText? "action").bind Action.ofText).any
        (actRaises env db turn ((parsedReply payload).getD .null)) := by
  unfold submitReply
  dsimp only
  split
  · rename_i unknown
    rw [unknown]
    rfl
  · rename_i action known
    rw [known, Option.any_some, raises_act]
    exact actRaises_recording db.outboundCalls db.schedules _ db.submits action

/-- `fn_submit_result` raises on a model's reply to a running task of an active agent. -/
def replyRaises (env : Env) (db : Db) (t : Nat) (reply : Option Json) : Bool :=
  (db.tasks.get? t).any fun task =>
    ((db.agents.get? task.agentId).filter AgentRow.isActive).any fun agent =>
      ((reply.bind fun value => value.getText? "action").bind Action.ofText).any
        (actRaises env db ⟨t, task, agent, db.policyOf task.agentId⟩ (reply.getD .null))

theorem replyRaises_recording (calls : Table (CallRow OutboundBody)) (schedules : Table ScheduleRow)
    (logs : List LogRow) (submits : List (Queue × Nat)) (t : Nat) (reply : Option Json) :
    replyRaises env (db.recording calls schedules logs submits) t reply = replyRaises env db t reply := by
  have same (turn : Turn) (parsed : Json) :
      actRaises env (db.recording calls schedules logs submits) turn parsed = actRaises env db turn parsed := by
    funext action
    exact actRaises_recording calls schedules logs submits action
  unfold replyRaises
  simp only [same]
  rfl

theorem raises_fnSubmitResult {t : Nat} {task : TaskRow} {payload : Json} (found : db.tasks.get? t = some task)
    (running : task.status = .running) (response : payload.getText? "type" = some "llm_response") :
    raises (fnSubmitResult env db t payload) = replyRaises env db t (parsedReply payload) := by
  simp only [fnSubmitResult, replyRaises, found, running, ne_eq, not_true_eq_false, if_false, Option.any_some]
  split
  · rename_i inactive
    rw [inactive]
    rfl
  · rename_i agent active
    rw [active, Option.any_some]
    simp only [submitPayload, response]
    exact raises_submitReply payload

end Allgres
