import Allgres.Config
import Allgres.Submit.Raises
import Allgres.Writes.Machine

/-! Whether the functions that read `agent_config` can read what was accepted. -/

namespace Allgres

open Relational Jsonb Sql Runs

variable {env : Env} {db db' start : Db} {mark : Mark} {σ σ' : Core} {id : Nat} {agent : AgentRow} {dial : Dial}

/-! ### What is accepted -/

/-- A value that the check of the key lets through: a whole number within the bounds, in any notation. -/
inductive Allowed (dial : Dial) : Json → Prop
  | null : Allowed dial .null
  | number {mantissa : Int} {scale : Nat} : mantissa % 10 ^ scale = 0 → dial.min * 10 ^ scale ≤ mantissa →
      mantissa ≤ dial.max * 10 ^ scale → Allowed dial (.num mantissa scale)

theorem allowed_of_validateDial {config value : Json} (valid : validateDial config dial = .ok ())
    (found : config.get? dial.key = some value) : Allowed dial value := by
  unfold validateDial at valid
  rw [found] at valid
  cases value with
  | null => exact .null
  | num mantissa scale =>
    simp only [validateNumber] at valid
    split_ifs at valid with whole bounds
    rw [not_not] at whole
    rw [not_or, Int.not_lt, Int.not_lt] at bounds
    exact .number whole bounds.1 bounds.2
  | bool | str | arr | obj => cases valid

theorem validateDials_ok {config : Json} {list : List Dial} (valid : validateDials config list = .ok ())
    (member : dial ∈ list) : validateDial config dial = .ok () := by
  induction list with
  | nil => cases member
  | cons first rest ih =>
    unfold validateDials at valid
    split at valid
    · cases valid
    · rename_i passed
      rcases List.mem_cons.mp member with rfl | later
      · exact passed
      · exact ih valid later

/-- A configuration all of whose checked keys have passed their check. -/
inductive Accepted : Json → Prop
  | obj {fields : List (String × Json)} :
      (∀ dial ∈ dials, ∀ value, (dial.key, value) ∈ fields → Allowed dial value) → Accepted (.obj fields)

theorem Accepted.empty : Accepted .emptyObj := by
  refine .obj fun dial member value inside => ?_
  cases inside

theorem Accepted.get {config value : Json} (checked : Accepted config) (member : dial ∈ dials)
    (found : config.get? dial.key = some value) : Allowed dial value := by
  obtain ⟨allowed⟩ := checked
  exact allowed dial member value (Json.mem_of_lookup found)

/-- Merging an accepted configuration into a stored one leaves an accepted one. -/
theorem Accepted.merge {old config : Json} (checked : Accepted old) (object : config.isObj = true)
    (distinct : config.keys.Nodup) (valid : validateAgentConfig config = .ok ()) :
    Accepted (old.concat config).stripNulls := by
  cases checked with
  | @obj fields allowed =>
    cases config with
    | obj sent =>
      refine .obj fun dial member value inside => ?_
      obtain ⟨before, merged, rfl, -⟩ := Json.mem_stripFields inside
      have kept : Allowed dial before := by
        rcases Json.mem_setFields merged with stored | given
        · exact allowed dial member before stored
        · have found : (Json.obj sent).get? dial.key = some before := Json.lookup_of_mem distinct given
          exact allowed_of_validateDial (validateDials_ok valid member) found
      cases kept with
      | null => exact .null
      | number whole least most => exact .number whole least most
    | null | bool | num | str | arr => cases object

/-! ### What can be read -/

/-- The casts of all readers of the configuration go through. -/
structure Readable (config : Json) : Prop where
  threshold : ∃ value, castInt (config.getText? "compaction_threshold") = .ok value
  keepRecent : ∃ value, castInt (config.getText? "compaction_keep_recent") = .ok value
  canaryCap : ∃ value, castInt (config.getText? "function_override_self_approve_canary_cap") = .ok value
  promoteSlack : ∃ value, castInt (config.getText? "function_override_auto_promote_slack_pct") = .ok value

/-- Every key that is read is a key that is checked, and the other way round. -/
theorem readable_iff_dials {config : Json} :
    Readable config ↔ ∀ dial ∈ dials, ∃ value, castInt (config.getText? dial.key) = .ok value := by
  constructor
  · intro readable dial member
    simp only [dials, List.mem_cons, List.not_mem_nil, or_false] at member
    rcases member with rfl | rfl | rfl | rfl
    · exact readable.threshold
    · exact readable.keepRecent
    · exact readable.canaryCap
    · exact readable.promoteSlack
  · intro reads
    exact ⟨reads ⟨"compaction_threshold", 1, 1000000⟩ (by simp [dials]),
      reads ⟨"compaction_keep_recent", 0, 1000000⟩ (by simp [dials]),
      reads ⟨"function_override_self_approve_canary_cap", 1, 100⟩ (by simp [dials]),
      reads ⟨"function_override_auto_promote_slack_pct", 0, 100⟩ (by simp [dials])⟩

theorem dials_within (member : dial ∈ dials) : 0 ≤ dial.min ∧ dial.max ≤ 1000000 := by
  simp only [dials, List.mem_cons, List.not_mem_nil, or_false] at member
  rcases member with rfl | rfl | rfl | rfl <;> decide

theorem castInt_point {text : String} (point : '.' ∈ text.toList) : ¬ ∃ value, castInt (some text) = .ok value := by
  intro ⟨value, read⟩
  simp only [castInt, castOr, toInt_point point] at read
  cases read

/-- An accepted number can be read exactly if it is written without a point. -/
theorem castInt_allowed {value : Json} (member : dial ∈ dials) (allowed : Allowed dial value) :
    (∃ read, castInt value.asText = .ok read) ↔ ∀ mantissa scale, value = .num mantissa scale → scale = 0 := by
  cases allowed with
  | null =>
    refine ⟨fun _ mantissa scale same => ?_, fun _ => ⟨none, rfl⟩⟩
    cases same
  | @number mantissa scale whole least most =>
    have text : (Json.num mantissa scale).asText = some (Json.numText mantissa scale) := rfl
    rw [text]
    constructor
    · intro reads other power same
      obtain ⟨rfl, rfl⟩ := Json.num.inj same
      by_contra fraction
      exact castInt_point (Json.numText_point fraction) reads
    · intro plain
      obtain rfl := plain mantissa scale rfl
      obtain ⟨low, high⟩ := dials_within member
      simp only [pow_zero, mul_one] at least most
      obtain ⟨n, rfl⟩ := Int.eq_ofNat_of_zero_le (le_trans low least)
      have small : n ≤ 2147483647 := by omega
      refine ⟨some n, ?_⟩
      rw [Json.numText_whole]
      simp only [castInt, castOr, toInt_repr small]

/-- The checked keys whose value is a number are written without a point. -/
def Undotted (config : Json) : Prop :=
  ∀ dial ∈ dials, ∀ mantissa scale, config.get? dial.key = some (.num mantissa scale) → scale = 0

theorem Accepted.readable_iff {config : Json} (checked : Accepted config) : Readable config ↔ Undotted config := by
  rw [readable_iff_dials]
  have each (dial : Dial) (member : dial ∈ dials) :
      (∃ value, castInt (config.getText? dial.key) = .ok value) ↔
        ∀ mantissa scale, config.get? dial.key = some (.num mantissa scale) → scale = 0 := by
    rcases found : config.get? dial.key with _ | value
    · have absent : config.getText? dial.key = none := by rw [Json.getText?, found]; rfl
      rw [absent]
      refine ⟨fun _ mantissa scale same => ?_, fun _ => ⟨none, rfl⟩⟩
      cases same
    · have present : config.getText? dial.key = value.asText := by rw [Json.getText?, found]; rfl
      rw [present, castInt_allowed member (checked.get member found)]
      simp only [Option.some.injEq]
  constructor
  · intro reads dial member
    exact (each dial member).mp (reads dial member)
  · intro plain dial member
    exact (each dial member).mpr (plain dial member)

/-! ### The readers -/

theorem raises_of_readable {config : Json} {key : String} (reads : ∃ value, castInt (config.getText? key) = .ok value) :
    castFails toInt (config.getText? key) = false := by
  obtain ⟨value, read⟩ := reads
  rw [← raises_castOr "integer", show castOr "integer" toInt (config.getText? key) = .ok value from read]
  rfl

theorem configFails_of_readable {turn : Turn} (readable : Readable turn.agent.agentConfig) :
    configFails turn = false := by
  rw [configFails, raises_of_readable readable.canaryCap, raises_of_readable readable.promoteSlack]
  rfl

theorem fnCreateSession_ok {goal : String} {c : Char} (member : c ∈ goal.toList) (solid : c ≠ ' ')
    (active : db.isActiveAgent id = true) :
    ∃ created, fnCreateSession env db id (some goal) none none = .ok created := by
  have given : btrim ((some goal).getD "") ≠ "" := btrim_ne_empty member solid
  simp only [fnCreateSession, if_neg given, active]
  exact ⟨_, rfl⟩

/-- The trigger of the compaction returns if it can read the compactor's configuration. -/
theorem maybeTriggerCompaction_ok {s : Nat} {tasks : List Nat}
    (readable : ∀ id agent, db.agentNamed "session_compactor" = some (id, agent) → Readable agent.agentConfig) :
    ∃ after, maybeTriggerCompaction env db s tasks = .ok after := by
  unfold maybeTriggerCompaction
  split
  · exact ⟨db, rfl⟩
  · rename_i compactor agent chosen
    obtain ⟨named, active⟩ := Option.filter_eq_some_iff.mp chosen
    obtain ⟨found, -⟩ := Table.find?_some named
    have active : db.isActiveAgent compactor = true := by
      rw [Db.isActiveAgent, found]
      exact active
    have reads := readable compactor agent named
    obtain ⟨threshold, first⟩ := reads.threshold
    obtain ⟨keep, second⟩ := reads.keepRecent
    rw [first, second]
    dsimp only
    split_ifs
    · exact ⟨db, rfl⟩
    · exact ⟨db, rfl⟩
    · split
      · exact ⟨db, rfl⟩
      · unfold startCompaction
        have letter : 's' ∈ ("session_compact:" ++ uuidText s).toList := by
          rw [String.toList_append, List.mem_append]
          exact .inl (by decide)
        obtain ⟨created, opened⟩ := @fnCreateSession_ok env db compactor _ 's' letter (by decide) active
        rw [opened]
        exact ⟨_, rfl⟩

/-! ### Runs -/

inductive ConfigLabel
  | call (env : Env) (op : Op)
  | setConfig (agentId : Nat) (config : Json)
  | other

/-- The agent is new, or has the configuration it had before. -/
def SameConfig (before : Table AgentRow) (id : Nat) (agent : AgentRow) : Prop :=
  agent.agentConfig = .emptyObj ∨ ∃ old, before.get? id = some old ∧ agent.agentConfig = old.agentConfig

/-- One transaction. `other` stands for every function that does not write `agent_config`; an object has each
key once. -/
inductive ConfigStep : ConfigLabel → Db → Db → Prop
  | commit {env : Env} {op : Op} {db db' : Db} : op.run env db = .ok db' → ConfigStep (.call env op) db db'
  | setConfig {agentId : Nat} {config reply : Json} {db db' : Db} : config.keys.Nodup →
      fnSetAgentConfig db agentId (some config) = .ok (reply, db') → ConfigStep (.setConfig agentId config) db db'
  | other {db db' : Db} : (∀ id agent, db'.agents.get? id = some agent → SameConfig db.agents id agent) →
      ConfigStep .other db db'

abbrev ConfigRun (start db : Db) : Prop := Path ConfigStep (fun _ _ => True) start db

theorem Write.config (write : Write env mark σ σ') (now : σ'.agents.get? id = some agent) :
    SameConfig σ.agents id agent := by
  cases write with
  | newAgent new policy unnamed plain owner =>
    rw [Table.get?_insert] at now
    split at now
    · obtain rfl := Option.some.inj now
      exact .inl plain
    · exact .inr ⟨agent, now, rfl⟩
  | agent target set same =>
    rw [Table.get?_modify] at now
    split at now
    · rename_i here
      obtain ⟨old, found, rfl⟩ := Option.map_eq_some_iff.mp now
      exact .inr ⟨old, here ▸ found, (same old).2⟩
    · exact .inr ⟨agent, now, rfl⟩
  | _ => exact .inr ⟨agent, now, rfl⟩

theorem accepted_of_same {before : Table AgentRow} (same : SameConfig before id agent)
    (held : ∀ id agent, before.get? id = some agent → Accepted agent.agentConfig) : Accepted agent.agentConfig := by
  rcases same with plain | ⟨old, found, kept⟩
  · rw [plain]
    exact .empty
  · rw [kept]
    exact held id old found

/-- In every run the stored configurations have passed the checks. -/
theorem accepted_of_run (fresh : ∀ id agent, start.agents.get? id = some agent → agent.agentConfig = .emptyObj)
    (run : ConfigRun start db) (found : db.agents.get? id = some agent) : Accepted agent.agentConfig := by
  have kept : ∀ id agent, db.agents.get? id = some agent → Accepted agent.agentConfig := by
    refine run.invariant (P := fun db => ∀ id agent, db.agents.get? id = some agent → Accepted agent.agentConfig) ?_ ?_
    · intro label before after step _ held id agent now
      cases step with
      | commit done =>
        have writes := (Op.writes done).invariant
          (P := fun σ => ∀ id agent, σ.agents.get? id = some agent → Accepted agent.agentConfig)
          (fun mark σ σ' write _ held id agent now => accepted_of_same (write.config now) held) held
        exact writes id agent now
      | setConfig distinct done =>
        unfold fnSetAgentConfig at done
        split at done
        · cases done
        · rename_i config given
          split at done
          · cases done
          · rename_i valid
            split at done
            · cases done
            · rename_i old found
              obtain ⟨same, object⟩ := Option.filter_eq_some_iff.mp given
              obtain rfl := Option.some.inj same
              obtain ⟨-, rfl⟩ := Prod.mk.inj (Except.ok.inj done)
              have merged := (held _ old found).merge object distinct valid
              dsimp only [Db.audit] at now
              rw [Table.get?_modify] at now
              split at now
              · obtain ⟨row, here, rfl⟩ := Option.map_eq_some_iff.mp now
                exact merged
              · exact held id agent now
      | other same => exact accepted_of_same (same id agent now) held
    · intro id agent found
      rw [fresh id agent found]
      exact .empty
  exact kept id agent found

/-! ### Accepted configurations -/

/-- No reader of the agent's configuration raises because of it: no cast does, the trigger of the compaction
returns, and a proposal on an experiment fails only where applying it does. -/
structure Digested (db : Db) (id : Nat) (agent : AgentRow) : Prop where
  casts : Readable agent.agentConfig
  compaction : db.agentNamed "session_compactor" = some (id, agent) → ∀ env s tasks,
    ∃ after, maybeTriggerCompaction env db s tasks = .ok after
  overrides : ∀ (env : Env) (turn : Turn) (parsed : Json) (functionId : Nat) (op : ExperimentOp), turn.agent = agent →
    raises (overrideFunction env db turn parsed functionId op) = true →
    ∃ cap slack, raises (autoApply env db turn parsed functionId cap slack op) = true

/-- An accepted configuration can be read by every reader exactly if no checked number in it is written with a
point. -/
theorem config_digested_iff (fresh : ∀ id agent, start.agents.get? id = some agent → agent.agentConfig = .emptyObj)
    (run : ConfigRun start db) (found : db.agents.get? id = some agent) :
    Digested db id agent ↔ Undotted agent.agentConfig := by
  have readable := (accepted_of_run fresh run found).readable_iff
  constructor
  · intro digested
    exact readable.mp digested.casts
  · intro undotted
    have reads := readable.mpr undotted
    refine ⟨reads, ?_, ?_⟩
    · intro named env s tasks
      refine maybeTriggerCompaction_ok fun other row chosen => ?_
      obtain ⟨rfl, rfl⟩ := Prod.mk.inj (Option.some.inj (named.symm.trans chosen))
      exact reads
    · intro env turn parsed functionId op same raised
      rw [raises_overrideFunction, configFails_of_readable (same ▸ reads), Bool.false_or] at raised
      exact ⟨_, _, raised⟩

/-- The small installation with an agent that compacts sessions. -/
def compactorDb : Db :=
  { helperDb (helperPolicy 5 none) with
    agents := (helperDb (helperPolicy 5 none)).agents.insert ⟨"session_compactor", true, true, none, .auto, .emptyObj⟩ }

theorem compactorDb_plain : ∀ id agent, compactorDb.agents.get? id = some agent → agent.agentConfig = .emptyObj := by
  intro id agent found
  have listed : (id, agent) ∈ compactorDb.agents.rows := Table.mem_rows_iff.mpr found
  have all : ∀ row ∈ compactorDb.agents.rows, row.2.agentConfig = .emptyObj := by
    intro row member
    simp only [compactorDb, helperDb, Table.insert, Table.empty, List.nil_append, List.cons_append, List.mem_cons,
      List.not_mem_nil, or_false] at member
    rcases member with rfl | rfl <;> rfl
  exact all _ listed

/-- The configuration `{"compaction_threshold": 40}`, with the number in a given notation. -/
def threshold (mantissa : Int) (scale : Nat) : Json := .obj [("compaction_threshold", .num mantissa scale)]

/-- The compactor with a new threshold. -/
theorem compactor_configured {mantissa : Int} {scale : Nat}
    (valid : validateAgentConfig (threshold mantissa scale) = .ok ()) :
    ∃ db agent, ConfigRun compactorDb db ∧ db.agentNamed "session_compactor" = some (1, agent) ∧
      db.agents.get? 1 = some agent ∧ agent.agentConfig = threshold mantissa scale := by
  have done : ∃ reply db, fnSetAgentConfig compactorDb 1 (some (threshold mantissa scale)) = .ok (reply, db) ∧
      db.agentNamed "session_compactor" = some (1, ⟨"session_compactor", true, true, none, .auto,
        threshold mantissa scale⟩) ∧
      db.agents.get? 1 = some ⟨"session_compactor", true, true, none, .auto, threshold mantissa scale⟩ := by
    have object : (some (threshold mantissa scale)).filter Json.isObj = some (threshold mantissa scale) := rfl
    unfold fnSetAgentConfig
    rw [object]
    dsimp only
    rw [valid]
    exact ⟨_, _, rfl, rfl, rfl⟩
  obtain ⟨reply, db, configured, named, found⟩ := done
  exact ⟨db, _, .single (.setConfig (by simp [threshold, Json.keys]) configured) trivial, named, found, rfl⟩

theorem config_digested_iff_forty : ∃ db agent, ConfigRun compactorDb db ∧ db.agents.get? 1 = some agent ∧
    agent.agentConfig = threshold 40 0 ∧ Digested db 1 agent := by
  obtain ⟨db, agent, run, named, found, stored⟩ := @compactor_configured 40 0 (by decide +kernel)
  refine ⟨db, agent, run, found, stored, (config_digested_iff compactorDb_plain run found).mpr ?_⟩
  rw [stored]
  intro dial member mantissa scale given
  have inside := Json.mem_of_lookup given
  obtain ⟨rfl, rfl⟩ := Json.num.inj (Prod.mk.inj (List.mem_singleton.mp inside)).2
  rfl

/-- The threshold 40.0 is accepted, and then no compaction check of any session returns. -/
theorem not_config_digested : ¬ ∀ start db id agent,
    (∀ id agent, start.agents.get? id = some agent → agent.agentConfig = .emptyObj) → ConfigRun start db →
      db.agents.get? id = some agent → Digested db id agent := by
  intro claim
  obtain ⟨db, agent, run, named, found, stored⟩ := @compactor_configured 400 1 (by decide +kernel)
  have digested := claim compactorDb db 1 agent compactorDb_plain run found
  obtain ⟨value, read⟩ := digested.casts.threshold
  rw [stored] at read
  have raised : raises (castInt ((threshold 400 1).getText? "compaction_threshold")) = true := by decide +kernel
  rw [read] at raised
  cases raised

end Allgres
