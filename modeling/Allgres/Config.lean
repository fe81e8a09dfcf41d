import Allgres.Tables

/-! The tunables of an agent. -/

namespace Allgres

open Relational Jsonb Sql

/-- A key of `agent_config` that some function reads as an integer. -/
structure Dial where
  key : String
  min : Int
  max : Int

/-- The keys that are checked when they are set. Any other key is left alone. -/
def dials : List Dial := [
  ⟨"compaction_threshold", 1, 1000000⟩,
  ⟨"compaction_keep_recent", 0, 1000000⟩,
  ⟨"function_override_self_approve_canary_cap", 1, 100⟩,
  ⟨"function_override_auto_promote_slack_pct", 0, 100⟩]

/-- A number is compared by its value, whatever its scale. -/
def validateNumber (dial : Dial) (mantissa : Int) (scale : Nat) : Except String Unit :=
  if mantissa % 10 ^ scale ≠ 0 then
    .error ("agent_config." ++ dial.key ++ " must be a whole number, got " ++ Json.numText mantissa scale)
  else if mantissa < dial.min * 10 ^ scale ∨ dial.max * 10 ^ scale < mantissa then
    .error ("agent_config." ++ dial.key ++ " must be between " ++ toString dial.min ++ " and " ++
      toString dial.max ++ ", got " ++ Json.numText mantissa scale)
  else .ok ()

def validateDial (config : Json) (dial : Dial) : Except String Unit :=
  match config.get? dial.key with
  | none | some .null => .ok ()
  | some (.num mantissa scale) => validateNumber dial mantissa scale
  | some value => .error ("agent_config." ++ dial.key ++ " must be a number, got " ++ value.typeName)

/-- The first key that fails its check raises. -/
def validateDials (config : Json) : List Dial → Except String Unit
  | [] => .ok ()
  | dial :: rest =>
    match validateDial config dial with
    | .error message => .error message
    | .ok () => validateDials config rest

def validateAgentConfig (config : Json) : Except String Unit := validateDials config dials

/-- The keys that are sent replace those that are stored; a null clears a key. -/
def fnSetAgentConfig (db : Db) (agentId : Nat) (config : Option Json) : Except String (Json × Db) :=
  match config.filter Json.isObj with
  | none => .error "agent_config must be a JSON object"
  | some config =>
    match validateAgentConfig config with
    | .error message => .error message
    | .ok () =>
      match db.agents.get? agentId with
      | none => .error "agent not found"
      | some agent =>
        let stored := (agent.agentConfig.concat config).stripNulls
        let db := { db with
          agents := db.agents.modify agentId fun agent => { agent with agentConfig := stored } }
        .ok (.build [("ok", .bool true), ("agent_config", stored)],
          db.audit "agents.update" (.build [("agent_id", idJson agentId), ("agent_config", config)]))

/-- The canary cap and the promote slack of a named preset. -/
def autonomyPreset : Option String → Option (Int × Int)
  | some "conservative" => some (10, 0)
  | some "balanced" => some (20, 0)
  | some "aggressive" => some (50, 5)
  | _ => none

def fnSetFunctionOverrideAutonomyPreset (db : Db) (agentId : Nat) (preset : Option String) :
    Except String (Json × Db) :=
  match autonomyPreset preset with
  | none => .error ("unknown function_override autonomy preset: " ++ preset.getD "<NULL>" ++
      " (use conservative, balanced, or aggressive)")
  | some (cap, slack) =>
    fnSetAgentConfig db agentId (some (.build [("function_override_self_approve_canary_cap", .num cap 0),
      ("function_override_auto_promote_slack_pct", .num slack 0)]))

end Allgres
