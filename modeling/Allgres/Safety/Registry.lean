import Allgres.Edits.System

/-! The registry of agents, policies, functions and experiments over whole runs: names stay unique and fixed,
every agent has one policy, and an experiment runs until it is decided, once. -/

namespace Allgres

open Relational

/-- The function whose traffic a running experiment takes. -/
def ExperimentRow.occupies (experiment : ExperimentRow) : Option Nat :=
  if experiment.status = .running then some experiment.functionId else none

structure Registered (db : Db) : Prop where
  agents : db.agents.Indexed fun agent => some agent.name
  functions : db.functions.Indexed fun function => some function.name
  trials : db.experiments.Indexed ExperimentRow.occupies
  policies : db.policies.Indexed fun policy => some policy.agentId
  governed : ∀ agentId agent, db.agents.get? agentId = some agent →
    ∃ policyId policy, db.policies.get? policyId = some policy ∧ policy.agentId = agentId
  owned : ∀ policyId policy, db.policies.get? policyId = some policy → (db.agents.get? policy.agentId).isSome = true

def AgentRow.Same (old new : AgentRow) : Prop := new.name = old.name ∧ new.isSystem = old.isSystem

def FunctionRow.Same (old new : FunctionRow) : Prop := new.name = old.name ∧ new.handler = old.handler

/-- A verdict ends a running experiment; nothing else of an experiment ever changes. -/
structure ExperimentRow.Decided (old new : ExperimentRow) : Prop where
  trial : new = { old with status := new.status, decidedAt := new.decidedAt }
  once : old.status ≠ .running → new = old

/-- Nothing of the registry is deleted or renamed. -/
structure Continued (before after : Db) : Prop where
  agents : Evolves AgentRow.Same (fun _ => False) before.agents after.agents
  functions : Evolves FunctionRow.Same (fun _ => False) before.functions after.functions
  experiments : Evolves ExperimentRow.Decided (fun _ => False) before.experiments after.experiments

theorem AgentRow.Same.refl (agent : AgentRow) : agent.Same agent := ⟨rfl, rfl⟩

theorem FunctionRow.Same.refl (function : FunctionRow) : function.Same function := ⟨rfl, rfl⟩

theorem FunctionRow.Same.of_unbuilt {old new : FunctionRow} (same : new.unbuilt = old.unbuilt) : old.Same new := by
  have named : new.unbuilt.name = old.unbuilt.name := by rw [same]
  have handled : new.unbuilt.handler = old.unbuilt.handler := by rw [same]
  exact ⟨named, handled⟩

theorem ExperimentRow.Decided.refl (experiment : ExperimentRow) : experiment.Decided experiment := ⟨rfl, fun _ => rfl⟩

theorem AgentRow.Same.trans {a b c : AgentRow} (first : a.Same b) (second : b.Same c) : a.Same c :=
  ⟨second.1.trans first.1, second.2.trans first.2⟩

theorem FunctionRow.Same.trans {a b c : FunctionRow} (first : a.Same b) (second : b.Same c) : a.Same c :=
  ⟨second.1.trans first.1, second.2.trans first.2⟩

theorem ExperimentRow.Decided.trans {a b c : ExperimentRow} (first : a.Decided b) (second : b.Decided c) :
    a.Decided c where
  trial := by
    rw [second.trial, first.trial]
  once decided := by
    have same := first.once decided
    rw [second.once (same ▸ decided), same]

section Tables

variable {before after : Db}

theorem Continued.of_tables (agents : after.agents = before.agents) (functions : after.functions = before.functions)
    (experiments : after.experiments = before.experiments) : Continued before after := by
  refine ⟨?_, ?_, ?_⟩
  · rw [agents]
    exact .refl AgentRow.Same.refl _
  · rw [functions]
    exact .refl FunctionRow.Same.refl _
  · rw [experiments]
    exact .refl ExperimentRow.Decided.refl _

theorem Continued.trans {a b c : Db} (first : Continued a b) (second : Continued b c) : Continued a c where
  agents := .trans AgentRow.Same.trans (fun _ => id) first.agents second.agents
  functions := .trans FunctionRow.Same.trans (fun _ => id) first.functions second.functions
  experiments := .trans ExperimentRow.Decided.trans (fun _ => id) first.experiments second.experiments

theorem Registered.of_tables (registered : Registered before) (agents : after.agents = before.agents)
    (functions : after.functions = before.functions) (experiments : after.experiments = before.experiments)
    (policies : after.policies = before.policies) : Registered after := by
  obtain ⟨named, functional, running, single, governed, owned⟩ := registered
  constructor
  · rwa [agents]
  · rwa [functions]
  · rwa [experiments]
  · rwa [policies]
  · rwa [agents, policies]
  · rwa [agents, policies]

end Tables

variable {F : Float8} {env : Env} {powers : Powers} {db db' : Db} {events : List Event}

theorem agentNamed_none {name : String} (free : db.agentNamed name = none) {agentId : Nat} {agent : AgentRow}
    (found : db.agents.get? agentId = some agent) : agent.name ≠ name := by
  intro same
  have absent := List.find?_eq_none.mp free (agentId, agent) (Table.mem_rows_iff.mpr found)
  exact absent (beq_iff_eq.mpr same)

/-- The new agent gets a policy of its own, and no other policy is its. -/
theorem Registered.newAgent (registered : Registered db) {agent : AgentRow} {policy : PolicyRow}
    (free : db.agentNamed agent.name = none) (own : policy.agentId = db.agents.next) :
    Registered { db with agents := db.agents.insert agent, policies := db.policies.insert policy } where
  agents := registered.agents.insert fun key old value found named held =>
    agentNamed_none free found (Option.some.inj (held.trans named.symm))
  functions := registered.functions
  trials := registered.trials
  policies := registered.policies.insert fun key old value found named held => by
    obtain rfl := Option.some.inj named
    have same : old.agentId = db.agents.next := (Option.some.inj held).trans own
    have here := registered.owned key old found
    rw [same, Table.get?_next] at here
    cases here
  governed agentId row found := by
    rw [Table.get?_insert] at found
    split at found
    · rename_i new
      exact ⟨db.policies.next, policy, Table.get?_insert_next _ _, own.trans new.symm⟩
    · obtain ⟨policyId, held, there, owner⟩ := registered.governed agentId row found
      exact ⟨policyId, held, Table.get?_insert_old policy there, owner⟩
  owned policyId row found := by
    rw [Table.get?_insert] at found
    split at found
    · obtain rfl := Option.some.inj found
      rw [own, Table.get?_insert_next]
      rfl
    · have here := registered.owned policyId row found
      obtain ⟨agent, there⟩ := Option.isSome_iff_exists.mp here
      rw [Table.get?_insert_old _ there]
      rfl

theorem Registered.agent (registered : Registered db) (agentId : Nat) {set : AgentRow → AgentRow}
    (same : ∀ row, (set row).name = row.name ∧ (set row).isSystem = row.isSystem) :
    Registered { db with agents := db.agents.modify agentId set } where
  agents := registered.agents.modify agentId fun row value _ named => by
    rw [(same row).1] at named
    exact named
  functions := registered.functions
  trials := registered.trials
  policies := registered.policies
  governed key row found := by
    rw [Table.get?_modify] at found
    split at found
    · obtain ⟨old, there, -⟩ := Option.map_eq_some_iff.mp found
      exact registered.governed key old there
    · exact registered.governed key row found
  owned policyId row found := by
    have here := registered.owned policyId row found
    rw [Table.get?_modify]
    split
    · rwa [Option.isSome_map]
    · exact here

theorem Registered.policy (registered : Registered db) {cond : Nat → PolicyRow → Bool} {set : Nat → PolicyRow → PolicyRow}
    (same : ∀ key row, (set key row).agentId = row.agentId) (history : Table PolicyHistoryRow) :
    Registered { db with policies := db.policies.update cond set, policyHistory := history } where
  agents := registered.agents
  functions := registered.functions
  trials := registered.trials
  policies := registered.policies.update fun key row value held => by
    rw [same] at held
    exact held
  governed agentId agent found := by
    obtain ⟨policyId, held, there, owner⟩ := registered.governed agentId agent found
    refine ⟨policyId, if cond policyId held then set policyId held else held, ?_, ?_⟩
    · rw [Table.get?_update, there]
      rfl
    · split
      · rw [same, owner]
      · exact owner
  owned policyId row found := by
    rw [Table.get?_update] at found
    obtain ⟨old, there, rfl⟩ := Option.map_eq_some_iff.mp found
    have here := registered.owned policyId old there
    split
    · rwa [same]
    · exact here

theorem Edit.registered (edit : Edit env powers db db') (registered : Registered db) : Registered db' := by
  cases edit with
  | traffic only =>
    rw [only]
    exact registered.of_tables rfl rfl rfl rfl
  | perimeter configures only =>
    rw [only]
    exact registered.of_tables rfl rfl rfl rfl
  | build cond set same =>
    refine ⟨registered.agents, registered.functions.update fun key row value named => ?_, registered.trials,
      registered.policies, registered.governed, registered.owned⟩
    rwa [(FunctionRow.Same.of_unbuilt (same key row)).1] at named
  | policy cond set history governs same => exact registered.policy same history
  | newAgent agent policy governs free own => exact registered.newAgent free own
  | agent agentId set governs same => exact registered.agent agentId same
  | newFunction function governs free =>
    refine ⟨registered.agents, registered.functions.insert fun key old value found named held => ?_, registered.trials,
      registered.policies, registered.governed, registered.owned⟩
    exact free key old found (Option.some.inj (held.trans named.symm))
  | function functionId set governs same =>
    refine ⟨registered.agents, registered.functions.modify functionId fun row value _ named => ?_, registered.trials,
      registered.policies, registered.governed, registered.owned⟩
    rwa [(same row).1] at named
  | trial experiment governs runs free =>
    refine ⟨registered.agents, registered.functions, registered.trials.insert fun key old value found named held => ?_,
      registered.policies, registered.governed, registered.owned⟩
    unfold ExperimentRow.occupies at named held
    rw [if_pos runs] at named
    split at held
    · rename_i running
      exact free key old found running (Option.some.inj (held.trans named.symm))
    · cases held
  | verdict status decidedAt governs found runs decided =>
    refine ⟨registered.agents, registered.functions, registered.trials.modify _ fun row value _ held => ?_,
      registered.policies, registered.governed, registered.owned⟩
    unfold ExperimentRow.occupies at held
    rw [if_neg decided] at held
    cases held
  | _ => exact registered.of_tables rfl rfl rfl rfl

theorem Edit.continued (edit : Edit env powers db db') : Continued db db' := by
  cases edit with
  | traffic only =>
    rw [only]
    exact .of_tables rfl rfl rfl
  | perimeter configures only =>
    rw [only]
    exact .of_tables rfl rfl rfl
  | build cond set same =>
    exact ⟨.refl AgentRow.Same.refl _, .update FunctionRow.Same.refl _ fun key row _ _ => .of_unbuilt (same key row),
      .refl ExperimentRow.Decided.refl _⟩
  | newAgent agent policy governs free own =>
    exact ⟨.insert AgentRow.Same.refl _ _, .refl FunctionRow.Same.refl _, .refl ExperimentRow.Decided.refl _⟩
  | agent agentId set governs same =>
    exact ⟨.modify AgentRow.Same.refl _ _ fun row _ => same row, .refl FunctionRow.Same.refl _,
      .refl ExperimentRow.Decided.refl _⟩
  | newFunction function governs free =>
    exact ⟨.refl AgentRow.Same.refl _, .insert FunctionRow.Same.refl _ _, .refl ExperimentRow.Decided.refl _⟩
  | function functionId set governs same =>
    exact ⟨.refl AgentRow.Same.refl _, .modify FunctionRow.Same.refl _ _ fun row _ => same row,
      .refl ExperimentRow.Decided.refl _⟩
  | trial experiment governs runs free =>
    exact ⟨.refl AgentRow.Same.refl _, .refl FunctionRow.Same.refl _, .insert ExperimentRow.Decided.refl _ _⟩
  | verdict status decidedAt governs found runs decided =>
    refine ⟨.refl AgentRow.Same.refl _, .refl FunctionRow.Same.refl _, ?_⟩
    dsimp only
    refine .modify ExperimentRow.Decided.refl db.experiments _ ?_
    intro row there
    rw [found] at there
    obtain rfl := Option.some.inj there
    exact ⟨rfl, fun ceased => absurd runs ceased⟩
  | _ => exact .of_tables rfl rfl rfl

/-- In every run of the system. -/
theorem registry_kept (own : ∀ event ∈ events, event.Own) (world : World F) (registered : Registered world.site.db) :
    Registered (world.after events).site.db ∧ Continued world.site.db (world.after events).site.db :=
  ⟨@own_induction _ (fun db db' => Registered db → Registered db') events own (fun _ => id)
      (fun first second registered => second (first registered)) (fun _ _ _ _ edit => edit.registered) world registered,
    @own_induction _ Continued events own (fun _ => .of_tables rfl rfl rfl) Continued.trans
      (fun _ _ _ _ edit => edit.continued) world⟩

theorem supervisedDb_registered : Registered supervisedDb where
  agents a b x y value first second _ _ := by
    have left := Table.mem_rows_iff.mpr first
    have right := Table.mem_rows_iff.mpr second
    exact (Prod.mk.inj (List.mem_singleton.mp left)).1.trans (Prod.mk.inj (List.mem_singleton.mp right)).1.symm
  functions a b x y value first := by cases first
  trials a b x y value first := by cases first
  policies a b x y value first second _ _ := by
    have left := Table.mem_rows_iff.mpr first
    have right := Table.mem_rows_iff.mpr second
    exact (Prod.mk.inj (List.mem_singleton.mp left)).1.trans (Prod.mk.inj (List.mem_singleton.mp right)).1.symm
  governed agentId agent found := by
    obtain ⟨rfl, -⟩ := Prod.mk.inj (List.mem_singleton.mp (Table.mem_rows_iff.mpr found))
    exact ⟨0, helperPolicy 5 none, rfl, rfl⟩
  owned policyId policy found := by
    obtain ⟨-, rfl⟩ := Prod.mk.inj (List.mem_singleton.mp (Table.mem_rows_iff.mpr found))
    rfl

theorem registry_kept_asked :
    let later := (World.ofDb supervisedDb).after (replying (proposesPrompt "Be brief."))
    later.site.db.proposals.rows.length = 1 ∧ Registered later.site.db ∧ Continued supervisedDb later.site.db :=
  ⟨by decide +kernel, registry_kept (replying_own _) (World.ofDb supervisedDb) supervisedDb_registered⟩

end Allgres
