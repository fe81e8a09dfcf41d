import Allgres.Dashboard.Governance
import Allgres.Lib.Archive
import Allgres.Safety.Decisions
import Allgres.Safety.Identity
import Allgres.Safety.LlmConfigs

/-! The versions of an agent's policy: which are on file, and which was in force when. -/

namespace Allgres

open Relational Jsonb Sql Raising

/-! ### Versions with the same fields -/

theorem PolicyRow.sameAs_iff {new old : PolicyRow} : new.sameAs old = true ↔
    (new.systemPrompt = old.systemPrompt ∧ new.maxSteps = old.maxSteps ∧ new.maxRetries = old.maxRetries) ∧
    (new.llmConfig.same old.llmConfig = true ∧ new.maxConcurrentTasks = old.maxConcurrentTasks ∧
      new.maxTurnSeconds = old.maxTurnSeconds) ∧
    new.maxDelegationDepth = old.maxDelegationDepth ∧ new.maxSessionTasks = old.maxSessionTasks := by
  simp only [PolicyRow.sameAs, Bool.and_eq_true, beq_iff_eq]
  tauto

theorem PolicyRow.sameAs_refl (policy : PolicyRow) : policy.sameAs policy = true :=
  sameAs_iff.mpr ⟨⟨rfl, rfl, rfl⟩, ⟨Json.same_refl _, rfl, rfl⟩, rfl, rfl⟩

theorem PolicyRow.sameAs_symm {new old : PolicyRow} (same : new.sameAs old = true) : old.sameAs new = true := by
  obtain ⟨⟨prompt, steps, retries⟩, ⟨config, tasks, seconds⟩, depth, session⟩ := sameAs_iff.mp same
  exact sameAs_iff.mpr ⟨⟨prompt.symm, steps.symm, retries.symm⟩, ⟨Json.same_symm config, tasks.symm, seconds.symm⟩,
    depth.symm, session.symm⟩

theorem PolicyRow.sameAs_trans {a b c : PolicyRow} (first : a.sameAs b = true) (second : b.sameAs c = true) :
    a.sameAs c = true := by
  obtain ⟨⟨prompt, steps, retries⟩, ⟨config, tasks, seconds⟩, depth, session⟩ := sameAs_iff.mp first
  obtain ⟨⟨prompt', steps', retries'⟩, ⟨config', tasks', seconds'⟩, depth', session'⟩ := sameAs_iff.mp second
  exact sameAs_iff.mpr ⟨⟨prompt.trans prompt', steps.trans steps', retries.trans retries'⟩,
    ⟨Json.same_trans config config', tasks.trans tasks', seconds.trans seconds'⟩, depth.trans depth',
    session.trans session'⟩

instance : Setoid PolicyRow where
  r new old := new.sameAs old = true
  iseqv := ⟨PolicyRow.sameAs_refl, PolicyRow.sameAs_symm, PolicyRow.sameAs_trans⟩

/-! ### Versions that can be put in force again -/

/-- A prompt that is not blank, limits that pass the checks, and a configuration as it is kept. -/
structure PolicyRow.Sound (policy : PolicyRow) : Prop where
  prompted : policy.systemPrompt ≠ ""
  valid : policy.restoring.valid = true
  canonical : Canonical policy.llmConfig

theorem restoring_valid_iff {policy : PolicyRow} : policy.restoring.valid = true ↔ 0 < policy.maxSteps ∧
    0 < policy.maxConcurrentTasks ∧ (∀ seconds, policy.maxTurnSeconds = some seconds → 0 < seconds) ∧
    0 < policy.maxSessionTasks := by
  cases seconds : policy.maxTurnSeconds with
  | none => simp [PolicyEdit.valid, PolicyRow.restoring, seconds, and_assoc]
  | some seconds => simp [PolicyEdit.valid, PolicyRow.restoring, seconds, and_assoc]

theorem limitOr_pos {new : Option Int} {old : Nat} (valid : (new.all fun value => decide (0 < value)) = true)
    (positive : 0 < old) : 0 < limitOr new old := by
  cases new with
  | none => exact positive
  | some value =>
    have above : 0 < value := by simpa using valid
    have here : limitOr (some value) old = value.toNat := rfl
    omega

theorem nonEmpty_getD_ne {text : Option String} {old : String} (given : old ≠ "") : (nonEmpty text).getD old ≠ "" := by
  cases text with
  | none => exact given
  | some text =>
    by_cases empty : text = ""
    · simpa [nonEmpty, empty] using given
    · simp [nonEmpty, empty]

theorem PolicyRow.Sound.edited {policy : PolicyRow} {edit : PolicyEdit} (sound : policy.Sound)
    (valid : edit.valid = true) : (policy.edited edit).Sound := by
  obtain ⟨steps, tasks, seconds, session⟩ := restoring_valid_iff.mp sound.valid
  simp only [PolicyEdit.valid, Bool.and_eq_true] at valid
  obtain ⟨⟨⟨⟨⟨editSteps, -⟩, editTasks⟩, editSeconds⟩, -⟩, editSession⟩ := valid
  refine ⟨nonEmpty_getD_ne sound.prompted, ?_, canonical_mergedConfig sound.canonical _⟩
  refine restoring_valid_iff.mpr ⟨limitOr_pos editSteps steps, limitOr_pos editTasks tasks, fun value set => ?_,
    limitOr_pos editSession session⟩
  simp only [PolicyRow.edited] at set
  split at set
  · cases set
  · rename_i kept
    rw [Bool.or_eq_true, or_iff_right kept] at editSeconds
    cases asked : edit.maxTurnSeconds with
    | none =>
      rw [asked] at set
      exact seconds value set
    | some given =>
      rw [asked] at set editSeconds
      have above : 0 < given := by simpa using editSeconds
      have same : given.toNat = value := Option.some.inj set
      omega

/-! ### What a call does -/

/-- The versions of an agent that are on file, in the order in which they were filed. -/
def Db.versions (db : Db) (agentId : Nat) : List PolicyRow :=
  (db.policyHistory.rows.map fun row => row.2.policy).filter fun policy => policy.agentId == agentId

def Db.archive (db : Db) (agentId : Nat) : Archive.State PolicyRow := ⟨db.policyOf agentId, db.versions agentId⟩

/-- Only agents that have been created have policies. -/
def Db.Policed (db : Db) : Prop := ∀ agentId policy, db.policyOf agentId = some policy → agentId < db.agents.next

def Db.SoundPolicies (db : Db) : Prop := ∀ agentId policy, db.policyOf agentId = some policy → policy.Sound

/-- What a call does to the policies of all agents. -/
structure VersionSteps (db db' : Db) : Prop where
  step : ∀ agentId, Archive.Step PolicyRow.generation (db.archive agentId) (db'.archive agentId)
  policed : db.Policed → db'.Policed
  sound : db.SoundPolicies → db'.SoundPolicies

/-- A call that leaves the policies and their versions alone. -/
structure SamePolicies (db db' : Db) : Prop where
  policies : db'.policies = db.policies
  history : db'.policyHistory = db.policyHistory
  agents : db.agents.next ≤ db'.agents.next

section Calls

variable {db db' : Db}

theorem SamePolicies.refl (db : Db) : SamePolicies db db := ⟨rfl, rfl, le_rfl⟩

theorem SamePolicies.policyOf (same : SamePolicies db db') (agentId : Nat) :
    db'.policyOf agentId = db.policyOf agentId := by
  rw [Db.policyOf, Db.policyOf, same.policies]

theorem SamePolicies.archive (same : SamePolicies db db') (agentId : Nat) :
    db'.archive agentId = db.archive agentId := by
  rw [Db.archive, Db.archive, same.policyOf, Db.versions, Db.versions, same.history]

theorem SamePolicies.policed (same : SamePolicies db db') (policed : db.Policed) : db'.Policed := by
  intro agentId policy held
  exact (policed agentId policy (same.policyOf agentId ▸ held)).trans_le same.agents

theorem SamePolicies.sound (same : SamePolicies db db') (sound : db.SoundPolicies) : db'.SoundPolicies :=
  fun agentId policy held => sound agentId policy (same.policyOf agentId ▸ held)

theorem SamePolicies.steps (same : SamePolicies db db') : VersionSteps db db' :=
  ⟨fun agentId => same.archive agentId ▸ .refl _, same.policed, same.sound⟩

theorem VersionSteps.same {later : Db} (steps : VersionSteps db db') (same : SamePolicies db' later) :
    VersionSteps db later :=
  ⟨fun agentId => same.archive agentId ▸ steps.step agentId, fun policed => same.policed (steps.policed policed),
    fun sound => same.sound (steps.sound sound)⟩

theorem versions_insert (policy : PolicyRow) (rate : Option ℚ) (agentId : Nat)
    (history : db'.policyHistory = db.policyHistory.insert ⟨policy, rate⟩) :
    db'.versions agentId = db.versions agentId ++ if policy.agentId = agentId then [policy] else [] := by
  rw [Db.versions, Db.versions, history]
  by_cases same : policy.agentId = agentId
  · simp [Table.insert, same]
  · simp [Table.insert, same]

theorem policyOf_update {target : Nat} {set : PolicyRow → PolicyRow}
    (policies : db'.policies = db.policies.update (fun _ row => row.agentId == target) fun _ row => set row)
    (agent : ∀ row, (set row).agentId = row.agentId) (agentId : Nat) :
    db'.policyOf agentId = if agentId = target then (db.policyOf agentId).map set else db.policyOf agentId := by
  have stable (key : Nat) (row : PolicyRow) :
      ((if (row.agentId == target) = true then set row else row).agentId == agentId) = (row.agentId == agentId) := by
    split
    · rw [agent]
    · rfl
  have updated := Table.find?_update db.policies (fun _ row => row.agentId == target)
    (fun _ policy => policy.agentId == agentId) (fun _ row => set row) stable
  simp only [Db.policyOf, policies, updated, Option.map_map]
  cases found : db.policies.find? fun _ policy => policy.agentId == agentId with
  | none => simp
  | some row =>
    have here : row.2.agentId = agentId := by simpa using (Table.find?_some found).2
    by_cases same : agentId = target
    · simp [here, same]
    · simp [here, same]

theorem policyOf_agentId {agentId : Nat} {policy : PolicyRow} (held : db.policyOf agentId = some policy) :
    policy.agentId = agentId := by
  obtain ⟨row, found, rfl⟩ := Option.map_eq_some_iff.mp held
  simpa using (Table.find?_some found).2

/-- The policy of one agent is replaced, and filed if a field of it changes. -/
structure SetsPolicy (db db' : Db) (target : Nat) (old new : PolicyRow) : Prop where
  held : db.policyOf target = some old
  after : db'.policyOf target = some new
  others : ∀ agentId, agentId ≠ target → db'.policyOf agentId = db.policyOf agentId
  agents : db'.agents = db.agents
  filed : (new.sameAs old = true ∧ new.generation = old.generation ∧ db'.policyHistory = db.policyHistory) ∨
    (new.sameAs old = false ∧ new.generation = old.generation + 1 ∧
      ∃ rate, db'.policyHistory = db.policyHistory.insert ⟨old, rate⟩)
  sound : old.Sound → new.Sound

theorem SetsPolicy.archive_of_ne {target agentId : Nat} {old new : PolicyRow} (sets : SetsPolicy db db' target old new)
    (apart : agentId ≠ target) : db'.archive agentId = db.archive agentId := by
  have versions : db'.versions agentId = db.versions agentId := by
    rcases sets.filed with ⟨-, -, history⟩ | ⟨-, -, rate, history⟩
    · rw [Db.versions, Db.versions, history]
    · have other : old.agentId ≠ agentId := by
        rw [policyOf_agentId sets.held]
        exact apart.symm
      rw [versions_insert old rate agentId history, if_neg other, List.append_nil]
  rw [Db.archive, Db.archive, sets.others agentId apart, versions]

theorem SetsPolicy.step {target : Nat} {old new : PolicyRow} (sets : SetsPolicy db db' target old new) (agentId : Nat) :
    Archive.Step PolicyRow.generation (db.archive agentId) (db'.archive agentId) := by
  by_cases same : agentId = target
  · subst same
    rw [Db.archive, Db.archive, sets.held, sets.after]
    rcases sets.filed with ⟨unchanged, generation, history⟩ | ⟨changed, generation, rate, history⟩
    · rw [show db'.versions agentId = db.versions agentId by rw [Db.versions, Db.versions, history]]
      exact .kept unchanged generation
    · rw [versions_insert old rate agentId history, if_pos (policyOf_agentId sets.held)]
      exact .changed (fun same => Bool.false_ne_true (changed.symm.trans same)) generation
  · rw [sets.archive_of_ne same]
    exact .refl _

theorem SetsPolicy.steps {target : Nat} {old new : PolicyRow} (sets : SetsPolicy db db' target old new) :
    VersionSteps db db' := by
  refine ⟨sets.step, fun policed agentId policy held => ?_, fun sound agentId policy held => ?_⟩
  · rw [sets.agents]
    by_cases same : agentId = target
    · exact same ▸ policed target old sets.held
    · exact policed agentId policy (sets.others agentId same ▸ held)
  · by_cases same : agentId = target
    · subst same
      obtain rfl := Option.some.inj (sets.after.symm.trans held)
      exact sets.sound (sound agentId old sets.held)
    · exact sound agentId policy (sets.others agentId same ▸ held)

theorem SetsPolicy.of_update {target : Nat} {old : PolicyRow} (set : PolicyRow → PolicyRow)
    (held : db.policyOf target = some old)
    (policies : db'.policies = db.policies.update (fun _ row => row.agentId == target) fun _ row => set row)
    (agent : ∀ row, (set row).agentId = row.agentId) (agents : db'.agents = db.agents)
    (filed : ((set old).sameAs old = true ∧ (set old).generation = old.generation ∧
        db'.policyHistory = db.policyHistory) ∨
      ((set old).sameAs old = false ∧ (set old).generation = old.generation + 1 ∧
        ∃ rate, db'.policyHistory = db.policyHistory.insert ⟨old, rate⟩))
    (sound : old.Sound → (set old).Sound) : SetsPolicy db db' target old (set old) := by
  refine ⟨held, ?_, fun agentId apart => ?_, agents, filed, sound⟩
  · rw [policyOf_update policies agent, if_pos rfl, held, Option.map_some]
  · rw [policyOf_update policies agent, if_neg apart]

theorem fnSetPolicyFields_sets {target : Option Nat} {edit : PolicyEdit} :
    Ensures (fnSetPolicyFields db target edit) fun result => ∃ agentId old new, target = some agentId ∧
      (∃ generation, new = { old.edited edit with generation := generation }) ∧
      SetsPolicy db result.2 agentId old new := by
  refine ensures_withRow fun agentId named => ?_
  split
  · exact ensures_error.mpr trivial
  · rename_i policy held
    dsimp only
    split
    · exact ensures_error.mpr trivial
    · split
      · exact ensures_error.mpr trivial
      · rename_i passed
        have valid : edit.valid = true := by simpa using passed
        have sound (before : policy.Sound) (generation : Nat) :
            PolicyRow.Sound { policy.edited edit with generation := generation } :=
          ⟨(before.edited valid).prompted, (before.edited valid).valid, (before.edited valid).canonical⟩
        cases changed : (policy.edited edit).sameAs policy with
        | true =>
          simp only [Bool.not_true, Bool.false_eq_true, if_false]
          exact ensures_ok.mpr ⟨agentId, policy, _, named, ⟨policy.generation, rfl⟩,
            .of_update (fun row => { row.edited edit with generation := policy.generation }) held rfl (fun _ => rfl) rfl
              (.inl ⟨changed, rfl, rfl⟩) fun before => sound before _⟩
        | false =>
          simp only [Bool.not_false, if_true]
          exact ensures_ok.mpr ⟨agentId, policy, _, named, ⟨policy.generation + 1, rfl⟩,
            .of_update (fun row => { row.edited edit with generation := policy.generation + 1 }) held rfl
              (fun _ => rfl) rfl (.inr ⟨changed, rfl, _, rfl⟩) fun before => sound before _⟩

theorem returns_fnSetPolicyFields {agentId : Nat} {policy : PolicyRow} {edit : PolicyEdit}
    (current : db.policyOf agentId = some policy) (unfiled : (db.policyHistory.exists? fun _ old =>
      old.policy.agentId == agentId && old.policy.generation == policy.generation) = false)
    (valid : edit.valid = true) : Returns (fnSetPolicyFields db (some agentId) edit) := by
  simp [fnSetPolicyFields, withRow, current, unfiled, valid]

theorem fnSetPolicy_sets {agentId : Nat} {prompt : Option String} {config : Option Json} :
    Ensures (fnSetPolicy db agentId prompt config) fun result => ∃ old new, SetsPolicy db result.2 agentId old new := by
  unfold fnSetPolicy
  split
  · exact ensures_error.mpr trivial
  · rename_i policy held
    dsimp only
    split
    · exact ensures_ok.mpr ⟨policy, policy, held, held, fun _ _ => rfl, rfl, .inl ⟨policy.sameAs_refl, rfl, rfl⟩, id⟩
    · rename_i changed
      split
      · exact ensures_error.mpr trivial
      · refine ensures_ok.mpr ⟨policy, _, .of_update (fun row => { row with
          systemPrompt := (nonEmpty prompt).getD policy.systemPrompt, llmConfig := mergedConfig policy config,
          generation := row.generation + 1 }) held rfl (fun _ => rfl) rfl (.inr ⟨?_, rfl, _, rfl⟩) fun sound => ?_⟩
        · rw [Bool.not_eq_true, Bool.and_eq_false_iff] at changed
          rcases changed with prompt | config
          · simp [PolicyRow.sameAs, prompt]
          · simp [PolicyRow.sameAs, config]
        · exact ⟨nonEmpty_getD_ne sound.prompted, sound.valid, canonical_mergedConfig sound.canonical config⟩

/-! ### A new agent -/

/-- `fn_create_agent` with all its arguments; the agent's role hangs under that of the user
on whose behalf the agent is created. -/
def fnCreateAgentFor (env : Env) (roleOf : Nat → Option String)
    (provisionAgentRole : Option String → Nat → Except String String) (db : Db) (name prompt : Option String)
    (creator : Option Nat) : Except String (Json × Db) :=
  let name := btrim (name.getD "")
  if name = "" then .error "agent name required"
  else if creator.any fun userId => (roleOf userId).isNone then
    .error "fn_create_agent: creator user not found or not yet provisioned"
  else if (db.agentNamed name).isSome then
    .error "duplicate key value violates unique constraint \"agents_name_key\""
  else
    let agentId := db.agents.next
    let db := { db with
      agents := db.agents.insert ⟨name, true, false, none, .adminApproval, .emptyObj⟩
      policies := db.policies.insert (newPolicy agentId prompt) }
    match provisionAgentRole (creator.bind roleOf) agentId with
    | .error message => .error message
    | .ok role =>
      let db := queueAgentEmbedding env db agentId
      .ok (.build [("ok", .bool true), ("agent_id", idJson agentId), ("pg_role", .str role)],
        db.audit "agents.create" (.build [("agent_id", idJson agentId), ("name", .str name),
          ("created_by_user_id", optIdJson creator)]))

theorem fnCreateAgentFor_none (env : Env) (roleOf : Nat → Option String) (name prompt : Option String) :
    fnCreateAgentFor env roleOf (fun _ => env.provisionAgentRole) db name prompt none =
      fnCreateAgent env db name prompt := rfl

theorem newPolicy_generation (agentId : Nat) (prompt : Option String) : (newPolicy agentId prompt).generation = 1 := by
  unfold newPolicy
  split <;> rfl

theorem newPolicy_sound (agentId : Nat) (prompt : Option String) : (newPolicy agentId prompt).Sound := by
  have limits : (defaultPolicy agentId).restoring.valid = true := by
    refine restoring_valid_iff.mpr ⟨Nat.succ_pos 19, Nat.succ_pos 3, ?_, Nat.succ_pos 99⟩
    intro seconds set
    cases set
  have config : Canonical (defaultPolicy agentId).llmConfig := rfl
  have prompted : defaultPrompt ≠ "" := by decide +kernel
  unfold newPolicy
  split
  · exact ⟨prompted, limits, config⟩
  · rename_i text named
    refine ⟨?_, limits, config⟩
    rintro rfl
    cases prompt with
    | none => cases named
    | some given =>
      have blank : btrim "" = "" := by decide +kernel
      rw [Option.filter_some] at named
      split_ifs at named with filled
      obtain rfl := Option.some.inj named
      simp [blank] at filled

theorem queueAgentEmbedding_policies (env : Env) (agentId : Nat) :
    SamePolicies db (queueAgentEmbedding env db agentId) := by
  obtain ⟨calls, queued⟩ := queueAgentEmbedding_only env db agentId
  rw [queued]
  exact ⟨rfl, rfl, le_rfl⟩

theorem VersionSteps.of_insert (policed : db.Policed) (prompt : Option String) (agent : AgentRow)
    (policies : db'.policies = db.policies.insert (newPolicy db.agents.next prompt))
    (agents : db'.agents = db.agents.insert agent) (history : db'.policyHistory = db.policyHistory) :
    VersionSteps db db' := by
  have fresh : db.policyOf db.agents.next = none := by
    cases held : db.policyOf db.agents.next with
    | none => rfl
    | some policy => exact absurd (policed _ policy held) (lt_irrefl _)
  have policyOf (agentId : Nat) : db'.policyOf agentId = (db.policyOf agentId).or
      (if agentId = db.agents.next then some (newPolicy agentId prompt) else none) := by
    rw [Db.policyOf, Db.policyOf, policies, Table.find?_insert]
    by_cases same : agentId = db.agents.next
    · subst same
      cases db.policies.find? fun _ policy => policy.agentId == db.agents.next with
      | none => simp [newPolicy_agentId]
      | some row => simp
    · have other : ((newPolicy db.agents.next prompt).agentId == agentId) = false := by
        rw [newPolicy_agentId]
        simpa using Ne.symm same
      simp [other, same]
  have versions (agentId : Nat) : db'.versions agentId = db.versions agentId := by
    rw [Db.versions, Db.versions, history]
  refine ⟨fun agentId => ?_, fun _ agentId policy held => ?_, fun sound agentId policy held => ?_⟩
  · rw [Db.archive, Db.archive, policyOf, versions]
    by_cases same : agentId = db.agents.next
    · subst same
      rw [fresh, if_pos rfl]
      exact .created (newPolicy_generation _ prompt)
    · rw [if_neg same, Option.or_none]
      exact .refl _
  · rw [agents, Table.next_insert]
    rw [policyOf] at held
    by_cases same : agentId = db.agents.next
    · omega
    · rw [if_neg same, Option.or_none] at held
      have older := policed agentId policy held
      omega
  · rw [policyOf] at held
    cases before : db.policyOf agentId with
    | some earlier =>
      rw [before, Option.some_or] at held
      exact Option.some.inj held ▸ sound agentId earlier before
    | none =>
      rw [before, Option.none_or] at held
      split_ifs at held
      exact Option.some.inj held ▸ newPolicy_sound agentId prompt

theorem fnCreateAgentFor_steps (policed : db.Policed) (env : Env) (roleOf : Nat → Option String)
    (provisionAgentRole : Option String → Nat → Except String String) (name prompt : Option String)
    (creator : Option Nat) : Ensures (fnCreateAgentFor env roleOf provisionAgentRole db name prompt creator)
      fun result => VersionSteps db result.2 := by
  unfold fnCreateAgentFor
  dsimp only
  split
  · exact ensures_error.mpr trivial
  · split
    · exact ensures_error.mpr trivial
    · split
      · exact ensures_error.mpr trivial
      · split
        · exact ensures_error.mpr trivial
        · have inserted : VersionSteps db { db with
              agents := db.agents.insert ⟨btrim (name.getD ""), true, false, none, .adminApproval, .emptyObj⟩
              policies := db.policies.insert (newPolicy db.agents.next prompt) } :=
            .of_insert policed prompt _ rfl rfl rfl
          have queued := inserted.same (queueAgentEmbedding_policies env db.agents.next)
          exact ensures_ok.mpr (queued.same ⟨rfl, rfl, le_rfl⟩)

/-! ### Every agent at once -/

/-- The policies of the given agents are replaced, each of them at most once. -/
structure SetsPolicies (db db' : Db) (targets : List Nat) : Prop where
  steps : VersionSteps db db'
  others : ∀ agentId, agentId ∉ targets → db'.archive agentId = db.archive agentId

theorem setModel_sets (config : Json) (agent : Nat × AgentRow) : Ensures (setModel config db agent) fun db' =>
    ∃ old new, SetsPolicy db db' agent.1 old new := by
  refine ensures_map.mpr fun result returned => ?_
  obtain ⟨agentId, old, new, named, -, sets⟩ := fnSetPolicyFields_sets result returned
  obtain rfl := Option.some.inj named
  exact ⟨old, new, sets⟩

theorem foldlM_setModel_sets (config : Json) {agents : List (Nat × AgentRow)} (nodup : (agents.map Prod.fst).Nodup)
    (db : Db) : Ensures (agents.foldlM (setModel config) db) fun db' => SetsPolicies db db' (agents.map Prod.fst) := by
  induction agents generalizing db with
  | nil => exact ensures_ok.mpr ⟨(SamePolicies.refl db).steps, fun _ _ => rfl⟩
  | cons agent rest ih =>
    rw [List.map_cons, List.nodup_cons] at nodup
    refine ensures_bind.mpr fun mid set => ?_
    obtain ⟨old, new, sets⟩ := setModel_sets config agent mid set
    refine Ensures.imp (ih nodup.2 mid) fun db' later =>
      ⟨⟨fun agentId => ?_, fun policed => ?_, fun sound => ?_⟩, ?_⟩
    · by_cases here : agentId = agent.1
      · subst here
        rw [later.others _ nodup.1]
        exact sets.step _
      · rw [← sets.archive_of_ne here]
        exact later.steps.step agentId
    · exact later.steps.policed (sets.steps.policed policed)
    · exact later.steps.sound (sets.steps.sound sound)
    · intro agentId outside
      rw [List.map_cons, List.mem_cons, not_or] at outside
      rw [later.others agentId outside.2, sets.archive_of_ne outside.1]

theorem fnBulkSetModel_steps (provider model : Option String) :
    Ensures (fnBulkSetModel db provider model) fun result => VersionSteps db result.2 := by
  unfold fnBulkSetModel
  split
  · split
    · exact ensures_error.mpr trivial
    · dsimp only
      split
      · exact ensures_error.mpr trivial
      · rename_i db' set
        have sets := foldlM_setModel_sets _ (Table.select_keys_nodup _ _) db db' set
        exact ensures_ok.mpr (sets.steps.same ⟨rfl, rfl, le_rfl⟩)
  · exact ensures_error.mpr trivial

theorem fnRollbackPolicy_steps (agentId : Option Nat) (generation : Option Int) :
    Ensures (fnRollbackPolicy db agentId generation) fun result => VersionSteps db result.2 := by
  unfold fnRollbackPolicy
  split
  · exact ensures_error.mpr trivial
  · refine Ensures.imp fnSetPolicyFields_sets fun result sets => ?_
    obtain ⟨_, _, _, -, -, sets⟩ := sets
    exact ⟨sets.steps.step, sets.steps.policed, sets.steps.sound⟩

/-! ### The agents' own changes, and those of a user -/

theorem updateTask_policies (env : Env) (t : Nat) (set : TaskRow → TaskRow) :
    SamePolicies db (db.updateTask env t set) := by
  unfold Db.updateTask
  split
  · exact .refl db
  · exact ⟨rfl, rfl, le_rfl⟩

theorem note_policies (env : Env) (turn : Turn) (content reply : List (String × Json)) :
    SamePolicies db (turn.note env db content reply).2 := by
  obtain ⟨policies, history, agents⟩ := @updateTask_policies (turn.log env db .assistant (.build content)) env
    turn.taskId fun task => { task with stepCount := task.stepCount + 1 }
  exact ⟨policies, history, agents⟩

theorem changePolicy_steps (env : Env) (turn : Turn) (parsed changes : Json) (target : Nat) :
    Ensures (changePolicy env db turn parsed changes target) fun result => VersionSteps db result.2 := by
  unfold changePolicy
  split
  · split
    · exact ensures_error.mpr trivial
    · rename_i result db' set
      obtain ⟨old, new, sets⟩ := fnSetPolicy_sets (result, db') set
      exact ensures_ok.mpr (sets.steps.same (note_policies env turn _ _))
  · dsimp only
    split
    · exact ensures_ok.mpr (note_policies env turn _ _).steps
    · have proposed (kind : ProposalKind) (reason : Option String) (base : Nat) (target function : Option Nat) :
          VersionSteps db (insertProposal db turn kind changes reason base target function) :=
        SamePolicies.steps ⟨rfl, rfl, le_rfl⟩
      exact ensures_ok.mpr ((proposed _ _ _ _ _).same (note_policies env turn _ _))

theorem fnSetMyModel_steps (env : WebEnv) (site : Site) (token : Option String) (agentId : Option Nat)
    (provider model : Option String) : Ensures (fnSetMyModel env site token agentId provider model)
      fun answer => VersionSteps site.db answer.2.db := by
  unfold fnSetMyModel
  split
  · exact ensures_error.mpr trivial
  · rename_i userId target access allowed
    have same : access.db = site.db := requireAgentAccess_db allowed
    rw [← same]
    cases set : fnSetPolicy access.db target none
        (some (.build [("provider", .optStr provider), ("model", .optStr model)])) with
    | error message => exact ensures_error.mpr trivial
    | ok result =>
      obtain ⟨old, new, sets⟩ := fnSetPolicy_sets result set
      exact ensures_ok.mpr sets.steps

/-! ### Decided proposals -/

/-- The answer of a call that leaves the policies and their versions alone. -/
def LeavesPolicies (db : Db) (result : Except String (Json × Db)) : Prop :=
  Ensures result fun result => SamePolicies db result.2

theorem fnCreateFunction_policies (env : Env) (name description body : Option String) (schema : Json)
    (createdBy : Option Nat) : LeavesPolicies db (fnCreateFunction env db name description body schema createdBy) := by
  unfold fnCreateFunction
  dsimp only
  split
  · exact ensures_error.mpr trivial
  · split
    · exact ensures_error.mpr trivial
    · split
      · exact ensures_error.mpr trivial
      · split
        · exact ensures_error.mpr trivial
        · exact ensures_ok.mpr ⟨rfl, rfl, le_rfl⟩

theorem fnUpdateFunction_policies (env : Env) (functionId : Nat) (description body : Option String)
    (schema : Option Json) : LeavesPolicies db (fnUpdateFunction env db functionId description body schema) := by
  unfold fnUpdateFunction
  split
  · exact ensures_error.mpr trivial
  · split
    · exact ensures_error.mpr trivial
    · split
      · exact ensures_error.mpr trivial
      · exact ensures_ok.mpr ⟨rfl, rfl, le_rfl⟩

theorem startProposed_policies (proposal : ProposalRow) :
    Ensures (startProposed db proposal) fun result => SamePolicies db result.2 := by
  unfold startProposed
  dsimp only
  split
  · exact ensures_error.mpr trivial
  · exact ensures_error.mpr trivial
  · split
    · unfold applyFunctionExperimentStart
      dsimp only
      split
      · exact ensures_error.mpr trivial
      · split
        · exact ensures_error.mpr trivial
        · split
          · exact ensures_error.mpr trivial
          · exact ensures_ok.mpr ⟨rfl, rfl, le_rfl⟩
    · exact ensures_error.mpr trivial

theorem applyFunctionExperimentPromote_policies (env : Env) (experimentId : Nat) :
    Ensures (applyFunctionExperimentPromote env db experimentId) (SamePolicies db) := by
  unfold applyFunctionExperimentPromote
  split
  · exact ensures_error.mpr trivial
  · split
    · exact ensures_error.mpr trivial
    · exact ensures_ok.mpr ⟨rfl, rfl, le_rfl⟩

end Calls

section Decisions

variable {env : WebEnv} {site : Site} {proposalId : Nat} {reply : Option String}

/-- What the answer to a request does to the policies of all agents. -/
def Versions (site : Site) (result : Except String (Json × Site)) : Prop :=
  Ensures result fun answer => VersionSteps site.db answer.2.db

theorem versions_error {message : String} : Versions site (.error message) := ensures_error.mpr trivial

theorem approvedProposal_versions {db : Db} {kind : String} {more audited : List (String × Json)}
    (steps : VersionSteps site.db db) :
    Versions site (.ok (approvedProposal env (site.withDb db) proposalId reply kind more audited)) :=
  ensures_ok.mpr (steps.same ⟨rfl, rfl, le_rfl⟩)

theorem staleProposal_versions {reason : String} :
    Versions site (.ok (staleProposal env site proposalId reply reason)) :=
  ensures_ok.mpr (SamePolicies.steps ⟨rfl, rfl, le_rfl⟩)

theorem decideOverride_versions (proposal : ProposalRow) :
    Versions site (decideOverride env site proposalId proposal reply) := by
  unfold decideOverride
  dsimp only
  split
  · split
    · exact versions_error
    · rename_i experimentId db started
      exact approvedProposal_versions (startProposed_policies proposal _ started).steps
  · split
    · exact versions_error
    · split
      · exact staleProposal_versions
      · rename_i experimentId _
        split
        · exact versions_error
        · rename_i db decided
          have same : SamePolicies site.db db := by
            revert decided
            split
            · exact applyFunctionExperimentPromote_policies env.toEnv experimentId db
            · intro decided
              obtain rfl := Except.ok.inj decided
              exact ⟨rfl, rfl, le_rfl⟩
          exact approvedProposal_versions same.steps

theorem applyProposal_versions (policed : site.db.Policed) (proposal : ProposalRow) :
    Versions site (applyProposal env site proposalId proposal reply) := by
  unfold applyProposal
  dsimp only
  split
  · rw [← fnCreateAgentFor_none env.toEnv fun _ => none]
    split
    · exact versions_error
    · rename_i created db made
      exact approvedProposal_versions (fnCreateAgentFor_steps policed env.toEnv _ _ _ _ none _ made)
  · split
    · exact versions_error
    · rename_i created db made
      exact approvedProposal_versions (fnCreateFunction_policies env.toEnv _ _ _ _ _ _ made).steps
  · split
    · exact versions_error
    · rename_i updated db made
      have updates : LeavesPolicies site.db (withRow proposal.targetFunctionId "function not found" fun functionId =>
          fnUpdateFunction env.toEnv site.db functionId (proposal.proposedChanges.getText? "description")
            (proposal.proposedChanges.getText? "body") (proposal.proposedChanges.get? "param_schema")) :=
        ensures_withRow fun functionId _ => fnUpdateFunction_policies env.toEnv functionId _ _ _
      exact approvedProposal_versions (updates _ made).steps
  · exact decideOverride_versions proposal
  · split
    · exact staleProposal_versions
    · split
      · exact versions_error
      · rename_i policy db applied
        obtain ⟨_, _, _, -, -, sets⟩ := fnSetPolicyFields_sets _ applied
        exact approvedProposal_versions sets.steps

theorem fnDecideProposal_versions (policed : site.db.Policed) (proposalId : Option Nat) (approve : Option Bool) :
    Versions site (fnDecideProposal env site proposalId approve reply) := by
  refine ensures_withRow fun key _ => ?_
  split
  · exact versions_error
  · rename_i proposal _
    dsimp only
    split
    · exact versions_error
    · split
      · exact applyProposal_versions policed proposal
      · exact ensures_ok.mpr (SamePolicies.steps ⟨rfl, rfl, le_rfl⟩)

theorem onDb_versions {result : Except String (Json × Db)}
    (steps : Ensures result fun result => VersionSteps site.db result.2) : Versions site (site.onDb result) := by
  cases result with
  | error message => exact versions_error
  | ok result => exact ensures_ok.mpr (steps result rfl)

end Decisions

/-! ### Runs -/

/-- The calls that write policies, and those that do not. -/
inductive PolicyStep : Site → Site → Prop
  | createAgent {site : Site} {answer : Json × Site} (env : Env) (roleOf : Nat → Option String)
      (provisionAgentRole : Option String → Nat → Except String String) (name prompt : Option String)
      (creator : Option Nat)
      (done : site.onDb (fnCreateAgentFor env roleOf provisionAgentRole site.db name prompt creator) = .ok answer) :
      PolicyStep site answer.2
  | setPolicy {site : Site} {answer : Json × Site} (agentId : Option Nat) (edit : PolicyEdit)
      (done : site.onDb (fnSetPolicyFields site.db agentId edit) = .ok answer) : PolicyStep site answer.2
  | bulkSetModel {site : Site} {answer : Json × Site} (provider model : Option String)
      (done : site.onDb (fnBulkSetModel site.db provider model) = .ok answer) : PolicyStep site answer.2
  | rollbackPolicy {site : Site} {answer : Json × Site} (agentId : Option Nat) (generation : Option Int)
      (done : site.onDb (fnRollbackPolicy site.db agentId generation) = .ok answer) : PolicyStep site answer.2
  | decideProposal {site : Site} {answer : Json × Site} (env : WebEnv) (proposalId : Option Nat)
      (approve : Option Bool) (reply : Option String)
      (done : fnDecideProposal env site proposalId approve reply = .ok answer) : PolicyStep site answer.2
  | improve {site : Site} {answer : Json × Site} (env : Env) (turn : Turn) (parsed changes : Json) (target : Nat)
      (done : site.onDb (changePolicy env site.db turn parsed changes target) = .ok answer) : PolicyStep site answer.2
  | setMyModel {site : Site} {answer : Json × Site} (env : WebEnv) (token : Option String) (agentId : Option Nat)
      (provider model : Option String) (done : fnSetMyModel env site token agentId provider model = .ok answer) :
      PolicyStep site answer.2
  | other {site later : Site} (same : SamePolicies site.db later.db) : PolicyStep site later

abbrev PolicyRun : Site → Site → Prop := Relation.ReflTransGen PolicyStep

theorem PolicyStep.steps {site later : Site} (step : PolicyStep site later) (policed : site.db.Policed) :
    VersionSteps site.db later.db := by
  cases step with
  | createAgent env roleOf provisionAgentRole name prompt creator done =>
    exact onDb_versions (fnCreateAgentFor_steps policed env roleOf provisionAgentRole name prompt creator) _ done
  | setPolicy agentId edit done =>
    refine onDb_versions (Ensures.imp fnSetPolicyFields_sets fun result sets => ?_) _ done
    obtain ⟨_, _, _, -, -, sets⟩ := sets
    exact sets.steps
  | bulkSetModel provider model done => exact onDb_versions (fnBulkSetModel_steps provider model) _ done
  | rollbackPolicy agentId generation done => exact onDb_versions (fnRollbackPolicy_steps agentId generation) _ done
  | decideProposal env proposalId approve reply done => exact fnDecideProposal_versions policed proposalId approve _ done
  | improve env turn parsed changes target done => exact onDb_versions (changePolicy_steps env turn parsed changes target) _ done
  | setMyModel env token agentId provider model done => exact fnSetMyModel_steps env site token agentId provider model _ done
  | other same => exact same.steps

/-- The tables as they are after the installation: no policy has been changed yet. -/
structure Installed (db : Db) : Prop where
  policed : db.Policed
  first : ∀ agentId policy, db.policyOf agentId = some policy → policy.generation = 1
  unfiled : ∀ agentId, db.versions agentId = []

section Runs

variable {start site later : Site}

theorem Installed.complete {db : Db} (installed : Installed db) (agentId : Nat) :
    Archive.Complete PolicyRow.generation (db.archive agentId) := by
  rw [Db.archive, installed.unfiled]
  cases held : db.policyOf agentId with
  | none => exact .absent
  | some policy =>
    have first := installed.first agentId policy held
    exact .present (by omega) (by simp [first])

theorem PolicyRun.policed (run : PolicyRun start site) (policed : start.db.Policed) : site.db.Policed := by
  induction run with
  | refl => exact policed
  | tail _ step ih => exact (step.steps ih).policed ih

theorem PolicyRun.archived (run : PolicyRun start site) (policed : start.db.Policed) (agentId : Nat) :
    Archive.Run PolicyRow.generation (start.db.archive agentId) (site.db.archive agentId) := by
  induction run with
  | refl => exact .refl
  | tail before step ih => exact .tail ih ((step.steps (PolicyRun.policed before policed)).step agentId)

theorem PolicyRun.complete (run : PolicyRun start site) (installed : Installed start.db) (agentId : Nat) :
    Archive.Complete PolicyRow.generation (site.db.archive agentId) := by
  induction run with
  | refl => exact installed.complete agentId
  | tail before step ih => exact ((step.steps (PolicyRun.policed before installed.policed)).step agentId).complete ih

/-- Every version on file has been in force. -/
theorem PolicyRun.was_live (run : PolicyRun start site) (installed : Installed start.db) {agentId : Nat}
    {old : PolicyRow} (filed : old ∈ site.db.versions agentId) :
    ∃ mid, PolicyRun start mid ∧ PolicyRun mid site ∧ mid.db.policyOf agentId = some old := by
  induction run with
  | refl =>
    rw [installed.unfiled] at filed
    cases filed
  | @tail mid site before step ih =>
    have taken := (step.steps (PolicyRun.policed before installed.policed)).step agentId
    have found : old ∈ mid.db.versions agentId ∨ mid.db.policyOf agentId = some old := by
      rcases taken.filed filed with earlier | now
      · exact .inl earlier
      · exact .inr now
    rcases found with earlier | now
    · obtain ⟨first, reached, rest, held⟩ := ih earlier
      exact ⟨first, reached, rest.tail step, held⟩
    · exact ⟨mid, before, .single step, now⟩

theorem versions_select (db : Db) (agentId generation : Nat) :
    (db.policyHistory.select fun _ row =>
      row.policy.agentId == agentId && row.policy.generation == generation).map (fun row => row.2.policy) =
      (db.versions agentId).filter fun policy => policy.generation == generation := by
  rw [Db.versions, List.filter_filter, List.filter_map, Table.select]
  congr 1
  refine List.filter_congr fun row _ => ?_
  exact Bool.and_comm _ _

/-- Each earlier generation of a policy is on file exactly once, as it was in force; the
current one is not on file, and a call that changes no field adds nothing. -/
theorem policy_history_faithful (installed : Installed start.db) (run : PolicyRun start site) {agentId : Nat}
    {policy : PolicyRow} (held : site.db.policyOf agentId = some policy) :
    (∀ generation, 1 ≤ generation → generation < policy.generation → ∃ key old,
      (site.db.policyHistory.select fun _ row =>
        row.policy.agentId == agentId && row.policy.generation == generation) = [(key, old)] ∧
      (∀ mid version, PolicyRun start mid → PolicyRun mid site → mid.db.policyOf agentId = some version →
        version.generation = generation → old.policy.sameAs version = true) ∧
      ∃ mid version, PolicyRun start mid ∧ PolicyRun mid site ∧ mid.db.policyOf agentId = some version ∧
        version.generation = generation) ∧
    (site.db.policyHistory.select fun _ row =>
      row.policy.agentId == agentId && row.policy.generation == policy.generation) = [] ∧
    ∀ later new, PolicyStep site later → later.db.policyOf agentId = some new → new.sameAs policy = true →
      new.generation = policy.generation ∧ later.db.versions agentId = site.db.versions agentId := by
  have complete : Archive.Complete PolicyRow.generation ⟨some policy, site.db.versions agentId⟩ :=
    held ▸ run.complete installed agentId
  have policed := PolicyRun.policed run installed.policed
  refine ⟨fun generation positive earlier => ?_, ?_, fun later new step after same => ?_⟩
  · obtain ⟨version, filed, counted, once⟩ := complete.filed_once positive earlier
    rw [← versions_select, List.map_eq_singleton_iff] at once
    obtain ⟨⟨key, old⟩, row, rfl⟩ := once
    refine ⟨key, old, row, fun mid live before rest inForce number => ?_, ?_⟩
    · have reached := PolicyRun.archived rest (PolicyRun.policed before installed.policed) agentId
      exact Archive.Run.filed_was_live reached (PolicyRun.complete run installed agentId) inForce filed
        (counted.trans number.symm)
    · obtain ⟨mid, before, rest, live⟩ := PolicyRun.was_live run installed filed
      exact ⟨mid, old.policy, before, rest, live, counted⟩
  · rw [← List.map_eq_nil_iff (f := fun row : Nat × PolicyHistoryRow => row.2.policy), versions_select]
    exact complete.not_filed
  · have taken := (step.steps policed).step agentId
    rw [Db.archive, held] at taken
    exact taken.unchanged after same

end Runs

/-- One agent has been created. -/
def helperSite : Site :=
  { Site.empty with
    db := { Db.empty with
      agents := Table.empty.insert ⟨"helper", true, false, none, .adminApproval, .emptyObj⟩
      policies := Table.empty.insert (defaultPolicy 0) } }

def rewording : PolicyEdit := { PolicyEdit.none with prompt := some "Watch." }

theorem helperSite_policyOf (agentId : Nat) :
    helperSite.db.policyOf agentId = if agentId = 0 then some (defaultPolicy 0) else none := by
  by_cases first : agentId = 0
  · subst first
    rfl
  · have other : ((0 : Nat) == agentId) = false := by simpa using Ne.symm first
    have empty : (Table.empty : Table PolicyRow).find? (fun _ policy => policy.agentId == agentId) = none := rfl
    rw [if_neg first, Db.policyOf, helperSite, Table.find?_insert, empty]
    simp [defaultPolicy, other]

theorem helperSite_installed : Installed helperSite.db where
  policed agentId policy held := by
    rw [helperSite_policyOf] at held
    split_ifs at held with first
    subst first
    decide
  first agentId policy held := by
    rw [helperSite_policyOf] at held
    split_ifs at held
    obtain rfl := Option.some.inj held
    rfl
  unfiled agentId := rfl

theorem helperSite_sound : helperSite.db.SoundPolicies := by
  intro agentId policy held
  rw [helperSite_policyOf] at held
  split_ifs at held
  obtain rfl := Option.some.inj held
  exact newPolicy_sound 0 none

/-- An edit that changes a field makes it the second generation. -/
theorem helperSite_edited {edit : PolicyEdit} (valid : edit.valid = true)
    (changed : ((defaultPolicy 0).edited edit).sameAs (defaultPolicy 0) = false) :
    ∃ answer, helperSite.onDb (fnSetPolicyFields helperSite.db (some 0) edit) = .ok answer ∧
      answer.2.db.policyOf 0 = some { (defaultPolicy 0).edited edit with generation := 2 } ∧
      answer.2.db.versions 0 = [defaultPolicy 0] := by
  have current : helperSite.db.policyOf 0 = some (defaultPolicy 0) := rfl
  obtain ⟨result, done⟩ := returns_fnSetPolicyFields current rfl valid
  obtain ⟨agentId, old, new, named, ⟨generation, edited⟩, sets⟩ := fnSetPolicyFields_sets result done
  obtain rfl := Option.some.inj named
  obtain rfl := Option.some.inj (sets.held.symm.trans current)
  refine ⟨(result.1, helperSite.withDb result.2), by rw [done]; rfl, ?_⟩
  have different : new.sameAs (defaultPolicy 0) = false := by
    rw [edited]
    exact changed
  rcases sets.filed with ⟨unchanged, -, -⟩ | ⟨-, counted, rate, history⟩
  · rw [different] at unchanged
    cases unchanged
  · refine ⟨?_, versions_insert (defaultPolicy 0) rate 0 history⟩
    have second : generation = 2 := by
      rw [edited] at counted
      exact counted
    rw [← second, ← edited]
    exact sets.after

theorem policy_history_faithful_reworded :
    ∃ answer, helperSite.onDb (fnSetPolicyFields helperSite.db (some 0) rewording) = .ok answer ∧
      ∃ key old, (answer.2.db.policyHistory.select fun _ row =>
        row.policy.agentId == 0 && row.policy.generation == 1) = [(key, old)] ∧
        old.policy.sameAs (defaultPolicy 0) = true := by
  obtain ⟨answer, done, held, -⟩ := @helperSite_edited rewording rfl (by decide +kernel)
  have run : PolicyRun helperSite answer.2 := .single (.setPolicy (some 0) rewording done)
  obtain ⟨filed, -, -⟩ := policy_history_faithful helperSite_installed run held
  obtain ⟨key, row, once, faithful, -⟩ := filed 1 le_rfl (by decide)
  exact ⟨answer, done, key, row, once, faithful helperSite (defaultPolicy 0) .refl run rfl rfl⟩

end Allgres
