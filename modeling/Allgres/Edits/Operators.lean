import Allgres.Edits.Worker

/-! The edits of the operator API: the functions that the dashboard calls on the tables of the control plane. -/

namespace Allgres

open Relational Jsonb Sql Raising

variable {env : Env} {db db' : Db}

theorem operators_govern : Powers.operators.governs db.agents := trivial

theorem operators_cover : Powers.operators.Covers := fun _ _ => trivial

theorem OnlyPerimeter.edits (only : OnlyPerimeter db db') : Edits env .operators db db' := .single (.perimeter trivial only)

/-! ### Agents -/

theorem leaves_fnSetAgentAutonomy (target : Option Nat) (level : Option String) :
    Leaves env .operators db (fnSetAgentAutonomy db target level) := by
  unfold fnSetAgentAutonomy
  split
  · exact leaves_error
  · refine ensures_withRow fun key _ => ?_
    split
    · exact leaves_error
    · refine ensures_ok.mpr (Edits.audited (Edit.edits ?_) _ _)
      exact .agent _ _ trivial fun _ => ⟨rfl, rfl⟩

theorem leaves_setAgentActive (target : Option Nat) (active : Option Bool) :
    Leaves env .operators db (setAgentActive db target active) := by
  refine ensures_withRow fun key _ => ?_
  split
  · exact leaves_fnSetAgentActive operators_govern _ _
  · split
    · exact leaves_error
    · exact leaves_error

theorem leaves_fnSetAgentConfig (target : Nat) (config : Option Json) :
    Leaves env .operators db (fnSetAgentConfig db target config) := by
  unfold fnSetAgentConfig
  split
  · exact leaves_error
  · split
    · exact leaves_error
    · split
      · exact leaves_error
      · refine ensures_ok.mpr (Edits.audited (Edit.edits ?_) _ _)
        exact .agent _ _ trivial fun _ => ⟨rfl, rfl⟩

theorem leaves_fnSetFunctionOverrideAutonomyPreset (target : Nat) (preset : Option String) :
    Leaves env .operators db (fnSetFunctionOverrideAutonomyPreset db target preset) := by
  unfold fnSetFunctionOverrideAutonomyPreset
  split
  · exact leaves_error
  · exact leaves_fnSetAgentConfig _ _

theorem leaves_fnGrantPermission (target : Option Nat) (type ref : Option String) :
    Leaves env .operators db (fnGrantPermission db target type ref) := by
  unfold fnGrantPermission
  split
  · split
    · exact leaves_error
    · exact ensures_ok.mpr (Edits.audited (Edit.edits (.permission _ trivial)) _ _)
  · exact leaves_error

theorem edits_revokePermission (target : Option Nat) (type ref : Option String) :
    Edits env .operators db (revokePermission db target type ref).2 := by
  unfold revokePermission
  split
  · exact edits_fnRevokePermission operators_govern _ _ _
  · exact edits_audit ..

/-! ### Policies -/

theorem leaves_fnSetPolicyFields {powers : Powers} (governs : powers.governs db.agents) (target : Option Nat)
    (edit : PolicyEdit) : Leaves env powers db (fnSetPolicyFields db target edit) := by
  refine ensures_withRow fun key _ => ?_
  split
  · exact leaves_error
  · dsimp only
    split
    · exact leaves_error
    · split
      · exact leaves_error
      · refine ensures_ok.mpr ?_
        split
        · refine Edits.audited (Edit.edits ?_) _ _
          exact .policy _ _ _ governs fun _ _ => rfl
        · refine Edit.edits ?_
          exact .policy _ _ _ governs fun _ _ => rfl

theorem ensures_setModel (config : Json) (db : Db) (agent : Nat × AgentRow) :
    Ensures (setModel config db agent) fun later => Edits env .operators db later :=
  ensures_map.mpr (leaves_fnSetPolicyFields operators_govern _ _)

theorem ensures_foldlM {α : Type} {powers : Powers} {pass : Db → α → Except String Db}
    (passes : ∀ db item, Ensures (pass db item) fun later => Edits env powers db later) (items : List α) (db : Db) :
    Ensures (items.foldlM pass db) fun later => Edits env powers db later := by
  induction items generalizing db with
  | nil => exact ensures_ok.mpr .refl
  | cons item rest ih =>
    rw [List.foldlM_cons]
    refine ensures_bind.mpr fun next passed => ?_
    have first : Edits env powers db next := passes db item next passed
    exact (ih next).imp fun _ => first.trans

theorem leaves_fnBulkSetModel (provider model : Option String) :
    Leaves env .operators db (fnBulkSetModel db provider model) := by
  unfold fnBulkSetModel
  split
  · split
    · exact leaves_error
    · dsimp only
      split
      · exact leaves_error
      · rename_i set
        exact ensures_ok.mpr (Edits.audited (ensures_foldlM (ensures_setModel _) _ _ _ set) _ _)
  · exact leaves_error

theorem leaves_fnRollbackPolicy (target : Option Nat) (generation : Option Int) :
    Leaves env .operators db (fnRollbackPolicy db target generation) := by
  unfold fnRollbackPolicy
  split
  · exact leaves_error
  · exact (leaves_fnSetPolicyFields operators_govern _ _).imp fun _ => (edits_audit ..).trans

/-! ### Memories -/

theorem leaves_fnRemember {powers : Powers} (target : Option Nat)
    (content memoryType importance subjectId days : Option String) :
    Leaves env powers db (fnRemember env db target content memoryType importance subjectId days) := by
  unfold fnRemember
  dsimp only
  split
  · exact ensures_ok.mpr (edits_audit ..)
  · rename_i written
    split
    · exact leaves_error
    · exact ensures_ok.mpr (Edits.audited (edits_writeMemory written) _ _)

theorem edits_fnForget {powers : Powers} (memoryId : Option Nat) : Edits env powers db (fnForget db memoryId).2 :=
  Edits.audited (Edit.edits (.forget _)) _ _

/-! ### The configuration -/

theorem leaves_fnAllowlistAdd (ref : Option String) : Leaves env .operators db (fnAllowlistAdd db ref) := by
  unfold fnAllowlistAdd
  split
  · exact leaves_error
  · refine ensures_ok.mpr (Edits.audited (OnlyPerimeter.edits ?_) _ _)
    rfl

theorem edits_fnAllowlistDel (ref : Option String) : Edits env .operators db (fnAllowlistDel db ref).2 := by
  refine Edits.audited (OnlyPerimeter.edits ?_) _ _
  rfl

theorem edits_insertConnection (connection : ConnectionRow) :
    Edits env .operators db { db with connections := db.connections.insert connection } := OnlyPerimeter.edits rfl

theorem edits_insertProvider (provider : ProviderRow) :
    Edits env .operators db { db with providers := db.providers.insert provider } := OnlyPerimeter.edits rfl

theorem leaves_fnSetConnectionSecret (web : WebEnv) (connectionId : Option Nat) (apiKey : Option String) :
    Leaves env .operators db (fnSetConnectionSecret web db connectionId apiKey) := by
  unfold fnSetConnectionSecret
  split
  · exact leaves_error
  · exact leaves_error
  · refine ensures_ok.mpr (OnlyPerimeter.edits ?_)
    rfl

theorem leaves_fnSetProviderSecret (web : WebEnv) (providerId : Option Nat) (apiKey : Option String) :
    Leaves env .operators db (fnSetProviderSecret web db providerId apiKey) := by
  unfold fnSetProviderSecret
  split
  · exact leaves_error
  · exact leaves_error
  · refine ensures_ok.mpr (Edits.audited (OnlyPerimeter.edits ?_) _ _)
    rfl

/-- A secret that is stored only if there is one. -/
theorem ensures_optional {α : Type} {given : Prop} [Decidable given] {result : Except String (α × Db)}
    (stores : Leaves env .operators db result) :
    Ensures (if given then result.map Prod.snd else .ok db) fun later => Edits env .operators db later := by
  split
  · exact ensures_map.mpr stores
  · exact ensures_ok.mpr .refl

theorem leaves_fnCreateConnection (web : WebEnv) (name baseUrl : Option String) (authKind : String)
    (apiKey : Option String) (allow : Bool) :
    Leaves env .operators db (fnCreateConnection web db name baseUrl authKind apiKey allow) := by
  unfold fnCreateConnection
  dsimp only
  split
  · exact leaves_error
  · exact leaves_error
  · exact leaves_error
  · split
    · exact leaves_error
    · split
      · exact leaves_error
      · split
        · exact leaves_error
        · rename_i stored
          have secret : Edits env .operators _ _ := ensures_optional (leaves_fnSetConnectionSecret web _ _) _ stored
          exact ensures_ok.mpr (Edits.audited ((edits_insertConnection _).trans secret) _ _)

theorem leaves_fnSetConnection (web : WebEnv) (connectionId : Option Nat) (baseUrl authKind : Option String)
    (enabled allow : Option Bool) :
    Leaves env .operators db (fnSetConnection web db connectionId baseUrl authKind enabled allow) := by
  refine ensures_withRow fun key _ => ?_
  split
  · exact leaves_error
  · dsimp only
    split
    · exact leaves_error
    · split
      · exact leaves_error
      · refine ensures_ok.mpr (Edits.audited (OnlyPerimeter.edits ?_) _ _)
        rfl

theorem leaves_fnDeleteConnection (connectionId : Option Nat) :
    Leaves env .operators db (fnDeleteConnection db connectionId) := by
  refine ensures_withRow fun key _ => ?_
  split
  · exact leaves_error
  · split
    · exact leaves_error
    · refine ensures_ok.mpr (Edits.audited (OnlyPerimeter.edits ?_) _ _)
      rfl

theorem leaves_fnCreateProvider (web : WebEnv) (spec : ProviderSpec) :
    Leaves env .operators db (fnCreateProvider web db spec) := by
  unfold fnCreateProvider
  split
  · exact leaves_error
  · exact leaves_error
  · split
    · exact leaves_error
    · exact leaves_error
    · split
      · exact leaves_error
      · split
        · exact leaves_error
        · dsimp only
          split
          · exact leaves_error
          · rename_i stored
            have secret : Edits env .operators _ _ := ensures_optional (leaves_fnSetProviderSecret web _ _) _ stored
            exact ensures_ok.mpr (Edits.audited ((edits_insertProvider _).trans secret) _ _)

theorem leaves_fnSetModelPrice (providerId : Option Nat) (model : Option String) (input output : Option ℚ) :
    Leaves env .operators db (fnSetModelPrice db providerId model input output) := by
  unfold fnSetModelPrice
  split
  · exact leaves_error
  · exact leaves_error
  · split
    · exact leaves_error
    · refine ensures_ok.mpr (Edits.audited (OnlyPerimeter.edits ?_) _ _)
      rfl

theorem leaves_fnDeleteModelPrice (providerId : Option Nat) (model : Option String) :
    Leaves env .operators db (fnDeleteModelPrice db providerId model) := by
  unfold fnDeleteModelPrice
  dsimp only
  split
  · refine ensures_ok.mpr (Edits.audited (OnlyPerimeter.edits ?_) _ _)
    rfl
  · exact leaves_error

theorem leaves_fnProviderProbeStart (web : WebEnv) (providerId : Option Nat) :
    Leaves env .operators db (fnProviderProbeStart web db providerId) := by
  refine ensures_withRow fun key _ => ?_
  split
  · exact leaves_error
  · dsimp only
    split
    · exact leaves_error
    · refine ensures_ok.mpr (Edits.audited (Edit.edits ?_) _ _)
      refine .probes _ (advancesProbes_trans (.update ServiceCall.Onward.refl _ ?_) (.insert ServiceCall.Onward.refl _ _))
      intro key call found chosen
      rw [Bool.and_eq_true] at chosen
      exact call.onward_of chosen.2 (by decide) _ _

/-! ### Functions and procedures -/

theorem leaves_insertFunction (name description : String) (handler : Handler) (template : Json)
    (connectionId : Option Nat) :
    Leaves env .operators db (insertFunction db env name description handler template connectionId) := by
  unfold insertFunction
  split
  · exact leaves_error
  · rename_i free
    refine ensures_ok.mpr (Edits.audited (Edit.edits ?_) _ _)
    refine .newFunction _ trivial fun key row found same => ?_
    exact free (Table.exists?_eq_true.mpr ⟨key, row, found, beq_iff_eq.mpr same⟩)

theorem leaves_fnCreateFunctionFields (name description handler : Option String) (template : Json)
    (body : Option String) (paramSchema : Option Json) (connectionId : Option Nat) :
    Leaves env .operators db
      (fnCreateFunctionFields env db name description handler template body paramSchema connectionId) := by
  unfold fnCreateFunctionFields
  dsimp only
  split
  · split
    · exact leaves_error
    · split
      · exact leaves_error
      · split
        · exact leaves_error
        · split
          · exact leaves_error
          · exact leaves_insertFunction _ _ _ _ _
  · split
    · exact leaves_error
    · split
      · exact leaves_error
      · split
        · exact leaves_error
        · split
          · exact leaves_error
          · exact leaves_insertFunction _ _ _ _ _
  · exact leaves_fnCreateFunction operators_govern _ _ _ _ _
  · exact leaves_error
  · exact leaves_error

theorem leaves_fnBindProcedureFunction (procedureId functionId : Option Nat) :
    Leaves env .operators db (fnBindProcedureFunction db procedureId functionId) := by
  unfold fnBindProcedureFunction
  split
  · exact leaves_error
  · exact leaves_error
  · refine ensures_ok.mpr (Edits.audited (OnlyPerimeter.edits ?_) _ _)
    rfl

theorem leaves_fnCreateProcedure (name content body : Option String) :
    Leaves env .operators db (fnCreateProcedure env db name content body) := by
  unfold fnCreateProcedure
  split
  · exact leaves_error
  · split
    · exact leaves_error
    · split
      · exact leaves_error
      · dsimp only
        split
        · exact leaves_error
        · refine ensures_ok.mpr (Edits.audited (OnlyPerimeter.edits ?_) _ _)
          rfl

theorem ensures_fileProcedure {changed : Prop} [Decidable changed] (procedureId : Nat) (old : ProcedureRow) :
    Ensures (if changed then fileProcedure db procedureId old else .ok db) fun later =>
      Edits env .operators db later := by
  unfold fileProcedure
  split
  · split
    · exact ensures_error.mpr trivial
    · refine ensures_ok.mpr (OnlyPerimeter.edits ?_)
      rfl
  · exact ensures_ok.mpr .refl

theorem leaves_fnSetProcedure (procedureId : Nat) (content : Option String) (enabled : Option Bool)
    (body : Option String) : Leaves env .operators db (fnSetProcedure env db procedureId content enabled body) := by
  unfold fnSetProcedure
  split
  · exact leaves_error
  · split
    · exact leaves_error
    · dsimp only
      split
      · exact leaves_error
      · rename_i filed
        have history : Edits env .operators db _ := ensures_fileProcedure _ _ _ filed
        refine ensures_ok.mpr (Edits.audited (history.trans (OnlyPerimeter.edits ?_)) _ _)
        rfl

theorem leaves_rollbackProcedure (procedureId : Option Nat) (generation : Option Int) :
    Leaves env .operators db (rollbackProcedure env db procedureId generation) := by
  unfold rollbackProcedure
  split
  · unfold fnRollbackProcedure
    split
    · exact leaves_error
    · exact (leaves_fnSetProcedure _ _ _ _).imp fun _ => (edits_audit ..).trans
  · exact leaves_error

/-! ### Schedules -/

theorem leaves_fnCreateSchedule (name : Option String) (target : Nat) (goal : Option String)
    (interval maxRuns : Option Int) (endsAt startAt : Option Time) (maxCost : Option ℚ) :
    Leaves env .operators db (fnCreateSchedule env db name target goal interval maxRuns endsAt startAt maxCost) := by
  unfold fnCreateSchedule
  dsimp only
  split_ifs
  all_goals first
    | exact leaves_error
    | (refine ensures_ok.mpr (Edits.audited (OnlyTraffic.edits ?_) _ _); rfl)

theorem leaves_fnSetSchedule (scheduleId : Nat) (edit : ScheduleEdit) :
    Leaves env .operators db (fnSetSchedule db scheduleId edit) := by
  unfold fnSetSchedule
  split
  · exact leaves_error
  · dsimp only
    split_ifs
    all_goals first
      | exact leaves_error
      | (refine ensures_ok.mpr (Edits.audited (OnlyTraffic.edits ?_) _ _); rfl)

theorem leaves_fnDeleteSchedule (scheduleId : Nat) : Leaves env .operators db (fnDeleteSchedule db scheduleId) := by
  unfold fnDeleteSchedule
  split
  · exact leaves_error
  · refine ensures_ok.mpr (Edits.audited (OnlyTraffic.edits ?_) _ _)
    rfl

theorem leaves_fnRunScheduleNow (scheduleId : Nat) : Leaves env .operators db (fnRunScheduleNow env db scheduleId) := by
  unfold fnRunScheduleNow
  split
  · exact leaves_error
  · split
    · exact leaves_error
    · split
      · exact leaves_error
      · split
        · exact leaves_error
        · rename_i created
          have opened : Edits env .operators db _ := begins_fnCreateSession _ _ _ _ _ created
          refine ensures_ok.mpr (Edits.audited (opened.trans (OnlyTraffic.edits ?_)) _ _)
          rfl

end Allgres
