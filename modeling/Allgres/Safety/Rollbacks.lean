import Allgres.Build
import Allgres.Safety.Policies

/-! What a rollback to a version on file brings back, of a policy and of a procedure. -/

namespace Allgres

open Relational Jsonb Sql Raising

/-! ### Policies -/

section Policies

variable {start site : Site} {agentId : Nat} {live old : PolicyRow}

theorem PolicyRun.sound (run : PolicyRun start site) (policed : start.db.Policed) (sound : start.db.SoundPolicies) :
    site.db.SoundPolicies := by
  induction run with
  | refl => exact sound
  | tail before step ih => exact (step.steps (PolicyRun.policed before policed)).sound ih

theorem PolicyRun.filed_sound (run : PolicyRun start site) (installed : Installed start.db)
    (sound : start.db.SoundPolicies) (filed : old ∈ site.db.versions agentId) : old.Sound := by
  obtain ⟨mid, before, -, held⟩ := PolicyRun.was_live run installed filed
  exact PolicyRun.sound before installed.policed sound agentId old held

/-- Everything but the configuration comes back. -/
theorem edited_restoring_sameAs (sound : old.Sound) :
    (live.edited old.restoring).sameAs old = (sanitizeLlmConfig (live.llmConfig.concat old.llmConfig)).same old.llmConfig := by
  have prompt : nonEmpty (some old.systemPrompt) = some old.systemPrompt := by simp [nonEmpty, sound.prompted]
  have limit (value : Nat) (other : Nat) : limitOr (some (value : Int)) other = value := rfl
  have seconds : (live.edited old.restoring).maxTurnSeconds = old.maxTurnSeconds := by
    cases set : old.maxTurnSeconds with
    | none => simp [PolicyRow.edited, PolicyRow.restoring, set]
    | some value => simp [PolicyRow.edited, PolicyRow.restoring, set]
  unfold PolicyRow.sameAs
  rw [seconds]
  simp [PolicyRow.edited, PolicyRow.restoring, prompt, limit, mergedConfig]

/-- The rollback returns, and the fields of the version that is then in force are those on file. -/
def RestoresPolicy (db : Db) (agentId : Nat) (old : PolicyRow) : Prop :=
  ∃ result, fnRollbackPolicy db (some agentId) (some old.generation) = .ok result ∧
    ∃ new, result.2.policyOf agentId = some new ∧ new.sameAs old = true

theorem find?_filed {db : Db} (complete : Archive.Complete PolicyRow.generation ⟨some live, db.versions agentId⟩)
    (filed : old ∈ db.versions agentId) : ∃ key row, row.policy = old ∧ (db.policyHistory.find? fun _ row =>
      some row.policy.agentId == some agentId && some (row.policy.generation : Int) == some (old.generation : Int)) =
        some (key, row) := by
  have same (row : PolicyHistoryRow) : (some row.policy.agentId == some agentId &&
      some (row.policy.generation : Int) == some (old.generation : Int)) =
        (row.policy.agentId == agentId && row.policy.generation == old.generation) := by
    rw [Bool.eq_iff_iff]
    simp
  obtain ⟨version, listed, counted, once⟩ := complete.filed_once (complete.filed_pos filed) (complete.lt filed)
  obtain rfl := complete.unique listed filed counted
  rw [← versions_select, List.map_eq_singleton_iff] at once
  obtain ⟨⟨key, row⟩, here, equal⟩ := once
  refine ⟨key, row, equal, ?_⟩
  simp only [same]
  rw [Table.select] at here
  rw [Table.find?, ← List.head?_filter, here]
  rfl

theorem restoresPolicy_iff (installed : Installed start.db) (sound : start.db.SoundPolicies)
    (run : PolicyRun start site) (held : site.db.policyOf agentId = some live)
    (filed : old ∈ site.db.versions agentId) :
    RestoresPolicy site.db agentId old ↔ live.llmConfig.keys ⊆ old.llmConfig.keys := by
  have complete : Archive.Complete PolicyRow.generation ⟨some live, site.db.versions agentId⟩ :=
    held ▸ PolicyRun.complete run installed agentId
  have oldSound := PolicyRun.filed_sound run installed sound filed
  have liveSound := PolicyRun.sound run installed.policed sound agentId live held
  obtain ⟨key, row, rfl, found⟩ := find?_filed complete filed
  have unfiled : (site.db.policyHistory.exists? fun _ other =>
      other.policy.agentId == agentId && other.policy.generation == live.generation) = false := by
    have none := complete.not_filed
    rw [← versions_select, List.map_eq_nil_iff, Table.select, List.filter_eq_nil_iff] at none
    rw [Table.exists?, List.any_eq_false]
    exact none
  obtain ⟨audited, same, rolled⟩ : ∃ audited, SamePolicies site.db audited ∧
      fnRollbackPolicy site.db (some agentId) (some row.policy.generation) =
        fnSetPolicyFields audited (some agentId) row.policy.restoring := by
    refine ⟨site.db.audit "policy.rollback" (.build [("agent_id", optId (some agentId)),
      ("restored_generation", .ofOption (fun value => .num value 0) (some (row.policy.generation : Int)))]),
      ⟨rfl, rfl, le_rfl⟩, ?_⟩
    rw [fnRollbackPolicy, found]
  rw [← same.history] at unfiled
  rw [← restores_config_iff liveSound.canonical oldSound.canonical, ← edited_restoring_sameAs oldSound, RestoresPolicy,
    rolled]
  have current : audited.policyOf agentId = some live := (same.policyOf agentId).trans held
  obtain ⟨result, returned⟩ := returns_fnSetPolicyFields current unfiled oldSound.valid
  obtain ⟨target, before, new, named, ⟨generation, edited⟩, sets⟩ := fnSetPolicyFields_sets result returned
  obtain rfl := Option.some.inj named
  obtain rfl := Option.some.inj (sets.held.symm.trans current)
  constructor
  · rintro ⟨other, done, version, now, same⟩
    obtain rfl := Except.ok.inj (returned.symm.trans done)
    obtain rfl := Option.some.inj (sets.after.symm.trans now)
    rw [edited] at same
    exact same
  · intro same
    refine ⟨result, returned, new, sets.after, ?_⟩
    rw [edited]
    exact same

end Policies

/-! ### Procedures -/

/-- Versions of a procedure count as the same if their text and their body are. -/
instance : Setoid ProcedureHistoryRow where
  r new old := new.content = old.content ∧ new.body = old.body
  iseqv := ⟨fun _ => ⟨rfl, rfl⟩, fun same => ⟨same.1.symm, same.2.symm⟩,
    fun first second => ⟨first.1.trans second.1, first.2.trans second.2⟩⟩

def ProcedureRow.version (procedureId : Nat) (row : ProcedureRow) : ProcedureHistoryRow :=
  ⟨procedureId, row.generation, row.content, row.body⟩

def Db.procedureArchive (db : Db) (procedureId : Nat) : Archive.State ProcedureHistoryRow :=
  ⟨(db.procedures.get? procedureId).map (ProcedureRow.version procedureId),
    (db.procedureHistory.rows.map Prod.snd).filter fun row => row.procedureId == procedureId⟩

/-- A text that is not blank, and a body that passes the checks, if there is one. -/
structure ProcedureHistoryRow.Sound (pg : Pg) (version : ProcedureHistoryRow) : Prop where
  written : version.content ≠ ""
  valid : ∀ body, version.body = some body → validateFunctionBody pg (some body) = .ok ()

/-- What a call does to the versions of all procedures. -/
structure ProcedureSteps (pg : Pg) (db db' : Db) : Prop where
  step : ∀ procedureId, Archive.Step ProcedureHistoryRow.generation (db.procedureArchive procedureId)
    (db'.procedureArchive procedureId)
  sound : ∀ procedureId new, (db'.procedureArchive procedureId).live = some new →
    new.Sound pg ∨ (db.procedureArchive procedureId).live = some new

section Procedures

variable {pg : Pg} {db db' : Db} {procedureId : Nat}

/-- The text and the body of one procedure are set, and the old ones are filed if that changes them. -/
structure SetsProcedure (db db' : Db) (procedureId : Nat) (old new : ProcedureHistoryRow) : Prop where
  held : (db.procedureArchive procedureId).live = some old
  after : (db'.procedureArchive procedureId).live = some new
  others : ∀ other, other ≠ procedureId → db'.procedureArchive other = db.procedureArchive other
  filed : (new ≈ old ∧ new.generation = old.generation ∧
      (db'.procedureArchive procedureId).filed = (db.procedureArchive procedureId).filed) ∨
    (¬ new ≈ old ∧ new.generation = old.generation + 1 ∧
      (db'.procedureArchive procedureId).filed = (db.procedureArchive procedureId).filed ++ [old])

theorem SetsProcedure.steps {old new : ProcedureHistoryRow} (sets : SetsProcedure db db' procedureId old new)
    (sound : new.Sound pg) : ProcedureSteps pg db db' := by
  refine ⟨fun other => ?_, fun other version now => ?_⟩
  · by_cases same : other = procedureId
    · subst same
      have held := sets.held
      have after := sets.after
      have filed := sets.filed
      revert held after filed
      generalize db.procedureArchive other = before
      generalize db'.procedureArchive other = later
      obtain ⟨live, file⟩ := before
      obtain ⟨live', file'⟩ := later
      rintro (rfl : live = some old) (rfl : live' = some new)
        (⟨unchanged, counted, rfl : file' = file⟩ | ⟨changed, counted, rfl : file' = file ++ [old]⟩)
      · exact .kept unchanged counted
      · exact .changed changed counted
    · rw [sets.others other same]
      exact .refl _
  · by_cases same : other = procedureId
    · subst same
      obtain rfl := Option.some.inj (sets.after.symm.trans now)
      exact .inl sound
    · rw [sets.others other same] at now
      exact .inr now

theorem procedureArchive_modify {old : ProcedureRow} {set : ProcedureRow → ProcedureRow}
    (found : db.procedures.get? procedureId = some old) (procedures : db'.procedures = db.procedures.modify procedureId set)
    (other : Nat) : (db'.procedureArchive other).live = if other = procedureId then some ((set old).version procedureId)
      else (db.procedureArchive other).live := by
  simp only [Db.procedureArchive]
  rw [procedures, Table.get?_modify]
  split_ifs with same
  · subst same
    rw [found]
    rfl
  · rfl

theorem validateBody_ok_iff {env : Env} {body : Option String} : validateBody env body = .ok () ↔
    ∀ text, body = some text → validateFunctionBody env.pg (some text) = .ok () := by
  cases body with
  | none => simp [validateBody]
  | some text => simp [validateBody]

theorem procedureArchive_filed (history : db'.procedureHistory = db.procedureHistory) (other : Nat) :
    (db'.procedureArchive other).filed = (db.procedureArchive other).filed := by
  simp only [Db.procedureArchive]
  rw [history]

theorem procedureArchive_insert {old : ProcedureHistoryRow} (here : old.procedureId = procedureId)
    (history : db'.procedureHistory = db.procedureHistory.insert old) (other : Nat) :
    (db'.procedureArchive other).filed =
      (db.procedureArchive other).filed ++ if other = procedureId then [old] else [] := by
  simp only [Db.procedureArchive]
  rw [history]
  by_cases same : other = procedureId
  · simp [Table.insert, here, same]
  · simp [Table.insert, here, same, Ne.symm same]

theorem SetsProcedure.of_modify {row : ProcedureRow} (set : ProcedureRow → ProcedureRow)
    (found : db.procedures.get? procedureId = some row)
    (procedures : db'.procedures = db.procedures.modify procedureId set)
    (filed : ((set row).version procedureId ≈ row.version procedureId ∧ (set row).generation = row.generation ∧
        db'.procedureHistory = db.procedureHistory) ∨
      (¬ (set row).version procedureId ≈ row.version procedureId ∧ (set row).generation = row.generation + 1 ∧
        db'.procedureHistory = db.procedureHistory.insert (row.version procedureId))) :
    SetsProcedure db db' procedureId (row.version procedureId) ((set row).version procedureId) := by
  have live := procedureArchive_modify found procedures
  have here : (row.version procedureId).procedureId = procedureId := rfl
  refine ⟨by rw [Db.procedureArchive, found]; rfl, by rw [live, if_pos rfl], fun other apart => ?_, ?_⟩
  · refine Archive.State.ext (by rw [live, if_neg apart]) ?_
    rcases filed with ⟨-, -, history⟩ | ⟨-, -, history⟩
    · exact procedureArchive_filed history other
    · rw [procedureArchive_insert here history other, if_neg apart, List.append_nil]
  · rcases filed with ⟨same, counted, history⟩ | ⟨different, counted, history⟩
    · exact .inl ⟨same, counted, procedureArchive_filed history procedureId⟩
    · refine .inr ⟨different, counted, ?_⟩
      rw [procedureArchive_insert here history procedureId, if_pos rfl]

/-- The row that `fn_set_procedure` stores over the one that it has read. -/
def ProcedureRow.editing (env : Env) (old : ProcedureRow) (content : Option String) (enabled : Option Bool)
    (body : Option String) (generation : Nat) (row : ProcedureRow) : ProcedureRow :=
  { row with
    content := (nonEmpty content).getD old.content
    body := body.or old.body
    buildStatus := if body.or old.body != old.body && (body.or old.body).isSome then .pending else row.buildStatus
    isActive := enabled.getD row.isActive
    generation := generation
    updatedAt := env.now }

/-- `fn_set_procedure` replaces a text or a body that it is given. -/
theorem fnSetProcedure_sets {env : Env} {content : Option String} {enabled : Option Bool} {body : Option String} :
    Ensures (fnSetProcedure env db procedureId content enabled body) fun result => ∃ row generation,
      db.procedures.get? procedureId = some row ∧ validateBody env body = .ok () ∧
      SetsProcedure db result.2 procedureId (row.version procedureId)
        ⟨procedureId, generation, (nonEmpty content).getD row.content, body.or row.body⟩ := by
  unfold fnSetProcedure
  split
  · exact ensures_error.mpr trivial
  · rename_i row found
    split
    · exact ensures_error.mpr trivial
    · rename_i passed
      dsimp only
      split
      · exact ensures_error.mpr trivial
      · rename_i filedDb filing
        refine ensures_ok.mpr ?_
        cases changed : ((nonEmpty content).getD row.content != row.content || body.or row.body != row.body) with
        | true =>
          rw [changed, if_pos rfl, fileProcedure] at filing
          split at filing
          · cases filing
          · obtain rfl := Except.ok.inj filing
            rw [if_pos rfl]
            refine ⟨row, row.generation + 1, found, passed,
              .of_modify (row.editing env content enabled body (row.generation + 1)) found rfl (.inr ⟨?_, rfl, rfl⟩)⟩
            rintro ⟨sameContent, sameBody⟩
            simp only [ProcedureRow.version, ProcedureRow.editing] at sameContent sameBody
            simp [sameContent, sameBody] at changed
        | false =>
          rw [changed, if_neg Bool.false_ne_true] at filing
          obtain rfl := Except.ok.inj filing
          rw [if_neg Bool.false_ne_true]
          rw [Bool.or_eq_false_iff, bne_eq_false_iff_eq, bne_eq_false_iff_eq] at changed
          exact ⟨row, row.generation, found, passed,
            .of_modify (row.editing env content enabled body row.generation) found rfl (.inl ⟨changed, rfl, rfl⟩)⟩

theorem fnSetProcedure_steps {env : Env} (here : env.pg = pg) {content : Option String} {enabled : Option Bool}
    {body : Option String}
    (sound : ∀ version, (db.procedureArchive procedureId).live = some version → version.Sound pg) :
    Ensures (fnSetProcedure env db procedureId content enabled body) fun result => ProcedureSteps pg db result.2 := by
  refine Ensures.imp fnSetProcedure_sets fun result ⟨row, generation, found, passed, sets⟩ => sets.steps ?_
  have before := sound _ sets.held
  refine ⟨nonEmpty_getD_ne before.written, fun text given => ?_⟩
  rw [validateBody_ok_iff, here] at passed
  cases asked : body with
  | some other =>
    simp only [asked, Option.some_or, Option.some.injEq] at given
    exact passed text (asked.trans (congrArg some given))
  | none =>
    simp only [asked, Option.none_or] at given
    exact before.valid text given

theorem ProcedureSteps.of_insert {row : ProcedureRow} (first : row.generation = 1)
    (sound : (row.version db.procedures.next).Sound pg) (procedures : db'.procedures = db.procedures.insert row)
    (history : db'.procedureHistory = db.procedureHistory) : ProcedureSteps pg db db' := by
  have live (other : Nat) : (db'.procedureArchive other).live =
      if other = db.procedures.next then some (row.version other) else (db.procedureArchive other).live := by
    simp only [Db.procedureArchive]
    rw [procedures, Table.get?_insert]
    split_ifs <;> rfl
  have archive (other : Nat) : db'.procedureArchive other = ⟨if other = db.procedures.next then
      some (row.version other) else (db.procedureArchive other).live, (db.procedureArchive other).filed⟩ :=
    Archive.State.ext (live other) (procedureArchive_filed history other)
  refine ⟨fun other => ?_, fun other new now => ?_⟩
  · rw [archive]
    by_cases same : other = db.procedures.next
    · subst same
      have fresh : db.procedureArchive db.procedures.next = ⟨none, (db.procedureArchive db.procedures.next).filed⟩ := by
        refine Archive.State.ext ?_ rfl
        rw [Db.procedureArchive, Table.get?_next]
        rfl
      rw [if_pos rfl, fresh]
      exact .created first
    · rw [if_neg same]
      exact .refl _
  · rw [live] at now
    split_ifs at now with same
    · subst same
      obtain rfl := Option.some.inj now
      exact .inl sound
    · exact .inr now

theorem fnCreateProcedure_steps {env : Env} (here : env.pg = pg) (name content body : Option String) :
    Ensures (fnCreateProcedure env db name content body) fun result => ProcedureSteps pg db result.2 := by
  unfold fnCreateProcedure
  split
  · exact ensures_error.mpr trivial
  · split
    · exact ensures_error.mpr trivial
    · rename_i filled
      split
      · exact ensures_error.mpr trivial
      · rename_i passed
        dsimp only
        split
        · exact ensures_error.mpr trivial
        · rw [validateBody_ok_iff, here] at passed
          refine ensures_ok.mpr (@ProcedureSteps.of_insert pg db _ ⟨btrim (name.getD ""), content.getD "", body,
            if body.isSome then .pending else .built, none, 1, true, none, env.now⟩ rfl ⟨?_, passed⟩ rfl rfl)
          intro empty
          cases content with
          | none => exact filled rfl
          | some text =>
            obtain rfl : text = "" := empty
            exact filled (by decide +kernel)

/-- The calls that write procedures and their versions, and those that do not. -/
inductive ProcedureStep (pg : Pg) (db : Db) : Db → Prop
  | createProcedure {result : Json × Db} (env : Env) (here : env.pg = pg) (name content body : Option String)
      (done : fnCreateProcedure env db name content body = .ok result) : ProcedureStep pg db result.2
  | setProcedure {result : Json × Db} (env : Env) (here : env.pg = pg) (procedureId : Nat) (content : Option String)
      (enabled : Option Bool) (body : Option String)
      (done : fnSetProcedure env db procedureId content enabled body = .ok result) : ProcedureStep pg db result.2
  | rollbackProcedure {result : Json × Db} (env : Env) (here : env.pg = pg) (procedureId generation : Nat)
      (done : fnRollbackProcedure env db procedureId generation = .ok result) : ProcedureStep pg db result.2
  | other {db' : Db} (same : ∀ procedureId, db'.procedureArchive procedureId = db.procedureArchive procedureId) :
      ProcedureStep pg db db'

abbrev ProcedureRun (pg : Pg) : Db → Db → Prop := Relation.ReflTransGen (ProcedureStep pg)

def Db.SoundProcedures (pg : Pg) (db : Db) : Prop := ∀ procedureId version,
  (db.procedureArchive procedureId).live = some version ∨ version ∈ (db.procedureArchive procedureId).filed →
    version.Sound pg

theorem ProcedureStep.steps (step : ProcedureStep pg db db') (sound : db.SoundProcedures pg) :
    ProcedureSteps pg db db' := by
  cases step with
  | createProcedure env here name content body done => exact fnCreateProcedure_steps here name content body _ done
  | setProcedure env here procedureId content enabled body done =>
    exact fnSetProcedure_steps here (fun version live => sound procedureId version (.inl live)) _ done
  | rollbackProcedure env here procedureId generation done =>
    unfold fnRollbackProcedure at done
    split at done
    · cases done
    · have steps := @fnSetProcedure_steps pg (db.audit "procedures.rollback" (.build [("procedure_id",
        idJson procedureId), ("restored_generation", .ofNat generation)])) procedureId env here _ _ _
        (fun version live => sound procedureId version (.inl live)) _ done
      exact ⟨steps.step, steps.sound⟩
  | other same =>
    exact ⟨fun procedureId => same procedureId ▸ .refl _, fun procedureId new now => .inr (same procedureId ▸ now)⟩

theorem ProcedureSteps.sound_after (steps : ProcedureSteps pg db db') (sound : db.SoundProcedures pg) :
    db'.SoundProcedures pg := by
  intro procedureId version known
  rcases known with now | filed
  · rcases steps.sound procedureId version now with fresh | before
    · exact fresh
    · exact sound procedureId version (.inl before)
  · rcases (steps.step procedureId).filed filed with before | live
    · exact sound procedureId version (.inr before)
    · exact sound procedureId version (.inl live)

/-- The tables as they are after the installation: no procedure has been changed yet. -/
structure InstalledProcedures (pg : Pg) (db : Db) : Prop where
  first : ∀ procedureId version, (db.procedureArchive procedureId).live = some version →
    version.generation = 1 ∧ version.Sound pg
  unfiled : ∀ procedureId, (db.procedureArchive procedureId).filed = []

theorem InstalledProcedures.sound (installed : InstalledProcedures pg db) : db.SoundProcedures pg := by
  rintro procedureId version (live | filed)
  · exact (installed.first procedureId version live).2
  · rw [installed.unfiled] at filed
    cases filed

theorem InstalledProcedures.complete (installed : InstalledProcedures pg db) (procedureId : Nat) :
    Archive.Complete ProcedureHistoryRow.generation (db.procedureArchive procedureId) := by
  have first := installed.first procedureId
  have unfiled := installed.unfiled procedureId
  revert first unfiled
  generalize db.procedureArchive procedureId = archive
  obtain ⟨live, filed⟩ := archive
  rintro first (rfl : filed = [])
  cases live with
  | none => exact .absent
  | some version =>
    have counted := (first version rfl).1
    exact .present (by omega) (by simp [counted])

theorem ProcedureRun.keeps (run : ProcedureRun pg db db') (installed : InstalledProcedures pg db) :
    db'.SoundProcedures pg ∧
      ∀ procedureId, Archive.Complete ProcedureHistoryRow.generation (db'.procedureArchive procedureId) := by
  induction run with
  | refl => exact ⟨installed.sound, installed.complete⟩
  | tail _ step ih =>
    have steps := step.steps ih.1
    exact ⟨steps.sound_after ih.1, fun procedureId => (steps.step procedureId).complete (ih.2 procedureId)⟩

/-- The rollback returns, and the text and the body of the version that is then in force are those on file. -/
def RestoresProcedure (env : Env) (db : Db) (procedureId : Nat) (old : ProcedureHistoryRow) : Prop :=
  ∃ result, fnRollbackProcedure env db procedureId old.generation = .ok result ∧
    ∃ new, (result.2.procedureArchive procedureId).live = some new ∧ new.content = old.content ∧ new.body = old.body

theorem procedureHistory_select (db : Db) (procedureId generation : Nat) :
    (db.procedureHistory.select fun _ row => row.procedureId == procedureId && row.generation == generation).map Prod.snd =
      (db.procedureArchive procedureId).filed.filter fun row => row.generation == generation := by
  rw [Db.procedureArchive, List.filter_filter, List.filter_map, Table.select]
  congr 1
  refine List.filter_congr fun row _ => ?_
  exact Bool.and_comm _ _

theorem returns_fnSetProcedure {env : Env} {row : ProcedureRow} {content : Option String} {enabled : Option Bool}
    {body : Option String} (found : db.procedures.get? procedureId = some row) (valid : validateBody env body = .ok ())
    (unfiled : (db.procedureHistory.exists? fun _ filed =>
      filed.procedureId == procedureId && filed.generation == row.generation) = false) :
    Returns (fnSetProcedure env db procedureId content enabled body) := by
  unfold fnSetProcedure
  rw [found]
  dsimp only
  rw [valid]
  dsimp only
  split
  · rename_i message failed
    split at failed
    · rw [fileProcedure, unfiled, if_neg Bool.false_ne_true] at failed
      cases failed
    · cases failed
  · exact returns_ok

theorem restoresProcedure_iff {env : Env} {start : Db} {live old : ProcedureHistoryRow}
    (installed : InstalledProcedures env.pg start) (run : ProcedureRun env.pg start db)
    (held : (db.procedureArchive procedureId).live = some live)
    (filed : old ∈ (db.procedureArchive procedureId).filed) :
    RestoresProcedure env db procedureId old ↔ (old.body = none → live.body = none) := by
  obtain ⟨sound, completeAll⟩ := ProcedureRun.keeps run installed
  have complete : Archive.Complete ProcedureHistoryRow.generation ⟨some live, (db.procedureArchive procedureId).filed⟩ :=
    held ▸ completeAll procedureId
  have oldSound := sound procedureId old (.inr filed)
  obtain ⟨row, found, rfl⟩ := Option.map_eq_some_iff.mp held
  have listed : ∃ key, (db.procedureHistory.find? fun _ other =>
      other.procedureId == procedureId && other.generation == old.generation) = some (key, old) := by
    obtain ⟨version, member, counted, once⟩ := complete.filed_once (complete.filed_pos filed) (complete.lt filed)
    obtain rfl := complete.unique member filed counted
    rw [← procedureHistory_select, List.map_eq_singleton_iff] at once
    obtain ⟨⟨key, other⟩, here, rfl⟩ := once
    rw [Table.select] at here
    refine ⟨key, ?_⟩
    rw [Table.find?, ← List.head?_filter, here]
    rfl
  have unfiled : (db.procedureHistory.exists? fun _ other =>
      other.procedureId == procedureId && other.generation == row.generation) = false := by
    have none := complete.not_filed
    rw [← procedureHistory_select, List.map_eq_nil_iff, Table.select, List.filter_eq_nil_iff] at none
    rw [Table.exists?, List.any_eq_false]
    exact none
  have valid : validateBody env old.body = .ok () := validateBody_ok_iff.mpr oldSound.valid
  obtain ⟨key, listed⟩ := listed
  obtain ⟨audited, procedures, history, rolled⟩ : ∃ audited : Db, audited.procedures = db.procedures ∧
      audited.procedureHistory = db.procedureHistory ∧ fnRollbackProcedure env db procedureId old.generation =
        fnSetProcedure env audited procedureId (some old.content) none old.body := by
    refine ⟨db.audit "procedures.rollback" (.build [("procedure_id", idJson procedureId),
      ("restored_generation", .ofNat old.generation)]), rfl, rfl, ?_⟩
    rw [fnRollbackProcedure, listed]
  rw [← history] at unfiled
  rw [← procedures] at found
  rw [RestoresProcedure, rolled]
  obtain ⟨result, returned⟩ := @returns_fnSetProcedure _ _ env row (some old.content) none old.body found valid unfiled
  obtain ⟨before, generation, here, -, sets⟩ := fnSetProcedure_sets result returned
  obtain rfl := Option.some.inj (here.symm.trans found)
  have text : (nonEmpty (some old.content)).getD before.content = old.content := by simp [nonEmpty, oldSound.written]
  have restored : (∃ other, fnSetProcedure env audited procedureId (some old.content) none old.body = .ok other ∧
      ∃ new, (other.2.procedureArchive procedureId).live = some new ∧ new.content = old.content ∧
        new.body = old.body) ↔ old.body.or before.body = old.body := by
    constructor
    · rintro ⟨other, done, new, now, -, body⟩
      obtain rfl := Except.ok.inj (returned.symm.trans done)
      obtain rfl := Option.some.inj (sets.after.symm.trans now)
      exact body
    · intro body
      exact ⟨result, returned, _, sets.after, text, body⟩
  rw [restored]
  cases body : old.body with
  | none => simp [ProcedureRow.version]
  | some text => simp

end Procedures

/-! ### What comes back -/

/-- A policy comes back unless the live configuration has a key that the one on file lacks, and
a procedure unless it has got a body since. -/
theorem rollback_restores_iff {start site : Site} {agentId : Nat} {live old : PolicyRow} (installed : Installed start.db)
    (sound : start.db.SoundPolicies) (run : PolicyRun start site) (held : site.db.policyOf agentId = some live)
    (filed : old ∈ site.db.versions agentId) {env : Env} {begin db : Db} {procedureId : Nat}
    {current version : ProcedureHistoryRow} (procedures : InstalledProcedures env.pg begin)
    (edits : ProcedureRun env.pg begin db) (inForce : (db.procedureArchive procedureId).live = some current)
    (kept : version ∈ (db.procedureArchive procedureId).filed) :
    (RestoresPolicy site.db agentId old ↔ live.llmConfig.keys ⊆ old.llmConfig.keys) ∧
      (RestoresProcedure env db procedureId version ↔ (version.body = none → current.body = none)) :=
  ⟨restoresPolicy_iff installed sound run held filed, restoresProcedure_iff procedures edits inForce kept⟩

/-- A procedure without a body has been installed. -/
def greetDb : Db :=
  { Db.empty with procedures := Table.empty.insert ⟨"greet", "Say hello.", none, .built, none, 1, true, none, 0⟩ }

def greeting : ProcedureHistoryRow := ⟨0, 1, "Say hello.", none⟩

theorem greetDb_archive (procedureId : Nat) :
    greetDb.procedureArchive procedureId = ⟨if procedureId = 0 then some greeting else none, []⟩ := by
  refine Archive.State.ext ?_ rfl
  by_cases first : procedureId = 0
  · subst first
    rfl
  · have absent : greetDb.procedures.get? procedureId = none :=
      (Table.get?_insert Table.empty _ procedureId).trans (if_neg first)
    rw [Db.procedureArchive, absent, if_neg first]
    rfl

theorem greetDb_installed : InstalledProcedures Pg.bare greetDb where
  first procedureId version held := by
    rw [greetDb_archive] at held
    dsimp only at held
    split_ifs at held
    obtain rfl := Option.some.inj held
    refine ⟨rfl, by decide, ?_⟩
    intro body given
    cases given
  unfiled procedureId := by rw [greetDb_archive]

/-- A new text or a body makes it the second generation. -/
theorem greetDb_edited {content body : Option String} (valid : validateBody Env.bare body = .ok ())
    (changed : ¬ ((nonEmpty content).getD "Say hello." = "Say hello." ∧ body = none)) :
    ∃ result, fnSetProcedure Env.bare greetDb 0 content none body = .ok result ∧
      (result.2.procedureArchive 0).live = some ⟨0, 2, (nonEmpty content).getD "Say hello.", body⟩ ∧
      (result.2.procedureArchive 0).filed = [greeting] := by
  obtain ⟨result, done⟩ := @returns_fnSetProcedure greetDb 0 Env.bare
    ⟨"greet", "Say hello.", none, .built, none, 1, true, none, 0⟩ content none body rfl valid rfl
  obtain ⟨row, generation, found, -, sets⟩ := fnSetProcedure_sets result done
  obtain rfl : row = ⟨"greet", "Say hello.", none, .built, none, 1, true, none, 0⟩ := Option.some.inj (found.symm.trans rfl)
  have given : body.or none = body := Option.or_none
  refine ⟨result, done, ?_⟩
  rcases sets.filed with ⟨same, -⟩ | ⟨-, counted, filed⟩
  · exact absurd ⟨same.1, given.symm.trans same.2⟩ changed
  · obtain rfl : generation = 2 := counted
    exact ⟨by rw [sets.after]; exact congrArg _ (by rw [given]), filed⟩

theorem rollback_restores_iff_reworded :
    (∃ answer, helperSite.onDb (fnSetPolicyFields helperSite.db (some 0) rewording) = .ok answer ∧
      RestoresPolicy answer.2.db 0 (defaultPolicy 0)) ∧
    ∃ result, fnSetProcedure Env.bare greetDb 0 (some "Say goodbye.") none none = .ok result ∧
      RestoresProcedure Env.bare result.2 0 greeting := by
  obtain ⟨answer, done, held, filed⟩ := @helperSite_edited rewording rfl (by decide +kernel)
  obtain ⟨result, set, live, kept⟩ := @greetDb_edited (some "Say goodbye.") none rfl (by decide)
  have policyFiled : defaultPolicy 0 ∈ answer.2.db.versions 0 := by simp [filed]
  have procedureFiled : greeting ∈ (result.2.procedureArchive 0).filed := by simp [kept]
  obtain ⟨policies, procedures⟩ := @rollback_restores_iff _ _ _ _ _ helperSite_installed helperSite_sound
    (.single (.setPolicy (some 0) rewording done)) held policyFiled Env.bare _ _ _ _ _ greetDb_installed
    (.single (.setProcedure Env.bare rfl 0 _ none none set)) live procedureFiled
  refine ⟨⟨answer, done, policies.mpr ?_⟩, result, set, procedures.mpr fun _ => rfl⟩
  intro key inside
  cases inside

def warming : PolicyEdit := { PolicyEdit.none with llmConfig := some (.build [("temperature", .num 5 1)]) }

/-- A temperature that has been set since stays, and so does a body. -/
theorem not_rollback_restores :
    (∃ site, PolicyRun helperSite site ∧ defaultPolicy 0 ∈ site.db.versions 0 ∧
      ¬ RestoresPolicy site.db 0 (defaultPolicy 0)) ∧
    ∃ db, ProcedureRun Pg.bare greetDb db ∧ greeting ∈ (db.procedureArchive 0).filed ∧
      ¬ RestoresProcedure Env.bare db 0 greeting := by
  obtain ⟨answer, done, held, filed⟩ := @helperSite_edited warming rfl (by decide +kernel)
  obtain ⟨result, set, live, kept⟩ := @greetDb_edited none (some "RETURN 1;") (by decide +kernel) (by decide)
  have policyRun : PolicyRun helperSite answer.2 := .single (.setPolicy (some 0) warming done)
  have procedureRun : ProcedureRun Pg.bare greetDb result.2 :=
    .single (.setProcedure Env.bare rfl 0 none none (some "RETURN 1;") set)
  have policyFiled : defaultPolicy 0 ∈ answer.2.db.versions 0 := by simp [filed]
  have procedureFiled : greeting ∈ (result.2.procedureArchive 0).filed := by simp [kept]
  refine ⟨⟨answer.2, policyRun, policyFiled, fun restores => ?_⟩, result.2, procedureRun, procedureFiled,
    fun restores => ?_⟩
  · have subset := (restoresPolicy_iff helperSite_installed helperSite_sound policyRun held policyFiled).mp restores
    have member : "temperature" ∈ ((defaultPolicy 0).edited warming).llmConfig.keys := by decide +kernel
    cases subset member
  · have same := (@restoresProcedure_iff _ _ Env.bare _ _ _ greetDb_installed procedureRun live procedureFiled).mp restores
    cases same rfl

end Allgres
