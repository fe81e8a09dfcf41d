import Allgres.Edits.Requests
import Allgres.System

/-! The edits of one transaction, whatever function or request it is. -/

namespace Allgres

open Relational Jsonb Sql Raising

variable {env : Env} {web : WebEnv} {powers : Powers} {db : Db}

/-! ### Builds -/

theorem edits_startBuilds (claimed : List (Nat × FunctionRow)) (db : Db) : Edits env powers db { db with
    functions := claimed.foldl (fun functions build => functions.modify build.1 (startBuild env)) db.functions } := by
  induction claimed generalizing db with
  | nil => exact .refl
  | cons build rest ih =>
    have started : Edits env powers db { db with functions := db.functions.modify build.1 (startBuild env) } :=
      Edit.edits (.build _ _ fun _ _ => rfl)
    exact started.trans (ih _)

theorem edits_startProcedureBuilds (claimed : List (Nat × ProcedureRow)) (db : Db) : Edits env powers db { db with
    procedures := claimed.foldl (fun procedures build => procedures.modify build.1 (startProcedureBuild env))
      db.procedures } := by
  induction claimed generalizing db with
  | nil => exact .refl
  | cons build rest ih =>
    have started : Edits env powers db { db with
        procedures := db.procedures.modify build.1 (startProcedureBuild env) } :=
      Edit.edits (.buildProcedure _ _ fun _ _ => rfl)
    exact started.trans (ih _)

theorem edits_fnCompleteFunctionBuild (functionId : Nat) (outcome : BuildOutcome) :
    Edits env powers db (fnCompleteFunctionBuild env db functionId outcome) := by
  unfold fnCompleteFunctionBuild
  split
  · exact .refl
  · refine Edits.audited (Edit.edits ?_) _ _
    exact .build _ _ fun _ _ => rfl

theorem edits_fnCompleteProcedureBuild (procedureId : Nat) (outcome : BuildOutcome) :
    Edits env powers db (fnCompleteProcedureBuild env db procedureId outcome) := by
  unfold fnCompleteProcedureBuild
  split
  · exact .refl
  · refine Edits.audited (Edit.edits ?_) _ _
    exact .buildProcedure _ _ fun _ _ => rfl

/-! ### Claims -/

theorem ServiceCall.onward_takeFlight (call : ServiceCall) (waits : call.status = .queued) :
    call.Onward (call.takeFlight env) :=
  call.onward_of (by rw [waits]; rfl) (by decide) _ _

/-- The claimed calls were queued, and each is claimed once. -/
theorem claimableService_queued {β : Type} {calls : Table β} {call : β → ServiceCall} {ready : ServiceCall → Bool}
    {limit : Option Int} {entry : Nat × β} (member : entry ∈ claimableService calls call ready limit) :
    calls.get? entry.1 = some entry.2 ∧ (call entry.2).status = .queued := by
  have chosen := (List.mem_insertionSort _).mp (List.mem_of_mem_take member)
  obtain ⟨found, holds⟩ := Table.mem_select.mp chosen
  rw [Bool.and_eq_true, beq_iff_eq] at holds
  exact ⟨found, holds.1⟩

theorem claimableService_nodup {β : Type} (calls : Table β) (call : β → ServiceCall) (ready : ServiceCall → Bool)
    (limit : Option Int) : ((claimableService calls call ready limit).map Prod.fst).Nodup := by
  refine List.Nodup.sublist ((List.take_sublist _ _).map Prod.fst) ?_
  refine ((List.perm_insertionSort _ _).map Prod.fst).nodup_iff.mpr ?_
  exact Table.select_keys_nodup calls _

/-- A loop that claims distinct calls advances them. -/
theorem evolves_claims {β : Type} {onward : β → β → Prop} {goes : β → Prop} {queued : β → Prop} {take : β → β}
    (reflexive : ∀ row, onward row row) (transitive : ∀ {x y z}, onward x y → onward y z → onward x z)
    (backwards : ∀ {x y}, onward x y → goes y → goes x) (takes : ∀ row, queued row → onward row (take row))
    (claimed : List (Nat × β)) (calls : Table β) (distinct : (claimed.map Prod.fst).Nodup)
    (waiting : ∀ entry ∈ claimed, calls.get? entry.1 = some entry.2 ∧ queued entry.2) :
    Evolves onward goes calls (claimed.foldl (fun calls entry => calls.modify entry.1 take) calls) := by
  induction claimed generalizing calls with
  | nil => exact .refl reflexive calls
  | cons entry rest ih =>
    rw [List.map_cons, List.nodup_cons] at distinct
    obtain ⟨found, waits⟩ := waiting entry List.mem_cons_self
    have first : Evolves onward goes calls (calls.modify entry.1 take) := by
      refine .modify reflexive calls entry.1 fun row there => ?_
      rw [found] at there
      obtain rfl := Option.some.inj there
      exact takes entry.2 waits
    refine .trans transitive backwards first (ih _ distinct.2 fun other member => ?_)
    have different : other.1 ≠ entry.1 := fun same => distinct.1 (same ▸ List.mem_map_of_mem member)
    rw [Table.get?_modify, if_neg different]
    exact waiting other (List.mem_cons_of_mem _ member)

theorem evolves_markService {goes : ServiceCall → Prop}
    (backwards : ∀ {x y : ServiceCall}, x.Onward y → goes y → goes x) (calls : Table ServiceCall)
    (ready : ServiceCall → Bool) (limit : Option Int) :
    Evolves ServiceCall.Onward goes calls (markService env calls (claimableService calls id ready limit)) :=
  evolves_claims ServiceCall.Onward.refl ServiceCall.Onward.trans backwards ServiceCall.onward_takeFlight _ calls
    (claimableService_nodup ..) fun _ => claimableService_queued

theorem edits_fnClaimAgentEmbedding (limit : Option Int) :
    Edits env powers db (fnClaimAgentEmbedding env db limit).2 :=
  Edit.edits (.embeddings _ (evolves_markService ServiceCall.Onward.withdrawable _ _ _))

theorem edits_fnClaimProviderProbe (limit : Option Int) : Edits env powers db (fnClaimProviderProbe env db limit).2 :=
  Edit.edits (.probes _ (evolves_markService (fun _ => id) _ _ _))

/-! ### Logins -/

theorem edits_insertOauth (calls : List (Except String OauthCallRow)) (db : Db) :
    Ensures (insertOauth calls db) fun later => Edits env powers db later := by
  induction calls generalizing db with
  | nil => exact ensures_ok.mpr .refl
  | cons call rest ih =>
    cases call with
    | error message => exact ensures_error.mpr trivial
    | ok call =>
      have inserted : Edits env powers db { db with oauthCalls := db.oauthCalls.insert call } :=
        Edit.edits (.logins _ _ (.insert OauthCallRow.Onward.refl _ _))
      exact (ih _).imp fun _ => inserted.trans

theorem ensures_queueOauthMaintenance :
    Ensures (queueOauthMaintenance env db) fun later => Edits env powers db later := by
  have expired : Edits env powers db (expireDevices env db) := OnlyTraffic.edits rfl
  unfold queueOauthMaintenance
  dsimp only
  split
  · exact ensures_error.mpr trivial
  · rename_i polled inserted
    have polls : Edits env powers (expireDevices env db) polled := edits_insertOauth _ _ _ inserted
    have postponed : Edits env powers polled (postponePolls env polled) := OnlyTraffic.edits rfl
    exact (edits_insertOauth _ _).imp fun _ => ((expired.trans polls).trans postponed).trans

theorem leaves_fnClaimOauth (limit : Option Int) : Leaves env powers db (fnClaimOauth env db limit) := by
  unfold fnClaimOauth
  split
  · exact leaves_error
  · rename_i later maintained
    have queued : Edits env powers db later := ensures_queueOauthMaintenance _ maintained
    refine ensures_ok.mpr (queued.tail (.logins _ _ ?_))
    have taken (call : OauthCallRow) (waits : call.status = .queued) :
        call.Onward { call with toServiceCall := call.toServiceCall.takeFlight env } :=
      ⟨call.onward_takeFlight waits, rfl, rfl⟩
    exact evolves_claims OauthCallRow.Onward.refl OauthCallRow.Onward.trans (fun _ => id) taken _ _
      (claimableService_nodup ..) fun _ => claimableService_queued

section Answer

variable {callId : Nat} {call : OauthCallRow} {body : Option String}

theorem edits_writeDevice (session : Option Nat) (cond : DeviceSessionRow → Bool)
    (set : DeviceSessionRow → DeviceSessionRow) : Edits env powers db (db.writeDevice session cond set) :=
  OnlyTraffic.edits rfl

theorem edits_endDevice (ending : DeviceStatus) : Edits env powers db (endDevice web db call body ending) :=
  OnlyTraffic.edits rfl

/-- What comes before leaves the calls as they are. -/
theorem edits_harvestOauth {later : Db} (before : Edits env powers db later) (same : later.oauthCalls = db.oauthCalls)
    (found : db.oauthCalls.get? callId = some call) (flying : call.status = .inFlight) (error : Option String) :
    Edits env powers db (later.harvestOauth web.toEnv callId error) := by
  refine before.tail (.logins _ _ ?_)
  rw [same]
  refine .modify OauthCallRow.Onward.refl _ _ fun row there => ?_
  rw [found] at there
  obtain rfl := Option.some.inj there
  exact ⟨call.onward_of (by rw [flying]; rfl) (by decide) _ _, rfl, rfl⟩

theorem ensures_authorizeDevice : Ensures (authorizeDevice web db call body) fun later =>
    Edits env powers db later ∧ later.oauthCalls = db.oauthCalls := by
  unfold authorizeDevice
  split
  · exact ensures_ok.mpr ⟨edits_writeDevice _ _ _, rfl⟩
  · split
    · exact ensures_ok.mpr ⟨edits_writeDevice _ _ _, rfl⟩
    · split
      · exact ensures_error.mpr trivial
      · exact ensures_ok.mpr ⟨edits_writeDevice _ _ _, rfl⟩

theorem LlmSecretRow.Renewed.refl (row : LlmSecretRow) : row.Renewed row := rfl

theorem edits_storeTokens (access refresh : Option String) :
    Edits env powers db (storeTokens web db call body access refresh) := by
  refine Edit.edits (.tokens _ ?_)
  unfold upsertLlmSecret
  split
  · refine .update LlmSecretRow.Renewed.refl _ ?_
    intro key row found chosen
    rfl
  · exact .insert LlmSecretRow.Renewed.refl _ _

theorem leaves_exchangeTokens (found : db.oauthCalls.get? callId = some call)
    (flying : call.status = .inFlight) : Leaves env powers db (exchangeTokens web db callId call body) := by
  unfold exchangeTokens
  split
  · exact ensures_ok.mpr (edits_harvestOauth .refl rfl found flying _)
  · split
    · exact leaves_error
    · exact leaves_error
    · rename_i access refresh _ _
      have ended : Edits env powers db
          ((storeTokens web db call body access refresh).harvestOauth web.toEnv callId none) :=
        edits_harvestOauth (edits_storeTokens access refresh) rfl found flying none
      refine ensures_ok.mpr (ended.trans ?_)
      dsimp only [connectDevice]
      split
      · exact edits_writeDevice _ _ _
      · exact .refl

theorem edits_failOauth (found : db.oauthCalls.get? callId = some call) (flying : call.status = .inFlight)
    (status : Option Int) : Edits env powers db (failOauth web db callId call status body) := by
  unfold failOauth
  dsimp only
  split
  · split
    · exact edits_harvestOauth ((edits_endDevice _).trans (edits_endDevice _)) rfl found flying _
    · exact edits_harvestOauth (edits_endDevice _) rfl found flying _
  · split
    · exact edits_harvestOauth (edits_endDevice _) rfl found flying _
    · exact edits_harvestOauth .refl rfl found flying _

theorem leaves_fnCompleteOauth (status : Option Int) :
    Leaves env powers db (fnCompleteOauth web db callId status body) := by
  unfold fnCompleteOauth
  split
  · exact leaves_error
  · rename_i call found
    split
    · exact ensures_ok.mpr .refl
    · rename_i busy
      have flying : call.status = .inFlight := by simpa using busy
      split
      · split
        · split
          · exact leaves_error
          · rename_i later authorized
            obtain ⟨edits, same⟩ := ensures_authorizeDevice _ authorized
            exact ensures_ok.mpr (edits_harvestOauth edits same found flying _)
        · exact leaves_exchangeTokens found flying
      · split
        · exact ensures_ok.mpr (edits_harvestOauth (edits_writeDevice _ _ _) rfl found flying _)
        · exact ensures_ok.mpr (edits_failOauth found flying _)

end Answer

/-! ### Embeddings and probes -/

section Service

variable {F : Float8} {world : World F}

/-- What a function of the services that may raise makes of the tables of the control plane. -/
abbrev Supplies (env : Env) (powers : Powers) (world : World F) (result : Except String (World F)) : Prop :=
  Ensures result fun later => Edits env powers world.site.db later.site.db

/-- A call that is found in flight is harvested. -/
theorem evolves_harvest {goes : ServiceCall → Prop} {calls : Table ServiceCall} {callId : Nat} {call : ServiceCall}
    (found : calls.get? callId = some call) (flying : call.status = .inFlight) (error : Option String) :
    Evolves ServiceCall.Onward goes calls (calls.modify callId (ServiceCall.harvest env error)) := by
  refine .modify ServiceCall.Onward.refl _ _ fun row there => ?_
  rw [found] at there
  obtain rfl := Option.some.inj there
  exact call.onward_of (by rw [flying]; rfl) (by decide) _ _

theorem supplies_fnCompleteAgentEmbedding (callId : Nat) (status : Option Int) (body : Option String) :
    Ensures (fnCompleteAgentEmbedding web world callId status body) fun done =>
      Edits env powers world.site.db done.2.site.db := by
  unfold fnCompleteAgentEmbedding
  split
  · exact ensures_error.mpr trivial
  · rename_i call found
    split
    · exact ensures_ok.mpr .refl
    · rename_i busy
      have flying : call.status = .inFlight := by simpa using busy
      split
      · exact ensures_ok.mpr (Edit.edits (.embeddings _ (evolves_harvest found flying _)))
      · split
        · exact ensures_ok.mpr (Edit.edits (.embeddings _ (evolves_harvest found flying _)))
        · exact ensures_ok.mpr (Edit.edits (.embeddings _ (evolves_harvest found flying _)))

theorem supplies_fnCompleteProviderProbe (callId : Nat) (status : Option Int) (body : Option String) :
    Ensures (fnCompleteProviderProbe web world callId status body) fun done =>
      Edits env powers world.site.db done.2.site.db := by
  unfold fnCompleteProviderProbe
  split
  · exact ensures_error.mpr trivial
  · rename_i call found
    split
    · exact ensures_ok.mpr .refl
    · rename_i busy
      have flying : call.status = .inFlight := by simpa using busy
      split
      · exact ensures_ok.mpr (Edit.edits (.probes _ (evolves_harvest found flying _)))
      · exact ensures_ok.mpr (Edit.edits (.probes _ (evolves_harvest found flying _)))

theorem supplies_run (op : ServiceOp) : Supplies web.toEnv powers world (op.run web world) := by
  cases op with
  | claimFunctionBuilds limit =>
    rw [ServiceOp.run]
    exact ensures_ok.mpr (edits_startBuilds _ _)
  | completeFunctionBuild functionId outcome =>
    rw [ServiceOp.run]
    exact ensures_ok.mpr (edits_fnCompleteFunctionBuild _ _)
  | claimProcedureBuilds limit =>
    rw [ServiceOp.run]
    exact ensures_ok.mpr (edits_startProcedureBuilds _ _)
  | completeProcedureBuild procedureId outcome =>
    rw [ServiceOp.run]
    exact ensures_ok.mpr (edits_fnCompleteProcedureBuild _ _)
  | claimOauth limit =>
    rw [ServiceOp.run]
    exact ensures_map.mpr (leaves_fnClaimOauth _)
  | completeOauth callId status body =>
    rw [ServiceOp.run]
    exact ensures_map.mpr (leaves_fnCompleteOauth _)
  | claimAgentEmbedding limit =>
    rw [ServiceOp.run]
    exact ensures_ok.mpr (edits_fnClaimAgentEmbedding _)
  | completeAgentEmbedding callId status body =>
    rw [ServiceOp.run]
    exact ensures_map.mpr (supplies_fnCompleteAgentEmbedding _ _ _)
  | claimProviderProbe limit =>
    rw [ServiceOp.run]
    exact ensures_ok.mpr (edits_fnClaimProviderProbe _)
  | completeProviderProbe callId status body =>
    rw [ServiceOp.run]
    exact ensures_map.mpr (supplies_fnCompleteProviderProbe _ _ _)

/-! ### Transactions -/

theorem edits_cascade : Edits env powers world.site.db world.cascade.site.db := by
  refine Edit.edits (.embeddings _ (.delete ServiceCall.Onward.refl _ fun key call found chosen => .inr ?_))
  cases memory : call.memoryId with
  | none =>
    rw [memory] at chosen
    cases chosen
  | some memoryId => rfl

/-- Whatever the agents govern, a transaction without an operator is made of their edits. -/
theorem edits_autonomic {event : Event} (covers : powers.Covers) (autonomic : event.Autonomic) :
    Edits event.env powers world.site.db (event.next world).site.db := by
  unfold Event.next
  split
  · exact .refl
  · rename_i later ran
    refine .trans ?_ edits_cascade
    cases event with
    | call env op =>
      rw [Event.run] at ran
      obtain ⟨db, returned, rfl⟩ := map_eq_ok.mp ran
      exact edits_run covers op db returned
    | service web op => exact supplies_run op later ran
    | request web asked => exact autonomic.elim

/-- Every transaction but the console's and the self test's is made of the edits of operators. -/
theorem edits_next {event : Event} (own : event.Own) :
    Edits event.env .operators world.site.db (event.next world).site.db := by
  unfold Event.next
  split
  · exact .refl
  · rename_i later ran
    refine .trans ?_ edits_cascade
    cases event with
    | call env op =>
      rw [Event.run] at ran
      obtain ⟨db, returned, rfl⟩ := map_eq_ok.mp ran
      exact edits_run operators_cover op db returned
    | service web op => exact supplies_run op later ran
    | request web asked =>
      rw [Event.run] at ran
      obtain rfl := Except.ok.inj ran
      exact edits_dashboardRpc own

/-- What every edit of the transactions preserves, every run preserves. -/
theorem after_induction {relation : Db → Db → Prop} {events : List Event}
    (reflexive : ∀ db, relation db db) (transitive : ∀ {x y z}, relation x y → relation y z → relation x z)
    (step : ∀ event ∈ events, ∀ {db db' : Db}, Edit event.env powers db db' → relation db db')
    (edits : ∀ event ∈ events, ∀ world : World F, Edits event.env powers world.site.db (event.next world).site.db)
    (world : World F) : relation world.site.db (world.after events).site.db := by
  induction events generalizing world with
  | nil => exact reflexive _
  | cons event rest ih =>
    have first : relation world.site.db (event.next world).site.db := by
      have made := edits event List.mem_cons_self world
      generalize (event.next world).site.db = later at made
      induction made with
      | refl => exact reflexive _
      | tail _ edit ih => exact transitive ih (step event List.mem_cons_self edit)
    exact transitive first (ih (fun other member => step other (List.mem_cons_of_mem _ member))
      (fun other member => edits other (List.mem_cons_of_mem _ member)) _)

/-- A run of transactions of the control plane and of the operators. -/
theorem own_induction {relation : Db → Db → Prop} {events : List Event} (own : ∀ event ∈ events, event.Own)
    (reflexive : ∀ db, relation db db) (transitive : ∀ {x y z}, relation x y → relation y z → relation x z)
    (step : ∀ event ∈ events, ∀ {db db' : Db}, Edit event.env .operators db db' → relation db db')
    (world : World F) : relation world.site.db (world.after events).site.db :=
  after_induction reflexive transitive step (fun event member _ => edits_next (own event member)) world

/-- A run without any operator. -/
theorem autonomic_induction {relation : Db → Db → Prop} {events : List Event}
    (autonomic : ∀ event ∈ events, event.Autonomic)
    (reflexive : ∀ db, relation db db) (transitive : ∀ {x y z}, relation x y → relation y z → relation x z)
    (step : ∀ event ∈ events, ∀ {db db' : Db}, Edit event.env .agents db db' → relation db db')
    (world : World F) : relation world.site.db (world.after events).site.db :=
  after_induction reflexive transitive step
    (fun event member _ => edits_autonomic agents_cover (autonomic event member)) world

end Service

end Allgres
