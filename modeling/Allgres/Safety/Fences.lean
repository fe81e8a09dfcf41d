import Allgres.Edits.System

/-! The fences of the queues that belong to no task. A call of a service is queued, claimed and ended, never the
other way; and once it has ended, no answer to it changes anything any more. -/

namespace Allgres

open Relational Raising

variable {F : Float8} {env : Env} {powers : Powers} {db db' : Db} {events : List Event} {callId : Nat}

/-- The queues of the services go on. -/
structure Fenced (before after : Db) : Prop where
  embeddings : AdvancesEmbeddings before.embeddingCalls after.embeddingCalls
  probes : AdvancesProbes before.providerProbes after.providerProbes
  logins : AdvancesLogins before.oauthCalls after.oauthCalls

theorem Fenced.of_tables {before after : Db} (embeddings : after.embeddingCalls = before.embeddingCalls)
    (probes : after.providerProbes = before.providerProbes) (logins : after.oauthCalls = before.oauthCalls) :
    Fenced before after := by
  refine ⟨?_, ?_, ?_⟩
  · rw [embeddings]
    exact .refl ServiceCall.Onward.refl _
  · rw [probes]
    exact .refl ServiceCall.Onward.refl _
  · rw [logins]
    exact .refl OauthCallRow.Onward.refl _

theorem Fenced.trans {a b c : Db} (first : Fenced a b) (second : Fenced b c) : Fenced a c where
  embeddings := advancesEmbeddings_trans first.embeddings second.embeddings
  probes := advancesProbes_trans first.probes second.probes
  logins := advancesLogins_trans first.logins second.logins

/-- The worker claims the call and brings the answer. -/
def probed : List Event :=
  [.service .bare (.claimProviderProbe none), .service .bare (.completeProviderProbe 0 (some 200) none)]

/-- The row of a queue has ended, or it was there once and is gone. -/
def Over {α : Type} (status : α → CallStatus) (calls : Table α) (callId : Nat) : Prop :=
  callId < calls.next ∧ ∀ call, calls.get? callId = some call → (status call).outstanding = false

/-- What has ended stays as it is. -/
theorem Over.evolves {α : Type} {status : α → CallStatus} {changes : α → α → Prop} {goes : α → Prop} {a b : Table α}
    (ceased : Over status a callId) (evolves : Evolves changes goes a b)
    (settled : ∀ x y, changes x y → (status x).outstanding = false → status y = status x) : Over status b callId := by
  refine ⟨Nat.lt_of_lt_of_le ceased.1 evolves.next, fun call now => ?_⟩
  cases found : a.get? callId with
  | none =>
    have issued := evolves.fresh callId call now found
    exact absurd ceased.1 (Nat.not_lt.mpr issued)
  | some old =>
    rcases evolves.row callId old found with ⟨later, there, change⟩ | ⟨gone, -⟩
    · rw [there] at now
      obtain rfl := Option.some.inj now
      rw [settled old later change (ceased.2 old found)]
      exact ceased.2 old found
    · rw [gone] at now
      cases now

inductive Service
  | embedding | probe | login

/-- The call has ended. -/
def Service.Over (db : Db) (callId : Nat) : Service → Prop
  | embedding => Allgres.Over ServiceCall.status db.embeddingCalls callId
  | probe => Allgres.Over ServiceCall.status db.providerProbes callId
  | login => Allgres.Over (fun call : OauthCallRow => call.status) db.oauthCalls callId

def Service.InFlight (db : Db) (callId : Nat) : Service → Prop
  | embedding => ∃ call, db.embeddingCalls.get? callId = some call ∧ call.status = .inFlight
  | probe => ∃ call, db.providerProbes.get? callId = some call ∧ call.status = .inFlight
  | login => ∃ call, db.oauthCalls.get? callId = some call ∧ call.status = .inFlight

/-- The worker reports what came back. -/
def Service.complete (env : WebEnv) (world : World F) (callId : Nat) (status : Option Int) (body : Option String) :
    Service → Except String (World F)
  | embedding => (fnCompleteAgentEmbedding env world callId status body).map Prod.snd
  | probe => (fnCompleteProviderProbe env world callId status body).map Prod.snd
  | login => (fnCompleteOauth env world.site.db callId status body).map fun done => world.withDb done.2

variable {web : WebEnv} {world : World F} {status : Option Int} {body : Option String}

theorem not_inFlight {status : CallStatus} (ended : status.outstanding = false) : (status != .inFlight) = true := by
  cases status with
  | queued | inFlight => cases ended
  | harvested | lost => rfl

/-- An answer to a call that has ended changes nothing. -/
theorem Service.Over.complete {service : Service} (ceased : service.Over world.site.db callId) :
    Ensures (service.complete web world callId status body) fun later => later = world := by
  cases service with
  | embedding =>
    refine ensures_map.mpr ?_
    unfold fnCompleteAgentEmbedding
    split
    · exact ensures_error.mpr trivial
    · rename_i call found
      rw [if_pos (not_inFlight (ceased.2 call found))]
      exact ensures_ok.mpr rfl
  | probe =>
    refine ensures_map.mpr ?_
    unfold fnCompleteProviderProbe
    split
    · exact ensures_error.mpr trivial
    · rename_i call found
      rw [if_pos (not_inFlight (ceased.2 call found))]
      exact ensures_ok.mpr rfl
  | login =>
    refine ensures_map.mpr ?_
    unfold fnCompleteOauth
    split
    · exact ensures_error.mpr trivial
    · rename_i call found
      rw [if_pos (not_inFlight (ceased.2 call found))]
      exact ensures_ok.mpr rfl

/-! ### The first answer -/

/-- A row that is rewritten to one that has ended. -/
theorem over_modify {α : Type} {state : α → CallStatus} {calls : Table α} {call : α} {set : α → α}
    (found : calls.get? callId = some call) (ends : ∀ row, (state (set row)).outstanding = false) :
    Over state (calls.modify callId set) callId := by
  have issued : callId < calls.next := Table.get?_lt_next found
  refine ⟨issued, fun later now => ?_⟩
  rw [Table.get?_modify, if_pos rfl, found] at now
  obtain rfl := Option.some.inj now
  exact ends call

theorem over_harvest {calls : Table ServiceCall} {call : ServiceCall} (found : calls.get? callId = some call)
    (error : Option String) : Over ServiceCall.status (calls.modify callId (ServiceCall.harvest env error)) callId :=
  over_modify found fun _ => rfl

theorem over_harvestOauth {call : OauthCallRow} (found : db.oauthCalls.get? callId = some call) (error : Option String) :
    Service.login.Over (db.harvestOauth env callId error) callId :=
  over_modify found fun _ => rfl

theorem over_exchangeTokens {call : OauthCallRow} (found : db.oauthCalls.get? callId = some call) :
    Ensures (exchangeTokens web db callId call body) fun done => Service.login.Over done.2 callId := by
  unfold exchangeTokens
  split
  · exact ensures_ok.mpr (over_harvestOauth found _)
  · split
    · exact ensures_error.mpr trivial
    · exact ensures_error.mpr trivial
    · rename_i access refresh _ _
      have stored : Service.login.Over
          ((storeTokens web db call body access refresh).harvestOauth web.toEnv callId none) callId :=
        over_harvestOauth (by exact found) none
      refine ensures_ok.mpr ?_
      dsimp only [connectDevice]
      split
      · exact stored
      · exact stored

theorem over_failOauth {call : OauthCallRow} (found : db.oauthCalls.get? callId = some call) :
    Service.login.Over (failOauth web db callId call status body) callId := by
  unfold failOauth
  dsimp only
  split <;> split <;> exact over_harvestOauth (by exact found) _

/-- The answer to a call in flight ends it. -/
theorem Service.InFlight.complete {service : Service} (flying : service.InFlight world.site.db callId) :
    Ensures (service.complete web world callId status body) fun later => service.Over later.site.db callId := by
  cases service with
  | embedding =>
    obtain ⟨call, found, flies⟩ := flying
    refine ensures_map.mpr ?_
    unfold fnCompleteAgentEmbedding
    rw [found]
    dsimp only
    rw [if_neg (by simp [flies])]
    split
    · exact ensures_ok.mpr (over_harvest found _)
    · split
      · exact ensures_ok.mpr (over_harvest found _)
      · exact ensures_ok.mpr (over_harvest found _)
  | probe =>
    obtain ⟨call, found, flies⟩ := flying
    refine ensures_map.mpr ?_
    unfold fnCompleteProviderProbe
    rw [found]
    dsimp only
    rw [if_neg (by simp [flies])]
    split
    · exact ensures_ok.mpr (over_harvest found _)
    · exact ensures_ok.mpr (over_harvest found _)
  | login =>
    obtain ⟨call, found, flies⟩ := flying
    refine ensures_map.mpr ?_
    unfold fnCompleteOauth
    rw [found]
    dsimp only
    rw [if_neg (by simp [flies])]
    split
    · split
      · split
        · exact ensures_error.mpr trivial
        · rename_i later authorized
          obtain ⟨-, same⟩ := @ensures_authorizeDevice web.toEnv web .operators _ _ _ later authorized
          exact ensures_ok.mpr (over_harvestOauth (same ▸ found) none)
      · exact over_exchangeTokens found
    · split
      · exact ensures_ok.mpr (over_harvestOauth (by exact found) none)
      · exact ensures_ok.mpr (over_failOauth found)

end Allgres
