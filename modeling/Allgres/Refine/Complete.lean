import Allgres.Refine.Dispatch
import Allgres.Protocol.Fencing

namespace Allgres

open Relational Jsonb Sql Runs

variable {db db' : Db} {env : Env}

/-! ### Claims -/

theorem mem_claimable {β : Type} {calls : Table (CallRow β)} {ready : β → Bool} {limit : Option Int} {id : Nat}
    {call : CallRow β} (member : (id, call) ∈ claimable db calls ready limit) :
    calls.get? id = some call ∧ call.status = .queued ∧ db.isRunning call.taskId = true := by
  obtain ⟨found, meets⟩ := Table.mem_select.mp ((List.mem_insertionSort _).mp (List.mem_of_mem_take member))
  simp only [Bool.and_eq_true, beq_iff_eq] at meets
  exact ⟨found, meets.1.1, meets.1.2⟩

theorem claimable_nodup {β : Type} (calls : Table (CallRow β)) (ready : β → Bool) (limit : Option Int) :
    ((claimable db calls ready limit).map Prod.fst).Nodup := by
  have sorted := List.perm_insertionSort (fun a b : Nat × CallRow β => a.2.createdAt ≤ b.2.createdAt)
    (calls.select fun _ call => call.status == .queued && db.isRunning call.taskId && ready call.body)
  have all := (sorted.map Prod.fst).nodup_iff.mpr (Table.select_keys_nodup _ _)
  exact all.sublist ((List.take_sublist _ _).map _)

/-- The keys of the loops below are distinct, so that a later item is not the present one. -/
theorem key_apart {α : Type} {id other : Nat} {row entry : α} {rest : List (Nat × α)}
    (nodup : (((id, row) :: rest).map Prod.fst).Nodup) (member : (other, entry) ∈ rest) : other ≠ id := by
  rintro rfl
  have listed : other ∈ rest.map Prod.fst := List.mem_map_of_mem member
  exact (List.nodup_cons.mp nodup).1 listed

/-- Claiming is one move for each call: every one of them was queued for a running task. -/
theorem markInFlight_path {β : Type} {queue : Queue} {put : Table (CallRow β) → Db} {llm : β → Bool}
    (view : QueueView β queue put llm) (calls : Table (CallRow β)) (ready : β → Bool) (limit : Option Int) :
    Path Flow.Move Plain (put calls).flow
      (put (markInFlight env calls (claimable (put calls) calls ready limit))).flow := by
  refine (Path.foldl (fun calls => (put calls).flow) (fun claimed now =>
    (claimed.map Prod.fst).Nodup ∧ ∀ entry ∈ claimed, now.get? entry.1 = some entry.2 ∧
      entry.2.status = .queued ∧ (put calls).isRunning entry.2.taskId = true) ?_ _ calls
      ⟨claimable_nodup calls ready limit, fun _ => mem_claimable⟩).1
  rintro ⟨id, call⟩ rest now ⟨nodup, claimed⟩
  obtain ⟨found, queued, running⟩ := claimed (id, call) List.mem_cons_self
  obtain ⟨task, row, runs⟩ := isRunning_iff.mp running
  have same : (put now).tasks = (put calls).tasks := (view.rest now calls).2.1
  have before : (put now).flow.call (queue, id) = some (call.view llm) := by
    rw [show (put now).flow.call = (put now).call from rfl, view.call, found, Option.map_some]
  constructor
  · refine .single ?_ rfl
    rw [view.modify (takeFlight env) found fun _ => ⟨rfl, rfl⟩]
    exact .claim (queue, id) before queued (flow_task (by rw [same]; exact row)) runs
  · refine ⟨(List.nodup_cons.mp nodup).2, ?_⟩
    rintro ⟨other, entry⟩ member
    obtain ⟨there, rest⟩ := claimed (other, entry) (List.mem_cons_of_mem _ member)
    exact ⟨by rw [Table.get?_modify, if_neg (key_apart nodup member)]; exact there, rest⟩

theorem fnClaimOutbound_path (limit : Option Int) (fallback : Option String) :
    Path Flow.Move Plain db.flow (fnClaimOutbound env db limit fallback).2.flow :=
  markInFlight_path (outbound_view db) db.outboundCalls _ limit

theorem fnClaimSql_path (limit : Option Int) : Path Flow.Move Plain db.flow (fnClaimSql env db limit).2.flow :=
  markInFlight_path (sql_view db) db.sqlCalls _ limit

theorem fnClaimFunctionCalls_path (limit : Option Int) :
    Path Flow.Move Plain db.flow (fnClaimFunctionCalls env db limit).2.flow :=
  markInFlight_path (function_view db) db.functionCalls _ limit

theorem fnClaimProcedureCalls_path (limit : Option Int) :
    Path Flow.Move Plain db.flow (fnClaimProcedureCalls env db limit).2.flow :=
  markInFlight_path (procedure_view db) db.procedureCalls _ limit

/-! ### Completions -/

/-- A call that has just been retired is discarded, settled or, if
`fn_submit_result` raises, swallowed. -/
theorem submitFor_move {σ : Flow Left} {key : CallKey} {call : CallView} {status : CallStatus}
    (found : σ.call key = some call) (inFlight : call.status = .inFlight)
    (retired : status = .harvested ∨ status = .lost)
    (flow : db.flow = σ.setCall key { call with status := status }) (payload : Json) :
    Flow.Move .plain σ (submitFor env db key call.task payload).2.flow ∨
      Flow.Move (.swallow key) σ (submitFor env db key call.task payload).2.flow ∧ db.isRunning call.task = true ∧
        ∃ message, fnSubmitResult env { db with submits := db.submits ++ [key] } call.task payload = .error message := by
  have tasks : db.flow.task = σ.task := by rw [flow]; rfl
  unfold submitFor
  split
  · rename_i running
    obtain ⟨task, row, runs⟩ := isRunning_iff.mp running
    have view : σ.task call.task = some task.view := by rw [← tasks]; exact flow_task row
    have submitted : { db with submits := db.submits ++ [key] }.flow =
        (σ.setCall key { call with status := status }).submitted key := by rw [← flow]; rfl
    dsimp only
    split
    · rename_i done
      obtain ⟨again, same, _, effect⟩ := fnSubmitResult_effect done
      obtain rfl := Option.some.inj (row.symm.trans same)
      rw [submitted] at effect
      exact .inl (.settle key status found inFlight retired view runs effect)
    · rename_i message raised
      refine .inr ⟨?_, running, message, raised⟩
      rw [submitted]
      exact .swallow key status found inFlight retired view runs
  · rename_i idle
    refine .inl ?_
    rw [flow]
    refine .discard key status found inFlight retired ?_
    intro view now runs
    rw [← tasks] at now
    obtain ⟨task, row, rfl⟩ := flow_task_some now
    exact idle (isRunning_iff.mpr ⟨task, row, runs⟩)

/-- The moves of a completion; a swallowed reply is one that `fn_submit_result` raised on. -/
def Completing (start : Flow Left) (raised : CallKey → Prop) : Flow.Event → Flow Left → Prop
  | .plain, _ => True
  | .swallow key, σ => raised key ∧ σ = start
  | _, _ => False

theorem submitFor_path {σ : Flow Left} {key : CallKey} {call : CallView} {status : CallStatus} {raised : CallKey → Prop}
    (found : σ.call key = some call) (inFlight : call.status = .inFlight)
    (retired : status = .harvested ∨ status = .lost)
    (flow : db.flow = σ.setCall key { call with status := status }) (payload : Json)
    (known : ∀ message, db.isRunning call.task = true →
      fnSubmitResult env { db with submits := db.submits ++ [key] } call.task payload = .error message → raised key) :
    Path Flow.Move (Completing σ raised) σ (submitFor env db key call.task payload).2.flow := by
  rcases submitFor_move found inFlight retired flow payload with plain | ⟨swallowed, running, message, raises⟩
  · exact .single plain trivial
  · exact .single swallowed ⟨known message running raises, rfl⟩

/-- Retiring a call in flight and handing its payload on. -/
theorem retire_path {β : Type} {queue : Queue} {put : Table (CallRow β) → Db} {llm : β → Bool}
    (view : QueueView β queue put llm) {calls : Table (CallRow β)} {callId : Nat} {call : CallRow β}
    (found : calls.get? callId = some call) (inFlight : call.status = .inFlight) {status : CallStatus}
    (retired : status = .harvested ∨ status = .lost) (payload : Json) :
    Path Flow.Move (Completing (put calls).flow (· = (queue, callId))) (put calls).flow
      (submitFor env (put (calls.modify callId (retire env status))) (queue, callId) call.taskId payload).2.flow := by
  have before : (put calls).flow.call (queue, callId) = some (call.view llm) := by
    rw [show (put calls).flow.call = (put calls).call from rfl, view.call, found, Option.map_some]
  have now : (put (calls.modify callId (retire env status))).flow =
      (put calls).flow.setCall (queue, callId) { call.view llm with status := status } :=
    view.modify (retire env status) found fun _ => ⟨rfl, rfl⟩
  exact submitFor_path before inFlight retired now payload fun _ _ _ => rfl

theorem fnCompleteSql_path {callId : Nat} {outcome : SqlOutcome} {reply : Json}
    (done : fnCompleteSql env db callId outcome = .ok (reply, db')) :
    Path Flow.Move (Completing db.flow (· = (.sql, callId))) db.flow db'.flow := by
  unfold fnCompleteSql at done
  split at done
  · cases done
  · rename_i call found
    split at done
    · obtain ⟨-, rfl⟩ := Prod.mk.inj (Except.ok.inj done)
      exact .refl
    · rename_i inFlight
      obtain ⟨-, rfl⟩ := Prod.mk.inj (Except.ok.inj done)
      exact retire_path (sql_view db) found (not_not.mp inFlight) (.inl rfl) _

theorem fnCompleteFunctionCall_path {callId : Nat} {outcome : BodyOutcome} {reply : Json}
    (done : fnCompleteFunctionCall env db callId outcome = .ok (reply, db')) :
    Path Flow.Move (Completing db.flow (· = (.function, callId))) db.flow db'.flow := by
  unfold fnCompleteFunctionCall at done
  split at done
  · cases done
  · rename_i call found
    split at done
    · obtain ⟨-, rfl⟩ := Prod.mk.inj (Except.ok.inj done)
      exact .refl
    · rename_i inFlight
      obtain ⟨-, rfl⟩ := Prod.mk.inj (Except.ok.inj done)
      exact retire_path (function_view db) found (not_not.mp inFlight) (.inl rfl) _

theorem fnCompleteProcedureCall_path {callId : Nat} {outcome : BodyOutcome} {reply : Json}
    (done : fnCompleteProcedureCall env db callId outcome = .ok (reply, db')) :
    Path Flow.Move (Completing db.flow (· = (.procedure, callId))) db.flow db'.flow := by
  unfold fnCompleteProcedureCall at done
  split at done
  · cases done
  · rename_i call found
    split at done
    · obtain ⟨-, rfl⟩ := Prod.mk.inj (Except.ok.inj done)
      exact .refl
    · rename_i inFlight
      obtain ⟨-, rfl⟩ := Prod.mk.inj (Except.ok.inj done)
      exact retire_path (procedure_view db) found (not_not.mp inFlight) (.inl rfl) _

/-! ### `fn_complete_outbound` -/

theorem recordUsage_quiet (callId taskId : Nat) (call : OutboundBody) (body : Option String) :
    Quiet db (recordUsage db callId taskId call body) := by
  have recorded (usage : Option Usage) (cost : Option ℚ) : Quiet db { db with
      outboundCalls := db.outboundCalls.modify callId fun row =>
        { row with
          body := { row.body with
            promptTokens := usage.bind Usage.promptTokens
            completionTokens := usage.bind Usage.completionTokens
            costUsd := cost } } } := by
    refine ⟨flow_modifyOutbound_same callId ?_, rfl⟩
    intro row
    rfl
  unfold recordUsage chargeSchedule
  dsimp only
  split
  · exact (recorded _ _).trans ⟨rfl, rfl⟩
  · exact recorded _ _

theorem forgetResponseFormat_quiet (call : OutboundBody) (status : Option Int) (body : Option String) :
    Quiet db (forgetResponseFormat env db call status body) := by
  unfold forgetResponseFormat
  split
  · exact ⟨rfl, rfl⟩
  · exact .refl db

theorem outboundPayload_quiet {callId taskId : Nat} {call : OutboundBody} {status : Option Int}
    {body : Option String} {payload : Json}
    (built : outboundPayload env db callId taskId call status body = .ok (payload, db')) : Quiet db db' := by
  have mapped {result : Except String Json} (built : (result.map fun payload => (payload, db)) = .ok (payload, db')) :
      Quiet db db' := by
    cases result with
    | error message => cases built
    | ok value =>
      obtain ⟨-, rfl⟩ := Prod.mk.inj (Except.ok.inj built)
      exact .refl _
  unfold outboundPayload at built
  split at built
  · obtain ⟨-, rfl⟩ := Prod.mk.inj (Except.ok.inj built)
    exact .refl _
  · exact mapped built
  · exact mapped built
  · exact mapped built
  · split at built
    · obtain ⟨-, rfl⟩ := Prod.mk.inj (Except.ok.inj built)
      exact forgetResponseFormat_quiet _ _ _
    · obtain ⟨-, rfl⟩ := Prod.mk.inj (Except.ok.inj built)
      exact recordUsage_quiet _ _ _ _

theorem scoreCall_quiet (callId : Nat) (call : OutboundBody) (reply : Json) :
    Quiet db (scoreCall db callId call reply) := by
  unfold scoreCall
  split
  · refine ⟨flow_modifyOutbound_same callId ?_, rfl⟩
    intro row
    rfl
  · exact .refl db

/-- `fn_submit_result` raises on what this completion hands to the call's task. -/
def RaisesOn (env : Env) (db : Db) (callId : Nat) (status : Option Int) (body : Option String) : Prop :=
  ∃ call payload mid message, db.outboundCalls.get? callId = some call ∧ call.status = .inFlight ∧
    outboundPayload env (harvestOutbound env db callId status body) callId call.taskId call.body status body =
      .ok (payload, mid) ∧ mid.isRunning call.taskId = true ∧
    fnSubmitResult env { mid with submits := mid.submits ++ [(.outbound, callId)] } call.taskId payload =
      .error message

theorem fnCompleteOutbound_path {callId : Nat} {status : Option Int} {body : Option String} {reply : Json}
    (done : fnCompleteOutbound env db callId status body = .ok (reply, db')) :
    Path Flow.Move (Completing db.flow fun key => key = (.outbound, callId) ∧ RaisesOn env db callId status body)
      db.flow db'.flow := by
  unfold fnCompleteOutbound at done
  split at done
  · cases done
  · rename_i call found
    split at done
    · obtain ⟨-, rfl⟩ := Prod.mk.inj (Except.ok.inj done)
      exact .refl
    · rename_i inFlight
      split at done
      · cases done
      · rename_i payload mid built
        obtain ⟨-, rfl⟩ := Prod.mk.inj (Except.ok.inj done)
        rw [(scoreCall_quiet _ _ _).flow]
        have before : db.flow.call (.outbound, callId) = some (call.view OutboundBody.isLlm) := by
          rw [show db.flow.call = db.call from rfl, (outbound_view db).call db.outboundCalls, found, Option.map_some]
        have harvested : (harvestOutbound env db callId status body).flow =
            db.flow.setCall (.outbound, callId) { call.view OutboundBody.isLlm with status := .harvested } :=
          (outbound_view db).modify _ found fun _ => ⟨rfl, rfl⟩
        exact submitFor_path before (not_not.mp inFlight) (.inl rfl)
          ((outboundPayload_quiet built).flow.trans harvested) payload
          fun message running raised =>
            ⟨rfl, call, payload, mid, message, found, not_not.mp inFlight, built, running, raised⟩

/-- Nothing that a task does with a payload takes a call back. -/
theorem onward_submitFor (key : Queue × Nat) (t : Nat) (payload : Json) :
    Flow.Onward db.flow (submitFor env db key t payload).2.flow := by
  unfold submitFor
  split
  · dsimp only
    split
    · rename_i submitted
      have move := (fnSubmitResult_report submitted).onward
      exact move
    · exact .ofCallEq rfl
  · exact .refl _

end Allgres
