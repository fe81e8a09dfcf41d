import Allgres.Safety.Outstanding
import Allgres.Safety.Schedules
import Allgres.Concurrent.Alone
import Allgres.Dashboard.Endpoints
import Allgres.Lib.Sums

/-! What schedules spend. -/

namespace Allgres

open Relational Jsonb Sql Runs

variable {env : Env} {db db' start : Db} {mark : Mark} {σ σ' : Core} {id t : Nat}

/-! ### The costs of calls -/

/-- The schedule whose run made the call of the task. -/
def Core.payer (σ : Core) (t : Nat) : Option Nat :=
  (σ.tasks.get? t).bind fun task => origin σ.sessions task.sessionId

def Core.price (σ : Core) (id : Nat) (call : CallRow OutboundBody) : ℚ :=
  if σ.payer call.taskId = some id then call.body.costUsd.getD 0 else 0

/-- The sum of the recorded costs over all calls of the tasks of the sessions that the schedule has opened. -/
def Core.costOf (σ : Core) (id : Nat) : ℚ := σ.outboundCalls.sum fun _ call => σ.price id call

/-- Every task belongs to a session and every call to a task. -/
structure Grounded (σ : Core) : Prop where
  founded : Shared.Founded σ
  calls : ∀ k call, σ.outboundCalls.get? k = some call → (σ.tasks.get? call.taskId).isSome

/-- A call after a write is an old one of the same task, whose cost only a bill can change, or a
new one that has cost nothing yet. -/
theorem Write.call (write : Write env mark σ σ') {k : Nat} {call : CallRow OutboundBody}
    (now : σ'.outboundCalls.get? k = some call) :
    (∃ old, σ.outboundCalls.get? k = some old ∧ call.taskId = old.taskId ∧
      ((∀ c, mark ≠ .bill c) → call.body.costUsd = old.body.costUsd)) ∨
    σ.outboundCalls.get? k = none ∧ (σ.tasks.get? call.taskId).isSome ∧ call.body.costUsd = none := by
  cases write with
  | request new trusted found unpaid =>
    simp only [Table.get?_insert] at now
    split at now
    · rename_i newest
      obtain rfl := Option.some.inj now
      rw [newest]
      exact .inr ⟨Table.get?_next _, found, unpaid⟩
    · exact .inl ⟨call, now, rfl, fun _ => rfl⟩
  | requests cond set same =>
    simp only [Table.get?_update] at now
    obtain ⟨old, found, rfl⟩ := Option.map_eq_some_iff.mp now
    refine .inl ⟨old, found, ?_⟩
    split
    · exact ⟨(same k old).1.task, fun _ => (same k old).2⟩
    · exact ⟨rfl, fun _ => rfl⟩
  | bill callId set same =>
    simp only [Table.get?_modify] at now
    split at now
    · obtain ⟨old, found, rfl⟩ := Option.map_eq_some_iff.mp now
      exact .inl ⟨old, found, (same old).task, fun unbilled => absurd rfl (unbilled callId)⟩
    · exact .inl ⟨call, now, rfl, fun _ => rfl⟩
  | _ => exact .inl ⟨call, now, rfl, fun _ => rfl⟩

/-- No call is lost. -/
theorem Write.calls_kept (write : Write env mark σ σ') {k : Nat} (gone : σ'.outboundCalls.get? k = none) :
    σ.outboundCalls.get? k = none := by
  cases write with
  | request new =>
    simp only [Table.get?_insert] at gone
    split at gone
    · cases gone
    · exact gone
  | requests cond set =>
    simp only [Table.get?_update, Option.map_eq_none_iff] at gone
    exact gone
  | bill callId set =>
    simp only [Table.get?_modify] at gone
    split at gone
    · exact Option.map_eq_none_iff.mp gone
    · exact gone
  | _ => exact gone

theorem Grounded.write (grounded : Grounded σ) (write : Write env mark σ σ') : Grounded σ' := by
  refine ⟨grounded.founded.write write, fun k call now => ?_⟩
  have known : (σ.tasks.get? call.taskId).isSome := by
    rcases write.call now with ⟨old, found, same, -⟩ | ⟨-, found, -⟩
    · rw [same]
      exact grounded.calls k old found
    · exact found
  obtain ⟨task, found⟩ := Option.isSome_iff_exists.mp known
  obtain ⟨after, there, -⟩ := write.kin found
  exact Option.isSome_iff_exists.mpr ⟨after, there⟩

theorem Write.payer (write : Write env mark σ σ') (founded : Shared.Founded σ) (known : (σ.tasks.get? t).isSome) :
    σ'.payer t = σ.payer t := by
  obtain ⟨task, found⟩ := Option.isSome_iff_exists.mp known
  obtain ⟨after, there, kin⟩ := write.kin found
  have session := founded t task found
  simp only [Core.payer, found, there, Option.bind_some, kin.session]
  exact write.origin_known session

/-- A write that is no bill adds nothing to what the calls have cost. -/
theorem Write.share (write : Write env mark σ σ') (unbilled : ∀ c, mark ≠ .bill c) (grounded : Grounded σ) (k : Nat) :
    σ'.outboundCalls.share (fun _ call => σ'.price id call) k =
      σ.outboundCalls.share (fun _ call => σ.price id call) k := by
  simp only [Table.share]
  rcases now : σ'.outboundCalls.get? k with _ | call
  · rw [write.calls_kept now]
    rfl
  · rcases write.call now with ⟨old, found, same, paid⟩ | ⟨absent, known, unpaid⟩
    · have payer := write.payer grounded.founded (grounded.calls k old found)
      simp only [found, Option.elim_some, Core.price, same, payer, paid unbilled]
    · simp only [absent, Option.elim_some, Option.elim_none, Core.price, unpaid, Option.getD_none, ite_self]

/-- Nothing is paid for. -/
def Unbilled (mark : Mark) (_ : Core) : Prop := ∀ c, mark ≠ .bill c

theorem Unbilled.of_calm (mark : Mark) (σ : Core) (calm : Calm mark σ) : Unbilled mark σ := by
  rintro c rfl
  exact calm

theorem Writes.grounded {ok : Mark → Core → Prop} (writes : Writes env ok σ σ') (grounded : Grounded σ) : Grounded σ' :=
  writes.invariant (fun _ _ _ write _ grounded => grounded.write write) grounded

theorem Writes.costOf (writes : Writes env Unbilled σ σ') (grounded : Grounded σ) : σ'.costOf id = σ.costOf id := by
  induction writes with
  | refl => rfl
  | @step before after mark earlier write unbilled ih =>
    have held : Grounded before := Writes.grounded earlier grounded
    have last : after.costOf id = before.costOf id := Table.sum_congr (write.share unbilled held)
    exact last.trans ih

/-! ### What schedules have spent -/

/-- The schedules have spent what they had spent before. -/
structure SameSpending (old new : Table ScheduleRow) : Prop where
  next : new.next = old.next
  rows : ∀ id row, new.get? id = some row →
    ∃ before, old.get? id = some before ∧ row.spentCostUsd = before.spentCostUsd

theorem SameSpending.refl (schedules : Table ScheduleRow) : SameSpending schedules schedules :=
  ⟨rfl, fun _ row found => ⟨row, found, rfl⟩⟩

theorem SameSpending.trans {first second third : Table ScheduleRow} (earlier : SameSpending first second)
    (later : SameSpending second third) : SameSpending first third := by
  refine ⟨later.next.trans earlier.next, fun id row found => ?_⟩
  obtain ⟨between, there, same⟩ := later.rows id row found
  obtain ⟨before, here, equal⟩ := earlier.rows id between there
  exact ⟨before, here, same.trans equal⟩

theorem SameSpending.modify {old new : Table ScheduleRow} (id : Nat) (set : ScheduleRow → ScheduleRow)
    (modified : new = old.modify id set) (same : ∀ row, (set row).spentCostUsd = row.spentCostUsd) :
    SameSpending old new := by
  subst modified
  refine ⟨rfl, fun other row found => ?_⟩
  rw [Table.get?_modify] at found
  split at found
  · obtain ⟨before, old, rfl⟩ := Option.map_eq_some_iff.mp found
    exact ⟨before, old, same before⟩
  · exact ⟨row, found, rfl⟩

theorem runSchedule_spending (state : Nat × Db) (selected : Nat × ScheduleRow) :
    SameSpending state.2.schedules (runSchedule env state selected).2.schedules := by
  obtain ⟨count, db⟩ := state
  obtain ⟨id, row⟩ := selected
  simp only [runSchedule]
  split
  · exact .modify id (fun row => { row with isActive := false }) rfl fun _ => rfl
  · split
    · exact .modify id (fun other => { other with nextRunAt := env.now + seconds row.intervalSeconds }) rfl fun _ => rfl
    · rename_i created opened
      have kept : created.db.schedules = db.schedules := schedules_fnCreateSession opened
      refine .modify id (fun row => row.fired env.now created.sessionId) ?_ fun _ => rfl
      rw [← kept]

theorem fnRunSchedules_spending : SameSpending db.schedules (fnRunSchedules env db).2.schedules := by
  have loop (items : List (Nat × ScheduleRow)) (state : Nat × Db) :
      SameSpending state.2.schedules (items.foldl (runSchedule env) state).2.schedules := by
    induction items generalizing state with
    | nil => exact .refl _
    | cons item rest ih => exact (runSchedule_spending state item).trans (ih _)
  exact loop _ (0, db)

/-! ### What an answer costs -/

/-- The cost of the counted tokens, in thousandths. -/
def Usage.total (usage : Usage) (price : PriceRow) : ℚ :=
  ((usage.promptTokens.getD 0 : Int) : ℚ) * price.inputPricePer1k +
    ((usage.completionTokens.getD 0 : Int) : ℚ) * price.outputPricePer1k

/-- The price of the model that the call asked for. -/
def Db.priceOf (db : Db) (call : OutboundBody) : Option PriceRow :=
  db.prices.find? fun price => some price.providerId == call.providerId &&
    some price.model == call.requestBody.getText? "model"

/-- The transaction takes in a model's answer to a call of a run of the schedule. The answer
counts its tokens, and the model has a price. -/
structure Answered (db : Db) (op : ScheduleOp) (id : Nat) (usage : Usage) (price : PriceRow) : Prop where
  answers : ∃ callId status body call, op = .control (.completeOutbound callId status body) ∧
    db.outboundCalls.get? callId = some call ∧ call.status = .inFlight ∧ call.body.kind = .llm ∧
    isLlmFailure status = false ∧ llmUsageFromHttp body = some usage ∧ db.priceOf call.body = some price ∧
    db.core.payer call.taskId = some id

theorem Answered.unique {op : ScheduleOp} {other : Nat} {usage usage' : Usage} {price price' : PriceRow}
    (first : Answered db op id usage price) (second : Answered db op other usage' price') :
    id = other ∧ usage.total price = usage'.total price' := by
  obtain ⟨callId, status, body, call, rfl, found, -, -, -, used, priced, paid⟩ := first.answers
  obtain ⟨callId', status', body', call', same, found', -, -, -, used', priced', paid'⟩ := second.answers
  obtain ⟨rfl, rfl, rfl⟩ := Op.completeOutbound.inj (ScheduleOp.control.inj same)
  obtain rfl := Option.some.inj (found.symm.trans found')
  obtain rfl := Option.some.inj (used.symm.trans used')
  obtain rfl := Option.some.inj (priced.symm.trans priced')
  exact ⟨Option.some.inj (paid.symm.trans paid'), rfl⟩

theorem callCost_eq (call : OutboundBody) (usage : Option Usage) :
    callCost db call usage = usage.bind fun usage => (db.priceOf call).map fun price => usage.total price / 1000 := by
  cases usage with
  | none => rfl
  | some usage =>
    simp only [callCost, Db.priceOf, Usage.total, Option.bind_some]
    refine congrArg (fun f => Option.map f _) (funext fun price => ?_)
    ring

/-- The schedule with a further cost. -/
def ScheduleRow.charged (schedule : ScheduleRow) (cost : ℚ) : ScheduleRow :=
  let spent := schedule.spentCostUsd + cost
  { schedule with
    spentCostUsd := spent
    isActive := schedule.isActive && !schedule.maxCostUsd.any fun limit => decide (limit ≤ spent) }

theorem payer_eq (db : Db) (t : Nat) :
    ((db.tasks.get? t).bind fun task => db.sessions.get? task.sessionId).bind SessionRow.scheduleId = db.core.payer t := by
  simp only [Core.payer, origin, Option.bind_assoc]
  rfl

theorem chargeSchedule_none (cost : Option ℚ) (none : cost = none ∨ db.core.payer t = none) :
    (chargeSchedule db t cost).schedules = db.schedules := by
  unfold chargeSchedule
  rw [payer_eq]
  split
  · rename_i paid
    rcases none with free | unpaid
    · cases free
    · rw [unpaid] at paid
      cases paid
  · rfl

theorem chargeSchedule_some {cost : ℚ} (paid : db.core.payer t = some id) :
    (chargeSchedule db t (some cost)).schedules = db.schedules.modify id fun schedule => schedule.charged cost := by
  unfold chargeSchedule
  rw [payer_eq, paid]
  rfl

/-! ### The completion of a call -/

/-- The calls of the queue have not cost anything yet. -/
def Unpaid (σ : Core) : Prop :=
  ∀ k call, σ.outboundCalls.get? k = some call → call.status.outstanding = true → call.body.costUsd = none

theorem outstanding_of_onward {old new : CallStatus} (onward : old.onward new = true) (waits : new.outstanding = true) :
    old.outstanding = true := by
  cases old with
  | queued | inFlight => rfl
  | harvested | lost => cases new <;> simp_all [CallStatus.onward, CallStatus.outstanding]

/-- Without a bill a call keeps its cost, and a new one has none. -/
theorem Writes.call (writes : Writes env Unbilled σ σ') {k : Nat} {call : CallRow OutboundBody}
    (now : σ'.outboundCalls.get? k = some call) :
    (∃ old, σ.outboundCalls.get? k = some old ∧ call.body.costUsd = old.body.costUsd) ∨ call.body.costUsd = none := by
  induction writes generalizing call with
  | refl => exact .inl ⟨call, now, rfl⟩
  | step _ write unbilled ih =>
    rcases write.call now with ⟨between, there, -, paid⟩ | ⟨-, -, fresh⟩
    · rcases ih there with ⟨old, found, same⟩ | free
      · exact .inl ⟨old, found, (paid unbilled).trans same⟩
      · exact .inr ((paid unbilled).trans free)
    · exact .inr fresh

/-- What is not paid for stays unpaid until a bill is written. -/
theorem Unpaid.writes (unpaid : Unpaid db.core) (writes : Writes env Unbilled db.core db'.core)
    (onward : Flow.Onward db.flow db'.flow) : Unpaid db'.core := by
  intro k call now waits
  rcases writes.call now with ⟨old, found, same⟩ | free
  · have seen : db.flow.call (.outbound, k) = some (old.view OutboundBody.isLlm) := congrArg (Option.map _) found
    obtain ⟨view, there, -, -, forward⟩ := onward (.outbound, k) _ seen
    have later : db'.flow.call (.outbound, k) = some (call.view OutboundBody.isLlm) := congrArg (Option.map _) now
    obtain rfl := Option.some.inj (there.symm.trans later)
    rw [same]
    exact unpaid k old found (outstanding_of_onward forward waits)
  · exact free

theorem writes_unbilled_score (callId : Nat) (call : OutboundBody) (reply : Json) :
    Writes env Unbilled db.core (scoreCall db callId call reply).core :=
  (writes_scoreCall callId call reply).mono Unbilled.of_calm

theorem writes_unbilled_submit (key : Queue × Nat) (t : Nat) (payload : Json) :
    Writes env Unbilled db.core (submitFor env db key t payload).2.core := by
  refine (writes_submitFor key t payload).mono ?_
  rintro mark σ submitting c rfl
  unfold Submitting at submitting
  split at submitting <;> exact submitting

theorem schedules_outboundPayload {callId t : Nat} {call : OutboundBody} {status : Option Int} {body : Option String}
    {payload : Json} (done : outboundPayload env db callId t call status body = .ok (payload, db'))
    (other : ¬ (call.kind = .llm ∧ isLlmFailure status = false)) : db'.schedules = db.schedules := by
  unfold outboundPayload at done
  split at done
  case h_1 =>
    obtain ⟨-, rfl⟩ := Prod.mk.inj (Except.ok.inj done)
    rfl
  case h_2 | h_3 | h_4 =>
    obtain ⟨read, -, same⟩ := ok_of_map done
    obtain ⟨-, rfl⟩ := Prod.mk.inj same
    rfl
  case h_5 kind =>
    split at done
    · obtain ⟨-, rfl⟩ := Prod.mk.inj (Except.ok.inj done)
      unfold forgetResponseFormat
      split <;> rfl
    · rename_i answered
      rw [Bool.not_eq_true] at answered
      exact absurd ⟨kind, answered⟩ other

/-- A completion that is no answer of a model is paid for by nobody. -/
theorem completion_cases {callId : Nat} {status : Option Int} {body : Option String} {reply : Json}
    (done : fnCompleteOutbound env db callId status body = .ok (reply, db')) :
    (db'.schedules = db.schedules ∧ Writes env Unbilled db.core db'.core ∧
      ∀ call, db.outboundCalls.get? callId = some call →
        ¬ (call.status = .inFlight ∧ call.body.kind = .llm ∧ isLlmFailure status = false)) ∨
    ∃ call mid, db.outboundCalls.get? callId = some call ∧ call.status = .inFlight ∧ call.body.kind = .llm ∧
      isLlmFailure status = false ∧
      mid = recordUsage (harvestOutbound env db callId status body) callId call.taskId call.body body ∧
      db'.schedules = mid.schedules ∧ Writes env Unbilled mid.core db'.core ∧ Flow.Onward mid.flow db'.flow := by
  unfold fnCompleteOutbound at done
  split at done
  · cases done
  · rename_i call found
    split at done
    · rename_i stale
      obtain ⟨-, rfl⟩ := Prod.mk.inj (Except.ok.inj done)
      refine .inl ⟨rfl, .refl, fun other here answered => ?_⟩
      obtain rfl := Option.some.inj (found.symm.trans here)
      exact stale answered.1
    · rename_i inFlight
      split at done
      · cases done
      · rename_i payload mid built
        obtain ⟨-, rfl⟩ := Prod.mk.inj (Except.ok.inj done)
        have submitted := @writes_unbilled_submit env mid (.outbound, callId) call.taskId payload
        have scored := @writes_unbilled_score env (submitFor env mid (.outbound, callId) call.taskId payload).2 callId
          call.body (submitFor env mid (.outbound, callId) call.taskId payload).1
        have kept (db : Db) (reply : Json) : (scoreCall db callId call.body reply).schedules = db.schedules := by
          unfold scoreCall
          split <;> rfl
        have later := schedules_of_hidden (@hidden_submitFor env mid (.outbound, callId) call.taskId payload)
        obtain ⟨-, ⟨-, kind, answered, -⟩ | ⟨inert, writes⟩⟩ := writes_outboundPayload built
        · refine .inr ⟨call, mid, found, not_not.mp inFlight, kind, answered, ?_, ?_, submitted.trans scored, ?_⟩
          · simp only [outboundPayload, kind, answered] at built
            exact (Prod.mk.inj (Except.ok.inj built)).2.symm
          · rw [kept]
            exact later
          · rw [(scoreCall_quiet _ _ _).flow]
            exact onward_submitFor _ _ _
        · have retired : Writes env Unbilled db.core (harvestOutbound env db callId status body).core :=
            (writes_harvestOutbound callId status body).mono Unbilled.of_calm
          have prepared := retired.trans (writes.mono Unbilled.of_calm)
          have other : ¬ (call.body.kind = .llm ∧ isLlmFailure status = false) := by
            rintro ⟨kind, answered⟩
            simp only [outboundPayload, kind, answered] at built
            obtain ⟨rfl, -⟩ := Prod.mk.inj (Except.ok.inj built)
            exact inert rfl
          refine .inl ⟨?_, (prepared.trans submitted).trans scored, fun same here model => ?_⟩
          · have same : mid.schedules = (harvestOutbound env db callId status body).schedules :=
              schedules_outboundPayload built other
            rw [kept]
            exact later.trans same
          · obtain rfl := Option.some.inj (found.symm.trans here)
            exact other model.2

/-- The call with the tokens and the cost of its answer. -/
def CallRow.billed (row : CallRow OutboundBody) (usage : Option Usage) (cost : Option ℚ) : CallRow OutboundBody :=
  { row with
    body := { row.body with
      promptTokens := usage.bind Usage.promptTokens
      completionTokens := usage.bind Usage.completionTokens
      costUsd := cost } }

theorem recordUsage_core (callId t : Nat) (call : OutboundBody) (body : Option String) :
    (recordUsage db callId t call body).core = { db.core with
      outboundCalls := db.outboundCalls.modify callId fun row =>
        row.billed (llmUsageFromHttp body) (callCost db call (llmUsageFromHttp body)) } := by
  simp only [recordUsage, core_chargeSchedule]
  rfl

/-- The bill of an answer goes to the schedule whose run made the call. -/
theorem costOf_recordUsage {callId : Nat} {call : CallRow OutboundBody} (body : Option String)
    (found : db.outboundCalls.get? callId = some call) (unpaid : call.body.costUsd = none) :
    (recordUsage db callId call.taskId call.body body).core.costOf id = db.core.costOf id +
      if db.core.payer call.taskId = some id then (callCost db call.body (llmUsageFromHttp body)).getD 0 else 0 := by
  rw [recordUsage_core]
  generalize callCost db call.body (llmUsageFromHttp body) = cost
  generalize billed : { db.core with
    outboundCalls := db.outboundCalls.modify callId fun row => row.billed (llmUsageFromHttp body) cost } = σ
  have payer (t : Nat) : σ.payer t = db.core.payer t := by
    rw [← billed]
    rfl
  have here : σ.outboundCalls.get? callId = some (call.billed (llmUsageFromHttp body) cost) := by
    rw [← billed, Table.get?_modify, if_pos rfl, found]
    rfl
  have before : db.core.outboundCalls.share (fun _ call => db.core.price id call) callId = 0 := by
    have old : db.core.outboundCalls.get? callId = some call := found
    simp only [Table.share, old, Option.elim_some, Core.price, unpaid, Option.getD_none, ite_self]
  have after : σ.outboundCalls.share (fun _ call => σ.price id call) callId =
      if db.core.payer call.taskId = some id then cost.getD 0 else 0 := by
    simp only [Table.share, here, Option.elim_some, Core.price, payer, CallRow.billed]
  have others (other : Nat) (different : other ≠ callId) :
      σ.outboundCalls.share (fun _ call => σ.price id call) other =
        db.core.outboundCalls.share (fun _ call => db.core.price id call) other := by
    have same : σ.outboundCalls.get? other = db.core.outboundCalls.get? other := by
      rw [← billed, Table.get?_modify, if_neg different]
      rfl
    simp only [Table.share, same, Core.price, payer]
  have change := Table.sum_change others
  rw [before, after, add_zero] at change
  exact change

theorem recordUsage_none {callId : Nat} {call : OutboundBody} (body : Option String)
    (free : callCost db call (llmUsageFromHttp body) = none ∨ db.core.payer t = none) :
    (recordUsage db callId t call body).schedules = db.schedules := by
  unfold recordUsage
  exact chargeSchedule_none _ free

theorem recordUsage_some {callId : Nat} {call : OutboundBody} {cost : ℚ} (body : Option String)
    (paid : db.core.payer t = some id) (priced : callCost db call (llmUsageFromHttp body) = some cost) :
    (recordUsage db callId t call body).schedules = db.schedules.modify id fun row => row.charged cost := by
  simp only [recordUsage, priced]
  exact chargeSchedule_some paid

/-! ### Transactions -/

/-- What a transaction does to the costs of the calls and to what the schedules have spent. -/
inductive Spending (op : ScheduleOp) (db db' : Db) : Prop
  | keep : (∀ id usage price, ¬ Answered db op id usage price) → (∀ id, db'.core.costOf id = db.core.costOf id) →
      SameSpending db.schedules db'.schedules → Spending op db db'
  | create (row : ScheduleRow) : (∀ id usage price, ¬ Answered db op id usage price) → row.spentCostUsd = 0 →
      (∀ id, db'.core.costOf id = db.core.costOf id) → db'.schedules = db.schedules.insert row → Spending op db db'
  | delete (gone : Nat) : (∀ id usage price, ¬ Answered db op id usage price) →
      (∀ id, id ≠ gone → db'.core.costOf id = db.core.costOf id) →
      (∀ id row, db'.schedules.get? id = some row → id ≠ gone ∧ db.schedules.get? id = some row) →
      db'.schedules.next = db.schedules.next → gone < db.schedules.next → Spending op db db'
  | charge (payer : Nat) (usage : Usage) (price : PriceRow) : Answered db op payer usage price →
      (∀ id, db'.core.costOf id = db.core.costOf id + if id = payer then usage.total price / 1000 else 0) →
      db'.schedules = db.schedules.modify payer (fun row => row.charged (usage.total price / 1000)) →
      Spending op db db'

theorem costOf_forget (gone : Nat) (different : id ≠ gone)
    (forgotten : db'.core = { db.core with
      sessions := db.sessions.update (fun _ session => session.scheduleId == some gone)
        fun _ session => { session with scheduleId := none } }) : db'.core.costOf id = db.core.costOf id := by
  have payer (t : Nat) : db'.core.payer t = (db.core.payer t).filter (· != gone) := by
    rw [forgotten]
    simp only [Core.payer, origin_forget]
    cases db.core.tasks.get? t <;> rfl
  have same (t : Nat) : db'.core.payer t = some id ↔ db.core.payer t = some id := by
    rw [payer, Option.filter_eq_some_iff]
    simp [different]
  have calls : db'.core.outboundCalls = db.core.outboundCalls := by rw [forgotten]
  refine Table.sum_congr fun k => ?_
  simp only [Table.share, calls, Core.price, same]

theorem spending_completion {callId : Nat} {status : Option Int} {body : Option String} {reply : Json}
    (grounded : Grounded db.core) (unpaid : Unpaid db.core)
    (done : fnCompleteOutbound env db callId status body = .ok (reply, db')) :
    Spending (.control (.completeOutbound callId status body)) db db' := by
  rcases completion_cases done with ⟨schedules, writes, other⟩ |
    ⟨call, mid, found, inFlight, kind, answered, rfl, schedules, writes, -⟩
  · refine .keep ?_ (fun id => writes.costOf grounded) ?_
    · rintro id usage price ⟨_, _, _, call, same, found, inFlight, kind, answered, -⟩
      obtain ⟨rfl, rfl, rfl⟩ := Op.completeOutbound.inj (ScheduleOp.control.inj same)
      exact other call found ⟨inFlight, kind, answered⟩
    · rw [schedules]
      exact .refl _
  · have retired : Writes env Unbilled db.core (harvestOutbound env db callId status body).core :=
      (writes_harvestOutbound callId status body).mono Unbilled.of_calm
    have held := retired.grounded grounded
    have billed : Grounded (recordUsage (harvestOutbound env db callId status body) callId call.taskId call.body body).core :=
      (@writes_recordUsage env (harvestOutbound env db callId status body) callId call.taskId call.body body).grounded held
    have here : (harvestOutbound env db callId status body).outboundCalls.get? callId = some { retire env .harvested call with
        body := { call.body with responseStatus := status, responseBody := some (left (body.getD "") 200000) } } := by
      simp only [harvestOutbound, Table.get?_modify, if_pos, found, Option.map_some]
    have cost := unpaid callId call found (by rw [inFlight]; rfl)
    have costs (id : Nat) : db'.core.costOf id = db.core.costOf id +
        if db.core.payer call.taskId = some id then (callCost db call.body (llmUsageFromHttp body)).getD 0 else 0 := by
      rw [writes.costOf billed]
      have bill := @costOf_recordUsage (harvestOutbound env db callId status body) id callId _ body here cost
      rw [retired.costOf grounded] at bill
      exact bill
    by_cases asked : ∃ id usage price, Answered db (.control (.completeOutbound callId status body)) id usage price
    · obtain ⟨id, usage, price, answer⟩ := asked
      obtain ⟨_, _, _, other, same, there, -, -, -, used, known, paid⟩ := answer.answers
      obtain ⟨rfl, rfl, rfl⟩ := Op.completeOutbound.inj (ScheduleOp.control.inj same)
      obtain rfl := Option.some.inj (found.symm.trans there)
      have total : callCost db call.body (llmUsageFromHttp body) = some (usage.total price / 1000) := by
        rw [callCost_eq, used, Option.bind_some, known, Option.map_some]
      refine .charge id usage price answer (fun payer => ?_) ?_
      · rw [costs, total, paid, Option.getD_some]
        simp only [Option.some.injEq, eq_comm]
      · rw [schedules]
        exact recordUsage_some body paid total
    · have free : callCost db call.body (llmUsageFromHttp body) = none ∨ db.core.payer call.taskId = none := by
        rcases paid : db.core.payer call.taskId with _ | id
        · exact .inr rfl
        · refine .inl ?_
          rcases used : llmUsageFromHttp body with _ | usage
          · rfl
          · rcases known : db.priceOf call.body with _ | price
            · rw [callCost_eq, Option.bind_some, known, Option.map_none]
            · exact absurd ⟨id, usage, price, ⟨callId, status, body, call, rfl, found, inFlight, kind, answered, used,
                known, paid⟩⟩ asked
      refine .keep (fun id usage price answer => asked ⟨id, usage, price, answer⟩) (fun id => ?_) ?_
      · rw [costs]
        rcases free with unpriced | unpaid
        · simp [unpriced]
        · simp [unpaid]
      · have same : (recordUsage (harvestOutbound env db callId status body) callId call.taskId call.body body).schedules =
            db.schedules := recordUsage_none body free
        rw [schedules, same]
        exact .refl _

/-- An operation that runs writes and bills nothing keeps the costs. -/
theorem Spending.of_writes {op : ScheduleOp} (grounded : Grounded db.core) (writes : Writes env Unbilled db.core db'.core)
    (other : ∀ callId status body, op ≠ .control (.completeOutbound callId status body))
    (same : SameSpending db.schedules db'.schedules) : Spending op db db' := by
  refine .keep ?_ (fun id => writes.costOf grounded) same
  rintro id usage price ⟨callId, status, body, call, completes, -⟩
  exact other callId status body completes

theorem Op.unbilled {op : Op} (done : op.run env db = .ok db')
    (other : ∀ callId status body, op ≠ .completeOutbound callId status body) :
    Writes env Unbilled db.core db'.core := by
  refine (Op.writes done).mono ?_
  rintro mark σ marks callId rfl
  obtain ⟨status, body, completes⟩ := Op.marks_bill marks
  exact other callId status body completes

theorem fnRunScheduleNow_writes {answer : Json} (done : fnRunScheduleNow env db id = .ok (answer, db')) :
    Writes env Unbilled db.core db'.core ∧ SameSpending db.schedules db'.schedules ∧ Flow.Onward db.flow db'.flow := by
  unfold fnRunScheduleNow at done
  split at done
  · cases done
  · split_ifs at done
    split at done
    · cases done
    · rename_i created opened
      obtain ⟨-, rfl⟩ := Prod.mk.inj (Except.ok.inj done)
      refine ⟨(writes_fnCreateSession opened).mono ?_, ?_, (fnCreateSession_move opened).onward⟩
      · rintro mark σ opening callId rfl
        exact opening
      · refine .modify id (fun row => row.firedNow env.now created.sessionId) ?_ fun _ => rfl
        rw [← schedules_fnCreateSession opened]
        rfl

theorem ScheduleOp.spending {op : ScheduleOp} (done : op.run env db = .ok db') (grounded : Grounded db.core)
    (unpaid : Unpaid db.core) : Spending op db db' := by
  have idle {op : ScheduleOp} (other : ∀ callId status body, op ≠ .control (.completeOutbound callId status body)) :
      ∀ id usage price, ¬ Answered db op id usage price := by
    rintro id usage price ⟨callId, status, body, call, completes, -⟩
    exact other callId status body completes
  cases op <;> simp only [ScheduleOp.run] at done
  case createSchedule =>
    obtain ⟨⟨reply, after⟩, created, rfl⟩ := ok_of_map done
    unfold fnCreateSchedule at created
    dsimp only at created
    split_ifs at created
    obtain ⟨-, rfl⟩ := Prod.mk.inj (Except.ok.inj created)
    exact .create _ (idle fun _ _ _ same => by cases same) rfl (fun _ => rfl) rfl
  case setSchedule id edit =>
    obtain ⟨⟨reply, after⟩, edited, rfl⟩ := ok_of_map done
    unfold fnSetSchedule at edited
    split at edited
    · cases edited
    · split_ifs at edited
      obtain ⟨-, rfl⟩ := Prod.mk.inj (Except.ok.inj edited)
      exact .keep (idle fun _ _ _ same => by cases same) (fun _ => rfl)
        (.modify id (fun row => row.edited edit) rfl fun _ => rfl)
  case deleteSchedule gone =>
    obtain ⟨⟨reply, after⟩, deleted, rfl⟩ := ok_of_map done
    unfold fnDeleteSchedule at deleted
    split at deleted
    · cases deleted
    · rename_i found
      obtain ⟨-, rfl⟩ := Prod.mk.inj (Except.ok.inj deleted)
      refine .delete gone (idle fun _ _ _ same => by cases same) (fun id different => costOf_forget gone different rfl)
        (fun id row now => ?_) rfl (Table.get?_lt_next found)
      have kept : (db.schedules.delete fun other _ => other == gone).get? id = some row := now
      rw [Table.get?_delete, Option.filter_eq_some_iff] at kept
      exact ⟨by simpa using kept.2, kept.1⟩
  case runScheduleNow id =>
    obtain ⟨⟨reply, after⟩, ran, rfl⟩ := ok_of_map done
    obtain ⟨writes, same, -⟩ := fnRunScheduleNow_writes ran
    exact .of_writes grounded writes (fun _ _ _ same => by cases same) same
  case control op =>
    by_cases completes : ∃ callId status body, op = .completeOutbound callId status body
    · obtain ⟨callId, status, body, rfl⟩ := completes
      obtain ⟨⟨reply, after⟩, completed, rfl⟩ := ok_of_map done
      exact spending_completion grounded unpaid completed
    · have other (callId : Nat) (status : Option Int) (body : Option String) :
          op ≠ .completeOutbound callId status body := fun same => completes ⟨callId, status, body, same⟩
      have writes := Op.unbilled done other
      refine .of_writes grounded writes (fun callId status body same => other callId status body (control.inj same)) ?_
      by_cases swept : op = .runSchedules
      · subst swept
        obtain rfl := Except.ok.inj done
        exact fnRunSchedules_spending
      · rw [schedules_of_op done swept other]
        exact .refl _

/-- A transaction on schedules bills nothing, or only makes sessions forget a schedule. -/
theorem ScheduleOp.core {op : ScheduleOp} (done : op.run env db = .ok db') :
    (∃ control, op = .control control) ∨ (Writes env Unbilled db.core db'.core ∧ Flow.Onward db.flow db'.flow) ∨
      ∃ gone : Nat, db'.core = { db.core with
        sessions := db.sessions.update (fun _ session => session.scheduleId == some gone)
          fun _ session => { session with scheduleId := none } } := by
  have idle (core : db'.core = db.core) (call : db'.flow.call = db.flow.call) :
      Writes env Unbilled db.core db'.core ∧ Flow.Onward db.flow db'.flow := by
    rw [core]
    exact ⟨.refl, .ofCallEq call⟩
  cases op <;> simp only [ScheduleOp.run] at done
  case control op => exact .inl ⟨op, rfl⟩
  case createSchedule =>
    obtain ⟨⟨reply, after⟩, created, rfl⟩ := ok_of_map done
    unfold fnCreateSchedule at created
    dsimp only at created
    split_ifs at created
    obtain ⟨-, rfl⟩ := Prod.mk.inj (Except.ok.inj created)
    exact .inr (.inl (idle rfl rfl))
  case setSchedule =>
    obtain ⟨⟨reply, after⟩, edited, rfl⟩ := ok_of_map done
    unfold fnSetSchedule at edited
    split at edited
    · cases edited
    · split_ifs at edited
      obtain ⟨-, rfl⟩ := Prod.mk.inj (Except.ok.inj edited)
      exact .inr (.inl (idle rfl rfl))
  case deleteSchedule gone =>
    obtain ⟨⟨reply, after⟩, deleted, rfl⟩ := ok_of_map done
    unfold fnDeleteSchedule at deleted
    split at deleted
    · cases deleted
    · obtain ⟨-, rfl⟩ := Prod.mk.inj (Except.ok.inj deleted)
      exact .inr (.inr ⟨gone, rfl⟩)
  case runScheduleNow =>
    obtain ⟨⟨reply, after⟩, ran, rfl⟩ := ok_of_map done
    obtain ⟨writes, -, onward⟩ := fnRunScheduleNow_writes ran
    exact .inr (.inl ⟨writes, onward⟩)

theorem ScheduleOp.grounded {op : ScheduleOp} (done : op.run env db = .ok db') (grounded : Grounded db.core) :
    Grounded db'.core := by
  rcases ScheduleOp.core done with ⟨control, rfl⟩ | ⟨writes, -⟩ | ⟨gone, forgotten⟩
  · exact (Op.writes done).grounded grounded
  · exact writes.grounded grounded
  · rw [forgotten]
    refine ⟨fun t task found => ?_, grounded.calls⟩
    rw [Table.get?_update, Option.isSome_map]
    exact grounded.founded t task found

theorem unpaid_completion {callId : Nat} {status : Option Int} {body : Option String} {reply : Json}
    (unpaid : Unpaid db.core) (onward : Flow.Onward db.flow db'.flow)
    (done : fnCompleteOutbound env db callId status body = .ok (reply, db')) : Unpaid db'.core := by
  rcases completion_cases done with ⟨-, writes, -⟩ | ⟨call, mid, found, -, -, -, taken, -, writes, forward⟩
  · exact unpaid.writes writes onward
  · refine Unpaid.writes ?_ writes forward
    intro k other now waits
    have harvested : mid.core.outboundCalls = (db.outboundCalls.modify callId fun row => { retire env .harvested row with
        body := { row.body with responseStatus := status, responseBody := some (left (body.getD "") 200000) } }).modify
          callId fun row => row.billed (llmUsageFromHttp body)
            (callCost (harvestOutbound env db callId status body) call.body (llmUsageFromHttp body)) := by
      rw [taken, recordUsage_core]
      rfl
    rw [harvested, Table.get?_modify, Table.get?_modify] at now
    split at now
    · -- The call that has just been answered waits for nothing.
      obtain ⟨row, retired, rfl⟩ := Option.map_eq_some_iff.mp now
      obtain ⟨old, -, rfl⟩ := Option.map_eq_some_iff.mp retired
      cases waits
    · exact unpaid k other now waits

theorem ScheduleOp.unpaid {op : ScheduleOp} (done : op.run env db = .ok db') (unpaid : Unpaid db.core) :
    Unpaid db'.core := by
  rcases ScheduleOp.core done with ⟨control, rfl⟩ | ⟨writes, onward⟩ | ⟨gone, forgotten⟩
  · have onward : Flow.Onward db.flow db'.flow :=
      @onward_of_run db db' Label.any (.single (.commit done) rfl)
    by_cases completes : ∃ callId status body, control = .completeOutbound callId status body
    · obtain ⟨callId, status, body, rfl⟩ := completes
      simp only [ScheduleOp.run, Op.run] at done
      obtain ⟨⟨reply, after⟩, completed, rfl⟩ := ok_of_map done
      exact unpaid_completion unpaid onward completed
    · exact unpaid.writes (Op.unbilled done fun callId status body same => completes ⟨callId, status, body, same⟩) onward
  · exact unpaid.writes writes onward
  · rw [forgotten]
    exact unpaid

/-! ### Accounts -/

/-- Every schedule has spent what the calls of its runs have cost. -/
structure Accounted (db : Db) : Prop where
  exact : ∀ id row, db.schedules.get? id = some row → row.spentCostUsd = db.core.costOf id
  unborn : ∀ id, db.schedules.next ≤ id → db.core.costOf id = 0

/-- Nobody pays for a schedule that has never existed. -/
theorem payer_born (counted : Counted db) (paid : db.core.payer t = some id) : id < db.schedules.next := by
  by_contra above
  have none := counted.unborn id (by omega)
  obtain ⟨task, found, given⟩ := Option.bind_eq_some_iff.mp paid
  obtain ⟨session, here, opened⟩ := origin_eq_some.mp given
  have counts : 0 < db.runsOf id := Table.count_pos.mpr ⟨task.sessionId, session, here, opened⟩
  omega

theorem Spending.accounted {op : ScheduleOp} (spending : Spending op db db') (counted : Counted db)
    (held : Accounted db) : Accounted db' := by
  cases spending with
  | keep other costs same =>
    refine ⟨fun id row now => ?_, fun id above => ?_⟩
    · obtain ⟨before, found, spent⟩ := same.rows id row now
      rw [spent, costs]
      exact held.exact id before found
    · rw [costs]
      exact held.unborn id (by rw [← same.next]; exact above)
  | create row other fresh costs inserted =>
    refine ⟨fun id after now => ?_, fun id above => ?_⟩
    · rw [inserted, Table.get?_insert] at now
      rw [costs]
      split at now
      · rename_i newest
        obtain rfl := Option.some.inj now
        rw [fresh, held.unborn id (by omega)]
      · exact held.exact id after now
    · rw [inserted, Table.next_insert] at above
      rw [costs]
      exact held.unborn id (by omega)
  | delete gone other costs rows next born =>
    refine ⟨fun id row now => ?_, fun id above => ?_⟩
    · obtain ⟨different, found⟩ := rows id row now
      rw [costs id different]
      exact held.exact id row found
    · rw [next] at above
      rw [costs id (by omega)]
      exact held.unborn id above
  | charge payer usage price answer costs modified =>
    refine ⟨fun id after now => ?_, fun id above => ?_⟩
    · rw [modified, Table.get?_modify] at now
      rw [costs]
      split at now
      · rename_i here
        obtain ⟨before, found, rfl⟩ := Option.map_eq_some_iff.mp now
        rw [if_pos here, ← held.exact id before found]
        rfl
      · rename_i elsewhere
        rw [if_neg elsewhere, add_zero]
        exact held.exact id after now
    · obtain ⟨_, _, _, call, _, _, _, _, _, _, _, paid⟩ := answer.answers
      have born := payer_born counted paid
      rw [modified, Table.next_modify] at above
      have different : id ≠ payer := by omega
      rw [costs, if_neg different, add_zero]
      exact held.unborn id above

/-! ### The law of spending -/

/-- One transaction. `other` writes no tasks and no calls either. -/
def CostStep (label : ScheduleLabel) (db db' : Db) : Prop :=
  ScheduleStep label db db' ∧ (label = .other → db'.tasks = db.tasks ∧ db'.outboundCalls = db.outboundCalls)

abbrev CostRun (ok : ScheduleLabel → Db → Prop) (start db : Db) : Prop := Path CostStep ok start db

theorem fnSetModelPrice_step {providerId : Option Nat} {model : Option String} {input output : Option ℚ} {reply : Json}
    (done : fnSetModelPrice db providerId model input output = .ok (reply, db')) : CostStep .other db db' := by
  unfold fnSetModelPrice at done
  split at done
  · cases done
  · cases done
  · split_ifs at done
    obtain ⟨-, rfl⟩ := Prod.mk.inj (Except.ok.inj done)
    exact ⟨.other rfl rfl, fun _ => ⟨rfl, rfl⟩⟩

theorem fnDeleteModelPrice_step {providerId : Option Nat} {model : Option String} {reply : Json}
    (done : fnDeleteModelPrice db providerId model = .ok (reply, db')) : CostStep .other db db' := by
  unfold fnDeleteModelPrice at done
  dsimp only at done
  split_ifs at done
  obtain ⟨-, rfl⟩ := Prod.mk.inj (Except.ok.inj done)
  exact ⟨.other rfl rfl, fun _ => ⟨rfl, rfl⟩⟩

/-- An answer to a call of the schedule's runs counts tokens that cost less than nothing. -/
def Refunds (db : Db) (id : Nat) : ScheduleLabel → Prop
  | .call _ op => ∃ usage price, Answered db op id usage price ∧ usage.total price < 0
  | .other => False

/-- An answer of a model is always taken in. -/
theorem Answered.completes {op : ScheduleOp} {usage : Usage} {price : PriceRow}
    (answer : Answered db op id usage price) (env : Env) : ∃ db', op.run env db = .ok db' := by
  obtain ⟨callId, status, body, call, rfl, found, inFlight, kind, answered, -⟩ := answer.answers
  simp only [ScheduleOp.run, Op.run, fnCompleteOutbound, found, inFlight, ne_eq, not_true_eq_false, if_false,
    outboundPayload, kind, answered, Bool.false_eq_true]
  exact ⟨_, rfl⟩

/-- The invariants of a run. -/
structure Books (db : Db) : Prop where
  counted : Counted db
  grounded : Grounded db.core
  unpaid : Unpaid db.core
  accounted : Accounted db

theorem CostStep.books {label : ScheduleLabel} (step : CostStep label db db') (direct : label.direct = true)
    (books : Books db) : Books db' := by
  obtain ⟨step, quiet⟩ := step
  cases step with
  | commit done =>
    have spending := ScheduleOp.spending done books.grounded books.unpaid
    exact ⟨(ScheduleOp.change done direct).counted books.counted, ScheduleOp.grounded done books.grounded,
      ScheduleOp.unpaid done books.unpaid, spending.accounted books.counted books.accounted⟩
  | rollback => exact books
  | other sessions schedules =>
    obtain ⟨tasks, calls⟩ := quiet rfl
    have found (t : Nat) : db'.core.tasks.get? t = db.core.tasks.get? t := congrArg (Table.get? · t) tasks
    have here (s : Nat) : db'.core.sessions.get? s = db.core.sessions.get? s := congrArg (Table.get? · s) sessions
    have call (k : Nat) : db'.core.outboundCalls.get? k = db.core.outboundCalls.get? k := congrArg (Table.get? · k) calls
    have payer (t : Nat) : db'.core.payer t = db.core.payer t := by
      simp only [Core.payer, origin, found, here]
    have costs (id : Nat) : db'.core.costOf id = db.core.costOf id := by
      refine Table.sum_congr fun k => ?_
      simp only [Table.share, call, Core.price, payer]
    have held := books.accounted
    refine ⟨books.counted.congr sessions schedules, ⟨fun t task now => ?_, fun k row now => ?_⟩, fun k row now => ?_,
      ⟨fun id row now => ?_, fun id above => ?_⟩⟩
    · rw [found] at now
      rw [here]
      exact books.grounded.founded t task now
    · rw [call] at now
      rw [found]
      exact books.grounded.calls k row now
    · rw [call] at now
      exact books.unpaid k row now
    · rw [schedules] at now
      rw [costs]
      exact held.exact id row now
    · rw [schedules] at above
      rw [costs]
      exact held.unborn id above

/-- What a transaction makes of a schedule that exists: it spends no more than before, or it is charged. -/
theorem CostStep.spends {label : ScheduleLabel} (step : CostStep label db db') (books : Books db)
    (born : id < db.schedules.next) {row' : ScheduleRow} (now : db'.schedules.get? id = some row') :
    ∃ row amount, db.schedules.get? id = some row ∧ row'.spentCostUsd = row.spentCostUsd + amount ∧
      (amount < 0 ↔ Refunds db id label) ∧ (amount = 0 ∨ row' = row.charged amount) := by
  have idle {row : ScheduleRow} (found : db.schedules.get? id = some row)
      (same : row'.spentCostUsd = row.spentCostUsd) (other : ¬ Refunds db id label) :
      ∃ row amount, db.schedules.get? id = some row ∧ row'.spentCostUsd = row.spentCostUsd + amount ∧
        (amount < 0 ↔ Refunds db id label) ∧ (amount = 0 ∨ row' = row.charged amount) :=
    ⟨row, 0, found, by rw [same, add_zero], by simp [other], .inl rfl⟩
  obtain ⟨step, quiet⟩ := step
  cases step with
  | @commit env op _ _ done =>
    have none (other : ∀ id usage price, ¬ Answered db op id usage price) : ¬ Refunds db id (.call env op) := by
      rintro ⟨usage, price, answer, -⟩
      exact other id usage price answer
    cases ScheduleOp.spending done books.grounded books.unpaid with
    | keep other costs same =>
      obtain ⟨row, found, spent⟩ := same.rows id row' now
      exact idle found spent (none other)
    | create row other fresh costs inserted =>
      rw [inserted, Table.get?_insert, if_neg (by omega)] at now
      exact idle now rfl (none other)
    | delete gone other costs rows next =>
      exact idle (rows id row' now).2 rfl (none other)
    | charge payer usage price answer costs modified =>
      rw [modified, Table.get?_modify] at now
      split at now
      · rename_i here
        obtain ⟨row, found, rfl⟩ := Option.map_eq_some_iff.mp now
        subst here
        refine ⟨row, usage.total price / 1000, found, rfl, ?_, .inr rfl⟩
        have thousandth : usage.total price / 1000 < 0 ↔ usage.total price < 0 := by
          rw [div_lt_iff₀ (by norm_num), zero_mul]
        rw [thousandth]
        constructor
        · intro below
          exact ⟨usage, price, answer, below⟩
        · rintro ⟨usage', price', again, below⟩
          rw [(answer.unique again).2]
          exact below
      · rename_i elsewhere
        refine idle now rfl ?_
        rintro ⟨usage', price', again, -⟩
        exact elsewhere (answer.unique again).1.symm
  | @rollback env op _ message failed =>
    refine idle now rfl ?_
    rintro ⟨usage, price, answer, -⟩
    obtain ⟨db', done⟩ := answer.completes env
    rw [failed] at done
    cases done
  | other sessions schedules =>
    rw [schedules] at now
    exact idle now rfl fun refunds => refunds

/-- Schedules are not numbered anew. -/
theorem CostStep.next {label : ScheduleLabel} (step : CostStep label db db') (books : Books db) :
    db.schedules.next ≤ db'.schedules.next := by
  obtain ⟨step, quiet⟩ := step
  cases step with
  | commit done =>
    cases ScheduleOp.spending done books.grounded books.unpaid with
    | keep other costs same => exact same.next.ge
    | create row other fresh costs inserted =>
      rw [inserted, Table.next_insert]
      omega
    | delete gone other costs rows next => exact next.ge
    | charge payer usage price answer costs modified =>
      rw [modified, Table.next_modify]
  | rollback => exact le_refl _
  | other sessions schedules => rw [schedules]

/-- What holds of the schedules in a reachable state, of the next transaction and of what may follow. -/
structure SpendingLaw (db : Db) : Prop where
  exact : ∀ id row, db.schedules.get? id = some row → row.spentCostUsd = db.core.costOf id
  falls : ∀ label db' id row row', CostStep label db db' → db.schedules.get? id = some row →
    db'.schedules.get? id = some row' → (row'.spentCostUsd < row.spentCostUsd ↔ Refunds db id label)
  grows : ∀ db' id row row', CostRun (fun label now => label.direct = true ∧ ¬ Refunds now id label) db db' →
    db.schedules.get? id = some row → db'.schedules.get? id = some row' → row.spentCostUsd ≤ row'.spentCostUsd
  stops : ∀ label db' id row row' limit, CostStep label db db' → db.schedules.get? id = some row →
    db'.schedules.get? id = some row' → row'.maxCostUsd = some limit → row.spentCostUsd < limit →
    limit ≤ row'.spentCostUsd → row'.isActive = false

theorem books_of_run {ok : ScheduleLabel → Db → Prop} (direct : ∀ label now, ok label now → label.direct = true)
    (run : CostRun ok start db) (initially : Books start) : Books db :=
  run.invariant (fun label _ _ step allowed books => step.books (direct label _ allowed) books) initially

theorem Books.law (books : Books db) : SpendingLaw db where
  exact := books.accounted.exact
  falls label db' id row row' step found now := by
    obtain ⟨before, amount, here, spent, refunds, -⟩ := step.spends books (Table.get?_lt_next found) now
    obtain rfl := Option.some.inj (found.symm.trans here)
    rw [← refunds, spent]
    exact ⟨fun less => by linarith, fun negative => by linarith⟩
  grows db' id row row' run found now := by
    have kept : Books db' ∧ id < db'.schedules.next ∧
        ∀ row', db'.schedules.get? id = some row' → row.spentCostUsd ≤ row'.spentCostUsd := by
      refine run.invariant (P := fun now => Books now ∧ id < now.schedules.next ∧
        ∀ row', now.schedules.get? id = some row' → row.spentCostUsd ≤ row'.spentCostUsd) ?_
        ⟨books, Table.get?_lt_next found, fun row' same => (Option.some.inj (found.symm.trans same) ▸ le_refl _)⟩
      rintro label before after step ⟨direct, charged⟩ ⟨held, born, grown⟩
      refine ⟨step.books direct held, lt_of_lt_of_le born (step.next held), fun last there => ?_⟩
      obtain ⟨between, amount, here, spent, refunds, -⟩ := step.spends held born there
      have least := grown between here
      have positive : 0 ≤ amount := not_lt.mp fun negative => charged (refunds.mp negative)
      linarith
    exact kept.2.2 row' now
  stops label db' id row row' limit step found now limited below reached := by
    obtain ⟨before, amount, here, spent, -, idle | charged⟩ := step.spends books (Table.get?_lt_next found) now
    · obtain rfl := Option.some.inj (found.symm.trans here)
      rw [spent, idle, add_zero] at reached
      exact absurd reached (not_le.mpr below)
    · rw [charged] at limited reached ⊢
      have limited : before.maxCostUsd = some limit := limited
      have reached : limit ≤ before.spentCostUsd + amount := reached
      simp [ScheduleRow.charged, limited, reached]

theorem Fresh.books (fresh : Fresh start) (unscheduled : ∀ id, start.schedules.get? id = none) : Books start := by
  have calls (k : Nat) : start.core.outboundCalls.get? k = none := Option.map_eq_none_iff.mp (fresh.calls (.outbound, k))
  refine ⟨⟨fun id row found => ?_, fun id above => ?_⟩, ⟨fun t task found => ?_, fun k call found => ?_⟩,
    fun k call found => ?_, ⟨fun id row found => ?_, fun id above => ?_⟩⟩
  · rw [unscheduled] at found
    cases found
  · refine Table.count_eq_zero.mpr fun s session found => ?_
    rw [fresh.sessions] at found
    cases found
  · rw [show start.core.tasks = start.tasks from rfl, fresh.tasks] at found
    cases found
  · rw [calls] at found
    cases found
  · rw [calls] at found
    cases found
  · rw [unscheduled] at found
    cases found
  · rw [Core.costOf, Table.sum_eq_shares (le_refl _)]
    refine Finset.sum_eq_zero fun k _ => ?_
    rw [Table.share, calls, Option.elim_none]

/-- In every run from a fresh installation a schedule has spent the recorded costs of the calls of its
runs; it spends less only by a negative bill, and a bill that reaches the limit stops it. -/
theorem schedule_costs (fresh : Fresh start) (unscheduled : ∀ id, start.schedules.get? id = none)
    (run : CostRun (fun label _ => label.direct = true) start db) : SpendingLaw db :=
  (books_of_run (fun _ _ direct => direct) run (fresh.books unscheduled)).law

/-! ### A priced model -/

/-- The helper's model has a price. -/
def pricedDb : Db :=
  { helperDb (helperPolicy 5 none) with prices := [⟨0, "small", 1, 1⟩] }

theorem pricedDb_fresh : Fresh pricedDb :=
  have fresh := helperDb_fresh (helperPolicy 5 none)
  ⟨fresh.sessions, fresh.tasks, fresh.calls, fresh.approvals, fresh.journal, fresh.submits⟩

/-- The tables after the operations, if none of them is rolled back. -/
def performAll : Db → List ScheduleOp → Option Db
  | db, [] => some db
  | db, op :: rest =>
    match op.run .bare db with
    | .ok db => performAll db rest
    | .error _ => none

theorem costRun_of_performAll {ops : List ScheduleOp} (direct : ∀ op ∈ ops, op.direct = true)
    (done : performAll start ops = some db) : CostRun (fun label _ => label.direct = true) start db := by
  induction ops generalizing start with
  | nil =>
    obtain rfl := Option.some.inj done
    exact .refl
  | cons op rest ih =>
    simp only [performAll] at done
    split at done
    · rename_i committed
      have first : CostStep (.call .bare op) start _ := ⟨.commit committed, fun same => by cases same⟩
      exact (Path.single first (direct op List.mem_cons_self)).trans
        (ih (fun other member => direct other (List.mem_cons_of_mem _ member)) done)
    · cases done

/-- A schedule with a budget of one dollar has asked its model. -/
def hourlyRun : List ScheduleOp :=
  [.createSchedule (some "hourly") 0 (some "report") (some 3600) none none none (some 1), .runScheduleNow 0,
    .control .dispatchTasks, .control (.claimOutbound none none)]

def countsTokens (count : String) : String :=
  "\x7b\"usage\":\x7b\"prompt_tokens\":" ++ count ++ "\x7d\x7d"

theorem performed {ops : List ScheduleOp} {cond : Db → Bool} (direct : ∀ op ∈ ops, op.direct = true)
    (reaches : (performAll start ops).any cond = true) :
    ∃ db, CostRun (fun label _ => label.direct = true) start db ∧ cond db = true := by
  rcases done : performAll start ops with _ | db
  · rw [done] at reaches
    cases reaches
  · rw [done] at reaches
    exact ⟨db, costRun_of_performAll direct done, reaches⟩

theorem schedule_costs_hourly : ∃ db, CostRun (fun label _ => label.direct = true) pricedDb db ∧
    (db.schedules.get? 0).any (fun row => row.spentCostUsd = 2 && !row.isActive) = true ∧ SpendingLaw db := by
  obtain ⟨db, run, spent⟩ := @performed pricedDb
    (hourlyRun ++ [.control (.completeOutbound 0 (some 200) (some (countsTokens "2000")))])
    (fun db => (db.schedules.get? 0).any fun row => row.spentCostUsd = 2 && !row.isActive) (by decide)
    (by decide +kernel)
  exact ⟨db, run, spent, schedule_costs pricedDb_fresh (fun _ => rfl) run⟩

/-- The answer takes something off what the schedule has spent. -/
def takesOff (body : String) (db : Db) : Bool :=
  match ScheduleOp.run .bare db (.control (.completeOutbound 0 (some 200) (some body))) with
  | .ok db' => (db.schedules.get? 0).any fun row => (db'.schedules.get? 0).any fun row' =>
      decide (row'.spentCostUsd < row.spentCostUsd)
  | .error _ => false

/-- A provider that counts a negative number of tokens makes a schedule spend less than nothing. -/
theorem not_schedule_costs : ∃ db db' label row row',
    CostRun (fun label _ => label.direct = true) pricedDb db ∧ CostStep label db db' ∧ label.direct = true ∧
      db.schedules.get? 0 = some row ∧ db'.schedules.get? 0 = some row' ∧ row'.spentCostUsd < row.spentCostUsd := by
  obtain ⟨db, run, less⟩ := @performed pricedDb hourlyRun (takesOff (countsTokens "-1000")) (by decide) (by decide +kernel)
  unfold takesOff at less
  split at less
  · rename_i db' answered
    obtain ⟨row, found, less⟩ := (Option.any_eq_true _ _).mp less
    obtain ⟨row', now, less⟩ := (Option.any_eq_true _ _).mp less
    exact ⟨db, db', _, row, row', run, ⟨.commit answered, fun same => by cases same⟩, rfl, found, now,
      of_decide_eq_true less⟩
  · cases less

end Allgres
