import Allgres.Refine.Abstraction

namespace Allgres

open Relational Jsonb Sql

variable {db : Db} {env : Env}

/-! ### The four queues -/

/-- How the protocol sees the calls of one queue: `put` fills that queue of some tables. -/
structure QueueView (β : Type) (queue : Queue) (put : Table (CallRow β) → Db) (llm : β → Bool) : Prop where
  call : ∀ calls id, (put calls).call (queue, id) = (calls.get? id).map (CallRow.view llm)
  other : ∀ calls calls' k, k.1 ≠ queue → (put calls).call k = (put calls').call k
  modified : ∀ (calls : Table (CallRow β)) id (set : CallRow β → CallRow β),
    (∀ row, (set row).taskId = row.taskId ∧ llm (set row).body = llm row.body) →
      (put (calls.modify id set)).llmRows = (put calls).llmRows
  inserted : ∀ (calls : Table (CallRow β)) row t, (put (calls.insert row)).llmRows t =
    (put calls).llmRows t + if row.taskId = t ∧ llm row.body = true then 1 else 0
  rest : ∀ calls calls', (put calls).sessions = (put calls').sessions ∧ (put calls).tasks = (put calls').tasks ∧
    (put calls).approvals = (put calls').approvals ∧ (put calls).journal = (put calls').journal ∧
    (put calls).submits = (put calls').submits

section QueueView

variable {β : Type} {queue : Queue} {put : Table (CallRow β) → Db} {llm : β → Bool} {calls : Table (CallRow β)}

theorem QueueView.modify (view : QueueView β queue put llm) {id : Nat} {call : CallRow β}
    (set : CallRow β → CallRow β) (found : calls.get? id = some call)
    (keeps : ∀ row, (set row).taskId = row.taskId ∧ llm (set row).body = llm row.body) :
    (put (calls.modify id set)).flow =
      (put calls).flow.setCall (queue, id) { call.view llm with status := (set call).status } := by
  obtain ⟨sessions, tasks, approvals, journal, submits⟩ := view.rest (calls.modify id set) calls
  ext1
  case session => simp only [Db.flow, Flow.setCall, sessions]
  case task => simp only [Db.flow, Flow.setCall, tasks]
  case call =>
    funext callKey
    obtain ⟨other, key⟩ := callKey
    simp only [Db.flow, Flow.setCall]
    by_cases here : other = queue
    · subst here
      by_cases same : key = id
      · subst same
        simp [view.call, Table.get?_modify, found, CallRow.view, keeps]
      · simp [view.call, Table.get?_modify, same]
    · rw [Function.update_of_ne (by simp [here]), view.other _ calls (other, key) here]
  case approval => simp only [Db.flow, Flow.setCall, approvals]
  case llmRows => exact view.modified calls id set keeps
  case journal => exact journal
  case submits => exact submits

theorem QueueView.insert (view : QueueView β queue put llm) {row : CallRow β} (queued : row.status = .queued) :
    (put (calls.insert row)).flow = (put calls).flow.addCall (queue, calls.next) row.taskId (llm row.body) := by
  obtain ⟨sessions, tasks, approvals, journal, submits⟩ := view.rest (calls.insert row) calls
  ext1
  case session => simp only [Db.flow, Flow.addCall, sessions]
  case task => simp only [Db.flow, Flow.addCall, tasks]
  case call =>
    funext callKey
    obtain ⟨other, key⟩ := callKey
    simp only [Db.flow, Flow.addCall]
    by_cases here : other = queue
    · subst here
      by_cases same : key = calls.next
      · subst same
        simp [view.call, CallRow.view, queued]
      · simp [view.call, Table.get?_insert, same]
    · rw [Function.update_of_ne (by simp [here]), view.other _ calls (other, key) here]
  case approval => simp only [Db.flow, Flow.addCall, approvals]
  case llmRows =>
    funext t
    simp only [Db.flow, Flow.addCall, view.inserted]
    by_cases asks : llm row.body = true
    · by_cases same : t = row.taskId
      · subst same; simp [asks]
      · simp [asks, same, Ne.symm same]
    · simp [asks]
  case journal => exact journal
  case submits => exact submits

end QueueView

theorem outbound_view (db : Db) :
    QueueView OutboundBody .outbound (fun calls => { db with outboundCalls := calls }) OutboundBody.isLlm where
  call _ _ := rfl
  other := by
    rintro calls calls' ⟨queue, id⟩ different
    cases queue with
    | outbound => exact absurd rfl different
    | sql | function | procedure => rfl
  modified := by
    intro calls id set keeps
    funext t
    simp only [Db.llmRows, Table.modify]
    apply Table.count_update
    intro key row
    split
    · rw [(keeps row).1, (keeps row).2]
    · rfl
  inserted calls row t := by
    simp only [Db.llmRows, Table.count_insert, Bool.and_eq_true, beq_iff_eq]
  rest _ _ := ⟨rfl, rfl, rfl, rfl, rfl⟩

theorem sql_view (db : Db) :
    QueueView SqlBody .sql (fun calls => { db with sqlCalls := calls }) (fun _ => false) where
  call _ _ := rfl
  other := by
    rintro calls calls' ⟨queue, id⟩ different
    cases queue with
    | sql => exact absurd rfl different
    | outbound | function | procedure => rfl
  modified _ _ _ _ := rfl
  inserted _ _ _ := by simp [Db.llmRows]
  rest _ _ := ⟨rfl, rfl, rfl, rfl, rfl⟩

theorem function_view (db : Db) :
    QueueView BodyCall .function (fun calls => { db with functionCalls := calls }) (fun _ => false) where
  call _ _ := rfl
  other := by
    rintro calls calls' ⟨queue, id⟩ different
    cases queue with
    | function => exact absurd rfl different
    | outbound | sql | procedure => rfl
  modified _ _ _ _ := rfl
  inserted _ _ _ := by simp [Db.llmRows]
  rest _ _ := ⟨rfl, rfl, rfl, rfl, rfl⟩

theorem procedure_view (db : Db) :
    QueueView BodyCall .procedure (fun calls => { db with procedureCalls := calls }) (fun _ => false) where
  call _ _ := rfl
  other := by
    rintro calls calls' ⟨queue, id⟩ different
    cases queue with
    | procedure => exact absurd rfl different
    | outbound | sql | function => rfl
  modified _ _ _ _ := rfl
  inserted _ _ _ := by simp [Db.llmRows]
  rest _ _ := ⟨rfl, rfl, rfl, rfl, rfl⟩

/-! ### New calls and approvals -/

theorem flow_insertOutbound (t : Nat) (body : OutboundBody) :
    (db.insertOutbound env t body).flow =
      db.flow.addCall (.outbound, db.outboundCalls.next) t body.isLlm :=
  (outbound_view db).insert rfl

theorem flow_insertSql (t : Nat) (body : SqlBody) :
    (db.insertSql env t body).flow = db.flow.addCall (.sql, db.sqlCalls.next) t false :=
  (sql_view db).insert rfl

theorem flow_insertFunctionCall (t : Nat) (body : BodyCall) :
    (db.insertFunctionCall env t body).flow = db.flow.addCall (.function, db.functionCalls.next) t false :=
  (function_view db).insert rfl

theorem flow_insertProcedureCall (t : Nat) (body : BodyCall) :
    (db.insertProcedureCall env t body).flow = db.flow.addCall (.procedure, db.procedureCalls.next) t false :=
  (procedure_view db).insert rfl

/-- The key that the next row of a queue will get. -/
def Db.nextCall (db : Db) : Queue → CallKey
  | .outbound => (.outbound, db.outboundCalls.next)
  | .sql => (.sql, db.sqlCalls.next)
  | .function => (.function, db.functionCalls.next)
  | .procedure => (.procedure, db.procedureCalls.next)

theorem flow_call_next (queue : Queue) : db.flow.call (db.nextCall queue) = none := by
  cases queue <;> simp [Db.flow, Db.call, Db.nextCall, Table.get?_next]

theorem flow_insertApproval (t : Nat) (payload : Json) (expiresAt : Time) :
    (db.insertApproval env t payload expiresAt).flow = db.flow.setApproval db.approvals.next ⟨t, .pending⟩ := by
  ext1
  case approval =>
    funext other
    by_cases same : other = db.approvals.next
    · subst same
      simp [Db.flow, Db.insertApproval, Flow.setApproval, ApprovalRow.view]
    · simp [Db.flow, Db.insertApproval, Flow.setApproval, Table.get?_insert, same]
  all_goals rfl

theorem flow_approval_newest (other : Nat) (known : db.flow.approval other ≠ none) :
    other < db.approvals.next := by
  rcases found : db.approvals.get? other with _ | approval
  · simp [Db.flow, found] at known
  · exact Table.get?_lt_next found

/-! ### Changed calls and approvals -/

/-- An update of an `outbound` call that changes no more than its body. -/
theorem flow_modifyOutbound_same (id : Nat) {set : CallRow OutboundBody → CallRow OutboundBody}
    (keeps : ∀ row, (set row).view OutboundBody.isLlm = row.view OutboundBody.isLlm) :
    { db with outboundCalls := db.outboundCalls.modify id set }.flow = db.flow := by
  ext1
  case call =>
    funext ⟨queue, other⟩
    cases queue with
    | outbound =>
      simp only [Db.flow, Db.call, Table.get?_modify]
      split
      · rcases db.outboundCalls.get? other with _ | row
        · rfl
        · simp only [Option.map_some, keeps]
      · rfl
    | sql | function | procedure => rfl
  case llmRows =>
    funext t
    simp only [Db.flow, Db.llmRows, Table.modify]
    apply Table.count_update
    intro key row
    have same := keeps row
    simp only [CallRow.view, CallView.mk.injEq] at same
    split
    · rw [same.1, same.2.1]
    · rfl
  all_goals rfl

theorem flow_modifyApproval {id : Nat} {approval : ApprovalRow} {set : ApprovalRow → ApprovalRow}
    (found : db.approvals.get? id = some approval) :
    { db with approvals := db.approvals.modify id set }.flow = db.flow.setApproval id (set approval).view := by
  ext1
  case approval =>
    funext other
    by_cases same : other = id
    · subst same
      simp [Db.flow, Flow.setApproval, Table.get?_modify, found]
    · simp [Db.flow, Flow.setApproval, Table.get?_modify, same]
  all_goals rfl

/-! ### Outstanding calls -/

theorem outstandingOf_eq_false {β : Type} {calls : Table (CallRow β)} {t : Nat}
    (none : Db.outstandingOf calls t = false) {id : Nat} {call : CallRow β} (found : calls.get? id = some call)
    (owner : call.taskId = t) : call.status.outstanding = false := by
  by_contra outstanding
  have exists? : Db.outstandingOf calls t = true := by
    rw [Db.outstandingOf, Table.exists?_eq_true]
    exact ⟨id, call, found, by simpa [owner] using outstanding⟩
  rw [none] at exists?
  cases exists?

theorem free_of_hasOutstanding {t : Nat} (none : db.hasOutstanding t = false) : db.flow.Free t := by
  simp only [Db.hasOutstanding, Bool.or_eq_false_iff] at none
  obtain ⟨⟨⟨outbound, sql⟩, function⟩, procedure⟩ := none
  rintro ⟨queue, id⟩ view found owner
  cases queue with
  | outbound =>
    obtain ⟨call, row, rfl⟩ := Option.map_eq_some_iff.mp found
    exact outstandingOf_eq_false outbound row owner
  | sql =>
    obtain ⟨call, row, rfl⟩ := Option.map_eq_some_iff.mp found
    exact outstandingOf_eq_false sql row owner
  | function =>
    obtain ⟨call, row, rfl⟩ := Option.map_eq_some_iff.mp found
    exact outstandingOf_eq_false function row owner
  | procedure =>
    obtain ⟨call, row, rfl⟩ := Option.map_eq_some_iff.mp found
    exact outstandingOf_eq_false procedure row owner

theorem isRunning_iff {t : Nat} : db.isRunning t = true ↔
    ∃ task, db.tasks.get? t = some task ∧ task.status = .running := by
  rcases found : db.tasks.get? t with _ | task
  · simp [Db.isRunning, found]
  · simp [Db.isRunning, found]

end Allgres
