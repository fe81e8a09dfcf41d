import Allgres.Refine.Session

namespace Allgres

open Relational Jsonb Sql Runs

/-- The functions of the control plane that move sessions, tasks and calls. -/
inductive Op
  | createSession (agentId : Nat) (goal : Option String) (projectId scheduleId : Option Nat)
  | continueSession (sessionId : Nat) (message : Option String)
  | runSchedules
  | dispatchTasks
  | claimOutbound (limit : Option Int) (fallback : Option String)
  | claimSql (limit : Option Int)
  | claimFunctionCalls (limit : Option Int)
  | claimProcedureCalls (limit : Option Int)
  | completeOutbound (callId : Nat) (status : Option Int) (body : Option String)
  | completeSql (callId : Nat) (outcome : SqlOutcome)
  | completeFunctionCall (callId : Nat) (outcome : BodyOutcome)
  | completeProcedureCall (callId : Nat) (outcome : BodyOutcome)
  | decideApproval (approvalId : Nat) (accept : Option Bool) (reply : Option String)
  | cancelSession (sessionId : Nat) (reason : Option String)
  | watchdog (timeout : Option Int)
  | nextStep (t : Nat)
  | submitResult (t : Nat) (payload : Json)

/-- The tables after one call, or the error that rolls it back. -/
def Op.run (env : Env) (db : Db) : Op → Except String Db
  | .createSession agentId goal projectId scheduleId =>
    (fnCreateSession env db agentId goal projectId scheduleId).map Created.db
  | .continueSession sessionId message => (fnContinueSession env db sessionId message).map Created.db
  | .runSchedules => .ok (fnRunSchedules env db).2
  | .dispatchTasks => (fnDispatchTasks env db).map Dispatched.db
  | .claimOutbound limit fallback => .ok (fnClaimOutbound env db limit fallback).2
  | .claimSql limit => .ok (fnClaimSql env db limit).2
  | .claimFunctionCalls limit => .ok (fnClaimFunctionCalls env db limit).2
  | .claimProcedureCalls limit => .ok (fnClaimProcedureCalls env db limit).2
  | .completeOutbound callId status body => (fnCompleteOutbound env db callId status body).map Prod.snd
  | .completeSql callId outcome => (fnCompleteSql env db callId outcome).map Prod.snd
  | .completeFunctionCall callId outcome => (fnCompleteFunctionCall env db callId outcome).map Prod.snd
  | .completeProcedureCall callId outcome => (fnCompleteProcedureCall env db callId outcome).map Prod.snd
  | .decideApproval approvalId accept reply => (fnDecideApproval env db approvalId accept reply).map Prod.snd
  | .cancelSession sessionId reason => (fnCancelSession env db sessionId reason).map Prod.snd
  | .watchdog timeout => .ok (fnWatchdog env db timeout)
  | .nextStep t => (fnNextStep env db t).map Prod.snd
  | .submitResult t payload => (fnSubmitResult env db t payload).map Prod.snd

inductive Label
  | call (env : Env) (op : Op)
  | configure

/-- One transaction. `configure` stands for every other function: it may change
whatever the protocol does not see. -/
inductive Step : Label → Db → Db → Prop
  | commit {env : Env} {op : Op} {db db' : Db} : op.run env db = .ok db' → Step (.call env op) db db'
  | rollback {env : Env} {op : Op} {db : Db} {message : String} : op.run env db = .error message →
      Step (.call env op) db db
  | configure {db db' : Db} : Quiet db db' → Step .configure db db'

/-- A fresh installation: no session has been opened yet. -/
structure Fresh (db : Db) : Prop where
  sessions : ∀ s, db.sessions.get? s = none
  tasks : ∀ t, db.tasks.get? t = none
  calls : ∀ k, db.call k = none
  approvals : ∀ a, db.approvals.get? a = none
  journal : db.journal = []
  submits : db.submits = []

/-- The tables that a run of allowed transactions can lead to. -/
abbrev Run (allowed : Label → Db → Bool) (start db : Db) : Prop :=
  Path Step (fun label before => allowed label before = true) start db

/-- A run given by its transactions, if all of them are allowed and none is rolled back. -/
def runAll (allowed : Label → Db → Bool) : Db → List (Env × Op) → Option Db
  | db, [] => some db
  | db, (env, op) :: rest =>
    if allowed (.call env op) db then
      match op.run env db with
      | .ok db => runAll allowed db rest
      | .error _ => none
    else none

/-- Any transaction at all. -/
def Label.any (_ : Label) (_ : Db) : Bool := true

/-- Nobody calls `fn_next_step` or `fn_submit_result` by hand. -/
def Label.driven : Label → Db → Bool
  | .call _ (.nextStep _), _ => false
  | .call _ (.submitResult _ _), _ => false
  | _, _ => true

/-- What is known of the moves that a transaction consists of. -/
def Facts : Label → Db → Flow.Event → Flow Left → Prop
  | .call _ .dispatchTasks, db => Dispatching db
  | .call env (.completeOutbound callId status body), db =>
      Completing db.flow fun key => key = (.outbound, callId) ∧ RaisesOn env db callId status body
  | .call _ (.completeSql callId _), db => Completing db.flow (· = (.sql, callId))
  | .call _ (.completeFunctionCall callId _), db => Completing db.flow (· = (.function, callId))
  | .call _ (.completeProcedureCall callId _), db => Completing db.flow (· = (.procedure, callId))
  | .call env (.watchdog timeout), db => Sweeping env db timeout
  | .call _ (.cancelSession s _), db => fun event σ => event = .cancel s ∧ σ = db.flow
  | .call _ (.nextStep t), db => Reporting t db
  | .call _ (.submitResult t _), db => fun event σ => event = .report t ∧ σ = db.flow
  | _, _ => Plain

variable {db db' start : Db} {label : Label}

theorem ok_of_map {α β : Type} {result : Except String α} {f : α → β} {value : β}
    (done : result.map f = .ok value) : ∃ found, result = .ok found ∧ f found = value := by
  cases result with
  | error message => cases done
  | ok found => exact ⟨found, rfl, Except.ok.inj done⟩

/-- Every transaction is a run of the protocol. -/
theorem Step.path (step : Step label db db') : Path Flow.Move (Facts label db) db.flow db'.flow := by
  cases step with
  | rollback => exact .refl
  | configure quiet => rw [quiet.flow]; exact .refl
  | @commit env op _ _ done =>
    cases op <;> simp only [Op.run] at done
    case createSession =>
      obtain ⟨created, opened, rfl⟩ := ok_of_map done
      exact .single (fnCreateSession_move opened) rfl
    case continueSession =>
      obtain ⟨created, opened, rfl⟩ := ok_of_map done
      exact .single (fnContinueSession_move opened) rfl
    case runSchedules =>
      obtain rfl := Except.ok.inj done
      exact fnRunSchedules_path env db
    case dispatchTasks =>
      obtain ⟨out, dispatched, rfl⟩ := ok_of_map done
      exact fnDispatchTasks_path dispatched
    case claimOutbound limit fallback =>
      obtain rfl := Except.ok.inj done
      exact fnClaimOutbound_path limit fallback
    case claimSql limit =>
      obtain rfl := Except.ok.inj done
      exact fnClaimSql_path limit
    case claimFunctionCalls limit =>
      obtain rfl := Except.ok.inj done
      exact fnClaimFunctionCalls_path limit
    case claimProcedureCalls limit =>
      obtain rfl := Except.ok.inj done
      exact fnClaimProcedureCalls_path limit
    case completeOutbound =>
      obtain ⟨out, completed, rfl⟩ := ok_of_map done
      exact fnCompleteOutbound_path completed
    case completeSql =>
      obtain ⟨out, completed, rfl⟩ := ok_of_map done
      exact fnCompleteSql_path completed
    case completeFunctionCall =>
      obtain ⟨out, completed, rfl⟩ := ok_of_map done
      exact fnCompleteFunctionCall_path completed
    case completeProcedureCall =>
      obtain ⟨out, completed, rfl⟩ := ok_of_map done
      exact fnCompleteProcedureCall_path completed
    case decideApproval =>
      obtain ⟨out, decided, rfl⟩ := ok_of_map done
      exact .single (fnDecideApproval_move decided) rfl
    case cancelSession =>
      obtain ⟨out, cancelled, rfl⟩ := ok_of_map done
      exact .single (fnCancelSession_move cancelled) ⟨rfl, rfl⟩
    case watchdog timeout =>
      obtain rfl := Except.ok.inj done
      exact fnWatchdog_path env db timeout
    case nextStep t =>
      obtain ⟨⟨next, after⟩, stepped, rfl⟩ := ok_of_map done
      cases next with
      | done reason => exact (fnNextStep_done stepped).1
      | callLlm spec => exact (fnNextStep_callLlm stepped).1.mono fun _ _ => Reporting.of_plain
    case submitResult t payload =>
      obtain ⟨⟨reply, after⟩, submitted, rfl⟩ := ok_of_map done
      exact .single (fnSubmitResult_report submitted) ⟨rfl, rfl⟩

/-- A given run is a run of any moves that cover the commits. -/
theorem runAll_path {move : Label → Db → Db → Prop}
    (commits : ∀ env op before after, op.run env before = .ok after → move (.call env op) before after)
    {allowed : Label → Db → Bool} {ops : List (Env × Op)} (done : runAll allowed start ops = some db) :
    Path move (fun label before => allowed label before = true) start db := by
  induction ops generalizing start with
  | nil =>
    obtain rfl := Option.some.inj done
    exact .refl
  | cons entry rest ih =>
    simp only [runAll] at done
    split at done
    · rename_i permitted
      split at done
      · rename_i committed
        exact (Path.single (commits _ _ _ _ committed) permitted).trans (ih done)
      · cases done
    · cases done

theorem path_reaching {move : Label → Db → Db → Prop}
    (commits : ∀ env op before after, op.run env before = .ok after → move (.call env op) before after)
    {allowed : Label → Db → Bool} {ops : List (Env × Op)} {cond : Db → Bool}
    (reaches : (runAll allowed start ops).any cond = true) :
    ∃ db, Path move (fun label before => allowed label before = true) start db ∧ cond db = true := by
  rcases done : runAll allowed start ops with _ | db
  · rw [done] at reaches
    cases reaches
  · rw [done] at reaches
    exact ⟨db, runAll_path commits done, reaches⟩

theorem run_reaching {allowed : Label → Db → Bool} {ops : List (Env × Op)} {cond : Db → Bool}
    (reaches : (runAll allowed start ops).any cond = true) : ∃ db, Run allowed start db ∧ cond db = true :=
  path_reaching (fun _ _ _ _ => .commit) reaches

/-- What every allowed move keeps holds at the end of a run of allowed transactions. -/
theorem flow_invariant {P : Flow Left → Prop} (ok : Flow.Event → Flow Left → Prop) {allowed : Label → Db → Bool}
    (keeps : ∀ event σ σ', Flow.Move event σ σ' → ok event σ → P σ → P σ')
    (facts : ∀ label db event σ, allowed label db = true → Facts label db event σ → ok event σ)
    (run : Run allowed start db) (initially : P start.flow) : P db.flow := by
  refine run.invariant (P := fun db => P db.flow) ?_ initially
  intro label before after step permitted held
  exact (step.path.mono fun event σ => facts label before event σ permitted).invariant keeps held

/-! What a transaction must be for one of its moves to be of a given kind. -/

theorem Facts.dispatch {t limit : Nat} {σ : Flow Left} (facts : Facts label db (.dispatch t limit) σ) :
    db.StepLimit t limit := by
  cases label with
  | configure => cases facts
  | call env op =>
    cases op with
    | dispatchTasks => exact facts
    | cancelSession | submitResult => cases facts.1
    | completeOutbound | completeSql | completeFunctionCall | completeProcedureCall | watchdog | nextStep =>
      exact facts.elim
    | createSession | continueSession | runSchedules | claimOutbound | claimSql | claimFunctionCalls
      | claimProcedureCalls | decideApproval => cases facts

theorem Facts.timeout {t : Nat} {σ : Flow Left} (facts : Facts label db (.timeout t) σ) :
    ∃ env timeout, label = .call env (.watchdog timeout) ∧ Sweeping env db timeout (.timeout t) σ := by
  cases label with
  | configure => cases facts
  | call env op =>
    cases op with
    | watchdog timeout => exact ⟨env, timeout, rfl, facts⟩
    | cancelSession | submitResult => cases facts.1
    | dispatchTasks | completeOutbound | completeSql | completeFunctionCall | completeProcedureCall | nextStep =>
      exact facts.elim
    | createSession | continueSession | runSchedules | claimOutbound | claimSql | claimFunctionCalls
      | claimProcedureCalls | decideApproval => cases facts

theorem Facts.cancel {s : Nat} {σ : Flow Left} (facts : Facts label db (.cancel s) σ) :
    ∃ env reason, label = .call env (.cancelSession s reason) ∧ σ = db.flow := by
  cases label with
  | configure => cases facts
  | call env op =>
    cases op with
    | cancelSession session reason =>
      obtain ⟨same, now⟩ := facts
      obtain rfl := Flow.Event.cancel.inj same
      exact ⟨env, reason, rfl, now⟩
    | submitResult => cases facts.1
    | dispatchTasks | completeOutbound | completeSql | completeFunctionCall | completeProcedureCall | nextStep
      | watchdog => exact facts.elim
    | createSession | continueSession | runSchedules | claimOutbound | claimSql | claimFunctionCalls
      | claimProcedureCalls | decideApproval => cases facts

theorem Facts.swallow {k : CallKey} {σ : Flow Left} (facts : Facts label db (.swallow k) σ) :
    σ = db.flow ∧ ((∃ env callId status body, label = .call env (.completeOutbound callId status body) ∧
      k = (.outbound, callId) ∧ RaisesOn env db callId status body) ∨ k.1 ≠ .outbound) := by
  cases label with
  | configure => cases facts
  | call env op =>
    cases op with
    | completeOutbound callId status body =>
      obtain ⟨⟨rfl, raised⟩, now⟩ := facts
      exact ⟨now, .inl ⟨env, callId, status, body, rfl, rfl, raised⟩⟩
    | completeSql | completeFunctionCall | completeProcedureCall =>
      obtain ⟨rfl, now⟩ := facts
      exact ⟨now, .inr (by simp)⟩
    | cancelSession | submitResult => cases facts.1
    | dispatchTasks | watchdog | nextStep => exact facts.elim
    | createSession | continueSession | runSchedules | claimOutbound | claimSql | claimFunctionCalls
      | claimProcedureCalls | decideApproval => cases facts

/-- The tasks that report have no outstanding call, unless somebody reports by hand. -/
theorem Facts.rests {event : Flow.Event} {σ : Flow Left} (driven : label.driven db = true)
    (facts : Facts label db event σ) : Flow.Rests event σ := by
  cases event with
  | plain | dispatch | swallow | timeout | cancel => trivial
  | report t =>
    cases label with
    | configure => cases facts
    | call env op =>
      cases op with
      | dispatchTasks => exact facts
      | completeOutbound | completeSql | completeFunctionCall | completeProcedureCall | watchdog => exact facts.elim
      | cancelSession => cases facts.1
      | nextStep | submitResult => cases driven
      | createSession | continueSession | runSchedules | claimOutbound | claimSql | claimFunctionCalls
        | claimProcedureCalls | decideApproval => cases facts

theorem Fresh.task (fresh : Fresh db) (t : Nat) : db.flow.task t = none := by
  simp only [Db.flow, fresh.tasks, Option.map_none]

theorem Fresh.session (fresh : Fresh db) (s : Nat) : db.flow.session s = none := by
  simp only [Db.flow, fresh.sessions, Option.map_none]

theorem Fresh.approval (fresh : Fresh db) (a : Nat) : db.flow.approval a = none := by
  simp only [Db.flow, fresh.approvals, Option.map_none]

/-! ### A small installation -/

/-- One agent with one provider: enough to run through a task. -/
def helperPolicy (maxSteps : Nat) (maxTurnSeconds : Option Nat) : PolicyRow where
  agentId := 0
  systemPrompt := "You help."
  maxSteps := maxSteps
  maxRetries := 3
  llmConfig := .build [("provider", .str "local"), ("model", .str "small")]
  generation := 1
  maxConcurrentTasks := 1
  maxTurnSeconds := maxTurnSeconds
  maxDelegationDepth := 3
  maxSessionTasks := 20

def helperDb (policy : PolicyRow) : Db :=
  { Db.empty with
    agents := Table.empty.insert ⟨"helper", true, false, none, .auto, .emptyObj⟩
    policies := Table.empty.insert policy
    providers := Table.empty.insert
      ⟨"local", .openaiCompat, "https://llm.example", true, false, .chat, none, false, 0, none, none⟩ }

theorem helperDb_fresh (policy : PolicyRow) : Fresh (helperDb policy) where
  sessions _ := rfl
  tasks _ := rfl
  calls := by
    rintro ⟨queue, id⟩
    cases queue <;> rfl
  approvals _ := rfl
  journal := rfl
  submits := rfl

/-- A second agent, each of the two allowed to delegate to the other. -/
def pairDb (policy : PolicyRow) : Db :=
  { helperDb policy with
    agents := (helperDb policy).agents.insert ⟨"writer", true, false, none, .auto, .emptyObj⟩
    policies := (helperDb policy).policies.insert { policy with agentId := 1 }
    permissions := (Table.empty.insert ⟨0, .agent, "writer"⟩).insert ⟨1, .agent, "helper"⟩ }

theorem pairDb_fresh (policy : PolicyRow) : Fresh (pairDb policy) :=
  have fresh := helperDb_fresh policy
  ⟨fresh.sessions, fresh.tasks, fresh.calls, fresh.approvals, fresh.journal, fresh.submits⟩

/-- The reply `{"action":"delegate","agent_name":…,"input":{},"wait":true}`. -/
def delegatesTo (name : String) : String :=
  "\x7b\"action\":\"delegate\",\"agent_name\":\"" ++ name ++ "\",\"input\":\x7b\x7d,\"wait\":true\x7d"

/-- The reply `{"action":"await_children"}`. -/
def awaitsChildren : String := "\x7b\"action\":\"await_children\"\x7d"

/-- The reply `{"action":"final_answer","answer":…}`. -/
def answers (text : String) : String :=
  "\x7b\"action\":\"final_answer\",\"answer\":\"" ++ text ++ "\"\x7d"

/-- The reply `{"action":"await_human","reason":"continue?"}`. -/
def asksHuman : String := "\x7b\"action\":\"await_human\",\"reason\":\"continue?\"\x7d"

/-- The helper may run one procedure. -/
def reportDb (policy : PolicyRow) : Db :=
  { helperDb policy with
    procedures := Table.empty.insert ⟨"report", "", some "RETURN p_args;", .built, none, 1, true, none, 0⟩
    permissions := Table.empty.insert ⟨0, .procedure, "report"⟩ }

theorem reportDb_fresh (policy : PolicyRow) : Fresh (reportDb policy) :=
  have fresh := helperDb_fresh policy
  ⟨fresh.sessions, fresh.tasks, fresh.calls, fresh.approvals, fresh.journal, fresh.submits⟩

/-- The reply `{"action":"run_procedure","procedure":"report"}`. -/
def runsReport : String := "\x7b\"action\":\"run_procedure\",\"procedure\":\"report\"\x7d"

end Allgres
