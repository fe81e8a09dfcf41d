import Allgres.Dashboard.Governance
import Allgres.Lib.Versions
import Allgres.Lib.Runs

/-! `fn_decide_proposal`, `fn_set_policy` and `fn_rollback_policy` statement by statement, next to
other calls of them. -/

namespace Allgres

open Relational Jsonb Sql

/-- What a backend has been asked for. -/
inductive PolicyTask
  | decide (proposalId : Nat) (approve : Option Bool) (reply : Option String)
  | setPolicy (agentId : Nat) (edit : PolicyEdit)
  | rollback (agentId : Nat) (generation : Int)

/-- The statement that comes next, with the variables it needs: the row `r` of the proposal, and
the row `p_row` of the policy that `fn_set_policy` has read. -/
inductive DecisionPoint
  | lockProposal
  | checkGeneration (proposal : ProposalRow)
  | applyOther
  | findVersion
  | lockPolicy (target : Nat) (edit : PolicyEdit)
  | fileVersion (target : Nat) (edit : PolicyEdit) (old : PolicyRow)
  | updatePolicy (target : Nat) (edit : PolicyEdit) (old : PolicyRow)
  | decideAs (status : DecisionStatus) (reply : Option String)
  | commit

/-- The policy that `fn_set_policy` is about to set, and the edit. -/
def DecisionPoint.about : DecisionPoint → Option (Nat × PolicyEdit)
  | lockPolicy target edit | fileVersion target edit _ | updatePolicy target edit _ => some (target, edit)
  | _ => none

/-- The row of a policy that is locked and not yet written. -/
def DecisionPoint.held : DecisionPoint → Option (Nat × PolicyRow)
  | fileVersion target _ old | updatePolicy target _ old => some (target, old)
  | _ => none

/-- The call may hold the lock of a policy. -/
def DecisionPoint.locking : DecisionPoint → Bool
  | fileVersion _ _ _ | updatePolicy _ _ _ | decideAs .approved _ | commit => true
  | _ => false

structure PolicyCall where
  now : Time
  task : PolicyTask
  point : DecisionPoint

/-- What follows the check that a proposal is pending. -/
def ProposalRow.next (proposal : ProposalRow) (approve : Option Bool) (reply : Option String) : DecisionPoint :=
  if approve.getD true then if proposal.kind = .policyChange then .checkGeneration proposal else .applyOther
  else .decideAs .rejected reply

/-- What follows the call of `fn_set_policy`. -/
def PolicyTask.next : PolicyTask → DecisionPoint
  | decide _ _ reply => .decideAs .approved reply
  | _ => .commit

def PolicyTask.reply : PolicyTask → Option String
  | decide _ _ reply => reply
  | _ => none

/-- The statement with which a call begins. -/
def PolicyTask.entry : PolicyTask → DecisionPoint
  | decide _ _ _ => .lockProposal
  | setPolicy agentId edit => .lockPolicy agentId edit
  | rollback _ _ => .findVersion

/-- What `fn_decide_proposal` passes on to `fn_set_policy`. -/
def ProposalRow.edit (proposal : ProposalRow) : PolicyEdit :=
  { PolicyEdit.none with
    prompt := proposal.proposedChanges.getText? "system_prompt"
    llmConfig := proposal.proposedChanges.get? "llm_config" }

def ProposalRow.target (proposal : ProposalRow) : Nat := proposal.targetAgentId.getD proposal.agentId

/-- The tables that the calls work on, and the calls that have not ended. A policy is found by its
primary key `agent_id`. -/
structure Deciding where
  policies : Nat → Option (Cell Nat PolicyRow)
  history : List (Cell Nat PolicyRow)
  proposals : Table ProposalRow
  decision : Nat → Cell Nat Decision
  call : Nat → Option PolicyCall

namespace Deciding

/-- The tables while no call is open. -/
def ofSite (site : Site) : Deciding where
  policies agentId := (site.db.policyOf agentId).map .stored
  history := site.db.policyHistory.rows.map fun row => .stored row.2.policy
  proposals := site.db.proposals
  decision proposalId := .stored (site.proposalDecision proposalId)
  call _ := none

def setCall (σ : Deciding) (x : Nat) (call : Option PolicyCall) : Deciding :=
  { σ with call := Function.update σ.call x call }

def goto (σ : Deciding) (x : Nat) (call : PolicyCall) (point : DecisionPoint) : Deciding :=
  σ.setCall x (some { call with point := point })

def commit (σ : Deciding) (x : Nat) : Deciding :=
  { σ with
    policies := fun agentId => (σ.policies agentId).map (Cell.commit x)
    history := σ.history.map (Cell.commit x)
    decision := fun proposalId => (σ.decision proposalId).commit x }

def rollback (σ : Deciding) (x : Nat) : Deciding :=
  { σ with
    policies := fun agentId => (σ.policies agentId).map (Cell.rollback x)
    history := σ.history.map (Cell.rollback x)
    decision := fun proposalId => (σ.decision proposalId).rollback x }

/-- An exception ends the call and takes back what it has written. -/
def raise (σ : Deciding) (x : Nat) : Deciding := (σ.rollback x).setCall x none

/-- The row of a policy that a statement of the transaction reads. -/
def policy? (σ : Deciding) (x agentId : Nat) : Option PolicyRow := (σ.policies agentId).bind fun cell => cell.seen x

/-- The version on file that a statement of the transaction reads. -/
def version? (σ : Deciding) (x agentId : Nat) (generation : Int) : Option PolicyRow :=
  (σ.history.filterMap fun cell => cell.seen x).find? fun row =>
    row.agentId == agentId && (row.generation : Int) == generation

/-- `UPDATE` of a policy whose lock the transaction has got; `FOR UPDATE` writes the row as it is. -/
def writePolicy (σ : Deciding) (x agentId : Nat) (set : PolicyRow → PolicyRow) : Deciding :=
  { σ with policies := Function.update σ.policies agentId ((σ.policies agentId).map (Cell.write x set)) }

def writeDecision (σ : Deciding) (x proposalId : Nat) (set : Decision → Decision) : Deciding :=
  { σ with decision := Function.update σ.decision proposalId ((σ.decision proposalId).write x set) }

def insertVersion (σ : Deciding) (x : Nat) (old : PolicyRow) : Deciding :=
  { σ with history := σ.history ++ [.inserted x old] }

/-- A row of `policy_history` with the key of the given one. -/
def sameVersion (old row : PolicyRow) : Bool := row.agentId == old.agentId && row.generation == old.generation

/-- The next statement of a call. A statement waits while another transaction holds the lock of the
row that it is about, or has inserted a row with the same key. -/
def continueCall (σ : Deciding) (x : Nat) (call : PolicyCall) : Option Deciding :=
  match call.point, call.task with
  | .lockProposal, .decide proposalId approve reply => match σ.proposals.get? proposalId with
    | none => some (σ.raise x)
    | some proposal =>
      if (σ.decision proposalId).free x then match (σ.decision proposalId).seen x with
        | none => some (σ.raise x)
        | some decision =>
          if decision.status ≠ .pending then some (σ.raise x)
          else some ((σ.writeDecision x proposalId id).goto x call (proposal.next approve reply))
      else none
  | .checkGeneration proposal, _ =>
    if (σ.policy? x proposal.target).map PolicyRow.generation = some proposal.baseGeneration then
      some (σ.goto x call (.lockPolicy proposal.target proposal.edit))
    else some (σ.goto x call (.decideAs .stale
      (some (call.task.reply.getD "base policy changed since this was proposed"))))
  | .findVersion, .rollback agentId generation => match σ.version? x agentId generation with
    | none => some (σ.raise x)
    | some old => some (σ.goto x call (.lockPolicy agentId old.restoring))
  | .lockPolicy target edit, _ => match σ.policies target with
    | none => some (σ.raise x)
    | some cell =>
      if cell.free x then match cell.seen x with
        | none => some (σ.raise x)
        | some old => some ((σ.writePolicy x target id).goto x call (.fileVersion target edit old))
      else none
  | .fileVersion target edit old, _ =>
    if (old.edited edit).sameAs old then some (σ.goto x call (.updatePolicy target edit old))
    else if σ.history.any fun cell => (cell.seen x).any (sameVersion old) then some (σ.raise x)
    else if σ.history.any fun cell => cell.draft.any fun draft => draft.1 != x && sameVersion old draft.2 then none
    else some ((σ.insertVersion x old).goto x call (.updatePolicy target edit old))
  | .updatePolicy target edit old, task =>
    if !edit.valid then some (σ.raise x)
    else some ((σ.writePolicy x target fun row => { old.edited edit with
      generation := if (old.edited edit).sameAs old then row.generation else row.generation + 1 }).goto x call task.next)
  | .decideAs status reply, .decide proposalId _ _ =>
    some ((σ.writeDecision x proposalId fun _ => ⟨status, some call.now, reply⟩).goto x call .commit)
  | .commit, _ => some ((σ.commit x).setCall x none)
  | _, _ => none

inductive Label
  | call (x : Nat) (task : PolicyTask)
  | statement (x : Nat)
  | applied (x : Nat)
  | abort (x : Nat)
  | propose
  | create (agentId : Nat)

/-- `applied` is what a proposal of another kind does, which none of these tables shows but for the
policy of an agent that it creates; `propose` is a new proposal, and `create` a new agent. -/
inductive Step : Label → Deciding → Deciding → Prop
  | call {σ : Deciding} {x : Nat} (now : Time) (task : PolicyTask) : σ.call x = none →
      Step (.call x task) σ (σ.setCall x (some ⟨now, task, task.entry⟩))
  | statement {σ σ' : Deciding} {x : Nat} {call : PolicyCall} : σ.call x = some call →
      σ.continueCall x call = some σ' → Step (.statement x) σ σ'
  | applied {σ : Deciding} {x : Nat} {call : PolicyCall} (status : DecisionStatus) (reply : Option String) :
      σ.call x = some call → call.point = .applyOther → status = .approved ∨ status = .stale →
      Step (.applied x) σ (σ.goto x call (.decideAs status reply))
  | abort {σ : Deciding} {x : Nat} : Step (.abort x) σ (σ.raise x)
  | propose {σ : Deciding} (proposal : ProposalRow) :
      Step .propose σ { σ with proposals := σ.proposals.insert proposal }
  | create {σ : Deciding} {agentId : Nat} (policy : PolicyRow) : σ.policies agentId = none →
      Step (.create agentId) σ { σ with policies := Function.update σ.policies agentId (some (.stored policy)) }

/-- No call is about to update a policy for a proposal that was made against another generation. -/
def InTime (σ : Deciding) : Prop := ∀ x now proposalId approve reply proposal target edit old row,
  σ.call x = some ⟨now, .decide proposalId approve reply, .updatePolicy target edit old⟩ →
  σ.proposals.get? proposalId = some proposal → σ.policy? x target = some row →
  target = proposal.target ∧ edit = proposal.edit ∧ row.generation = proposal.baseGeneration

/-- A call that finds its proposal stale has written no policy. -/
def StaleWritesNothing (σ : Deciding) : Prop := ∀ x proposalId decision,
  (σ.decision proposalId).draft = some (x, decision) → decision.status = .stale →
  ∀ agentId cell row, σ.policies agentId = some cell → cell.draft ≠ some (x, row)

/-- Another call that commits does not give a new generation to a policy between the check of a
decision about it and the lock. -/
def Undisturbed : Label → Deciding → Prop
  | .statement y, σ => ∀ x call writer proposalId approve reply target edit cell before after, x ≠ y →
      σ.call y = some writer → writer.point = .commit → σ.call x = some call →
      call.task = .decide proposalId approve reply → call.point = .lockPolicy target edit →
      σ.policies target = some cell → cell.committed = some before → cell.draft = some (y, after) →
      after.generation = before.generation
  | _, _ => True

end Deciding

end Allgres
