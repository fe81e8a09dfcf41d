import Allgres.Concurrent.Deciding

/-! A proposal is applied to the policy that it was made against as long as nobody else sets the
policy between the check and the lock; and each proposal is decided once. -/

namespace Allgres.Deciding

open Relational Sql Runs

variable {σ σ' : Deciding} {x y agentId proposalId : Nat} {call : PolicyCall}

/-! ### What the calls have written -/

def policyDraft (σ : Deciding) (agentId : Nat) : Option (Nat × PolicyRow) := (σ.policies agentId).bind Cell.draft

def policyNow (σ : Deciding) (agentId : Nat) : Option PolicyRow := (σ.policies agentId).bind Cell.committed

def decisionDraft (σ : Deciding) (proposalId : Nat) : Option (Nat × Decision) := (σ.decision proposalId).draft

def decisionNow (σ : Deciding) (proposalId : Nat) : Option Decision := (σ.decision proposalId).committed

theorem policy?_eq_some {row : PolicyRow} : σ.policy? x agentId = some row ↔
    σ.policyDraft agentId = some (x, row) ∨
      (∀ mine, σ.policyDraft agentId ≠ some (x, mine)) ∧ σ.policyNow agentId = some row := by
  unfold policy? policyDraft policyNow
  cases σ.policies agentId with
  | none => simp
  | some cell => simp only [Option.bind_some, Cell.seen_eq_some]

section Writes

variable {row : PolicyRow} {cell : Cell Nat PolicyRow} {set : PolicyRow → PolicyRow}

theorem writePolicy_draft (found : σ.policies agentId = some cell) (seen : cell.seen x = some row) (other : Nat) :
    (σ.writePolicy x agentId set).policyDraft other =
      if other = agentId then some (x, set row) else σ.policyDraft other := by
  simp only [policyDraft, writePolicy]
  split_ifs with same
  · subst same
    rw [Function.update_self, found, Option.map_some, Option.bind_some, Cell.write_of_seen seen]
  · rw [Function.update_of_ne same]

@[simp] theorem writePolicy_now (other : Nat) : (σ.writePolicy x agentId set).policyNow other = σ.policyNow other := by
  simp only [policyNow, writePolicy]
  by_cases same : other = agentId
  · subst same
    rw [Function.update_self]
    cases σ.policies other with
    | none => rfl
    | some cell => exact Cell.write_committed
  · rw [Function.update_of_ne same]

theorem writeDecision_draft {decision : Decision} {set : Decision → Decision}
    (seen : (σ.decision proposalId).seen x = some decision) (other : Nat) :
    (σ.writeDecision x proposalId set).decisionDraft other =
      if other = proposalId then some (x, set decision) else σ.decisionDraft other := by
  simp only [decisionDraft, writeDecision]
  split_ifs with same
  · subst same
    rw [Function.update_self, Cell.write_of_seen seen]
  · rw [Function.update_of_ne same]

@[simp] theorem writeDecision_now {set : Decision → Decision} (other : Nat) :
    (σ.writeDecision x proposalId set).decisionNow other = σ.decisionNow other := by
  simp only [decisionNow, writeDecision]
  by_cases same : other = proposalId
  · subst same
    rw [Function.update_self]
    exact Cell.write_committed
  · rw [Function.update_of_ne same]

end Writes

/-! ### Where the calls stand -/

/-- A decision is about to be written. -/
def Settles : DecisionPoint → Prop
  | .decideAs status _ => status ≠ .pending
  | _ => True

/-- What a call relies on: the locks that it holds, and what it has found under them. -/
structure Ready (σ : Deciding) (x : Nat) (call : PolicyCall) : Prop where
  decides : ∀ proposalId decision, σ.decisionDraft proposalId = some (x, decision) →
    (∃ approve reply, call.task = .decide proposalId approve reply) ∧
    (∃ now, σ.decisionNow proposalId = some now ∧ now.status = .pending) ∧
    (decision.status = .pending ↔ call.point ≠ .commit) ∧
    (decision.status = .stale → ∀ agentId row, σ.policyDraft agentId ≠ some (x, row))
  owns : ∀ proposalId approve reply, call.task = .decide proposalId approve reply → call.point ≠ .lockProposal →
    ∃ decision, σ.decisionDraft proposalId = some (x, decision)
  locks : ∀ agentId row, σ.policyDraft agentId = some (x, row) → call.point.locking = true
  holds : ∀ agentId row, call.point.held = some (agentId, row) → σ.policyDraft agentId = some (x, row)
  subject : ∀ proposalId approve reply, call.task = .decide proposalId approve reply →
    (∀ proposal, call.point = .checkGeneration proposal → σ.proposals.get? proposalId = some proposal) ∧
    ∀ target edit, call.point.about = some (target, edit) →
      ∃ proposal, σ.proposals.get? proposalId = some proposal ∧ target = proposal.target ∧ edit = proposal.edit
  settles : Settles call.point

/-- Calls that have ended hold no locks. -/
structure Orderly (σ : Deciding) : Prop where
  idle : ∀ x, σ.call x = none → (∀ agentId row, σ.policyDraft agentId ≠ some (x, row)) ∧
    ∀ proposalId decision, σ.decisionDraft proposalId ≠ some (x, decision)
  ready : ∀ x call, σ.call x = some call → Ready σ x call

/-- A decision that has passed its check finds the generation that its proposal was made against. -/
def Timely (σ : Deciding) : Prop := ∀ x call proposalId approve reply proposal, σ.call x = some call →
  call.task = .decide proposalId approve reply → σ.proposals.get? proposalId = some proposal →
  (∀ target edit, call.point = .lockPolicy target edit →
    ∃ row, σ.policyNow target = some row ∧ row.generation = proposal.baseGeneration) ∧
  ∀ target old, call.point.held = some (target, old) → old.generation = proposal.baseGeneration

/-- A statement of another call leaves everything that the call relies on as it is. -/
structure Spares (σ σ' : Deciding) (y : Nat) : Prop where
  call : σ'.call y = σ.call y
  policies : ∀ agentId row, σ'.policyDraft agentId = some (y, row) ↔ σ.policyDraft agentId = some (y, row)
  decisions : ∀ proposalId decision,
    σ'.decisionDraft proposalId = some (y, decision) ↔ σ.decisionDraft proposalId = some (y, decision)
  undecided : ∀ proposalId decision, σ.decisionDraft proposalId = some (y, decision) →
    σ'.decisionNow proposalId = σ.decisionNow proposalId
  proposals : ∀ proposalId proposal, σ.proposals.get? proposalId = some proposal →
    σ'.proposals.get? proposalId = some proposal

theorem Ready.spared (ready : Ready σ y call) (spares : Spares σ σ' y) : Ready σ' y call where
  decides proposalId decision drafted := by
    have before := (spares.decisions proposalId decision).mp drafted
    obtain ⟨task, ⟨now, committed, pending⟩, early, stale⟩ := ready.decides proposalId decision before
    refine ⟨task, ⟨now, (spares.undecided proposalId decision before).trans committed, pending⟩, early, ?_⟩
    exact fun late agentId row written => stale late agentId row ((spares.policies agentId row).mp written)
  owns proposalId approve reply task point := by
    obtain ⟨decision, drafted⟩ := ready.owns proposalId approve reply task point
    exact ⟨decision, (spares.decisions proposalId decision).mpr drafted⟩
  locks agentId row written := ready.locks agentId row ((spares.policies agentId row).mp written)
  holds agentId row held := (spares.policies agentId row).mpr (ready.holds agentId row held)
  subject proposalId approve reply task := by
    obtain ⟨checks, sets⟩ := ready.subject proposalId approve reply task
    refine ⟨fun proposal point => spares.proposals proposalId proposal (checks proposal point), ?_⟩
    intro target edit about
    obtain ⟨proposal, found, same⟩ := sets target edit about
    exact ⟨proposal, spares.proposals proposalId proposal found, same⟩
  settles := ready.settles

/-- A step of one call: the others are spared, and it is ready for its next statement. -/
theorem Orderly.of_spares (held : Orderly σ) (x : Nat) (others : ∀ y, y ≠ x → Spares σ σ' y)
    (idle : σ'.call x = none → (∀ agentId row, σ'.policyDraft agentId ≠ some (x, row)) ∧
      ∀ proposalId decision, σ'.decisionDraft proposalId ≠ some (x, decision))
    (ready : ∀ call, σ'.call x = some call → Ready σ' x call) : Orderly σ' where
  idle y none := by
    by_cases same : y = x
    · subst same
      exact idle none
    · have spares := others y same
      rw [spares.call] at none
      obtain ⟨policies, decisions⟩ := held.idle y none
      exact ⟨fun agentId row written => policies agentId row ((spares.policies agentId row).mp written),
        fun proposalId decision drafted => decisions proposalId decision ((spares.decisions proposalId decision).mp drafted)⟩
  ready y call some := by
    by_cases same : y = x
    · subst same
      exact ready call some
    · have spares := others y same
      rw [spares.call] at some
      exact (held.ready y call some).spared spares

theorem unconcerned {P : Nat → PolicyEdit → Prop} {point : DecisionPoint} (absent : point.about = none) (target : Nat)
    (edit : PolicyEdit) (about : point.about = some (target, edit)) : P target edit := by
  rw [absent] at about
  cases about

theorem unlocked {P : Nat → PolicyRow → Prop} {point : DecisionPoint} (absent : point.held = none) (target : Nat)
    (old : PolicyRow) (held : point.held = some (target, old)) : P target old := by
  rw [absent] at held
  cases held

/-! ### What each statement spares -/

theorem Spares.refl (σ : Deciding) (y : Nat) : Spares σ σ y :=
  ⟨rfl, fun _ _ => .rfl, fun _ _ => .rfl, fun _ _ _ => rfl, fun _ _ found => found⟩

theorem Spares.setCall (spares : Spares σ σ' y) (other : y ≠ x) (now : Option PolicyCall) :
    Spares σ (σ'.setCall x now) y :=
  { spares with call := (Function.update_of_ne other _ _).trans spares.call }

theorem spares_writePolicy {cell : Cell Nat PolicyRow} {row : PolicyRow} {set : PolicyRow → PolicyRow} (other : y ≠ x)
    (found : σ.policies agentId = some cell) (free : cell.free x = true) (seen : cell.seen x = some row) :
    Spares σ (σ.writePolicy x agentId set) y := by
  refine ⟨rfl, fun target version => ?_, fun _ _ => .rfl, fun _ _ _ => rfl, fun _ _ found => found⟩
  rw [writePolicy_draft found seen]
  split_ifs with same
  · subst same
    constructor
    · intro mine
      exact absurd (congrArg Prod.fst (Option.some.inj mine)).symm other
    · intro drafted
      rw [policyDraft, found, Option.bind_some] at drafted
      exact absurd drafted (Cell.not_drafted_of_free free other)
  · exact .rfl

theorem spares_writeDecision {decision : Decision} {set : Decision → Decision} (other : y ≠ x)
    (free : (σ.decision proposalId).free x = true) (seen : (σ.decision proposalId).seen x = some decision) :
    Spares σ (σ.writeDecision x proposalId set) y := by
  refine ⟨rfl, fun _ _ => .rfl, fun target version => ?_, fun _ _ _ => writeDecision_now _, fun _ _ found => found⟩
  rw [writeDecision_draft seen]
  split_ifs with same
  · subst same
    constructor
    · intro mine
      exact absurd (congrArg Prod.fst (Option.some.inj mine)).symm other
    · intro drafted
      exact absurd drafted (Cell.not_drafted_of_free free other)
  · exact .rfl

theorem spares_commit (other : y ≠ x) : Spares σ (σ.commit x) y where
  call := rfl
  policies agentId row := by
    simp only [policyDraft, commit]
    cases σ.policies agentId with
    | none => simp
    | some cell =>
      rw [Option.map_some, Option.bind_some, Option.bind_some]
      exact ⟨fun drafted => (Cell.commit_draft drafted).1, fun drafted => by rwa [Cell.commit_other drafted other]⟩
  decisions proposalId decision :=
    ⟨fun drafted => (Cell.commit_draft drafted).1, fun drafted => by
      simp only [decisionDraft, commit] at drafted ⊢
      rwa [Cell.commit_other drafted other]⟩
  undecided proposalId decision drafted := by
    simp only [decisionNow, decisionDraft, commit] at drafted ⊢
    rw [Cell.commit_other drafted other]
  proposals _ _ found := found

theorem spares_rollback (other : y ≠ x) : Spares σ (σ.rollback x) y where
  call := rfl
  policies agentId row := by
    simp only [policyDraft, rollback]
    cases σ.policies agentId with
    | none => simp
    | some cell =>
      rw [Option.map_some, Option.bind_some, Option.bind_some]
      exact ⟨fun drafted => (Cell.rollback_draft drafted).1, fun drafted => Cell.rollback_other drafted other⟩
  decisions proposalId decision :=
    ⟨fun drafted => (Cell.rollback_draft drafted).1, fun drafted => Cell.rollback_other drafted other⟩
  undecided _ _ _ := rfl
  proposals _ _ found := found

/-! ### What each statement preserves -/

theorem setCall_call (σ : Deciding) (x : Nat) (now : Option PolicyCall) : (σ.setCall x now).call x = now :=
  Function.update_self ..

theorem goto_call (σ : Deciding) (x : Nat) (call : PolicyCall) (point : DecisionPoint) :
    (σ.goto x call point).call x = some { call with point := point } := setCall_call ..

/-- A statement that leaves the call ready for its next one. -/
theorem Orderly.advance (held : Orderly σ) {point : DecisionPoint} (others : ∀ y, y ≠ x → Spares σ σ' y)
    (ready : Ready (σ'.goto x call point) x { call with point := point }) : Orderly (σ'.goto x call point) := by
  refine held.of_spares x (fun y other => (others y other).setCall other _) ?_ ?_
  · intro none
    rw [goto_call] at none
    cases none
  · intro after now
    rw [goto_call] at now
    obtain rfl := Option.some.inj now
    exact ready

/-- A statement that writes neither a policy nor a decision. -/
theorem Orderly.read (held : Orderly σ) (history : List (Cell Nat PolicyRow)) (here : σ.call x = some call)
    {point : DecisionPoint} (first : call.point ≠ .lockProposal) (last : call.point ≠ .commit) (next : point ≠ .commit)
    (settles : Settles point) (locking : call.point.locking = true → point.locking = true)
    (holds : ∀ agentId row, point.held = some (agentId, row) → σ.policyDraft agentId = some (x, row))
    (subject : ∀ proposalId approve reply, call.task = .decide proposalId approve reply →
      (∀ proposal, point = .checkGeneration proposal → σ.proposals.get? proposalId = some proposal) ∧
      ∀ target edit, point.about = some (target, edit) →
        ∃ proposal, σ.proposals.get? proposalId = some proposal ∧ target = proposal.target ∧ edit = proposal.edit) :
    Orderly (Deciding.goto { σ with history := history } x call point) := by
  have ready := held.ready x call here
  have spares (y : Nat) : Spares σ { σ with history := history } y :=
    ⟨rfl, fun _ _ => .rfl, fun _ _ => .rfl, fun _ _ _ => rfl, fun _ _ found => found⟩
  refine held.advance (fun y _ => spares y) ⟨fun proposalId decision drafted => ?_, ?_, ?_, holds, subject, settles⟩
  · obtain ⟨task, now, early, stale⟩ := ready.decides proposalId decision drafted
    exact ⟨task, now, iff_of_true (early.mpr last) next, stale⟩
  · exact fun proposalId approve reply task _ => ready.owns proposalId approve reply task first
  · exact fun agentId row written => locking (ready.locks agentId row written)

theorem Orderly.raise (held : Orderly σ) (x : Nat) : Orderly (σ.raise x) := by
  refine held.of_spares x (fun y other => (spares_rollback other).setCall other _) (fun _ => ⟨?_, ?_⟩) ?_
  · intro agentId row written
    simp only [policyDraft, Deciding.raise, Deciding.setCall, rollback] at written
    cases found : σ.policies agentId with
    | none => simp [found] at written
    | some cell =>
      rw [found, Option.map_some, Option.bind_some] at written
      exact (Cell.rollback_draft written).2 rfl
  · intro proposalId decision drafted
    exact (Cell.rollback_draft drafted).2 rfl
  · intro call now
    rw [Deciding.raise, setCall_call] at now
    cases now

theorem Orderly.commit (held : Orderly σ) (x : Nat) : Orderly ((σ.commit x).setCall x none) := by
  refine held.of_spares x (fun y other => (spares_commit other).setCall other _) (fun _ => ⟨?_, ?_⟩) ?_
  · intro agentId row written
    simp only [policyDraft, Deciding.setCall, Deciding.commit] at written
    cases found : σ.policies agentId with
    | none => simp [found] at written
    | some cell =>
      rw [found, Option.map_some, Option.bind_some] at written
      exact (Cell.commit_draft written).2.1 rfl
  · intro proposalId decision drafted
    exact (Cell.commit_draft drafted).2.1 rfl
  · intro call now
    rw [setCall_call] at now
    cases now

theorem Orderly.begin (held : Orderly σ) (idle : σ.call x = none) (now : Time) (task : PolicyTask) :
    Orderly (σ.setCall x (some ⟨now, task, task.entry⟩)) := by
  obtain ⟨policies, decisions⟩ := held.idle x idle
  refine held.of_spares x (fun y other => (Spares.refl σ y).setCall other _) ?_ ?_
  · intro none
    rw [setCall_call] at none
    cases none
  · intro call started
    rw [setCall_call] at started
    obtain rfl := Option.some.inj started
    refine ⟨fun proposalId decision drafted => absurd drafted (decisions proposalId decision),
      ?_, fun agentId row written => absurd written (policies agentId row), ?_, ?_, ?_⟩
    · intro proposalId approve reply asked later
      obtain rfl : task = .decide proposalId approve reply := asked
      exact absurd rfl later
    · intro agentId row held
      cases task <;> cases held
    · intro proposalId approve reply asked
      obtain rfl : task = .decide proposalId approve reply := asked
      exact ⟨fun _ next => (by cases next), unconcerned rfl⟩
    · cases task <;> trivial

/-- The lock of a proposal that nobody has decided. -/
theorem Orderly.lockProposal (held : Orderly σ) (here : σ.call x = some call) {approve : Option Bool}
    {reply : Option String} (task : call.task = .decide proposalId approve reply) (point : call.point = .lockProposal)
    {proposal : ProposalRow} {decision : Decision} (found : σ.proposals.get? proposalId = some proposal)
    (free : (σ.decision proposalId).free x = true) (seen : (σ.decision proposalId).seen x = some decision)
    (pending : decision.status = .pending) {next : DecisionPoint} (holds : next.held = none) (about : next.about = none)
    (last : next ≠ .commit) (settles : Settles next) (checks : ∀ other, next = .checkGeneration other → other = proposal) :
    Orderly ((σ.writeDecision x proposalId id).goto x call next) := by
  have ready := held.ready x call here
  refine held.advance (fun y other => spares_writeDecision other free seen) ⟨?_, ?_, ?_, ?_, ?_, settles⟩
  · intro other mine drafted
    rw [show ((σ.writeDecision x proposalId id).goto x call next).decisionDraft other =
      (σ.writeDecision x proposalId id).decisionDraft other from rfl, writeDecision_draft seen] at drafted
    split_ifs at drafted with same
    · subst same
      obtain rfl : decision = mine := congrArg Prod.snd (Option.some.inj drafted)
      refine ⟨⟨approve, reply, task⟩, ?_, iff_of_true pending last, fun stale => ?_⟩
      · rcases Cell.seen_eq_some.mp seen with own | ⟨-, committed⟩
        · obtain ⟨-, ⟨now, committed, undecided⟩, -⟩ := ready.decides other decision own
          exact ⟨now, (writeDecision_now other).trans committed, undecided⟩
        · exact ⟨decision, (writeDecision_now other).trans committed, pending⟩
      · rw [pending] at stale
        cases stale
    · obtain ⟨⟨_, _, mine⟩, -⟩ := ready.decides other mine drafted
      rw [task] at mine
      exact absurd (PolicyTask.decide.inj mine).1.symm same
  · intro other _ _ mine _
    obtain rfl := (PolicyTask.decide.inj (task.symm.trans mine)).1
    exact ⟨decision, (writeDecision_draft seen proposalId).trans (if_pos rfl)⟩
  · intro agentId row written
    have locking := ready.locks agentId row written
    rw [point] at locking
    cases locking
  · intro agentId row none
    rw [holds] at none
    cases none
  · intro other _ _ mine
    obtain rfl := (PolicyTask.decide.inj (task.symm.trans mine)).1
    refine ⟨fun version next => ?_, fun target edit none => ?_⟩
    · obtain rfl := checks version next
      exact found
    · rw [about] at none
      cases none

/-- A call that may still raise has not decided its proposal as stale. -/
theorem Ready.not_stale (ready : Ready σ x call) (last : call.point ≠ .commit) {decision : Decision}
    (drafted : σ.decisionDraft proposalId = some (x, decision)) : decision.status ≠ .stale := by
  obtain ⟨-, -, early, -⟩ := ready.decides proposalId decision drafted
  rw [early.mpr last]
  decide

theorem Orderly.writePolicy (held : Orderly σ) (here : σ.call x = some call) {cell : Cell Nat PolicyRow}
    {row : PolicyRow} {set : PolicyRow → PolicyRow} (found : σ.policies agentId = some cell)
    (free : cell.free x = true) (seen : cell.seen x = some row) (first : call.point ≠ .lockProposal)
    (last : call.point ≠ .commit) {next : DecisionPoint} (settles : Settles next)
    (going : next = .commit → ∀ proposalId approve reply, call.task ≠ .decide proposalId approve reply)
    (locking : next.locking = true)
    (holds : ∀ target old, next.held = some (target, old) → target = agentId ∧ old = set row)
    (checks : ∀ proposal, next ≠ .checkGeneration proposal)
    (about : ∀ target edit, next.about = some (target, edit) → call.point.about = some (target, edit)) :
    Orderly ((σ.writePolicy x agentId set).goto x call next) := by
  have ready := held.ready x call here
  refine held.advance (fun y other => spares_writePolicy other found free seen) ⟨?_, ?_, fun _ _ _ => locking, ?_, ?_, settles⟩
  · intro proposalId decision drafted
    obtain ⟨task, now, early, -⟩ := ready.decides proposalId decision drafted
    obtain ⟨approve, reply, asked⟩ := task
    refine ⟨⟨approve, reply, asked⟩, now, iff_of_true (early.mpr last) fun ends => ?_, fun stale => absurd stale (ready.not_stale last drafted)⟩
    exact going ends proposalId approve reply asked
  · exact fun proposalId approve reply task _ => ready.owns proposalId approve reply task first
  · intro target old locked
    obtain ⟨rfl, rfl⟩ := holds target old locked
    exact (writePolicy_draft found seen target).trans (if_pos rfl)
  · intro proposalId approve reply task
    obtain ⟨-, sets⟩ := ready.subject proposalId approve reply task
    exact ⟨fun proposal next => absurd next (checks proposal), fun target edit next => sets target edit (about target edit next)⟩

/-- The row of a lock that the call holds. -/
theorem Ready.locked (ready : Ready σ x call) {row : PolicyRow} (holds : call.point.held = some (agentId, row)) :
    ∃ cell, σ.policies agentId = some cell ∧ cell.free x = true ∧ cell.seen x = some row := by
  have drafted := ready.holds agentId row holds
  obtain ⟨cell, found, mine⟩ := Option.bind_eq_some_iff.mp drafted
  exact ⟨cell, found, by simp [Cell.free, mine], Cell.seen_eq_some.mpr (.inl mine)⟩

theorem Orderly.decideAs (held : Orderly σ) (here : σ.call x = some call) {approve : Option Bool}
    {given reply : Option String} (task : call.task = .decide proposalId approve given) {status : DecisionStatus}
    (point : call.point = .decideAs status reply) :
    Orderly ((σ.writeDecision x proposalId fun _ => ⟨status, some call.now, reply⟩).goto x call .commit) := by
  have ready := held.ready x call here
  obtain ⟨decision, drafted⟩ := ready.owns proposalId approve given task (by simp [point])
  have seen : (σ.decision proposalId).seen x = some decision := Cell.seen_eq_some.mpr (.inl drafted)
  have free : (σ.decision proposalId).free x = true := by
    rw [decisionDraft] at drafted
    simp [Cell.free, drafted]
  refine held.advance (fun y other => spares_writeDecision other free seen)
    ⟨?_, ?_, fun _ _ _ => rfl, unlocked rfl, fun _ _ _ _ => ⟨fun _ next => (by cases next), unconcerned rfl⟩, trivial⟩
  · intro other mine written
    rw [show ((σ.writeDecision x proposalId fun _ => ⟨status, some call.now, reply⟩).goto x call .commit).decisionDraft
      other = (σ.writeDecision x proposalId fun _ => ⟨status, some call.now, reply⟩).decisionDraft other from rfl,
      writeDecision_draft seen] at written
    split_ifs at written with same
    · subst same
      obtain rfl : (⟨status, some call.now, reply⟩ : Decision) = mine := congrArg Prod.snd (Option.some.inj written)
      obtain ⟨-, ⟨now, committed, pending⟩, -⟩ := ready.decides other decision drafted
      refine ⟨⟨approve, given, task⟩, ⟨now, (writeDecision_now other).trans committed, pending⟩,
        iff_of_false ?_ fun last => last rfl, ?_⟩
      · have settles := ready.settles
        rw [point] at settles
        exact settles
      rintro (rfl : status = .stale) agentId row locked
      have locking := ready.locks agentId row locked
      rw [point] at locking
      cases locking
    · obtain ⟨⟨_, _, mine⟩, -⟩ := ready.decides other mine written
      rw [task] at mine
      exact absurd (PolicyTask.decide.inj mine).1.symm same
  · intro other _ _ mine _
    obtain rfl := (PolicyTask.decide.inj (task.symm.trans mine)).1
    exact ⟨_, (writeDecision_draft seen proposalId).trans (if_pos rfl)⟩

/-- A step that is none of the calls'. -/
theorem Orderly.of_all_spares (held : Orderly σ) (all : ∀ y, Spares σ σ' y) : Orderly σ' := by
  refine held.of_spares 0 (fun y _ => all y) (fun none => ?_) fun call now => ?_
  · rw [(all 0).call] at none
    obtain ⟨policies, decisions⟩ := held.idle 0 none
    exact ⟨fun agentId row written => policies agentId row (((all 0).policies agentId row).mp written),
      fun proposalId decision drafted => decisions proposalId decision (((all 0).decisions proposalId decision).mp drafted)⟩
  · rw [(all 0).call] at now
    exact (held.ready 0 call now).spared (all 0)

theorem next_held (proposal : ProposalRow) (approve : Option Bool) (reply : Option String) :
    (proposal.next approve reply).held = none := by
  unfold ProposalRow.next
  split_ifs <;> rfl

theorem next_about (proposal : ProposalRow) (approve : Option Bool) (reply : Option String) :
    (proposal.next approve reply).about = none := by
  unfold ProposalRow.next
  split_ifs <;> rfl

theorem next_checks {proposal other : ProposalRow} {approve : Option Bool} {reply : Option String}
    (next : proposal.next approve reply = .checkGeneration other) : other = proposal := by
  unfold ProposalRow.next at next
  split_ifs at next
  exact (DecisionPoint.checkGeneration.inj next).symm

theorem next_settles (proposal : ProposalRow) (approve : Option Bool) (reply : Option String) :
    Settles (proposal.next approve reply) ∧ proposal.next approve reply ≠ .commit := by
  unfold ProposalRow.next
  split_ifs
  · exact ⟨trivial, fun ends => (by cases ends)⟩
  · exact ⟨trivial, fun ends => (by cases ends)⟩
  · exact ⟨by simp [Settles], fun ends => (by cases ends)⟩

theorem after_policy (task : PolicyTask) : task.next.locking = true ∧ task.next.held = none ∧ task.next.about = none ∧
    ∀ proposal, task.next ≠ .checkGeneration proposal := by
  cases task with
  | decide _ _ _ => exact ⟨rfl, rfl, rfl, fun _ next => (by cases next)⟩
  | setPolicy _ _ => exact ⟨rfl, rfl, rfl, fun _ next => (by cases next)⟩
  | rollback _ _ => exact ⟨rfl, rfl, rfl, fun _ next => (by cases next)⟩

theorem after_policy_settles (task : PolicyTask) : Settles task.next ∧
    (task.next = .commit → ∀ proposalId approve reply, task ≠ .decide proposalId approve reply) := by
  cases task with
  | decide _ _ _ => exact ⟨by simp [PolicyTask.next, Settles], fun ends => (by cases ends)⟩
  | setPolicy _ _ => exact ⟨trivial, fun _ _ _ _ same => (by cases same)⟩
  | rollback _ _ => exact ⟨trivial, fun _ _ _ _ same => (by cases same)⟩

theorem Orderly.continueCall (held : Orderly σ) (here : σ.call x = some call)
    (done : σ.continueCall x call = some σ') : Orderly σ' := by
  have ready := held.ready x call here
  unfold Deciding.continueCall at done
  split at done
  · rename_i proposalId approve reply point task
    split at done
    · obtain rfl := Option.some.inj done
      exact held.raise x
    · rename_i proposal found
      split_ifs at done with free
      split at done
      · obtain rfl := Option.some.inj done
        exact held.raise x
      · rename_i decision seen
        split_ifs at done with decided
        · obtain rfl := Option.some.inj done
          exact held.raise x
        · obtain rfl := Option.some.inj done
          have pending : decision.status = .pending := not_not.mp decided
          exact held.lockProposal here task point found free seen pending (next_held ..) (next_about ..)
            (next_settles ..).2 (next_settles ..).1 fun other next => next_checks next
  · rename_i proposal point
    split_ifs at done with current
    · obtain rfl := Option.some.inj done
      refine held.read σ.history here (by simp [point]) (by simp [point]) (fun ends => (by cases ends)) trivial
        (by simp [point, DecisionPoint.locking]) (unlocked rfl) ?_
      intro proposalId approve reply task
      refine ⟨fun _ next => (by cases next), fun target edit about => ?_⟩
      obtain ⟨rfl, rfl⟩ := Prod.mk.inj (Option.some.inj about)
      exact ⟨proposal, (ready.subject proposalId approve reply task).1 proposal point, rfl, rfl⟩
    · obtain rfl := Option.some.inj done
      exact held.read σ.history here (by simp [point]) (by simp [point]) (fun ends => (by cases ends))
        (by simp [Settles]) (by simp [point, DecisionPoint.locking]) (unlocked rfl) fun _ _ _ _ => ⟨fun _ next => (by cases next), unconcerned rfl⟩
  · rename_i target generation point task
    split at done
    · obtain rfl := Option.some.inj done
      exact held.raise x
    · obtain rfl := Option.some.inj done
      refine held.read σ.history here (by simp [point]) (by simp [point]) (fun ends => (by cases ends)) trivial
        (by simp [point, DecisionPoint.locking]) (unlocked rfl) ?_
      intro proposalId approve reply other
      rw [task] at other
      cases other
  · rename_i target edit point
    split at done
    · obtain rfl := Option.some.inj done
      exact held.raise x
    · rename_i cell found
      split_ifs at done with free
      split at done
      · obtain rfl := Option.some.inj done
        exact held.raise x
      · rename_i old seen
        obtain rfl := Option.some.inj done
        refine held.writePolicy here found free seen (by simp [point]) (by simp [point]) trivial
          (fun ends => (by cases ends)) rfl ?_ (fun _ next => (by cases next)) ?_
        · intro other version locked
          obtain ⟨rfl, rfl⟩ := Prod.mk.inj (Option.some.inj locked)
          exact ⟨rfl, rfl⟩
        · intro other asked about
          rw [point]
          exact about
  · rename_i target edit old point
    have moves (history : List (Cell Nat PolicyRow)) :
        Orderly (Deciding.goto { σ with history := history } x call (.updatePolicy target edit old)) := by
      refine held.read history here (by simp [point]) (by simp [point]) (fun ends => (by cases ends)) trivial
        (fun _ => rfl) ?_ ?_
      · intro other version locked
        exact ready.holds other version (by rw [point]; exact locked)
      · intro proposalId approve reply task
        exact ⟨fun _ next => (by cases next), fun other asked about => (ready.subject proposalId approve reply task).2 other asked
          (by rw [point]; exact about)⟩
    split_ifs at done
    · obtain rfl := Option.some.inj done
      exact moves σ.history
    · obtain rfl := Option.some.inj done
      exact held.raise x
    · obtain rfl := Option.some.inj done
      exact moves _
  · rename_i target edit old point
    split at done
    · obtain rfl := Option.some.inj done
      exact held.raise x
    · obtain rfl := Option.some.inj done
      obtain ⟨cell, found, free, seen⟩ := ready.locked (by rw [point]; rfl)
      obtain ⟨locking, holds, about, checks⟩ := after_policy call.task
      obtain ⟨settles, going⟩ := after_policy_settles call.task
      refine held.writePolicy here found free seen (by simp [point]) (by simp [point]) settles going locking ?_
        checks ?_
      · intro other version locked
        rw [holds] at locked
        cases locked
      · intro other asked set
        rw [about] at set
        cases set
  · rename_i status reply proposalId approve given point task
    obtain rfl := Option.some.inj done
    exact held.decideAs here task point
  · obtain rfl := Option.some.inj done
    exact held.commit x
  · cases done

theorem Orderly.step {label : Label} (held : Orderly σ) (step : Step label σ σ') : Orderly σ' := by
  cases step with
  | call now task idle => exact held.begin idle now task
  | statement here done => exact held.continueCall here done
  | applied status reply here point settled =>
    have settles : status ≠ .pending := by
      rcases settled with rfl | rfl <;> decide
    exact held.read σ.history here (by simp [point]) (by simp [point]) (fun ends => (by cases ends)) settles
      (by simp [point, DecisionPoint.locking]) (unlocked rfl) fun _ _ _ _ => ⟨fun _ next => (by cases next), unconcerned rfl⟩
  | abort => exact held.raise _
  | propose proposal =>
    exact held.of_all_spares fun y => ⟨rfl, fun _ _ => .rfl, fun _ _ => .rfl, fun _ _ _ => rfl,
      fun _ _ found => Table.get?_insert_old _ found⟩
  | @create _ agentId policy absent =>
    refine held.of_all_spares fun y => ⟨rfl, fun other row => ?_, fun _ _ => .rfl, fun _ _ _ => rfl, fun _ _ found => found⟩
    simp only [policyDraft]
    by_cases same : other = agentId
    · subst same
      rw [Function.update_self, absent]
      simp
    · rw [Function.update_of_ne same]

theorem orderly_ofSite (site : Site) : Orderly (ofSite site) where
  idle x _ := by
    refine ⟨fun agentId row written => ?_, fun _ _ drafted => (by cases drafted)⟩
    simp only [policyDraft, ofSite] at written
    cases held : site.db.policyOf agentId with
    | none => simp [held] at written
    | some policy => simp [held] at written
  ready x call none := by cases none

theorem orderly_run {site : Site} (run : Path Step (fun _ _ => True) (ofSite site) σ) : Orderly σ :=
  run.invariant (fun _ _ _ taken _ held => held.step taken) (orderly_ofSite site)

/-! ### In time -/

/-- A step of one call: the generations that the others have checked stay, and its own are in time. -/
theorem Timely.of_step (timely : Timely σ) (x : Nat) (calls : ∀ y, y ≠ x → σ'.call y = σ.call y)
    (proposals : σ'.proposals = σ.proposals)
    (stays : ∀ y call proposalId approve reply target edit row, y ≠ x → σ.call y = some call →
      call.task = .decide proposalId approve reply → call.point = .lockPolicy target edit →
      σ.policyNow target = some row → ∃ after, σ'.policyNow target = some after ∧ after.generation = row.generation)
    (mine : ∀ call proposalId approve reply proposal, σ'.call x = some call →
      call.task = .decide proposalId approve reply → σ.proposals.get? proposalId = some proposal →
      (∀ target edit, call.point = .lockPolicy target edit →
        ∃ row, σ'.policyNow target = some row ∧ row.generation = proposal.baseGeneration) ∧
      ∀ target old, call.point.held = some (target, old) → old.generation = proposal.baseGeneration) : Timely σ' := by
  intro y call proposalId approve reply proposal here task found
  rw [proposals] at found
  by_cases same : y = x
  · subst same
    exact mine call proposalId approve reply proposal here task found
  · rw [calls y same] at here
    obtain ⟨checked, holds⟩ := timely y call proposalId approve reply proposal here task found
    refine ⟨fun target edit point => ?_, holds⟩
    obtain ⟨row, now, generation⟩ := checked target edit point
    obtain ⟨after, later, same⟩ := stays y call proposalId approve reply target edit row same here task point now
    exact ⟨after, later, same.trans generation⟩

/-- A statement that commits nothing. -/
theorem Timely.advance (timely : Timely σ) {point : DecisionPoint} (calls : σ'.call = σ.call)
    (proposals : σ'.proposals = σ.proposals) (now : ∀ agentId, σ'.policyNow agentId = σ.policyNow agentId)
    (mine : ∀ proposalId approve reply proposal, call.task = .decide proposalId approve reply →
      σ.proposals.get? proposalId = some proposal →
      (∀ target edit, point = .lockPolicy target edit →
        ∃ row, σ.policyNow target = some row ∧ row.generation = proposal.baseGeneration) ∧
      ∀ target old, point.held = some (target, old) → old.generation = proposal.baseGeneration) :
    Timely (σ'.goto x call point) := by
  refine timely.of_step x (fun y other => ?_) proposals ?_ ?_
  · exact (Function.update_of_ne other _ _).trans (congrFun calls y)
  · intro y _ _ _ _ target _ row _ _ _ _ held
    exact ⟨row, (now target).trans held, rfl⟩
  · intro after proposalId approve reply proposal here task found
    rw [goto_call] at here
    obtain rfl := Option.some.inj here
    obtain ⟨checked, holds⟩ := mine proposalId approve reply proposal task found
    refine ⟨fun target edit next => ?_, holds⟩
    obtain ⟨row, held, generation⟩ := checked target edit next
    exact ⟨row, (now target).trans held, generation⟩

theorem rollback_now (σ : Deciding) (x agentId : Nat) : (σ.rollback x).policyNow agentId = σ.policyNow agentId := by
  simp only [policyNow, rollback]
  cases σ.policies agentId with
  | none => rfl
  | some cell => rfl

theorem Timely.raise (timely : Timely σ) (x : Nat) : Timely (σ.raise x) := by
  refine timely.of_step x (fun y other => Function.update_of_ne other _ _) rfl ?_ ?_
  · intro y _ _ _ _ target _ row _ _ _ _ held
    exact ⟨row, (rollback_now σ x target).trans held, rfl⟩
  · intro call _ _ _ _ here
    rw [Deciding.raise, setCall_call] at here
    cases here

theorem Timely.commit (timely : Timely σ) (here : σ.call x = some call) (point : call.point = .commit)
    (undisturbed : Undisturbed (.statement x) σ) : Timely ((σ.commit x).setCall x none) := by
  refine timely.of_step x (fun y other => Function.update_of_ne other _ _) rfl ?_ ?_
  · intro y waiting proposalId approve reply target edit row other there task locking held
    have checked := undisturbed y waiting call proposalId approve reply target edit
    simp only [policyNow, Deciding.setCall, Deciding.commit] at held ⊢
    cases found : σ.policies target with
    | none => simp [found] at held
    | some cell =>
      rw [found, Option.bind_some] at held
      rw [Option.map_some, Option.bind_some, Cell.commit]
      split
      · rename_i mine own
        have drafted := Cell.ownDraft_eq_some.mp own
        exact ⟨mine, rfl, checked cell row mine other here point there task locking found held drafted⟩
      · exact ⟨row, held, rfl⟩
  · intro after _ _ _ _ none
    rw [setCall_call] at none
    cases none

theorem Timely.checkGeneration (timely : Timely σ) (held : Orderly σ) (here : σ.call x = some call)
    {proposal : ProposalRow} (point : call.point = .checkGeneration proposal)
    (current : (σ.policy? x proposal.target).map PolicyRow.generation = some proposal.baseGeneration) :
    Timely (σ.goto x call (.lockPolicy proposal.target proposal.edit)) := by
  have ready := held.ready x call here
  refine timely.advance rfl rfl (fun _ => rfl) fun proposalId approve reply other task found =>
    ⟨?_, unlocked rfl⟩
  intro target edit next
  obtain ⟨rfl, rfl⟩ := DecisionPoint.lockPolicy.inj next
  obtain rfl := Option.some.inj (((ready.subject proposalId approve reply task).1 proposal point).symm.trans found)
  obtain ⟨row, seen, generation⟩ := Option.map_eq_some_iff.mp current
  rcases policy?_eq_some.mp seen with mine | ⟨-, now⟩
  · have locking := ready.locks proposal.target row mine
    rw [point] at locking
    cases locking
  · exact ⟨row, now, generation⟩

/-- The row under the lock is the one that was checked. -/
theorem Timely.lockPolicy (timely : Timely σ) (held : Orderly σ) (here : σ.call x = some call) {target : Nat}
    {edit : PolicyEdit} (point : call.point = .lockPolicy target edit) {cell : Cell Nat PolicyRow} {old : PolicyRow}
    (found : σ.policies target = some cell) (seen : cell.seen x = some old) :
    Timely ((σ.writePolicy x target id).goto x call (.fileVersion target edit old)) := by
  have ready := held.ready x call here
  refine timely.advance rfl rfl writePolicy_now fun proposalId approve reply proposal task listed =>
    ⟨fun _ _ next => (by cases next), ?_⟩
  intro other version locked
  obtain ⟨rfl, rfl⟩ := Prod.mk.inj (Option.some.inj locked)
  obtain ⟨checked, -⟩ := timely x call proposalId approve reply proposal here task listed
  obtain ⟨row, now, generation⟩ := checked target edit point
  rw [policyNow, found, Option.bind_some] at now
  rcases Cell.seen_eq_some.mp seen with mine | ⟨-, committed⟩
  · have locking := ready.locks target old (by rw [policyDraft, found, Option.bind_some, mine])
    rw [point] at locking
    cases locking
  · obtain rfl := Option.some.inj (now.symm.trans committed)
    exact generation

theorem Timely.fileVersion (timely : Timely σ) (here : σ.call x = some call) {target : Nat} {edit : PolicyEdit}
    {old : PolicyRow} (point : call.point = .fileVersion target edit old) (history : List (Cell Nat PolicyRow)) :
    Timely (Deciding.goto { σ with history := history } x call (.updatePolicy target edit old)) := by
  refine timely.advance rfl rfl (fun _ => rfl) fun proposalId approve reply proposal task listed =>
    ⟨fun _ _ next => (by cases next), ?_⟩
  intro other version locked
  refine (timely x call proposalId approve reply proposal here task listed).2 other version ?_
  rw [point]
  exact locked

/-- A statement after which the call is about no policy any more, or has not checked one yet. -/
theorem Timely.leave (timely : Timely σ) {point : DecisionPoint} (calls : σ'.call = σ.call)
    (proposals : σ'.proposals = σ.proposals) (now : ∀ agentId, σ'.policyNow agentId = σ.policyNow agentId)
    (about : point.about = none) (holds : point.held = none) : Timely (σ'.goto x call point) := by
  refine timely.advance calls proposals now fun _ _ _ _ _ _ => ⟨fun target edit next => ?_, fun target old locked => ?_⟩
  · rw [next] at about
    cases about
  · rw [holds] at locked
    cases locked

theorem Timely.continueCall (timely : Timely σ) (held : Orderly σ) (here : σ.call x = some call)
    (undisturbed : Undisturbed (.statement x) σ) (done : σ.continueCall x call = some σ') : Timely σ' := by
  unfold Deciding.continueCall at done
  split at done
  · rename_i proposalId approve reply point task
    split at done
    · obtain rfl := Option.some.inj done
      exact timely.raise x
    · rename_i proposal found
      split_ifs at done with free
      split at done
      · obtain rfl := Option.some.inj done
        exact timely.raise x
      · split_ifs at done
        · obtain rfl := Option.some.inj done
          exact timely.raise x
        · obtain rfl := Option.some.inj done
          exact timely.leave rfl rfl (fun _ => rfl) (next_about ..) (next_held ..)
  · rename_i proposal point
    split_ifs at done with current
    · obtain rfl := Option.some.inj done
      exact timely.checkGeneration held here point current
    · obtain rfl := Option.some.inj done
      exact timely.leave rfl rfl (fun _ => rfl) rfl rfl
  · rename_i target generation point task
    split at done
    · obtain rfl := Option.some.inj done
      exact timely.raise x
    · obtain rfl := Option.some.inj done
      refine timely.advance rfl rfl (fun _ => rfl) fun _ _ _ _ other _ => ?_
      rw [task] at other
      cases other
  · rename_i target edit point
    split at done
    · obtain rfl := Option.some.inj done
      exact timely.raise x
    · rename_i cell found
      split_ifs at done with free
      split at done
      · obtain rfl := Option.some.inj done
        exact timely.raise x
      · rename_i old seen
        obtain rfl := Option.some.inj done
        exact timely.lockPolicy held here point found seen
  · rename_i target edit old point
    split_ifs at done
    · obtain rfl := Option.some.inj done
      exact timely.fileVersion here point σ.history
    · obtain rfl := Option.some.inj done
      exact timely.raise x
    · obtain rfl := Option.some.inj done
      exact timely.fileVersion here point _
  · split at done
    · obtain rfl := Option.some.inj done
      exact timely.raise x
    · obtain rfl := Option.some.inj done
      obtain ⟨-, holds, about, -⟩ := after_policy call.task
      exact timely.leave rfl rfl writePolicy_now about holds
  · obtain rfl := Option.some.inj done
    exact timely.leave rfl rfl (fun _ => rfl) rfl rfl
  · rename_i point
    obtain rfl := Option.some.inj done
    exact timely.commit here point undisturbed
  · cases done

theorem Timely.step {label : Label} (timely : Timely σ) (held : Orderly σ) (step : Step label σ σ')
    (undisturbed : Undisturbed label σ) : Timely σ' := by
  cases step with
  | @call _ x now task idle =>
    refine timely.of_step x (fun y other => Function.update_of_ne other _ _) rfl ?_ ?_
    · intro _ _ _ _ _ _ _ row _ _ _ _ held
      exact ⟨row, held, rfl⟩
    · intro call proposalId approve reply proposal here asked _
      rw [setCall_call] at here
      obtain rfl := Option.some.inj here
      obtain rfl : task = .decide proposalId approve reply := asked
      exact ⟨fun _ _ next => (by cases next), unlocked rfl⟩
  | statement here done => exact timely.continueCall held here undisturbed done
  | applied => exact timely.leave rfl rfl (fun _ => rfl) rfl rfl
  | abort => exact timely.raise _
  | propose added =>
    intro x call proposalId approve reply proposal here task found
    -- a call that is past its check has found its proposal before
    have known {target : Nat} {edit : PolicyEdit} (about : call.point.about = some (target, edit)) :
        σ.proposals.get? proposalId = some proposal := by
      obtain ⟨before, listed, -⟩ := ((held.ready x call here).subject proposalId approve reply task).2 target edit about
      obtain rfl := Option.some.inj ((Table.get?_insert_old added listed).symm.trans found)
      exact listed
    refine ⟨fun target edit point => ?_, fun target old locked => ?_⟩
    · exact (timely x call proposalId approve reply proposal here task (known (by rw [point]; rfl))).1 target edit point
    · have about : ∃ edit, call.point.about = some (target, edit) := by
        revert locked
        cases call.point <;> intro locked <;> cases locked <;> exact ⟨_, rfl⟩
      obtain ⟨edit, about⟩ := about
      exact (timely x call proposalId approve reply proposal here task (known about)).2 target old locked
  | @create _ agentId policy absent =>
    intro x call proposalId approve reply proposal here task found
    obtain ⟨checked, holds⟩ := timely x call proposalId approve reply proposal here task found
    refine ⟨fun target edit point => ?_, holds⟩
    obtain ⟨row, now, generation⟩ := checked target edit point
    refine ⟨row, ?_, generation⟩
    have other : target ≠ agentId := by
      rintro rfl
      rw [policyNow, absent] at now
      cases now
    simp only [policyNow]
    rw [Function.update_of_ne other]
    exact now

theorem timely_ofSite (site : Site) : Timely (ofSite site) := by
  intro x call _ _ _ _ none
  cases none

theorem Timely.inTime (timely : Timely σ) (held : Orderly σ) : σ.InTime := by
  intro x now proposalId approve reply proposal target edit old row here listed seen
  have ready := held.ready x _ here
  obtain ⟨found, listed', rfl, rfl⟩ := (ready.subject proposalId approve reply rfl).2 target edit rfl
  obtain rfl := Option.some.inj (listed'.symm.trans listed)
  refine ⟨rfl, rfl, ?_⟩
  -- the call reads the row that it has locked
  have locked := ready.holds found.target old rfl
  obtain rfl : row = old := by
    rcases policy?_eq_some.mp seen with mine | ⟨others, -⟩
    · exact congrArg Prod.snd (Option.some.inj (mine.symm.trans locked))
    · exact absurd locked (others old)
  exact (timely x _ proposalId approve reply found here rfl listed).2 found.target row rfl

/-- While nobody else commits a new generation between the check and the lock, whatever the order of the statements
of the calls, each approved change is applied to the policy of the generation that it was made against. -/
theorem proposals_applied_in_time {site : Site} (run : Path Step Undisturbed (ofSite site) σ) : σ.InTime := by
  have both : Orderly σ ∧ Timely σ := by
    refine run.invariant (P := fun σ => Orderly σ ∧ Timely σ) ?_ ⟨orderly_ofSite site, timely_ofSite site⟩
    intro label before after taken allowed held
    exact ⟨held.1.step taken, held.2.step held.1 taken allowed⟩
  exact both.2.inTime both.1

/-! ### Runs of calls -/

/-- The calls' statements in the given order of backends. -/
def interleave (permitted : DecisionPoint → Bool) (σ : Deciding) : List Nat → Option Deciding
  | [] => some σ
  | x :: rest => (σ.call x).bind fun call =>
    if permitted call.point then (σ.continueCall x call).bind fun σ => σ.interleave permitted rest else none

theorem interleave_path {permitted : DecisionPoint → Bool} {ok : Label → Deciding → Prop} {order : List Nat}
    (allowed : ∀ (σ : Deciding) x call, σ.call x = some call → permitted call.point = true → ok (.statement x) σ)
    (done : σ.interleave permitted order = some σ') : Path Step ok σ σ' := by
  induction order generalizing σ with
  | nil =>
    obtain rfl := Option.some.inj done
    exact .refl
  | cons x rest ih =>
    obtain ⟨call, here, continued⟩ := Option.bind_eq_some_iff.mp done
    split_ifs at continued with may
    obtain ⟨after, statement, others⟩ := Option.bind_eq_some_iff.mp continued
    exact (Path.single (.statement here statement) (allowed σ x call here may)).trans (ih others)

def early : DecisionPoint → Bool
  | .commit => false
  | _ => true

theorem undisturbed_early (σ : Deciding) (x : Nat) (call : PolicyCall) (here : σ.call x = some call)
    (may : early call.point = true) : Undisturbed (.statement x) σ := by
  intro _ _ writer _ _ _ _ _ _ _ _ _ there point
  obtain rfl := Option.some.inj (there.symm.trans here)
  rw [point] at may
  cases may

/-- An agent has a policy, and proposes to reword it. -/
def proposedSite : Site :=
  { Site.empty with
    db := { Db.empty with
      policies := Table.empty.insert (defaultPolicy 0)
      proposals := Table.empty.insert
        ⟨0, none, .policyChange, .build [("system_prompt", .str "Watch.")], none, 1, none, none⟩ } }

def decides : PolicyCall := ⟨0, .decide 0 none none, .lockProposal⟩

def rewords : PolicyCall := ⟨0, .setPolicy 0 { PolicyEdit.none with prompt := some "Look." }, .lockPolicy 0
  { PolicyEdit.none with prompt := some "Look." }⟩

/-- The proposal is approved while somebody else sets the policy. -/
def bothCalled : Deciding := ((ofSite proposedSite).setCall 0 (some decides)).setCall 1 (some rewords)

theorem bothCalled_path {ok : Label → Deciding → Prop} (calls : ∀ x task σ, ok (.call x task) σ) :
    Path Step ok (ofSite proposedSite) bothCalled :=
  (Path.single (.call 0 (.decide 0 none none) rfl) (calls ..)).trans (.single (.call 0 (.setPolicy 0 _) rfl) (calls ..))

/-- A backend is about to update a policy of the generation for the proposal. -/
def updates (σ : Deciding) (x proposalId generation : Nat) : Bool :=
  (σ.call x).any fun call => match call.point, call.task with
    | .updatePolicy _ _ old, .decide decided _ _ => decided == proposalId && old.generation == generation
    | _, _ => false

theorem updates_iff {generation : Nat} : σ.updates x proposalId generation = true ↔
    ∃ now approve reply target edit old, σ.call x = some ⟨now, .decide proposalId approve reply, .updatePolicy target edit old⟩ ∧
      old.generation = generation := by
  rw [updates, Option.any_eq_true]
  constructor
  · rintro ⟨⟨now, task, point⟩, here, at_⟩
    dsimp only at at_
    split at at_
    · rename_i target edit old decided approve reply
      simp only [Bool.and_eq_true, beq_iff_eq] at at_
      obtain ⟨rfl, generation⟩ := at_
      exact ⟨now, approve, reply, target, edit, old, here, generation⟩
    · cases at_
  · rintro ⟨now, approve, reply, target, edit, old, here, rfl⟩
    exact ⟨_, here, by simp⟩

theorem proposals_applied_in_time_reworded : ∃ σ : Deciding, σ.updates 0 0 1 = true ∧ σ.InTime := by
  have checked : (bothCalled.interleave early [0, 0, 0, 0]).any (fun σ => σ.updates 0 0 1) = true := by decide +kernel
  obtain ⟨σ, interleaved, updates⟩ := Option.any_eq_true .. |>.mp checked
  have run := (@bothCalled_path Undisturbed fun _ _ _ => trivial).trans (interleave_path undisturbed_early interleaved)
  exact ⟨σ, updates, proposals_applied_in_time run⟩

/-- The other call has committed after the check, and before the lock. -/
theorem not_always_in_time : ¬ ∀ σ, Path Step (fun _ _ => True) (ofSite proposedSite) σ → σ.InTime := by
  intro claimed
  have checked : (bothCalled.interleave (fun _ => true) [0, 0, 1, 1, 1, 1, 0, 0]).any (fun σ => σ.updates 0 0 2 &&
      (σ.proposals.get? 0).any fun proposal => proposal.baseGeneration == 1) = true := by decide +kernel
  obtain ⟨σ, interleaved, both⟩ := Option.any_eq_true .. |>.mp checked
  obtain ⟨updates, made⟩ := Bool.and_eq_true_iff.mp both
  obtain ⟨made, listed, base⟩ := Option.any_eq_true .. |>.mp made
  have run := (@bothCalled_path (fun _ _ => True) fun _ _ _ => trivial).trans
    (interleave_path (fun _ _ _ _ _ => trivial) interleaved)
  have held := orderly_run run
  obtain ⟨now, approve, reply, target, edit, old, here, generation⟩ := updates_iff.mp updates
  have ready := held.ready 0 _ here
  have seen : σ.policy? 0 target = some old := policy?_eq_some.mpr (.inl (ready.holds target old rfl))
  have based := (claimed σ run 0 now 0 approve reply made target edit old old here listed seen).2.2
  rw [generation, beq_iff_eq.mp base] at based
  cases based

/-! ### Decided once -/

theorem Orderly.staleWritesNothing (held : Orderly σ) : σ.StaleWritesNothing := by
  intro x proposalId decision drafted stale agentId cell row found written
  cases here : σ.call x with
  | none => exact (held.idle x here).2 proposalId decision drafted
  | some call =>
    obtain ⟨-, -, -, writesNothing⟩ := (held.ready x call here).decides proposalId decision drafted
    refine writesNothing stale agentId row ?_
    rw [policyDraft, found, Option.bind_some]
    exact written

/-- Only a commit changes the decisions that others read. -/
theorem continueCall_now (done : σ.continueCall x call = some σ') :
    (call.point = .commit ∧ σ' = (σ.commit x).setCall x none) ∨ ∀ proposalId, σ'.decisionNow proposalId = σ.decisionNow proposalId := by
  unfold Deciding.continueCall at done
  split at done
  · right
    split at done
    · obtain rfl := Option.some.inj done
      exact fun _ => rfl
    · split_ifs at done
      split at done
      · obtain rfl := Option.some.inj done
        exact fun _ => rfl
      · split_ifs at done
        · obtain rfl := Option.some.inj done
          exact fun _ => rfl
        · obtain rfl := Option.some.inj done
          exact writeDecision_now
  · right
    split_ifs at done <;> obtain rfl := Option.some.inj done <;> exact fun _ => rfl
  · right
    split at done <;> obtain rfl := Option.some.inj done <;> exact fun _ => rfl
  · right
    split at done
    · obtain rfl := Option.some.inj done
      exact fun _ => rfl
    · split_ifs at done
      split at done <;> obtain rfl := Option.some.inj done <;> exact fun _ => rfl
  · right
    split_ifs at done <;> obtain rfl := Option.some.inj done <;> exact fun _ => rfl
  · right
    split at done <;> obtain rfl := Option.some.inj done <;> exact fun _ => rfl
  · right
    obtain rfl := Option.some.inj done
    exact writeDecision_now
  · rename_i point
    exact .inl ⟨point, (Option.some.inj done).symm⟩
  · cases done

/-- Decisions that are committed stay as they are. -/
def Final (σ σ' : Deciding) : Prop := ∀ proposalId decision, σ.decisionNow proposalId = some decision →
  decision.status ≠ .pending → σ'.decisionNow proposalId = some decision

theorem Orderly.final_commit (held : Orderly σ) (here : σ.call x = some call) : Final σ ((σ.commit x).setCall x none) := by
  intro proposalId decision now decided
  change ((σ.decision proposalId).commit x).committed = some decision
  unfold Cell.commit
  split
  · rename_i mine own
    obtain ⟨-, ⟨pending, committed, undecided⟩, -⟩ :=
      (held.ready x call here).decides proposalId mine (Cell.ownDraft_eq_some.mp own)
    obtain rfl := Option.some.inj (committed.symm.trans now)
    exact absurd undecided decided
  · exact now

theorem Orderly.final_step {label : Label} (held : Orderly σ) (step : Step label σ σ') : Final σ σ' := by
  cases step with
  | statement here done =>
    rcases continueCall_now done with ⟨-, rfl⟩ | same
    · exact held.final_commit here
    · exact fun proposalId decision now _ => (same proposalId).trans now
  | call | applied | abort | propose | create => exact fun _ _ now _ => now

theorem Orderly.final_run (held : Orderly σ) (run : Path Step (fun _ _ => True) σ σ') : Final σ σ' := by
  refine run.relates (P := Orderly) ?_ ?_ (fun _ _ _ taken _ held => held.step taken)
    (fun _ _ _ taken _ held => held.final_step taken) held
  · exact fun _ _ _ now _ => now
  · exact fun _ _ _ first second proposalId decision now decided =>
      second proposalId decision (first proposalId decision now decided) decided

/-- A call that has locked its proposal finds it pending. -/
theorem Orderly.undecided (held : Orderly σ) (here : σ.call x = some call) {approve : Option Bool} {reply : Option String}
    (task : call.task = .decide proposalId approve reply) (point : call.point ≠ .lockProposal) :
    ∃ now, σ.decisionNow proposalId = some now ∧ now.status = .pending := by
  have ready := held.ready x call here
  obtain ⟨decision, drafted⟩ := ready.owns proposalId approve reply task point
  exact (ready.decides proposalId decision drafted).2.1

/-- What a call that decides has committed. -/
theorem Orderly.decided (held : Orderly σ) (here : σ.call x = some call) {approve : Option Bool} {reply : Option String}
    (task : call.task = .decide proposalId approve reply) (point : call.point = .commit) :
    ∃ decision, ((σ.commit x).setCall x none).decisionNow proposalId = some decision ∧ decision.status ≠ .pending := by
  have ready := held.ready x call here
  obtain ⟨decision, drafted⟩ := ready.owns proposalId approve reply task (by simp [point])
  obtain ⟨-, -, settled, -⟩ := ready.decides proposalId decision drafted
  refine ⟨decision, ?_, fun pending => settled.mp pending point⟩
  change ((σ.decision proposalId).commit x).committed = some decision
  rw [Cell.commit, Cell.ownDraft_eq_some.mpr drafted]
  rfl

/-- Whatever the order of the statements, a call that finds its proposal stale has written no policy, and once a call
has committed a decision no other call gets past the lock of the same proposal. -/
theorem proposals_decided_once {site : Site} (run : Path Step (fun _ _ => True) (ofSite site) σ) :
    σ.StaleWritesNothing ∧ ∀ x call proposalId approve reply, σ.call x = some call →
      call.task = .decide proposalId approve reply → call.point = .commit →
      ∀ σ', Path Step (fun _ _ => True) ((σ.commit x).setCall x none) σ' →
        ∀ y other approve reply, σ'.call y = some other → other.task = .decide proposalId approve reply →
          other.point = .lockProposal := by
  have held := orderly_run run
  refine ⟨held.staleWritesNothing, ?_⟩
  intro x call proposalId approve reply here task point σ' later y other approve' reply' there again
  obtain ⟨decision, committed, decided⟩ := held.decided here task point
  have final := (held.commit x).final_run later proposalId decision committed decided
  by_contra past
  have held' : Orderly σ' := later.invariant (fun _ _ _ taken _ held => held.step taken) (held.commit x)
  obtain ⟨now, undecided, pending⟩ := held'.undecided there again past
  obtain rfl := Option.some.inj (final.symm.trans undecided)
  exact decided pending

theorem proposals_decided_once_reworded : ∃ σ : Deciding, σ.updates 0 0 2 = true ∧ σ.StaleWritesNothing := by
  have checked : (bothCalled.interleave (fun _ => true) [0, 0, 1, 1, 1, 1, 0, 0]).any (fun σ => σ.updates 0 0 2) = true := by
    decide +kernel
  obtain ⟨σ, interleaved, updates⟩ := Option.any_eq_true .. |>.mp checked
  have run := (@bothCalled_path (fun _ _ => True) fun _ _ _ => trivial).trans
    (interleave_path (fun _ _ _ _ _ => trivial) interleaved)
  exact ⟨σ, updates, (proposals_decided_once run).1⟩

end Allgres.Deciding
