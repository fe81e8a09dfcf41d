import Allgres.Lib.Forest
import Allgres.Writes.Machine

/-! The forest that `delegate` grows. -/

namespace Allgres

open Relational Jsonb Sql Runs Forest

variable {env : Env} {mark : Mark} {σ σ' : Core}

/-- What a task says about its place in the forest. -/
structure Origin where
  session : Nat
  agent : Nat
  parent : Option Nat
  depth : Nat

def TaskRow.origin (task : TaskRow) : Origin :=
  ⟨task.sessionId, task.agentId, task.parentTaskId, task.delegationDepth⟩

def origins (tasks : Table TaskRow) (t : Nat) : Option Origin := (tasks.get? t).map TaskRow.origin

/-- What each task's origin has to do with its parent's. -/
structure Rooted (nodes : Nat → Option Origin) : Prop where
  root : ∀ t node, nodes t = some node → node.parent = none → node.depth = 0
  child : ∀ t node p, nodes t = some node → node.parent = some p →
    ∃ up, nodes p = some up ∧ p < t ∧ up.session = node.session ∧ node.depth = up.depth + 1
  apart : ∀ t node p above, nodes t = some node → node.parent = some p → Ancestry Origin.parent nodes p above →
    ∀ ancestor ∈ above, ancestor.agent ≠ node.agent

theorem Rooted.leftward {nodes : Nat → Option Origin} (rooted : Rooted nodes) : Leftward Origin.parent nodes := by
  intro t node p found up
  obtain ⟨above, here, older, -⟩ := rooted.child t node p found up
  exact ⟨older, by rw [here]; rfl⟩

/-- What the ancestry of a task looks like. -/
structure Lineal (node : Origin) (above : List Origin) : Prop where
  depth : above.length = node.depth + 1
  session : ∀ ancestor ∈ above, ancestor.session = node.session
  agents : (above.map Origin.agent).Nodup

theorem Rooted.lineal {nodes : Nat → Option Origin} (rooted : Rooted nodes) {t : Nat} {above : List Origin}
    (chain : Ancestry Origin.parent nodes t above) {node : Origin} (found : nodes t = some node) :
    Lineal node above := by
  induction chain generalizing node with
  | root here top =>
    obtain rfl := Option.some.inj (found.symm.trans here)
    have flat := rooted.root _ _ found top
    exact ⟨by simp [flat], by simp, by simp⟩
  | @child t p here rest found' up chain ih =>
    obtain rfl := Option.some.inj (found.symm.trans found')
    obtain ⟨parent, there, -, session, depth⟩ := rooted.child t node p found up
    have lineal := ih there
    refine ⟨?_, ?_, ?_⟩
    · rw [List.length_cons, lineal.depth, depth]
    · intro ancestor member
      rcases List.mem_cons.mp member with rfl | older
      · rfl
      · exact (lineal.session ancestor older).trans session
    · rw [List.map_cons, List.nodup_cons]
      refine ⟨?_, lineal.agents⟩
      intro repeated
      obtain ⟨ancestor, older, same⟩ := List.mem_map.mp repeated
      exact rooted.apart t node p rest found up chain ancestor older same

/-! ### New tasks -/

/-- A new node does not change the ancestry of the others. -/
theorem Rooted.insert {nodes : Nat → Option Origin} (rooted : Rooted nodes) {next : Nat} {new : Origin}
    (fresh : ∀ t node, nodes t = some node → t < next)
    (root : new.parent = none → new.depth = 0)
    (child : ∀ p, new.parent = some p → ∃ up, nodes p = some up ∧ up.session = new.session ∧ new.depth = up.depth + 1 ∧
      ∀ above, Ancestry Origin.parent nodes p above → ∀ ancestor ∈ above, ancestor.agent ≠ new.agent) :
    Rooted (Function.update nodes next (some new)) := by
  have old {t : Nat} {node : Origin} (found : nodes t = some node) :
      Function.update nodes next (some new) t = some node := by
    have below := fresh t node found
    rw [Function.update_of_ne (by omega), found]
  have cases {t : Nat} {node : Origin} (found : Function.update nodes next (some new) t = some node) :
      t = next ∧ node = new ∨ nodes t = some node := by
    by_cases same : t = next
    · subst same
      rw [Function.update_self] at found
      exact .inl ⟨rfl, (Option.some.inj found).symm⟩
    · rw [Function.update_of_ne same] at found
      exact .inr found
  -- The ancestry of an old node is what it was.
  have before {p : Nat} {above : List Origin} {up : Origin} (found : nodes p = some up)
      (chain : Ancestry Origin.parent (Function.update nodes next (some new)) p above) :
      Ancestry Origin.parent nodes p above := by
    obtain ⟨earlier, first⟩ := rooted.leftward.ancestry found
    rw [(first.grow fun _ _ => old).unique chain]
    exact first
  refine ⟨?_, ?_, ?_⟩
  · intro t node found top
    rcases cases found with ⟨rfl, rfl⟩ | known
    · exact root top
    · exact rooted.root t node known top
  · intro t node p found up
    rcases cases found with ⟨rfl, rfl⟩ | known
    · obtain ⟨above, here, session, depth, -⟩ := child p up
      exact ⟨above, old here, fresh p above here, session, depth⟩
    · obtain ⟨above, here, older, session, depth⟩ := rooted.child t node p known up
      exact ⟨above, old here, older, session, depth⟩
  · intro t node p above found up chain
    rcases cases found with ⟨rfl, rfl⟩ | known
    · obtain ⟨parent, here, -, -, apart⟩ := child p up
      exact apart above (before here chain)
    · obtain ⟨parent, here, -⟩ := rooted.child t node p known up
      exact rooted.apart t node p above known up (before here chain)

/-! ### The agents that `delegate` looks at -/

theorem lineage_eq {tasks : Table TaskRow} {t fuel : Nat} {above : List Origin}
    (chain : Ancestry Origin.parent (origins tasks) t above) (enough : above.length ≤ fuel) :
    lineage tasks fuel t = above.map Origin.agent := by
  induction chain generalizing fuel with
  | @root t node found top =>
    obtain ⟨task, here, rfl⟩ := Option.map_eq_some_iff.mp found
    obtain ⟨fuel, rfl⟩ := Nat.exists_eq_succ_of_ne_zero (Nat.ne_of_gt enough)
    have top : task.parentTaskId = none := top
    simp only [lineage, here, top]
    rfl
  | @child t p node rest found up chain ih =>
    obtain ⟨task, here, rfl⟩ := Option.map_eq_some_iff.mp found
    obtain ⟨fuel, rfl⟩ := Nat.exists_eq_succ_of_ne_zero (Nat.ne_of_gt (Nat.lt_of_lt_of_le (Nat.succ_pos _) enough))
    have up : task.parentTaskId = some p := up
    have inner : rest.length ≤ fuel := Nat.le_of_succ_le_succ enough
    simp only [lineage, here, up, ih inner]
    rfl

/-- An ancestry is no longer than the table. -/
theorem ancestry_length {tasks : Table TaskRow} (rooted : Rooted (origins tasks)) {t : Nat} {above : List Origin}
    (chain : Ancestry Origin.parent (origins tasks) t above) : above.length ≤ tasks.rows.length := by
  have found {t : Nat} {node : Origin} (here : origins tasks t = some node) : ∃ task, tasks.get? t = some task :=
    (Option.map_eq_some_iff.mp here).imp fun _ => And.left
  have bound := chain.length_le (fun t => tasks.count fun key _ => decide (key < t)) (by
    intro t node p _ up known
    obtain ⟨above, there⟩ := Option.isSome_iff_exists.mp known
    obtain ⟨task, here⟩ := found there
    have older : p < t := (rooted.leftward t node p (by assumption) up).1
    refine Table.count_lt_count ?_ here (by simp) (by simpa using older)
    intro key row below
    simp only [decide_eq_true_eq] at below ⊢
    omega)
  obtain ⟨node, -, here, -⟩ := chain.head
  obtain ⟨task, there⟩ := found here
  have most := @Table.count_lt_count _ tasks (fun key _ => decide (key < t)) (fun _ _ => true) t task
    (fun _ _ _ => rfl) there (by simp) rfl
  simp only [Table.count, List.countP_true] at most bound
  omega

/-! ### One write -/

theorem origins_insert (tasks : Table TaskRow) (row : TaskRow) :
    origins (tasks.insert row) = Function.update (origins tasks) tasks.next (some row.origin) := by
  funext t
  by_cases same : t = tasks.next
  · subst same
    simp only [origins, Table.get?_insert_next, Function.update_self, Option.map_some]
  · simp only [origins, Table.get?_insert, if_neg same, Function.update_of_ne same]

theorem origins_modify {tasks : Table TaskRow} {t : Nat} {old new : TaskRow} (found : tasks.get? t = some old)
    (kin : Kin old new) : origins (tasks.modify t fun _ => new) = origins tasks := by
  funext other
  simp only [origins, Table.get?_modify]
  split
  · rename_i same
    rw [same, found]
    simp only [Option.map_some, TaskRow.origin, kin.session, kin.agent, kin.parent, kin.depth]
  · rfl

/-- A write leaves the forest alone, opens a new tree, or lets a task delegate. -/
theorem Write.grows (write : Write env mark σ σ') :
    origins σ'.tasks = origins σ.tasks ∨ ∃ row, σ'.tasks = σ.tasks.insert row ∧
      (row.parentTaskId = none ∧ row.delegationDepth = 0 ∨ ∃ t parent, mark = .spawn t row ∧ Born σ t parent row) := by
  cases write with
  | task new found kin => exact .inl (origins_modify found kin)
  | openTask row opened => exact .inr ⟨row, rfl, .inl ⟨opened.root, opened.shallow⟩⟩
  | spawn child born => exact .inr ⟨child, rfl, .inr ⟨_, _, rfl, born⟩⟩
  | _ => exact .inl rfl

theorem Write.rooted (write : Write env mark σ σ') (rooted : Rooted (origins σ.tasks)) : Rooted (origins σ'.tasks) := by
  have fresh : ∀ t node, origins σ.tasks t = some node → t < σ.tasks.next := by
    intro t node found
    obtain ⟨task, here, -⟩ := Option.map_eq_some_iff.mp found
    exact Table.get?_lt_next here
  rcases write.grows with same | ⟨row, tasks, ⟨top, flat⟩ | ⟨t, parent, -, born⟩⟩
  · rw [same]
    exact rooted
  · rw [tasks, origins_insert]
    refine rooted.insert fresh (fun _ => flat) ?_
    intro p up
    rw [show row.origin.parent = none from top] at up
    cases up
  · rw [tasks, origins_insert]
    refine rooted.insert fresh ?_ ?_
    · intro top
      rw [show row.origin.parent = some t from born.above] at top
      cases top
    · intro p up
      rw [show row.origin.parent = some t from born.above] at up
      obtain rfl := Option.some.inj up
      refine ⟨parent.origin, ?_, born.session.symm, born.depth, ?_⟩
      · rw [origins, born.found]
        rfl
      · intro above chain ancestor member same
        have listed := lineage_eq chain (ancestry_length rooted chain)
        apply born.stranger
        rw [listed, show row.agentId = ancestor.agent from same.symm]
        exact List.mem_map_of_mem member

/-! ### Runs -/

/-- The chain of a task's ancestors, the task itself first: it stays in one session, its
agents are pairwise distinct, and its length gives the depth. -/
structure Chained (task : TaskRow) (above : List TaskRow) : Prop where
  depth : above.length = task.delegationDepth + 1
  session : ∀ ancestor ∈ above, ancestor.sessionId = task.sessionId
  agents : (above.map TaskRow.agentId).Nodup

/-- What the policy of the delegating agent grants a new task. -/
structure Granted (db : Db) (parent child : TaskRow) : Prop where
  depth : ∀ policy, db.policyOf parent.agentId = some policy → child.delegationDepth ≤ policy.maxDelegationDepth
  tasks : ∀ policy, db.policyOf parent.agentId = some policy →
    (db.tasks.count fun _ task => task.sessionId == child.sessionId) < policy.maxSessionTasks

theorem rooted_run {allowed : Label → Db → Bool} {start db : Db} (fresh : Fresh start) (run : Run allowed start db) :
    Rooted (origins db.tasks) := by
  have empty : origins start.tasks = fun _ => none := by
    funext t
    rw [origins, fresh.tasks]
    rfl
  refine core_invariant (P := fun σ : Core => Rooted (origins σ.tasks)) (fun _ _ => True)
    (fun _ _ _ _ write _ => write.rooted) (fun _ _ _ _ _ _ _ => trivial) ?_ run ?_
  · intro before after quiet rooted
    rw [show after.core.tasks = before.tasks from quiet.tasks]
    exact rooted
  · rw [show origins start.core.tasks = _ from empty]
    constructor
    · intro t node found
      cases found
    · intro t node p found
      cases found
    · intro t node p above found
      cases found

theorem Rooted.chained {tasks : Table TaskRow} (rooted : Rooted (origins tasks)) {t : Nat} {task : TaskRow}
    (found : tasks.get? t = some task) :
    ∃ above, Ancestry TaskRow.parentTaskId tasks.get? t above ∧ Chained task above := by
  have leftward : Leftward TaskRow.parentTaskId tasks.get? := by
    intro t task p here up
    obtain ⟨above, there, older, -⟩ := rooted.child t task.origin p (by rw [origins, here]; rfl) up
    obtain ⟨parent, known, -⟩ := Option.map_eq_some_iff.mp there
    exact ⟨older, by rw [known]; rfl⟩
  obtain ⟨above, chain⟩ := leftward.ancestry found
  have seen : Ancestry Origin.parent (origins tasks) t (above.map TaskRow.origin) := chain.map fun _ => rfl
  have lineal := rooted.lineal seen (show origins tasks t = some task.origin by rw [origins, found]; rfl)
  refine ⟨above, chain, ?_, ?_, ?_⟩
  · rw [← List.length_map (f := TaskRow.origin), lineal.depth]
    rfl
  · intro ancestor member
    exact lineal.session ancestor.origin (List.mem_map_of_mem member)
  · have agents := lineal.agents
    rwa [List.map_map] at agents

theorem Granted.congr {db : Db} {parent old child : TaskRow} (granted : Granted db parent old)
    (same : old.origin = child.origin) : Granted db parent child := by
  have depth : old.delegationDepth = child.delegationDepth := congrArg Origin.depth same
  have session : old.sessionId = child.sessionId := congrArg Origin.session same
  constructor
  · rw [← depth]
    exact granted.depth
  · rw [← session]
    exact granted.tasks

theorem Born.granted {db : Db} {t : Nat} {parent child : TaskRow} (born : Born σ t parent child)
    (tasks : σ.tasks = db.tasks) (policies : σ.policies = db.policies) : Granted db parent child := by
  have policy : policyIn σ.policies parent.agentId = db.policyOf parent.agentId := by
    rw [policies]
    rfl
  constructor
  · rw [← policy]
    exact born.shallow
  · rw [← policy, ← tasks, born.session]
    exact born.few

/-- The children that appear in one transaction were granted by the tables it started from. -/
theorem Step.granted {label : Label} {db after : Db} (step : Step label db after) {c t : Nat} {child : TaskRow}
    (now : after.tasks.get? c = some child) (new : db.tasks.get? c = none) (up : child.parentTaskId = some t) :
    ∃ parent, db.tasks.get? t = some parent ∧ Granted db parent child := by
  cases step with
  | rollback =>
    rw [new] at now
    cases now
  | configure quiet =>
    rw [quiet.tasks, new] at now
    cases now
  | @commit env op _ _ done =>
    let grants (σ : Core) : Prop := ∀ child, σ.tasks.get? c = some child → child.parentTaskId = some t →
      ∃ parent, db.tasks.get? t = some parent ∧ Granted db parent child
    have kept : grants after.core := by
      refine (Op.writes done).invariant (P := grants) ?_ ?_
      · intro mark σ σ' write marks held child now up
        have old {row : TaskRow} (before : σ.tasks.get? c = some row) (same : row.origin = child.origin) :
            ∃ parent, db.tasks.get? t = some parent ∧ Granted db parent child := by
          obtain ⟨parent, found, granted⟩ := held row before ((congrArg Origin.parent same).trans up)
          exact ⟨parent, found, granted.congr same⟩
        rcases write.grows with same | ⟨row, tasks, ⟨top, -⟩ | ⟨u, parent, rfl, born⟩⟩
        · have here : origins σ.tasks c = some child.origin := by
            rw [← same, origins, now]
            rfl
          obtain ⟨row, before, origin⟩ := Option.map_eq_some_iff.mp here
          exact old before origin
        · rw [tasks, Table.get?_insert] at now
          split at now
          · obtain rfl := Option.some.inj now
            rw [top] at up
            cases up
          · exact old now rfl
        · rw [tasks, Table.get?_insert] at now
          split at now
          · obtain rfl := Option.some.inj now
            obtain ⟨same, policies⟩ := Op.marks_spawn marks
            obtain rfl := Option.some.inj (born.above.symm.trans up)
            exact ⟨parent, by rw [← same, born.found], born.granted same policies⟩
          · exact old now rfl
      · intro child now
        rw [show db.core.tasks.get? c = none from new] at now
        cases now
    exact kept child now up

/-- Tasks form a forest at all times: a task's depth is the number of tasks above it, the
chain of these stays in one session and repeats no agent, and each new link of it was
granted by the policy of the delegating agent. -/
theorem delegation_forest {start db : Db} (fresh : Fresh start) (run : Run Label.any start db) :
    (∀ t task, db.tasks.get? t = some task →
      ∃ above, Ancestry TaskRow.parentTaskId db.tasks.get? t above ∧ Chained task above) ∧
    ∀ label after, Step label db after → ∀ c child t, after.tasks.get? c = some child → db.tasks.get? c = none →
      child.parentTaskId = some t → ∃ parent, db.tasks.get? t = some parent ∧ Granted db parent child :=
  ⟨fun _ _ found => (rooted_run fresh run).chained found, fun _ _ step _ _ _ now new up => step.granted now new up⟩

theorem delegation_forest_writer :
    ∃ db after, Run Label.any (pairDb (helperPolicy 5 none)) db ∧
      Step (.call .bare (.completeOutbound 0 (some 200) (some (delegatesTo "writer")))) db after ∧
      ∃ parent child, db.tasks.get? 0 = some parent ∧ after.tasks.get? 1 = some child ∧ Granted db parent child := by
  let hires : Op := .completeOutbound 0 (some 200) (some (delegatesTo "writer"))
  obtain ⟨db, run, asked⟩ := run_reaching (show ((runAll Label.any (pairDb (helperPolicy 5 none))
    [(.bare, .createSession 0 (some "sum up") none none), (.bare, .dispatchTasks),
      (.bare, .claimOutbound none none)]).any fun db => (db.tasks.get? 1).isNone &&
      (hires.run .bare db).toOption.any fun db' =>
        (db'.tasks.get? 1).any fun task => task.parentTaskId == some 0) = true by decide +kernel)
  simp only [Bool.and_eq_true, Option.any_eq_true, beq_iff_eq, Option.isNone_iff_eq_none] at asked
  obtain ⟨new, after, done, child, now, up⟩ := asked
  have committed : hires.run .bare db = .ok after := by
    cases ran : hires.run .bare db with
    | error message => simp [ran, Except.toOption] at done
    | ok out => simpa [ran, Except.toOption] using done
  have forest := delegation_forest (pairDb_fresh _) run
  obtain ⟨parent, found, granted⟩ := forest.2 _ after (Step.commit committed) 1 child 0 now new up
  exact ⟨db, after, run, .commit committed, parent, child, found, now, granted⟩

end Allgres
