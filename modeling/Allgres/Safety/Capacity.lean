import Allgres.Writes.Machine

/-! An agent has no more active tasks than its policy has slots. -/

namespace Allgres

open Relational Jsonb Sql Runs

variable {env : Env} {mark : Mark} {σ σ' : Core}

/-- The tasks that take a slot of the agent. -/
def activeTasks (tasks : Table TaskRow) (agentId : Nat) : Nat :=
  tasks.count fun _ task => task.agentId == agentId && task.status.active

/-! ### The tasks of a write -/

theorem activeTasks_insert (tasks : Table TaskRow) {row : TaskRow} (queued : row.status = .queued) (agentId : Nat) :
    activeTasks (tasks.insert row) agentId = activeTasks tasks agentId := by
  unfold activeTasks
  rw [Table.count_insert, queued]
  simp [TaskStatus.active]

theorem activeTasks_modify {tasks : Table TaskRow} {t : Nat} {old new : TaskRow} (found : tasks.get? t = some old)
    (kin : Kin old new) (agentId : Nat) :
    activeTasks (tasks.modify t fun _ => new) agentId +
        (if old.agentId = agentId ∧ old.status.active = true then 1 else 0) =
      activeTasks tasks agentId + if old.agentId = agentId ∧ new.status.active = true then 1 else 0 := by
  have counted := Table.count_modify (fun _ => new)
    (fun _ task => task.agentId == agentId && task.status.active) found
  simpa only [activeTasks, kin.agent, Bool.and_eq_true, beq_iff_eq] using counted

/-- Only the start of a task takes a slot. -/
theorem Shift.active {t : Nat} {old new : TaskRow} (shift : Shift σ t old new mark) :
    (new.status.active = true → old.status.active = true) ∨
      mark = .start t ∧ old.status.active = false ∧ new.status.active = true := by
  cases shift with
  | stay same => exact .inl fun active => same ▸ active
  | start queued running => exact .inr ⟨rfl, by rw [queued]; rfl, by rw [running]; rfl⟩
  | finish terminal =>
    refine .inl fun active => ?_
    cases status : new.status <;> rw [status] at terminal active <;> cases terminal <;> cases active
  | pause running => exact .inl fun _ => by rw [running]; rfl
  | resume waiting => exact .inl fun _ => by rw [waiting]; rfl
  | park running => exact .inl fun _ => by rw [running]; rfl
  | wake waiting => exact .inl fun _ => by rw [waiting]; rfl

/-- A write takes at most one slot, and only by starting a task that has none. -/
theorem Write.activeTasks_le (write : Write env mark σ σ') (agentId : Nat) :
    activeTasks σ'.tasks agentId ≤ activeTasks σ.tasks agentId ∨
      ∃ t task, mark = .start t ∧ σ.tasks.get? t = some task ∧ task.agentId = agentId ∧
        task.status.active = false ∧ activeTasks σ'.tasks agentId = activeTasks σ.tasks agentId + 1 := by
  cases write with
  | @task _ _ t old _ new found kin live shift =>
    have counted := activeTasks_modify found kin agentId
    dsimp only
    rcases shift.active with fewer | ⟨rfl, idle, active⟩
    · left
      by_cases was : old.agentId = agentId ∧ old.status.active = true
      · rw [if_pos was] at counted
        split_ifs at counted <;> omega
      · rw [if_neg was, if_neg fun now => was ⟨now.1, fewer now.2⟩] at counted
        omega
    · by_cases own : old.agentId = agentId
      · rw [if_neg (by simp [idle]), if_pos ⟨own, active⟩] at counted
        exact .inr ⟨t, old, rfl, found, own, idle, counted⟩
      · rw [if_neg (by simp [own]), if_neg (by simp [own])] at counted
        exact .inl (Nat.le_of_eq counted)
  | openTask row opened => exact .inl (Nat.le_of_eq (activeTasks_insert _ opened.queued agentId))
  | spawn child born => exact .inl (Nat.le_of_eq (activeTasks_insert _ born.queued agentId))
  | _ => exact .inl (Nat.le_refl _)

/-- The active tasks of an agent are one of them and the others. -/
theorem others_add {tasks : Table TaskRow} {t : Nat} {task : TaskRow} (found : tasks.get? t = some task) :
    (tasks.count fun other row => row.agentId == task.agentId && other != t && row.status.active) +
      (if task.status.active = true then 1 else 0) = activeTasks tasks task.agentId := by
  have split := Table.count_others (fun _ row => row.agentId == task.agentId && row.status.active) found
  simp only [beq_self_eq_true, Bool.true_and, Bool.and_right_comm] at split
  exact split

/-! ### The policies -/

theorem Write.agents (write : Write env mark σ σ') {a : Nat} (known : (σ.agents.get? a).isSome) :
    (σ'.agents.get? a).isSome := by
  obtain ⟨row, found⟩ := Option.isSome_iff_exists.mp known
  cases write with
  | newAgent agent => rw [Table.get?_insert_old agent found]; rfl
  | agent target set =>
    rw [Table.get?_modify, found]
    split <;> rfl
  | _ => exact known

/-- No write but that of a new agent changes how many slots an agent has. -/
theorem Write.slots (write : Write env mark σ σ') {a : Nat} {policy : PolicyRow}
    (now : policyIn σ'.policies a = some policy) :
    (∃ old, policyIn σ.policies a = some old ∧ old.maxConcurrentTasks = policy.maxConcurrentTasks) ∨
      σ.agents.get? a = none := by
  cases write with
  | newAgent agent new unnamed plain owner =>
    unfold policyIn at now ⊢
    rw [Table.find?_insert] at now
    rcases before : σ.policies.find? fun _ row => row.agentId == a with _ | ⟨key, old⟩
    · right
      rw [before, Option.none_or] at now
      split at now
      · rename_i own
        obtain rfl : new.agentId = a := by simpa using own
        rw [owner]
        exact Table.get?_next _
      · cases now
    · rw [before] at now
      exact .inl ⟨policy, now, rfl⟩
  | policy cond set keeps =>
    left
    unfold policyIn at now ⊢
    rw [Table.find?_update _ _ _ _ (by intro key row; split <;> simp [keeps])] at now
    rcases before : σ.policies.find? fun _ row => row.agentId == a with _ | ⟨key, old⟩
    · rw [before] at now
      cases now
    · rw [before] at now
      refine ⟨old, rfl, ?_⟩
      obtain rfl := Option.some.inj now
      dsimp only
      split
      · exact (keeps key old).2.1.symm
      · rfl
  | _ => exact .inl ⟨policy, now, rfl⟩

/-! ### Runs -/

/-- The agents of the tasks exist, and none of the agent's slots is taken twice. -/
structure WithinCap (a : Nat) (σ : Core) : Prop where
  known : ∀ t task, σ.tasks.get? t = some task → (σ.agents.get? task.agentId).isSome
  slots : ∀ policy, policyIn σ.policies a = some policy → activeTasks σ.tasks a ≤ policy.maxConcurrentTasks

/-- A task starts only where its agent has a slot left. -/
def Guarded : Mark → Core → Prop
  | .start t, σ => ∃ task, σ.tasks.get? t = some task ∧ ¬ σ.full t task
  | _, _ => True

theorem Write.known (write : Write env mark σ σ')
    (known : ∀ t task, σ.tasks.get? t = some task → (σ.agents.get? task.agentId).isSome) :
    ∀ t task, σ'.tasks.get? t = some task → (σ'.agents.get? task.agentId).isSome := by
  intro t task now
  rcases write.rows now with ⟨old, before, kin⟩ | ⟨-, -, agent⟩
  · rw [kin.agent]
    exact write.agents (known t old before)
  · exact write.agents agent

/-- An agent that does not exist has no tasks. -/
theorem activeTasks_unknown (known : ∀ t task, σ.tasks.get? t = some task → (σ.agents.get? task.agentId).isSome)
    {a : Nat} (unknown : σ.agents.get? a = none) : activeTasks σ.tasks a = 0 := by
  refine Table.count_eq_zero.mpr ?_
  intro t task found
  have exists? := known t task found
  have other : task.agentId ≠ a := by
    rintro rfl
    rw [unknown] at exists?
    cases exists?
  simp [other]

theorem Write.withinCap {a : Nat} (write : Write env mark σ σ') (guarded : Guarded mark σ) (within : WithinCap a σ) :
    WithinCap a σ' := by
  refine ⟨write.known within.known, ?_⟩
  intro policy now
  have count := write.activeTasks_le a
  rcases write.slots now with ⟨old, before, same⟩ | unknown
  · rw [← same]
    have cap := within.slots old before
    rcases count with fewer | ⟨t, task, rfl, found, rfl, idle, more⟩
    · omega
    · obtain ⟨again, here, free⟩ := guarded
      obtain rfl := Option.some.inj (here.symm.trans found)
      -- The start was guarded by the count of the agent's other tasks.
      have slot : ¬ old.maxConcurrentTasks ≤ activeTasks σ.tasks again.agentId := by
        have split := others_add here
        rw [if_neg (by simp [idle]), Nat.add_zero] at split
        rw [← split]
        exact fun crowded => free ⟨old, before, crowded⟩
      omega
  · rcases count with fewer | ⟨t, task, -, found, rfl, -⟩
    · rw [activeTasks_unknown within.known unknown] at fewer
      omega
    · have agent := within.known t task found
      rw [unknown] at agent
      cases agent

/-- The agent's cap is not lowered: a policy that appears is that of a new agent. Agents
that tasks refer to are kept. -/
structure Unlowered (a : Nat) (before after : Db) : Prop where
  cap : ∀ policy, after.policyOf a = some policy →
    (∃ old, before.policyOf a = some old ∧ old.maxConcurrentTasks ≤ policy.maxConcurrentTasks) ∨
      before.agents.get? a = none
  kept : ∀ t task, before.tasks.get? t = some task → (before.agents.get? task.agentId).isSome →
    (after.agents.get? task.agentId).isSome

/-- One transaction that does not lower the agent's cap. -/
def StepUnlowered (a : Nat) (label : Label) (before after : Db) : Prop :=
  Step label before after ∧ Unlowered a before after

theorem Unlowered.withinCap {a : Nat} {db after : Db} (unlowered : Unlowered a db after) (quiet : Quiet db after)
    (within : WithinCap a db.core) : WithinCap a after.core := by
  have tasks : after.core.tasks = db.core.tasks := quiet.tasks
  constructor
  · rw [tasks]
    exact fun t task found => unlowered.kept t task found (within.known t task found)
  · rw [tasks]
    intro policy now
    rcases unlowered.cap policy now with ⟨old, before, le⟩ | unknown
    · exact (within.slots old before).trans le
    · rw [activeTasks_unknown within.known unknown]
      omega

theorem StepUnlowered.withinCap {a : Nat} {label : Label} {db after : Db} (step : StepUnlowered a label db after)
    (driven : label.driven db = true) (within : WithinCap a db.core) : WithinCap a after.core := by
  obtain ⟨step, unlowered⟩ := step
  cases step with
  | rollback => exact within
  | configure quiet => exact unlowered.withinCap quiet within
  | @commit env op _ _ done =>
    refine (Op.writes done).invariant (P := WithinCap a) ?_ within
    intro mark σ σ' write marks held
    refine write.withinCap ?_ held
    cases mark with
    | start t => exact Op.marks_slotted driven marks
    | _ => trivial

theorem Writes.agents {ok : Mark → Core → Prop} (writes : Writes env ok σ σ') {a : Nat}
    (known : (σ.agents.get? a).isSome) : (σ'.agents.get? a).isSome := by
  induction writes with
  | refl => exact known
  | step _ write _ ih => exact write.agents ih

theorem Writes.slots {ok : Mark → Core → Prop} (writes : Writes env ok σ σ') {a : Nat} {policy : PolicyRow}
    (now : policyIn σ'.policies a = some policy) :
    (∃ old, policyIn σ.policies a = some old ∧ old.maxConcurrentTasks = policy.maxConcurrentTasks) ∨
      σ.agents.get? a = none := by
  induction writes generalizing policy with
  | refl => exact .inl ⟨policy, now, rfl⟩
  | step earlier write _ ih =>
    rcases write.slots now with ⟨mid, there, same⟩ | unknown
    · rcases ih there with ⟨old, before, again⟩ | none
      · exact .inl ⟨old, before, again.trans same⟩
      · exact .inr none
    · right
      by_contra some
      have known := Writes.agents earlier (Option.isSome_iff_ne_none.mpr some)
      rw [unknown] at known
      cases known

/-- No function of the control plane lowers a cap. -/
theorem unlowered_of_commit (a : Nat) {env : Env} {op : Op} {db after : Db} (done : op.run env db = .ok after) :
    Unlowered a db after := by
  have writes := Op.writes done
  constructor
  · intro policy now
    rcases Writes.slots writes now with ⟨old, before, same⟩ | unknown
    · exact .inl ⟨old, before, Nat.le_of_eq same⟩
    · exact .inr unknown
  · exact fun _ _ _ known => Writes.agents writes known

/-- While nobody lowers an agent's `max_concurrent_tasks`, no more than that many of its
tasks run or wait. -/
theorem active_within_cap {a : Nat} {start db : Db} (fresh : Fresh start)
    (run : Path (StepUnlowered a) (fun label before => label.driven before = true) start db) :
    ∀ policy, db.policyOf a = some policy → activeTasks db.tasks a ≤ policy.maxConcurrentTasks := by
  have within : WithinCap a db.core := by
    refine run.invariant (P := fun db : Db => WithinCap a db.core)
      (fun _ _ _ step driven held => step.withinCap driven held) ?_
    constructor
    · intro t task found
      rw [show start.core.tasks.get? t = none from fresh.tasks t] at found
      cases found
    · intro policy _
      have none : activeTasks start.core.tasks a = 0 := Table.count_eq_zero.mpr fun t task found => by
        rw [show start.core.tasks.get? t = Option.none from fresh.tasks t] at found
        cases found
      omega
  exact within.slots

theorem active_within_cap_started :
    ∃ db policy, Path (StepUnlowered 0) (fun label before => label.driven before = true)
      (helperDb (helperPolicy 5 none)) db ∧ db.policyOf 0 = some policy ∧ activeTasks db.tasks 0 = 1 ∧
      activeTasks db.tasks 0 ≤ policy.maxConcurrentTasks := by
  have commits : ∀ env op before after, op.run env before = .ok after →
      StepUnlowered 0 (.call env op) before after :=
    fun _ _ _ _ done => ⟨.commit done, unlowered_of_commit 0 done⟩
  obtain ⟨db, run, started⟩ := path_reaching commits
    (show ((runAll Label.driven (helperDb (helperPolicy 5 none))
      [(.bare, .createSession 0 (some "sum up") none none), (.bare, .createSession 0 (some "again") none none),
        (.bare, .dispatchTasks)]).any fun db => (db.policyOf 0).isSome && activeTasks db.tasks 0 == 1) = true by
      decide +kernel)
  simp only [Bool.and_eq_true, beq_iff_eq] at started
  obtain ⟨policy, found⟩ := Option.isSome_iff_exists.mp started.1
  exact ⟨db, policy, run, found, started.2, active_within_cap (helperDb_fresh _) run policy found⟩

end Allgres
