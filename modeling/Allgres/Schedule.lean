import Allgres.Session

/-! What operators do with schedules. -/

namespace Allgres

open Relational Jsonb Sql

/-- A limit that is given has to be positive. -/
def positive (limit : Option Int) : Bool := limit.all fun value => decide (0 < value)

def positiveCost (limit : Option ℚ) : Bool := limit.all fun value => decide (0 < value)

def fnCreateSchedule (env : Env) (db : Db) (name : Option String) (agentId : Nat) (goal : Option String)
    (intervalSeconds maxRuns : Option Int) (endsAt startAt : Option Time) (maxCostUsd : Option ℚ) :
    Except String (Json × Db) :=
  let name := btrim (name.getD "")
  let goal := btrim (goal.getD "")
  if name = "" then .error "schedule name is required"
  else if goal = "" then .error "schedule goal is required"
  else if !db.isActiveAgent agentId then .error "agent inactive or missing"
  else if intervalSeconds.getD 0 ≤ 0 then .error "interval_seconds must be a positive number of seconds"
  else if !positive maxRuns then .error "max_runs must be a positive number"
  else if !positiveCost maxCostUsd then .error "max_cost_usd must be a positive number"
  else if db.schedules.exists? fun _ schedule => schedule.name == name then
    .error "duplicate key value violates unique constraint \"schedules_name_key\""
  else
    let scheduleId := db.schedules.next
    let interval := (intervalSeconds.getD 0).toNat
    let db := { db with
      schedules := db.schedules.insert ⟨name, agentId, goal, interval, startAt.getD env.now, true,
        maxRuns.map Int.toNat, 0, endsAt, none, none, maxCostUsd, 0⟩ }
    .ok (.build [("ok", .bool true), ("schedule_id", idJson scheduleId)],
      db.audit "schedules.create" (.build [("schedule_id", idJson scheduleId), ("name", .str name),
        ("agent_id", idJson agentId), ("interval_seconds", .ofNat interval)]))

/-- A new limit replaces the old one, unless the limit is cleared. -/
def newLimit {α : Type} (clear : Option Bool) (new old : Option α) : Option α :=
  if clear.getD false then none else new.or old

structure ScheduleEdit where
  goal : Option String
  intervalSeconds : Option Int
  isActive : Option Bool
  maxRuns : Option Int
  clearMaxRuns : Option Bool
  endsAt : Option Time
  clearEndsAt : Option Bool
  maxCostUsd : Option ℚ
  clearMaxCostUsd : Option Bool

def ScheduleRow.edited (schedule : ScheduleRow) (edit : ScheduleEdit) : ScheduleRow :=
  { schedule with
    goal := (nonEmpty edit.goal).getD schedule.goal
    intervalSeconds := (edit.intervalSeconds.map Int.toNat).getD schedule.intervalSeconds
    isActive := edit.isActive.getD schedule.isActive
    maxRuns := newLimit edit.clearMaxRuns (edit.maxRuns.map Int.toNat) schedule.maxRuns
    endsAt := newLimit edit.clearEndsAt edit.endsAt schedule.endsAt
    maxCostUsd := newLimit edit.clearMaxCostUsd edit.maxCostUsd schedule.maxCostUsd }

def fnSetSchedule (db : Db) (scheduleId : Nat) (edit : ScheduleEdit) : Except String (Json × Db) :=
  match db.schedules.get? scheduleId with
  | none => .error "schedule not found"
  | some _ =>
    if !positive edit.intervalSeconds then .error "interval_seconds must be a positive number of seconds"
    else if !positiveCost edit.maxCostUsd then .error "max_cost_usd must be a positive number"
    else if !edit.clearMaxRuns.getD false && !positive edit.maxRuns then
      .error "new row for relation \"schedules\" violates check constraint \"schedules_max_runs_check\""
    else
      let db := { db with schedules := db.schedules.modify scheduleId fun schedule => schedule.edited edit }
      .ok (.build [("ok", .bool true)], db.audit "schedules.update" (.build [("schedule_id", idJson scheduleId),
        ("is_active", .ofOption .bool edit.isActive)]))

/-- The sessions of a deleted schedule stay and forget it. -/
def fnDeleteSchedule (db : Db) (scheduleId : Nat) : Except String (Json × Db) :=
  match db.schedules.get? scheduleId with
  | none => .error "schedule not found"
  | some _ =>
    let db := { db with
      schedules := db.schedules.delete fun id _ => id == scheduleId
      sessions := db.sessions.update (fun _ session => session.scheduleId == some scheduleId)
        fun _ session => { session with scheduleId := none } }
    .ok (.build [("ok", .bool true)], db.audit "schedules.delete" (.build [("schedule_id", idJson scheduleId)]))

/-- A schedule that an operator has fired keeps its `next_run_at`. -/
def ScheduleRow.firedNow (schedule : ScheduleRow) (now : Time) (sessionId : Nat) : ScheduleRow :=
  { schedule.fired now sessionId with nextRunAt := schedule.nextRunAt }

def fnRunScheduleNow (env : Env) (db : Db) (scheduleId : Nat) : Except String (Json × Db) :=
  match db.schedules.get? scheduleId with
  | none => .error "schedule not found"
  | some schedule =>
    if !schedule.isActive then .error "schedule is not active"
    else if schedule.stopped env.now then .error "schedule has already reached a stop condition"
    else match fnCreateSession env db schedule.agentId (some schedule.goal) none (some scheduleId) with
      | .error message => .error message
      | .ok created =>
        let db := { created.db with
          schedules := created.db.schedules.modify scheduleId fun row => row.firedNow env.now created.sessionId }
        .ok (created.toJson, db.audit "schedules.run_now" (.build [("schedule_id", idJson scheduleId),
          ("session_id", idJson created.sessionId)]))

end Allgres
