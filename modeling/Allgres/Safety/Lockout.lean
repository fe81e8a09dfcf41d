import Allgres.Safety.Rates
import Allgres.Web.Server

/-! The limit of failed requests: how many of an address are answered with 401, when its
handlers check the limit and record their failures in separate critical sections. -/

namespace Allgres

open Relational

variable {Ip : Type} [DecidableEq Ip] {cfg : WebConfig} {fromStr : FromStr} {worker : WebWorker Ip} {ip : Ip}
  {now later : Instant}

/-- The handler has got past the check of the limit, and may still fail. -/
def Stage.undecided : Stage → Bool
  | .compared _ | .refused => true
  | _ => false

def WebWorker.undecided (worker : WebWorker Ip) (ip : Ip) : Nat :=
  worker.handlers.count fun _ row => row.1 == some ip && row.2.undecided

/-- What the worker has recorded of the address's failures. -/
def WebWorker.failures (worker : WebWorker Ip) (ip : Ip) : List Instant := (worker.shared.windows.authFail ip).getD []

/-- The request that the event answers with 401. -/
def WebWorker.denies (worker : WebWorker Ip) : WebEvent Ip → List (RateCall Ip)
  | .accept _ _ => []
  | .handler id outside => match worker.handlers.get? id with
    | some (some ip, .refused) => [⟨ip, outside.now⟩]
    | _ => []

/-- The worker, and the requests that have been answered with 401. -/
abbrev DenialRun (Ip : Type) := WebWorker Ip × List (RateCall Ip)

def DenialRun.next (cfg : WebConfig) (fromStr : FromStr) (run : DenialRun Ip) (event : WebEvent Ip) : DenialRun Ip :=
  (run.1.step cfg fromStr event, run.2 ++ run.1.denies event)

def denialRun (cfg : WebConfig) (fromStr : FromStr) (events : List (WebEvent Ip)) : DenialRun Ip :=
  events.foldl (DenialRun.next cfg fromStr) (.start, [])

/-- A request gets past the check only where the address's failures in the window, with
those of its requests that are still undecided, are fewer than the limit. -/
def WebWorker.spares (worker : WebWorker Ip) : WebEvent Ip → Bool
  | .accept _ _ => true
  | .handler id outside => match worker.handlers.get? id with
    | some (some ip, .guarded _) =>
      let recent := (retained outside.now rateAuthFailWindow (worker.failures ip)).length
      decide (rateAuthFailLimit ≤ recent) || decide (recent + worker.undecided ip < rateAuthFailLimit)
    | _ => true

def WebWorker.sparesAll (cfg : WebConfig) (fromStr : FromStr) (worker : WebWorker Ip) : List (WebEvent Ip) → Bool
  | [] => true
  | event :: rest => worker.spares event && (worker.step cfg fromStr event).sparesAll cfg fromStr rest

def WebEvent.time : WebEvent Ip → Option Instant
  | .accept _ _ => none
  | .handler _ outside => some outside.now

/-- The clock does not go back from one event to the next. -/
abbrev Timed (events : List (WebEvent Ip)) : Prop := (events.filterMap WebEvent.time).Pairwise (· ≤ ·)

/-! ### One event -/

def Progress.undecided : Progress → Bool
  | .next stage => stage.undecided
  | _ => false

section Event

variable {id : Nat} {peer : Option Ip} {stage : Stage} {outside : Outside} {shared : Statics Ip}

theorem shared_handler (found : worker.handlers.get? id = some (peer, stage)) (outside : Outside) :
    (worker.step cfg fromStr (.handler id outside)).shared = (handleStep cfg fromStr peer outside worker.shared stage).1 := by
  rw [WebWorker.step, found]
  dsimp only
  split <;> rfl

/-- A handler counts as undecided before the event by its stage, and after it by what has come of it. -/
theorem undecided_handler (found : worker.handlers.get? id = some (peer, stage)) (outside : Outside) (ip : Ip) :
    (worker.step cfg fromStr (.handler id outside)).undecided ip +
        (if (peer == some ip && stage.undecided) = true then 1 else 0) =
      worker.undecided ip + if (peer == some ip &&
        (handleStep cfg fromStr peer outside worker.shared stage).2.undecided) = true then 1 else 0 := by
  have deleted := Table.count_delete (fun _ row => row.1 == some ip && row.2.undecided) found
  rw [WebWorker.step, found]
  dsimp only
  split
  next stage' progress =>
    have modified := Table.count_modify (fun _ => (peer, stage')) (fun _ row => row.1 == some ip && row.2.undecided) found
    simpa only [WebWorker.undecided, progress, Progress.undecided] using modified
  next progress =>
    simpa only [WebWorker.undecided, progress, Progress.undecided, Bool.and_false, Bool.false_eq_true, if_false,
      Nat.add_zero] using deleted
  next progress =>
    simpa only [WebWorker.undecided, progress, Progress.undecided, Bool.and_false, Bool.false_eq_true, if_false,
      Nat.add_zero] using deleted

theorem undecided_triage (cfg : WebConfig) (fromStr : FromStr) (outside : Outside) (r : HttpRequest) :
    (triage cfg fromStr outside r).undecided = false := by
  unfold triage
  dsimp only
  split_ifs <;> rfl

/-- Only the check of the limit and the record of a failure touch the failures, and only
the check makes a handler undecided. -/
theorem handleStep_quiet (quiet : ∀ r, stage ≠ .guarded r) (open' : stage ≠ .refused) :
    (handleStep cfg fromStr peer outside shared stage).1.windows.authFail = shared.windows.authFail ∧
    ((handleStep cfg fromStr peer outside shared stage).2.undecided = true → stage.undecided = true) := by
  cases stage with
  | accepted =>
    cases peer with
    | none => exact ⟨rfl, nofun⟩
    | some ip =>
      rw [handleStep]
      dsimp only
      refine ⟨rfl, ?_⟩
      split
      · exact nofun
      · exact nofun
  | admitted =>
    rw [handleStep]
    split
    · exact ⟨rfl, nofun⟩
    · refine ⟨rfl, fun undecided => ?_⟩
      rw [undecided_triage] at undecided
      cases undecided
  | guarded r => exact absurd rfl (quiet r)
  | compared r => exact ⟨rfl, fun _ => rfl⟩
  | refused => exact absurd rfl open'
  | routed r =>
    rw [handleStep, serve]
    split
    · split
      · exact ⟨rfl, nofun⟩
      · exact ⟨rfl, nofun⟩
    · split
      · exact ⟨rfl, nofun⟩
      · split <;> exact ⟨rfl, nofun⟩

end Event

/-- What an event does to the failures of an address: nothing, a check, or another failure. -/
def Touches (before after : WebWorker Ip) (ip : Ip) (now : Instant) (denied : List Instant) : Prop :=
  (after.failures ip = before.failures ip ∧ denied = [] ∧ after.undecided ip ≤ before.undecided ip) ∨
  (after.failures ip = retained now rateAuthFailWindow (before.failures ip) ∧ denied = [] ∧
    (after.undecided ip ≤ before.undecided ip ∨
      after.undecided ip = before.undecided ip + 1 ∧
        (retained now rateAuthFailWindow (before.failures ip)).length + before.undecided ip < rateAuthFailLimit)) ∨
  (after.failures ip = before.failures ip ++ [now] ∧ denied = [now] ∧ after.undecided ip + 1 ≤ before.undecided ip)

theorem touches_accept (peer : Option Ip) (spawned : Bool) (ip : Ip) :
    Touches worker (worker.step cfg fromStr (.accept peer spawned)) ip now [] := by
  refine .inl ?_
  rw [WebWorker.step]
  split
  · exact ⟨rfl, rfl, Nat.le_refl _⟩
  · dsimp only
    split
    · refine ⟨rfl, rfl, ?_⟩
      rw [WebWorker.undecided, Table.count_insert]
      simp [Stage.undecided, WebWorker.undecided]
    · refine ⟨?_, rfl, Nat.le_of_eq ?_⟩
      · rw [WebWorker.failures, WebWorker.failures]
      · rw [WebWorker.undecided, WebWorker.undecided]

theorem touches_handler {id : Nat} {outside : Outside} (spares : worker.spares (.handler id outside) = true) (ip : Ip) :
    Touches worker (worker.step cfg fromStr (.handler id outside)) ip outside.now
      (timesOf ip (worker.denies (.handler id outside))) := by
  cases found : worker.handlers.get? id with
  | none =>
    refine .inl ?_
    rw [WebWorker.denies, found, WebWorker.step, found]
    exact ⟨rfl, rfl, Nat.le_refl _⟩
  | some row =>
    obtain ⟨peer, stage⟩ := row
    have counted := @undecided_handler Ip _ cfg fromStr worker id peer stage found outside ip
    have failures : (worker.step cfg fromStr (.handler id outside)).failures ip =
        ((handleStep cfg fromStr peer outside worker.shared stage).1.windows.authFail ip).getD [] := by
      rw [WebWorker.failures, shared_handler found]
    rw [Touches, failures]
    rcases Classical.em (∃ r, stage = .guarded r) with ⟨r, rfl⟩ | unguarded
    · have nothing : timesOf ip (worker.denies (.handler id outside)) = [] := by
        rw [WebWorker.denies, found]
        cases peer <;> rfl
      rw [nothing]
      cases peer with
      | none => exact .inl ⟨rfl, rfl, Nat.le_of_eq counted⟩
      | some other =>
        rcases Decidable.em (other = ip) with rfl | apart
        · refine .inr (.inl ⟨?_, rfl, ?_⟩)
          · rw [handleStep, authFailuresExceeded]
            simp only [Function.update_self, Option.getD_some]
            rfl
          · rw [WebWorker.spares, found] at spares
            simp only [Bool.or_eq_true, decide_eq_true_eq] at spares
            rw [handleStep, authFailuresExceeded] at counted
            simp only [Stage.undecided, Bool.and_false, Bool.false_eq_true, if_false, Nat.add_zero, beq_self_eq_true,
              Bool.true_and] at counted
            split at counted
            next locked =>
              left
              rw [counted]
              exact Nat.le_refl _
            next free =>
              right
              refine ⟨counted, spares.resolve_left fun full => free ?_⟩
              exact decide_eq_true full
        · have stays : (some other == some ip) = false := beq_eq_false_iff_ne.mpr fun same => apart (Option.some.inj same)
          refine .inl ⟨?_, rfl, ?_⟩
          · rw [handleStep, authFailuresExceeded]
            simp only [Function.update_of_ne (Ne.symm apart)]
            rfl
          · simp only [stays, Bool.false_and, Bool.false_eq_true, if_false, Nat.add_zero] at counted
            exact Nat.le_of_eq counted
    · rcases Classical.em (stage = .refused) with rfl | open'
      · cases peer with
        | none =>
          refine .inl ⟨rfl, ?_, Nat.le_of_eq counted⟩
          rw [WebWorker.denies, found]
          rfl
        | some other =>
          have denied : worker.denies (.handler id outside) = [⟨other, outside.now⟩] := by
            rw [WebWorker.denies, found]
          rw [denied]
          rcases Decidable.em (other = ip) with rfl | apart
          · refine .inr (.inr ⟨?_, ?_, ?_⟩)
            · rw [handleStep, recordAuthFailure]
              simp only [Function.update_self, Option.getD_some]
              rfl
            · simp [timesOf]
            · simp only [handleStep, Stage.undecided, Progress.undecided, beq_self_eq_true, Bool.true_and, if_true,
                Bool.false_eq_true, if_false, Nat.add_zero] at counted
              exact Nat.le_of_eq counted
          · have stays : (some other == some ip) = false := beq_eq_false_iff_ne.mpr fun same => apart (Option.some.inj same)
            refine .inl ⟨?_, ?_, ?_⟩
            · rw [handleStep, recordAuthFailure]
              simp only [Function.update_of_ne (Ne.symm apart)]
              rfl
            · simp [timesOf, apart]
            · simp only [stays, Bool.false_and, Bool.false_eq_true, if_false, Nat.add_zero] at counted
              exact Nat.le_of_eq counted
      · obtain ⟨same, further⟩ := @handleStep_quiet Ip _ cfg fromStr peer stage outside worker.shared
          (fun r same => unguarded ⟨r, same⟩) open'
        refine .inl ⟨?_, ?_, ?_⟩
        · rw [same]
          rfl
        · rw [WebWorker.denies, found]
          cases peer with
          | none => rfl
          | some other => cases stage <;> first | rfl | exact absurd rfl open'
        · rcases Decidable.em ((peer == some ip && (handleStep cfg fromStr peer outside worker.shared stage).2.undecided) =
            true) with after | gone
          · have own := Bool.and_eq_true_iff.mp after
            have before : (peer == some ip && stage.undecided) = true := Bool.and_eq_true_iff.mpr ⟨own.1, further own.2⟩
            rw [if_pos before, if_pos after] at counted
            omega
          · rw [if_neg gone] at counted
            omega

/-! ### All events -/

/-- How many of the times are not before the given one. -/
def countFrom (start : Instant) (times : List Instant) : Nat := times.countP fun time => start ≤ time

theorem countFrom_append (start : Instant) (times more : List Instant) :
    countFrom start (times ++ more) = countFrom start times + countFrom start more := List.countP_append ..

theorem countIn_le_countFrom (start stop : Instant) (times : List Instant) : countIn start stop times ≤ countFrom start times := by
  refine List.countP_mono_left fun time _ within => ?_
  simp only [decide_eq_true_eq] at within ⊢
  exact within.1

/-- What came since a point inside the window is retained. -/
theorem countFrom_le_retained {start window : Instant} (positive : 0 < window) (inside : now < start + window) (times : List Instant) :
    countFrom start times ≤ (retained now window times).length := by
  rw [countFrom, retained, ← List.countP_eq_length_filter]
  refine List.countP_mono_left fun time _ since => ?_
  simp only [decide_eq_true_eq] at since ⊢
  have arithmetic (a b c d : Nat) (lower : a ≤ b) (upper : c < a + d) (positive : 0 < d) : c - b < d := by omega
  exact arithmetic start time now window since inside positive

/-- At a time when some events have been: the worker knows the failures in the window; in
windows that have not ended, the failures and the undecided requests are no more than the
limit; and in no window are the failures more. -/
structure LockoutKept (run : DenialRun Ip) (now : Instant) : Prop where
  known : ∀ ip, retained now rateAuthFailWindow (run.1.failures ip) = retained now rateAuthFailWindow (timesOf ip run.2)
  unended : ∀ ip start, now < start + rateAuthFailWindow →
    countFrom start (timesOf ip run.2) + run.1.undecided ip ≤ rateAuthFailLimit
  bounded : ∀ ip start, countIn start (start + rateAuthFailWindow) (timesOf ip run.2) ≤ rateAuthFailLimit

theorem LockoutKept.mono {run : DenialRun Ip} (kept : LockoutKept run now) (ordered : now ≤ later) : LockoutKept run later := by
  refine ⟨fun ip => ?_, fun ip start inside => kept.unended ip start (Nat.lt_of_le_of_lt ordered inside), kept.bounded⟩
  have same := congrArg (retained later rateAuthFailWindow) (kept.known ip)
  rwa [retained_retained ordered, retained_retained ordered] at same

/-- An event keeps it, if it spares the limit. -/
theorem LockoutKept.next {run : DenialRun Ip} {event : WebEvent Ip} (kept : LockoutKept run now)
    (touches : ∀ ip, Touches run.1 (run.1.step cfg fromStr event) ip now (timesOf ip (run.1.denies event))) :
    LockoutKept (run.next cfg fromStr event) now := by
  constructor
  · intro ip
    have known := kept.known ip
    show retained now rateAuthFailWindow ((run.1.step cfg fromStr event).failures ip) = retained now rateAuthFailWindow
      (timesOf ip (run.2 ++ run.1.denies event))
    rw [timesOf_append]
    rcases touches ip with ⟨same, none, -⟩ | ⟨same, none, -⟩ | ⟨same, one, -⟩
    · rw [same, none, List.append_nil, known]
    · rw [same, none, List.append_nil, retained_retained (Nat.le_refl _), known]
    · rw [same, one, retained_append, retained_append, known]
  · intro ip start inside
    have before := kept.unended ip start inside
    show countFrom start (timesOf ip (run.2 ++ run.1.denies event)) + (run.1.step cfg fromStr event).undecided ip ≤ _
    rw [timesOf_append, countFrom_append]
    have empty : countFrom start [] = 0 := rfl
    rcases touches ip with ⟨-, none, fewer⟩ | ⟨-, none, fewer | ⟨more, room⟩⟩ | ⟨-, one, fewer⟩
    · rw [none, empty]
      omega
    · rw [none, empty]
      omega
    · have recent := countFrom_le_retained (by decide) inside (timesOf ip run.2)
      rw [← kept.known ip] at recent
      rw [none, empty]
      omega
    · have single : countFrom start [now] ≤ 1 := List.countP_le_length
      rw [one]
      omega
  · intro ip start
    have before := kept.bounded ip start
    show countIn start (start + rateAuthFailWindow) (timesOf ip (run.2 ++ run.1.denies event)) ≤ _
    rw [timesOf_append, countIn_append]
    rcases touches ip with ⟨-, none, -⟩ | ⟨-, none, -⟩ | ⟨-, one, fewer⟩
    · rw [none]
      exact before
    · rw [none]
      exact before
    · rw [one]
      rcases Decidable.em (start ≤ now ∧ now < start + rateAuthFailWindow) with within | outside
      · have unended := kept.unended ip start within.2
        have since := countIn_le_countFrom start (start + rateAuthFailWindow) (timesOf ip run.2)
        have single : countIn start (start + rateAuthFailWindow) [now] ≤ 1 := List.countP_le_length
        omega
      · have none : countIn start (start + rateAuthFailWindow) [now] = 0 := by simp [countIn, outside]
        rw [none]
        exact before

theorem kept_denials {run : DenialRun Ip} (events : List (WebEvent Ip)) (timed : Timed events)
    (after : ∀ time ∈ events.filterMap WebEvent.time, now ≤ time) (spares : run.1.sparesAll cfg fromStr events = true)
    (kept : LockoutKept run now) : ∃ later, LockoutKept (events.foldl (DenialRun.next cfg fromStr) run) later := by
  induction events generalizing run now with
  | nil => exact ⟨now, kept⟩
  | cons event rest ih =>
    obtain ⟨spared, others⟩ := Bool.and_eq_true_iff.mp spares
    cases event with
    | accept peer spawned =>
      have next : LockoutKept (run.next cfg fromStr (.accept peer spawned)) now :=
        kept.next fun ip => touches_accept peer spawned ip
      exact ih timed after others next
    | handler id outside =>
      have bound := List.pairwise_cons.mp timed
      have next : LockoutKept (run.next cfg fromStr (.handler id outside)) outside.now :=
        (kept.mono (after outside.now (List.mem_cons_self ..))).next fun ip => touches_handler spared ip
      exact ih bound.2 bound.1 others next

/-- While no request gets past the check that would be one too many if all undecided ones
failed, no more requests of an address than the limit are answered with 401 in any window. -/
theorem denials_le_limit (cfg : WebConfig) (fromStr : FromStr) (events : List (WebEvent Ip)) (timed : Timed events)
    (spares : WebWorker.start.sparesAll cfg fromStr events = true) (ip : Ip) (start : Instant) :
    countIn start (start + rateAuthFailWindow) (timesOf ip (denialRun cfg fromStr events).2) ≤ rateAuthFailLimit := by
  have initially : LockoutKept ((.start, []) : DenialRun Ip) 0 :=
    ⟨fun _ => rfl, fun _ _ _ => Nat.zero_le _, fun _ _ => Nat.zero_le _⟩
  obtain ⟨later, kept⟩ := kept_denials events timed (fun time _ => Nat.zero_le time) spares initially
  exact kept.bounded ip start

def guessRequest : List UInt8 :=
  Utf8.encode "GET /api/v1/tasks HTTP/1.1\r\nX-Allgres-Client: 1\r\nAuthorization: Bearer guess\r\n\r\n"

/-- A handler's next step, at the start of the clock. -/
def guessStep (id : Nat) : WebEvent Nat := .handler id ⟨0, [.data guessRequest], "", fun _ => .null⟩

/-- One connection after another, each up to its answer. -/
def guessesInTurn : List (WebEvent Nat) :=
  (List.range 2).flatMap fun id => .accept (some 7) true :: List.replicate 5 (guessStep id)

theorem denials_le_limit_in_turn :
    countIn 0 (0 + rateAuthFailWindow) (timesOf 7 (denialRun ⟨"secret", false⟩ (fun _ => none) guessesInTurn).2) ≤
      rateAuthFailLimit :=
  denials_le_limit _ _ guessesInTurn (by decide +kernel) (by decide +kernel) 7 0

/-- All connections pass the check before the first one fails. -/
def guessesAtOnce : List (WebEvent Nat) :=
  ((List.range 21).flatMap fun id => .accept (some 7) true :: List.replicate 3 (guessStep id)) ++
    (List.range 21).flatMap fun id => List.replicate 2 (guessStep id)

theorem not_denials_le_limit : ¬ ∀ (events : List (WebEvent Nat)) (ip : Nat) (start : Instant), Timed events →
    countIn start (start + rateAuthFailWindow) (timesOf ip (denialRun ⟨"secret", false⟩ (fun _ => none) events).2) ≤
      rateAuthFailLimit := by
  intro limited
  exact absurd (limited guessesAtOnce 7 0 (by decide +kernel)) (by decide +kernel)

end Allgres
