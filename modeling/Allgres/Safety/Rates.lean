import Mathlib.Data.List.Induction
import Allgres.Web.Limits

/-! The general limit of requests: no address gets more of them through than the
limit in any window of time, and none is refused earlier. -/

namespace Allgres

variable {Ip : Type} [DecidableEq Ip] {ip : Ip} {now later : Instant}

/-- A call of `rate_limited`. -/
structure RateCall (Ip : Type) where
  ip : Ip
  now : Instant

def RateWindows.empty : RateWindows Ip := ⟨fun _ => none, fun _ => none⟩

/-- The worker's windows, and the calls that were let through. -/
abbrev RateRun (Ip : Type) := RateWindows Ip × List (RateCall Ip)

def RateRun.call (run : RateRun Ip) (call : RateCall Ip) : RateRun Ip :=
  let (limited, windows) := rateLimited run.1 call.now call.ip
  (windows, if limited then run.2 else run.2 ++ [call])

def rateRun (calls : List (RateCall Ip)) : RateRun Ip := calls.foldl RateRun.call (RateWindows.empty, [])

/-- The times of an address in a list of calls. -/
def timesOf (ip : Ip) (calls : List (RateCall Ip)) : List Instant := (calls.filter fun call => call.ip = ip).map RateCall.now

theorem timesOf_append (calls more : List (RateCall Ip)) : timesOf ip (calls ++ more) = timesOf ip calls ++ timesOf ip more := by
  rw [timesOf, List.filter_append, List.map_append]
  rfl

theorem rateRun_snoc (calls : List (RateCall Ip)) (call : RateCall Ip) :
    rateRun (calls ++ [call]) = RateRun.call (rateRun calls) call := by
  rw [rateRun, List.foldl_append]
  rfl

/-! ### One call -/

/-- What is retained at a later time was retained before. -/
theorem retained_retained (ordered : now ≤ later) (window : Instant) (hits : List Instant) :
    retained later window (retained now window hits) = retained later window hits := by
  rw [retained, retained, List.filter_filter]
  refine List.filter_congr fun hit _ => ?_
  have within : later - hit < window → now - hit < window := Nat.lt_of_le_of_lt (Nat.sub_le_sub_right ordered hit)
  simp only [Bool.and_eq_left_iff_imp, decide_eq_true_eq]
  exact within

theorem rateCheck_other {map : HitMap Ip} {other : Ip} (apart : other ≠ ip) (window : Instant) (limit : Nat) :
    ((rateCheck map now ip window limit).2 other).getD [] = (map other).getD [] := by
  rw [rateCheck]
  split
  · simp only [Function.update_of_ne apart]
  · simp only [Function.update_of_ne apart]
    cases map other with
    | none => rfl
    | some hits => cases hits <;> rfl

theorem rateCheck_self (map : HitMap Ip) (ip : Ip) (now window : Instant) (limit : Nat) :
    (rateCheck map now ip window limit).1 = decide ((retained now window ((map ip).getD [])).length < limit) ∧
    ((rateCheck map now ip window limit).2 ip).getD [] = retained now window ((map ip).getD []) ++
      (if (rateCheck map now ip window limit).1 then [now] else []) := by
  rw [rateCheck]
  split
  next full =>
    have refused : ¬ (retained now window ((map ip).getD [])).length < limit := Nat.not_lt.mpr full
    simp [refused]
  next free =>
    have passed : (retained now window ((map ip).getD [])).length < limit := Nat.lt_of_not_le free
    have kept : retained now window ((map ip).getD []) ++ [now] ≠ [] := List.append_ne_nil_of_right_ne_nil _ (List.cons_ne_nil now [])
    simp [passed, Option.filter, kept]

/-! ### All calls -/

/-- Of each address the worker keeps the calls that were let through, as long as they count. -/
def Kept (run : RateRun Ip) (now : Instant) : Prop :=
  ∀ ip, retained now rateGeneralWindow ((run.1.general ip).getD []) = retained now rateGeneralWindow (timesOf ip run.2)

theorem call_windows (run : RateRun Ip) (call : RateCall Ip) :
    (run.call call).1.general = (rateCheck run.1.general call.now call.ip rateGeneralWindow rateGeneralLimit).2 := rfl

theorem call_passed (run : RateRun Ip) (call : RateCall Ip) : (run.call call).2 = run.2 ++
    if (rateCheck run.1.general call.now call.ip rateGeneralWindow rateGeneralLimit).1 then [call] else [] := by
  have limited : (rateLimited run.1 call.now call.ip).1 =
      !(rateCheck run.1.general call.now call.ip rateGeneralWindow rateGeneralLimit).1 := rfl
  have shape : (run.call call).2 = if (rateLimited run.1 call.now call.ip).1 then run.2 else run.2 ++ [call] := rfl
  rw [shape, limited]
  cases (rateCheck run.1.general call.now call.ip rateGeneralWindow rateGeneralLimit).1
  · exact (List.append_nil run.2).symm
  · rfl

theorem retained_append (window : Instant) (hits more : List Instant) :
    retained now window (hits ++ more) = retained now window hits ++ retained now window more := List.filter_append ..

theorem Kept.mono {run : RateRun Ip} (kept : Kept run now) (ordered : now ≤ later) : Kept run later := fun ip => by
  have same := congrArg (retained later rateGeneralWindow) (kept ip)
  rwa [retained_retained ordered, retained_retained ordered] at same

theorem Kept.call {run : RateRun Ip} {call : RateCall Ip} (kept : Kept run call.now) : Kept (run.call call) call.now := by
  intro ip
  rw [call_windows, call_passed, timesOf_append, retained_append]
  rcases Decidable.em (call.ip = ip) with rfl | other
  · have stored := (rateCheck_self run.1.general call.ip call.now rateGeneralWindow rateGeneralLimit).2
    rw [stored, retained_append, retained_retained (Nat.le_refl _), kept]
    congr 1
    split
    · simp [timesOf]
    · rfl
  · have nothing : timesOf ip (if (rateCheck run.1.general call.now call.ip rateGeneralWindow rateGeneralLimit).1 then [call]
        else []) = [] := by
      split
      · simp [timesOf, other]
      · rfl
    rw [rateCheck_other (fun same => other same.symm), nothing, kept ip]
    exact (List.append_nil _).symm

theorem kept_run {calls : List (RateCall Ip)} (ordered : calls.Pairwise fun a b => a.now ≤ b.now)
    (bound : ∀ call ∈ calls, call.now ≤ now) : Kept (rateRun calls) now := by
  induction calls using List.reverseRecOn generalizing now with
  | nil => exact fun _ => rfl
  | append_singleton calls call ih =>
    rw [List.pairwise_append] at ordered
    have before : ∀ other ∈ calls, other.now ≤ call.now := fun other inside =>
      ordered.2.2 other inside call (List.mem_singleton.mpr rfl)
    have step := (ih ordered.1 before).call
    rw [rateRun_snoc]
    exact step.mono (bound call (List.mem_append_right _ (List.mem_singleton.mpr rfl)))

/-- How many of the times lie in an interval, its end not included. -/
def countIn (start stop : Instant) (times : List Instant) : Nat := times.countP fun time => start ≤ time ∧ time < stop

theorem countIn_retained {start : Instant} (inside : now < start + rateGeneralWindow) (times : List Instant) :
    countIn start (start + rateGeneralWindow) times ≤ (retained now rateGeneralWindow times).length := by
  rw [countIn, retained, ← List.countP_eq_length_filter]
  refine List.countP_mono_left fun time _ within => ?_
  simp only [decide_eq_true_eq] at within ⊢
  have arithmetic (a b c d : Nat) (lower : a ≤ b) (upper : c < a + d) (positive : 0 < d) : c - b < d := by omega
  exact arithmetic start time now _ within.1 inside (by decide)

theorem countIn_append (start stop : Instant) (times more : List Instant) :
    countIn start stop (times ++ more) = countIn start stop times + countIn start stop more := List.countP_append ..

/-- A call is let through if fewer than the limit have been in the window that ends with it. -/
theorem passed_iff {run : RateRun Ip} {call : RateCall Ip} (kept : Kept run call.now) :
    (rateCheck run.1.general call.now call.ip rateGeneralWindow rateGeneralLimit).1 = true ↔
      (retained call.now rateGeneralWindow (timesOf call.ip run.2)).length < rateGeneralLimit := by
  rw [(rateCheck_self run.1.general call.ip call.now rateGeneralWindow rateGeneralLimit).1, kept, decide_eq_true_eq]

theorem passes_le_limit {calls : List (RateCall Ip)} (ordered : calls.Pairwise fun a b => a.now ≤ b.now) (ip : Ip)
    (start : Instant) : countIn start (start + rateGeneralWindow) (timesOf ip (rateRun calls).2) ≤ rateGeneralLimit := by
  induction calls using List.reverseRecOn with
  | nil => exact Nat.zero_le _
  | append_singleton calls call ih =>
    rw [List.pairwise_append] at ordered
    have before : ∀ other ∈ calls, other.now ≤ call.now := fun other inside =>
      ordered.2.2 other inside call (List.mem_singleton.mpr rfl)
    have bound := ih ordered.1
    have passes := passed_iff (kept_run ordered.1 before)
    rw [rateRun_snoc, call_passed, timesOf_append, countIn_append]
    split
    next passed =>
      have room := passes.mp passed
      rcases Decidable.em (call.ip = ip) with rfl | other
      · have one : timesOf call.ip [call] = [call.now] := by simp [timesOf]
        rw [one]
        rcases Decidable.em (start ≤ call.now ∧ call.now < start + rateGeneralWindow) with within | outside
        · have counted := countIn_retained within.2 (timesOf call.ip (rateRun calls).2)
          have single : countIn start (start + rateGeneralWindow) [call.now] = 1 := by simp [countIn, within]
          rw [single]
          exact Nat.lt_of_le_of_lt counted room
        · have none : countIn start (start + rateGeneralWindow) [call.now] = 0 := by simp [countIn, outside]
          rw [none]
          exact bound
      · have none : timesOf ip [call] = [] := by simp [timesOf, other]
        rw [none]
        exact bound
    next => exact bound

theorem refused_at_limit {calls : List (RateCall Ip)} {call : RateCall Ip}
    (ordered : (calls ++ [call]).Pairwise fun a b => a.now ≤ b.now)
    (refused : (rateLimited (rateRun calls).1 call.now call.ip).1 = true) :
    rateGeneralLimit ≤ (retained call.now rateGeneralWindow (timesOf call.ip (rateRun calls).2)).length := by
  rw [List.pairwise_append] at ordered
  have before : ∀ other ∈ calls, other.now ≤ call.now := fun other inside =>
    ordered.2.2 other inside call (List.mem_singleton.mpr rfl)
  have passes := passed_iff (kept_run ordered.1 before)
  have other : (rateCheck (rateRun calls).1.general call.now call.ip rateGeneralWindow rateGeneralLimit).1 = false := by
    simpa [rateLimited] using refused
  rw [other] at passes
  exact Nat.le_of_not_lt fun room => absurd (passes.mpr room) (by decide)

theorem passed_called (calls : List (RateCall Ip)) : ∀ call ∈ (rateRun calls).2, call ∈ calls := by
  induction calls using List.reverseRecOn with
  | nil => exact nofun
  | append_singleton calls call ih =>
    intro other inside
    rw [rateRun_snoc, call_passed] at inside
    rcases List.mem_append.mp inside with inside | inside
    · exact List.mem_append_left _ (ih other inside)
    · split at inside
      · exact List.mem_append_right _ inside
      · cases inside

theorem retained_countIn {times : List Instant} (before : ∀ time ∈ times, time ≤ now) :
    (retained now rateGeneralWindow times).length = countIn (now + 1 - rateGeneralWindow) (now + 1) times := by
  rw [countIn, retained, ← List.countP_eq_length_filter]
  refine List.countP_congr fun time inside => ?_
  have arithmetic (now time window : Nat) (before : time ≤ now) (positive : 0 < window) :
      now - time < window ↔ now + 1 - window ≤ time ∧ time < now + 1 := by omega
  simpa using arithmetic now time rateGeneralWindow (before time inside) (by decide)

theorem countIn_mono {start stop stop' : Instant} (ordered : stop ≤ stop') (times : List Instant) :
    countIn start stop times ≤ countIn start stop' times := by
  refine List.countP_mono_left fun time _ within => ?_
  simp only [decide_eq_true_eq] at within ⊢
  exact ⟨within.1, Nat.lt_of_lt_of_le within.2 ordered⟩

/-- In no window do more calls of an address get through than the limit, and a call is
refused only where that many did in the window that ends with it. -/
theorem rate_limit_exact (calls : List (RateCall Ip)) (ordered : calls.Pairwise fun a b => a.now ≤ b.now) :
    (∀ ip start, countIn start (start + rateGeneralWindow) (timesOf ip (rateRun calls).2) ≤ rateGeneralLimit) ∧
    ∀ before call after, calls = before ++ call :: after → (rateLimited (rateRun before).1 call.now call.ip).1 = true →
      countIn (call.now + 1 - rateGeneralWindow) (call.now + 1) (timesOf call.ip (rateRun before).2) = rateGeneralLimit := by
  refine ⟨fun ip start => passes_le_limit ordered ip start, fun before call after shape refused => ?_⟩
  have split : calls = (before ++ [call]) ++ after := by rw [shape, List.append_assoc, List.singleton_append]
  rw [split, List.pairwise_append] at ordered
  have earlier := (List.pairwise_append.mp ordered.1).2.2
  have times : ∀ time ∈ timesOf call.ip (rateRun before).2, time ≤ call.now := fun time inside => by
    obtain ⟨other, member, rfl⟩ := List.mem_map.mp inside
    exact earlier other (passed_called before other (List.mem_filter.mp member).1) call (List.mem_singleton.mpr rfl)
  have lower := refused_at_limit ordered.1 refused
  rw [retained_countIn times] at lower
  have upper := passes_le_limit (List.pairwise_append.mp ordered.1).1 call.ip (call.now + 1 - rateGeneralWindow)
  have arithmetic (time window : Nat) : time ≤ time - window + window := by omega
  have wide := arithmetic (call.now + 1) rateGeneralWindow
  exact Nat.le_antisymm (Nat.le_trans (countIn_mono wide _) upper) lower

/-- One call more than the limit, all at once, and another one a window later. -/
def burst : List (RateCall Nat) := List.replicate 121 ⟨7, 0⟩ ++ [⟨7, rateGeneralWindow⟩]

theorem rate_limit_exact_burst :
    (∀ ip start, countIn start (start + rateGeneralWindow) (timesOf ip (rateRun burst).2) ≤ rateGeneralLimit) ∧
    ∀ before call after, burst = before ++ call :: after → (rateLimited (rateRun before).1 call.now call.ip).1 = true →
      countIn (call.now + 1 - rateGeneralWindow) (call.now + 1) (timesOf call.ip (rateRun before).2) = rateGeneralLimit :=
  rate_limit_exact burst (by decide +kernel)

end Allgres
