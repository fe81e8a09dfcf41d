import Allgres.Status
import Mathlib.Logic.Function.Basic

/-! Device logins: the sessions of the providers, and the calls that serve them. -/

namespace Allgres

def DeviceStatus.live : DeviceStatus → Bool
  | starting | awaitingUser => true
  | _ => false

namespace Devices

structure Session where
  provider : Nat
  status : DeviceStatus
  interval : Nat

structure Call where
  operation : OauthOperation
  provider : Nat
  session : Option Nat
  status : CallStatus

end Devices

@[ext]
structure Devices where
  session : Nat → Option Devices.Session
  call : Nat → Option Devices.Call

namespace Devices

/-- What the answer to a call does to its session. -/
inductive Effect
  | keep
  | instruct (interval : Nat)
  | fail
  | slow (interval : Nat → Nat)
  | verdict (ending : DeviceStatus)

def Effect.apply : Effect → Session → Session
  | keep, session => session
  | instruct interval, session => { session with status := .awaitingUser, interval := interval }
  | fail, session => { session with status := .error }
  | slow interval, session =>
    if session.status = .awaitingUser then { session with interval := interval session.interval } else session
  | verdict ending, session => { session with status := ending }

/-- The answers that a call can get. -/
inductive Fits : OauthOperation → Effect → Prop
  | keep (operation : OauthOperation) : operation ≠ .deviceAuthorization → Fits operation .keep
  | instruct (interval : Nat) : 1 ≤ interval → interval ≤ 60 → Fits .deviceAuthorization (.instruct interval)
  | fail : Fits .deviceAuthorization .fail
  | slow (interval : Nat → Nat) : (∀ i, i ≤ 60 → i ≤ interval i ∧ interval i ≤ 60) → Fits .devicePoll (.slow interval)
  | verdict {ending : DeviceStatus} : ending.live = false → Fits .devicePoll (.verdict ending)

def Session.supersede (provider : Nat) (session : Session) : Session :=
  if session.provider = provider ∧ session.status.live = true then { session with status := .expired } else session

def Call.advance (due : Nat → Call → Bool) (status : CallStatus) (k : Nat) (call : Call) : Call :=
  if due k call = true then { call with status := status } else call

variable (σ : Devices)

/-- The session is one that a new login of the provider supersedes. -/
def superseded (provider : Nat) (s : Option Nat) : Bool :=
  (s.bind σ.session).any fun session => session.provider == provider && session.status.live

def settle (k : Nat) : Nat → Option Call :=
  Function.update σ.call k ((σ.call k).map fun call => { call with status := .harvested })

def applyTo (s : Option Nat) (effect : Effect) : Nat → Option Session := fun other =>
  if s = some other then (σ.session other).map effect.apply else σ.session other

/-- No call of that operation for that subject is queued or in flight. -/
def Idle (operation : OauthOperation) (subject : Call → Prop) : Prop :=
  ∀ k call, σ.call k = some call → call.operation = operation → subject call → call.status.outstanding = false

/-- A new login: the sessions and calls that it supersedes are over. -/
def start (provider s k : Nat) : Devices where
  session := Function.update (fun other => (σ.session other).map (Session.supersede provider)) s
    (some ⟨provider, .starting, 5⟩)
  call := Function.update (fun other => (σ.call other).map fun call =>
      if σ.superseded provider call.session = true ∧ call.status.outstanding = true then
        { call with status := .harvested } else call) k
    (some ⟨.deviceAuthorization, provider, some s, .queued⟩)

def expire (due : Nat → Bool) : Devices :=
  { σ with session := fun s => (σ.session s).map fun session =>
      if session.status = .awaitingUser ∧ due s = true then { session with status := .expired } else session }

def addCall (k : Nat) (call : Call) : Devices := { σ with call := Function.update σ.call k (some call) }

def advance (due : Nat → Call → Bool) (status : CallStatus) : Devices :=
  { σ with call := fun k => (σ.call k).map (Call.advance due status k) }

def answer (k : Nat) (s : Option Nat) (effect : Effect) : Devices where
  session := σ.applyTo s effect
  call := σ.settle k

@[simp] theorem start_session (provider s k : Nat) : (σ.start provider s k).session =
    Function.update (fun other => (σ.session other).map (Session.supersede provider)) s
      (some ⟨provider, .starting, 5⟩) := rfl

@[simp] theorem start_call (provider s k : Nat) : (σ.start provider s k).call =
    Function.update (fun other => (σ.call other).map fun call =>
      if σ.superseded provider call.session = true ∧ call.status.outstanding = true then
        { call with status := .harvested } else call) k
      (some ⟨.deviceAuthorization, provider, some s, .queued⟩) := rfl

@[simp] theorem expire_session (due : Nat → Bool) (s : Nat) : (σ.expire due).session s =
    (σ.session s).map fun session =>
      if session.status = .awaitingUser ∧ due s = true then { session with status := .expired } else session := rfl

@[simp] theorem expire_call (due : Nat → Bool) : (σ.expire due).call = σ.call := rfl

@[simp] theorem addCall_session (k : Nat) (call : Call) : (σ.addCall k call).session = σ.session := rfl

@[simp] theorem addCall_call (k : Nat) (call : Call) :
    (σ.addCall k call).call = Function.update σ.call k (some call) := rfl

@[simp] theorem advance_session (due : Nat → Call → Bool) (status : CallStatus) :
    (σ.advance due status).session = σ.session := rfl

@[simp] theorem advance_call (due : Nat → Call → Bool) (status : CallStatus) (k : Nat) :
    (σ.advance due status).call k = (σ.call k).map (Call.advance due status k) := rfl

@[simp] theorem answer_session (k : Nat) (s : Option Nat) (effect : Effect) :
    (σ.answer k s effect).session = σ.applyTo s effect := rfl

@[simp] theorem answer_call (k : Nat) (s : Option Nat) (effect : Effect) :
    (σ.answer k s effect).call = σ.settle k := rfl

inductive Event
  | start (provider s k : Nat)
  | expire
  | poll (s k : Nat)
  | refresh (provider k : Nat)
  | advance
  | settle (k : Nat) (effect : Effect)

inductive Move : Event → Devices → Devices → Prop
  | start {σ : Devices} {s k : Nat} (provider : Nat) : σ.session s = none → σ.call k = none →
      Move (.start provider s k) σ (σ.start provider s k)
  | expire {σ : Devices} (due : Nat → Bool) : Move .expire σ (σ.expire due)
  | poll {σ : Devices} {s k : Nat} {session : Session} : σ.session s = some session →
      session.status = .awaitingUser → σ.call k = none →
      σ.Idle .devicePoll (fun call => call.session = some s) →
      Move (.poll s k) σ (σ.addCall k ⟨.devicePoll, session.provider, some s, .queued⟩)
  | refresh {σ : Devices} {provider k : Nat} : σ.call k = none →
      σ.Idle .refresh (fun call => call.provider = provider) →
      Move (.refresh provider k) σ (σ.addCall k ⟨.refresh, provider, none, .queued⟩)
  | advance {σ : Devices} (due : Nat → Call → Bool) (status : CallStatus) :
      (∀ k call, due k call = true → call.status.outstanding = true) →
      Move .advance σ (σ.advance due status)
  | settle {σ : Devices} {k : Nat} {call : Call} {effect : Effect} : σ.call k = some call →
      call.status = .inFlight → Fits call.operation effect →
      Move (.settle k effect) σ (σ.answer k call.session effect)

/-- A verdict on a session that is over says what the session has ended with. -/
def InTime : Event → Devices → Prop
  | .settle k effect, σ => ∀ call s session, σ.call k = some call → call.session = some s →
      σ.session s = some session → session.status.live = false → ∀ ending, effect = .verdict ending →
      ending = session.status
  | _, _ => True

/-! ### The invariant -/

structure Sound : Prop where
  single : ∀ s s' session session', σ.session s = some session → σ.session s' = some session' →
    session.status.live = true → session'.status.live = true → session.provider = session'.provider → s = s'
  paced : ∀ s session, σ.session s = some session → 1 ≤ session.interval ∧ session.interval ≤ 60
  authorizing : ∀ k call, σ.call k = some call → call.operation = .deviceAuthorization →
    call.status.outstanding = true → ∃ s session, call.session = some s ∧ σ.session s = some session ∧
      session.status = .starting
  oneAuthorization : ∀ k k' call call', σ.call k = some call → σ.call k' = some call' →
    call.operation = .deviceAuthorization → call'.operation = .deviceAuthorization →
    call.status.outstanding = true → call'.status.outstanding = true → call.session = call'.session → k = k'
  polling : ∀ k call, σ.call k = some call → call.operation = .devicePoll →
    ∃ s session, call.session = some s ∧ σ.session s = some session ∧ session.status ≠ .starting
  onePoll : ∀ k k' call call', σ.call k = some call → σ.call k' = some call' → call.operation = .devicePoll →
    call'.operation = .devicePoll → call.status.outstanding = true → call'.status.outstanding = true →
    call.session = call'.session → k = k'
  oneRefresh : ∀ k k' call call', σ.call k = some call → σ.call k' = some call' → call.operation = .refresh →
    call'.operation = .refresh → call.status.outstanding = true → call'.status.outstanding = true →
    call.provider = call'.provider → k = k'

variable {σ σ' : Devices} {event : Event} {s k : Nat}

/-! ### What a move does to a session and to a call -/

/-- How a session goes on. Once its authorization has been answered it is not started again, and is
polled no faster. -/
structure Session.Follows (old new : Session) : Prop where
  provider : new.provider = old.provider
  live : new.status.live = true → old.status.live = true
  paced : 1 ≤ old.interval ∧ old.interval ≤ 60 → 1 ≤ new.interval ∧ new.interval ≤ 60
  answered : old.status ≠ .starting → new.status ≠ .starting ∧ old.interval ≤ new.interval

theorem Session.Follows.refl (session : Session) : session.Follows session :=
  ⟨rfl, id, id, fun answered => ⟨answered, Nat.le_refl _⟩⟩

/-- The session ends, or has ended. -/
theorem Session.Follows.ended {session : Session} {ending : DeviceStatus} (finished : ending.live = false) :
    session.Follows { session with status := ending } := by
  refine ⟨rfl, fun live => ?_, id, fun _ => ⟨?_, Nat.le_refl _⟩⟩
  · rw [finished] at live
    cases live
  · rintro rfl
    cases finished

structure Call.Kin (old new : Call) : Prop where
  operation : new.operation = old.operation
  provider : new.provider = old.provider
  session : new.session = old.session
  outstanding : new.status.outstanding = true → old.status.outstanding = true

theorem Call.Kin.refl (call : Call) : call.Kin call := ⟨rfl, rfl, rfl, id⟩

/-- The call that the event makes. -/
def Opened : Event → Nat → Call → Prop
  | .start provider s k, k', call => k' = k ∧ call = ⟨.deviceAuthorization, provider, some s, .queued⟩
  | .poll s k, k', call => k' = k ∧ ∃ provider, call = ⟨.devicePoll, provider, some s, .queued⟩
  | .refresh provider k, k', call => k' = k ∧ call = ⟨.refresh, provider, none, .queued⟩
  | _, _, _ => False

theorem Effect.follows {call : Call} {session : Session} {effect : Effect} (held : Sound σ)
    (found : σ.call k = some call) (inFlight : call.status = .inFlight) (fits : Fits call.operation effect)
    (serves : call.session = some s) (here : σ.session s = some session) :
    session.Follows (effect.apply session) := by
  generalize operation : call.operation = named at fits
  have outstanding : call.status.outstanding = true := by
    rw [inFlight]
    rfl
  cases fits with
  | keep => exact .refl session
  | instruct interval least most =>
    obtain ⟨s', session', serves', here', starting⟩ := held.authorizing k call found operation outstanding
    obtain rfl := Option.some.inj (serves.symm.trans serves')
    obtain rfl := Option.some.inj (here.symm.trans here')
    refine ⟨rfl, fun _ => ?_, fun _ => ⟨least, most⟩, fun answered => absurd starting answered⟩
    rw [starting]
    rfl
  | fail => exact Session.Follows.ended rfl
  | slow interval grows =>
    have paced := held.paced s session here
    simp only [Effect.apply]
    split
    · rename_i awaiting
      have next := grows session.interval paced.2
      exact ⟨rfl, id, fun _ => ⟨Nat.le_trans paced.1 next.1, next.2⟩, fun answered => ⟨answered, next.1⟩⟩
    · exact .refl session
  | verdict finished => exact Session.Follows.ended finished

theorem Move.session (held : Sound σ) (move : Move event σ σ') {session : Session} (found : σ.session s = some session) :
    ∃ later, σ'.session s = some later ∧ session.Follows later := by
  cases move with
  | @start _ fresh k provider absent new =>
    have different : s ≠ fresh := by
      rintro rfl
      rw [absent] at found
      cases found
    refine ⟨session.supersede provider, ?_, ?_⟩
    · simp only [start_session, Function.update_of_ne different, found, Option.map_some]
    · unfold Session.supersede
      split
      · exact Session.Follows.ended rfl
      · exact .refl session
  | expire due =>
    simp only [expire_session, found, Option.map_some, Option.some.injEq, exists_eq_left']
    split
    · exact Session.Follows.ended rfl
    · exact .refl session
  | poll | refresh | advance => exact ⟨session, found, .refl session⟩
  | @settle _ k call effect called inFlight fits =>
    by_cases serves : call.session = some s
    · refine ⟨effect.apply session, ?_, Effect.follows held called inFlight fits serves found⟩
      simp only [answer_session, applyTo, if_pos serves, found, Option.map_some]
    · refine ⟨session, ?_, .refl session⟩
      simp only [answer_session, applyTo, if_neg serves, found]

/-- A session that is new belongs to a login that has just been started. -/
theorem Move.session_new (move : Move event σ σ') {session : Session} (found : σ'.session s = some session)
    (absent : σ.session s = none) : ∃ provider k, event = .start provider s k ∧ session = ⟨provider, .starting, 5⟩ := by
  cases move with
  | @start _ fresh k provider =>
    by_cases same : s = fresh
    · subst same
      simp only [start_session, Function.update_self, Option.some.injEq] at found
      exact ⟨provider, k, rfl, found.symm⟩
    · simp only [start_session, Function.update_of_ne same, absent, Option.map_none] at found
      cases found
  | expire =>
    simp only [expire_session, absent, Option.map_none] at found
    cases found
  | poll | refresh | advance =>
    simp only [addCall_session, advance_session, absent] at found
    cases found
  | settle =>
    simp only [answer_session, applyTo, absent, Option.map_none, ite_self] at found
    cases found

theorem Move.call (move : Move event σ σ') {call : Call} (found : σ'.call k = some call) :
    (∃ old, σ.call k = some old ∧ old.Kin call) ∨ σ.call k = none ∧ Opened event k call := by
  cases move with
  | @start _ s new provider absent fresh =>
    by_cases same : k = new
    · subst same
      simp only [start_call, Function.update_self, Option.some.injEq] at found
      exact .inr ⟨fresh, rfl, found.symm⟩
    · simp only [start_call, Function.update_of_ne same] at found
      obtain ⟨old, before, rfl⟩ := Option.map_eq_some_iff.mp found
      refine .inl ⟨old, before, ?_⟩
      split
      · exact ⟨rfl, rfl, rfl, nofun⟩
      · exact .refl old
  | expire => exact .inl ⟨call, found, .refl call⟩
  | @poll _ s new session there awaiting fresh =>
    by_cases same : k = new
    · subst same
      simp only [addCall_call, Function.update_self, Option.some.injEq] at found
      exact .inr ⟨fresh, rfl, session.provider, found.symm⟩
    · simp only [addCall_call, Function.update_of_ne same] at found
      exact .inl ⟨call, found, .refl call⟩
  | @refresh _ provider new fresh =>
    by_cases same : k = new
    · subst same
      simp only [addCall_call, Function.update_self, Option.some.injEq] at found
      exact .inr ⟨fresh, rfl, found.symm⟩
    · simp only [addCall_call, Function.update_of_ne same] at found
      exact .inl ⟨call, found, .refl call⟩
  | advance due status outstanding =>
    obtain ⟨old, before, rfl⟩ := Option.map_eq_some_iff.mp found
    refine .inl ⟨old, before, ?_⟩
    unfold Call.advance
    split
    · rename_i chosen
      exact ⟨rfl, rfl, rfl, fun _ => outstanding k old chosen⟩
    · exact .refl old
  | @settle _ answered old effect there =>
    by_cases same : k = answered
    · subst same
      simp only [answer_call, Devices.settle, Function.update_self, there, Option.map_some, Option.some.injEq] at found
      subst found
      exact .inl ⟨old, there, rfl, rfl, rfl, nofun⟩
    · simp only [answer_call, Devices.settle, Function.update_of_ne same] at found
      exact .inl ⟨call, found, .refl call⟩

/-! ### Every move keeps the invariant -/

theorem Sound.single_step (held : Sound σ) (move : Move event σ σ') {s s' : Nat} {session session' : Session}
    (found : σ'.session s = some session) (found' : σ'.session s' = some session') (live : session.status.live = true)
    (live' : session'.status.live = true) (same : session.provider = session'.provider) : s = s' := by
  -- the login that is started supersedes those of its provider
  have newest {s s' provider k : Nat} {session : Session} (started : event = .start provider s k)
      (found : σ'.session s' = some session) (live : session.status.live = true)
      (same : session.provider = provider) : s' = s := by
    subst started
    cases move with
    | start _ absent new =>
      by_contra different
      simp only [start_session, Function.update_of_ne different] at found
      obtain ⟨old, before, rfl⟩ := Option.map_eq_some_iff.mp found
      unfold Session.supersede at live same
      split at live
      · cases live
      · rename_i kept
        rw [if_neg kept] at same
        exact kept ⟨same, live⟩
  rcases before : σ.session s with _ | old
  · obtain ⟨provider, k, started, rfl⟩ := move.session_new found before
    exact (newest started found' live' same.symm).symm
  rcases before' : σ.session s' with _ | old'
  · obtain ⟨provider, k, started, rfl⟩ := move.session_new found' before'
    exact newest started found live same
  obtain ⟨later, now, follows⟩ := move.session held before
  obtain ⟨later', now', follows'⟩ := move.session held before'
  obtain rfl := Option.some.inj (found.symm.trans now)
  obtain rfl := Option.some.inj (found'.symm.trans now')
  exact held.single s s' old old' before before' (follows.live live) (follows'.live live')
    (follows.provider.symm.trans (same.trans follows'.provider))

theorem Sound.authorizing_step (held : Sound σ) (move : Move event σ σ') {k : Nat} {call : Call}
    (found : σ'.call k = some call) (operation : call.operation = .deviceAuthorization)
    (outstanding : call.status.outstanding = true) :
    ∃ s session, call.session = some s ∧ σ'.session s = some session ∧ session.status = .starting := by
  rcases move.call found with ⟨old, before, kin⟩ | ⟨absent, opened⟩
  · obtain ⟨s, session, serves, here, starting⟩ := held.authorizing k old before (kin.operation ▸ operation)
      (kin.outstanding outstanding)
    refine ⟨s, ?_⟩
    rw [kin.session]
    cases move with
    | @start _ fresh new provider absentSession absentCall =>
      have differentSession : s ≠ fresh := by
        rintro rfl
        rw [absentSession] at here
        cases here
      have differentCall : k ≠ new := by
        rintro rfl
        rw [absentCall] at before
        cases before
      refine ⟨session, serves, ?_, starting⟩
      simp only [start_session, Function.update_of_ne differentSession, here, Option.map_some, Option.some.injEq]
      -- a superseded login takes its call with it
      refine if_neg fun gone => ?_
      simp only [start_call, Function.update_of_ne differentCall, before, Option.map_some, Option.some.injEq] at found
      have superseded : σ.superseded provider old.session = true := by
        simp only [Devices.superseded, serves, Option.bind_some, here, Option.any_some, Bool.and_eq_true, beq_iff_eq]
        exact gone
      rw [if_pos ⟨superseded, kin.outstanding outstanding⟩] at found
      rw [← found] at outstanding
      cases outstanding
    | expire due =>
      refine ⟨session, serves, ?_, starting⟩
      simp [here, starting]
    | poll | refresh | advance => exact ⟨session, serves, here, starting⟩
    | @settle _ answered call' effect there inFlight fits =>
      refine ⟨session, serves, ?_, starting⟩
      have open_ : call'.status.outstanding = true := by
        rw [inFlight]
        rfl
      by_cases shared : call'.session = some s
      · have polls (poll : call'.operation = .devicePoll) : False := by
          obtain ⟨s', session', serves', here', answeredSession⟩ := held.polling answered call' there poll
          obtain rfl := Option.some.inj (shared.symm.trans serves')
          obtain rfl := Option.some.inj (here.symm.trans here')
          exact answeredSession starting
        have authorizes (authorization : call'.operation = .deviceAuthorization) : False := by
          obtain rfl := held.oneAuthorization k answered old call' before there (kin.operation ▸ operation) authorization
            (kin.outstanding outstanding) open_ (serves.trans shared.symm)
          simp only [answer_call, Devices.settle, Function.update_self, there, Option.map_some, Option.some.injEq] at found
          rw [← found] at outstanding
          cases outstanding
        generalize kind : call'.operation = named at fits
        cases fits with
        | keep => simp only [answer_session, applyTo, if_pos shared, here, Option.map_some, Effect.apply]
        | instruct | fail => exact (authorizes kind).elim
        | slow | verdict => exact (polls kind).elim
      · simp only [answer_session, applyTo, if_neg shared, here]
  · cases event with
    | start provider s new =>
      obtain ⟨rfl, rfl⟩ := opened
      cases move with
      | start _ absentSession absentCall => exact ⟨s, ⟨provider, .starting, 5⟩, rfl, by simp only [start_session, Function.update_self], rfl⟩
    | poll s new =>
      obtain ⟨-, provider, rfl⟩ := opened
      cases operation
    | refresh provider new =>
      obtain ⟨-, rfl⟩ := opened
      cases operation
    | expire | advance | settle => exact opened.elim

/-- Two outstanding calls of one operation with one subject are the same, if the event makes none
while another is outstanding. -/
theorem Move.unique {β : Type} (move : Move event σ σ') (operation : OauthOperation) (subject : Call → β)
    (kept : ∀ old new : Call, old.Kin new → subject new = subject old)
    (unique : ∀ k k' call call', σ.call k = some call → σ.call k' = some call' → call.operation = operation →
      call'.operation = operation → call.status.outstanding = true → call'.status.outstanding = true →
      subject call = subject call' → k = k')
    (idle : ∀ k call, Opened event k call → call.operation = operation →
      σ.Idle operation fun old => subject old = subject call)
    {k k' : Nat} {call call' : Call} (found : σ'.call k = some call) (found' : σ'.call k' = some call')
    (named : call.operation = operation) (named' : call'.operation = operation)
    (outstanding : call.status.outstanding = true) (outstanding' : call'.status.outstanding = true)
    (same : subject call = subject call') : k = k' := by
  have key {k k' : Nat} {call call' : Call} (opened : Opened event k call) (opened' : Opened event k' call') :
      k = k' := by
    cases event with
    | start | poll | refresh => exact opened.1.trans opened'.1.symm
    | expire | advance | settle => exact opened.elim
  rcases move.call found with ⟨old, before, kin⟩ | ⟨absent, opened⟩ <;>
    rcases move.call found' with ⟨old', before', kin'⟩ | ⟨absent', opened'⟩
  · refine unique k k' old old' before before' (kin.operation ▸ named) (kin'.operation ▸ named')
      (kin.outstanding outstanding) (kin'.outstanding outstanding') ?_
    rw [← kept old call kin, ← kept old' call' kin', same]
  · have finished := idle k' call' opened' named' k old before (kin.operation ▸ named) ((kept old call kin).symm.trans same)
    rw [kin.outstanding outstanding] at finished
    cases finished
  · have finished := idle k call opened named k' old' before' (kin'.operation ▸ named')
      ((kept old' call' kin').symm.trans same.symm)
    rw [kin'.outstanding outstanding'] at finished
    cases finished
  · exact key opened opened'

theorem Sound.step (held : Sound σ) (move : Move event σ σ') : Sound σ' := by
  constructor
  case single =>
    intro s s' session session' found found' live live' same
    exact held.single_step move found found' live live' same
  case paced =>
    intro s session found
    rcases before : σ.session s with _ | old
    · obtain ⟨provider, k, -, rfl⟩ := move.session_new found before
      exact ⟨by simp, by simp⟩
    · obtain ⟨later, now, follows⟩ := move.session held before
      obtain rfl := Option.some.inj (found.symm.trans now)
      exact follows.paced (held.paced s old before)
  case authorizing =>
    intro k call found operation outstanding
    exact held.authorizing_step move found operation outstanding
  case oneAuthorization =>
    intro k k' call call' found found' named named' outstanding outstanding' same
    refine move.unique .deviceAuthorization Call.session (fun old new kin => kin.session) held.oneAuthorization
      ?_ found found' named named' outstanding outstanding' same
    -- a call for a session that does not exist yet is the first one
    intro k call opened _ other old before authorization shared
    cases event with
    | start provider s new =>
      obtain ⟨-, rfl⟩ := opened
      cases move with
      | start _ absent =>
        by_contra open_
        rw [Bool.not_eq_false] at open_
        obtain ⟨s', session, serves, here, -⟩ := held.authorizing other old before authorization open_
        obtain rfl := Option.some.inj (shared.symm.trans serves)
        rw [absent] at here
        cases here
    | poll s new =>
      obtain ⟨-, provider, rfl⟩ := opened
      contradiction
    | refresh provider new =>
      obtain ⟨-, rfl⟩ := opened
      contradiction
    | expire | advance | settle => exact opened.elim
  case polling =>
    intro k call found poll
    rcases move.call found with ⟨old, before, kin⟩ | ⟨absent, opened⟩
    · obtain ⟨s, session, serves, here, answered⟩ := held.polling k old before (kin.operation ▸ poll)
      obtain ⟨later, now, follows⟩ := move.session held here
      exact ⟨s, later, kin.session.trans serves, now, (follows.answered answered).1⟩
    · cases event with
      | start provider s new =>
        obtain ⟨-, rfl⟩ := opened
        cases poll
      | poll s new =>
        obtain ⟨-, provider, rfl⟩ := opened
        cases move with
        | poll here awaiting =>
          refine ⟨s, _, rfl, here, ?_⟩
          rw [awaiting]
          decide
      | refresh provider new =>
        obtain ⟨-, rfl⟩ := opened
        cases poll
      | expire | advance | settle => exact opened.elim
  case onePoll =>
    intro k k' call call' found found' named named' outstanding outstanding' same
    refine move.unique .devicePoll Call.session (fun old new kin => kin.session) held.onePoll
      ?_ found found' named named' outstanding outstanding' same
    intro k call opened poll
    cases event with
    | start provider s new =>
      obtain ⟨-, rfl⟩ := opened
      cases poll
    | poll s new =>
      obtain ⟨-, provider, rfl⟩ := opened
      cases move with
      | poll _ _ _ idle => exact idle
    | refresh provider new =>
      obtain ⟨-, rfl⟩ := opened
      cases poll
    | expire | advance | settle => exact opened.elim
  case oneRefresh =>
    intro k k' call call' found found' named named' outstanding outstanding' same
    refine move.unique .refresh Call.provider (fun old new kin => kin.provider) held.oneRefresh
      ?_ found found' named named' outstanding outstanding' same
    intro k call opened refresh
    cases event with
    | start provider s new =>
      obtain ⟨-, rfl⟩ := opened
      cases refresh
    | poll s new =>
      obtain ⟨-, provider, rfl⟩ := opened
      cases refresh
    | refresh provider new =>
      obtain ⟨-, rfl⟩ := opened
      cases move with
      | refresh _ idle => exact idle
    | expire | advance | settle => exact opened.elim

/-- A session that is over stays as it has ended, unless a verdict comes late. -/
theorem Move.ended (held : Sound σ) (move : Move event σ σ') (timely : InTime event σ) {session later : Session}
    (found : σ.session s = some session) (now : σ'.session s = some later) (finished : session.status.live = false) :
    later.status = session.status := by
  cases move with
  | @start _ fresh k provider absent new =>
    have different : s ≠ fresh := by
      rintro rfl
      rw [absent] at found
      cases found
    simp only [start_session, Function.update_of_ne different, found, Option.map_some, Option.some.injEq] at now
    subst now
    simp [Session.supersede, finished]
  | expire due =>
    simp only [expire_session, found, Option.map_some, Option.some.injEq] at now
    subst now
    split
    · rename_i awaiting
      rw [awaiting.1] at finished
      cases finished
    · rfl
  | poll | refresh | advance =>
    obtain rfl := Option.some.inj (found.symm.trans now)
    rfl
  | @settle _ k call effect called inFlight fits =>
    by_cases serves : call.session = some s
    · simp only [answer_session, applyTo, if_pos serves, found, Option.map_some, Option.some.injEq] at now
      subst now
      generalize kind : call.operation = named at fits
      have authorizes (authorization : call.operation = .deviceAuthorization) : False := by
        obtain ⟨s', session', serves', here, starting⟩ := held.authorizing k call called authorization (by rw [inFlight]; rfl)
        obtain rfl := Option.some.inj (serves.symm.trans serves')
        obtain rfl := Option.some.inj (found.symm.trans here)
        rw [starting] at finished
        cases finished
      cases fits with
      | keep => rfl
      | instruct | fail => exact (authorizes kind).elim
      | slow interval =>
        simp only [Effect.apply]
        split <;> rfl
      | @verdict ending => exact timely call s session called serves found finished ending rfl
    · simp only [answer_session, applyTo, if_neg serves, found, Option.some.injEq] at now
      rw [now]

end Devices

end Allgres
