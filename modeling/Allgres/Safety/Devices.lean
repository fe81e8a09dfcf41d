import Allgres.Refine.Devices
import Allgres.Lib.Raising

/-! What a device login can become, in any order of the functions that work on it. -/

namespace Allgres

open Relational Jsonb Sql Runs Devices

/-- A transaction on device logins. -/
inductive DeviceOp
  | start (providerId : Option Nat)
  | maintain
  | claim (limit : Option Int)
  | complete (callId : Nat) (status : Option Int) (body : Option String)
  | watchdog (timeout : Option Int)

def DeviceOp.run (env : WebEnv) (site : Site) : DeviceOp → Except String Site
  | start providerId => (fnOauthDeviceStart env site providerId).map Prod.snd
  | maintain => (queueOauthMaintenance env.toEnv site.db).map site.withDb
  | claim limit => (fnClaimOauth env.toEnv site.db limit).map fun claimed => site.withDb claimed.2
  | complete callId status body => (fnCompleteOauth env site.db callId status body).map fun done => site.withDb done.2
  | watchdog timeout => .ok (site.withDb (fnWatchdog env.toEnv site.db timeout))

inductive DeviceLabel
  | call (env : WebEnv) (op : DeviceOp)
  | configure

/-- A transaction that raises is rolled back. `configure` stands for what has no part in the logins:
it may change any other table. -/
inductive DeviceStep : DeviceLabel → Site → Site → Prop
  | commit {env : WebEnv} {op : DeviceOp} {site site' : Site} : op.run env site = .ok site' →
      DeviceStep (.call env op) site site'
  | rollback {env : WebEnv} {op : DeviceOp} {site : Site} {message : String} : op.run env site = .error message →
      DeviceStep (.call env op) site site
  | configure {site site' : Site} : site'.db.oauthDeviceSessions = site.db.oauthDeviceSessions →
      site'.db.oauthCalls = site.db.oauthCalls → DeviceStep .configure site site'

abbrev DeviceRun (ok : DeviceLabel → Site → Prop) : Site → Site → Prop := Path DeviceStep ok

def Anyhow : DeviceLabel → Site → Prop := fun _ _ => True

/-- No device login has been started, and nothing has been asked of a provider. -/
structure NoLogins (site : Site) : Prop where
  sessions : ∀ s, site.db.oauthDeviceSessions.get? s = none
  calls : ∀ k, site.db.oauthCalls.get? k = none

/-! ### What is claimed -/

structure LoginsSingle (db : Db) : Prop where
  live : ∀ s s' device device', db.oauthDeviceSessions.get? s = some device →
    db.oauthDeviceSessions.get? s' = some device' → device.status.live = true → device'.status.live = true →
    device.providerId = device'.providerId → s = s'
  poll : ∀ k k' call call', db.oauthCalls.get? k = some call → db.oauthCalls.get? k' = some call' →
    call.operation = .devicePoll → call'.operation = .devicePoll → call.status.outstanding = true →
    call'.status.outstanding = true → call.deviceSessionId = call'.deviceSessionId → k = k'
  refresh : ∀ k k' call call', db.oauthCalls.get? k = some call → db.oauthCalls.get? k' = some call' →
    call.operation = .refresh → call'.operation = .refresh → call.status.outstanding = true →
    call'.status.outstanding = true → call.providerId = call'.providerId → k = k'
  paced : ∀ s device, db.oauthDeviceSessions.get? s = some device →
    1 ≤ device.intervalSeconds ∧ device.intervalSeconds ≤ 60

/-- A login whose request for a device code has been answered is polled no faster later on. -/
def Slackens (db later : Db) : Prop :=
  ∀ s device, db.oauthDeviceSessions.get? s = some device → device.status ≠ .starting →
    ∃ after, later.oauthDeviceSessions.get? s = some after ∧ after.status ≠ .starting ∧
      device.intervalSeconds ≤ after.intervalSeconds

/-- A login that is over stays as it has ended. -/
def EndsOnce (db later : Db) : Prop :=
  ∀ s device after, db.oauthDeviceSessions.get? s = some device → later.oauthDeviceSessions.get? s = some after →
    device.status.live = false → after.status = device.status

/-- A verdict on a login that is over says what the login has ended with. -/
def Punctual : DeviceLabel → Site → Prop
  | .call _ (.complete callId status body), site => ∀ call s device, site.db.oauthCalls.get? callId = some call →
      call.status = .inFlight → call.operation = .devicePoll → call.deviceSessionId = some s →
      site.db.oauthDeviceSessions.get? s = some device → device.status.live = false →
      ∀ ending, pollEnding status body = some ending → ending = device.status
  | _, _ => True

variable {site site' reached later : Site} {label : DeviceLabel} {ok : DeviceLabel → Site → Prop} {env : WebEnv}

/-! ### Steps of the functions are moves of the logins -/

theorem answerEffect_verdict {operation : OauthOperation} {status : Option Int} {body : Option String}
    {ending : DeviceStatus} (given : answerEffect operation status body = .verdict ending) :
    operation = .devicePoll ∧ pollEnding status body = some ending := by
  unfold answerEffect at given
  split at given
  · split at given <;> cases given
  · split at given
    · rename_i given' ending'
      cases given
      exact ⟨rfl, ending'⟩
    · split at given <;> cases given
  · cases given

theorem complete_path {callId : Nat} {status : Option Int} {body : Option String} {answer : Json} {db db' : Db}
    {ok : Devices.Event → Devices → Prop}
    (allowed : ∀ call : OauthCallRow, db.oauthCalls.get? callId = some call → call.status = .inFlight →
      ok (.settle callId (answerEffect call.operation status body)) db.devices)
    (done : fnCompleteOauth env db callId status body = .ok (answer, db')) :
    Path Devices.Move ok db.devices db'.devices := by
  rcases found : db.oauthCalls.get? callId with _ | call
  · rw [fnCompleteOauth, found] at done
    cases done
  · by_cases inFlight : call.status = .inFlight
    · rw [fnCompleteOauth_devices found inFlight done]
      exact .single (.settle (devices_call found) inFlight (answerEffect_fits call.operation status body))
        (allowed call found inFlight)
    · -- a second answer finds the call settled
      have settled : (call.status != .inFlight) = true := by simpa using inFlight
      simp only [fnCompleteOauth, found, settled, if_true] at done
      obtain ⟨-, rfl⟩ := Prod.mk.inj (Except.ok.inj done)
      exact .refl

/-- What the moves of a step have to meet, if it is not the answer to a call. -/
theorem DeviceStep.path {ok : Devices.Event → Devices → Prop} (step : DeviceStep label site site')
    (inTime : ∀ event σ, InTime event σ → ok event σ)
    (allowed : ∀ env callId status body, label = .call env (.complete callId status body) →
      ∀ call : OauthCallRow, site.db.oauthCalls.get? callId = some call → call.status = .inFlight →
        ok (.settle callId (answerEffect call.operation status body)) site.db.devices) :
    Path Devices.Move ok site.db.devices site'.db.devices := by
  cases step with
  | @commit env op _ _ returned =>
    cases op with
    | start providerId =>
      obtain ⟨⟨answer, later⟩, done, rfl⟩ := Raising.map_eq_ok.mp returned
      exact (fnOauthDeviceStart_path done).mono inTime
    | maintain =>
      obtain ⟨later, done, rfl⟩ := Raising.map_eq_ok.mp returned
      exact (queueOauthMaintenance_path done).mono inTime
    | claim limit =>
      obtain ⟨⟨claimed, later⟩, done, rfl⟩ := Raising.map_eq_ok.mp returned
      exact (fnClaimOauth_path done).mono inTime
    | complete callId status body =>
      obtain ⟨⟨answer, later⟩, done, rfl⟩ := Raising.map_eq_ok.mp returned
      exact complete_path (allowed env callId status body rfl) done
    | watchdog timeout =>
      obtain rfl := Except.ok.inj returned
      exact fnWatchdog_devicePath.mono inTime
  | rollback => exact .refl
  | configure sessions calls =>
    rw [devices_congr sessions calls]
    exact .refl

theorem punctual_inTime {callId : Nat} {status : Option Int} {body : Option String}
    (timely : Punctual (.call env (.complete callId status body)) site) {call : OauthCallRow}
    (found : site.db.oauthCalls.get? callId = some call) (inFlight : call.status = .inFlight) :
    InTime (.settle callId (answerEffect call.operation status body)) site.db.devices := by
  intro asked s session here serves there finished ending given
  obtain rfl := Option.some.inj ((devices_call found).symm.trans here)
  obtain ⟨device, stored, rfl⟩ := Option.map_eq_some_iff.mp there
  obtain ⟨poll, ends⟩ := answerEffect_verdict given
  exact timely call s device found inFlight poll serves stored finished ending ends

theorem DeviceRun.path (run : DeviceRun ok site site') : Path Devices.Move (fun _ _ => True) site.db.devices site'.db.devices := by
  induction run with
  | refl => exact .refl
  | step _ step _ ih => exact ih.trans (step.path (fun _ _ _ => trivial) fun _ _ _ _ _ _ _ _ => trivial)

theorem DeviceRun.punctual_path (run : DeviceRun Punctual site site') :
    Path Devices.Move InTime site.db.devices site'.db.devices := by
  induction run with
  | refl => exact .refl
  | step _ step timely ih =>
    refine ih.trans (step.path (fun _ _ held => held) ?_)
    rintro env callId status body rfl call found inFlight
    exact punctual_inTime timely found inFlight

theorem NoLogins.sound (none : NoLogins site) : Sound site.db.devices := by
  have sessions (s : Nat) : site.db.devices.session s = Option.none := by rw [session_eq, none.sessions, Option.map_none]
  have calls (k : Nat) : site.db.devices.call k = Option.none := by rw [call_eq, none.calls, Option.map_none]
  constructor <;> intros <;> simp_all

theorem Devices.Sound.along {ok : Devices.Event → Devices → Prop} {σ σ' : Devices} (held : Sound σ)
    (path : Path Devices.Move ok σ σ') : Sound σ' :=
  path.invariant (fun _ _ _ move _ held => held.step move) held

/-! ### Every run -/

theorem Devices.Sound.loginsSingle {db : Db} (held : Sound db.devices) : LoginsSingle db where
  live s s' device device' found found' live live' same := by
    have session : db.devices.session s = some device.view := congrArg (Option.map DeviceSessionRow.view) found
    have session' : db.devices.session s' = some device'.view := congrArg (Option.map DeviceSessionRow.view) found'
    exact held.single s s' device.view device'.view session session' live live' same
  poll k k' call call' found found' := held.onePoll k k' call.view call'.view (devices_call found) (devices_call found')
  refresh k k' call call' found found' :=
    held.oneRefresh k k' call.view call'.view (devices_call found) (devices_call found')
  paced s device found := held.paced s device.view (congrArg (Option.map DeviceSessionRow.view) found)

theorem Devices.Sound.slackens {ok : Devices.Event → Devices → Prop} {db later : Db} (held : Sound db.devices)
    (path : Path Devices.Move ok db.devices later.devices) : Slackens db later := by
  let keeps (σ σ' : Devices) : Prop := ∀ s session, σ.session s = some session → session.status ≠ .starting →
    ∃ after, σ'.session s = some after ∧ after.status ≠ .starting ∧ session.interval ≤ after.interval
  have along : keeps db.devices later.devices := by
    refine path.relates (fun σ s session found answered => ⟨session, found, answered, Nat.le_refl _⟩) ?_
      (fun _ _ _ move _ held => held.step move) ?_ held
    · intro σ σ' σ'' first second s session found answered
      obtain ⟨after, found, answered, most⟩ := first s session found answered
      obtain ⟨last, found, answered, most'⟩ := second s after found answered
      exact ⟨last, found, answered, Nat.le_trans most most'⟩
    · intro event σ σ' move _ held s session found answered
      obtain ⟨after, now, follows⟩ := move.session held found
      exact ⟨after, now, follows.answered answered⟩
  intro s device found answered
  obtain ⟨session, now, still, slower⟩ := along s device.view (congrArg (Option.map DeviceSessionRow.view) found) answered
  obtain ⟨after, stored, rfl⟩ := Option.map_eq_some_iff.mp now
  exact ⟨after, stored, still, slower⟩

theorem Devices.Sound.endsOnce {db later : Db} (held : Sound db.devices)
    (path : Path Devices.Move InTime db.devices later.devices) : EndsOnce db later := by
  let keeps (σ σ' : Devices) : Prop := ∀ s session, σ.session s = some session →
    ∃ after, σ'.session s = some after ∧ (session.status.live = false → after.status = session.status)
  have along : keeps db.devices later.devices := by
    refine path.relates (fun σ s session found => ⟨session, found, fun _ => rfl⟩) ?_
      (fun _ _ _ move _ held => held.step move) ?_ held
    · intro σ σ' σ'' first second s session found
      obtain ⟨after, found, same⟩ := first s session found
      obtain ⟨last, found, same'⟩ := second s after found
      refine ⟨last, found, fun finished => ?_⟩
      have stays := same finished
      rw [← stays]
      exact same' (by rw [stays, finished])
    · intro event σ σ' move timely held s session found
      obtain ⟨after, now, -⟩ := move.session held found
      exact ⟨after, now, fun finished => move.ended held timely found now finished⟩
  intro s device after found later finished
  obtain ⟨session, now, same⟩ := along s device.view (congrArg (Option.map DeviceSessionRow.view) found)
  rw [session_eq, later, Option.map_some, Option.some.injEq] at now
  subst now
  exact same finished

/-- Of a login that is over, only a late verdict changes how it has ended. -/
theorem endsOnce_iff {callId : Nat} {status : Option Int} {body : Option String} (held : Sound site.db.devices)
    (step : DeviceStep (.call env (.complete callId status body)) site site')
    (returned : (DeviceOp.complete callId status body).run env site = .ok site') :
    EndsOnce site.db site'.db ↔ Punctual (.call env (.complete callId status body)) site := by
  constructor
  · intro once call s device found inFlight poll serves stored finished ending given
    obtain ⟨⟨answer, later⟩, done, rfl⟩ := Raising.map_eq_ok.mp returned
    have same := fnCompleteOauth_devices found inFlight done
    have verdict : answerEffect call.operation status body = .verdict ending := by simp [answerEffect, poll, given]
    have ends : later.devices.session s = some { device.view with status := ending } := by
      rw [same, verdict, answer_session, applyTo, if_pos serves, session_eq, stored]
      rfl
    obtain ⟨after, now, view⟩ := Option.map_eq_some_iff.mp ends
    have kept := once s device after stored now finished
    have ended : after.status = ending := congrArg Devices.Session.status view
    exact ended.symm.trans kept
  · intro timely
    exact held.endsOnce (DeviceRun.punctual_path (.single step timely))

theorem device_logins_settle (none : NoLogins site) (run : DeviceRun Anyhow site reached) :
    LoginsSingle reached.db ∧
      (∀ later, DeviceRun Anyhow reached later → Slackens reached.db later.db) ∧
      (∀ later, DeviceRun Punctual reached later → EndsOnce reached.db later.db) ∧
      ∀ env callId status body later, (DeviceOp.complete callId status body).run env reached = .ok later →
        (EndsOnce reached.db later.db ↔ Punctual (.call env (.complete callId status body)) reached) := by
  have held : Sound reached.db.devices := none.sound.along run.path
  refine ⟨held.loginsSingle, fun later more => held.slackens more.path, fun later more => held.endsOnce more.punctual_path, ?_⟩
  intro env callId status body later returned
  exact endsOnce_iff held (.commit returned) returned

/-! ### A login that ends twice -/

def logonProvider : ProviderRow :=
  ⟨"login", .oauth, "https://llm.example", true, false, .chat, none, false, 0, some "https://login.example/token",
    some "allgres"⟩

def logonSite : Site :=
  { Site.empty with
    db := { Db.empty with providers := Table.empty.insert logonProvider }
    oauthColumns := fun _ => ⟨none, some "https://login.example/device", true, none⟩ }

/-- So many seconds later. -/
def logonEnv (time : Nat) : WebEnv := { WebEnv.bare with toEnv := { Env.bare with now := seconds time } }

def instructions : String :=
  "\x7b\"user_code\":\"AB\",\"verification_uri\":\"https://login.example\",\"device_code\":\"d\",\"interval\":5,\"expires_in\":600\x7d"

def granted : String := "\x7b\"access_token\":\"t\"\x7d"

/-- The transactions one after the other; none of them raises. -/
def Site.runDevices (site : Site) : List (Nat × DeviceOp) → Option Site
  | [] => some site
  | (time, op) :: rest => (op.run (logonEnv time) site).toOption.bind fun site => site.runDevices rest

theorem runDevices_run {ops : List (Nat × DeviceOp)} (done : site.runDevices ops = some site') :
    DeviceRun Anyhow site site' := by
  induction ops generalizing site with
  | nil =>
    obtain rfl := Option.some.inj done
    exact .refl
  | cons head rest ih =>
    obtain ⟨time, op⟩ := head
    obtain ⟨middle, first, others⟩ := Option.bind_eq_some_iff.mp done
    rcases returned : op.run (logonEnv time) site with message | after
    · rw [returned] at first
      cases first
    · rw [returned] at first
      obtain rfl := Option.some.inj first
      exact (Path.single (.commit returned) trivial).trans (ih others)

def Site.loginIs (site : Site) (status : DeviceStatus) : Bool :=
  (site.db.oauthDeviceSessions.get? 0).any fun device => device.status == status

/-- A login is started, answered, polled, and expires while the poll is under way. -/
def pollUnderWay : List (Nat × DeviceOp) :=
  [(0, .start (some 0)), (1, .claim none), (2, .complete 0 (some 200) (some instructions)), (20, .claim none),
    (1000, .maintain)]

theorem logonSite_noLogins : NoLogins logonSite := ⟨fun _ => rfl, fun _ => rfl⟩

theorem loginIs_status {status : DeviceStatus} (is : site.loginIs status = true) :
    ∃ device, site.db.oauthDeviceSessions.get? 0 = some device ∧ device.status = status := by
  obtain ⟨device, found, same⟩ := (Option.any_eq_true _ _).mp is
  exact ⟨device, found, beq_iff_eq.mp same⟩

/-- The access token that the poll brings back makes a connection of a login that has expired. -/
theorem not_device_logins_settle : ¬ ∀ site reached later, NoLogins site → DeviceRun Anyhow site reached →
    DeviceRun Anyhow reached later → LoginsSingle reached.db ∧ Slackens reached.db later.db ∧
      EndsOnce reached.db later.db := by
  intro claimed
  have late : (logonSite.runDevices pollUnderWay).any (fun reached => reached.loginIs .expired &&
      (reached.runDevices [(1001, .complete 1 (some 200) (some granted))]).any fun later => later.loginIs .connected) =
        true := by decide +kernel
  obtain ⟨reached, waited, ends⟩ := (Option.any_eq_true _ _).mp late
  rw [Bool.and_eq_true] at ends
  obtain ⟨later, answered, connected⟩ := (Option.any_eq_true _ _).mp ends.2
  obtain ⟨device, found, expired⟩ := loginIs_status ends.1
  obtain ⟨after, now, ending⟩ := loginIs_status connected
  have once := (claimed logonSite reached later logonSite_noLogins (runDevices_run waited) (runDevices_run answered)).2.2
  have same := once 0 device after found now (by rw [expired]; rfl)
  rw [ending, expired] at same
  cases same

theorem device_logins_settle_expired : ∃ reached : Site, reached.loginIs .expired = true ∧ LoginsSingle reached.db ∧
    ∀ later, DeviceRun Punctual reached later → EndsOnce reached.db later.db := by
  have expires : (logonSite.runDevices pollUnderWay).any (fun reached => reached.loginIs .expired) = true := by
    decide +kernel
  obtain ⟨reached, waited, expired⟩ := (Option.any_eq_true _ _).mp expires
  have settled := device_logins_settle logonSite_noLogins (runDevices_run waited)
  exact ⟨reached, expired, settled.1, settled.2.2.1⟩

end Allgres
