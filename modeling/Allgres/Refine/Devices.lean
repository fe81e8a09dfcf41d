import Allgres.Protocol.Devices
import Allgres.Oauth
import Allgres.Safety.Tick

/-! The functions on device logins are runs of their protocol. -/

namespace Allgres

open Relational Jsonb Sql Runs Devices

def DeviceSessionRow.view (device : DeviceSessionRow) : Devices.Session :=
  ⟨device.providerId, device.status, device.intervalSeconds⟩

def OauthCallRow.view (call : OauthCallRow) : Devices.Call :=
  ⟨call.operation, call.providerId, call.deviceSessionId, call.status⟩

def Db.devices (db : Db) : Devices where
  session s := (db.oauthDeviceSessions.get? s).map DeviceSessionRow.view
  call k := (db.oauthCalls.get? k).map OauthCallRow.view

abbrev DevicePath := Path Devices.Move Devices.InTime

variable {env : Env} {web : WebEnv} {db db' : Db} {calls : List (Except String OauthCallRow)} {s k : Nat}

theorem session_eq (db : Db) (s : Nat) :
    db.devices.session s = (db.oauthDeviceSessions.get? s).map DeviceSessionRow.view := rfl

theorem call_eq (db : Db) (k : Nat) : db.devices.call k = (db.oauthCalls.get? k).map OauthCallRow.view := rfl

theorem devices_call {call : OauthCallRow} (found : db.oauthCalls.get? k = some call) :
    db.devices.call k = some call.view :=
  congrArg (Option.map OauthCallRow.view) found

/-- Only these two tables matter. -/
theorem devices_congr (sessions : db'.oauthDeviceSessions = db.oauthDeviceSessions)
    (calls : db'.oauthCalls = db.oauthCalls) : db'.devices = db.devices := by
  simp only [Db.devices, sessions, calls]

theorem view_insert {α β : Type} (table : Table α) (row : α) (view : α → β) (key : Nat) :
    ((table.insert row).get? key).map view =
      Function.update (fun key => (table.get? key).map view) table.next (some (view row)) key := by
  rw [Table.get?_insert]
  by_cases new : key = table.next
  · subst new
    rw [if_pos rfl, Function.update_self, Option.map_some]
  · rw [if_neg new, Function.update_of_ne new]

theorem view_update {α β : Type} (table : Table α) (cond : Nat → α → Bool) (set : Nat → α → α) (view : α → β)
    (change : Nat → β → β)
    (shows : ∀ key row, view (if cond key row = true then set key row else row) = change key (view row)) (key : Nat) :
    ((table.update cond set).get? key).map view = ((table.get? key).map view).map (change key) := by
  rw [Table.get?_update, Option.map_map, Option.map_map]
  congr 1
  funext row
  exact shows key row

/-! ### `fn_oauth_device_start` -/

theorem live_status (status : DeviceStatus) : (status == .starting || status == .awaitingUser) = status.live := by
  cases status <;> rfl

theorem superseded_view (providerId : Nat) (session : Option Nat) :
    ((session.bind db.oauthDeviceSessions.get?).any fun device => device.providerId == providerId &&
      (device.status == .starting || device.status == .awaitingUser)) = db.devices.superseded providerId session := by
  rcases session with _ | s
  · rfl
  · simp only [Devices.superseded, Db.devices, Option.bind_some, live_status]
    cases db.oauthDeviceSessions.get? s <;> rfl

/-- A new session and its call, after the unfinished logins of the provider have given way. -/
theorem start_path (providerId : Nat) {device : DeviceSessionRow} {call : OauthCallRow}
    (opens : device.view = ⟨providerId, .starting, 5⟩)
    (asks : call.view = ⟨.deviceAuthorization, providerId, some db.oauthDeviceSessions.next, .queued⟩)
    (sessions : db'.oauthDeviceSessions = (supersedeLogins env db providerId).oauthDeviceSessions.insert device)
    (calls : db'.oauthCalls = (supersedeLogins env db providerId).oauthCalls.insert call) :
    DevicePath db.devices db'.devices := by
  have fresh : db.devices.session db.oauthDeviceSessions.next = none := by
    simp only [Db.devices, Table.get?_next, Option.map_none]
  have absent : db.devices.call db.oauthCalls.next = none := by
    simp only [Db.devices, Table.get?_next, Option.map_none]
  have ends (device : DeviceSessionRow) : DeviceSessionRow.view
      (if (device.providerId == providerId && (device.status == .starting || device.status == .awaitingUser)) = true then
        { device with status := .expired, error := some "superseded by a newer login", updatedAt := env.now }
      else device) = device.view.supersede providerId := by
    simp only [live_status, Session.supersede, DeviceSessionRow.view, Bool.and_eq_true, beq_iff_eq]
    by_cases superseded : device.providerId = providerId ∧ device.status.live = true
    · rw [if_pos superseded]
      exact (if_pos superseded).symm
    · rw [if_neg superseded]
      exact (if_neg superseded).symm
  have gives (call : OauthCallRow) : OauthCallRow.view
      (if ((call.deviceSessionId.bind db.oauthDeviceSessions.get?).any (fun device => device.providerId == providerId &&
        (device.status == .starting || device.status == .awaitingUser)) && call.status.outstanding) = true then
        { call with status := .harvested, error := some "superseded by a newer login", updatedAt := env.now }
      else call) = if db.devices.superseded providerId call.view.session = true ∧ call.view.status.outstanding = true then
        { call.view with status := .harvested } else call.view := by
    simp only [superseded_view, OauthCallRow.view, Bool.and_eq_true]
    by_cases superseded : db.devices.superseded providerId call.deviceSessionId = true ∧ call.status.outstanding = true
    · rw [if_pos superseded]
      exact (if_pos superseded).symm
    · rw [if_neg superseded]
      exact (if_neg superseded).symm
  have same : db'.devices = db.devices.start providerId db.oauthDeviceSessions.next db.oauthCalls.next := by
    ext1
    · funext s
      rw [start_session, session_eq, sessions, view_insert, opens]
      congr 1
      funext other
      exact view_update _ _ _ DeviceSessionRow.view (fun _ => Session.supersede providerId) (fun _ => ends) other
    · funext k
      rw [start_call, call_eq, calls, view_insert, asks]
      congr 1
      funext other
      exact view_update _ _ _ OauthCallRow.view (fun _ (call : Devices.Call) =>
        if db.devices.superseded providerId call.session = true ∧ call.status.outstanding = true then
          { call with status := .harvested } else call) (fun _ => gives) other
  rw [same]
  exact .single (.start providerId fresh absent) trivial

theorem fnOauthDeviceStart_path {site site' : Site} {providerId : Option Nat} {answer : Json}
    (done : fnOauthDeviceStart web site providerId = .ok (answer, site')) :
    DevicePath site.db.devices site'.db.devices := by
  rw [fnOauthDeviceStart] at done
  split at done
  · cases done
  rename_i id provider columns chosen
  split at done
  · rename_i deviceUrl tokenUrl clientId _ _ _
    split at done
    · cases done
    obtain ⟨-, rfl⟩ := Prod.mk.inj (Except.ok.inj done)
    exact start_path id rfl rfl rfl rfl
  · cases done

/-! ### `queue_oauth_maintenance` -/

theorem expireDevices_path : DevicePath db.devices (expireDevices env db).devices := by
  let due (s : Nat) : Bool := (db.oauthDeviceSessions.get? s).any fun device =>
    device.expiresAt.any fun time => decide (time ≤ env.now)
  have same : (expireDevices env db).devices = db.devices.expire due := by
    ext1
    · funext s
      rw [expire_session, session_eq, session_eq, expireDevices, Table.get?_update]
      rcases found : db.oauthDeviceSessions.get? s with _ | device
      · rfl
      · simp only [Option.map_some, DeviceSessionRow.view, Bool.and_eq_true, beq_iff_eq, due, found, Option.any_some,
          Option.some.injEq]
        split <;> rfl
    · rfl
  rw [same]
  exact .single (.expire due) trivial

/-- Calls of one operation are queued for subjects that have none under way. -/
theorem insertOauth_path {β : Type} (operation : OauthOperation) (subject : Devices.Call → β)
    (joins : ∀ (σ : Devices) (k : Nat) (call : OauthCallRow), σ.call k = none →
      σ.Idle operation (fun old => subject old = subject call.view) → σ.session = db.devices.session →
      .ok call ∈ calls → DevicePath σ (σ.addCall k call.view))
    (idle : ∀ call : OauthCallRow, .ok call ∈ calls →
      db.devices.Idle operation fun old => subject old = subject call.view)
    (distinct : calls.Pairwise fun a b => ∀ first second : OauthCallRow, a = .ok first → b = .ok second →
      subject first.view ≠ subject second.view)
    (done : insertOauth calls db = .ok db') : DevicePath db.devices db'.devices ∧
      db'.oauthDeviceSessions = db.oauthDeviceSessions := by
  induction calls generalizing db with
  | nil =>
    obtain rfl := Except.ok.inj done
    exact ⟨.refl, rfl⟩
  | cons head rest ih =>
    cases head with
    | error message => cases done
    | ok call =>
      rw [insertOauth] at done
      set inserted : Db := { db with oauthCalls := db.oauthCalls.insert call }
      have added : inserted.devices = db.devices.addCall db.oauthCalls.next call.view := by
        ext1
        · rfl
        · funext k
          exact view_insert db.oauthCalls call OauthCallRow.view k
      have absent : db.devices.call db.oauthCalls.next = none := by
        rw [call_eq, Table.get?_next, Option.map_none]
      have first := joins db.devices db.oauthCalls.next call absent (idle call List.mem_cons_self) rfl List.mem_cons_self
      rw [List.pairwise_cons] at distinct
      -- the call that has just been queued serves another subject
      have stillIdle (later : OauthCallRow) (member : .ok later ∈ rest) :
          inserted.devices.Idle operation fun old => subject old = subject later.view := by
        intro k old found named shared
        rw [added, addCall_call] at found
        by_cases new : k = db.oauthCalls.next
        · subst new
          rw [Function.update_self] at found
          obtain rfl := Option.some.inj found
          exact absurd shared (distinct.1 _ member call later rfl rfl)
        · rw [Function.update_of_ne new] at found
          exact idle later (List.mem_cons_of_mem _ member) k old found named shared
      have joinsLater (σ : Devices) (k : Nat) (later : OauthCallRow) (absent : σ.call k = none)
          (idle : σ.Idle operation fun old => subject old = subject later.view)
          (sessions : σ.session = inserted.devices.session) (member : .ok later ∈ rest) :
          DevicePath σ (σ.addCall k later.view) :=
        joins σ k later absent idle sessions (List.mem_cons_of_mem _ member)
      have others : DevicePath inserted.devices db'.devices ∧ db'.oauthDeviceSessions = inserted.oauthDeviceSessions :=
        ih joinsLater stillIdle distinct.2 done
      rw [added] at others
      exact ⟨first.trans others.1, others.2⟩

theorem oauthCall_view {providerId : Nat} {provider : ProviderRow} {operation : OauthOperation} {session : Option Nat}
    {grant : String} {call : OauthCallRow}
    (built : oauthCall env providerId provider operation session grant = .ok call) :
    call.view = ⟨operation, providerId, session, .queued⟩ := by
  unfold oauthCall at built
  split at built
  · cases built
  · obtain rfl := Except.ok.inj built
    rfl

theorem idle_of_not_exists {operation : OauthOperation} {subject : Devices.Call → Prop} {cond : Nat → OauthCallRow → Bool}
    (none : db.oauthCalls.exists? cond = false)
    (covers : ∀ k (call : OauthCallRow), call.operation = operation → subject call.view →
      call.status.outstanding = true → cond k call = true) :
    db.devices.Idle operation subject := by
  intro k old found named shared
  obtain ⟨call, stored, rfl⟩ := Option.map_eq_some_iff.mp found
  by_contra outstanding
  rw [Bool.not_eq_false] at outstanding
  have exists_ := Table.exists?_eq_true.mpr ⟨k, call, stored, covers k call named shared outstanding⟩
  rw [none] at exists_
  cases exists_

theorem duePolls_path (done : insertOauth (duePolls env db) db = .ok db') : DevicePath db.devices db'.devices := by
  have due {call : OauthCallRow} (member : .ok call ∈ duePolls env db) : ∃ s device, db.oauthDeviceSessions.get? s = some device ∧
      device.pollDue env = true ∧ call.view = ⟨.devicePoll, device.providerId, some s, .queued⟩ ∧
      db.oauthCalls.exists? (fun _ call => call.deviceSessionId == some s && call.operation == .devicePoll &&
        call.status.outstanding) = false := by
    obtain ⟨⟨s, device⟩, selected, built⟩ := List.mem_filterMap.mp member
    obtain ⟨provider, -, built⟩ := Option.map_eq_some_iff.mp built
    obtain ⟨stored, cond⟩ := Table.mem_select.mp selected
    rw [Bool.and_eq_true, Bool.not_eq_true'] at cond
    exact ⟨s, device, stored, cond.1, oauthCall_view built, cond.2⟩
  refine (insertOauth_path .devicePoll Devices.Call.session ?joins ?idle ?distinct done).1
  case joins =>
    intro σ k call absent idle sessions member
    obtain ⟨s, device, stored, ready, view, -⟩ := due member
    have here : σ.session s = some device.view := by rw [sessions, session_eq, stored, Option.map_some]
    have awaiting : device.status = .awaitingUser := by
      simp only [DeviceSessionRow.pollDue, Bool.and_eq_true, beq_iff_eq] at ready
      exact ready.1.1
    rw [view] at idle ⊢
    exact .single (.poll here awaiting absent idle) trivial
  case idle =>
    intro call member
    obtain ⟨s, device, -, -, view, none⟩ := due member
    refine idle_of_not_exists none fun k old named shared outstanding => ?_
    rw [view] at shared
    have serves : old.deviceSessionId = some s := shared
    simp [serves, named, outstanding]
  case distinct =>
    have keys := Table.select_keys_nodup db.oauthDeviceSessions fun session device => device.pollDue env &&
      !db.oauthCalls.exists? fun _ call => call.deviceSessionId == some session && call.operation == .devicePoll &&
        call.status.outstanding
    refine List.Pairwise.filterMap _ ?_ (List.pairwise_map.mp keys)
    intro a b different built builtA built' builtB first second firstOk secondOk shared
    obtain ⟨provider, -, rfl⟩ := Option.map_eq_some_iff.mp builtA
    obtain ⟨provider', -, rfl⟩ := Option.map_eq_some_iff.mp builtB
    rw [oauthCall_view firstOk, oauthCall_view secondOk] at shared
    exact different (Option.some.inj shared)

theorem dueRefreshes_path (done : insertOauth (dueRefreshes env db) db = .ok db') :
    DevicePath db.devices db'.devices := by
  have due {call : OauthCallRow} (member : .ok call ∈ dueRefreshes env db) : ∃ p,
      call.view = ⟨.refresh, p, none, .queued⟩ ∧
      db.oauthCalls.exists? (fun _ call => call.providerId == p && call.operation == .refresh &&
        (call.status.outstanding || decide (env.now - seconds 30 < call.createdAt))) = false := by
    obtain ⟨⟨p, provider⟩, selected, built⟩ := List.mem_map.mp member
    have cond := (Table.mem_select.mp selected).2
    rw [Bool.and_eq_true, Bool.not_eq_true'] at cond
    exact ⟨p, oauthCall_view built, cond.2⟩
  refine (insertOauth_path .refresh Devices.Call.provider ?joins ?idle ?distinct done).1
  case joins =>
    intro σ k call absent idle _ member
    obtain ⟨p, view, -⟩ := due member
    rw [view] at idle ⊢
    exact .single (.refresh absent idle) trivial
  case idle =>
    intro call member
    obtain ⟨p, view, none⟩ := due member
    refine idle_of_not_exists none fun k old named shared outstanding => ?_
    rw [view] at shared
    have same : old.providerId = p := shared
    simp [same, named, outstanding]
  case distinct =>
    have keys := Table.select_keys_nodup db.providers fun providerId provider => provider.kind == .oauth &&
      provider.isEnabled &&
      (db.secrets.exists? fun _ secret => secret.providerId == providerId && secret.refreshDue env) &&
      !db.oauthCalls.exists? fun _ call => call.providerId == providerId && call.operation == .refresh &&
        (call.status.outstanding || decide (env.now - seconds 30 < call.createdAt))
    refine List.Pairwise.map _ ?_ (List.pairwise_map.mp keys)
    intro a b different first second firstOk secondOk shared
    rw [oauthCall_view firstOk, oauthCall_view secondOk] at shared
    exact different shared

theorem devices_postponePolls : (postponePolls env db).devices = db.devices := by
  ext1
  · funext s
    rw [session_eq, session_eq, postponePolls, Table.get?_update, Option.map_map]
    congr 1
    funext device
    simp only [Function.comp_apply]
    split <;> rfl
  · rfl

theorem queueOauthMaintenance_path (done : queueOauthMaintenance env db = .ok db') :
    DevicePath db.devices db'.devices := by
  rw [queueOauthMaintenance] at done
  split at done
  · cases done
  · rename_i polled inserted
    have refreshes := dueRefreshes_path done
    rw [devices_postponePolls] at refreshes
    exact expireDevices_path.trans ((duePolls_path inserted).trans refreshes)

/-! ### Calls that are claimed, answered or given up -/

/-- Outstanding calls are claimed or given up. -/
theorem advance_path (cond : Nat → OauthCallRow → Bool) {set : OauthCallRow → OauthCallRow} (status : CallStatus)
    (sets : ∀ call : OauthCallRow, (set call).view = { call.view with status := status })
    (outstanding : ∀ k call, cond k call = true → db.oauthCalls.get? k = some call → call.status.outstanding = true) :
    DevicePath db.devices
      ({ db with oauthCalls := db.oauthCalls.update cond fun _ call => set call } : Db).devices := by
  let due (k : Nat) (call : Devices.Call) : Bool := call.status.outstanding && (db.oauthCalls.get? k).any (cond k)
  have same : ({ db with oauthCalls := db.oauthCalls.update cond fun _ call => set call } : Db).devices =
      db.devices.advance due status := by
    ext1
    · rfl
    · funext k
      rw [advance_call, call_eq, call_eq, Table.get?_update]
      rcases found : db.oauthCalls.get? k with _ | call
      · rfl
      · by_cases chosen : cond k call = true
        · have waiting : call.view.status.outstanding = true := outstanding k call chosen found
          simp [Call.advance, due, found, chosen, waiting, sets]
        · simp [Call.advance, due, found, chosen]
  rw [same]
  refine .single (.advance due status fun k call chosen => ?_) trivial
  exact (Bool.and_eq_true_iff.mp chosen).1

theorem fnClaimOauth_path {limit : Option Int} {claimed : List ClaimedService}
    (done : fnClaimOauth env db limit = .ok (claimed, db')) : DevicePath db.devices db'.devices := by
  rw [fnClaimOauth] at done
  split at done
  · cases done
  rename_i queued maintained
  obtain ⟨-, rfl⟩ := Prod.mk.inj (Except.ok.inj done)
  refine (queueOauthMaintenance_path maintained).trans ?_
  let view (calls : Table OauthCallRow) : Devices := { queued with oauthCalls := calls }.devices
  let relies (rest : List (Nat × OauthCallRow)) (calls : Table OauthCallRow) : Prop :=
    ∀ entry ∈ rest, ∃ row, calls.get? entry.1 = some row ∧ row.status.outstanding = true
  refine (Path.foldl view relies ?_ _ queued.oauthCalls ?_).1
  · intro entry rest calls waiting
    refine ⟨?_, fun other member => ?_⟩
    · obtain ⟨row, found, outstanding⟩ := waiting entry List.mem_cons_self
      refine advance_path (fun k _ => k == entry.1) .inFlight (fun _ => rfl) (fun k call chosen found' => ?_)
      rw [beq_iff_eq] at chosen
      subst chosen
      obtain rfl := Option.some.inj (found.symm.trans found')
      exact outstanding
    · obtain ⟨row, found, outstanding⟩ := waiting other (List.mem_cons_of_mem _ member)
      by_cases same : other.1 = entry.1
      · exact ⟨_, by rw [Table.get?_modify, if_pos same, found, Option.map_some], rfl⟩
      · exact ⟨row, by rw [Table.get?_modify, if_neg same, found], outstanding⟩
  · intro entry member
    have selected := List.mem_insertionSort _ |>.mp (List.mem_of_mem_take member)
    obtain ⟨found, cond⟩ := Table.mem_select.mp selected
    rw [Bool.and_true, beq_iff_eq] at cond
    exact ⟨entry.2, found, by rw [cond]; rfl⟩

theorem fnWatchdog_devicePath {timeout : Option Int} : DevicePath db.devices (fnWatchdog env db timeout).devices := by
  have columns (db : Db) : db.oauthDeviceSessions = db.hidden.oauthDeviceSessions ∧ db.oauthCalls = db.hidden.oauthCalls :=
    ⟨rfl, rfl⟩
  have sessions : (fnWatchdog env db timeout).oauthDeviceSessions = db.oauthDeviceSessions := by
    rw [(columns (fnWatchdog env db timeout)).1, hidden_fnWatchdog]
    rfl
  have calls : (fnWatchdog env db timeout).oauthCalls = loseOauth env db.oauthCalls (patience 15 timeout) := by
    rw [(columns (fnWatchdog env db timeout)).2, hidden_fnWatchdog]
    rfl
  have same : (fnWatchdog env db timeout).devices =
      ({ db with oauthCalls := loseOauth env db.oauthCalls (patience 15 timeout) } : Db).devices :=
    devices_congr sessions calls
  rw [same]
  refine advance_path (fun _ call => call.overdue env (patience 15 timeout)) .lost (fun _ => rfl) fun k call overdue _ => ?_
  simp only [ServiceCall.overdue, Bool.and_eq_true, beq_iff_eq] at overdue
  rw [overdue.1]
  rfl

/-- The verdict on a login that the answer to a poll gives. -/
def pollEnding (status : Option Int) (body : Option String) : Option DeviceStatus :=
  if usable status then (nonEmpty (answerText body "access_token")).map fun _ => .connected
  else if refused status && !pollPending body then some (pollVerdict body)
  else none

/-- The answer to the request for a device code instructs the operator. -/
def instructs (status : Option Int) (body : Option String) : Bool :=
  usable status && ["user_code", "verification_uri", "device_code"].all fun key => (nonEmpty (answerText body key)).isSome

def answerEffect (operation : OauthOperation) (status : Option Int) (body : Option String) : Effect :=
  match operation with
  | .deviceAuthorization => if instructs status body then .instruct (pollInterval body) else .fail
  | .devicePoll => match pollEnding status body with
    | some ending => .verdict ending
    | none =>
      if !usable status && refused status then
        .slow fun interval => if answerText body "error" = some "slow_down" then min (interval + 5) 60 else interval
      else .keep
  | _ => .keep

theorem pollEnding_over {status : Option Int} {body : Option String} {ending : DeviceStatus}
    (given : pollEnding status body = some ending) : ending.live = false := by
  unfold pollEnding at given
  split at given
  · obtain ⟨access, -, rfl⟩ := Option.map_eq_some_iff.mp given
    rfl
  · split at given
    · obtain rfl := Option.some.inj given
      unfold pollVerdict
      repeat' split
      all_goals rfl
    · cases given

theorem answerEffect_fits (operation : OauthOperation) (status : Option Int) (body : Option String) :
    Fits operation (answerEffect operation status body) := by
  cases operation with
  | deviceAuthorization =>
    rw [answerEffect]
    split
    · refine .instruct _ ?_ ?_ <;> unfold pollInterval <;> omega
    · exact .fail
  | devicePoll =>
    rw [answerEffect]
    split
    · rename_i ending given
      exact .verdict (pollEnding_over given)
    · split
      · refine .slow _ fun i most => ?_
        split <;> omega
      · exact .keep _ (by decide)
  | tokenExchange | refresh => exact .keep _ (by decide)

theorem harvestOauth_call (callId : Nat) (error : Option String) :
    (db.harvestOauth env callId error).devices.call = db.devices.settle callId := by
  funext k
  rw [call_eq, Db.harvestOauth, Table.get?_modify, Devices.settle]
  by_cases same : k = callId
  · subst same
    rw [if_pos rfl, Function.update_self, Option.map_map, call_eq, Option.map_map]
    rfl
  · rw [if_neg same, Function.update_of_ne same, call_eq]

theorem writeDevice_session {session : Option Nat} {cond : DeviceSessionRow → Bool}
    {set : DeviceSessionRow → DeviceSessionRow} {effect : Effect}
    (shows : ∀ device : DeviceSessionRow, (if cond device = true then set device else device).view = effect.apply device.view) :
    (db.writeDevice session cond set).devices.session = db.devices.applyTo session effect := by
  funext s
  rw [session_eq, Db.writeDevice, Table.get?_update, Option.map_map, applyTo, session_eq]
  by_cases same : session = some s
  · rw [if_pos same, Option.map_map]
    congr 1
    funext device
    simp only [Function.comp_apply, same, beq_self_eq_true, Bool.true_and, shows]
  · have different : (session == some s) = false := by simpa using same
    rw [if_neg same]
    congr 1
    funext device
    simp only [Function.comp_apply, different, Bool.false_and, Bool.false_eq_true, if_false]

theorem applyTo_keep (σ : Devices) (session : Option Nat) : σ.applyTo session .keep = σ.session := by
  funext s
  rw [applyTo]
  split
  · exact Option.map_id_apply
  · rfl

/-- The call is over, and its session is as the effect has it. -/
theorem answer_devices {session : Option Nat} {effect : Effect} {callId : Nat}
    (sessions : db'.devices.session = db.devices.applyTo session effect)
    (calls : db'.devices.call = db.devices.settle callId) : db'.devices = db.devices.answer callId session effect :=
  Devices.ext sessions calls

theorem endDevice_session (call : OauthCallRow) (body : Option String) {ending : DeviceStatus} :
    (endDevice web db call body ending).devices.session = db.devices.applyTo call.deviceSessionId (.verdict ending) :=
  writeDevice_session fun _ => rfl

theorem authorizeDevice_devices {call : OauthCallRow} {status : Option Int} {body : Option String}
    (use : usable status = true) (done : authorizeDevice web db call body = .ok db') :
    db'.devices.session = db.devices.applyTo call.deviceSessionId
        (if instructs status body = true then .instruct (pollInterval body) else .fail) ∧
      db'.oauthCalls = db.oauthCalls := by
  have fails (refused : instructs status body = false)
      (done : db.writeDevice call.deviceSessionId (fun _ => true) (fun device =>
        { device with
          status := .error, error := some "invalid device authorization response", updatedAt := web.now }) = db') :
      db'.devices.session = db.devices.applyTo call.deviceSessionId
          (if instructs status body = true then .instruct (pollInterval body) else .fail) ∧
        db'.oauthCalls = db.oauthCalls := by
    subst done
    rw [refused, if_neg Bool.false_ne_true]
    exact ⟨writeDevice_session fun device => rfl, rfl⟩
  rw [authorizeDevice] at done
  split at done
  · rename_i missing
    refine fails ?_ (Except.ok.inj done)
    simp only [Bool.or_eq_true, Option.isNone_iff_eq_none] at missing
    rcases missing with user | uri
    · simp [instructs, user]
    · simp [instructs, uri]
  · rename_i given
    split at done
    · rename_i missing
      exact fails (by simp [instructs, missing]) (Except.ok.inj done)
    · rename_i code present
      split at done
      · cases done
      · obtain rfl := Except.ok.inj done
        simp only [Bool.or_eq_true, not_or, Option.isNone_iff_eq_none] at given
        have instructed : instructs status body = true := by
          simp [instructs, use, present, Option.isSome_iff_ne_none, given]
        rw [instructed, if_pos rfl]
        exact ⟨writeDevice_session fun device => rfl, rfl⟩

theorem exchangeTokens_devices {callId : Nat} {call : OauthCallRow} {status : Option Int} {body : Option String}
    {answer : Json} (use : usable status = true) (other : call.operation ≠ .deviceAuthorization)
    (done : exchangeTokens web db callId call body = .ok (answer, db')) :
    db'.devices = db.devices.answer callId call.deviceSessionId (answerEffect call.operation status body) := by
  have keeps (kept : answerEffect call.operation status body = .keep) {error : Option String} {middle : Db}
      (same : middle.devices = db.devices) : (middle.harvestOauth web.toEnv callId error).devices =
        db.devices.answer callId call.deviceSessionId (answerEffect call.operation status body) := by
    rw [kept]
    refine answer_devices ?_ (by rw [harvestOauth_call, same])
    rw [applyTo_keep, ← same]
    rfl
  rw [exchangeTokens] at done
  split at done
  · rename_i missing
    obtain ⟨-, rfl⟩ := Prod.mk.inj (Except.ok.inj done)
    refine keeps ?_ rfl
    cases operation : call.operation <;> simp_all [answerEffect, pollEnding]
  · rename_i access present
    split at done
    · cases done
    · cases done
    · rename_i access refresh _ _
      obtain ⟨-, rfl⟩ := Prod.mk.inj (Except.ok.inj done)
      unfold connectDevice
      by_cases poll : call.operation = .devicePoll
      · rw [if_pos (by rw [poll]; rfl)]
        have connects : answerEffect call.operation status body = .verdict .connected := by
          simp [answerEffect, poll, pollEnding, use, present]
        rw [connects]
        exact answer_devices (writeDevice_session fun device => rfl) (harvestOauth_call _ _)
      · rw [if_neg (by simpa using poll)]
        refine keeps ?_ rfl
        cases operation : call.operation <;> simp_all [answerEffect]

theorem failOauth_devices {callId : Nat} {call : OauthCallRow} {status : Option Int} {body : Option String}
    (unusable : usable status = false)
    (final : (call.operation == .devicePoll && refused status && pollPending body) = false) :
    (failOauth web db callId call status body).devices =
      db.devices.answer callId call.deviceSessionId (answerEffect call.operation status body) := by
  have finished (middle : Db) (effect : Effect) (error : Option String)
      (sessions : middle.devices.session = db.devices.applyTo call.deviceSessionId effect)
      (calls : middle.oauthCalls = db.oauthCalls) : (middle.harvestOauth web.toEnv callId error).devices =
        db.devices.answer callId call.deviceSessionId effect := by
    refine answer_devices sessions ?_
    rw [harvestOauth_call, Devices.settle, Devices.settle, Db.devices, Db.devices, calls]
  have unchanged : db.devices.session = db.devices.applyTo call.deviceSessionId .keep := (applyTo_keep _ _).symm
  cases operation : call.operation with
  | devicePoll =>
    by_cases bad : refused status = true
    · have decided : pollPending body = false := by simpa [operation, bad] using final
      have ends : answerEffect .devicePoll status body = .verdict (pollVerdict body) := by
        simp [answerEffect, pollEnding, unusable, bad, decided]
      rw [ends]
      refine finished _ _ _ ?_ ?_ <;> simp only [operation, bad, beq_self_eq_true, Bool.and_self, if_true, reduceCtorEq,
        beq_iff_eq, if_false]
      · exact endDevice_session call body
      · rfl
    · have stays : answerEffect .devicePoll status body = .keep := by simp [answerEffect, pollEnding, unusable, bad]
      rw [stays]
      refine finished _ _ _ ?_ ?_ <;> simp only [operation, bad, Bool.and_false, Bool.false_eq_true, reduceCtorEq,
        beq_iff_eq, if_false]
      exact unchanged
  | deviceAuthorization =>
    have fails : answerEffect .deviceAuthorization status body = .fail := by simp [answerEffect, instructs, unusable]
    rw [fails]
    refine finished _ _ _ ?_ ?_ <;> simp only [operation, reduceCtorEq, beq_iff_eq, Bool.and_eq_true, false_and, if_false,
      if_true]
    · exact writeDevice_session fun _ => rfl
    · rfl
  | tokenExchange | refresh =>
    refine finished _ _ _ ?_ ?_ <;> simp only [operation, reduceCtorEq, beq_iff_eq, Bool.and_eq_true, false_and, if_false]
    exact unchanged

theorem postponePoll_session {call : OauthCallRow} {status : Option Int} {body : Option String}
    (poll : call.operation = .devicePoll) (unusable : usable status = false) (bad : refused status = true)
    (pending : pollPending body = true) : (postponePoll web db call body).devices.session =
      db.devices.applyTo call.deviceSessionId (answerEffect call.operation status body) := by
  have slows : answerEffect call.operation status body = .slow fun interval =>
      if answerText body "error" = some "slow_down" then min (interval + 5) 60 else interval := by
    simp [answerEffect, poll, pollEnding, unusable, bad, pending]
  rw [slows]
  refine writeDevice_session fun device => ?_
  simp only [Effect.apply, DeviceSessionRow.view, beq_iff_eq]
  by_cases awaiting : device.status = .awaitingUser
  · rw [if_pos awaiting]
    exact (if_pos awaiting).symm
  · rw [if_neg awaiting]
    exact (if_neg awaiting).symm

theorem fnCompleteOauth_devices {callId : Nat} {call : OauthCallRow} {status : Option Int} {body : Option String}
    {answer : Json} (found : db.oauthCalls.get? callId = some call) (inFlight : call.status = .inFlight)
    (done : fnCompleteOauth web db callId status body = .ok (answer, db')) :
    db'.devices = db.devices.answer callId call.deviceSessionId (answerEffect call.operation status body) := by
  have running : (call.status != .inFlight) = false := by rw [inFlight]; rfl
  simp only [fnCompleteOauth, found, running, Bool.false_eq_true, if_false] at done
  split at done
  · rename_i use
    split at done
    · rename_i authorization
      rw [beq_iff_eq] at authorization
      split at done
      · cases done
      · rename_i instructed written
        obtain ⟨-, rfl⟩ := Prod.mk.inj (Except.ok.inj done)
        have written := authorizeDevice_devices use written
        rw [authorization]
        refine answer_devices written.1 ?_
        rw [harvestOauth_call, Devices.settle, Devices.settle]
        simp only [Db.devices, written.2]
    · rename_i other
      exact exchangeTokens_devices use (by simpa using other) done
  · rename_i unusable
    split at done
    · rename_i pending
      obtain ⟨-, rfl⟩ := Prod.mk.inj (Except.ok.inj done)
      simp only [Bool.and_eq_true, beq_iff_eq] at pending
      exact answer_devices (postponePoll_session pending.1.1 (by simpa using unusable) pending.1.2 pending.2)
        (harvestOauth_call _ _)
    · rename_i final
      obtain ⟨-, rfl⟩ := Prod.mk.inj (Except.ok.inj done)
      exact failOauth_devices (by simpa using unusable) (by simpa using final)

end Allgres
