import Allgres.Safety.Rates

/-! The entries of the worker's maps of hits: when each of them is of an address that
has hit the map inside its window. -/

namespace Allgres

variable {Ip : Type} [DecidableEq Ip]

/-- Which of the three functions a thread calls. -/
inductive LimitKind
  | limited
  | exceeded
  | recorded
  deriving DecidableEq

structure LimitCall (Ip : Type) where
  kind : LimitKind
  now : Instant
  ip : Ip

def LimitCall.enter (call : LimitCall Ip) (w : RateWindows Ip) : RateWindows Ip :=
  match call.kind with
  | .limited => (rateLimited w call.now call.ip).2
  | .exceeded => (authFailuresExceeded w call.now call.ip).2
  | .recorded => recordAuthFailure w call.now call.ip

/-- The map that a call touches, and its window. -/
def LimitCall.map (call : LimitCall Ip) (w : RateWindows Ip) : HitMap Ip :=
  if call.kind = .limited then w.general else w.authFail

def LimitCall.window (call : LimitCall Ip) : Instant :=
  if call.kind = .limited then rateGeneralWindow else rateAuthFailWindow

def limitRun (calls : List (LimitCall Ip)) : RateWindows Ip := calls.foldl (fun w call => call.enter w) RateWindows.empty

theorem limitRun_snoc (calls : List (LimitCall Ip)) (call : LimitCall Ip) :
    limitRun (calls ++ [call]) = call.enter (limitRun calls) := by
  rw [limitRun, List.foldl_append]
  rfl

/-- One of the hits lies inside the window. -/
def Recent (now window : Instant) (hits : List Instant) : Prop := ∃ hit ∈ hits, now - hit < window

/-- Every entry is of an address with a recorded hit inside the window. -/
def Live (map : HitMap Ip) (now window : Instant) : Prop := ∀ ip hits, map ip = some hits → Recent now window hits

/-- The same of every address but one. -/
def LiveBut (ip : Ip) (map : HitMap Ip) (now window : Instant) : Prop :=
  ∀ other hits, other ≠ ip → map other = some hits → Recent now window hits

/-- The other addresses in the map have hit it inside the window, and where the call only
looks at the hits, so has its own. -/
def LimitCall.Spared (call : LimitCall Ip) (w : RateWindows Ip) : Prop :=
  LiveBut call.ip (call.map w) call.now call.window ∧
    (call.kind = .exceeded → Recent call.now call.window ((call.map w call.ip).getD []))

/-! ### One call -/

theorem recent_retained {now window : Instant} {hits : List Instant} :
    Recent now window (retained now window hits) ↔ Recent now window hits := by
  constructor
  · rintro ⟨hit, inside, recent⟩
    exact ⟨hit, (List.mem_filter.mp inside).1, recent⟩
  · rintro ⟨hit, inside, recent⟩
    exact ⟨hit, List.mem_filter.mpr ⟨inside, decide_eq_true recent⟩, recent⟩

theorem recent_now {now window : Instant} (positive : 0 < window) (hits : List Instant) : Recent now window (hits ++ [now]) := by
  refine ⟨now, List.mem_append_right _ (List.mem_singleton.mpr rfl), ?_⟩
  rw [Nat.sub_self]
  exact positive

theorem recent_of_length {now window : Instant} {hits : List Instant} {limit : Nat} (positive : 0 < limit)
    (many : limit ≤ (retained now window hits).length) : Recent now window (retained now window hits) := by
  obtain ⟨hit, inside⟩ := List.exists_mem_of_length_pos (Nat.lt_of_lt_of_le positive many)
  exact ⟨hit, inside, of_decide_eq_true (List.mem_filter.mp inside).2⟩

/-- An entry that was set to recent hits is no obstacle. -/
theorem live_update {map : HitMap Ip} {ip : Ip} {now window : Instant} {hits : List Instant} :
    Live (Function.update map ip (some hits)) now window ↔ LiveBut ip map now window ∧ Recent now window hits := by
  constructor
  · intro live
    refine ⟨fun other found apart same => live other found ?_, live ip hits (Function.update_self ..)⟩
    rw [Function.update_of_ne apart, same]
  · rintro ⟨others, recent⟩ other found same
    rcases Decidable.em (other = ip) with rfl | apart
    · rw [Function.update_self] at same
      rwa [← Option.some.inj same]
    · rw [Function.update_of_ne apart] at same
      exact others other found apart same

/-- The maps of the general limit hold no empty list of hits. -/
def Filled (map : HitMap Ip) : Prop := ∀ ip, map ip ≠ some []

omit [DecidableEq Ip] in
theorem live_filter {map : HitMap Ip} {now window : Instant} :
    Live (fun ip => (map ip).filter fun hits => hits ≠ []) now window ↔
      ∀ ip hits, map ip = some hits → hits ≠ [] → Recent now window hits := by
  constructor
  · intro live ip hits same some
    refine live ip hits ?_
    show (map ip).filter _ = _
    rw [same]
    simp [some]
  · intro live ip hits same
    obtain ⟨found, some⟩ := Option.filter_eq_some_iff.mp same
    exact live ip hits found (by simpa using some)

theorem live_rateCheck {map : HitMap Ip} (filled : Filled map) (now : Instant) (ip : Ip) {window : Instant} {limit : Nat}
    (positive : 0 < window) (positive' : 0 < limit) :
    Live (rateCheck map now ip window limit).2 now window ↔ LiveBut ip map now window := by
  rw [rateCheck]
  split
  next full =>
    rw [live_update]
    exact ⟨And.left, fun others => ⟨others, recent_of_length positive' full⟩⟩
  next =>
    have recent : Recent now window (retained now window ((map ip).getD []) ++ [now]) := recent_now positive _
    rw [live_filter]
    constructor
    · intro live other hits apart same
      refine live other hits ?_ fun empty => filled other (by rw [same, empty])
      rw [Function.update_of_ne apart, same]
    · intro others other hits same _
      exact live_update.mpr ⟨others, recent⟩ other hits same

theorem filled_rateCheck {map : HitMap Ip} (filled : Filled map) (now : Instant) (ip : Ip) {window : Instant} {limit : Nat}
    (positive : 0 < limit) : Filled (rateCheck map now ip window limit).2 := by
  intro other
  rw [rateCheck]
  split
  next full =>
    show Function.update map ip _ other ≠ _
    rcases Decidable.em (other = ip) with rfl | apart
    · rw [Function.update_self]
      intro same
      rw [Option.some.inj same] at full
      exact absurd full (Nat.not_le.mpr positive)
    · rw [Function.update_of_ne apart]
      exact filled other
  next =>
    intro same
    exact absurd (Option.filter_eq_some_iff.mp same).2 (by simp)

theorem filled_run (calls : List (LimitCall Ip)) : Filled (limitRun calls).general := by
  induction calls using List.reverseRecOn with
  | nil => exact fun _ => nofun
  | append_singleton calls call ih =>
    rw [limitRun_snoc, LimitCall.enter]
    split
    · exact filled_rateCheck ih call.now call.ip (by decide)
    · exact ih
    · exact ih

theorem live_exceeded (w : RateWindows Ip) (now : Instant) (ip : Ip) :
    Live (authFailuresExceeded w now ip).2.authFail now rateAuthFailWindow ↔
      LiveBut ip w.authFail now rateAuthFailWindow ∧ Recent now rateAuthFailWindow ((w.authFail ip).getD []) := by
  rw [← recent_retained]
  exact live_update

theorem live_recorded (w : RateWindows Ip) (now : Instant) (ip : Ip) :
    Live (recordAuthFailure w now ip).authFail now rateAuthFailWindow ↔ LiveBut ip w.authFail now rateAuthFailWindow := by
  have recent : Recent now rateAuthFailWindow (((w.authFail ip).getD []) ++ [now]) := recent_now (by decide) _
  exact live_update.trans ⟨And.left, fun others => ⟨others, recent⟩⟩

/-- After a call every entry of its map is live if and only if the call was spared entries that are not. -/
theorem live_enter_iff (calls : List (LimitCall Ip)) (call : LimitCall Ip) :
    Live (call.map (call.enter (limitRun calls))) call.now call.window ↔ call.Spared (limitRun calls) := by
  obtain ⟨kind, now, ip⟩ := call
  cases kind with
  | limited =>
    have checked : Live (rateLimited (limitRun calls) now ip).2.general now rateGeneralWindow ↔ _ :=
      live_rateCheck (filled_run calls) now ip (by decide) (by decide)
    simpa [LimitCall.map, LimitCall.enter, LimitCall.window, LimitCall.Spared] using checked
  | exceeded =>
    simpa [LimitCall.map, LimitCall.enter, LimitCall.window, LimitCall.Spared] using live_exceeded (limitRun calls) now ip
  | recorded =>
    simpa [LimitCall.map, LimitCall.enter, LimitCall.window, LimitCall.Spared] using live_recorded (limitRun calls) now ip

/-- In a run the touched map is bounded by the live addresses after every call if and
only if every call was spared entries that have expired, and looked only at addresses
with a recent failure. -/
theorem maps_live_iff (calls : List (LimitCall Ip)) :
    (∀ before call after, calls = before ++ call :: after →
      Live (call.map (limitRun (before ++ [call]))) call.now call.window) ↔
    ∀ before call after, calls = before ++ call :: after → call.Spared (limitRun before) := by
  constructor
  · intro live before call after shape
    have bounded := live before call after shape
    rw [limitRun_snoc] at bounded
    exact (live_enter_iff before call).mp bounded
  · intro spared before call after shape
    rw [limitRun_snoc]
    exact (live_enter_iff before call).mpr (spared before call after shape)

/-- The hits of the first address have expired when the second one comes. -/
theorem not_maps_live : ¬ ∀ calls : List (LimitCall Nat), ∀ before call after, calls = before ++ call :: after →
    Live (call.map (limitRun (before ++ [call]))) call.now call.window := by
  intro live
  have bounded := live [⟨.limited, 0, 1⟩, ⟨.limited, secs 60, 2⟩] [⟨.limited, 0, 1⟩] ⟨.limited, secs 60, 2⟩ [] rfl
  obtain ⟨hit, inside, recent⟩ := bounded 1 [0] rfl
  rw [List.mem_singleton.mp inside] at recent
  exact absurd recent (by decide)

end Allgres
