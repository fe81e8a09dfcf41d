import Allgres.Web.Server

/-! Whether the counter of the web worker's threads is the number of its live handlers. -/

namespace Allgres

open Relational Jsonb RustStr

variable {Ip : Type} [DecidableEq Ip] {cfg : WebConfig} {fromStr : FromStr} {worker : WebWorker Ip}
  {r : HttpRequest} {peer : Option Ip} {outside : Outside} {shared : Statics Ip} {stage : Stage}

/-! ### Panics -/

/-- The routes whose handler writes into the body of the request. -/
def editsBody (r : HttpRequest) : Bool :=
  (r.method == "POST" && ["/api/v1/agents", "/api/v1/run", "/api/v1/settings/provider"].contains r.route) ||
    patchesAgent r

/-- The body is a JSON value, but neither an object nor null. -/
def notObject (fromStr : FromStr) (r : HttpRequest) : Bool :=
  (fromStr r.body).any fun body => !body.isObj && !body matches .null

theorem setIndex_eq_none {key : String} {item body : Json} :
    setIndex key item body = none ↔ (!body.isObj && !body matches .null) = true := by
  cases body <;> simp [setIndex, Json.isObj]

theorem setIndex_isObj {key : String} {item body set : Json} (done : setIndex key item body = some set) :
    set.isObj = true := by
  cases body <;> simp only [setIndex, Option.some.injEq, reduceCtorEq] at done
  case null => rw [← done]; rfl
  case obj => rw [← done]; rfl

theorem setIndex_bodyJson {key : String} {item : Json} :
    setIndex key item (bodyJson fromStr r) = none ↔ notObject fromStr r = true := by
  rw [setIndex_eq_none, notObject, bodyJson]
  rcases fromStr r.body with _ | body
  · simp [Json.emptyObj, Json.isObj]
  · rfl

theorem setIndex_twice {key other : String} {item value : Json} :
    (setIndex key item (bodyJson fromStr r)).bind (setIndex other value) = none ↔ notObject fromStr r = true := by
  rw [← @setIndex_bodyJson fromStr r key item]
  rcases edited : setIndex key item (bodyJson fromStr r) with _ | body
  · simp
  · have object := setIndex_isObj edited
    rw [Option.bind_some, setIndex_eq_none, object]
    simp

theorem ofEdit_eq_panics {edit : Option Json} : Routed.ofEdit edit = .panics ↔ edit = none := by
  cases edit <;> simp [Routed.ofEdit]

theorem apiRoute_panics : apiRoute fromStr r = .panics ↔ editsBody r = true ∧ notObject fromStr r = true := by
  unfold apiRoute
  dsimp only
  split
  case h_3 method route | h_4 method route | h_9 method route =>
    have edits : editsBody r = true := by simp [editsBody, method, route]
    rw [ofEdit_eq_panics, setIndex_bodyJson, edits]
    simp
  case h_1 method route | h_2 method route | h_5 method route | h_6 method route | h_7 method route | h_8 method route =>
    have spares : editsBody r = false := by simp [editsBody, patchesAgent, method, route]
    simp [spares]
  case h_10 _ _ _ _ agents run _ _ _ _ settings =>
    split
    · rename_i patches
      have edits : editsBody r = true := by rw [editsBody, patches, Bool.or_true]
      rw [ofEdit_eq_panics, setIndex_twice, edits]
      simp
    · rename_i others
      have spares : editsBody r = false := by
        simp only [editsBody, others, Bool.or_false, Bool.and_eq_false_imp, beq_iff_eq]
        intro post
        simpa using ⟨agents post, run post, settings post⟩
      rw [spares]
      split
      · split <;> simp
      · simp

/-- The editing routes are none of those that are served before. -/
theorem editsBody_served (edits : editsBody r = true) :
    r.route ≠ "/api/v1/events/ticket" ∧ r.route ≠ "/api/v1/events" := by
  rw [editsBody, Bool.or_eq_true, Bool.and_eq_true] at edits
  rcases edits with ⟨-, listed⟩ | patches
  · have routes : r.route = "/api/v1/agents" ∨ r.route = "/api/v1/run" ∨ r.route = "/api/v1/settings/provider" := by
      simpa using listed
    rcases routes with route | route | route <;> rw [route] <;> decide
  · rw [patchesAgent, Bool.and_eq_true] at patches
    constructor <;> intro route <;> rw [route] at patches <;> exact absurd patches.2 (by decide +kernel)

omit [DecidableEq Ip] in
theorem serve_panics : (serve fromStr outside shared r).2 = .panics ↔ editsBody r = true ∧ notObject fromStr r = true := by
  unfold serve
  split
  · rename_i ticket
    have spares : ¬ editsBody r = true := fun edits => (editsBody_served edits).1 ticket
    split <;> simp [spares]
  · split
    · rename_i stream
      have spares : ¬ editsBody r = true := fun edits => (editsBody_served edits).2 stream
      simp [spares]
    · rw [← apiRoute_panics]
      split <;> rename_i routed <;> rw [routed] <;> simp

/-- A handler that has let a request through all the checks comes to edit a body that is no object. -/
def Malformed (fromStr : FromStr) : Stage → Prop
  | .routed r => editsBody r = true ∧ notObject fromStr r = true
  | _ => False

theorem triage_next (cfg : WebConfig) (fromStr : FromStr) (outside : Outside) (r : HttpRequest) :
    triage cfg fromStr outside r ≠ .panics := by
  unfold triage
  dsimp only
  split_ifs <;> simp

theorem handleStep_panics :
    (handleStep cfg fromStr peer outside shared stage).2 = .panics ↔ Malformed fromStr stage := by
  cases stage with
  | routed r => exact serve_panics
  | accepted =>
    refine iff_of_false ?_ id
    rcases peer with _ | ip
    · simp [handleStep]
    · simp only [handleStep]
      split <;> simp
  | admitted =>
    refine iff_of_false ?_ id
    rcases read : readHttpRequest outside.reads with _ | r
    · simp [handleStep, read]
    · simpa only [handleStep, read] using triage_next cfg fromStr outside r
  | guarded r =>
    refine iff_of_false ?_ id
    rcases peer with _ | ip
    · simp [handleStep]
    · simp only [handleStep]
      split <;> simp
  | compared r =>
    refine iff_of_false ?_ id
    simp [handleStep]
  | refused =>
    refine iff_of_false ?_ id
    simp [handleStep]

/-! ### The counter -/

/-- The handlers that have been started and have not ended. -/
def WebWorker.live (worker : WebWorker Ip) : Nat := worker.handlers.rows.length

/-- What remains of the counter is what panics have left behind, and it never exceeds the limit. -/
structure Tallied (worker : WebWorker Ip) (lost : Nat) : Prop where
  counter : worker.webThreads = worker.live + lost
  bounded : worker.webThreads ≤ maxWebThreads

/-- The event makes a handler panic. -/
def Harms (fromStr : FromStr) (worker : WebWorker Ip) : WebEvent Ip → Prop
  | .accept _ _ => False
  | .handler id _ => ∃ peer stage, worker.handlers.get? id = some (peer, stage) ∧ Malformed fromStr stage

theorem accept_tallied {lost : Nat} (tallied : Tallied worker lost) (peer : Option Ip) (spawned : Bool) :
    Tallied (worker.step cfg fromStr (.accept peer spawned)) lost := by
  obtain ⟨counter, bounded⟩ := tallied
  unfold maxWebThreads at bounded
  rw [WebWorker.step]
  split
  · exact ⟨counter, bounded⟩
  · rename_i room
    unfold maxWebThreads at room
    dsimp only
    split
    · have grown : (worker.handlers.insert (peer, Stage.accepted)).rows.length = worker.handlers.rows.length + 1 := by
        simp [Table.insert]
      constructor
      · simp only [fetchAdd, WebWorker.live, grown]
        simp only [WebWorker.live] at counter
        omega
      · simp only [fetchAdd, maxWebThreads]
        omega
    · constructor
      · simp only [fetchAdd, fetchSub, WebWorker.live]
        simp only [WebWorker.live] at counter
        omega
      · simp only [fetchAdd, fetchSub, maxWebThreads]
        omega

/-- A handler that goes on is tallied as before, one that returns is tallied no longer, and
one that panics is lost to the counter. -/
theorem handler_tallied {lost id : Nat} (tallied : Tallied worker lost) (outside : Outside) :
    (Harms fromStr worker (.handler id outside) →
      Tallied (worker.step cfg fromStr (.handler id outside)) (lost + 1)) ∧
    (¬ Harms fromStr worker (.handler id outside) →
      Tallied (worker.step cfg fromStr (.handler id outside)) lost) := by
  obtain ⟨counter, bounded⟩ := tallied
  unfold maxWebThreads at bounded
  unfold WebWorker.live at counter
  rcases found : worker.handlers.get? id with _ | ⟨peer, stage⟩
  · have unharmed : ¬ Harms fromStr worker (.handler id outside) := by
      rintro ⟨peer, stage, here, -⟩
      rw [found] at here
      cases here
    refine ⟨fun harms => absurd harms unharmed, fun _ => ?_⟩
    simp only [WebWorker.step, found]
    exact ⟨counter, bounded⟩
  · have harms : Harms fromStr worker (.handler id outside) ↔ Malformed fromStr stage := by
      constructor
      · rintro ⟨peer', stage', here, malformed⟩
        obtain ⟨-, rfl⟩ := Prod.mk.inj (Option.some.inj (found.symm.trans here))
        exact malformed
      · exact fun malformed => ⟨peer, stage, found, malformed⟩
    have shorter := Table.length_delete found
    rw [harms, ← @handleStep_panics Ip _ cfg fromStr peer outside worker.shared stage]
    simp only [WebWorker.step, found]
    rcases handleStep cfg fromStr peer outside worker.shared stage with ⟨shared, stage' | response | _⟩
    · refine ⟨fun panics => (Progress.noConfusion panics), fun _ => ⟨?_, bounded⟩⟩
      simpa [WebWorker.live, Table.modify, Table.update] using counter
    · refine ⟨fun panics => (Progress.noConfusion panics), fun _ => ⟨?_, ?_⟩⟩
      · simp only [fetchSub, WebWorker.live]
        omega
      · simp only [fetchSub, maxWebThreads]
        omega
    · refine ⟨fun _ => ⟨?_, bounded⟩, fun returns => absurd rfl returns⟩
      simp only [WebWorker.live]
      omega

/-- No event makes a handler panic. -/
def Unharmed (cfg : WebConfig) (fromStr : FromStr) : WebWorker Ip → List (WebEvent Ip) → Prop
  | _, [] => True
  | worker, event :: rest => ¬ Harms fromStr worker event ∧ Unharmed cfg fromStr (worker.step cfg fromStr event) rest

/-- What panics leave behind is never taken away. -/
theorem run_tallied (events : List (WebEvent Ip)) {lost : Nat} (tallied : Tallied worker lost) :
    ∃ later, Tallied (worker.run cfg fromStr events) later ∧ lost ≤ later ∧
      (later = lost ↔ Unharmed cfg fromStr worker events) := by
  induction events generalizing worker lost with
  | nil => exact ⟨lost, tallied, le_rfl, iff_of_true rfl trivial⟩
  | cons event rest ih =>
    by_cases harms : Harms fromStr worker event
    · have stepped : Tallied (worker.step cfg fromStr event) (lost + 1) := by
        cases event with
        | accept peer spawned => exact harms.elim
        | handler id outside => exact (handler_tallied tallied outside).1 harms
      obtain ⟨later, reached, grown, -⟩ := ih stepped
      refine ⟨later, reached, by omega, iff_of_false (by omega) fun unharmed => unharmed.1 harms⟩
    · have stepped : Tallied (worker.step cfg fromStr event) lost := by
        cases event with
        | accept peer spawned => exact accept_tallied tallied peer spawned
        | handler id outside => exact (handler_tallied tallied outside).2 harms
      obtain ⟨later, reached, grown, exact'⟩ := ih stepped
      exact ⟨later, reached, grown, exact'.trans (and_iff_right harms).symm⟩

omit [DecidableEq Ip] in
theorem start_tallied : Tallied (WebWorker.start : WebWorker Ip) 0 :=
  ⟨rfl, Nat.zero_le _⟩

/-- `WEB_THREADS` counts the live handlers, until one panics. -/
theorem webThreads_live_iff (cfg : WebConfig) (fromStr : FromStr) (events : List (WebEvent Ip)) :
    (WebWorker.start.run cfg fromStr events).webThreads = (WebWorker.start.run cfg fromStr events).live ↔
      Unharmed cfg fromStr .start events := by
  obtain ⟨lost, tallied, -, unharmed⟩ := @run_tallied Ip _ cfg fromStr .start events 0 start_tallied
  have counter := tallied.counter
  rw [← unharmed]
  omega

/-- `serde_json`, as far as an empty list. -/
def readsList : FromStr := fun text => if text = "[]" then some (.arr []) else none

def listRequest : List UInt8 :=
  Utf8.encode "POST /api/v1/run HTTP/1.1\r\nX-Allgres-Client: 1\r\nContent-Length: 2\r\n\r\n[]"

/-- A connection that sends the request, and its handler up to the end. -/
def listConnection (id : Nat) : List (WebEvent Nat) :=
  .accept none true ::
    List.replicate 5 (.handler id ⟨0, [.data listRequest], "", fun _ => .null⟩)

/-- One such connection leaves the counter too high, and so many leave no room for others. -/
theorem not_webThreads_live :
    let one := (WebWorker.start : WebWorker Nat).run ⟨"", false⟩ readsList (listConnection 0)
    let all := (WebWorker.start : WebWorker Nat).run ⟨"", false⟩ readsList ((List.range 64).flatMap listConnection)
    one.webThreads = 1 ∧ one.live = 0 ∧ all.webThreads = maxWebThreads ∧ all.live = 0 := by
  decide +kernel

end Allgres
