import Mathlib.Data.List.Induction
import Allgres.Web.Server

/-! The door of the web worker. Once there is a token, what the runtime worker says is told to requests that bear
it, and to nobody else; and the stream of events is opened to these, and to tickets that they were given. -/

namespace Allgres

open Relational Jsonb

def ticketRoute : String := "/api/v1/events/ticket"

def streamRoute : String := "/api/v1/events"

variable {Ip : Type} [DecidableEq Ip] {cfg : WebConfig} {fromStr : FromStr} {shared : Statics Ip} {peer : Option Ip}
  {outside : Outside} {stage : Stage} {r : HttpRequest} {ticket : String} {issued : Instant} {id : Nat}
  {redeemed : String → Prop} {events : List (WebEvent Ip)}

/-- The request bears the token, or it asks for the stream with a ticket that it redeems. -/
inductive Admitted (cfg : WebConfig) (redeemed : String → Prop) (r : HttpRequest) : Prop
  | bearer : bearer r cfg = true → Admitted cfg redeemed r
  | ticket (ticket : String) : r.route = streamRoute → queryParam r.query "ticket" = some ticket →
      redeemed ticket → Admitted cfg redeemed r

/-- What the handler knows of its request. -/
def Stage.Passed (cfg : WebConfig) (redeemed : String → Prop) : Stage → Prop
  | .accepted | .admitted | .refused => True
  | .guarded r | .compared r => csrfOk r = true
  | .routed r => csrfOk r = true ∧ Admitted cfg redeemed r

theorem Admitted.mono {more : String → Prop} (admitted : Admitted cfg redeemed r)
    (older : ∀ ticket, redeemed ticket → more ticket) : Admitted cfg more r := by
  cases admitted with
  | bearer bears => exact .bearer bears
  | ticket ticket route shown was => exact .ticket ticket route shown (older ticket was)

theorem Stage.Passed.mono {more : String → Prop} (passed : stage.Passed cfg redeemed)
    (older : ∀ ticket, redeemed ticket → more ticket) : stage.Passed cfg more := by
  cases stage with
  | accepted | admitted | refused => trivial
  | guarded r | compared r => exact passed
  | routed r => exact ⟨passed.1, passed.2.mono older⟩

/-! ### One step of a handler -/

theorem triage_passed {next : Stage} (passes : triage cfg fromStr outside r = .next next) :
    next.Passed cfg redeemed := by
  unfold triage at passes
  dsimp only at passes
  split_ifs at passes with _ _ _ _ _ _ _ foreign
  all_goals try cases passes
  have own : csrfOk r = true := by simpa using foreign
  exact own

theorem live_ticket {tickets : Tickets} {now : Instant} (live : tickets.live now ticket = some issued) :
    tickets ticket = some issued :=
  (Option.filter_eq_some_iff.mp live).1

/-- With a token to be borne a request is let in for what it shows. -/
theorem authorized_admitted {tickets : Tickets} {now : Instant} (secret : cfg.token.isEmpty = false)
    (kept : ∀ ticket issued, tickets ticket = some issued → now - issued < sseTicketTtl → redeemed ticket)
    (passes : (authorized r cfg tickets now).1 = true) : Admitted cfg redeemed r := by
  unfold authorized at passes
  rw [secret] at passes
  simp only [Bool.false_eq_true, if_false] at passes
  split at passes
  · rename_i bears
    exact .bearer bears
  · split at passes
    · rename_i route
      split at passes
      · rename_i ticket shown
        obtain ⟨issued, live⟩ := Option.isSome_iff_exists.mp passes
        obtain ⟨stored, alive⟩ := Option.filter_eq_some_iff.mp live
        exact .ticket ticket route shown (kept ticket issued stored (of_decide_eq_true alive))
      · cases passes
    · cases passes

theorem authorized_tickets {tickets : Tickets} {now : Instant}
    (stored : (authorized r cfg tickets now).2 ticket = some issued) : tickets ticket = some issued := by
  unfold authorized at stored
  split at stored
  · exact stored
  · split at stored
    · exact stored
    · split at stored
      · split at stored
        · rename_i used _
          dsimp only [consumeSseTicket] at stored
          rw [Function.update_apply] at stored
          split at stored
          · cases stored
          · exact live_ticket stored
        · exact stored
      · exact stored

/-- The handler gives a ticket to its request. -/
def Mints (outside : Outside) (ticket : String) (issued : Instant) : Stage → Prop
  | .routed r => r.method = "POST" ∧ r.route = ticketRoute ∧ outside.nonce = ticket ∧ outside.now = issued
  | _ => False

omit [DecidableEq Ip] in
theorem serve_tickets (stored : (serve fromStr outside shared r).1.tickets ticket = some issued) :
    shared.tickets ticket = some issued ∨ Mints outside ticket issued (.routed r) := by
  unfold serve at stored
  split at stored
  · rename_i route
    split at stored
    · exact .inl stored
    · rename_i post
      dsimp only [mintSseTicket] at stored
      rw [Function.update_apply] at stored
      split at stored
      · rename_i same
        exact .inr ⟨not_not.mp post, route, same.symm, Option.some.inj stored⟩
      · exact .inl (live_ticket stored)
  · split at stored
    · exact .inl stored
    · split at stored <;> exact .inl stored

theorem handleStep_tickets
    (stored : (handleStep cfg fromStr peer outside shared stage).1.tickets ticket = some issued) :
    shared.tickets ticket = some issued ∨ Mints outside ticket issued stage := by
  cases stage with
  | accepted | guarded r =>
    cases peer with
    | none => exact .inl stored
    | some ip => exact .inl stored
  | admitted =>
    rw [handleStep] at stored
    split at stored
    · exact .inl stored
    · exact .inl stored
  | refused => exact .inl stored
  | compared r => exact .inl (authorized_tickets stored)
  | routed r => exact serve_tickets stored

theorem handleStep_passed {next : Stage} (secret : cfg.token.isEmpty = false)
    (kept : ∀ ticket issued, shared.tickets ticket = some issued → outside.now - issued < sseTicketTtl →
      redeemed ticket)
    (passed : stage.Passed cfg redeemed)
    (goes : (handleStep cfg fromStr peer outside shared stage).2 = .next next) : next.Passed cfg redeemed := by
  cases stage with
  | accepted =>
    cases peer with
    | none =>
      cases goes
      trivial
    | some ip =>
      rw [handleStep] at goes
      dsimp only at goes
      split at goes
      · cases goes
      · cases goes
        trivial
  | admitted =>
    rw [handleStep] at goes
    split at goes
    · cases goes
    · exact triage_passed goes
  | guarded r =>
    cases peer with
    | none =>
      cases goes
      exact passed
    | some ip =>
      rw [handleStep] at goes
      dsimp only at goes
      split at goes
      · cases goes
      · cases goes
        exact passed
  | compared r =>
    rw [handleStep] at goes
    dsimp only at goes
    split at goes
    · rename_i lets
      cases goes
      exact ⟨passed, authorized_admitted secret kept lets⟩
    · cases goes
      trivial
  | refused => cases goes
  | routed r =>
    rw [handleStep, serve] at goes
    split at goes
    · split at goes <;> cases goes
    · split at goes
      · cases goes
      · split at goes <;> cases goes

/-- A handler has given the ticket to a request that bears the token. -/
def Minted (cfg : WebConfig) (fromStr : FromStr) (events : List (WebEvent Ip)) (ticket : String) (issued : Instant) :
    Prop :=
  ∃ before id outside after peer r, events = before ++ .handler id outside :: after ∧
    (WebWorker.start.run cfg fromStr before).handlers.get? id = some (peer, .routed r) ∧ csrfOk r = true ∧
    bearer r cfg = true ∧ Mints outside ticket issued (.routed r)

/-- The ticket was minted, and a handler has come with it in time. -/
def Redeems (cfg : WebConfig) (fromStr : FromStr) (events : List (WebEvent Ip)) (ticket : String) : Prop :=
  ∃ issued id outside, Minted cfg fromStr events ticket issued ∧ .handler id outside ∈ events ∧
    outside.now - issued < sseTicketTtl

theorem Minted.snoc (minted : Minted cfg fromStr events ticket issued) (event : WebEvent Ip) :
    Minted cfg fromStr (events ++ [event]) ticket issued := by
  obtain ⟨before, id, outside, after, peer, r, rfl, rest⟩ := minted
  exact ⟨before, id, outside, after ++ [event], peer, r, by rw [List.append_assoc, List.cons_append], rest⟩

theorem Redeems.snoc (redeems : Redeems cfg fromStr events ticket) (event : WebEvent Ip) :
    Redeems cfg fromStr (events ++ [event]) ticket := by
  obtain ⟨issued, id, outside, minted, member, alive⟩ := redeems
  exact ⟨issued, id, outside, minted.snoc event, List.mem_append_left _ member, alive⟩

/-- The handlers have come as far as they may, and the tickets are those that were given. -/
structure DoorKept (cfg : WebConfig) (fromStr : FromStr) (events : List (WebEvent Ip)) : Prop where
  handlers : ∀ id peer stage, (WebWorker.start.run cfg fromStr events).handlers.get? id = some (peer, stage) →
    stage.Passed cfg (Redeems cfg fromStr events)
  tickets : ∀ ticket issued, (WebWorker.start.run cfg fromStr events).shared.tickets ticket = some issued →
    Minted cfg fromStr events ticket issued

theorem run_snoc (events : List (WebEvent Ip)) (event : WebEvent Ip) :
    WebWorker.start.run cfg fromStr (events ++ [event]) =
      (WebWorker.start.run cfg fromStr events).step cfg fromStr event := by
  rw [WebWorker.run, List.foldl_append]
  rfl

/-- What holds of the handlers before an event holds of those that it leaves alone. -/
theorem DoorKept.older (kept : DoorKept cfg fromStr events) (event : WebEvent Ip)
    (found : (WebWorker.start.run cfg fromStr events).handlers.get? id = some (peer, stage)) :
    stage.Passed cfg (Redeems cfg fromStr (events ++ [event])) :=
  (kept.handlers id peer stage found).mono fun _ redeems => redeems.snoc event

theorem DoorKept.accept (kept : DoorKept cfg fromStr events) (from' : Option Ip) (spawned : Bool) :
    DoorKept cfg fromStr (events ++ [.accept from' spawned]) := by
  constructor
  · intro id peer stage found
    rw [run_snoc, WebWorker.step] at found
    split at found
    · exact kept.older _ found
    · dsimp only at found
      split at found
      · rw [Table.get?_insert] at found
        split at found
        · obtain ⟨-, rfl⟩ := Prod.mk.inj (Option.some.inj found)
          trivial
        · exact kept.older _ found
      · exact kept.older _ found
  · intro ticket issued stored
    refine (kept.tickets ticket issued ?_).snoc _
    rw [run_snoc, WebWorker.step] at stored
    split at stored
    · exact stored
    · dsimp only at stored
      split at stored <;> exact stored

theorem DoorKept.handler (kept : DoorKept cfg fromStr events) (secret : cfg.token.isEmpty = false) (id : Nat)
    (outside : Outside) : DoorKept cfg fromStr (events ++ [.handler id outside]) := by
  cases found : (WebWorker.start.run cfg fromStr events).handlers.get? id with
  | none =>
    have same : WebWorker.start.run cfg fromStr (events ++ [.handler id outside]) =
        WebWorker.start.run cfg fromStr events := by
      rw [run_snoc, WebWorker.step, found]
    constructor
    · intro other peer stage there
      exact kept.older _ (same ▸ there)
    · intro ticket issued stored
      exact (kept.tickets ticket issued (same ▸ stored)).snoc _
  | some handler =>
    obtain ⟨peer, stage⟩ := handler
    have passed := kept.older (.handler id outside) found
    constructor
    · intro other from' later there
      rw [run_snoc, WebWorker.step, found] at there
      dsimp only at there
      split at there
      · rename_i next goes
        dsimp only at there
        rw [Table.get?_modify] at there
        split at there
        · obtain ⟨old, -, moved⟩ := Option.map_eq_some_iff.mp there
          obtain ⟨-, rfl⟩ := Prod.mk.inj moved
          refine handleStep_passed secret (fun ticket issued stored alive => ?_) passed goes
          exact ⟨issued, id, outside, (kept.tickets ticket issued stored).snoc _,
            List.mem_append_right _ (List.mem_singleton.mpr rfl), alive⟩
        · exact kept.older _ there
      · dsimp only at there
        rw [Table.get?_delete] at there
        exact kept.older _ (Option.filter_eq_some_iff.mp there).1
      · dsimp only at there
        rw [Table.get?_delete] at there
        exact kept.older _ (Option.filter_eq_some_iff.mp there).1
    · intro ticket issued stored
      have shown : (handleStep cfg fromStr peer outside (WebWorker.start.run cfg fromStr events).shared
          stage).1.tickets ticket = some issued := by
        rw [run_snoc, WebWorker.step, found] at stored
        dsimp only at stored
        split at stored <;> exact stored
      rcases handleStep_tickets shown with old | mints
      · exact (kept.tickets ticket issued old).snoc _
      · cases stage with
        | accepted | admitted | guarded | compared | refused => exact mints.elim
        | routed r =>
          obtain ⟨own, admitted⟩ := passed
          refine ⟨events, id, outside, [], peer, r, rfl, found, own, ?_, mints⟩
          cases admitted with
          | bearer bears => exact bears
          | ticket ticket route =>
            rw [mints.2.1] at route
            exact absurd route (by decide)

end Allgres
