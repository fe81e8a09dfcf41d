import Mathlib.Data.List.Induction
import Allgres.Web.Server

/-! The tickets for the stream of events: each is good for one connection, for as long as it lives. -/

namespace Allgres

variable {now later : Instant} {ticket : String}

/-- A critical section that a thread enters with the tickets. -/
inductive TicketCall
  | mint (now : Instant) (nonce : String)
  | consume (now : Instant) (ticket : String)

def TicketCall.time : TicketCall → Instant
  | mint now _ => now
  | consume now _ => now

def TicketCall.minted : TicketCall → Option String
  | mint _ nonce => some nonce
  | consume .. => none

def Tickets.call (tickets : Tickets) : TicketCall → Tickets
  | .mint now nonce => mintSseTicket tickets now nonce
  | .consume now ticket => (consumeSseTicket tickets now ticket).2

/-- The tickets after some calls, in whatever order the threads made them. -/
def ticketRun (calls : List TicketCall) : Tickets := calls.foldl Tickets.call fun _ => none

theorem ticketRun_snoc (calls : List TicketCall) (call : TicketCall) :
    ticketRun (calls ++ [call]) = (ticketRun calls).call call := by
  rw [ticketRun, List.foldl_append]
  rfl

/-- Some consumption of the ticket has returned true. -/
def Redeemed (calls : List TicketCall) (ticket : String) : Prop :=
  ∃ before now after, calls = before ++ .consume now ticket :: after ∧
    (consumeSseTicket (ticketRun before) now ticket).1 = true

/-! ### One call -/

theorem live_of_le (ordered : now ≤ later) (tickets : Tickets) : (tickets.live now).live later = tickets.live later := by
  funext ticket
  rw [Tickets.live, Tickets.live, Tickets.live, Option.filter_filter]
  congr 1
  funext issued
  have within : later - issued < sseTicketTtl → now - issued < sseTicketTtl :=
    Nat.lt_of_le_of_lt (Nat.sub_le_sub_right ordered issued)
  simpa using within

theorem live_eq_some {tickets : Tickets} {issued : Instant} :
    tickets.live now ticket = some issued ↔ tickets ticket = some issued ∧ now - issued < sseTicketTtl := by
  rw [Tickets.live, Option.filter_eq_some_iff, decide_eq_true_eq]

theorem consume_iff (tickets : Tickets) (now : Instant) (ticket : String) :
    (consumeSseTicket tickets now ticket).1 = true ↔ ∃ issued, tickets.live now ticket = some issued :=
  Option.isSome_iff_exists

/-- A later call of the run does not change what earlier ones returned. -/
theorem redeemed_snoc (calls : List TicketCall) (call : TicketCall) (ticket : String) : Redeemed (calls ++ [call]) ticket ↔
    Redeemed calls ticket ∨ ∃ now, call = .consume now ticket ∧ (consumeSseTicket (ticketRun calls) now ticket).1 = true := by
  constructor
  · rintro ⟨before, now, after, shape, redeems⟩
    rcases after.eq_nil_or_concat with rfl | ⟨after, last, rfl⟩
    · obtain ⟨rfl, same⟩ := List.append_inj' shape rfl
      obtain rfl := List.singleton_inj.mp same
      exact .inr ⟨now, rfl, redeems⟩
    · rw [List.concat_eq_append, ← List.cons_append, ← List.append_assoc] at shape
      obtain ⟨rfl, -⟩ := List.append_inj' shape rfl
      exact .inl ⟨before, now, after, rfl, redeems⟩
  · rintro (⟨before, now, after, rfl, redeems⟩ | ⟨now, rfl, redeems⟩)
    · exact ⟨before, now, after ++ [call], by simp, redeems⟩
    · exact ⟨calls, now, [], rfl, redeems⟩

/-! ### All calls -/

/-- What holds of the tickets after some calls, at a time when these have been made. -/
def TicketsKept (calls : List TicketCall) (now : Instant) : Prop :=
  ∀ ticket issued, (ticketRun calls).live now ticket = some issued ↔
    .mint issued ticket ∈ calls ∧ now - issued < sseTicketTtl ∧ ¬ Redeemed calls ticket

theorem TicketsKept.mono {calls : List TicketCall} (kept : TicketsKept calls now) (ordered : now ≤ later) :
    TicketsKept calls later := by
  intro ticket issued
  have shrinks : later - issued < sseTicketTtl → now - issued < sseTicketTtl :=
    Nat.lt_of_le_of_lt (Nat.sub_le_sub_right ordered issued)
  have before := kept ticket issued
  rw [live_eq_some] at before ⊢
  constructor
  · rintro ⟨stored, alive⟩
    obtain ⟨minted, -, fresh⟩ := before.mp ⟨stored, shrinks alive⟩
    exact ⟨minted, alive, fresh⟩
  · rintro ⟨minted, alive, fresh⟩
    exact ⟨(before.mpr ⟨minted, shrinks alive, fresh⟩).1, alive⟩

/-- A ticket that was redeemed had been minted. -/
theorem minted_of_redeemed {calls : List TicketCall} (kept : ∀ before call after, calls = before ++ call :: after →
    TicketsKept before call.time) (redeemed : Redeemed calls ticket) : ∃ issued, .mint issued ticket ∈ calls := by
  obtain ⟨before, now, after, shape, redeems⟩ := redeemed
  obtain ⟨issued, live⟩ := (consume_iff _ _ _).mp redeems
  obtain ⟨minted, -, -⟩ := (kept before _ after shape ticket issued).mp live
  exact ⟨issued, by rw [shape]; exact List.mem_append_left _ minted⟩

theorem TicketsKept.mint {calls : List TicketCall} {nonce : String} (kept : TicketsKept calls now)
    (unused : ∀ issued, .mint issued nonce ∉ calls) (unredeemed : ¬ Redeemed calls nonce) :
    TicketsKept (calls ++ [.mint now nonce]) now := by
  intro ticket issued
  have redeemed : Redeemed (calls ++ [.mint now nonce]) ticket ↔ Redeemed calls ticket := by
    rw [redeemed_snoc]
    exact ⟨fun either => either.resolve_right nofun, .inl⟩
  rw [ticketRun_snoc, redeemed, List.mem_append, List.mem_singleton]
  have after : (ticketRun calls).call (.mint now nonce) = Function.update ((ticketRun calls).live now) nonce (some now) := rfl
  rw [after, live_eq_some]
  rcases Decidable.em (ticket = nonce) with rfl | other
  · rw [Function.update_self]
    constructor
    · rintro ⟨same, alive⟩
      obtain rfl := Option.some.inj same
      exact ⟨.inr rfl, alive, unredeemed⟩
    · rintro ⟨minted, alive, -⟩
      rcases minted with before | new
      · exact absurd before (unused issued)
      · obtain ⟨rfl, -⟩ := TicketCall.mint.inj new
        exact ⟨rfl, alive⟩
  · have apart : TicketCall.mint issued ticket ≠ .mint now nonce := fun same => other (TicketCall.mint.inj same).2
    have before := kept ticket issued
    rw [Function.update_of_ne other, before]
    constructor
    · rintro ⟨⟨minted, alive, fresh⟩, -⟩
      exact ⟨.inl minted, alive, fresh⟩
    · rintro ⟨minted, alive, fresh⟩
      exact ⟨⟨minted.resolve_right apart, alive, fresh⟩, alive⟩

theorem TicketsKept.consume {calls : List TicketCall} {used : String} (kept : TicketsKept calls now) :
    TicketsKept (calls ++ [.consume now used]) now := by
  intro ticket issued
  have minted : TicketCall.mint issued ticket ∈ calls ++ [.consume now used] ↔ .mint issued ticket ∈ calls := by
    rw [List.mem_append, List.mem_singleton]
    exact ⟨fun either => either.resolve_right nofun, .inl⟩
  have after : (ticketRun calls).call (.consume now used) = Function.update ((ticketRun calls).live now) used none := rfl
  have before := kept ticket issued
  rw [ticketRun_snoc, redeemed_snoc, minted, after, live_eq_some]
  rcases Decidable.em (ticket = used) with rfl | other
  · rw [Function.update_self]
    refine ⟨fun gone => absurd gone.1 nofun, ?_⟩
    rintro ⟨minted, alive, fresh⟩
    rw [not_or] at fresh
    have live := before.mpr ⟨minted, alive, fresh.1⟩
    exact absurd ⟨now, rfl, (consume_iff _ _ _).mpr ⟨issued, live⟩⟩ fresh.2
  · rw [Function.update_of_ne other, before]
    have unrelated : ¬ ∃ time, TicketCall.consume now used = .consume time ticket ∧
        (consumeSseTicket (ticketRun calls) time ticket).1 = true := by
      rintro ⟨time, same, -⟩
      exact other (TicketCall.consume.inj same).2.symm
    constructor
    · rintro ⟨⟨minted, alive, fresh⟩, -⟩
      exact ⟨minted, alive, not_or.mpr ⟨fresh, unrelated⟩⟩
    · rintro ⟨minted, alive, fresh⟩
      exact ⟨⟨minted, alive, (not_or.mp fresh).1⟩, alive⟩

/-- No value of `nonce` comes twice. -/
abbrev NoncesFresh (calls : List TicketCall) : Prop := (calls.filterMap TicketCall.minted).Nodup

theorem mem_minted {calls : List TicketCall} {issued : Instant} (minted : .mint issued ticket ∈ calls) :
    ticket ∈ calls.filterMap TicketCall.minted := List.mem_filterMap.mpr ⟨_, minted, rfl⟩

theorem kept_of_run {calls : List TicketCall} (ordered : calls.Pairwise fun a b => a.time ≤ b.time) (fresh : NoncesFresh calls)
    (bound : ∀ call ∈ calls, call.time ≤ now) : TicketsKept calls now := by
  induction length : calls.length using Nat.strong_induction_on generalizing calls now with
  | _ n ih =>
    rcases calls.eq_nil_or_concat with rfl | ⟨calls, call, rfl⟩
    · intro ticket issued
      exact ⟨nofun, fun minted => absurd minted.1 List.not_mem_nil⟩
    · rw [List.concat_eq_append] at *
      have earlier (front : List TicketCall) (last : TicketCall) (back : List TicketCall)
          (shape : calls ++ [call] = front ++ last :: back) : TicketsKept front last.time := by
        rw [shape] at ordered fresh length
        rw [List.pairwise_append] at ordered
        have fewer : front.length < n := by
          rw [← length, List.length_append, List.length_cons]
          omega
        rw [NoncesFresh, List.filterMap_append] at fresh
        exact ih _ fewer ordered.1 (List.nodup_append.mp fresh).1
          (fun other inside => ordered.2.2 other inside last (List.mem_cons_self ..)) rfl
      have before := earlier calls call [] rfl
      refine TicketsKept.mono ?_ (bound call (List.mem_append_right _ (List.mem_singleton.mpr rfl)))
      cases call with
      | mint time nonce =>
        have absent : nonce ∉ calls.filterMap TicketCall.minted := by
          rw [NoncesFresh, List.filterMap_append, List.nodup_append] at fresh
          exact fun inside => fresh.2.2 nonce inside nonce (List.mem_singleton.mpr rfl) rfl
        refine before.mint (fun issued minted => absent (mem_minted minted)) fun redeemed => ?_
        obtain ⟨issued, minted⟩ := minted_of_redeemed (fun front last back shape =>
          earlier front last (back ++ [.mint time nonce]) (by rw [shape]; simp)) redeemed
        exact absent (mem_minted minted)
      | consume time used => exact before.consume

/-! ### Routes -/

/-- Off the stream's route the tickets do not count. -/
theorem authorized_elsewhere {r : HttpRequest} (elsewhere : r.route ≠ "/api/v1/events") (cfg : WebConfig) (tickets : Tickets)
    (now : Instant) : authorized r cfg tickets now = (cfg.token.isEmpty || bearer r cfg, tickets) := by
  rw [authorized]
  split
  next none => rw [none, Bool.true_or]
  next some =>
    have token : cfg.token.isEmpty = false := Bool.eq_false_iff.mpr some
    split
    next good => rw [good, Bool.or_true]
    next bad =>
      have failed : bearer r cfg = false := Bool.eq_false_iff.mpr bad
      rw [token, failed]
      rfl

/-- A ticket is accepted if and only if it was minted less than its lifetime ago and not
accepted before, and on one route only. -/
theorem sse_ticket_single_use (calls : List TicketCall) (ordered : calls.Pairwise fun a b => a.time ≤ b.time)
    (fresh : NoncesFresh calls) :
    (∀ before now ticket after, calls = before ++ .consume now ticket :: after →
      ((consumeSseTicket (ticketRun before) now ticket).1 = true ↔
        (∃ issued, .mint issued ticket ∈ before ∧ now - issued < sseTicketTtl) ∧
          ∀ front earlier back, before = front ++ .consume earlier ticket :: back →
            (consumeSseTicket (ticketRun front) earlier ticket).1 = false)) ∧
    ∀ r cfg tickets now, r.route ≠ "/api/v1/events" →
      authorized r cfg tickets now = (cfg.token.isEmpty || bearer r cfg, tickets) := by
  refine ⟨fun before now ticket after shape => ?_, fun r cfg tickets now elsewhere =>
    authorized_elsewhere elsewhere cfg tickets now⟩
  rw [shape, List.pairwise_append] at ordered
  rw [shape, NoncesFresh, List.filterMap_append] at fresh
  have kept : TicketsKept before now := kept_of_run ordered.1 (List.nodup_append.mp fresh).1
    fun other inside => ordered.2.2 other inside _ (List.mem_cons_self ..)
  have unused : ¬ Redeemed before ticket ↔ ∀ front earlier back, before = front ++ .consume earlier ticket :: back →
      (consumeSseTicket (ticketRun front) earlier ticket).1 = false := by
    constructor
    · intro none front earlier back parts
      rw [Bool.eq_false_iff]
      exact fun redeems => none ⟨front, earlier, back, parts, redeems⟩
    · rintro all ⟨front, earlier, back, parts, redeems⟩
      rw [all front earlier back parts] at redeems
      cases redeems
  rw [consume_iff, ← unused]
  constructor
  · rintro ⟨issued, live⟩
    obtain ⟨minted, alive, none⟩ := (kept ticket issued).mp live
    exact ⟨⟨issued, minted, alive⟩, none⟩
  · rintro ⟨⟨issued, minted, alive⟩, none⟩
    exact ⟨issued, (kept ticket issued).mpr ⟨minted, alive, none⟩⟩

/-- Two connections race for a ticket, and a third comes too late for another one. -/
def ticketRace : List TicketCall :=
  [.mint 0 "3f", .mint (secs 1) "a7", .consume (secs 2) "3f", .consume (secs 2) "3f", .consume (secs 40) "a7"]

theorem sse_ticket_single_use_race :
    (∀ before now ticket after, ticketRace = before ++ .consume now ticket :: after →
      ((consumeSseTicket (ticketRun before) now ticket).1 = true ↔
        (∃ issued, .mint issued ticket ∈ before ∧ now - issued < sseTicketTtl) ∧
          ∀ front earlier back, before = front ++ .consume earlier ticket :: back →
            (consumeSseTicket (ticketRun front) earlier ticket).1 = false)) ∧
    ∀ r cfg tickets now, r.route ≠ "/api/v1/events" →
      authorized r cfg tickets now = (cfg.token.isEmpty || bearer r cfg, tickets) :=
  sse_ticket_single_use ticketRace (by decide +kernel) (by decide +kernel)

end Allgres
