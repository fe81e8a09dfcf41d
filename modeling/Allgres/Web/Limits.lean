import Mathlib.Algebra.Group.Nat.Defs
import Mathlib.Logic.Function.Basic

/-! What the threads of the web worker share: the hits of each address, and the
tickets for the stream of events. Each function is one critical section. -/

namespace Allgres

/-- A point in time, in nanoseconds. -/
abbrev Instant := Nat

def secs (count : Nat) : Instant := count * 10 ^ 9

/-- A `HashMap`: the keys are those with a value. -/
abbrev HitMap (Ip : Type) := Ip → Option (List Instant)

structure RateWindows (Ip : Type) where
  general : HitMap Ip
  authFail : HitMap Ip

def rateGeneralLimit : Nat := 120
def rateGeneralWindow : Instant := secs 60
def rateAuthFailLimit : Nat := 20
def rateAuthFailWindow : Instant := secs 300

/-- `retain` on the hits of an address. -/
def retained (now window : Instant) (hits : List Instant) : List Instant :=
  hits.filter fun hit => decide (now - hit < window)

section Rates

variable {Ip : Type} [DecidableEq Ip]

def rateCheck (map : HitMap Ip) (now : Instant) (ip : Ip) (window : Instant) (limit : Nat) : Bool × HitMap Ip :=
  let hits := retained now window ((map ip).getD [])
  if limit ≤ hits.length then (false, Function.update map ip (some hits))
  else
    let map := Function.update map ip (some (hits ++ [now]))
    (true, fun ip => (map ip).filter fun hits => hits ≠ [])

def rateLimited (w : RateWindows Ip) (now : Instant) (ip : Ip) : Bool × RateWindows Ip :=
  let (under, general) := rateCheck w.general now ip rateGeneralWindow rateGeneralLimit
  (!under, { w with general := general })

def authFailuresExceeded (w : RateWindows Ip) (now : Instant) (ip : Ip) : Bool × RateWindows Ip :=
  let hits := retained now rateAuthFailWindow ((w.authFail ip).getD [])
  (decide (rateAuthFailLimit ≤ hits.length), { w with authFail := Function.update w.authFail ip (some hits) })

def recordAuthFailure (w : RateWindows Ip) (now : Instant) (ip : Ip) : RateWindows Ip :=
  { w with authFail := Function.update w.authFail ip (some (((w.authFail ip).getD []) ++ [now])) }

end Rates

/-! ### Tickets -/

/-- When each ticket was issued. -/
abbrev Tickets := String → Option Instant

def sseTicketTtl : Instant := secs 30

def Tickets.live (tickets : Tickets) (now : Instant) : Tickets :=
  fun ticket => (tickets ticket).filter fun issued => decide (now - issued < sseTicketTtl)

/-- The new ticket is the value of `nonce`. -/
def mintSseTicket (tickets : Tickets) (now : Instant) (nonce : String) : Tickets :=
  Function.update (tickets.live now) nonce (some now)

def consumeSseTicket (tickets : Tickets) (now : Instant) (ticket : String) : Bool × Tickets :=
  ((tickets.live now ticket).isSome, Function.update (tickets.live now) ticket none)

end Allgres
