import Considerate.Keyed
import Considerate.Status
import Considerate.Url.Basic

namespace Considerate

/-- A request to lint a document. -/
structure Request where
  url : Url
  options : Options
  deriving DecidableEq, Repr

/-- A document that is being linted: by the pass with the ticket. -/
structure Slot where
  options : Options
  ticket : Nat
  deriving DecidableEq, Repr

structure Schedule where
  pending : Keyed Url Slot := {}
  queued : List Request := []
  lastTicket : Nat := 0

namespace Schedule

def isPending (s : Schedule) (u : Url) : Bool := s.pending.contains u

/-- The options of the requests that wait for a document. -/
def queuedFor (s : Schedule) (u : Url) : List Options :=
  (s.queued.filter fun r => r.url = u).map Request.options

def owns (s : Schedule) (u : Url) (ticket : Nat) : Bool :=
  match s.pending.get? u with
  | none => false
  | some slot => slot.ticket = ticket

/-- Gives the document to a new pass, which gets the next ticket. -/
def claim (s : Schedule) (r : Request) : Schedule × Nat :=
  let ticket := s.lastTicket + 1
  ({ s with pending := s.pending.set r.url ⟨r.options, ticket⟩, lastTicket := ticket }, ticket)

def enqueue (s : Schedule) (r : Request) : Schedule :=
  { s with queued := if s.queued.contains r then s.queued else s.queued ++ [r] }

/-- Takes a request in: a ticket for a pass, or none if it has to wait. -/
def submit (s : Schedule) (r : Request) : Schedule × Option Nat :=
  if s.isPending r.url then (s.enqueue r, none)
  else
    let (s, ticket) := s.claim r
    (s, some ticket)

/-- Ends the pass with the ticket. If it owns the document, the first request that waits for that
goes on with a ticket of its own. -/
def release (s : Schedule) (u : Url) (ticket : Nat) : Schedule × Option (Request × Nat) :=
  if s.owns u ticket then
    let s := { s with pending := s.pending.erase u }
    match s.queued.find? fun r => r.url = u with
    | none => (s, none)
    | some next =>
      let (s, ticket) := { s with queued := s.queued.erase next }.claim next
      (s, some (next, ticket))
  else (s, none)

/-- Forgets the document: no request waits for it and no pass owns it. -/
def cancel (s : Schedule) (u : Url) : Schedule :=
  { s with pending := s.pending.erase u, queued := s.queued.filter fun r => r.url ≠ u }

/-- Takes the document from a pass that was dropped. -/
def drop (s : Schedule) (u : Url) (ticket : Nat) : Schedule :=
  if s.owns u ticket then { s with pending := s.pending.erase u } else s

end Schedule

end Considerate
