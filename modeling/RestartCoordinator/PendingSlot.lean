import RestartCoordinator.Request
import RestartCoordinator.Wakeup
/-!
# The pending slot

Between the debouncer and the dispatcher there is room for one request. A request that is offered
while another waits is merged into it, so the backlog never grows. Closing the slot throws a waiting
request away unless it stops the service; a stop stays to be served.

Two calls can wait on a slot: one for the next request, and one for the news that a stop is wanted.
-/
namespace RestartCoordinator

structure PendingSlot where
  pending : Option Request
  closed : Bool
  /-- Wakes the call that waits for a request. -/
  available : Wakeup
  /-- Wakes the call that waits for a stop. -/
  stopOffered : Wakeup
deriving DecidableEq, Repr

/-- What became of a request that was offered. -/
inductive Offer where
  | queued
  | merged
  | rejected
deriving DecidableEq, Repr

def Offer.name : Offer → String
  | .queued => "queued"
  | .merged => "merged"
  | .rejected => "rejected"

namespace PendingSlot

def new : PendingSlot := ⟨none, false, .new, .new⟩

instance : Inhabited PendingSlot := ⟨new⟩

def isEmpty (s : PendingSlot) : Bool := s.pending.isNone

/-- The waiting request is a stop. -/
def hasStop (s : PendingSlot) : Bool := s.pending.any (·.isStop)

/-- A stop is wanted: one is waiting, or the slot is closed. -/
def wantsStop (s : PendingSlot) : Bool := s.closed || s.hasStop

/-- The waiting request and a new one together. -/
def joined (pending : Option Request) (r : Request) : Request :=
  match pending with
  | none => r
  | some waiting => waiting.merge r

def offer (s : PendingSlot) (r : Request) : Offer × PendingSlot :=
  if s.closed then (.rejected, s)
  else
    (if s.isEmpty then .queued else .merged,
      { s with
        pending := some (joined s.pending r)
        available := s.available.notifyOne
        stopOffered := if r.isStop then s.stopOffered.notifyOne else s.stopOffered })

def take (s : PendingSlot) : Option Request × PendingSlot :=
  (s.pending, { s with pending := none })

/-- Closes the slot. What it throws away is returned. -/
def close (s : PendingSlot) : Option Request × PendingSlot :=
  let discarded := if s.hasStop then none else s.pending
  (discarded,
    { pending := if s.hasStop then s.pending else none
      closed := true
      available := s.available.notifyAll
      stopOffered := s.stopOffered.notifyAll })

/-- What the dispatcher looks for: a request, or the news that none will come. -/
def look (s : PendingSlot) : Option (Option Request × PendingSlot) :=
  match s.pending with
  | some r => some (some r, { s with pending := none })
  | none => if s.closed then some (none, s) else none

/-- Runs the call that waits for the next request, or a new one. -/
def next (s : PendingSlot) : Poll (Option Request) × PendingSlot :=
  let (answer, available, s) := s.available.attempt look s
  (answer, { s with available })

def dropNext (s : PendingSlot) : PendingSlot :=
  { s with available := s.available.drop }

/-- Runs the call that waits for a stop, or a new one. -/
def stopRequested (s : PendingSlot) : Poll Unit × PendingSlot :=
  let (answer, stopOffered, s) :=
    s.stopOffered.attempt (fun s => if s.wantsStop then some ((), s) else none) s
  (answer, { s with stopOffered })

def dropStopRequested (s : PendingSlot) : PendingSlot :=
  { s with stopOffered := s.stopOffered.drop }

end PendingSlot
end RestartCoordinator
