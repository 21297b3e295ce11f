import RestartCoordinator.RequestId
import RestartCoordinator.Trigger
/-!
# Requests

A request is what a burst of triggers comes to: the reasons in the order of arrival, one command,
and the span of time in which they came. Two requests that wait together are merged into one, in
which a stop prevails: the reasons of the other side are then kept apart as superseded.
-/
namespace RestartCoordinator

structure Request where
  id : RequestId
  /-- The reasons to act on, in order of arrival and with repetitions. -/
  reasons : List Reason
  command : Command
  /-- Reasons that a stop made void. -/
  superseded : List Reason
  windowStart : Time
  windowEnd : Time
deriving DecidableEq, Repr

namespace Request

/-- The request of a single trigger. -/
def immediate (id : RequestId) (t : Trigger) (now : Time) : Request :=
  ⟨id, [t.reason], t.command, [], now, now⟩

def isStop (r : Request) : Bool :=
  r.command == .stop

/-- How long the span lasts; zero if it ends before it starts. -/
def window (r : Request) : Nat :=
  r.windowEnd - r.windowStart

def distinctReasons (r : Request) : List Reason :=
  Reason.distinct r.reasons

/-- The distinct reasons in words. -/
def summary (r : Request) : String :=
  Reason.describeAll r.distinctReasons

/-- What a request still asks for once a command has prevailed: a request that does not stop has
nothing left beside a stop. -/
def reasonsUnder (command : Command) (r : Request) : List Reason :=
  if command = .stop ∧ r.command ≠ .stop then [] else r.reasons

/-- What a prevailing command makes void of a request, apart from what was void before. -/
def voidedUnder (command : Command) (r : Request) : List Reason :=
  if command = .stop ∧ r.command ≠ .stop then r.reasons else []

/-- One request for two that wait together; the earlier one gives the identifier. -/
def merge (earlier later : Request) : Request :=
  let command := earlier.command.join later.command
  { id := earlier.id
    reasons := earlier.reasonsUnder command ++ later.reasonsUnder command
    command
    superseded := earlier.superseded ++ earlier.voidedUnder command ++ later.voidedUnder command ++
      later.superseded
    windowStart := min earlier.windowStart later.windowStart
    windowEnd := max earlier.windowEnd later.windowEnd }

@[simp] theorem isStop_iff {r : Request} : r.isStop = true ↔ r.command = .stop := by
  simp [isStop]

@[simp] theorem merge_id (a b : Request) : (a.merge b).id = a.id := rfl

@[simp] theorem merge_command (a b : Request) :
    (a.merge b).command = a.command.join b.command := rfl

end Request
end RestartCoordinator
