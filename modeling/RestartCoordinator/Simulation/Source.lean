import RestartCoordinator.Trigger
/-!
# Sources

A source submits its triggers by a plan, each after a wait that begins with the one before. It ends
when its queue is closed and mostly also when it is told to, but a deaf source does not listen.
-/
namespace RestartCoordinator

/-- What a source does when its plan is through. -/
inductive Source.Finish where
  /-- It waits until it is told to end. -/
  | wait
  | complete
  | error
  | panic
  /-- It never ends, nor does it listen before. -/
  | deaf
deriving DecidableEq, Repr

namespace Source.Finish

def all : List Finish := [.wait, .complete, .error, .panic, .deaf]

def name : Finish → String
  | .wait => "wait"
  | .complete => "finish"
  | .error => "error"
  | .panic => "panic"
  | .deaf => "deaf"

/-- The source stays when its plan is through. -/
def stays : Finish → Bool
  | .wait | .deaf => true
  | _ => false

end Source.Finish

structure Source where
  /-- The triggers to come and the wait before each. -/
  plan : List (Nat × Trigger)
  finish : Source.Finish
  /-- When the last trigger was submitted, or when the source began. -/
  since : Time
  ended : Bool
  /-- The end of the source was waited for. -/
  joined : Bool
deriving DecidableEq, Repr

namespace Source

def new (plan : List (Nat × Trigger)) (finish : Finish) (now : Time) : Source :=
  ⟨plan, finish, now, false, false⟩

/-- The source is over. -/
def stop (s : Source) : Source := { s with plan := [], ended := true }

/-- When the source goes on by itself. -/
def next? (s : Source) : Option Time :=
  s.plan.head?.map fun (after, _) => s.since + after

/-- The triggers of a plan that are due, and the rest of it with the time from which it counts. -/
def due (now since : Time) : List (Nat × Trigger) → List Trigger × List (Nat × Trigger) × Time
  | [] => ([], [], since)
  | (after, t) :: rest =>
    if since + after ≤ now then
      let (triggers, rest, since) := due now (since + after) rest
      (t :: triggers, rest, since)
    else ([], (after, t) :: rest, since)

/-- A turn of the source: what it submits, and what becomes of it. When everything is to end its
queue is closed, so a source that does not listen still ends with its next trigger. -/
def turn (s : Source) (cancelled : Bool) (now : Time) : List Trigger × Source :=
  if s.ended then ([], s)
  else
    let (triggers, plan, since) := due now s.since s.plan
    let stops := if cancelled then s.finish ≠ .deaf || !triggers.isEmpty
      else plan.isEmpty && !s.finish.stays
    (if cancelled then [] else triggers,
      if stops then s.stop else { s with plan, since })

end Source
end RestartCoordinator
