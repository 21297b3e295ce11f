import RestartCoordinator.Reason
/-!
# Triggers

A trigger is one observed change: a reason, the command and the priority it asks for, the producer
that saw it, and when. Times count milliseconds from a common beginning. The date is kept nowhere,
neither with triggers nor with reports, snapshots and requests.
-/
namespace RestartCoordinator

/-- Milliseconds since the beginning. -/
abbrev Time := Nat

structure Trigger where
  reason : Reason
  command : Command
  priority : Priority
  /-- The producer that saw the change. -/
  origin : String
  time : Time
deriving DecidableEq, Repr

namespace Trigger

/-- A trigger with a command of its own; the priority is that of the reason. -/
def withCommand (reason : Reason) (command : Command) (origin : String) (time : Time) : Trigger :=
  ⟨reason, command, reason.priority, origin, time⟩

/-- A trigger with the command that its reason implies. -/
def ofReason (reason : Reason) (origin : String) (time : Time) : Trigger :=
  withCommand reason reason.command origin time

def isStop (t : Trigger) : Bool :=
  t.command == .stop

def description (t : Trigger) : String :=
  t.command.title ++ " (" ++ t.reason.describe ++ ") from " ++ t.origin

end Trigger
end RestartCoordinator
