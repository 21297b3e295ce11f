/-!
# Lifecycle states

The states of the managed service, the inputs that move it from one to the next, and the table of
the moves that exist.
-/
namespace RestartCoordinator.Lifecycle

inductive State where
  | stopped
  | starting
  | running
  | stopping
  | restarting
  | failed
deriving DecidableEq, Repr, Inhabited

/-- Requests for a move, and reports that one has ended. -/
inductive Input where
  | start
  | stop
  | restart
  | startSucceeded
  | stopSucceeded
  | failed
deriving DecidableEq, Repr

namespace State

def all : List State := [.stopped, .starting, .running, .stopping, .restarting, .failed]

def name : State → String
  | .stopped => "stopped"
  | .starting => "starting"
  | .running => "running"
  | .stopping => "stopping"
  | .restarting => "restarting"
  | .failed => "failed"

/-- A start, a stop or a restart is under way. -/
def isTransitional : State → Bool
  | .starting | .stopping | .restarting => true
  | _ => false

/-- The state after an input; none if the input has no meaning in the state. -/
def next? : State → Input → Option State
  | .stopped, .start => some .starting
  | .starting, .startSucceeded => some .running
  | .running, .stop => some .stopping
  | .running, .restart => some .restarting
  | .restarting, .stopSucceeded => some .starting
  | .stopping, .stopSucceeded => some .stopped
  | .starting, .failed | .stopping, .failed | .restarting, .failed => some .failed
  | .failed, .start | .failed, .restart => some .starting
  | .failed, .stop => some .stopping
  | _, _ => none

end State

namespace Input

def all : List Input := [.start, .stop, .restart, .startSucceeded, .stopSucceeded, .failed]

def name : Input → String
  | .start => "start"
  | .stop => "stop"
  | .restart => "restart"
  | .startSucceeded => "start_succeeded"
  | .stopSucceeded => "stop_succeeded"
  | .failed => "failed"

/-- The name in capitalised words. -/
def title : Input → String
  | .start => "Start"
  | .stop => "Stop"
  | .restart => "Restart"
  | .startSucceeded => "StartSucceeded"
  | .stopSucceeded => "StopSucceeded"
  | .failed => "Failed"

end Input

/-- Only a transitional state can fail. -/
theorem next?_failed_isSome_iff (s : State) :
    (s.next? .failed).isSome = s.isTransitional := by
  cases s <;> rfl

end RestartCoordinator.Lifecycle
