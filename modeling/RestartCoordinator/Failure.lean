import RestartCoordinator.Duration
import RestartCoordinator.Lifecycle.State
/-!
# Failures

Everything that can go wrong, as causes, with the wording of each. Of all of them only a service
call that was not answered in time is worth another attempt.
-/
namespace RestartCoordinator

/-- What the managed service reports when a call fails. -/
inductive ServiceError where
  | unavailable (text : String)
  | rejected (text : String)
  | other (text : String)
deriving DecidableEq, Repr

namespace ServiceError

def kind : ServiceError → String
  | .unavailable _ => "Unavailable"
  | .rejected _ => "Rejected"
  | .other _ => "Other"

def message : ServiceError → String
  | .unavailable text => "service unavailable: " ++ text
  | .rejected text => "service rejected the request: " ++ text
  | .other text => text

end ServiceError

inductive Failure where
  | config (message : String)
  | io (message : String)
  /-- Settings could not be written as text. -/
  | serialization (message : String)
  /-- A value could not be written as JSON or read from it. -/
  | json (message : String)
  /-- A producer's queue was full; so many of its oldest triggers were dropped. -/
  | queueOverflow (producer : String) (dropped : Nat)
  | queueClosed
  /-- A service call was not answered in time. -/
  | timedOut (operation : String) (timeout : Duration)
  | startFailed (error : ServiceError)
  | stopFailed (error : ServiceError)
  | invalidTransition (origin : Lifecycle.State) (input : Lifecycle.Input)
  | system (message : String)
deriving DecidableEq, Repr

namespace Failure

/-- The name of the kind of failure. -/
def kind : Failure → String
  | .config _ => "Config"
  | .io _ => "Io"
  | .serialization _ => "Serialization"
  | .json _ => "Json"
  | .queueOverflow .. => "ChannelOverflow"
  | .queueClosed => "ChannelClosed"
  | .timedOut .. => "DispatchTimeout"
  | .startFailed _ => "ServiceStartFailure"
  | .stopFailed _ => "ServiceStopFailure"
  | .invalidTransition .. => "InvalidTransitionRequest"
  | .system _ => "System"

def message : Failure → String
  | .config text => "Configuration error: " ++ text
  | .io text => "IO error: " ++ text
  | .serialization text => "Serialization error: " ++ text
  | .json text => "JSON error: " ++ text
  | .queueOverflow producer dropped =>
    "Trigger channel overflow for producer " ++ producer ++ ": dropped " ++ toString dropped ++
      " oldest event(s)"
  | .queueClosed => "Trigger channel closed"
  | .timedOut operation timeout =>
    "Service " ++ operation ++ " did not complete within " ++ timeout.text
  | .startFailed error => "Service failed to start: " ++ error.message
  | .stopFailed error => "Service failed to stop: " ++ error.message
  | .invalidTransition origin input =>
    "Invalid transition request " ++ input.title ++ " from state " ++ origin.name
  | .system text => "System error: " ++ text

/-- Another attempt may succeed where the service only was too slow. -/
def isRetryable : Failure → Bool
  | .timedOut .. => true
  | _ => false

end Failure
end RestartCoordinator
