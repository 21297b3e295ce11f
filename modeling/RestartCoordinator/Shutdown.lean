/-!
# Shutdown

Why the coordinator ends.
-/
namespace RestartCoordinator

inductive ShutdownReason where
  | signal (name : String)
  | userRequest
  | error (message : String)
deriving DecidableEq, Repr

def ShutdownReason.text : ShutdownReason → String
  | .signal name => "signal " ++ name
  | .userRequest => "user request"
  | .error message => "error: " ++ message

end RestartCoordinator
