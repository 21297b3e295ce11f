import RestartCoordinator.Failure
/-!
# The managed service

The service is known only through its two calls: a start gives the handle of a new instance, and a
stop takes that handle back. A call is answered, or it is cut off when its time is up.
-/
namespace RestartCoordinator

/-- The token of a running instance. -/
structure Handle where
  id : Nat
deriving DecidableEq, Repr

def Handle.text (h : Handle) : String := "instance #" ++ toString h.id

/-- How a service call ends. -/
inductive Answer (α : Type) where
  | done (value : α)
  | failed (error : ServiceError)
  | timedOut
deriving DecidableEq, Repr

end RestartCoordinator
