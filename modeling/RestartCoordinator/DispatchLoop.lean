import RestartCoordinator.Dispatcher
import RestartCoordinator.PendingSlot
/-!
# The dispatch loop

The dispatcher takes its requests from the pending slot, one after the other, until the slot is
closed and empty. It may then stop the service with a request of its own. While it waits for the
next attempt at a request, the slot tells whether a stop is wanted.
-/
namespace RestartCoordinator

/-- How far the loop has come. -/
inductive LoopStage where
  | unstarted
  | serving
  /-- The last request stops the service. -/
  | stopping
  /-- The observers are being waited for. -/
  | draining
  | ended
deriving DecidableEq, Repr

structure DispatchLoop where
  slot : PendingSlot
  dispatcher : Dispatcher
  stage : LoopStage
  /-- Stop the service at the end. -/
  stopAtEnd : Bool
deriving DecidableEq, Repr

namespace DispatchLoop

def new (dispatcher : Dispatcher) (stopAtEnd : Bool) : DispatchLoop :=
  ⟨.new, dispatcher, .unstarted, stopAtEnd⟩

/-- The dispatcher takes a turn. -/
def turn (l : DispatchLoop) (now : Time) (signal : Signal) : DispatchLoop × List Effect :=
  let (dispatcher, effects) := l.dispatcher.turn now signal
  ({ l with dispatcher }, effects)

/-- The dispatcher takes the request that waits. -/
def serve? (l : DispatchLoop) (now : Time) : Option (DispatchLoop × List Effect) :=
  match l.stage, l.dispatcher.task, l.slot.pending with
  | .serving, .idle, some r => some ({ l with slot := l.slot.take.2 }.turn now (.request r))
  | _, _, _ => none

/-- The service answers, a delay ends, or the slot cuts a delay short. -/
def signal? (l : DispatchLoop) (now : Time) (signal : Signal) :
    Option (DispatchLoop × List Effect) :=
  match l.dispatcher.task, signal with
  | .calling _ .start, .startAnswered _ => some (l.turn now signal)
  | .calling _ (.stop _), .stopAnswered _ => some (l.turn now signal)
  | .calling _ (.release _), .stopAnswered _ => some (l.turn now signal)
  | .waiting .., .delayEnded => some (l.turn now signal)
  | .waiting .., .stopWanted => if l.slot.wantsStop then some (l.turn now signal) else none
  | _, _ => none

/-- Nothing will come any more: the loop ends, or stops the service first. -/
def leave? (l : DispatchLoop) (id : RequestId) (now : Time) :
    Option (DispatchLoop × List Effect) :=
  match l.stage, l.dispatcher.task, l.slot.pending with
  | .serving, .idle, none =>
    if !l.slot.closed then none
    else if l.stopAtEnd && !l.dispatcher.isDown then
      some ({ l with stage := .stopping }.turn now (.request (Dispatcher.shutdownRequest id now)))
    else some ({ l with stage := .draining }, [])
  | .stopping, .idle, _ => some ({ l with stage := .draining }, [])
  | _, _, _ => none

end DispatchLoop
end RestartCoordinator
