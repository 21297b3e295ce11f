import RestartCoordinator.Dispatcher
import RestartCoordinator.Service.Simulated
/-!
# The bench

A dispatcher on the bench works with a simulated service and a clock: each call it makes and each
delay it begins has an end that is known at once. A call that ends just when its time is up is
answered.
-/
namespace RestartCoordinator

/-- What ends by itself, and when. -/
inductive Timer where
  /-- A service call: whether it is answered in time, and its outcome. -/
  | call (ends : Time) (inTime : Bool) (outcome : Scripted)
  | delay (ends : Time)
deriving DecidableEq, Repr

def Timer.ends : Timer → Time
  | .call ends _ _ => ends
  | .delay ends => ends

structure Bench where
  service : Simulated
  timer : Option Timer
deriving DecidableEq, Repr

namespace Bench

def new (service : Simulated) : Bench := ⟨service, none⟩

/-- The service call begins. -/
def beginCall (b : Bench) (timeout : Nat) (now : Time) (call : Call) : Bench :=
  let ((outcome, service), delay) := match call with
    | .start => (b.service.beginStart, b.service.startDelay)
    | _ => (b.service.beginStop, b.service.stopDelay)
  let (inTime, took) := Simulated.within delay timeout outcome
  ⟨service, some (.call (now + took) inTime outcome)⟩

/-- The bench after a turn of the dispatcher: a call or a delay may have begun. -/
def follow (b : Bench) (now : Time) (d : Dispatcher) (effects : List Effect) : Bench :=
  match d.task with
  | .idle => { b with timer := none }
  | .calling _ call =>
    if effects.isEmpty then b else b.beginCall d.timeout.millis now call
  | .waiting _ delay =>
    if effects.isEmpty then b else { b with timer := some (.delay (now + delay.millis)) }

/-- The signal of a timer that has run out. -/
def due? (b : Bench) (now : Time) (d : Dispatcher) : Option (Signal × Bench) :=
  match b.timer with
  | none => none
  | some t =>
    if now < t.ends then none
    else
      match t, d.task with
      | .delay _, _ => some (.delayEnded, { b with timer := none })
      | .call _ inTime outcome, .calling _ .start =>
        let (answer, service) := b.service.endStart inTime outcome
        some (.startAnswered answer, ⟨service, none⟩)
      | .call _ inTime outcome, _ =>
        let (answer, service) := b.service.endStop inTime outcome
        some (.stopAnswered answer, ⟨service, none⟩)

/-- A call that is under way is given up. -/
def abandon (b : Bench) : Bench :=
  match b.timer with
  | some (.call ..) => ⟨b.service.leave, none⟩
  | _ => { b with timer := none }

/-- When something next ends by itself. -/
def next? (b : Bench) : Option Time := b.timer.map Timer.ends

end Bench
end RestartCoordinator
