import RestartCoordinator.Lifecycle.Machine
import RestartCoordinator.Wakeup
/-!
# Watching the lifecycle

The machine shows its snapshot to any number of views. Each change gives the shown snapshot a new
version, and each view remembers the version it saw last; so a view can skip snapshots but never
misses the latest one. When the machine is gone its last snapshot is still shown.
-/
namespace RestartCoordinator.Lifecycle

/-- A snapshot on show. -/
structure Watch where
  snapshot : Snapshot
  version : Nat
  /-- The machine is gone, and nothing will change. -/
  closed : Bool
deriving DecidableEq, Repr

/-- One reader, and the version it saw last. -/
structure View where
  seen : Nat
deriving DecidableEq, Repr

namespace Watch

def new : Watch := ⟨.initial, 0, false⟩

/-- Shows a new snapshot. -/
def publish (w : Watch) (s : Snapshot) : Watch :=
  { w with snapshot := s, version := w.version + 1 }

/-- Applies an input; a refused one shows nothing new. -/
def apply (w : Watch) (input : Input) (reasons : List Reason) : Except Failure Watch := do
  return w.publish (← w.snapshot.apply input reasons)

/-- Applies a failure: first the move is shown, then its message. -/
def fail (w : Watch) (failure : Failure) (reasons : List Reason) : Except Failure Watch := do
  let moved ← w.apply .failed reasons
  return moved.publish { moved.snapshot with lastError := some failure.message }

def close (w : Watch) : Watch := { w with closed := true }

/-- A new view, which has seen what is on show now. -/
def view (w : Watch) : View := ⟨w.version⟩

end Watch

namespace View

/-- One run of the call that waits for a change: whether there was one, or that there will be
none. -/
def await (v : View) (w : Watch) : Poll Bool × View :=
  if v.seen ≠ w.version then (.ready true, ⟨w.version⟩)
  else if w.closed then (.ready false, v)
  else (.pending, v)

/-- One run of the call that waits for the next snapshot; none if the machine is gone. -/
def changed (v : View) (w : Watch) : Poll (Option Snapshot) × View :=
  match v.await w with
  | (.ready true, _) => (.ready (some w.snapshot), ⟨w.version⟩)
  | (.ready false, v) => (.ready none, v)
  | (.pending, v) => (.pending, v)

/-- The first run of the call that waits for a snapshot with a property. -/
def waitFor (p : Snapshot → Bool) (w : Watch) : Poll (Option Snapshot) × View :=
  let v : View := ⟨w.version⟩
  if p w.snapshot then (.ready (some w.snapshot), v)
  else
    match v.await w with
    | (.ready _, v) => (.ready none, v)
    | (.pending, v) => (.pending, v)

/-- A later run of that call: it looks again only if something has changed. -/
def waitForAgain (p : Snapshot → Bool) (v : View) (w : Watch) : Poll (Option Snapshot) × View :=
  match v.await w with
  | (.ready true, _) => waitFor p w
  | (.ready false, v) => (.ready none, v)
  | (.pending, v) => (.pending, v)

end View
end RestartCoordinator.Lifecycle
