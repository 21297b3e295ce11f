/-!
# Wake-ups

A call that finds nothing to do waits until it is woken. A notification for one wakes the waiting
call, or is kept as a permit, of which there is at most one, for the next call that would wait. A
notification for all wakes the waiting call and is not kept. A call that was woken and is dropped
before it runs again passes a notification for one on.

One call waits at a time.
-/
namespace RestartCoordinator

/-- The answer of a call that may have to wait. -/
inductive Poll (α : Type) where
  | pending
  | ready (value : α)
deriving DecidableEq, Repr

/-- The call that waits, if there is one. -/
inductive Waiter where
  | absent
  | waiting
  /-- Woken, but not run since; `alone` if the notification was for one. -/
  | woken (alone : Bool)
deriving DecidableEq, Repr

structure Wakeup where
  permit : Bool
  waiter : Waiter
deriving DecidableEq, Repr

namespace Wakeup

def new : Wakeup := ⟨false, .absent⟩

def notifyOne (w : Wakeup) : Wakeup :=
  match w.waiter with
  | .waiting => { w with waiter := .woken true }
  | _ => { w with permit := true }

def notifyAll (w : Wakeup) : Wakeup :=
  match w.waiter with
  | .waiting => { w with waiter := .woken false }
  | _ => w

/-- The waiting call is dropped. -/
def drop (w : Wakeup) : Wakeup :=
  match w.waiter with
  | .woken true => { w with waiter := .absent }.notifyOne
  | _ => { w with waiter := .absent }

/-- A call is waiting or has been woken. -/
def isHeld (w : Wakeup) : Bool := w.waiter ≠ .absent

/-- The rounds of a running call: it looks, and if there is nothing it spends the permit and looks
again, or it waits. -/
def search (look : σ → Option (α × σ)) (w : Wakeup) (s : σ) : Poll α × Wakeup × σ :=
  match look s with
  | some (a, s) => (.ready a, w, s)
  | none =>
    if w.permit then search look { w with permit := false } s
    else (.pending, { w with waiter := .waiting }, s)
termination_by w.permit.toNat
decreasing_by simp_all

/-- One run of a call, which need not be its first. A call that is still waiting does not look. -/
def attempt (look : σ → Option (α × σ)) (w : Wakeup) (s : σ) : Poll α × Wakeup × σ :=
  match w.waiter with
  | .waiting => (.pending, w, s)
  | _ => search look { w with waiter := .absent } s

end Wakeup
end RestartCoordinator
