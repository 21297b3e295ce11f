import RestartCoordinator.Request
/-!
# The debouncer

Triggers that come close together are folded into one window, which closes a quiet period after it
was opened and gives one request. A trigger of user priority may move the end of the window, up to
the longest window allowed. A stop does not wait: it takes the place of any open window at once and
keeps the reasons found there as superseded.

Times have no upper end, so no deadline is ever too late to be set. The periods are settings of 64 bits
of milliseconds: added to a time they stay far below the end of a clock that counts seconds in 64 bits.
-/
namespace RestartCoordinator

/-- Triggers that will become one request. -/
structure Window where
  start : Time
  deadline : Time
  reasons : List Reason
  command : Command
deriving DecidableEq, Repr

structure Debouncer where
  /-- The quiet period. -/
  interval : Nat
  /-- No window lasts longer, and the quiet period always fits. -/
  longest : Nat
  window : Option Window
  interval_le_longest : interval ≤ longest
deriving Repr

/-- What becomes of a trigger. -/
inductive Folded where
  /-- It opened a window. -/
  | opened (deadline : Time)
  /-- It joined the open window. -/
  | joined (deadline : Time) (extended : Bool)
  /-- It was a stop and became a request at once. -/
  | preempted (request : Request)
deriving DecidableEq, Repr

namespace Debouncer

/-- A debouncer without a window. -/
def new (interval longest : Nat) : Debouncer :=
  ⟨interval, max longest interval, none, Nat.le_max_right ..⟩

def isOpen (d : Debouncer) : Bool := d.window.isSome

def deadline (d : Debouncer) : Option Time := d.window.map (·.deadline)

/-- The end of the open window has come. -/
def isDue (d : Debouncer) (now : Time) : Bool :=
  d.deadline.any (· ≤ now)

/-- The deadline of a window after a trigger of this priority. -/
def extend (d : Debouncer) (w : Window) (priority : Priority) (now : Time) : Time :=
  match priority with
  | .background => w.deadline
  | .user => max w.deadline (min (now + d.interval) (w.start + d.longest))

/-- A window with one more trigger. A start once asked for is not forgotten. -/
def join (d : Debouncer) (w : Window) (t : Trigger) (now : Time) : Window :=
  { w with
    deadline := d.extend w t.priority now
    reasons := w.reasons ++ [t.reason]
    command := if t.command = .start then .start else w.command }

/-- Takes a trigger in; the identifier is for the request of a stop. Every sum of a time and a period
is a deadline that can be set. -/
def fold (d : Debouncer) (id : RequestId) (t : Trigger) (now : Time) : Folded × Debouncer :=
  if t.isStop then
    let voided := (d.window.map (·.reasons)).getD []
    (.preempted { Request.immediate id t now with superseded := voided }, { d with window := none })
  else
    match d.window with
    | none =>
      let deadline := now + d.interval
      (.opened deadline, { d with window := some ⟨now, deadline, [t.reason], t.command⟩ })
    | some w =>
      let joined := d.join w t now
      (.joined joined.deadline (w.deadline < joined.deadline), { d with window := some joined })

/-- The deadline after triggers of one priority at equal distances, the first of them now, and
whether the last of them moved it. -/
def extendMany (d : Debouncer) (priority : Priority) (every : Nat) :
    Nat → Window → Time → Time × Bool
  | 0, w, _ => (w.deadline, false)
  | n + 1, w, now =>
    let deadline := d.extend w priority now
    if n = 0 then (deadline, w.deadline < deadline)
    else d.extendMany priority every n { w with deadline } (now + every)

/-- Takes the same trigger in several times at equal distances and gives what became of the last
one; nothing if there is none. -/
def foldMany (d : Debouncer) (id : RequestId) (t : Trigger) (every count : Nat) (now : Time) :
    Option Folded × Debouncer :=
  match count with
  | 0 => (none, d)
  | more + 1 =>
    let (first, d) := d.fold id t now
    if more = 0 then (some first, d)
    else
      match d.window with
      | none => let (last, d) := d.fold id t (now + more * every); (some last, d)
      | some w =>
        let (deadline, extended) := d.extendMany t.priority every more w (now + every)
        let reasons := w.reasons ++ List.replicate more t.reason
        (some (.joined deadline extended), { d with window := some { w with deadline, reasons } })

/-- Closes the window and gives its request. -/
def close (d : Debouncer) (id : RequestId) (now : Time) : Option Request × Debouncer :=
  (d.window.map fun w => ⟨id, w.reasons, w.command, [], w.start, now⟩, { d with window := none })

/-- Closes the window if its end has come. -/
def closeIfDue (d : Debouncer) (id : RequestId) (now : Time) : Option Request × Debouncer :=
  if d.isDue now then d.close id now else (none, d)

/-- Gives up the window; what was in it is returned. -/
def discard (d : Debouncer) : List Reason × Debouncer :=
  ((d.window.map (·.reasons)).getD [], { d with window := none })

theorem deadline_le_extend (d : Debouncer) (w : Window) (p : Priority) (now : Time) :
    w.deadline ≤ d.extend w p now := by
  cases p with
  | background => exact Nat.le_refl _
  | user => exact Nat.le_max_left ..

end Debouncer
end RestartCoordinator
