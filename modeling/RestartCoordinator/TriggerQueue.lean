import RestartCoordinator.Trigger
import RestartCoordinator.Failure
import RestartCoordinator.Wakeup
/-!
# The trigger queue

Every producer has a queue of its own, so a busy producer never crowds out another: when a queue is
full, its own oldest trigger makes room for the new one. Triggers are numbered as they come in, and
they are delivered in that order. A closed queue takes nothing more but still delivers what it
holds.
-/
namespace RestartCoordinator

/-- A trigger with its number. -/
structure Queued where
  seq : Nat
  trigger : Trigger
deriving DecidableEq, Repr

/-- The queue of one producer, oldest trigger first. -/
structure Lane where
  producer : String
  queued : List Queued
deriving DecidableEq, Repr

structure TriggerQueue where
  /-- How many triggers of one producer are kept. -/
  capacity : Nat
  /-- The queues of the producers that have triggers waiting. -/
  lanes : List Lane
  nextSeq : Nat
  closed : Bool
  submitted : Nat
  delivered : Nat
  dropped : Nat
  /-- Wakes the call that waits for a trigger. -/
  arrival : Wakeup
  capacity_pos : 0 < capacity
deriving Repr

/-- What became of a trigger that was taken in. -/
inductive Submission where
  | accepted
  /-- The queue was full and lost its oldest trigger. -/
  | displaced (oldest : Trigger)
deriving DecidableEq, Repr

namespace TriggerQueue

/-- An empty queue. There is room for at least one trigger of each producer. -/
def new (capacity : Nat) : TriggerQueue :=
  ⟨max capacity 1, [], 0, false, 0, 0, 0, .new, Nat.le_max_right ..⟩

def lane (q : TriggerQueue) (producer : String) : List Queued :=
  ((q.lanes.find? (·.producer == producer)).map (·.queued)).getD []

/-- The lanes with that of one producer put in place of its old one. -/
def setLane (lanes : List Lane) (l : Lane) : List Lane :=
  if lanes.any (·.producer == l.producer) then
    lanes.map fun old => if old.producer == l.producer then l else old
  else lanes ++ [l]

/-- The trigger that has to go before a full queue can take another. -/
def displacedBy (q : TriggerQueue) (producer : String) : Option Trigger :=
  if q.capacity ≤ (q.lane producer).length then (q.lane producer).head?.map (·.trigger) else none

/-- Takes a trigger in, unless the queue is closed. -/
def submit (q : TriggerQueue) (t : Trigger) : Except Failure (Submission × TriggerQueue) :=
  if q.closed then .error .queueClosed
  else
    let held := q.lane t.origin
    let displaced := q.displacedBy t.origin
    let kept := if displaced.isSome then held.tail else held
    let q := { q with
      lanes := setLane q.lanes ⟨t.origin, kept ++ [⟨q.nextSeq, t⟩]⟩
      nextSeq := q.nextSeq + 1
      submitted := q.submitted + 1
      dropped := q.dropped + displaced.toList.length
      arrival := q.arrival.notifyOne }
    match displaced with
    | some oldest => .ok (.displaced oldest, q)
    | none => .ok (.accepted, q)

/-- The producer whose first trigger is the oldest of all. -/
def oldestLane? : List Lane → Option Lane
  | [] => none
  | l :: rest =>
    match l.queued.head?, oldestLane? rest with
    | none, best => best
    | some _, none => some l
    | some h, some best =>
      match best.queued.head? with
      | some b => if h.seq ≤ b.seq then some l else some best
      | none => some l

/-- Takes the oldest trigger out. -/
def take? (q : TriggerQueue) : Option (Trigger × TriggerQueue) :=
  match oldestLane? q.lanes with
  | none => none
  | some l =>
    match l.queued with
    | [] => none
    | first :: rest =>
      let lanes :=
        if rest.isEmpty then q.lanes.filter (·.producer != l.producer)
        else setLane q.lanes ⟨l.producer, rest⟩
      some (first.trigger, { q with lanes, delivered := q.delivered + 1 })

/-- Takes every trigger out, oldest first, `fuel` of them at most. -/
def takeAll : Nat → TriggerQueue → List Trigger × TriggerQueue
  | 0, q => ([], q)
  | fuel + 1, q =>
    match q.take? with
    | none => ([], q)
    | some (t, q) =>
      let (ts, q) := takeAll fuel q
      (t :: ts, q)

/-- The number of triggers held. -/
def size (q : TriggerQueue) : Nat :=
  (q.lanes.flatMap (·.queued)).length

def isEmpty (q : TriggerQueue) : Bool := q.size = 0

def drain (q : TriggerQueue) : List Trigger × TriggerQueue := takeAll q.size q

def close (q : TriggerQueue) : TriggerQueue :=
  { q with closed := true, arrival := q.arrival.notifyOne }

/-- What a waiting call looks for: the oldest trigger, or the news that none will come. -/
def look (q : TriggerQueue) : Option (Option Trigger × TriggerQueue) :=
  match q.take? with
  | some (t, q) => some (some t, q)
  | none => if q.closed then some (none, q) else none

/-- Runs the call that waits for a trigger, or a new one. -/
def receive (q : TriggerQueue) : Poll (Option Trigger) × TriggerQueue :=
  let (answer, arrival, q) := q.arrival.attempt look q
  (answer, { q with arrival })

/-- Drops the call that waits for a trigger. -/
def dropReceive (q : TriggerQueue) : TriggerQueue :=
  { q with arrival := q.arrival.drop }

end TriggerQueue
end RestartCoordinator
