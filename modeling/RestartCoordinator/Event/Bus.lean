import RestartCoordinator.Event
import RestartCoordinator.Wakeup
/-!
# The event bus

The bus keeps the latest events for its subscribers, as many as its capacity, which is the next
power of two. A subscriber reads every event published since it came, in order, through a filter.
One that reads too slowly has missed the events that are no longer kept, and goes on with the oldest
that is. When the bus is gone, its subscribers still read what it kept.
-/
namespace RestartCoordinator

/-- The choice of events that a subscriber makes. -/
inductive EventFilter where
  | all
  | types (names : List String)
deriving DecidableEq, Repr

def EventFilter.accepts : EventFilter → Event → Bool
  | .all, _ => true
  | .types names, e => names.contains e.type

structure Subscriber where
  name : String
  filter : EventFilter
  /-- The number of the event to be read next. -/
  position : Nat
deriving DecidableEq, Repr

structure Bus where
  capacity : Nat
  /-- How many events were published while someone listened. -/
  published : Nat
  /-- The latest of them, oldest first. -/
  kept : List Event
  subscribers : List Subscriber
  closed : Bool
deriving DecidableEq, Repr

/-- What a subscriber finds when it reads. -/
inductive Reading where
  | event (e : Event)
  /-- So many events are lost to this subscriber. -/
  | missed (count : Nat)
  | nothing
  | ended
deriving DecidableEq, Repr

/-- The least power of two that is not below a number. -/
def roundUpPow2 (n : Nat) : Nat :=
  if n ≤ 1 then 1 else 1 <<< ((n - 1).log2 + 1)

namespace Bus

def new (capacity : Nat) : Bus :=
  ⟨roundUpPow2 capacity, 0, [], [], false⟩

/-- The number of the oldest event that is kept. -/
def oldest (b : Bus) : Nat := b.published - b.kept.length

def subscriber? (b : Bus) (name : String) : Option Subscriber :=
  b.subscribers.find? (·.name == name)

/-- Adds a subscriber, which takes the place of an older one of its name. -/
def subscribe (b : Bus) (name : String) (filter : EventFilter) : Bus :=
  { b with
    subscribers := b.subscribers.filter (·.name != name) ++ [⟨name, filter, b.published⟩] }

def unsubscribe (b : Bus) (name : String) : Bus :=
  { b with subscribers := b.subscribers.filter (·.name != name) }

/-- Publishes an event and says how many subscribers it reached; without any, nothing is kept. -/
def publish (b : Bus) (e : Event) : Nat × Bus :=
  if b.subscribers.isEmpty then (0, b)
  else
    let kept := b.kept ++ [e]
    (b.subscribers.length,
      { b with published := b.published + 1, kept := kept.drop (kept.length - b.capacity) })

def publishAll (b : Bus) (es : List Event) : Bus :=
  es.foldl (fun b e => (b.publish e).2) b

def close (b : Bus) : Bus := { b with closed := true }

/-- What a subscriber reads next, whether it chose such events or not, and where it stands then. -/
def read (b : Bus) (position : Nat) : Reading × Nat :=
  if position < b.oldest then (.missed (b.oldest - position), b.oldest)
  else
    match b.kept[position - b.oldest]? with
    | some e => (.event e, position + 1)
    | none => (if b.closed then .ended else .nothing, position)

/-- The first event from a position on that the filter accepts, or the end of what is kept, and
where the subscriber stands then. Missed events are passed over; `fuel` bounds the number of reads.
-/
def seek (b : Bus) (filter : EventFilter) : Nat → Nat → Reading × Nat
  | 0, position => (.nothing, position)
  | fuel + 1, position =>
    match b.read position with
    | (.event e, next) =>
      if filter.accepts e then (.event e, next) else seek b filter fuel next
    | (.missed _, next) => seek b filter fuel next
    | answer => answer

def moveTo (b : Bus) (name : String) (position : Nat) : Bus :=
  { b with
    subscribers := b.subscribers.map fun s => if s.name == name then { s with position } else s }

/-- Runs the call by which a subscriber waits for its next event; none when the bus is gone and
everything was read. -/
def receive (b : Bus) (s : Subscriber) : Poll (Option Event) × Bus :=
  match b.seek s.filter (b.kept.length + 2) s.position with
  | (.event e, position) => (.ready (some e), b.moveTo s.name position)
  | (.ended, position) => (.ready none, b.moveTo s.name position)
  | (_, position) => (.pending, b.moveTo s.name position)

/-- There is something that a subscriber has not read. -/
def hasNews (b : Bus) (name : String) : Bool :=
  (b.subscriber? name).any (·.position < b.published)

/-- Everything a subscriber can read at once: how many events it has missed, and the kept ones. -/
def drain (b : Bus) (name : String) : Nat × List Event × Bus :=
  match b.subscriber? name with
  | none => (0, [], b)
  | some s =>
    (b.oldest - s.position, b.kept.drop (s.position - b.oldest), b.moveTo name b.published)

end Bus
end RestartCoordinator
