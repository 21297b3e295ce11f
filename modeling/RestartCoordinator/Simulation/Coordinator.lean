import RestartCoordinator.Event.Bus
import RestartCoordinator.Pipeline
import RestartCoordinator.Shutdown
import RestartCoordinator.Simulation.Bench
import RestartCoordinator.Simulation.Source
/-!
# A coordinator on a clock

The pipeline with a simulated service, sources, a bus with one subscriber that records what it
reads, and a clock. The clock stands still while anything can happen and then jumps to the next
moment at which something is due. At one moment the workers take turns: those first who have waited
longest, and behind them those for whom there is something to do only after the turn of another.
When nobody can do anything more, a shutdown that is under way goes on.
-/
namespace RestartCoordinator
open Lifecycle (State Snapshot)

/-- How far a shutdown has come. -/
inductive Closing where
  | off
  /-- The first source that was not joined yet is waited for since then. -/
  | sources (since : Time)
  | coalescing
  /-- The dispatch loop is to end; only the first shutdown waits for it. -/
  | dispatching (first : Bool)
deriving DecidableEq, Repr

/-- A coordinator that runs by itself until it is told to end. -/
inductive Running where
  /-- It does not run by itself. -/
  | off
  | waiting
  | closing (reason : ShutdownReason)
  | ended (result : Except Failure ShutdownReason)

/-- Those who take turns. -/
inductive Worker where
  /-- A source, by its place. -/
  | source (place : Nat)
  /-- The work from queue to slot. -/
  | coalescer
  | recorder
  | dispatcher
deriving DecidableEq, Repr

structure Coordinator where
  config : Config
  now : Time
  pipeline : Pipeline
  bench : Bench
  bus : Bus
  /-- What the recorder read and when, last first. -/
  record : List (Time × Reading)
  sources : List Source
  /-- The workers with a clock of their own, in the order of their latest turns. -/
  waiting : List Worker
  closing : Closing
  /-- The end of the dispatch loop was waited for. -/
  awaited : Bool
  /-- The reason to end that was given first. -/
  shutdownReason : Option ShutdownReason
  /-- It has run by itself before. -/
  ran : Bool
  running : Running

namespace Coordinator

/-- How long a shutdown waits for a source. -/
def sourceTimeout : Nat := 5000

/-- The longest wait for a shutdown: 24 hours. -/
def longestWait : Nat := 24 * 60 * 60 * 1000

/-- The name under which the recorder reads the bus. -/
def recorder : String := "recorder"

/-- A coordinator that was not started yet, if its settings can be used. -/
def new (c : Config) (service : Simulated) (observers : Observers) : Except Failure Coordinator :=
  match c.fault? with
  | some fault => .error (.config fault.message)
  | none =>
    .ok
      { config := c
        now := 0
        pipeline := { Pipeline.new c with observers }
        bench := .new service
        bus := (Bus.new c.observer.eventBusCapacity).subscribe recorder .all
        record := []
        sources := []
        waiting := []
        closing := .off
        awaited := false
        shutdownReason := none
        ran := false
        running := .off }

def snapshot (c : Coordinator) : Snapshot := c.pipeline.loop.dispatcher.snapshot

/-- The coordinator was started, or can be started no more. -/
def isStarted (c : Coordinator) : Bool := !c.pipeline.canStart

/-- The coordinator after a move of the pipeline. -/
def after (c : Coordinator) (moved : Moved) : Coordinator :=
  { c with
    pipeline := moved.pipeline
    bench := c.bench.follow c.now moved.pipeline.loop.dispatcher moved.effects
    bus := c.bus.publishAll moved.events }

/-- Makes a move of the pipeline if it can be made. -/
def move? (c : Coordinator) (m : Move) : Option Coordinator :=
  (c.pipeline.step? c.now m).map c.after

/-- Makes a move of the pipeline or leaves everything as it is. -/
def move (c : Coordinator) (m : Move) : Coordinator := (c.move? m).getD c

def start (c : Coordinator) : Except Failure Coordinator :=
  match c.move? .start with
  | some c => .ok c
  | none => .error (.system "Coordinator already started")

def addObserver (c : Coordinator) (kind : Observer.Kind) : Except Failure Coordinator :=
  if c.isStarted then .error (.system "Observers must be added before start")
  else
    let observers := c.pipeline.observers ++ [Observer.new kind]
    .ok { c with pipeline := { c.pipeline with observers } }

def submit (c : Coordinator) (t : Trigger) : Except Failure (Submission × Coordinator) := do
  let (submission, moved) ← c.pipeline.submit t
  return (submission, c.after moved)

/-- Publishes an event from outside and says how many subscribers it reached. -/
def publish (c : Coordinator) (e : Event) : Nat × Coordinator :=
  let (reached, bus) := c.bus.publish e
  (reached, { c with bus })

def spawn (c : Coordinator) (plan : List (Nat × Trigger)) (finish : Source.Finish) : Coordinator :=
  { c with
    sources := c.sources ++ [.new plan finish c.now]
    waiting := c.waiting ++ [.source c.sources.length] }

/-- Gives a reason to end. Only the first one counts. -/
def trigger (c : Coordinator) (reason : ShutdownReason) : Bool × Coordinator :=
  if c.shutdownReason.isSome then (false, c) else (true, { c with shutdownReason := some reason })

/-- The recorder reads what it finds on the bus. -/
def listen (c : Coordinator) : Coordinator :=
  let (missed, events, bus) := c.bus.drain recorder
  let lost := if missed = 0 then [] else [Reading.missed missed]
  let read := (lost ++ events.map Reading.event).map fun r => (c.now, r)
  { c with bus, record := read.reverse ++ c.record }

/-- A source takes its turn. -/
def turnSource (c : Coordinator) (place : Nat) : Coordinator :=
  match c.sources[place]? with
  | none => c
  | some s =>
    let (triggers, s) := s.turn c.pipeline.cancelled c.now
    let c := triggers.foldl (fun c t => c.move (.submit t)) c
    { c with sources := c.sources.set place s }

/-- The work from queue to slot, in `fuel` moves at most. -/
def coalesceWithin : Nat → Coordinator → Coordinator
  | 0, c => c
  | fuel + 1, c =>
    match c.move? .endCoalescing with
    | some c => c
    | none =>
      match c.move? .flush <|> c.move? .fold with
      | some c => coalesceWithin fuel c
      | none => c

/-- The next thing that the dispatcher can do. -/
def dispatch? (c : Coordinator) : Option Coordinator :=
  match c.move? (.signal .stopWanted) with
  | some c => some c
  | none =>
    match c.bench.due? c.now c.pipeline.loop.dispatcher with
    | some (signal, bench) => { c with bench }.move? (.signal signal)
    | none => c.move? .serve <|> c.move? .leave

/-- The turn of the dispatcher, in `fuel` moves at most. -/
def dispatchWithin : Nat → Coordinator → Coordinator
  | 0, c => c
  | fuel + 1, c =>
    match c.dispatch? with
    | some c => dispatchWithin fuel c
    | none => c

/-- The observers handle what waits for them, and the dispatch loop may end with that. -/
def observe (c : Coordinator) : Coordinator :=
  { c with pipeline := { c.pipeline with observers := c.pipeline.observers.drain } }.move .drained

/-- There is something to do for a worker. -/
def canWork (c : Coordinator) : Worker → Bool
  | .source place => (c.sources[place]?).any fun s =>
    let (triggers, next) := s.turn c.pipeline.cancelled c.now
    !triggers.isEmpty || next ≠ s
  | .coalescer => [Move.endCoalescing, .flush, .fold].any fun m => (c.move? m).isSome
  | .recorder => c.bus.hasNews recorder
  | .dispatcher => c.dispatch?.isSome

/-- The turn of a worker. Each trigger in the queue takes one move of the coalescer and a window
that is due one more; of the dispatcher's moves at one moment few follow each other, as each attempt
that is not answered takes time. -/
def turnOf (c : Coordinator) (w : Worker) : Coordinator :=
  let waiting := c.waiting.filter (· ≠ w) ++ [w]
  match w with
  | .source place => { c.turnSource place with waiting }
  | .coalescer => { coalesceWithin (c.pipeline.queue.size + 2) c with waiting }
  | .recorder => c.listen
  | .dispatcher => { dispatchWithin 32 c with waiting }

def workers (c : Coordinator) : List Worker :=
  (List.range c.sources.length).map .source ++ [.coalescer, .recorder, .dispatcher]

/-- The workers that queue up take their turns, `fuel` in all at most. -/
def workWithin : Nat → List Worker → Coordinator → Coordinator
  | 0, _, c => c
  | _, [], c => c
  | fuel + 1, w :: rest, c =>
    let c := c.turnOf w
    workWithin fuel (rest ++ c.workers.filter fun v => !rest.contains v && c.canWork v) c

/-- Everyone takes turns until there is nothing to do, and then the observers work. -/
def turn (c : Coordinator) : Coordinator :=
  let queue := c.waiting ++ c.workers.filter (!c.waiting.contains ·)
  (workWithin (8 * (c.sources.length + 8)) (queue.filter c.canWork) c).observe

/-- Nothing is taken in any more, and everything is to end. -/
def beginShutdown (c : Coordinator) : Coordinator :=
  { c.move .closeQueue with closing := .sources c.now }

/-- The first source that was not joined is waited for: it has ended, or its time is up. -/
def joinSource? (now since : Time) : List Source → Option (List Source)
  | [] => none
  | s :: rest =>
    if s.joined then (joinSource? now since rest).map (s :: ·)
    else if s.ended || since + sourceTimeout ≤ now then
      some ({ s.stop with joined := true } :: rest)
    else none

/-- A shutdown goes on. -/
def close? (c : Coordinator) : Option Coordinator :=
  match c.closing with
  | .off => none
  | .sources since =>
    if c.sources.all (·.joined) then some { c with closing := .coalescing }
    else
      (joinSource? c.now since c.sources).map fun sources =>
        { c with sources, closing := .sources c.now }
  | .coalescing =>
    if c.pipeline.coalescing = .running then none
    else some { c.move .closeSlot with closing := .dispatching (!c.awaited), awaited := true }
  | .dispatching first =>
    if first && c.isStarted && c.pipeline.loop.stage ≠ .ended then none
    else some { c.move .abandon with closing := .off }

/-- A coordinator that runs by itself goes on. -/
def run? (c : Coordinator) : Option Coordinator :=
  match c.running, c.shutdownReason, c.closing with
  | .waiting, some reason, _ =>
    some { (c.publish (.shutdownRequested reason.text)).2.listen.beginShutdown with
      running := .closing reason }
  | .closing reason, _, .off => some { c with running := .ended (.ok reason) }
  | _, _, _ => none

/-- Everything that can happen at this moment, in `fuel` rounds at most. -/
def settleWithin : Nat → Coordinator → Coordinator
  | 0, c => c
  | fuel + 1, c =>
    let c := c.turn
    match c.close? <|> c.run? with
    | some c => settleWithin fuel c
    | none => c

/-- Everything that can happen at this moment. A shutdown needs a round for each source and a few
more. -/
def settle (c : Coordinator) : Coordinator := settleWithin (c.sources.length + 8) c

/-- When something is due next. -/
def next? (c : Coordinator) : Option Time :=
  let deadline := if c.pipeline.canCoalesce then c.pipeline.debouncer.deadline else none
  let join := match c.closing with
    | .sources since => some (since + sourceTimeout)
    | _ => none
  (c.bench.next?.toList ++ deadline.toList ++ join.toList ++ c.sources.filterMap (·.next?)).min?

/-- Lets time pass until `isDone` holds, or to the limit; says whether it holds. -/
def waitWithin (isDone : Coordinator → Bool) (limit : Time) : Nat → Coordinator → Bool × Coordinator
  | 0, c => (false, c)
  | fuel + 1, c =>
    let c := c.settle
    if isDone c then (true, c)
    else
      match c.next? with
      | some t => if t ≤ limit then waitWithin isDone limit fuel { c with now := t }
        else (false, { c with now := limit })
      | none => (false, { c with now := limit })

/-- Lets time pass until `isDone` holds, but so many milliseconds at most. The clock moves on with
each round. -/
def waitFor (c : Coordinator) (isDone : Coordinator → Bool) (ms : Nat) : Bool × Coordinator :=
  waitWithin isDone (c.now + ms) (ms + 1) c

/-- Lets time pass until a given time, and everything happen that is due by then. -/
def waitUntil (c : Coordinator) (t : Time) : Coordinator :=
  if t ≤ c.now then c else (c.waitFor (fun _ => false) (t - c.now)).2

/-- Waits for a state. None if it was not reached in time; no snapshot if the state can change no
more. -/
def waitState (c : Coordinator) (wanted : State) (ms : Nat) :
    Option (Option Snapshot) × Coordinator :=
  let reached (c : Coordinator) := c.snapshot.state = wanted
  let (done, c) := c.waitFor (fun c => reached c || c.pipeline.loop.stage = .ended) ms
  (if done then some (if reached c then some c.snapshot else none) else none, c)

/-- Shuts down; says whether that came to an end. -/
def shutdown (c : Coordinator) : Bool × Coordinator :=
  let (done, c) := c.beginShutdown.waitFor (·.closing = .off) longestWait
  (done, { c with closing := .off })

/-- Begins to run by itself; this works once. A reason to end that was given before takes effect at
once, so nobody has had a turn since the start. -/
def run (c : Coordinator) : Coordinator :=
  let c := c.move .start
  if c.ran then { c with running := .ended (.error (.system "Shutdown receiver already taken")) }
  else
    let c := { c with ran := true, running := .waiting }
    c.run?.getD c

/-- The coordinator runs by itself, or was not asked what came of that. -/
def isHeld (c : Coordinator) : Bool := !c.running matches .off

def hasEnded (c : Coordinator) : Bool := c.running matches .ended _

/-- Waits for the end of a coordinator that runs by itself. -/
def join (c : Coordinator) : Option (Except Failure ShutdownReason) × Coordinator :=
  let c := (c.waitFor hasEnded longestWait).2
  match c.running with
  | .ended result => (some result, { c with running := .off })
  | _ => (none, c)

/-- What the recorder has read since the last call. -/
def takeRecord (c : Coordinator) : List (Time × Reading) × Coordinator :=
  (c.record.reverse, { c with record := [] })

end Coordinator
end RestartCoordinator
