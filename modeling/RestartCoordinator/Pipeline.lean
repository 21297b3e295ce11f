import RestartCoordinator.Config
import RestartCoordinator.Debouncer
import RestartCoordinator.DispatchLoop
import RestartCoordinator.Observers
import RestartCoordinator.TriggerQueue
/-!
# The pipeline

The way of a trigger through the coordinator: from the queue into a window, from the window as a
request into the pending slot, and from there to the dispatcher, whose reports go to the observers.
The pipeline moves one step at a time. Which step comes next is open, as are the answers of the
service and the course of time: `Move` lists the steps, and `Pipeline.step?` refuses one that cannot
be made in the present state.

The log is left out, and with it the names that workers and receivers have there, since nothing reads
it. Identifiers of requests come from a serial number, not from chance.
-/
namespace RestartCoordinator

/-- How far the work from the queue to the slot has come. -/
inductive CoalescingStage where
  | unstarted
  | running
  | ended
deriving DecidableEq, Repr

structure Pipeline where
  queue : TriggerQueue
  debouncer : Debouncer
  coalescing : CoalescingStage
  /-- Everything is to come to an end. -/
  cancelled : Bool
  loop : DispatchLoop
  observers : Observers
  tally : Tally
  /-- The serial number of the next request. -/
  serial : Nat

/-- A pipeline after a move, with what the dispatcher did and what was published in its course. -/
structure Moved where
  pipeline : Pipeline
  effects : List Effect
  events : List Event

/-- The steps of the pipeline. -/
inductive Move where
  | submit (trigger : Trigger)
  /-- Both loops begin. -/
  | start
  /-- The window closes because its end has come. -/
  | flush
  /-- A trigger goes from the queue into a window. -/
  | fold
  /-- The work from queue to slot ends. -/
  | endCoalescing
  /-- The dispatcher takes the request that waits. -/
  | serve
  | signal (signal : Signal)
  /-- The dispatcher leaves its loop, or is done with the last stop. -/
  | leave
  /-- An observer handles its next report. -/
  | observe (index : Nat)
  /-- Every observer has handled everything. -/
  | drained
  /-- Nothing is taken in any more, and the work from queue to slot is to end. -/
  | closeQueue
  | closeSlot
  /-- A loop that never began is given up. -/
  | abandon
deriving Repr

namespace Pipeline

def new (c : Config) : Pipeline :=
  { queue := .new c.coordinator.channelCapacity
    debouncer := .new c.coordinator.debounceIntervalMs c.coordinator.maxWindowMs
    coalescing := .unstarted
    cancelled := false
    loop := .new (.new c.dispatch.timeout c.dispatch.policy) c.coordinator.stopOnShutdown
    observers := []
    tally := .zero
    serial := 0 }

def nextId (p : Pipeline) : RequestId := .ofSerial p.serial

def count (p : Pipeline) (o : Occurrence) : Pipeline := { p with tally := p.tally.record o }

/-- A move in which the dispatcher has no part. -/
def quiet (p : Pipeline) (events : List Event) : Moved := ⟨p, [], events⟩

/-- Takes a trigger in and tells of the one it displaced. -/
def submit (p : Pipeline) (t : Trigger) : Except Failure (Submission × Moved) := do
  let (submission, queue) ← p.queue.submit t
  let events := match submission with
    | .accepted => []
    | .displaced oldest => [.triggerDropped oldest.origin oldest.reason]
  return (submission, { p with queue }.quiet events)

/-- Hands a request to the slot. -/
def handOff (p : Pipeline) (r : Request) (events : List Event) : Moved :=
  let (offer, slot) := p.loop.slot.offer r
  let p := { p with loop := { p.loop with slot } }
  match offer with
  | .merged => (p.count .requestMerged).quiet (events ++ [.requestMerged r.id])
  | _ => p.quiet events

/-- The window closes if its end has come. -/
def flush? (p : Pipeline) (now : Time) : Option Moved :=
  match p.debouncer.closeIfDue p.nextId now with
  | (some r, debouncer) =>
    let p := { p with debouncer, serial := p.serial + 1 }.count .requestCoalesced
    some (p.handOff r [.windowClosed r.id r.reasons.length])
  | (none, _) => none

/-- A trigger goes from the queue into a window. -/
def fold? (p : Pipeline) (now : Time) : Option Moved :=
  match p.queue.take? with
  | none => none
  | some (t, queue) =>
    let (folded, debouncer) := p.debouncer.fold p.nextId t now
    let p := { p with queue, debouncer }
    match folded with
    | .opened _ => some ((p.count .windowOpened).quiet [.windowOpened t.reason])
    | .joined .. => some (p.quiet [])
    | .preempted r =>
      let p := { p with serial := p.serial + 1 }.count .stopPreemption
      some (p.handOff r [.stopPreempted r.id r.superseded.length])

/-- Ends the work from queue to slot; an open window is given up. -/
def endCoalescing (p : Pipeline) : Pipeline :=
  { p with debouncer := p.debouncer.discard.2, coalescing := .ended }

/-- Takes the effects of the dispatcher into the tally and to the observers. -/
def absorb (p : Pipeline) (loop : DispatchLoop) (effects : List Effect) : Moved :=
  { pipeline :=
      { p with
        loop
        tally := (effects.filterMap Effect.occurrence?).foldl Tally.record p.tally
        observers := p.observers.tellAll (effects.filterMap Effect.report?) }
    effects
    events := effects.filterMap Effect.event? }

/-- The loops can begin: they have not begun, and no end was ordered before. -/
def canStart (p : Pipeline) : Bool := p.loop.stage = .unstarted

/-- The work from queue to slot goes on. -/
def canCoalesce (p : Pipeline) : Bool := p.coalescing = .running && !p.cancelled

/-- One step, if it can be made. A window whose end has come closes before another trigger is
taken. -/
def step? (p : Pipeline) (now : Time) : Move → Option Moved
  | .submit t => (p.submit t).toOption.map (·.2)
  | .start =>
    if p.canStart then
      some ({ p with coalescing := .running, loop := { p.loop with stage := .serving } }.quiet [])
    else none
  | .flush => if p.canCoalesce then p.flush? now else none
  | .fold => if p.canCoalesce && !p.debouncer.isDue now then p.fold? now else none
  | .endCoalescing =>
    if p.coalescing = .running && (p.cancelled || (p.queue.closed && p.queue.isEmpty)) then
      some (p.endCoalescing.quiet [])
    else none
  | .serve => (p.loop.serve? now).map fun (loop, effects) => p.absorb loop effects
  | .signal s => (p.loop.signal? now s).map fun (loop, effects) => p.absorb loop effects
  | .leave =>
    (p.loop.leave? p.nextId now).map fun (loop, effects) =>
      { p with serial := p.serial + 1 }.absorb loop effects
  | .observe index => (p.observers.work? index).map fun observers => { p with observers }.quiet []
  | .drained =>
    if p.loop.stage = .draining && p.observers.isDrained then
      some ({ p with loop := { p.loop with stage := .ended } }.quiet [])
    else none
  | .closeQueue => some ({ p with queue := p.queue.close, cancelled := true }.quiet [])
  | .closeSlot =>
    some ({ p with loop := { p.loop with slot := p.loop.slot.close.2 } }.quiet [])
  | .abandon =>
    if p.canStart then some ({ p with loop := { p.loop with stage := .ended } }.quiet []) else none

/-- The steps of a list that can be made, each at its time, in order; the others are passed over. -/
def run (p : Pipeline) : List (Time × Move) → Pipeline
  | [] => p
  | (now, m) :: rest =>
    match p.step? now m with
    | some moved => run moved.pipeline rest
    | none => run p rest

def statistics (p : Pipeline) : Statistics :=
  ⟨p.queue.submitted, p.queue.dropped, p.tally⟩

end Pipeline
end RestartCoordinator
