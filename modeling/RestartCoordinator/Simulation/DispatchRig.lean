import RestartCoordinator.Config
import RestartCoordinator.DispatchLoop
import RestartCoordinator.Event.Bus
import RestartCoordinator.Simulation.Bench
/-!
# A dispatcher on the bench

A dispatch loop with its slot, a simulated service, a bus and a clock. The clock stands still while
anything can happen and then jumps to the next moment at which something ends or is planned.
Requests can be offered, and the slot closed, at planned times while the dispatcher works.
-/
namespace RestartCoordinator

structure DispatchRig where
  loop : DispatchLoop
  bench : Bench
  tally : Tally
  bus : Bus
  now : Time
  /-- The identifier of the request that stops the service at the end. -/
  lastId : RequestId

/-- What is done to the slot from outside. -/
inductive SlotAction where
  | offer (request : Request)
  | close
deriving Repr

inductive SlotResult where
  | offered (offer : Offer)
  | discarded (request : Option Request)
deriving Repr

/-- What came of a piece of work. -/
structure WorkResult where
  /-- The work came to its end within the longest wait. -/
  done : Bool
  took : Nat
  results : List SlotResult
deriving Repr

namespace DispatchRig

/-- The longest that any work is waited for: 24 hours. -/
def longestWait : Nat := 24 * 60 * 60 * 1000

/-- The name under which the rig's own subscriber reads the bus. -/
def listener : String := "listener"

def new (c : Config.Dispatch) (service : Simulated) (busCapacity : Nat) (lastId : RequestId) :
    DispatchRig :=
  { loop := .new (.new c.timeout c.policy) true
    bench := .new service
    tally := .zero
    bus := (Bus.new busCapacity).subscribe listener .all
    now := 0
    lastId }

/-- Takes the effects of a turn in. -/
def absorb (r : DispatchRig) (loop : DispatchLoop) (bench : Bench) (effects : List Effect) :
    DispatchRig :=
  { r with
    loop
    bench := bench.follow r.now loop.dispatcher effects
    tally := (effects.filterMap Effect.occurrence?).foldl Tally.record r.tally
    bus := r.bus.publishAll (effects.filterMap Effect.event?) }

/-- The next thing that can happen at this moment. -/
def step? (r : DispatchRig) : Option DispatchRig :=
  match r.loop.signal? r.now .stopWanted with
  | some (loop, effects) => some (r.absorb loop r.bench effects)
  | none =>
    match r.bench.due? r.now r.loop.dispatcher with
    | some (signal, bench) =>
      (r.loop.signal? r.now signal).map fun (loop, effects) => r.absorb loop bench effects
    | none =>
      match r.loop.serve? r.now with
      | some (loop, effects) => some (r.absorb loop r.bench effects)
      | none =>
        match r.loop.leave? r.lastId r.now with
        | some (loop, effects) => some (r.absorb loop r.bench effects)
        | none => none

/-- Lets everything happen that can happen at this moment, in `fuel` steps at most. -/
def settleWithin : Nat → DispatchRig → DispatchRig
  | 0, r => r
  | fuel + 1, r =>
    match r.step? with
    | some r => settleWithin fuel r
    | none => r

/-- Lets everything happen that can happen at this moment. Each attempt takes four steps at most,
and at one moment at most the waiting request and the last stop are served. -/
def settle (r : DispatchRig) : DispatchRig :=
  settleWithin (16 * (r.loop.dispatcher.policy.maxRetries + 2)) r

/-- Acts on the slot. -/
def act (r : DispatchRig) : SlotAction → SlotResult × DispatchRig
  | .offer request =>
    let (offer, slot) := r.loop.slot.offer request
    (.offered offer, { r with loop := { r.loop with slot } })
  | .close =>
    let (discarded, slot) := r.loop.slot.close
    (.discarded discarded, { r with loop := { r.loop with slot } })

/-- Takes the request that waits out of the slot. -/
def take (r : DispatchRig) : Option Request × DispatchRig :=
  let (request, slot) := r.loop.slot.take
  (request, { r with loop := { r.loop with slot } })

/-- An action on the slot, planned for a time. The number tells its result from the others. -/
structure Planned where
  number : Nat
  time : Time
  action : SlotAction
deriving Repr

/-- Does the actions whose time has come, of a list in the order of time. -/
def actDue (r : DispatchRig) : List Planned →
    List (Nat × SlotResult) × List Planned × DispatchRig
  | [] => ([], [], r)
  | p :: rest =>
    if p.time ≤ r.now then
      let (result, r) := r.act p.action
      let (results, rest, r) := r.actDue rest
      ((p.number, result) :: results, rest, r)
    else ([], p :: rest, r)

/-- Works until `isDone` holds and every planned action is done; says when `isDone` first held. The
work itself is given up at `limit`. -/
def workWithin (isDone : DispatchRig → Bool) (limit : Time) :
    Nat → Option Time → List (Nat × SlotResult) → List Planned → DispatchRig →
      Option Time × List (Nat × SlotResult) × DispatchRig
  | 0, ended, results, _, r => (ended, results, r)
  | fuel + 1, ended, results, planned, r =>
    let r := if ended.isSome then r else r.settle
    let ended := ended <|> (if isDone r then some r.now else none)
    let (more, planned, r) := r.actDue planned
    let results := results ++ more
    if !more.isEmpty then workWithin isDone limit fuel ended results planned r
    else
      let ends := (if ended.isSome then [] else [r.bench.next?.getD limit, limit]) ++
        planned.head?.toList.map (·.time)
      match ends.min? with
      | none => (ended, results, r)
      | some time =>
        if ended.isNone && limit ≤ time then (none, results, { r with now := limit })
        else workWithin isDone limit fuel ended results planned { r with now := time }

/-- The work under way is given up. -/
def giveUp (r : DispatchRig) : DispatchRig :=
  { r with
    loop :=
      { r.loop with
        dispatcher := { r.loop.dispatcher with task := .idle }
        stage := .unstarted }
    bench := r.bench.abandon }

/-- Works with actions planned at times from now on. The results are in the order of the plan. -/
def work (isDone : DispatchRig → Bool) (planned : List (Nat × SlotAction)) (r : DispatchRig) :
    WorkResult × DispatchRig :=
  let start := r.now
  let planned := planned.zipIdx.map fun ((after, action), number) =>
    Planned.mk number (start + after) action
  let planned := planned.mergeSort (fun a b => a.time ≤ b.time)
  let (ended, results, r) := workWithin isDone (start + longestWait)
    (longestWait + 2 * planned.length + 2) none [] planned r
  let results := (results.mergeSort (fun a b => a.1 ≤ b.1)).map (·.2)
  match ended with
  | some time => (⟨true, time - start, results⟩, r)
  | none => (⟨false, longestWait, results⟩, r.giveUp)

/-- Serves one request. -/
def dispatch (request : Request) (planned : List (Nat × SlotAction)) (r : DispatchRig) :
    WorkResult × DispatchRig :=
  let (loop, effects) := r.loop.turn r.now (.request request)
  work (·.loop.dispatcher.isIdle) planned (r.absorb loop r.bench effects)

/-- Serves requests from the slot until it is closed and empty. -/
def serve (stopAtEnd : Bool) (planned : List (Nat × SlotAction)) (r : DispatchRig) :
    WorkResult × DispatchRig :=
  work (·.loop.stage = .draining) planned
    { r with loop := { r.loop with stage := .serving, stopAtEnd } }

def sleep (r : DispatchRig) (ms : Nat) : DispatchRig := { r with now := r.now + ms }

/-- The events since the last call: how many were missed, and the rest. -/
def events (r : DispatchRig) : Nat × List Event × DispatchRig :=
  let (missed, events, bus) := r.bus.drain listener
  (missed, events, { r with bus })

end DispatchRig
end RestartCoordinator
