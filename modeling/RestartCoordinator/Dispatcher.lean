import RestartCoordinator.Event
import RestartCoordinator.Lifecycle.Machine
import RestartCoordinator.Request
import RestartCoordinator.Retry
import RestartCoordinator.Service
import RestartCoordinator.Tally
/-!
# The dispatcher

The dispatcher serves one request at a time and is the only one to move the lifecycle. It works in
turns: a signal from outside (a request, the answer to a service call, the end of a wait) lets it
run until it needs the next one, and what it does on the way is the list of effects of that turn.

A request is served by attempts. An attempt starts, restarts or stops the service, depending on what
is asked and on the state; before a fresh start an instance that a failed stop left behind is
released. An attempt that is not answered in time is made again after a delay, which a wanted stop
cuts short.
-/
namespace RestartCoordinator
open Lifecycle (State Input Snapshot)

/-- A call to the managed service. -/
inductive Call where
  | start
  | stop (handle : Handle)
  /-- A stop of an instance that a failed stop has left behind; its answer does not matter. -/
  | release (handle : Handle)
deriving DecidableEq, Repr

/-- One attempt to serve a request. -/
structure Attempt where
  request : Request
  action : Action
  /-- The state in which the attempt began. -/
  origin : State
  /-- When the attempt began. -/
  since : Time
  /-- The retries made so far, which also number the attempts. -/
  recovery : Recovery
deriving DecidableEq, Repr

/-- What the dispatcher is waiting for. -/
inductive Task where
  /-- For a request. -/
  | idle
  /-- For the answer to a call. -/
  | calling (attempt : Attempt) (call : Call)
  /-- For the end of the delay before the next attempt. -/
  | waiting (attempt : Attempt) (delay : Duration)
deriving DecidableEq, Repr

/-- What the dispatcher does in the course of a turn. -/
inductive Effect where
  | called (call : Call)
  | moved (origin target : State)
  /-- The lifecycle refused an input; the request is dropped. -/
  | refused (origin : State) (input : Input)
  | counted (occurrence : Occurrence)
  | reported (report : Report)
deriving DecidableEq, Repr

/-- What lets the dispatcher go on. -/
inductive Signal where
  | request (request : Request)
  | startAnswered (answer : Answer Handle)
  | stopAnswered (answer : Answer Unit)
  | delayEnded
  /-- A stop is wanted while the dispatcher waits for the next attempt. -/
  | stopWanted
deriving DecidableEq, Repr

structure Dispatcher where
  /-- How long a service call may take. -/
  timeout : Duration
  policy : RetryPolicy
  snapshot : Snapshot
  /-- The instance to be stopped next, unless a call is just stopping it. -/
  handle : Option Handle
  task : Task
deriving DecidableEq, Repr

/-- A dispatcher at some point of a turn, and the effects of the turn so far. -/
abbrev Turn := Dispatcher × List Effect

namespace Dispatcher

def new (timeout : Duration) (policy : RetryPolicy) : Dispatcher :=
  ⟨timeout, policy, .initial, none, .idle⟩

def state (d : Dispatcher) : State := d.snapshot.state

def isIdle (d : Dispatcher) : Bool := d.task = .idle

/-- What a request comes to in a state. -/
def plan (state : State) (r : Request) : Action :=
  if r.isStop then
    match state with
    | .stopped => .none
    | _ => .stop
  else
    match state with
    | .running => .restart
    | .stopped | .failed => .start
    | _ => .none

/-- The turn ends with the dispatcher ready for the next request. -/
def rest (d : Dispatcher) (effects : List Effect) : Turn :=
  ({ d with task := .idle }, effects)

/-- The turn goes on to a service call. -/
def call (d : Dispatcher) (a : Attempt) (c : Call) (effects : List Effect) : Turn :=
  ({ d with task := .calling a c }, effects ++ [.called c])

/-- Applies an input to the lifecycle and goes on, or drops the request if the input is refused. -/
def move (d : Dispatcher) (a : Attempt) (input : Input) (effects : List Effect)
    (next : Dispatcher → List Effect → Turn) : Turn :=
  match d.snapshot.apply input a.request.reasons with
  | .ok s => next { d with snapshot := s } (effects ++ [.moved d.state s.state])
  | .error _ => d.rest (effects ++ [.refused d.state input])

/-- The record of an attempt that ends now. -/
def report (d : Dispatcher) (a : Attempt) (now : Time) (outcome : Outcome) : Report :=
  { request := a.request.id
    action := a.action
    origin := a.origin
    target := d.state
    reasons := a.request.reasons
    outcome
    attempt := a.recovery.retries
    duration := .ofMillis (now - a.since) }

def succeed (d : Dispatcher) (a : Attempt) (now : Time) (effects : List Effect) : Turn :=
  d.rest (effects ++ [.counted .dispatch, .reported (d.report a now .succeeded)])

/-- Decides what follows a failed attempt. -/
def recover (d : Dispatcher) (a : Attempt) (now : Time) (f : Failure) (effects : List Effect) :
    Turn :=
  match a.recovery.handle f with
  | (.retryAfter delay, recovery) =>
    let outcome := .retrying f.message recovery.retries (delay.millis % UInt64.size)
    ({ d with task := .waiting { a with recovery } delay },
      effects ++ [.counted .retry, .reported (d.report a now outcome)])
  | (.giveUp, _) =>
    d.rest (effects ++ [.counted .failure, .reported (d.report a now (.failed f.message))])

/-- The attempt fails, and the lifecycle with it. -/
def fail (d : Dispatcher) (a : Attempt) (now : Time) (f : Failure) (effects : List Effect) : Turn :=
  match d.snapshot.fail f a.request.reasons with
  | .ok s => recover { d with snapshot := s } a now f (effects ++ [.moved d.state s.state])
  | .error _ => d.rest (effects ++ [.refused d.state .failed])

/-- The service has stopped: a stop is done, and a restart goes on to the start. -/
def afterStop (d : Dispatcher) (a : Attempt) (now : Time) (effects : List Effect) : Turn :=
  d.move a .stopSucceeded effects fun d effects =>
    if a.action = .restart then d.call a .start effects else d.succeed a now effects

/-- Stops the instance at hand, if there is one. -/
def stopInstance (d : Dispatcher) (a : Attempt) (now : Time) (effects : List Effect) : Turn :=
  match d.handle with
  | none => d.afterStop a now effects
  | some h => { d with handle := none }.call a (.stop h) effects

/-- Starts the service, but first releases an instance that was left behind. -/
def startInstance (d : Dispatcher) (a : Attempt) (effects : List Effect) : Turn :=
  match d.handle with
  | none => d.call a .start effects
  | some h => { d with handle := none }.call a (.release h) effects

/-- Makes an attempt at a request. -/
def attempt (d : Dispatcher) (r : Request) (recovery : Recovery) (now : Time) : Turn :=
  let a : Attempt := ⟨r, plan d.state r, d.state, now, recovery⟩
  match a.action with
  | .none => d.rest [.counted .skipped, .reported (d.report a now .skipped)]
  | .start => d.move a .start [] fun d effects => d.startInstance a effects
  | .restart => d.move a .restart [] fun d effects => d.stopInstance a now effects
  | .stop => d.move a .stop [] fun d effects => d.stopInstance a now effects

/-- A start was answered. -/
def afterStartCall (d : Dispatcher) (a : Attempt) (now : Time) : Answer Handle → Turn
  | .done h =>
    { d with handle := some h }.move a .startSucceeded [] fun d effects => d.succeed a now effects
  | .failed error => d.fail a now (.startFailed error) []
  | .timedOut => d.fail a now (.timedOut "start" d.timeout) []

/-- A stop was answered. An instance that did not stop stays at hand. -/
def afterStopCall (d : Dispatcher) (a : Attempt) (h : Handle) (now : Time) : Answer Unit → Turn
  | .done () => d.afterStop a now []
  | .failed error => { d with handle := some h }.fail a now (.stopFailed error) []
  | .timedOut => { d with handle := some h }.fail a now (.timedOut "stop" d.timeout) []

/-- One turn. A signal for which the dispatcher is not waiting changes nothing. -/
def turn (d : Dispatcher) (now : Time) (signal : Signal) : Turn :=
  match d.task, signal with
  | .idle, .request r => d.attempt r (.new d.policy) now
  | .calling a .start, .startAnswered answer => d.afterStartCall a now answer
  | .calling a (.stop h), .stopAnswered answer => d.afterStopCall a h now answer
  | .calling a (.release _), .stopAnswered _ => d.call a .start []
  | .waiting a _, .delayEnded => d.attempt a.request a.recovery now
  | .waiting _ _, .stopWanted => d.rest []
  | _, _ => (d, [])

/-- The turns of a sequence of signals, each at its time, and all their effects. -/
def run (d : Dispatcher) : List (Time × Signal) → Turn
  | [] => (d, [])
  | (now, signal) :: rest =>
    let (d, effects) := d.turn now signal
    let (d, more) := d.run rest
    (d, effects ++ more)

/-- The service is down and nothing of it is left behind. -/
def isDown (d : Dispatcher) : Bool := d.state = .stopped && d.handle.isNone

/-- The request by which the service is stopped when everything ends. -/
def shutdownRequest (id : RequestId) (now : Time) : Request :=
  .immediate id (.ofReason (.plain .switchOff) "shutdown" now) now

end Dispatcher

/-- The event of an effect, for those effects that are published. -/
def Effect.event? : Effect → Option Event
  | .moved origin target => some (.stateChanged origin target)
  | .reported report => some (.attempted report)
  | _ => none

def Effect.occurrence? : Effect → Option Occurrence
  | .counted o => some o
  | _ => none

def Effect.report? : Effect → Option Report
  | .reported r => some r
  | _ => none

end RestartCoordinator
