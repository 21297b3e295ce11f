import RestartCoordinator.RequestId
import RestartCoordinator.Reason.Json
import RestartCoordinator.Failure
/-!
# Events

A `Report` records how one attempt to serve a request ended. Reports and the smaller steps of the
work, from a dropped trigger to a change of state, are the events that the coordinator publishes;
each has a type, a description for people and a JSON form.
-/
namespace RestartCoordinator
open Lifecycle (State)
open Text (quote)

/-- What serving a request comes to. -/
inductive Action where
  | start
  | restart
  | stop
  /-- Nothing is to be done. -/
  | none
deriving DecidableEq, Repr

namespace Action

def all : List Action := [.start, .restart, .stop, .none]

def name : Action → String
  | .start => "start"
  | .restart => "restart"
  | .stop => "stop"
  | .none => "none"

def title : Action → String
  | .start => "Start"
  | .restart => "Restart"
  | .stop => "Stop"
  | .none => "None"

end Action

/-- How an attempt ended. -/
inductive Outcome where
  | succeeded
  | skipped
  /-- The attempt was not answered in time, and another one follows. -/
  | retrying (error : String) (retry : Nat) (delayMs : Nat)
  | failed (error : String)
deriving DecidableEq, Repr

namespace Outcome

def isSuccess : Outcome → Bool
  | .succeeded | .skipped => true
  | _ => false

def text : Outcome → String
  | .succeeded => "Succeeded"
  | .skipped => "Skipped"
  | .retrying error retry delayMs =>
    "Retrying \x7b error: " ++ quote error ++ ", retry: " ++ toString retry ++ ", delay_ms: " ++
      toString delayMs ++ " \x7d"
  | .failed error => "Failed \x7b error: " ++ quote error ++ " \x7d"

def json : Outcome → Json
  | .succeeded => .obj [("kind", .str "succeeded")]
  | .skipped => .obj [("kind", .str "skipped")]
  | .retrying error retry delayMs =>
    .obj [("kind", .str "retrying"), ("error", .str error), ("retry", .nat retry),
      ("delay_ms", .nat delayMs)]
  | .failed error => .obj [("kind", .str "failed"), ("error", .str error)]

end Outcome

/-- The record of one attempt to serve a request. -/
structure Report where
  request : RequestId
  action : Action
  origin : State
  target : State
  reasons : List Reason
  outcome : Outcome
  /-- Zero for the first attempt, then the number of the retry. -/
  attempt : Nat
  duration : Duration
deriving DecidableEq, Repr

namespace Report

def description (r : Report) : String :=
  r.action.title ++ " " ++ r.origin.name ++ " -> " ++ r.target.name ++ " [" ++
    Reason.describeAll r.reasons ++ "] " ++ r.outcome.text ++ " in " ++ r.duration.text

/-- The fields of the JSON form; milliseconds are cut to 64 bits. -/
def fields (r : Report) : List (String × Json) :=
  [("request_id", .str r.request.text), ("action", .str r.action.name),
    ("from", .str r.origin.name), ("to", .str r.target.name),
    ("reasons", Reason.jsonAll r.reasons), ("outcome", r.outcome.json),
    ("attempt", .nat r.attempt), ("duration_ms", .nat (r.duration.millis % UInt64.size))]

def json (r : Report) : Json := .obj r.fields

end Report

/-- What the coordinator tells of its work. -/
inductive Event where
  /-- A producer's queue was full and its oldest trigger was dropped. -/
  | triggerDropped (producer : String) (reason : Reason)
  | windowOpened (reason : Reason)
  /-- A window closed and gave a request with so many reasons. -/
  | windowClosed (request : RequestId) (reasons : Nat)
  /-- A stop made so many reasons of an open window void. -/
  | stopPreempted (request : RequestId) (superseded : Nat)
  /-- A request was merged into the one that was waiting. -/
  | requestMerged (request : RequestId)
  | stateChanged (origin target : State)
  | attempted (report : Report)
  | shutdownRequested (reason : String)
deriving DecidableEq, Repr

namespace Event

/-- The type by which receivers choose events. -/
def type : Event → String
  | .triggerDropped .. => "trigger_dropped"
  | .windowOpened _ => "window_opened"
  | .windowClosed .. => "window_closed"
  | .stopPreempted .. => "stop_preempted"
  | .requestMerged _ => "request_merged"
  | .stateChanged .. => "state_changed"
  | .attempted _ => "lifecycle"
  | .shutdownRequested _ => "shutdown_requested"

def description : Event → String
  | .triggerDropped producer reason => "Dropped " ++ reason.describe ++ " from " ++ producer
  | .windowOpened reason => "Window opened by " ++ reason.describe
  | .windowClosed request reasons =>
    "Window closed: request " ++ request.text ++ " with " ++ toString reasons ++ " reason(s)"
  | .stopPreempted request superseded =>
    "Stop request " ++ request.text ++ " discarded " ++ toString superseded ++
      " pending reason(s)"
  | .requestMerged request => "Request " ++ request.text ++ " merged into pending request"
  | .stateChanged origin target => "State " ++ origin.name ++ " -> " ++ target.name
  | .attempted report => report.description
  | .shutdownRequested reason => "Shutdown requested: " ++ reason

/-- The fields of the JSON form besides the type. -/
def fields : Event → List (String × Json)
  | .triggerDropped producer reason => [("producer", .str producer), ("reason", reason.json)]
  | .windowOpened reason => [("reason", reason.json)]
  | .windowClosed request reasons => [("request_id", .str request.text), ("reasons", .nat reasons)]
  | .stopPreempted request superseded =>
    [("request_id", .str request.text), ("superseded", .nat superseded)]
  | .requestMerged request => [("request_id", .str request.text)]
  | .stateChanged origin target => [("from", .str origin.name), ("to", .str target.name)]
  | .attempted report => report.fields
  | .shutdownRequested reason => [("reason", .str reason)]

def json (e : Event) : Json := .obj (("type", .str e.type) :: e.fields)

/-- The request that an event tells of. -/
def request? : Event → Option RequestId
  | .windowClosed id _ | .stopPreempted id _ | .requestMerged id => some id
  | .attempted report => some report.request
  | _ => none

end Event
end RestartCoordinator
