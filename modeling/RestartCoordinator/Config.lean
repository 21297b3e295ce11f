import RestartCoordinator.Json
import RestartCoordinator.Retry
/-!
# Configuration

The settings in their four sections, their defaults, and the rules that a configuration has to meet
before it is used. Times are in milliseconds.
-/
namespace RestartCoordinator

namespace Config

structure Coordination where
  /-- The quiet period that closes a window. -/
  debounceIntervalMs : Nat := 500
  /-- How far triggers of user priority may stretch a window. -/
  maxWindowMs : Nat := 5000
  /-- How many triggers of one producer are kept. -/
  channelCapacity : Nat := 64
  /-- Stop the service at the end. -/
  stopOnShutdown : Bool := true
deriving DecidableEq, Repr, Inhabited

structure Dispatch where
  /-- How long a service call may take. -/
  dispatchTimeoutMs : Nat := 30000
  /-- How many retries may follow an attempt that was not answered in time. -/
  maxRetryAttempts : Nat := 3
  /-- The delay before the first retry; it doubles with each further one. -/
  retryBackoffBaseMs : Nat := 1000
  /-- The longest delay before a retry. -/
  retryBackoffMaxMs : Nat := 60000
deriving DecidableEq, Repr, Inhabited

structure Observation where
  /-- The file to which reports are appended. -/
  journalPath : Option String := none
  /-- How many events the bus keeps for slow subscribers. -/
  eventBusCapacity : Nat := 100
deriving DecidableEq, Repr, Inhabited

/-- Settings of the simulated service. -/
structure Simulation where
  startDelayMs : Nat := 200
  stopDelayMs : Nat := 100
  /-- How many starts fail before one succeeds. -/
  failStarts : Nat := 0
deriving DecidableEq, Repr, Inhabited

end Config

structure Config where
  coordinator : Config.Coordination := {}
  dispatch : Config.Dispatch := {}
  observer : Config.Observation := {}
  simulation : Config.Simulation := {}
deriving DecidableEq, Repr, Inhabited

namespace Config

/-- Why a configuration cannot be used. -/
inductive Fault where
  | noDebounceInterval
  | windowTooShort
  | noChannelCapacity
  | noDispatchTimeout
  | backoffBelowBase
  | noBusCapacity
deriving DecidableEq, Repr

def Fault.message : Fault → String
  | .noDebounceInterval => "Debounce interval must be greater than 0"
  | .windowTooShort => "Max window must not be shorter than the debounce interval"
  | .noChannelCapacity => "Channel capacity must be greater than 0"
  | .noDispatchTimeout => "Dispatch timeout must be greater than 0"
  | .backoffBelowBase => "Retry backoff max must not be below the backoff base"
  | .noBusCapacity => "Event bus capacity must be greater than 0"

/-- The first fault of a configuration. -/
def fault? (c : Config) : Option Fault :=
  if c.coordinator.debounceIntervalMs = 0 then some .noDebounceInterval
  else if c.coordinator.maxWindowMs < c.coordinator.debounceIntervalMs then some .windowTooShort
  else if c.coordinator.channelCapacity = 0 then some .noChannelCapacity
  else if c.dispatch.dispatchTimeoutMs = 0 then some .noDispatchTimeout
  else if c.dispatch.retryBackoffMaxMs < c.dispatch.retryBackoffBaseMs then some .backoffBelowBase
  else if c.observer.eventBusCapacity = 0 then some .noBusCapacity
  else none

/-- The plan for retries that the settings describe. -/
def Dispatch.policy (d : Dispatch) : RetryPolicy :=
  ⟨d.maxRetryAttempts, .ofMillis d.retryBackoffBaseMs, .ofMillis d.retryBackoffMaxMs, true⟩

def Dispatch.timeout (d : Dispatch) : Duration := .ofMillis d.dispatchTimeoutMs

/-- The durations in the settings, in their order. -/
def durations (c : Config) : List Duration :=
  [c.coordinator.debounceIntervalMs, c.coordinator.maxWindowMs, c.dispatch.dispatchTimeoutMs,
    c.dispatch.retryBackoffBaseMs, c.dispatch.retryBackoffMaxMs, c.simulation.startDelayMs,
    c.simulation.stopDelayMs].map .ofMillis

def json (c : Config) : Json :=
  .obj [
    ("coordinator", .obj [
      ("debounce_interval_ms", .nat c.coordinator.debounceIntervalMs),
      ("max_window_ms", .nat c.coordinator.maxWindowMs),
      ("channel_capacity", .nat c.coordinator.channelCapacity),
      ("stop_on_shutdown", .bool c.coordinator.stopOnShutdown)]),
    ("dispatch", .obj [
      ("dispatch_timeout_ms", .nat c.dispatch.dispatchTimeoutMs),
      ("max_retry_attempts", .nat c.dispatch.maxRetryAttempts),
      ("retry_backoff_base_ms", .nat c.dispatch.retryBackoffBaseMs),
      ("retry_backoff_max_ms", .nat c.dispatch.retryBackoffMaxMs)]),
    ("observer", .obj [
      ("journal_path", .ofOption .str c.observer.journalPath),
      ("event_bus_capacity", .nat c.observer.eventBusCapacity)]),
    ("simulation", .obj [
      ("start_delay_ms", .nat c.simulation.startDelayMs),
      ("stop_delay_ms", .nat c.simulation.stopDelayMs),
      ("fail_starts", .nat c.simulation.failStarts)])]

end Config
end RestartCoordinator
