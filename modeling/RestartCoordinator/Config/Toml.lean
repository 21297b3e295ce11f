import RestartCoordinator.Config
import RestartCoordinator.Toml.Writer
/-!
# Configurations in TOML
-/
namespace RestartCoordinator.Config

def tables (c : Config) : List (String × List (String × Toml)) :=
  [("coordinator", [
      ("debounce_interval_ms", .int c.coordinator.debounceIntervalMs),
      ("max_window_ms", .int c.coordinator.maxWindowMs),
      ("channel_capacity", .int c.coordinator.channelCapacity),
      ("stop_on_shutdown", .bool c.coordinator.stopOnShutdown)]),
    ("dispatch", [
      ("dispatch_timeout_ms", .int c.dispatch.dispatchTimeoutMs),
      ("max_retry_attempts", .int c.dispatch.maxRetryAttempts),
      ("retry_backoff_base_ms", .int c.dispatch.retryBackoffBaseMs),
      ("retry_backoff_max_ms", .int c.dispatch.retryBackoffMaxMs)]),
    ("observer", (c.observer.journalPath.toList.map fun path => ("journal_path", .str path)) ++
      [("event_bus_capacity", .int c.observer.eventBusCapacity)]),
    ("simulation", [
      ("start_delay_ms", .int c.simulation.startDelayMs),
      ("stop_delay_ms", .int c.simulation.stopDelayMs),
      ("fail_starts", .int c.simulation.failStarts)])]

/-- The configuration as a TOML document. None if a number does not fit in 64 bits with a sign. -/
def toml? (c : Config) : Option String := Toml.writeTables? c.tables

end RestartCoordinator.Config
