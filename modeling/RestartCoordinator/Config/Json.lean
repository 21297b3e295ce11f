import RestartCoordinator.Config
/-!
# Configurations in JSON

`Config.ofJson?` reads the form that `Config.json` writes. All four sections must be there; fields
that are missing take their defaults and unknown ones are passed over. A section, and the whole, may
also be a list of its fields in order.
-/
namespace RestartCoordinator

namespace Json

/-- The fields of a record in their order: by name from an object, by place from a list, which must
not hold more. A field that is missing is none. -/
def record? (names : List String) : Json → Option (List (Option Json))
  | .obj fields => some (names.map fun name => (Json.obj fields).get? name)
  | .arr items =>
    if items.length ≤ names.length then
      some (items.map some ++ List.replicate (names.length - items.length) none)
    else none
  | _ => none

def toNatBelow? (limit : Nat) : Json → Option Nat
  | .int n => if 0 ≤ n ∧ n < limit then some n.toNat else none
  | _ => none

def toBool? : Json → Option Bool
  | .bool b => some b
  | _ => none

/-- A text, or none for null. -/
def toOptionalText? : Json → Option (Option String)
  | .str s => some (some s)
  | .null => some none
  | _ => none

/-- A field, or its default if it is missing. -/
def fieldOr? (read : Json → Option α) (default : α) : Option Json → Option α
  | some v => read v
  | none => some default

end Json

namespace Config
open Json

/-- Numbers of 64 bits. -/
def nat? (default : Nat) : Option Json → Option Nat := fieldOr? (toNatBelow? UInt64.size) default

/-- Numbers of 32 bits. -/
def nat32? (default : Nat) : Option Json → Option Nat := fieldOr? (toNatBelow? UInt32.size) default

def Coordination.ofJson? (v : Json) : Option Coordination := do
  let k : Coordination := {}
  match ← record? ["debounce_interval_ms", "max_window_ms", "channel_capacity",
      "stop_on_shutdown"] v with
  | [interval, window, capacity, stop] =>
    return ⟨← nat? k.debounceIntervalMs interval, ← nat? k.maxWindowMs window,
      ← nat? k.channelCapacity capacity, ← fieldOr? toBool? k.stopOnShutdown stop⟩
  | _ => none

def Dispatch.ofJson? (v : Json) : Option Dispatch := do
  let k : Dispatch := {}
  match ← record? ["dispatch_timeout_ms", "max_retry_attempts", "retry_backoff_base_ms",
      "retry_backoff_max_ms"] v with
  | [timeout, attempts, base, max] =>
    return ⟨← nat? k.dispatchTimeoutMs timeout, ← nat32? k.maxRetryAttempts attempts,
      ← nat? k.retryBackoffBaseMs base, ← nat? k.retryBackoffMaxMs max⟩
  | _ => none

def Observation.ofJson? (v : Json) : Option Observation := do
  let k : Observation := {}
  match ← record? ["journal_path", "event_bus_capacity"] v with
  | [path, capacity] =>
    return ⟨← fieldOr? toOptionalText? k.journalPath path, ← nat? k.eventBusCapacity capacity⟩
  | _ => none

def Simulation.ofJson? (v : Json) : Option Simulation := do
  let k : Simulation := {}
  match ← record? ["start_delay_ms", "stop_delay_ms", "fail_starts"] v with
  | [start, stop, fail] =>
    return ⟨← nat? k.startDelayMs start, ← nat? k.stopDelayMs stop, ← nat32? k.failStarts fail⟩
  | _ => none

def ofJson? (v : Json) : Option Config := do
  match ← record? ["coordinator", "dispatch", "observer", "simulation"] v with
  | [some c, some d, some o, some s] =>
    return ⟨← Coordination.ofJson? c, ← Dispatch.ofJson? d, ← Observation.ofJson? o,
      ← Simulation.ofJson? s⟩
  | _ => none

end Config
end RestartCoordinator
