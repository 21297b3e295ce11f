import RestartCoordinator.Config.Toml
import RestartCoordinator.Settings.Format
/-!
# Loading a configuration

The settings come from three sources: the defaults, a file and the variables of the environment.
`SINKHOLE_` marks a variable, two underscores stand between section and field, and letters may have
either case.
-/
namespace RestartCoordinator.Config

/-- Why no configuration could be read. -/
inductive LoadError where
  /-- The file is not written in its format, or holds no table. -/
  | unreadable
  /-- A path leads to a place that no list can have. -/
  | noPlace
  /-- The value of a field is of the wrong kind. -/
  | wrongType (key : String)
  /-- A section is not a table. -/
  | wrongSection
deriving DecidableEq, Repr

/-- The defaults as settings. -/
def defaults : Setting :=
  .ofToml (.table (({} : Config).tables.map fun (name, fields) => (name, .table fields)))

/-- What begins the name of a variable. -/
def variableMark : String := "sinkhole_"

/-- The text with dots for pairs of underscores. -/
def dotted : List Char → List Char
  | '_' :: '_' :: r => '.' :: dotted r
  | c :: r => c :: dotted r
  | [] => []

/-- The setting that a variable gives, if it gives one. -/
def ofVariable? (name value : String) : Option (String × Setting) :=
  let name := (Text.smallText name).toList
  let mark := variableMark.toList
  if name.take mark.length = mark then
    some (String.ofList (dotted (name.drop mark.length)), .text value)
  else none

/-- A section, with the name by which errors tell of it. -/
structure Section where
  name : String
  setting : Setting

namespace Section

def of? (root : Setting) (name : String) : Except LoadError Section :=
  match root.get? name with
  | some (.table fs) => .ok ⟨name, .table fs⟩
  | some (.list vs) => .ok ⟨name, .list vs⟩
  | _ => .error .wrongSection

/-- A field by its name or, where the section is a list, by its place. A missing one takes its
default. -/
def field (s : Section) (place : Nat) (name : String) (read : Setting → Option α) (default : α) :
    Except LoadError α :=
  let found := match s.setting with
    | .list vs => (vs[place]?).map fun v => (s.name ++ "[" ++ toString place ++ "]", v)
    | t => (t.get? name).map fun v => (s.name ++ "." ++ name, v)
  match found with
  | none => .ok default
  | some (key, v) => (read v).elim (.error (.wrongType key)) .ok

def nat (s : Section) (place : Nat) (name : String) (default : Nat) : Except LoadError Nat :=
  s.field place name Setting.toNat? default

/-- A field of 32 bits. -/
def nat32 (s : Section) (place : Nat) (name : String) (default : Nat) : Except LoadError Nat :=
  s.field place name (fun v => (Setting.toNat? v).filter (· < UInt32.size)) default

/-- A text, or none where the setting is absent. -/
def toOptionalText? : Setting → Option (Option String)
  | .absent => some none
  | v => (Setting.toText? v).map some

end Section

/-- The configuration that the settings describe. -/
def ofSettings (root : Setting) : Except LoadError Config := do
  let k : Config := {}
  let c ← Section.of? root "coordinator"
  let coordinator : Coordination :=
    { debounceIntervalMs := ← c.nat 0 "debounce_interval_ms" k.coordinator.debounceIntervalMs
      maxWindowMs := ← c.nat 1 "max_window_ms" k.coordinator.maxWindowMs
      channelCapacity := ← c.nat 2 "channel_capacity" k.coordinator.channelCapacity
      stopOnShutdown :=
        ← c.field 3 "stop_on_shutdown" Setting.toBool? k.coordinator.stopOnShutdown }
  let d ← Section.of? root "dispatch"
  let dispatch : Dispatch :=
    { dispatchTimeoutMs := ← d.nat 0 "dispatch_timeout_ms" k.dispatch.dispatchTimeoutMs
      maxRetryAttempts := ← d.nat32 1 "max_retry_attempts" k.dispatch.maxRetryAttempts
      retryBackoffBaseMs := ← d.nat 2 "retry_backoff_base_ms" k.dispatch.retryBackoffBaseMs
      retryBackoffMaxMs := ← d.nat 3 "retry_backoff_max_ms" k.dispatch.retryBackoffMaxMs }
  let o ← Section.of? root "observer"
  let observer : Observation :=
    { journalPath := ← o.field 0 "journal_path" Section.toOptionalText? k.observer.journalPath
      eventBusCapacity := ← o.nat 1 "event_bus_capacity" k.observer.eventBusCapacity }
  let s ← Section.of? root "simulation"
  let simulation : Simulation :=
    { startDelayMs := ← s.nat 0 "start_delay_ms" k.simulation.startDelayMs
      stopDelayMs := ← s.nat 1 "stop_delay_ms" k.simulation.stopDelayMs
      failStarts := ← s.nat32 2 "fail_starts" k.simulation.failStarts }
  return ⟨coordinator, dispatch, observer, simulation⟩

/-- Loads a configuration from the text of a file in a format, if there is one, and from
variables. -/
def load (file : Option (SettingsFormat × String)) (environment : List (String × String)) :
    Except LoadError Config := do
  let document ← match file with
    | none => pure []
    | some (format, text) => (format.fields? text).elim (.error .unreadable) .ok
  let given := environment.filterMap fun (name, value) => ofVariable? name value
  match (defaults.layer? document).bind (·.layer? given) with
  | some root => ofSettings root
  | none => throw .noPlace

end RestartCoordinator.Config
