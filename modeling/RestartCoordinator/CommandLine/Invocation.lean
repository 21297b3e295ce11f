import RestartCoordinator.CommandLine.Arguments
import RestartCoordinator.CommandLine.Session
import RestartCoordinator.Config.Loading
/-!
# An invocation

What one call of the program does: it reads its arguments and its configuration, and then it prints
something and ends, or it builds a coordinator for a session. `Invocation.begin` decides all that
does not depend on whether a journal can be opened, and `Invocation.run` is a whole call in a
directory that holds no other directory.
-/
namespace RestartCoordinator.CommandLine

/-- How a call ends: its exit code and the lines it prints. -/
structure Ending where
  exit : Nat
  out : List String
  err : List String
deriving Repr

/-- What a call comes to after its configuration was read. -/
inductive Beginning where
  | ends (ending : Ending)
  /-- A coordinator was built; a dry run goes no further. -/
  | builds (coordinator : Coordinator) (journal : Option String) (dryRun : Bool) (err : List String)

def versionLine : String := "sinkhole 0.1.0"

def helpLines : List String :=
  ["Debounced restart coordinator for a long-running filtering service",
    "",
    "Usage: sinkhole [OPTIONS]",
    "",
    "Options:",
    "  -c, --config <CONFIG>      Path to TOML configuration file [default: sinkhole.toml]",
    "  -d, --debug                Enable debug level logging",
    "  -v, --verbose              Enable verbose info level logging",
    "  -q, --quiet                Enable quiet mode - only log errors",
    "      --validate-config      " ++
      "Validate configuration file and exit without starting the coordinator",
    "      --print-config         Print default configuration in TOML format and exit",
    "      --dry-run              Perform dry run - build the coordinator but don't start it",
    "      --log-format <FORMAT>  Log output format: json, pretty, or compact",
    "      --journal <PATH>       Append lifecycle events as JSON lines to PATH",
    "  -h, --help                 Print help (see more with '--help')",
    "  -V, --version              Print version"]

/-- The default configuration with a few words about it. -/
def defaultLines : List String :=
  ["# sinkhole configuration file",
    "# Every option with its default value. Environment variables override",
    "# the file, e.g. SINKHOLE_DISPATCH__MAX_RETRY_ATTEMPTS=5",
    ""] ++ ((({} : Config).toml?.getD "").splitOn "\n")

def dryRunLine : String := "✓ Dry run completed successfully - coordinator built"

/-- The extension of the last part of a path: what follows its last dot, unless that dot begins the
part. -/
def extension? (path : String) : Option String :=
  let name := (path.toList.reverse.takeWhile (· ≠ '/')).reverse
  let parts := (String.ofList name).splitOn "."
  if parts.length < 2 ∨ (parts.length = 2 ∧ parts.head? = some "") then none else parts.getLast?

/-- A path with an extension after its last part. Slashes and dots that stay there do not count as
parts, and where the path goes up nothing can be added. -/
def extended? (path extension : String) : Option String :=
  let parts := (path.splitOn "/").reverse.dropWhile fun p => p = "" || p = "."
  if parts.isEmpty || parts.head? = some ".." then none
  else some ("/".intercalate parts.reverse ++ "." ++ extension)

/-- The configuration file at a path, and its format. A file of another kind is passed over, and
where there is none, the extension may have been left out. -/
def configFile? (read : String → Option String) (path : String) :
    Option (SettingsFormat × String) :=
  match read path with
  | some text => do
    let extension ← extension? path
    let (_, format) ← SettingsFormat.byExtension.find? (·.1 = extension)
    return (format, text)
  | none => SettingsFormat.byExtension.findSome? fun (extension, format) => do
    return (format, ← read (← extended? path extension))

/-- The path of the configuration file. -/
def configPath (given : Given) : String := (given.value? .config).getD "sinkhole.toml"

/-- A log format that is not known is told of. -/
def formatWarning (given : Given) : List String :=
  match given.value? .logFormat with
  | none | some "json" | some "compact" | some "pretty" => []
  | some format => ["Warning: Unknown log format '" ++ format ++ "', using default"]

namespace Invocation

/-- Reads the configuration and decides what follows. -/
def beginRun (given : Given) (read : String → Option String)
    (environment : List (String × String)) : Beginning :=
  let err := formatWarning given
  match Config.load (configFile? read (configPath given)) environment with
  | .error .noPlace => .ends ⟨101, [], err ++ ["Error: a list has no such place"]⟩
  | .error _ => .ends ⟨1, [], err ++ ["Error: the configuration cannot be read"]⟩
  | .ok config =>
    if given.has .validateConfig then
      match config.fault? with
      | none => .ends ⟨0, ["✓ Configuration is valid"], err⟩
      | some fault => .ends ⟨1, [], err ++ ["✗ Configuration validation failed: " ++ fault.message]⟩
    else
      let journal := (given.value? .journal) <|> config.observer.journalPath
      let kinds := .log :: journal.toList.map fun _ => .journal []
      match Coordinator.new config config.simulation.service (kinds.map .new) with
      | .error f => .ends ⟨1, [], err ++ ["Error: " ++ f.message]⟩
      | .ok c => .builds c journal (given.has .dryRun) err

/-- Reads the arguments and decides what follows; `read` gives the texts of files. -/
def begin (arguments : List String) (read : String → Option String)
    (environment : List (String × String)) : Beginning :=
  match Wish.ofArguments arguments with
  | .error _ => .ends ⟨2, [], ["error: the arguments cannot be used, see '--help'"]⟩
  | .ok .help => .ends ⟨0, helpLines, []⟩
  | .ok .version => .ends ⟨0, [versionLine], []⟩
  | .ok (.run given) =>
    if given.has .printConfig then .ends ⟨0, defaultLines, []⟩ else beginRun given read environment

/-- Where a path leads from a directory without directories in it. -/
inductive Place where
  /-- To a file of this name there. -/
  | here (name : String)
  /-- To a file in another place. -/
  | elsewhere
  /-- Nowhere: there is no such directory, or a directory is meant. -/
  | nowhere
deriving DecidableEq, Repr

/-- The parts of a path, without those that stay where they are. -/
def parts (path : String) : List String := (path.splitOn "/").filter (fun p => p ≠ "" && p ≠ ".")

/-- The directories that every system has and in which files can be opened. -/
def knownDirectories : List String :=
  ["bin", "boot", "dev", "etc", "home", "lib", "media", "mnt", "opt", "root", "run", "sbin", "srv",
    "tmp", "usr", "var"]

/-- Directories in which no file can be made. -/
def closedDirectories : List String := ["proc", "sys"]

/-- The longest name of a file, in bytes. -/
def longestName : Nat := 255

/-- Of other directories, those that every system has and the one above are known. -/
def Place.ofPath (path : String) : Place :=
  let last := (path.splitOn "/").getLast?
  let isAbsolute := path.toList.head? = some '/'
  if last = some "" || last = some "." || last = some ".." then .nowhere
  else if path.toList.contains (Char.ofNat 0) then .nowhere
  else if last.any (longestName < ·.utf8ByteSize) then .nowhere
  else
    match parts path with
    | [name] =>
      if !isAbsolute then .here name
      else if (knownDirectories ++ closedDirectories).contains name then .nowhere
      else .elsewhere
    | [directory, _] =>
      let isKnown := if isAbsolute then knownDirectories.contains directory else directory = ".."
      if isKnown then .elsewhere else .nowhere
    | _ => .nowhere

/-- A whole call in a directory that holds one file at most, with all of its input: how it ends, and
the names of the files that are left. None if it does not end. -/
def run (arguments : List String) (file : Option (String × String))
    (environment : List (String × String)) (input : String) : Option (Ending × List String) :=
  let read := fun path =>
    match Place.ofPath path, file with
    | .here name, some (own, text) => if name = own then some text else none
    | _, _ => none
  let files := file.toList.map (·.1)
  match begin arguments read environment with
  | .ends ending => some (ending, files)
  | .builds c journal dryRun err =>
    match journal.map Place.ofPath with
    | some .nowhere => some (⟨1, [], err ++ ["Error: the journal cannot be opened"]⟩, files)
    | place =>
      let files := match place with
        | some (.here name) => if files.contains name then files else files ++ [name]
        | _ => files
      if dryRun then some (⟨0, [dryRunLine], err⟩, files)
      else
        let (s, out) := (Session.new c).lines (inputLines input)
        s.exitCode?.map fun exit => (⟨exit, out, err⟩, files)

end Invocation
end RestartCoordinator.CommandLine
