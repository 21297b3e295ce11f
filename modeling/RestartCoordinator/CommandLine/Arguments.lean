/-!
# Arguments

The arguments of the command line. An option takes its value from the rest of its own argument,
after an equals sign or, for a short name, directly, or else from the next argument, which must not
look like an option. Short names may share one argument. Nothing may be given twice.
-/
namespace RestartCoordinator.CommandLine

/-- What can be switched on. -/
inductive Switch where
  | debug
  | verbose
  | quiet
  | validateConfig
  | printConfig
  | dryRun
deriving DecidableEq, Repr

/-- What takes a value. -/
inductive Parameter where
  | config
  | logFormat
  | journal
deriving DecidableEq, Repr

/-- What a name stands for. -/
inductive Flag where
  | switch (s : Switch)
  | parameter (s : Parameter)
  | help
  | version
deriving DecidableEq, Repr

def longNames : List (String × Flag) :=
  [("config", .parameter .config), ("debug", .switch .debug), ("verbose", .switch .verbose),
    ("quiet", .switch .quiet), ("validate-config", .switch .validateConfig),
    ("print-config", .switch .printConfig), ("dry-run", .switch .dryRun),
    ("log-format", .parameter .logFormat), ("journal", .parameter .journal), ("help", .help),
    ("version", .version)]

def shortNames : List (Char × Flag) :=
  [('c', .parameter .config), ('d', .switch .debug), ('v', .switch .verbose), ('q', .switch .quiet),
    ('h', .help), ('V', .version)]

def longFlag? (name : String) : Option Flag := (longNames.find? (·.1 == name)).map (·.2)

def shortFlag? (name : Char) : Option Flag := (shortNames.find? (·.1 == name)).map (·.2)

/-- Why arguments are refused. -/
inductive UsageError where
  | unknown (argument : String)
  | repeated (flag : Flag)
  | missingValue (s : Parameter)
  | unexpectedValue (argument : String)
deriving DecidableEq, Repr

/-- What was given. -/
structure Given where
  switches : List Switch
  parameters : List (Parameter × String)
deriving DecidableEq, Repr

/-- What the arguments ask for. -/
inductive Wish where
  | run (given : Given)
  | help
  | version
deriving DecidableEq, Repr

namespace Given

def has (g : Given) (s : Switch) : Bool := g.switches.contains s

def value? (g : Given) (s : Parameter) : Option String :=
  (g.parameters.find? (·.1 == s)).map (·.2)

def switchOn (g : Given) (s : Switch) : Except UsageError Given :=
  if g.has s then .error (.repeated (.switch s))
  else .ok { g with switches := g.switches ++ [s] }

def set (g : Given) (s : Parameter) (value : String) : Except UsageError Given :=
  if (g.value? s).isSome then .error (.repeated (.parameter s))
  else .ok { g with parameters := g.parameters ++ [(s, value)] }

end Given

/-- An argument that can be a value: it is a lone hyphen or does not begin with one. -/
def isValue (argument : String) : Bool :=
  argument = "-" || argument.toList.head? ≠ some '-'

/-- How far the arguments were read: more are to come, the next one is a value, or nothing more
matters. -/
inductive Progress where
  | more (given : Given)
  | awaiting (s : Parameter) (given : Given)
  | settled (wish : Wish)

/-- The short names that share an argument, up to the first that takes a value. -/
def readShort (argument : String) : List Char → Given → Except UsageError Progress
  | [], g => .ok (.more g)
  | c :: rest, g =>
    match shortFlag? c with
    | none => .error (.unknown argument)
    | some .help => .ok (.settled .help)
    | some .version => .ok (.settled .version)
    | some (.switch s) => do readShort argument rest (← g.switchOn s)
    | some (.parameter s) =>
      match rest with
      | [] => .ok (.awaiting s g)
      | '=' :: value => do return .more (← g.set s (String.ofList value))
      | value => do return .more (← g.set s (String.ofList value))

/-- A long name, perhaps with a value after an equals sign. -/
def readLong (argument : String) (text : List Char) (g : Given) : Except UsageError Progress :=
  let name := String.ofList (text.takeWhile (· ≠ '='))
  let value := match text.dropWhile (· ≠ '=') with
    | _ :: value => some (String.ofList value)
    | [] => none
  match longFlag? name, value with
  | none, _ => .error (.unknown argument)
  | some (.parameter s), some value => do return .more (← g.set s value)
  | some (.parameter s), none => .ok (.awaiting s g)
  | some _, some _ => .error (.unexpectedValue argument)
  | some .help, none => .ok (.settled .help)
  | some .version, none => .ok (.settled .version)
  | some (.switch s), none => do return .more (← g.switchOn s)

/-- One argument that is no value. -/
def readOne (argument : String) (g : Given) : Except UsageError Progress :=
  match argument.toList with
  | '-' :: '-' :: text => readLong argument text g
  | '-' :: c :: text => readShort argument (c :: text) g
  | _ => .error (.unknown argument)

/-- The arguments that are left. After two hyphens nothing may follow, as all options have names. -/
def readAll : List String → Given → Except UsageError Wish
  | [], g => .ok (.run g)
  | argument :: rest, g =>
    if argument = "--" then
      match rest with
      | [] => .ok (.run g)
      | extra :: _ => .error (.unknown extra)
    else do
      match ← readOne argument g with
      | .settled wish => return wish
      | .more g => readAll rest g
      | .awaiting s g =>
        match rest with
        | [] => throw (.missingValue s)
        | value :: rest =>
          if isValue value then readAll rest (← g.set s value) else throw (.missingValue s)

/-- What the arguments ask for. -/
def Wish.ofArguments (arguments : List String) : Except UsageError Wish :=
  readAll arguments ⟨[], []⟩

end RestartCoordinator.CommandLine
