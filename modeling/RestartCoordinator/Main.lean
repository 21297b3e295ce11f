import RestartCoordinator.CommandLine.Invocation
/-!
# The program

The command line with real files, the real environment and a real clock. Lines are read from the
standard input; between them the coordinator is brought up to the present time. Nothing is logged,
the lines of the journal bear no date, and a signal of the operating system ends the program at once.
-/
namespace RestartCoordinator.CommandLine

/-- The text of a file, if it can be read. -/
def readFile? (path : String) : IO (Option String) := do
  try return some (← IO.FS.readFile path) catch _ => return none

/-- The variables of the environment. -/
def environment : IO (List (String × String)) := do
  let entries := ((← readFile? "/proc/self/environ").getD "").split (· = Char.ofNat 0)
  return entries.toList.map fun entry =>
    let s := entry.toString.toList
    (String.ofList (s.takeWhile (· ≠ '=')), String.ofList ((s.dropWhile (· ≠ '=')).drop 1))

/-- A session and the journal it is written to, with the number of lines that are written. -/
structure Live where
  session : Session
  journal : Option IO.FS.Handle
  written : Nat
  start : Nat

namespace Live

/-- Brings the session up to the present and writes what the journal has gained. -/
def refresh (l : Live) : IO Live := do
  let session := l.session.advance ((← IO.monoMsNow) - l.start)
  match l.journal with
  | none => return { l with session }
  | some h =>
    for line in session.journal.drop l.written do h.putStr (line ++ "\n")
    h.flush
    return { l with session, written := session.journal.length }

/-- Waits until the coordinator has come to its end. -/
partial def finish (l : Live) : IO Live := do
  let l ← l.refresh
  if l.session.hasEnded then return l
  IO.sleep 20
  l.finish

/-- Reads lines until the end is asked for or the input ends. -/
partial def serve (l : Live) (input : IO.FS.Stream) : IO Live := do
  let text ← input.getLine
  let l ← l.refresh
  if text.isEmpty then return l
  let mut session := l.session
  for line in inputLines text do
    let (next, out) := session.line line
    session := next
    for printed in out do IO.println printed
  (← IO.getStdout).flush
  let l ← { l with session }.refresh
  if l.session.ended then return l else l.serve input

end Live

/-- Opens the journal and runs a session, or stops before it in a dry run. -/
def proceed (c : Coordinator) (journal : Option String) (dryRun : Bool) : IO Nat := do
  let handle ← journal.mapM fun path => IO.FS.Handle.mk path .append
  if dryRun then
    IO.println dryRunLine
    return 0
  let live := Live.mk (.new c) handle 0 (← IO.monoMsNow)
  let live ← (← live.serve (← IO.getStdin)).finish
  return live.session.exitCode?.getD 1

/-- A call of the program with its arguments. -/
def call (arguments : List String) : IO Nat := do
  let path := match Wish.ofArguments arguments with
    | .ok (.run given) => configPath given
    | _ => ""
  let extended := SettingsFormat.byExtension.filterMap fun (extension, _) =>
    extended? path extension
  let texts ← (path :: extended).mapM fun p => return (p, ← readFile? p)
  let read := fun p => (texts.find? (·.1 = p)).bind (·.2)
  match Invocation.begin arguments read (← environment) with
  | .ends ending =>
    for line in ending.out do IO.println line
    for line in ending.err do IO.eprintln line
    return ending.exit
  | .builds c journal dryRun err =>
    for line in err do IO.eprintln line
    try proceed c journal dryRun
    catch _ =>
      IO.eprintln "Error: the journal cannot be written"
      return 1

end RestartCoordinator.CommandLine

def main (arguments : List String) : IO UInt32 := do
  return (← RestartCoordinator.CommandLine.call arguments).toUInt32
