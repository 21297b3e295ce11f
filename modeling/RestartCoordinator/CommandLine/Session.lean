import RestartCoordinator.Json.Writer
import RestartCoordinator.Lifecycle.Json
import RestartCoordinator.Reason.Text
import RestartCoordinator.Simulation.Coordinator
/-!
# A session

Lines of input drive a coordinator with a simulated service. A line submits a trigger, asks for the
state or ends the session; a line that cannot be read is passed over.
-/
namespace RestartCoordinator.CommandLine

/-- The producer of the triggers that come from lines. -/
def producer : String := "stdin"

structure Session where
  coordinator : Coordinator
  /-- The end was asked for, so no more lines are read. -/
  ended : Bool

namespace Session

/-- A session that has just begun. -/
def new (c : Coordinator) : Session := ⟨c.run.settle, false⟩

/-- What a line does, and what is printed. -/
def line (s : Session) (text : String) : Session × List String :=
  let c := s.coordinator
  if s.ended then (s, [])
  else
    match InputLine.parse text with
    | .ok (.trigger reason command) =>
      match c.submit (.withCommand reason command producer c.now) with
      | .ok (_, c) => (⟨c.settle, false⟩, [])
      | .error _ => (⟨c, true⟩, [])
    | .ok .status => (s, [c.snapshot.json.render])
    | .ok .quit => (⟨(c.trigger .userRequest).2.settle, true⟩, [])
    | .ok .blank | .error _ => (s, [])

/-- Lets everything happen that is due by a time. -/
def advance (s : Session) (now : Time) : Session :=
  { s with coordinator := s.coordinator.waitUntil now }

/-- The coordinator has come to its end. -/
def hasEnded (s : Session) : Bool := s.coordinator.hasEnded

/-- The lines of the journal, if one is kept. -/
def journal (s : Session) : List String :=
  ((s.coordinator.pipeline.observers.filterMap Observer.journal?).head?.getD []).map Json.render

/-- What lines do, one after the other, and everything that is printed. -/
def lines (s : Session) : List String → Session × List String
  | [] => (s, [])
  | text :: rest =>
    let (s, printed) := s.line text
    let (s, more) := s.lines rest
    (s, printed ++ more)

/-- The exit code once the coordinator has ended; none if it does not end. -/
def exitCode? (s : Session) : Option Nat :=
  match s.coordinator.join.1 with
  | some (.ok (.error _)) | some (.error _) => some 1
  | some (.ok _) => some 0
  | none => none

end Session

/-- The lines of an input. A carriage return before the end of a line is not part of it. -/
def inputLines (input : String) : List String :=
  let pieces := input.splitOn "\n"
  let pieces := if pieces.getLast? = some "" then pieces.dropLast else pieces
  pieces.map fun piece =>
    let s := piece.toList
    String.ofList (if s.getLast? = some '\r' then s.dropLast else s)

end RestartCoordinator.CommandLine
