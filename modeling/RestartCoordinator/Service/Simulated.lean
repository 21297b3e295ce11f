import RestartCoordinator.Config
import RestartCoordinator.Service
/-!
# A simulated service

A stand-in for a real service: each call takes a fixed time and succeeds, unless another outcome was
written into the script of its kind. A call has a beginning, which takes the next line of the
script, and an end, which it may never reach.
-/
namespace RestartCoordinator

/-- The outcome written down for one call. -/
inductive Scripted where
  | succeed
  | fail (error : ServiceError)
  /-- The call is never answered. -/
  | hang
deriving DecidableEq, Repr

structure Simulated where
  /-- How long a start takes. -/
  startDelay : Nat
  /-- How long a stop takes. -/
  stopDelay : Nat
  startScript : List Scripted
  stopScript : List Scripted
  /-- The last call that succeeded was a start. -/
  running : Bool
  nextId : Nat
  startCalls : Nat
  stopCalls : Nat
  inFlight : Nat
  /-- The most calls that were ever under way together. -/
  maxInFlight : Nat
deriving DecidableEq, Repr

namespace Simulated

def name : String := "simulated"

def new (startDelay stopDelay : Nat) : Simulated :=
  ⟨startDelay, stopDelay, [], [], false, 1, 0, 0, 0, 0⟩

/-- Adds outcomes to the scripts. -/
def script (s : Simulated) (starts stops : List Scripted) : Simulated :=
  { s with startScript := s.startScript ++ starts, stopScript := s.stopScript ++ stops }

/-- One more call is under way. -/
def enter (s : Simulated) : Simulated :=
  { s with inFlight := s.inFlight + 1, maxInFlight := max s.maxInFlight (s.inFlight + 1) }

/-- A call is over, or was given up. -/
def leave (s : Simulated) : Simulated :=
  { s with inFlight := s.inFlight - 1 }

/-- A start begins: its outcome is settled. -/
def beginStart (s : Simulated) : Scripted × Simulated :=
  (s.startScript.head?.getD .succeed,
    { s with startScript := s.startScript.tail, startCalls := s.startCalls + 1 }.enter)

/-- A stop begins: its outcome is settled. -/
def beginStop (s : Simulated) : Scripted × Simulated :=
  (s.stopScript.head?.getD .succeed,
    { s with stopScript := s.stopScript.tail, stopCalls := s.stopCalls + 1 }.enter)

/-- A start succeeds and gives a new handle. -/
def started (s : Simulated) : Handle × Simulated :=
  (⟨s.nextId⟩, { s.leave with nextId := s.nextId + 1, running := true })

/-- A stop succeeds. -/
def stopped (s : Simulated) : Simulated :=
  { s.leave with running := false }

/-- How long a call with this outcome takes; none if it is never answered. -/
def duration? (delay : Nat) : Scripted → Option Nat
  | .hang => none
  | _ => some delay

/-- Whether a call is answered by the time it is cut off, and the time it takes till then. -/
def within (delay timeout : Nat) (outcome : Scripted) : Bool × Nat :=
  match duration? delay outcome with
  | some d => if d ≤ timeout then (true, d) else (false, timeout)
  | none => (false, timeout)

/-- The end of a start. -/
def endStart (s : Simulated) (inTime : Bool) (outcome : Scripted) : Answer Handle × Simulated :=
  match inTime, outcome with
  | true, .succeed => let (h, s) := s.started; (.done h, s)
  | true, .fail error => (.failed error, s.leave)
  | _, _ => (.timedOut, s.leave)

/-- The end of a stop. -/
def endStop (s : Simulated) (inTime : Bool) (outcome : Scripted) : Answer Unit × Simulated :=
  match inTime, outcome with
  | true, .succeed => (.done (), s.stopped)
  | true, .fail error => (.failed error, s.leave)
  | _, _ => (.timedOut, s.leave)

/-- A whole start: its answer and the time it took. -/
def start (s : Simulated) (timeout : Nat) : Answer Handle × Nat × Simulated :=
  let (outcome, s) := s.beginStart
  let (inTime, took) := within s.startDelay timeout outcome
  let (answer, s) := s.endStart inTime outcome
  (answer, took, s)

/-- A whole stop: its answer and the time it took. -/
def stop (s : Simulated) (timeout : Nat) : Answer Unit × Nat × Simulated :=
  let (outcome, s) := s.beginStop
  let (inTime, took) := within s.stopDelay timeout outcome
  let (answer, s) := s.endStop inTime outcome
  (answer, took, s)

/-- So many starts, each after the one before. -/
def startInTurn (s : Simulated) (timeout : Nat) : Nat → List (Answer Handle × Nat) × Simulated
  | 0 => ([], s)
  | n + 1 =>
    let (answer, took, s) := s.start timeout
    let (answers, s) := s.startInTurn timeout n
    ((answer, took) :: answers, s)

/-- So many starts that begin together. -/
def beginStarts (s : Simulated) : Nat → List Scripted × Simulated
  | 0 => ([], s)
  | n + 1 =>
    let (outcome, s) := s.beginStart
    let (outcomes, s) := s.beginStarts n
    (outcome :: outcomes, s)

/-- The ends of starts that began together, and the time until the last of them. -/
def endStarts (s : Simulated) (timeout : Nat) :
    List Scripted → List (Answer Handle) × Nat × Simulated
  | [] => ([], 0, s)
  | outcome :: rest =>
    let (inTime, took) := within s.startDelay timeout outcome
    let (answer, s) := s.endStart inTime outcome
    let (answers, others, s) := s.endStarts timeout rest
    (answer :: answers, max took others, s)

/-- Starts that run at once. -/
def startTogether (s : Simulated) (count timeout : Nat) : List (Answer Handle) × Nat × Simulated :=
  let (outcomes, s) := s.beginStarts count
  s.endStarts timeout outcomes

end Simulated

/-- The service that the settings describe. -/
def Config.Simulation.service (c : Config.Simulation) : Simulated :=
  (Simulated.new c.startDelayMs c.stopDelayMs).script
    (List.replicate c.failStarts (.fail (.unavailable "simulated failure"))) []

end RestartCoordinator
