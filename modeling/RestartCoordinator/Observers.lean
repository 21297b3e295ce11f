import RestartCoordinator.Event
/-!
# Observers

Observers are told of every attempt. Each has a queue of its own and works through it at its own
pace, so a slow one delays nobody. One that breaks down is told nothing more. A journal is the list of
its lines, and each of them can be written; what goes to the log is not kept.
-/
namespace RestartCoordinator

inductive Observer.Kind where
  /-- Keeps what it is told. -/
  | collector
  /-- Writes to the log. -/
  | log
  /-- Appends to a journal, which may hold earlier lines. -/
  | journal (earlier : List Json)
  /-- Breaks down at the first report. -/
  | broken

structure Observer where
  kind : Observer.Kind
  /-- Reports that were not handled yet, oldest first. -/
  waiting : List Report
  handled : List Report
  alive : Bool

namespace Observer

def new (kind : Kind) : Observer := ⟨kind, [], [], true⟩

def tell (o : Observer) (r : Report) : Observer :=
  if o.alive then { o with waiting := o.waiting ++ [r] } else o

/-- Handles the next report, if there is one. -/
def work? (o : Observer) : Option Observer :=
  match o.waiting with
  | [] => none
  | r :: rest =>
    match o.kind with
    | .broken => some { o with waiting := [], alive := false }
    | _ => some { o with waiting := rest, handled := o.handled ++ [r] }

/-- Everything that waits has been handled. -/
def drain (o : Observer) : Observer :=
  match o.kind with
  | .broken => if o.waiting.isEmpty then o else { o with waiting := [], alive := false }
  | _ => { o with waiting := [], handled := o.handled ++ o.waiting }

/-- The lines of the journal, if the observer keeps one. -/
def journal? (o : Observer) : Option (List Json) :=
  match o.kind with
  | .journal earlier => some (earlier ++ o.handled.map Report.json)
  | _ => none

/-- The reports kept, if the observer keeps them. -/
def collected? (o : Observer) : Option (List Report) :=
  match o.kind with
  | .collector => some o.handled
  | _ => none

end Observer

/-- The observers, in the order in which they were added. -/
abbrev Observers := List Observer

namespace Observers

def tell (os : Observers) (r : Report) : Observers := os.map (·.tell r)

def tellAll (os : Observers) (rs : List Report) : Observers := rs.foldl tell os

def drain (os : Observers) : Observers := os.map Observer.drain

/-- Nothing waits anywhere. -/
def isDrained (os : Observers) : Bool := os.all (·.waiting.isEmpty)

/-- The observer at an index handles its next report. -/
def work? (os : Observers) (index : Nat) : Option Observers := do
  let o ← os[index]?
  let o ← o.work?
  return os.set index o

end Observers
end RestartCoordinator
