import RestartCoordinator.Json
/-!
# Tallies

Counts of what the coordinator has done, and the two ratios drawn from them.
-/
namespace RestartCoordinator

/-- What is counted, one at a time. -/
inductive Occurrence where
  | windowOpened
  | requestCoalesced
  | stopPreemption
  | requestMerged
  | dispatch
  | skipped
  | failure
  | retry
deriving DecidableEq, Repr

namespace Occurrence

def all : List Occurrence :=
  [.windowOpened, .requestCoalesced, .stopPreemption, .requestMerged, .dispatch, .skipped,
    .failure, .retry]

def name : Occurrence → String
  | .windowOpened => "window_opened"
  | .requestCoalesced => "request_coalesced"
  | .stopPreemption => "stop_preemption"
  | .requestMerged => "request_merged"
  | .dispatch => "dispatch"
  | .skipped => "skipped"
  | .failure => "failure"
  | .retry => "retry"

end Occurrence

/-- How often each occurrence was seen. -/
structure Tally where
  windowsOpened : Nat
  requestsCoalesced : Nat
  stopPreemptions : Nat
  requestsMerged : Nat
  dispatches : Nat
  skipped : Nat
  failures : Nat
  retries : Nat
deriving DecidableEq, Repr

namespace Tally

def zero : Tally := ⟨0, 0, 0, 0, 0, 0, 0, 0⟩

instance : Inhabited Tally := ⟨zero⟩

def record (t : Tally) : Occurrence → Tally
  | .windowOpened => { t with windowsOpened := t.windowsOpened + 1 }
  | .requestCoalesced => { t with requestsCoalesced := t.requestsCoalesced + 1 }
  | .stopPreemption => { t with stopPreemptions := t.stopPreemptions + 1 }
  | .requestMerged => { t with requestsMerged := t.requestsMerged + 1 }
  | .dispatch => { t with dispatches := t.dispatches + 1 }
  | .skipped => { t with skipped := t.skipped + 1 }
  | .failure => { t with failures := t.failures + 1 }
  | .retry => { t with retries := t.retries + 1 }

end Tally

/-- A tally with the numbers of triggers that were submitted and dropped. -/
structure Statistics where
  submitted : Nat
  dropped : Nat
  tally : Tally
deriving DecidableEq, Repr

namespace Statistics

/-- The share of the submitted triggers that was dropped. -/
def dropRate (s : Statistics) : Float :=
  if s.submitted = 0 then 0 else Float.ofNat s.dropped / Float.ofNat s.submitted

/-- The number of triggers that were kept for each request that came of them. -/
def coalescingRatio (s : Statistics) : Float :=
  let requests := s.tally.requestsCoalesced + s.tally.stopPreemptions
  if requests = 0 then 0 else Float.ofNat (s.submitted - s.dropped) / Float.ofNat requests

def json (s : Statistics) : Json :=
  .obj [("triggers_submitted", .nat s.submitted), ("triggers_dropped", .nat s.dropped),
    ("windows_opened", .nat s.tally.windowsOpened),
    ("requests_coalesced", .nat s.tally.requestsCoalesced),
    ("stop_preemptions", .nat s.tally.stopPreemptions),
    ("requests_merged", .nat s.tally.requestsMerged), ("dispatches", .nat s.tally.dispatches),
    ("skipped", .nat s.tally.skipped), ("failures", .nat s.tally.failures),
    ("retries", .nat s.tally.retries)]

end Statistics
end RestartCoordinator
