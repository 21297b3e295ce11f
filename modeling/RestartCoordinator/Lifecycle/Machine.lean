import RestartCoordinator.Reason
import RestartCoordinator.Failure
/-!
# The lifecycle machine

The machine holds the state of the service as a snapshot that anyone may read: the state, how many
moves led to it, the reasons of the last move and, in a failed state, what failed. An input without
meaning in the present state is refused and changes nothing.
-/
namespace RestartCoordinator.Lifecycle

/-- What is known of the service at one moment. -/
structure Snapshot where
  state : State
  /-- The number of moves so far. -/
  generation : Nat
  /-- The reasons of the request that caused the last move. -/
  reasons : List Reason
  lastError : Option String
deriving DecidableEq, Repr

namespace Snapshot

/-- Stopped, before any move. -/
def initial : Snapshot := ⟨.stopped, 0, [], none⟩

instance : Inhabited Snapshot := ⟨initial⟩

/-- The snapshot after a move to a state. A message stays only while the state is failed. -/
def moveTo (s : Snapshot) (state : State) (reasons : List Reason) : Snapshot :=
  { state
    generation := s.generation + 1
    reasons
    lastError := if state = .failed then s.lastError else none }

/-- The snapshot after an input, or why the input is refused. -/
def apply (s : Snapshot) (input : Input) (reasons : List Reason) : Except Failure Snapshot :=
  match s.state.next? input with
  | some state => .ok (s.moveTo state reasons)
  | none => .error (.invalidTransition s.state input)

/-- The snapshot after a failure, with its message. -/
def fail (s : Snapshot) (failure : Failure) (reasons : List Reason) : Except Failure Snapshot := do
  let s ← s.apply .failed reasons
  return { s with lastError := some failure.message }

theorem apply_eq_ok_iff {s t : Snapshot} {input : Input} {reasons : List Reason} :
    s.apply input reasons = .ok t ↔
      ∃ state, s.state.next? input = some state ∧ t = s.moveTo state reasons := by
  unfold apply
  cases h : s.state.next? input <;> simp [eq_comm]

theorem apply_eq_error_iff {s : Snapshot} {input : Input} {reasons : List Reason} {f : Failure} :
    s.apply input reasons = .error f ↔
      s.state.next? input = none ∧ f = .invalidTransition s.state input := by
  unfold apply
  cases h : s.state.next? input <;> simp [eq_comm]

end Snapshot
end RestartCoordinator.Lifecycle
