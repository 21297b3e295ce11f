import Mathlib.Data.List.Induction
import RestartCoordinator.Proofs.Dispatcher.Turns
import RestartCoordinator.Proofs.Paths
/-!
# Journeys through the states

The dispatcher publishes every change of state and, at the end of every attempt, a report. Both tell
one story: the changes are a path through the states, and every report covers the part of the path
that was gone since the last one.
-/
namespace RestartCoordinator
open Lifecycle (State)

/-- An input leads from one state to the other. -/
def Lifecycle.State.Edge (s t : State) : Prop := ∃ input, s.next? input = some t

/-- The change that is told of leads from one state to the other. -/
def Changes (s : State) (change : State × State) (t : State) : Prop := change = (s, t) ∧ s.Edge t

/-- The state in which an attempt ends goes with the way in which it ends. -/
def Report.Arrives (r : Report) : Prop :=
  match r.outcome with
  | .succeeded =>
    (r.action = .start ∨ r.action = .restart) ∧ r.target = .running ∨
      r.action = .stop ∧ r.target = .stopped
  | .skipped => r.action = .none
  | .retrying .. | .failed _ => r.target = .failed

def Event.change? : Event → Option (State × State)
  | .stateChanged origin target => some (origin, target)
  | _ => none

def changesIn (events : List Event) : List (State × State) := events.filterMap Event.change?

/-- The changes since the last report, by those before the event. -/
def Event.gathers (changes : List (State × State)) : Event → List (State × State)
  | .attempted _ => []
  | e => changes ++ e.change?.toList

def sinceReport (events : List Event) : List (State × State) := events.foldl Event.gathers []

/-- Where the dispatcher was at the last report, and where it is now. -/
structure Journey where
  origin : State
  /-- The state has changed since the last report. -/
  moved : Bool
  state : State
  /-- The number of changes so far. -/
  changes : Nat

namespace Journey

def initial : Journey := ⟨.stopped, false, .stopped, 0⟩

inductive Follows : Journey → Event → Journey → Prop where
  | changed {origin moved state target n s} (hs : s = state) (h : s.Edge target) :
    Follows ⟨origin, moved, state, n⟩ (.stateChanged s target) ⟨origin, true, target, n + 1⟩
  | attempted {origin moved state n r} (ho : r.origin = origin) (ht : r.target = state)
    (hm : r.outcome = .skipped ↔ moved = false) (ha : r.Arrives) :
    Follows ⟨origin, moved, state, n⟩ (.attempted r) ⟨state, false, state, n⟩

variable {j j' : Journey} {events before after : List Event} {r : Report}

theorem chain_of_path (hp : Path Follows j events j') :
    Path Changes j.state (changesIn events) j'.state ∧
      j'.changes = j.changes + (changesIn events).length := by
  induction hp with
  | nil => exact ⟨.nil, rfl⟩
  | @cons _ _ _ _ rest h _ ih =>
    obtain ⟨hc, hn⟩ := ih
    cases h with
    | @changed origin moved state target n s hs he =>
      subst hs
      refine ⟨.cons ⟨rfl, he⟩ hc, hn.trans ?_⟩
      change n + 1 + (changesIn rest).length = n + ((changesIn rest).length + 1)
      omega
    | attempted => exact ⟨hc, hn⟩

private theorem since_of_path (hp : Path Follows initial events j) :
    Path Changes j.origin (sinceReport events) j.state ∧
      (j.moved = false ↔ sinceReport events = []) := by
  -- by the last event, since a report forgets what came before it
  induction events using List.reverseRecOn generalizing j with
  | nil =>
    cases hp
    exact ⟨.nil, by simp [initial, sinceReport]⟩
  | append_singleton before e ih =>
    obtain ⟨m, hb, he⟩ := path_append.mp hp
    obtain ⟨hc, hm⟩ := ih hb
    have hg : sinceReport (before ++ [e]) = e.gathers (sinceReport before) := by
      simp [sinceReport]
    rw [hg]
    cases path_singleton.mp he with
    | changed hs h =>
      subst hs
      exact ⟨hc.append (path_singleton.mpr ⟨rfl, h⟩), by simp [Event.gathers, Event.change?]⟩
    | attempted => exact ⟨.nil, by simp [Event.gathers]⟩

theorem covers_of_path (hp : Path Follows initial (before ++ .attempted r :: after) j) :
    Path Changes r.origin (sinceReport before) r.target ∧
      (sinceReport before = [] ↔ r.outcome = .skipped) ∧ r.Arrives := by
  obtain ⟨m, m', hb, he, -⟩ := hp.middle
  obtain ⟨hc, hm⟩ := since_of_path hb
  cases he with
  | attempted ho ht hs ha =>
    subst ho ht
    exact ⟨hc, hm.symm.trans hs.symm, ha⟩

end Journey

namespace Dispatcher

variable {d d' : Dispatcher} {now : Time} {s : Signal} {effects : List Effect}

def journey (d : Dispatcher) : Journey :=
  match d.task with
  | .calling a _ => ⟨a.origin, true, d.state, d.snapshot.generation⟩
  | _ => ⟨d.state, false, d.state, d.snapshot.generation⟩

@[simp] theorem journey_state (d : Dispatcher) : d.journey.state = d.state := by
  unfold Dispatcher.journey
  split <;> rfl

@[simp] theorem journey_changes (d : Dispatcher) : d.journey.changes = d.snapshot.generation := by
  unfold Dispatcher.journey
  split <;> rfl

private theorem Begins.journey {r : Request} {recovery : Recovery} (hb : d.Begins s r recovery) :
    d.journey = ⟨d.state, false, d.state, d.snapshot.generation⟩ := by
  rcases hb with ⟨ht, -, -⟩ | ⟨_, _, ht, -, -, -⟩ <;> simp [Dispatcher.journey, ht]

private theorem journey_calling {a : Attempt} {c : Call} (ht : d.task = .calling a c) :
    d.journey = ⟨a.origin, true, d.state, d.snapshot.generation⟩ := by
  simp only [Dispatcher.journey, ht]

private theorem Fits.edge_failed {a : Attempt} {c : Call} (hf : d.Fits)
    (ht : d.task = .calling a c) :
    d.state.Edge .failed := by
  refine ⟨.failed, ?_⟩
  cases c with
  | start | release =>
    simp only [Fits, ht] at hf
    rw [hf.1]
    rfl
  | stop =>
    simp only [Fits, ht] at hf
    rcases hf.2 with ⟨hs, -⟩ | ⟨hs, -⟩ <;> rw [hs] <;> rfl

/-- Each turn publishes what it does to the state, and reports the attempt that ends in it. -/
theorem Goes.journey (hg : d.Goes now s d' effects) (hf : d.Fits) :
    Path Journey.Follows d.journey (effects.filterMap Effect.event?) d'.journey := by
  cases hg with
  | ignored => exact .nil
  | skipped hb hr hs =>
    rw [hb.journey]
    refine .cons (.attempted rfl rfl ?_ ?_) .nil
    · exact ⟨fun _ => rfl, fun _ => rfl⟩
    · exact (plan_stop hr d.state).trans (if_pos hs)
  | stops hb hr hs hh =>
    have he : d.state.Edge .stopping := by
      rcases (hb.settled hf).at_rest with h | h | h
      · exact absurd h hs
      · exact ⟨.stop, by rw [h]; rfl⟩
      · exact ⟨.stop, by rw [h]; rfl⟩
    rw [hb.journey]
    exact .cons (.changed rfl he) .nil
  | stopsNothing hb hr hs hh =>
    have ha : plan d.state _ = .stop := (plan_stop hr d.state).trans (if_neg (by simp [hs]))
    rw [hb.journey]
    refine .cons (.changed hs.symm ⟨.stop, rfl⟩)
      (.cons (.changed rfl ⟨.stopSucceeded, rfl⟩) (.cons (.attempted rfl rfl ?_ ?_) .nil))
    · simp [report]
    · exact .inr ⟨ha, rfl⟩
  | restarts hb hr hs hh =>
    rw [hb.journey]
    exact .cons (.changed hs.symm ⟨.restart, rfl⟩) .nil
  | starts hb hr hs hh =>
    have he : d.state.Edge .starting := by
      rcases hs with h | h <;> exact ⟨.start, by rw [h]; rfl⟩
    rw [hb.journey]
    exact .cons (.changed rfl he) .nil
  | releases hb hr hs hh =>
    rw [hb.journey]
    exact .cons (.changed hs.symm ⟨.start, rfl⟩) .nil
  | cut ht =>
    have hj : d.journey = { d with task := .idle }.journey := by
      simp only [Dispatcher.journey, ht]
      rfl
    rw [hj]
    exact .nil
  | started ht hs =>
    have ha := by
      simp only [Fits, ht] at hf
      exact hf.2.2
    rw [journey_calling ht]
    refine .cons (.changed hs.symm ⟨.startSucceeded, rfl⟩) (.cons (.attempted rfl rfl ?_ ?_) .nil)
    · simp [report]
    · exact .inl ⟨ha, rfl⟩
  | stopped ht ha hs =>
    rw [journey_calling ht]
    refine .cons (.changed hs.symm ⟨.stopSucceeded, rfl⟩) (.cons (.attempted rfl rfl ?_ ?_) .nil)
    · simp [report]
    · exact .inr ⟨ha, rfl⟩
  | restopped ht ha hs =>
    rw [journey_calling ht]
    exact .cons (.changed hs.symm ⟨.stopSucceeded, rfl⟩) .nil
  | released ht =>
    rw [journey_calling ht]
    exact .nil
  | retries ht | givesUp ht =>
    rw [journey_calling ht]
    refine .cons (.changed rfl (hf.edge_failed ht)) (.cons (.attempted rfl rfl ?_ ?_) .nil)
    · simp [report]
    · exact rfl

end Dispatcher
end RestartCoordinator
