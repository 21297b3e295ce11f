import RestartCoordinator.Proofs.Dispatcher.Journeys
import RestartCoordinator.Proofs.DispatchLoop.Runs
/-!
# The journey of a run

In a run the changes of state that are published are one path, and the reports divide it.
-/
namespace RestartCoordinator
open Lifecycle (State)

namespace DispatchLoop

variable {l l' : DispatchLoop} {now : Time} {m : LoopMove} {effects : List Effect}

theorem step?_journey (h : l.step? now m = some (l', effects)) (hf : l.dispatcher.Fits) :
    Path Journey.Follows l.dispatcher.journey (effects.filterMap Effect.event?)
      l'.dispatcher.journey := by
  rcases step?_turn h with ⟨hd, rfl⟩ | ⟨s, hd⟩
  · rw [hd]
    exact .nil
  · have hg := hf.goes now s
    rw [← hd] at hg
    exact hg.journey hf

theorem run_journey (hf : l.dispatcher.Fits) (moves : List (Time × LoopMove)) :
    Path Journey.Follows l.dispatcher.journey ((l.run moves).2.filterMap Effect.event?)
      (l.run moves).1.dispatcher.journey := by
  induction moves generalizing l with
  | nil => exact .nil
  | cons head rest ih =>
    obtain ⟨now, m⟩ := head
    simp only [run]
    cases hs : l.step? now m with
    | none => exact ih hf
    | some next =>
      obtain ⟨l', effects⟩ := next
      rw [List.filterMap_append]
      exact (step?_journey hs hf).append (ih (step?_fits hs hf).1)

/-- In every run of a fresh dispatcher, whatever is asked, answered and done to the slot: the published
changes of state lead from the stopped state to the present one, as many as the snapshot counts, and
each report covers those since the report before it. Only a report that nothing was to be done covers
none. -/
theorem run_changes (timeout : Duration) (policy : RetryPolicy) (stopAtEnd : Bool)
    (moves : List (Time × LoopMove)) :
    let l := new (.new timeout policy) stopAtEnd
    let last := (l.run moves).1
    let events := (l.run moves).2.filterMap Effect.event?
    Path Changes .stopped (changesIn events) last.dispatcher.state ∧
      last.dispatcher.snapshot.generation = (changesIn events).length ∧
      ∀ before r after, events = before ++ .attempted r :: after →
        Path Changes r.origin (sinceReport before) r.target ∧
          (sinceReport before = [] ↔ r.outcome = .skipped) ∧ r.Arrives := by
  intro l last events
  have hp : Path Journey.Follows .initial events last.dispatcher.journey :=
    run_journey (new_fits timeout policy stopAtEnd) moves
  obtain ⟨hc, hn⟩ := Journey.chain_of_path hp
  rw [Dispatcher.journey_state] at hc
  rw [Dispatcher.journey_changes] at hn
  refine ⟨hc, hn.trans (Nat.zero_add _), fun before r after he => ?_⟩
  rw [he] at hp
  exact Journey.covers_of_path hp

/-- A start that is made again after a timeout has two reports, and the second one covers the way from
the failed state to the running one. -/
theorem run_changes_of_retry :
    let request : Request := ⟨.ofSerial 0, [.plain .ruleChanged], .reload, [], 0, 0⟩
    let l := new (.new (.ofMillis 5) ⟨1, .ofMillis 1, .ofMillis 2, true⟩) true
    let moves := [(0, .dispatch request), (0, .signal (.startAnswered .timedOut)),
      (1, .signal .delayEnded), (2, .signal (.startAnswered (.done ⟨1⟩)))]
    let events := (l.run moves).2.filterMap Effect.event?
    ∃ r, events = events.take 5 ++ [.attempted r] ∧ r.outcome = .succeeded ∧
      sinceReport (events.take 5) = [(.failed, .starting), (.starting, .running)] ∧
      Path Changes r.origin (sinceReport (events.take 5)) r.target ∧ r.Arrives := by
  intro request l moves events
  have h := (run_changes (.ofMillis 5) ⟨1, .ofMillis 1, .ofMillis 2, true⟩ true moves).2.2
  have he : events = events.take 5 ++ [.attempted _] := rfl
  obtain ⟨hc, -, ha⟩ := h _ _ _ he
  exact ⟨_, he, rfl, rfl, hc, ha⟩

end DispatchLoop
end RestartCoordinator
