import RestartCoordinator.Proofs.Dispatcher.Traffic
import RestartCoordinator.Proofs.DispatchLoop.Calls
/-!
# The traffic of a run

The calls that begin and end in a run, in the order of time, and the discipline that they keep.
-/
namespace RestartCoordinator
namespace DispatchLoop

def traffic (l : DispatchLoop) : List (Time × LoopMove) → List CallEvent
  | [] => []
  | (now, m) :: rest =>
    match l.step? now m with
    | some (next, effects) => trafficOf (l.ended? m) effects ++ next.traffic rest
    | none => l.traffic rest

variable {l l' : DispatchLoop} {now : Time} {m : LoopMove} {effects : List Effect}

theorem step?_path (h : l.step? now m = some (l', effects)) (hf : l.dispatcher.Fits) :
    Path Standing.Follows l.dispatcher.standing (trafficOf (l.ended? m) effects)
      l'.dispatcher.standing := by
  rcases step?_ended h with ⟨hd, rfl, he⟩ | ⟨s, hd, he⟩
  · rw [hd, he]
    exact .nil
  · have hg := hf.goes now s
    rw [← hd] at hg
    rw [he]
    exact hg.path hf

theorem run_path (hf : l.dispatcher.Fits) (moves : List (Time × LoopMove)) :
    Path Standing.Follows l.dispatcher.standing (l.traffic moves)
      (l.run moves).1.dispatcher.standing := by
  induction moves generalizing l with
  | nil => exact .nil
  | cons head rest ih =>
    obtain ⟨now, m⟩ := head
    simp only [run, traffic]
    cases hs : l.step? now m with
    | none => exact ih hf
    | some next =>
      obtain ⟨l', effects⟩ := next
      exact (step?_path hs hf).append (ih (step?_fits hs hf).1)

/-- In every run of a fresh dispatcher, whatever is asked, answered and done to the slot: calls never
overlap, a stop is for the instance that was started last and has not been stopped since, no instance
is started before a stop of the last one was called, and a start is called with no handle at hand. -/
theorem run_disciplined (timeout : Duration) (policy : RetryPolicy) (stopAtEnd : Bool)
    (moves : List (Time × LoopMove)) :
    let l := new (.new timeout policy) stopAtEnd
    let last := (l.run moves).1
    Disciplined (l.traffic moves) ∧
      ∀ now m next effects, last.step? now m = some (next, effects) → .called .start ∈ effects →
        next.dispatcher.handle = none := by
  intro l last
  have hf := new_fits timeout policy stopAtEnd
  refine ⟨Standing.disciplined_of_path (run_path hf moves), fun now m next effects hs hc => ?_⟩
  have hl : last.dispatcher.Fits := (run_fits hf moves).1
  rcases step?_ended hs with ⟨-, rfl, -⟩ | ⟨s, hd, -⟩
  · cases hc
  · have hg := hl.goes now s
    rw [← hd] at hg
    exact hg.handle_of_start hl hc

/-- An instance that could not be stopped is released before the next one is started: that is the stop
between the two starts. -/
theorem run_disciplined_of_release :
    let l := new (.new (.ofMillis 5) ⟨0, .ofMillis 1, .ofMillis 2, true⟩) true
    let moves := [(0, .dispatch ⟨.ofSerial 0, [.plain .ui], .start, [], 0, 0⟩),
      (1, .signal (.startAnswered (.done ⟨1⟩))),
      (2, .dispatch ⟨.ofSerial 1, [.plain .ruleChanged], .reload, [], 2, 2⟩),
      (3, .signal (.stopAnswered (.failed (.other "busy")))),
      (4, .dispatch ⟨.ofSerial 2, [.plain .ruleChanged], .reload, [], 4, 4⟩),
      (5, .signal (.stopAnswered (.done ()))), (6, .signal (.startAnswered (.done ⟨2⟩)))]
    let busy : EndedCall := .stop ⟨1⟩ (.failed (.other "busy"))
    let middle := [.begun (.stop ⟨1⟩), .ended busy, .begun (.release ⟨1⟩),
      .ended (.release ⟨1⟩ (.done ())), .begun .start]
    l.traffic moves = [.begun .start, .ended (.start (.done ⟨1⟩))] ++ middle ++
        [.ended (.start (.done ⟨2⟩))] ∧
      (∃ c, .begun c ∈ middle ∧ c.handle? = some ⟨1⟩) ∧
      LastStarted [.begun .start, .ended (.start (.done ⟨1⟩)), .begun (.stop ⟨1⟩), .ended busy] ⟨1⟩ ∧
      ∀ next effects, (l.run (moves.take 5)).1.step? 5 (.signal (.stopAnswered (.done ()))) =
        some (next, effects) → next.dispatcher.handle = none := by
  intro l moves busy middle
  have ht : l.traffic moves = [.begun .start, .ended (.start (.done ⟨1⟩))] ++ middle ++
      [.ended (.start (.done ⟨2⟩))] := by decide
  obtain ⟨h, -⟩ := run_disciplined (.ofMillis 5) ⟨0, .ofMillis 1, .ofMillis 2, true⟩ true moves
  refine ⟨ht, h.between [.begun .start] ⟨1⟩ middle ⟨2⟩ [] ht, ?_, fun next effects hs => ?_⟩
  · exact h.latest _ (.release ⟨1⟩) [.ended (.release ⟨1⟩ (.done ())), .begun .start,
      .ended (.start (.done ⟨2⟩))] ⟨1⟩ ht rfl
  · refine (run_disciplined (.ofMillis 5) ⟨0, .ofMillis 1, .ofMillis 2, true⟩ true
      (moves.take 5)).2 5 _ next effects hs ?_
    have he : effects = [.called .start] := (Prod.mk.inj (Option.some.inj hs)).2.symm
    simp [he]

end DispatchLoop
end RestartCoordinator
