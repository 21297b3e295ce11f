import RestartCoordinator.Proofs.Dispatcher.Instances
import RestartCoordinator.Proofs.DispatchLoop.Runs
/-!
# Service calls in a run

The calls that end in the course of a run, in their order, and what they leave running. When a start
is called, no instance is running but those that a release failed to stop before.
-/
namespace RestartCoordinator
namespace DispatchLoop

/-- The service call that ends with a move, provided the move can be made. -/
def ended? (l : DispatchLoop) : LoopMove → Option EndedCall
  | .signal s => l.dispatcher.ended? s
  | _ => none

/-- The service calls that end in the course of a run. -/
def calls (l : DispatchLoop) : List (Time × LoopMove) → List EndedCall
  | [] => []
  | (now, m) :: rest =>
    match l.step? now m with
    | some (next, _) => (l.ended? m).toList ++ next.calls rest
    | none => l.calls rest

variable {l l' : DispatchLoop} {now : Time} {m : LoopMove} {effects : List Effect}

theorem step?_ended (h : l.step? now m = some (l', effects)) :
    (l'.dispatcher = l.dispatcher ∧ effects = [] ∧ l.ended? m = none) ∨
      ∃ s, (l'.dispatcher, effects) = l.dispatcher.turn now s ∧
        l.ended? m = l.dispatcher.ended? s := by
  rcases step?_cases h with ⟨r, hb, ht, hd⟩ | ⟨s, rfl, -, -, -, he⟩ | ⟨-, hm, hd, he⟩
  · refine .inr ⟨_, hd, ?_⟩
    have hn : l.dispatcher.ended? (.request r) = none := by simp [Dispatcher.ended?, ht]
    rw [hn]
    cases m with
    | signal s => cases hb
    | _ => rfl
  · exact .inr ⟨s, dispatcher_turn he, rfl⟩
  · refine .inl ⟨hd, he, ?_⟩
    cases m with
    | signal s => exact absurd rfl (hm s)
    | _ => rfl

theorem step?_knows {calls : List EndedCall} (h : l.step? now m = some (l', effects))
    (hf : l.dispatcher.Fits) (hk : l.dispatcher.Knows calls) :
    l'.dispatcher.Knows (calls ++ (l.ended? m).toList) := by
  rcases step?_ended h with ⟨hd, -, he⟩ | ⟨s, hd, he⟩
  · rw [hd, he, Option.toList_none, List.append_nil]
    exact hk
  · have hg := hf.goes now s
    rw [← hd] at hg
    rw [he]
    exact hg.knows hf hk

theorem run_knows {calls : List EndedCall} (hf : l.dispatcher.Fits)
    (hk : l.dispatcher.Knows calls) (moves : List (Time × LoopMove)) :
    (l.run moves).1.dispatcher.Knows (calls ++ l.calls moves) := by
  induction moves generalizing l calls with
  | nil => simpa [run, DispatchLoop.calls] using hk
  | cons head rest ih =>
    obtain ⟨now, m⟩ := head
    simp only [run, DispatchLoop.calls]
    cases hs : l.step? now m with
    | none => exact ih hf hk
    | some next =>
      obtain ⟨l', effects⟩ := next
      have hn := ih (step?_fits hs hf).1 (step?_knows hs hf hk)
      rwa [List.append_assoc] at hn

/-- In every run of a fresh dispatcher, whenever a start is called, the instances that were started
before and have not been stopped are exactly those whose release failed; so a start is called beside
a running instance only after a release has failed. -/
theorem runningAfter_at_start (timeout : Duration) (policy : RetryPolicy) (stopAtEnd : Bool)
    (moves : List (Time × LoopMove)) :
    let l := new (.new timeout policy) stopAtEnd
    let last := (l.run moves).1
    ∀ now m next effects, last.step? now m = some (next, effects) → .called .start ∈ effects →
      let calls := l.calls moves ++ (last.ended? m).toList
      runningAfter calls = lostIn calls ∧
        (runningAfter calls = [] ↔ ∀ h answer, .release h answer ∈ calls → answer = .done ()) := by
  intro l last now m next effects hs hc calls
  have hf := (run_fits (new_fits timeout policy stopAtEnd) moves).1
  have hk : l.dispatcher.Knows [] := rfl
  have hk' : next.dispatcher.Knows calls :=
    step?_knows hs hf (run_knows (new_fits timeout policy stopAtEnd) hk moves)
  have hi : next.dispatcher.instance? = none := by
    rcases step?_ended hs with ⟨-, rfl, -⟩ | ⟨s, hd, -⟩
    · cases hc
    · have hg := hf.goes now s
      rw [← hd] at hg
      exact hg.instance?_of_start hf hc
  have hr : runningAfter calls = lostIn calls := by
    rw [hk', hi]
    rfl
  exact ⟨hr, hr ▸ lostIn_eq_nil_iff⟩

/-- A start is called after a stop that failed and a release that succeeded: nothing is running. -/
theorem runningAfter_at_start_of_release :
    let l := new (.new (.ofMillis 5) ⟨0, .ofMillis 1, .ofMillis 2, true⟩) true
    let moves := [(0, .dispatch ⟨.ofSerial 0, [.plain .ui], .start, [], 0, 0⟩),
      (1, .signal (.startAnswered (.done ⟨1⟩))),
      (2, .dispatch ⟨.ofSerial 1, [.plain .ruleChanged], .reload, [], 2, 2⟩),
      (3, .signal (.stopAnswered (.failed (.other "busy")))),
      (4, .dispatch ⟨.ofSerial 2, [.plain .ruleChanged], .reload, [], 4, 4⟩)]
    runningAfter (l.calls moves ++ [.release ⟨1⟩ (.done ())]) = [] := by
  intro l moves
  have h := runningAfter_at_start (.ofMillis 5) ⟨0, .ofMillis 1, .ofMillis 2, true⟩ true moves
    5 (.signal (.stopAnswered (.done ()))) _ _ rfl (List.mem_singleton.mpr rfl)
  exact h.1.trans (by decide)

/-- A start is called beside a running instance. The restart cannot stop the instance, and the next
reload goes on to its start although the release fails too. -/
theorem start_beside_running :
    let l := new (.new (.ofMillis 5) ⟨0, .ofMillis 1, .ofMillis 2, true⟩) true
    let moves := [(0, .dispatch ⟨.ofSerial 0, [.plain .ui], .start, [], 0, 0⟩),
      (1, .signal (.startAnswered (.done ⟨1⟩))),
      (2, .dispatch ⟨.ofSerial 1, [.plain .ruleChanged], .reload, [], 2, 2⟩),
      (3, .signal (.stopAnswered (.failed (.other "busy")))),
      (4, .dispatch ⟨.ofSerial 2, [.plain .ruleChanged], .reload, [], 4, 4⟩)]
    let m := .signal (.stopAnswered (.failed (.other "busy")))
    let last := (l.run moves).1
    (last.step? 5 m).map (·.2) = some [.called .start] ∧
      runningAfter (l.calls moves ++ (last.ended? m).toList) = [⟨1⟩] := by
  decide

end DispatchLoop
end RestartCoordinator
