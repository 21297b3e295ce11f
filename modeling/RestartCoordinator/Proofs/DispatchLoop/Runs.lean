import RestartCoordinator.DispatchLoop
import RestartCoordinator.Proofs.Dispatcher.Turns
/-!
# Runs of the dispatch loop

A dispatch loop is driven from outside: requests are offered to its slot or served directly, the
service answers, delays end, and the slot is closed. In a run these moves come in any order and at
any time, and one that cannot be made is passed over. Every move is at most one turn of the
dispatcher, so what holds of all turns holds of all runs: between two requests the service is
stopped, runs with a handle at hand or has failed, and no request is dropped without a report.
-/
namespace RestartCoordinator
open Lifecycle (State Input)

/-- What can happen to a dispatch loop. -/
inductive LoopMove where
  /-- A request is served before the loop begins. -/
  | dispatch (request : Request)
  | begin
  | offer (request : Request)
  | take
  | close
  | serve
  | signal (signal : Signal)
  /-- The dispatcher leaves the loop; the identifier is for the request that stops the service. -/
  | leave (id : RequestId)

namespace DispatchLoop

/-- A move with what the dispatcher does in its course, if it can be made. -/
def step? (l : DispatchLoop) (now : Time) : LoopMove → Option (DispatchLoop × List Effect)
  | .dispatch r =>
    if l.stage = .unstarted && l.dispatcher.isIdle then some (l.turn now (.request r)) else none
  | .begin =>
    if l.stage = .unstarted && l.dispatcher.isIdle then some ({ l with stage := .serving }, [])
    else none
  | .offer r => some ({ l with slot := (l.slot.offer r).2 }, [])
  | .take => some ({ l with slot := l.slot.take.2 }, [])
  | .close => some ({ l with slot := l.slot.close.2 }, [])
  | .serve => l.serve? now
  | .signal s => l.signal? now s
  | .leave id => l.leave? id now

/-- The moves of a list that can be made, each at its time, and all their effects. -/
def run (l : DispatchLoop) : List (Time × LoopMove) → DispatchLoop × List Effect
  | [] => (l, [])
  | (now, m) :: rest =>
    match l.step? now m with
    | some (l, effects) =>
      let (l, more) := run l rest
      (l, effects ++ more)
    | none => run l rest

/-- The request that the dispatcher begins to serve with a move, provided the move can be made. -/
def begins? (l : DispatchLoop) (now : Time) : LoopMove → Option Request
  | .dispatch r => some r
  | .serve => l.slot.pending
  | .leave id =>
    if l.stage = .serving && l.stopAtEnd && !l.dispatcher.isDown then
      some (Dispatcher.shutdownRequest id now)
    else none
  | _ => none

variable {l l' : DispatchLoop} {now : Time} {m : LoopMove} {effects : List Effect}

theorem dispatcher_turn {s : Signal} (h : (l', effects) = l.turn now s) :
    (l'.dispatcher, effects) = l.dispatcher.turn now s := by
  obtain ⟨rfl, rfl⟩ := Prod.mk.inj h
  rfl

theorem signal?_turn {s : Signal} (h : l.signal? now s = some (l', effects)) :
    (l', effects) = l.turn now s := by
  unfold signal? at h
  split at h <;> try split at h
  all_goals simp_all

theorem serve?_turn (h : l.serve? now = some (l', effects)) :
    ∃ r, l.slot.pending = some r ∧ l.dispatcher.task = .idle ∧
      (l', effects) = { l with slot := l.slot.take.2 }.turn now (.request r) := by
  unfold serve? at h
  split at h
  · rename_i hs ht hp
    exact ⟨_, hp, ht, (Option.some.inj h).symm⟩
  · cases h

theorem leave?_turn {id : RequestId} (h : l.leave? id now = some (l', effects)) :
    l.dispatcher.task = .idle ∧
      (((l.stage = .serving && l.stopAtEnd && !l.dispatcher.isDown) = true ∧ (l', effects) =
          { l with stage := .stopping }.turn now
            (.request (Dispatcher.shutdownRequest id now))) ∨
        ((l.stage = .serving && l.stopAtEnd && !l.dispatcher.isDown) = false ∧
          l' = { l with stage := .draining } ∧ effects = [])) := by
  unfold leave? at h
  split at h
  · rename_i hs ht hp
    split at h
    · cases h
    · refine ⟨ht, ?_⟩
      split at h <;> simp_all
  · rename_i hs ht
    refine ⟨ht, .inr ?_⟩
    simp_all
  · cases h

theorem signal?_cases {s : Signal} (h : l.signal? now s = some (l', effects)) :
    l.dispatcher.awaits s ∧ (s = .stopWanted → l.slot.wantsStop) ∧ l.dispatcher.task ≠ .idle := by
  unfold signal? at h
  unfold Dispatcher.awaits
  split at h <;> simp_all

/-- A move makes the dispatcher begin to serve a request, or brings it a signal for which it was
waiting, or leaves it alone. -/
theorem step?_cases (h : l.step? now m = some (l', effects)) :
    (∃ r, l.begins? now m = some r ∧ l.dispatcher.task = .idle ∧
        (l'.dispatcher, effects) = l.dispatcher.turn now (.request r)) ∨
      (∃ s, m = .signal s ∧ l.dispatcher.awaits s ∧ l.dispatcher.task ≠ .idle ∧
        (s = .stopWanted → l.slot.wantsStop) ∧ (l', effects) = l.turn now s) ∨
      (l.begins? now m = none ∧ (∀ s, m ≠ .signal s) ∧ l'.dispatcher = l.dispatcher ∧
        effects = []) := by
  cases m with
  | dispatch r =>
    simp only [step?, Option.ite_none_right_eq_some, Option.some.injEq] at h
    obtain ⟨hc, he⟩ := h
    have ht : l.dispatcher.task = .idle := by simp_all [Dispatcher.isIdle]
    exact .inl ⟨r, rfl, ht, dispatcher_turn he.symm⟩
  | begin =>
    simp only [step?, Option.ite_none_right_eq_some, Option.some.injEq, Prod.mk.injEq] at h
    obtain ⟨-, rfl, rfl⟩ := h
    exact .inr (.inr ⟨rfl, nofun, rfl, rfl⟩)
  | offer | take | close =>
    simp only [step?, Option.some.injEq, Prod.mk.injEq] at h
    obtain ⟨rfl, rfl⟩ := h
    exact .inr (.inr ⟨rfl, nofun, rfl, rfl⟩)
  | serve =>
    obtain ⟨r, hp, ht, he⟩ := serve?_turn h
    exact .inl ⟨r, hp, ht, dispatcher_turn (l := { l with slot := l.slot.take.2 }) he⟩
  | signal s =>
    obtain ⟨hw, hc, ht⟩ := signal?_cases h
    exact .inr (.inl ⟨s, rfl, hw, ht, hc, signal?_turn h⟩)
  | leave id =>
    obtain ⟨ht, ⟨hc, he⟩ | ⟨hc, rfl, rfl⟩⟩ := leave?_turn h
    · refine .inl ⟨Dispatcher.shutdownRequest id now, ?_, ht,
        dispatcher_turn (l := { l with stage := .stopping }) he⟩
      simp [begins?, hc]
    · exact .inr (.inr ⟨by simp [begins?, hc], nofun, rfl, rfl⟩)

theorem step?_turn (h : l.step? now m = some (l', effects)) :
    (l'.dispatcher = l.dispatcher ∧ effects = []) ∨
      ∃ s, (l'.dispatcher, effects) = l.dispatcher.turn now s := by
  rcases step?_cases h with ⟨r, -, -, hd⟩ | ⟨s, -, -, -, -, he⟩ | ⟨-, -, hd, he⟩
  · exact .inr ⟨_, hd⟩
  · exact .inr ⟨s, dispatcher_turn he⟩
  · exact .inl ⟨hd, he⟩

theorem step?_begins {r : Request} (h : l.step? now m = some (l', effects))
    (hb : l.begins? now m = some r) :
    l.dispatcher.task = .idle ∧ (l'.dispatcher, effects) = l.dispatcher.turn now (.request r) := by
  rcases step?_cases h with ⟨r', hr, ht, hd⟩ | ⟨s, rfl, -⟩ | ⟨hn, -⟩
  · obtain rfl : r' = r := Option.some.inj (hr.symm.trans hb)
    exact ⟨ht, hd⟩
  · cases hb
  · rw [hn] at hb
    cases hb

theorem step?_fits (h : l.step? now m = some (l', effects)) (hf : l.dispatcher.Fits) :
    l'.dispatcher.Fits ∧ ∀ origin input, .refused origin input ∉ effects := by
  rcases step?_turn h with ⟨hd, rfl⟩ | ⟨s, hd⟩
  · exact ⟨hd ▸ hf, by simp⟩
  · have hg := hf.goes now s
    rw [← hd] at hg
    exact ⟨hg.fits hf, hg.not_refused⟩

theorem run_fits (hf : l.dispatcher.Fits) (moves : List (Time × LoopMove)) :
    (l.run moves).1.dispatcher.Fits ∧ ∀ origin input, .refused origin input ∉ (l.run moves).2 := by
  induction moves generalizing l with
  | nil => exact ⟨hf, by simp [run]⟩
  | cons head rest ih =>
    obtain ⟨now, m⟩ := head
    simp only [run]
    cases hs : l.step? now m with
    | none => exact ih hf
    | some next =>
      obtain ⟨l', effects⟩ := next
      have hl := step?_fits hs hf
      have hr := ih hl.1
      refine ⟨hr.1, fun origin input hm => ?_⟩
      rcases List.mem_append.mp hm with hm | hm
      · exact hl.2 origin input hm
      · exact hr.2 origin input hm

theorem run_tells (hf : l.dispatcher.Fits) {a : Attempt} {c : Call}
    (ht : l.dispatcher.task = .calling a c) (moves : List (Time × LoopMove))
    (hi : (l.run moves).1.dispatcher.isIdle) :
    Dispatcher.Tells (l.run moves).2 a.request := by
  -- the call may change from move to move, but not the request for which it is made
  induction moves generalizing l a c with
  | nil => simp [run, Dispatcher.isIdle, ht] at hi
  | cons head rest ih =>
    obtain ⟨now, m⟩ := head
    simp only [run] at hi ⊢
    cases hs : l.step? now m with
    | none =>
      simp only [hs] at hi
      exact ih hf ht hi
    | some next =>
      obtain ⟨l', effects⟩ := next
      simp only [hs] at hi
      have hf' := (step?_fits hs hf).1
      have later {a' : Attempt} {c' : Call} (ht' : l'.dispatcher.task = .calling a' c')
          (ha : a'.request = a.request) :
          Dispatcher.Tells (effects ++ (run l' rest).2) a.request :=
        ha ▸ (ih hf' ht' hi).mono (List.subset_append_right _ _)
      rcases step?_turn hs with ⟨hd, -⟩ | ⟨s, hd⟩
      · exact later (hd ▸ ht) rfl
      · have hg := hf.goes now s
        rw [← hd] at hg
        rcases hg.of_calling ht with ⟨a', c', ht', ha⟩ | hr
        · exact later ht' ha
        · exact hr.mono (List.subset_append_left _ _)

private theorem begins?_tells (hf : l.dispatcher.Fits) {r : Request} (hb : l.begins? now m = some r)
    (h : l.step? now m = some (l', effects)) (more : List (Time × LoopMove))
    (hi : (l'.run more).1.dispatcher.isIdle) :
    Dispatcher.Tells (effects ++ (l'.run more).2) r := by
  obtain ⟨ht, hd⟩ := step?_begins h hb
  have hg := hf.goes now (.request r)
  rw [← hd] at hg
  rcases hg.of_begins (.inl ⟨ht, rfl, rfl⟩) with ⟨a, c, ht', rfl⟩ | hr
  · exact (run_tells (hg.fits hf) ht' more hi).mono (List.subset_append_right _ _)
  · exact hr.mono (List.subset_append_left _ _)

theorem new_fits (timeout : Duration) (policy : RetryPolicy) (stopAtEnd : Bool) :
    (new (.new timeout policy) stopAtEnd).dispatcher.Fits :=
  Dispatcher.Settled.of_stopped

/-- In every run of a fresh dispatcher, whatever is asked, answered and done to the slot: between
two requests the state is at rest and goes with the handle, no input to the lifecycle is refused, and
each request that is served is reported by the time the dispatcher is idle again. -/
theorem run_new_settled (timeout : Duration) (policy : RetryPolicy) (stopAtEnd : Bool)
    (moves : List (Time × LoopMove)) :
    let (l, effects) := (new (.new timeout policy) stopAtEnd).run moves
    (l.dispatcher.isIdle → Dispatcher.Settled l.dispatcher.state l.dispatcher.handle) ∧
      (∀ origin input, .refused origin input ∉ effects) ∧
      ∀ now m r l' first more, l.begins? now m = some r → l.step? now m = some (l', first) →
        (l'.run more).1.dispatcher.isIdle → Dispatcher.Tells (first ++ (l'.run more).2) r := by
  have hf := run_fits (new_fits timeout policy stopAtEnd) moves
  refine ⟨fun hi => ?_, hf.2, fun now m r l' first more hb hs hi => ?_⟩
  · have ht := of_decide_eq_true hi
    have h := hf.1
    simpa only [Dispatcher.Fits, ht] using h
  · exact begins?_tells hf.1 hb hs more hi

/-- A reload whose start times out and is made again is reported, and ends with the service running
and its handle held. -/
theorem run_new_settled_after_retry :
    let r : Request := ⟨.ofSerial 0, [.plain .ruleChanged], .reload, [], 0, 0⟩
    let l := new (.new (.ofMillis 5) ⟨1, .ofMillis 1, .ofMillis 2, true⟩) true
    let moves := [(0, .signal (.startAnswered .timedOut)), (1, .signal .delayEnded),
      (2, .signal (.startAnswered (.done ⟨1⟩)))]
    let ended := (l.run ((0, .dispatch r) :: moves)).1.dispatcher
    (ended.isIdle ∧ ended.state = .running ∧ ended.handle.isSome) ∧
      ∃ l' first, l.step? 0 (.dispatch r) = some (l', first) ∧
        Dispatcher.Tells (first ++ (l'.run moves).2) r := by
  intro r l moves ended
  have hi : ended.isIdle := by decide
  have hs : ended.state = .running := by decide
  have h := run_new_settled (.ofMillis 5) ⟨1, .ofMillis 1, .ofMillis 2, true⟩ true
  exact ⟨⟨hi, hs, ((h ((0, .dispatch r) :: moves)).1 hi).held hs⟩,
    _, _, rfl, (h []).2.2 0 (.dispatch r) r _ _ moves rfl rfl hi⟩

end DispatchLoop
end RestartCoordinator
