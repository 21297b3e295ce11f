import RestartCoordinator.Proofs.DispatchLoop.Dispatches
/-!
# Stops that time out

A stop that is not answered in time is made again, until it succeeds, fails for another reason or has
used up its retries. What can cut it short in between is another stop that waits in the slot, or the
closing of the slot.
-/
namespace RestartCoordinator
open Lifecycle (State)

namespace Dispatcher

variable {d d' : Dispatcher} {now : Time} {s : Signal} {effects : List Effect}
  {policy : RetryPolicy} {r : Request} {origin : State} {number : Nat}

theorem Goes.settings (hg : d.Goes now s d' effects) :
    d'.policy = d.policy ∧ d'.timeout = d.timeout := by
  cases hg <;> exact ⟨rfl, rfl⟩

private theorem Goes.of_stop_timedOut (hg : d.Goes now (.stopAnswered .timedOut) d' effects)
    (hw : d.awaits (.stopAnswered .timedOut)) (hf : d.Fits)
    (h : d.Serves policy r origin number) (hr : r.isStop) :
    (∃ a delay h, d'.task = .waiting a delay ∧ a.request = r ∧ d'.handle = some h) ∨
      d'.task = .idle ∧ ∃ e, .reported e ∈ effects ∧
        e.outcome = .failed (Failure.timedOut "stop" d.timeout).message ∧
        e.attempt = policy.maxRetries := by
  cases hg with
  | ignored hs => simp [hs] at hw
  | skipped hb | stops hb | stopsNothing hb | restarts hb | starts hb | releases hb =>
    rcases hb with ⟨-, hs, -⟩ | ⟨_, _, -, hs, -, -⟩ <;> cases hs
  | released ht =>
    have ha := by simpa only [Fits, ht] using hf
    rcases h.action_of_stop ht hr with hc | hc <;> cases hc.symm.trans ha.2.2
  | @retries s a c f delay recovery ht hc hg =>
    obtain ⟨-, ha⟩ := h.attempt ht
    cases c with
    | stop hd => exact .inl ⟨_, _, hd, rfl, ha.request, rfl⟩
    | start | release => cases hc
  | @givesUp s a c f ht hc hg =>
    obtain ⟨hn, ha⟩ := h.attempt ht
    rw [ha.recovery] at hg
    cases c with
    | stop hd =>
      obtain rfl := Option.some.inj hc
      have he : number = policy.maxRetries := Nat.le_antisymm hn (handle_eq_giveUp hg rfl)
      have hm {e : Report} {x y : Effect} : .reported e ∈ [x, y, .reported e] := by simp
      exact .inr ⟨rfl, _, hm, rfl, (congrArg Recovery.retries ha.recovery).trans he⟩
    | start | release => cases hc

private theorem Goes.of_delayEnded {a : Attempt} {delay : Duration} {h : Handle}
    (hg : d.Goes now .delayEnded d' effects) (hf : d.Fits) (ht : d.task = .waiting a delay)
    (hr : a.request.isStop) (hh : d.handle = some h) : .called (.stop h) ∈ effects := by
  have hs : d.state = .failed := by simpa only [Fits, ht] using hf
  have unique {r' : Request} {recovery : Recovery} (hb : d.Begins .delayEnded r' recovery) :
      r' = a.request := by
    rcases hb with ⟨ht', -, -⟩ | ⟨a', delay', ht', -, rfl, -⟩
    · cases ht.symm.trans ht'
    · exact congrArg Attempt.request (Task.waiting.inj (ht'.symm.trans ht)).1
  cases hg with
  | ignored hi => simp [awaits, ht] at hi
  | skipped _ _ hs' => cases hs.symm.trans hs'
  | stops _ _ _ hh' =>
    obtain rfl := Option.some.inj (hh.symm.trans hh')
    exact List.mem_cons_of_mem _ List.mem_cons_self
  | stopsNothing _ _ _ hh' => cases hh.symm.trans hh'
  | restarts hb hr' | starts hb hr' | releases hb hr' =>
    rw [unique hb, hr] at hr'
    cases hr'
  | retries ht' | givesUp ht' => cases ht.symm.trans ht'

end Dispatcher

namespace DispatchLoop

/-- The turns of a dispatch that follow on a stop that was not answered in time. The effects are
those of the turn in which this came out. -/
inductive Pursues (policy : RetryPolicy) (timeout : Duration) (wanted : Prop)
    (effects : List Effect) : List (Signal × List Effect) → Prop where
  | again {h effects' rest} (hc : .called (.stop h) ∈ effects') :
    Pursues policy timeout wanted effects ((.delayEnded, effects') :: rest)
  /-- The retries are used up, and this is reported. -/
  | failed {e} (he : .reported e ∈ effects)
      (ho : e.outcome = .failed (Failure.timedOut "stop" timeout).message)
      (hn : e.attempt = policy.maxRetries) : Pursues policy timeout wanted effects []
  | cut (hw : wanted) : Pursues policy timeout wanted effects [(.stopWanted, [])]

variable {l l' : DispatchLoop} {now : Time} {m : LoopMove} {effects : List Effect}
  {policy : RetryPolicy} {timeout : Duration} {r : Request} {origin : State} {number : Nat}

private theorem untilIdle_of_waiting {a : Attempt} {delay : Duration} {h : Handle}
    (hf : l.dispatcher.Fits)
    (ht : l.dispatcher.task = .waiting a delay) (hr : a.request.isStop)
    (hh : l.dispatcher.handle = some h) (moves : List (Time × LoopMove))
    (hi : (l.untilIdle moves).1.dispatcher.isIdle) :
    Pursues policy timeout ((l.untilIdle moves).1.slot.wantsStop = true) effects
      (l.untilIdle moves).2 := by
  have hn : l.dispatcher.task ≠ .idle := by simp [ht]
  induction moves generalizing l with
  | nil => simp [untilIdle, not_isIdle hn] at hi
  | cons head rest ih =>
    obtain ⟨now, m⟩ := head
    rcases untilIdle_cons hn now m rest with
      ⟨s, l', effects, -, hs, hc, he, hu⟩ | ⟨l', hd, hu⟩
    · obtain ⟨hg, -, hslot⟩ := turn_goes hf he
      rw [hu]
      cases s with
      | delayEnded => exact .again (hg.of_delayEnded hf ht hr hh)
      | stopWanted =>
        have hidle := hg.idle_of_stopWanted hs
        have heffects : effects = [] := by
          rw [(Prod.mk.inj he).2]
          simp only [ht]
          rfl
        rw [untilIdle_of_idle (decide_eq_true hidle), heffects, hslot]
        exact .cut (hc rfl)
      | request | startAnswered | stopAnswered => simp [Dispatcher.awaits, ht] at hs
    · rw [hu] at hi ⊢
      rw [← hd] at hf ht hh hn
      exact ih hf ht hh hi hn

private theorem untilIdle_of_stop_timedOut (hf : l.dispatcher.Fits)
    (h : l.dispatcher.Serves policy r origin number) (hr : r.isStop)
    (moves : List (Time × LoopMove)) (hi : (l.untilIdle moves).1.dispatcher.isIdle)
    (earlier : List (Signal × List Effect)) (effects : List Effect)
    (later : List (Signal × List Effect))
    (ht : (l.untilIdle moves).2 = earlier ++ (.stopAnswered .timedOut, effects) :: later) :
    Pursues policy l.dispatcher.timeout ((l.untilIdle moves).1.slot.wantsStop = true) effects
      later := by
  induction moves generalizing l number earlier with
  | nil => simp [untilIdle] at ht
  | cons head rest ih =>
    obtain ⟨now, m⟩ := head
    rcases untilIdle_cons h.task_ne_idle now m rest with
      ⟨s, l', heard, -, hs, -, he, hu⟩ | ⟨l', hd, hu⟩
    · rw [hu] at hi ht ⊢
      obtain ⟨hg, hf', -⟩ := turn_goes hf he
      cases earlier with
      | nil =>
        obtain ⟨hp, rfl⟩ := List.cons.inj ht
        obtain ⟨rfl, rfl⟩ := Prod.mk.inj hp
        rcases hg.of_stop_timedOut hs hf h hr with
          ⟨a, delay, hd, ht', hr', hh⟩ | ⟨hidle, e, he, ho, hn⟩
        · exact untilIdle_of_waiting hf' ht' (hr' ▸ hr) hh rest hi
        · rw [untilIdle_of_idle (decide_eq_true hidle)]
          exact .failed he ho hn
      | cons first earlier =>
        obtain ⟨-, ht⟩ := List.cons.inj ht
        rcases (hg.advances hf h fun _ => trivial).serves with hidle | ⟨next, hn⟩
        · rw [untilIdle_of_idle (decide_eq_true hidle)] at ht
          simp at ht
        · rw [← hg.settings.2]
          exact ih hf' hn hi earlier ht
    · rw [hu] at hi ht ⊢
      rw [← hd] at hf h ⊢
      exact ih hf h hi earlier ht

theorem run_settings (hf : l.dispatcher.Fits) (moves : List (Time × LoopMove)) :
    (l.run moves).1.dispatcher.policy = l.dispatcher.policy ∧
      (l.run moves).1.dispatcher.timeout = l.dispatcher.timeout := by
  induction moves generalizing l with
  | nil => exact ⟨rfl, rfl⟩
  | cons head rest ih =>
    obtain ⟨now, m⟩ := head
    simp only [run]
    cases hs : l.step? now m with
    | none => exact ih hf
    | some next =>
      obtain ⟨l', effects⟩ := next
      have hr := ih (step?_fits hs hf).1
      rcases step?_turn hs with ⟨hd, -⟩ | ⟨s, hd⟩
      · exact hd ▸ hr
      · have hg := hf.goes now s
        rw [← hd] at hg
        exact ⟨hr.1.trans hg.settings.1, hr.2.trans hg.settings.2⟩

/-- In every run of a fresh dispatcher, with the slot closed at any moment: the dispatch of a stop
comes to its end within a bounded number of turns. Each time the stop is not answered in time it is
made again, unless its retries are used up and it is reported as failed, or it is cut short because
the slot is closed or holds another stop. It ends with a success, with a failure for another reason
than time or after the last retry, or cut short. -/
theorem stop_made_again (timeout : Duration) (policy : RetryPolicy) (stopAtEnd : Bool)
    (before : List (Time × LoopMove)) :
    let l := ((new (.new timeout policy) stopAtEnd).run before).1
    ∀ now m r next first, l.begins? now m = some r → r.isStop →
      l.step? now m = some (next, first) → ∀ moves,
      let ended := (next.untilIdle moves).1
      let turns := (next.untilIdle moves).2
      turns.length ≤ 3 * policy.maxRetries + 2 ∧
        (ended.dispatcher.isIdle = false → ∀ now, ∃ s, (ended.step? now (.signal s)).isSome) ∧
        (ended.dispatcher.isIdle →
          (∀ earlier effects later, turns = earlier ++ (.stopAnswered .timedOut, effects) :: later →
            Pursues policy timeout (ended.slot.closed ∨ ended.slot.hasStop) effects later) ∧
          ∃ e, (reportsIn (first ++ effectsOf turns)).getLast? = some e ∧
            (e.outcome = .succeeded ∨ e.outcome = .skipped ∨
              (∃ f : Failure, f.OfCall ∧ e.outcome = .failed f.message ∧
                (f.isRetryable → e.attempt = policy.maxRetries)) ∨
              e.outcome.occurrence = .retry ∧ (ended.slot.closed ∨ ended.slot.hasStop))) := by
  intro l now m r next first hb hr hm moves ended turns
  have hf := (run_fits (new_fits timeout policy stopAtEnd) before).1
  obtain ⟨hp, ht⟩ : l.dispatcher.policy = policy ∧ l.dispatcher.timeout = timeout :=
    run_settings (new_fits timeout policy stopAtEnd) before
  have hidle : l.dispatcher.task = .idle := (step?_begins hm hb).1
  have hs : Dispatcher.Settled l.dispatcher.state l.dispatcher.handle := by
    have hfits : l.dispatcher.Fits := hf
    simpa only [Dispatcher.Fits, hidle] using hfits
  have hlen := length_dispatch_le hs hb hm moves
  rw [hp] at hlen
  refine ⟨hlen, fun hi => exists_step?_signal (of_decide_eq_false hi), fun hi => ⟨?_, ?_⟩⟩
  · intro earlier effects later hturns
    obtain ⟨-, hg, hf'⟩ := step?_goes_of_begins hs hb hm
    have ha := (hg.advances_of_begins (.inl ⟨hidle, rfl, rfl⟩) (Nat.zero_le _)
      (if_pos rfl).symm).serves
    rcases ha with hended | ⟨number, hn⟩
    · have hnil : turns = [] := by
        simp only [turns, untilIdle_of_idle (decide_eq_true hended)]
      simp [hnil] at hturns
    · have hx := untilIdle_of_stop_timedOut hf' hn hr moves hi earlier effects later hturns
      rw [hp, hg.settings.2, ht] at hx
      simpa only [PendingSlot.wantsStop, Bool.or_eq_true] using hx
  · obtain ⟨e, he, -, hx⟩ := (dispatch_remains hs hb hm moves hi).exists_last
    rw [hp] at hx
    refine ⟨e, he, ?_⟩
    simpa only [PendingSlot.wantsStop, Bool.or_eq_true] using hx

/-- A stop that times out once and then succeeds. -/
theorem stop_made_again_after_timeout :
    let l := ((new (.new (.ofMillis 5) ⟨1, .ofMillis 1, .ofMillis 2, true⟩) true).run
      [(0, .dispatch ⟨.ofSerial 0, [.plain .ui], .start, [], 0, 0⟩),
        (1, .signal (.startAnswered (.done ⟨1⟩)))]).1
    let r : Request := ⟨.ofSerial 1, [.plain .switchOff], .stop, [], 2, 2⟩
    let next := (l.turn 2 (.request r)).1
    let moves := [(7, .signal (.stopAnswered .timedOut)), (8, .signal .delayEnded),
      (9, .signal (.stopAnswered (.done ())))]
    (next.untilIdle moves).1.dispatcher.isIdle ∧
      ∃ effects h again rest, (next.untilIdle moves).2 =
        (.stopAnswered .timedOut, effects) :: (.delayEnded, again) :: rest ∧
          .called (.stop h) ∈ again := by
  intro l r next moves
  have hi : (next.untilIdle moves).1.dispatcher.isIdle := by decide
  have hm : (next.untilIdle moves).2.map (·.1) =
      [.stopAnswered .timedOut, .delayEnded, .stopAnswered (.done ())] := by decide
  have h := stop_made_again (.ofMillis 5) ⟨1, .ofMillis 1, .ofMillis 2, true⟩ true
    [(0, .dispatch ⟨.ofSerial 0, [.plain .ui], .start, [], 0, 0⟩),
      (1, .signal (.startAnswered (.done ⟨1⟩)))] 2 (.dispatch r) r next _ rfl (by decide) rfl moves
  obtain ⟨⟨s, effects⟩, later, ht, rfl, hl⟩ := List.map_eq_cons_iff.mp hm
  cases (h.2.2 hi).1 [] effects later ht with
  | again hc => exact ⟨hi, effects, _, _, _, ht, hc⟩
  | failed => cases hl
  | cut => cases hl

/-- The stop at the end times out once and is never made again, although no other stop waits and
none of its three retries is used up: the slot is closed. -/
theorem stop_given_up_by_close :
    let l := ((new (.new (.ofMillis 5) ⟨3, .ofMillis 1, .ofMillis 2, true⟩) true).run
      [(0, .dispatch ⟨.ofSerial 0, [.plain .ui], .start, [], 0, 0⟩),
        (1, .signal (.startAnswered (.done ⟨1⟩))), (1, .begin), (2, .close)]).1
    let moves := [(7, .signal (.stopAnswered .timedOut)), (7, .signal .stopWanted)]
    ∃ taken, l.step? 2 (.leave .nil) = some taken ∧
      let ended := (taken.1.untilIdle moves).1
      let reports := reportsIn (taken.2 ++ effectsOf (taken.1.untilIdle moves).2)
      (ended.dispatcher.isIdle ∧ ended.dispatcher.handle = some ⟨1⟩ ∧
          ended.slot.hasStop = false) ∧
        reports.map (fun e => (e.action, e.outcome.occurrence)) = [(.stop, .retry)] := by
  intro l moves
  refine ⟨{ l with stage := .stopping }.turn 2 (.request (Dispatcher.shutdownRequest .nil 2)),
    rfl, ?_⟩
  decide

end DispatchLoop
end RestartCoordinator
