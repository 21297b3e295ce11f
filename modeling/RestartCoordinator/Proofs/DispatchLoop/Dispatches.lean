import RestartCoordinator.Proofs.Dispatcher.Reports
import RestartCoordinator.Proofs.DispatchLoop.Runs
/-!
# One dispatch in the loop

From the move with which a request is taken up until the dispatcher is idle again, its turns are
those of one dispatch, whatever is offered to the slot meanwhile and whenever the slot is closed. The
reports of a dispatch are retries, one after the other, and a last one that says how the request
ended; only a wanted stop, or the closing of the slot, makes a retry the last. A dispatch takes a
bounded number of turns, and while it lasts there is always one that can be taken.
-/
namespace RestartCoordinator
open Lifecycle (State)

def LoopMove.signal? : LoopMove → Option Signal
  | .signal s => some s
  | _ => none

namespace DispatchLoop

/-- The moves of a list that can be made until the dispatcher is idle, and the turns it takes: each
signal with the effects that follow. -/
def untilIdle (l : DispatchLoop) :
    List (Time × LoopMove) → DispatchLoop × List (Signal × List Effect)
  | [] => (l, [])
  | (now, m) :: rest =>
    if l.dispatcher.isIdle then (l, [])
    else
      match l.step? now m with
      | none => l.untilIdle rest
      | some (next, effects) =>
        let (last, turns) := next.untilIdle rest
        (last, m.signal?.toList.map (·, effects) ++ turns)

/-- The effects of a sequence of turns. -/
def effectsOf (turns : List (Signal × List Effect)) : List Effect := turns.flatMap (·.2)

variable {l l' : DispatchLoop} {now : Time} {m : LoopMove} {effects : List Effect}
  {policy : RetryPolicy} {r : Request} {origin : State} {number : Nat}

theorem untilIdle_of_idle (h : l.dispatcher.isIdle) (moves : List (Time × LoopMove)) :
    l.untilIdle moves = (l, []) := by
  cases moves with
  | nil => rfl
  | cons head rest => exact if_pos h

theorem not_isIdle (h : l.dispatcher.task ≠ .idle) : l.dispatcher.isIdle = false :=
  decide_eq_false h

theorem untilIdle_cons (ht : l.dispatcher.task ≠ .idle) (now : Time) (m : LoopMove)
    (rest : List (Time × LoopMove)) :
    (∃ s l' effects, m = .signal s ∧ l.dispatcher.awaits s ∧ (s = .stopWanted → l.slot.wantsStop) ∧
        (l', effects) = l.turn now s ∧
        l.untilIdle ((now, m) :: rest) =
          ((l'.untilIdle rest).1, (s, effects) :: (l'.untilIdle rest).2)) ∨
      ∃ l' : DispatchLoop, l'.dispatcher = l.dispatcher ∧
        l.untilIdle ((now, m) :: rest) = l'.untilIdle rest := by
  have hi : ¬l.dispatcher.isIdle := by simp [not_isIdle ht]
  cases hs : l.step? now m with
  | none => exact .inr ⟨l, rfl, by simp only [untilIdle, if_neg hi, hs]⟩
  | some next =>
    obtain ⟨l', effects⟩ := next
    have hu : l.untilIdle ((now, m) :: rest) =
        ((l'.untilIdle rest).1, m.signal?.toList.map (·, effects) ++ (l'.untilIdle rest).2) := by
      simp only [untilIdle, if_neg hi, hs]
    rcases step?_cases hs with ⟨r, -, hidle, -⟩ | ⟨s, rfl, hw, -, hc, he⟩ | ⟨-, hm, hd, rfl⟩
    · exact absurd hidle ht
    · exact .inl ⟨s, l', effects, rfl, hw, hc, he, hu⟩
    · refine .inr ⟨l', hd, hu.trans ?_⟩
      have hn : m.signal? = none := by
        cases m with
        | signal s => exact absurd rfl (hm s)
        | _ => rfl
      rw [hn]
      rfl

theorem turn_goes {s : Signal} (hf : l.dispatcher.Fits) (he : (l', effects) = l.turn now s) :
    l.dispatcher.Goes now s l'.dispatcher effects ∧ l'.dispatcher.Fits ∧ l'.slot = l.slot := by
  have hg := hf.goes now s
  rw [← dispatcher_turn he] at hg
  obtain ⟨rfl, -⟩ := Prod.mk.inj he
  exact ⟨hg, hg.fits hf, rfl⟩

private theorem untilIdle_remains (hf : l.dispatcher.Fits)
    (h : l.dispatcher.Serves policy r origin number)
    (moves : List (Time × LoopMove)) (hi : (l.untilIdle moves).1.dispatcher.isIdle) :
    Remains policy r origin ((l.untilIdle moves).1.slot.wantsStop = true) l.dispatcher.task number
      (effectsOf (l.untilIdle moves).2) := by
  induction moves generalizing l number with
  | nil => simp [untilIdle, not_isIdle h.task_ne_idle] at hi
  | cons head rest ih =>
    obtain ⟨now, m⟩ := head
    rcases untilIdle_cons h.task_ne_idle now m rest with
      ⟨s, l', effects, -, hs, hc, he, hu⟩ | ⟨l', hd, hu⟩
    · rw [hu] at hi ⊢
      obtain ⟨hg, hf', hslot⟩ := turn_goes hf he
      have hw : s = .stopWanted → (l'.untilIdle rest).1.slot.wantsStop := by
        rintro rfl
        rw [untilIdle_of_idle (decide_eq_true (hg.idle_of_stopWanted hs)), hslot]
        exact hc rfl
      rcases hg.advances hf h hw with ⟨hidle, hr⟩ | ⟨next, hn, hr⟩
      · rw [untilIdle_of_idle (decide_eq_true hidle)] at hr ⊢
        simpa [effectsOf] using hr
      · exact hr _ (ih hf' hn hi)
    · rw [hu] at hi ⊢
      rw [← hd] at h hf ⊢
      exact ih hf h hi

/-- Each turn of a dispatch brings its end nearer. -/
theorem length_untilIdle_add_pace_le (hf : l.dispatcher.Fits) (moves : List (Time × LoopMove)) :
    (l.untilIdle moves).2.length + (l.untilIdle moves).1.dispatcher.pace ≤ l.dispatcher.pace := by
  induction moves generalizing l with
  | nil => simp [untilIdle]
  | cons head rest ih =>
    obtain ⟨now, m⟩ := head
    by_cases ht : l.dispatcher.task = .idle
    · rw [untilIdle_of_idle (decide_eq_true ht)]
      simp
    · rcases untilIdle_cons ht now m rest with
        ⟨s, l', effects, -, hs, -, he, hu⟩ | ⟨l', hd, hu⟩
      · obtain ⟨hg, hf', -⟩ := turn_goes hf he
        have hlt := hg.pace_lt hs ht
        have hle := ih hf'
        simp only [hu, List.length_cons]
        omega
      · rw [hu, ← hd]
        exact ih (hd ▸ hf)

theorem exists_step?_signal (ht : l.dispatcher.task ≠ .idle) (now : Time) :
    ∃ s, (l.step? now (.signal s)).isSome := by
  cases hd : l.dispatcher.task with
  | idle => exact absurd hd ht
  | calling a c =>
    cases c with
    | start => exact ⟨.startAnswered .timedOut, by simp [step?, signal?, hd]⟩
    | stop h => exact ⟨.stopAnswered .timedOut, by simp [step?, signal?, hd]⟩
    | release h => exact ⟨.stopAnswered .timedOut, by simp [step?, signal?, hd]⟩
  | waiting a delay => exact ⟨.delayEnded, by simp [step?, signal?, hd]⟩

theorem step?_goes_of_begins {first : List Effect}
    (hs : Dispatcher.Settled l.dispatcher.state l.dispatcher.handle)
    (hb : l.begins? now m = some r) (hm : l.step? now m = some (l', first)) :
    l.dispatcher.task = .idle ∧ l.dispatcher.Goes now (.request r) l'.dispatcher first ∧
      l'.dispatcher.Fits := by
  obtain ⟨ht, hd⟩ := step?_begins hm hb
  have hf : l.dispatcher.Fits := by simpa only [Dispatcher.Fits, ht] using hs
  have hg := hf.goes now (.request r)
  rw [← hd] at hg
  exact ⟨ht, hg, hg.fits hf⟩

theorem length_dispatch_le {first : List Effect}
    (hs : Dispatcher.Settled l.dispatcher.state l.dispatcher.handle)
    (hb : l.begins? now m = some r) (hm : l.step? now m = some (l', first))
    (moves : List (Time × LoopMove)) :
    (l'.untilIdle moves).2.length ≤ 3 * l.dispatcher.policy.maxRetries + 2 := by
  obtain ⟨ht, hg, hf'⟩ := step?_goes_of_begins hs hb hm
  have hlen := length_untilIdle_add_pace_le hf' moves
  have hle : l'.dispatcher.pace ≤ 3 * (l.dispatcher.policy.maxRetries - 0) + 2 :=
    hg.pace_le_of_begins (.inl ⟨ht, rfl, rfl⟩)
  omega

theorem dispatch_remains {first : List Effect}
    (hs : Dispatcher.Settled l.dispatcher.state l.dispatcher.handle)
    (hb : l.begins? now m = some r) (hm : l.step? now m = some (l', first))
    (moves : List (Time × LoopMove)) (hi : (l'.untilIdle moves).1.dispatcher.isIdle) :
    Remains l.dispatcher.policy r l.dispatcher.state
      ((l'.untilIdle moves).1.slot.wantsStop = true) .idle 0
      (first ++ effectsOf (l'.untilIdle moves).2) := by
  obtain ⟨ht, hg, hf'⟩ := step?_goes_of_begins hs hb hm
  have ha : Dispatcher.Advances l.dispatcher.policy r l.dispatcher.state
      ((l'.untilIdle moves).1.slot.wantsStop = true) l.dispatcher.task 0 l'.dispatcher first :=
    hg.advances_of_begins (.inl ⟨ht, rfl, rfl⟩) (Nat.zero_le _) (if_pos rfl).symm
  rw [ht] at ha
  rcases ha with ⟨hidle, hr⟩ | ⟨next, hn, hr⟩
  · rw [untilIdle_of_idle (decide_eq_true hidle)] at hr ⊢
    simpa [effectsOf] using hr
  · exact hr _ (untilIdle_remains hf' hn moves hi)

/-- What a dispatch that has come to its end tells of itself. -/
structure Recorded (policy : RetryPolicy) (r : Request) (state : State) (wanted : Prop)
    (effects : List Effect) (reports : List Report) : Prop where
  ne_nil : reports ≠ []
  length_le : reports.length ≤ policy.maxRetries + 1
  about : ∀ e ∈ reports, e.request = r.id ∧ e.reasons = r.reasons
  attempt : ∀ i (e : Report), reports[i]? = some e → e.attempt = i
  origin : ∀ e : Report, reports[0]? = some e → e.origin = state
  linked : ∀ i (e next : Report), reports[i]? = some e → reports[i + 1]? = some next →
    e.target = .failed ∧ next.origin = .failed
  retried : ∀ i (e : Report), reports[i]? = some e → i + 1 < reports.length →
    e.outcome.occurrence = .retry
  /-- The delay is told in milliseconds of 64 bits. -/
  delay : ∀ i (e : Report) error retry delayMs, reports[i]? = some e →
    e.outcome = .retrying error retry delayMs →
      retry = i + 1 ∧ delayMs = (policy.delay i).millis % UInt64.size ∧
        (policy.longest.millis < UInt64.size → delayMs = (policy.delay i).millis)
  last : ∀ e : Report, reports.getLast? = some e →
    e.outcome = .succeeded ∨ e.outcome = .skipped ∨ (∃ error, e.outcome = .failed error) ∨
      e.outcome.occurrence = .retry ∧ wanted
  skipped : ∀ i (e : Report), reports[i]? = some e → e.outcome = .skipped →
    i = 0 ∧ r.isStop ∧ state = .stopped
  exhausted : ∀ (e : Report) timeout, reports.getLast? = some e →
    (e.outcome = .failed (Failure.timedOut "start" timeout).message ∨
      e.outcome = .failed (Failure.timedOut "stop" timeout).message) →
    reports.length = policy.maxRetries + 1
  tallied : ∀ t : Tally, (effects.filterMap Effect.occurrence?).foldl Tally.record t =
    { t with
      dispatches := t.dispatches + reports.countP (·.outcome.occurrence = .dispatch)
      skipped := t.skipped + reports.countP (·.outcome.occurrence = .skipped)
      failures := t.failures + reports.countP (·.outcome.occurrence = .failure)
      retries := t.retries + reports.countP (·.outcome.occurrence = .retry) }
  starts_le : startsIn effects ≤ policy.maxRetries + 1
  stops_le : stopsIn effects ≤ policy.maxRetries + 1
  stop_only : r.isStop → startsIn effects = 0

private theorem millis_delay_le (policy : RetryPolicy) (retry : Nat) :
    (policy.delay retry).millis ≤ policy.longest.millis :=
  Nat.div_le_div_right (policy.nanos_delay_le retry)

private theorem recorded {wanted : Prop} (h : Remains policy r origin wanted .idle 0 effects) :
    Recorded policy r origin wanted effects (reportsIn effects) := by
  have hl := h.chronicle.length_le (Nat.zero_le _)
  rw [Nat.zero_add] at hl
  have hat {i : Nat} {e : Report} (he : (reportsIn effects)[i]? = some e) :
      e.IsOf r origin i ∧ (e.Announces policy i ∧ (i + 1 = (reportsIn effects).length → wanted) ∨
        i + 1 = (reportsIn effects).length ∧ e.outcome.Concludes policy r origin i) := by
    simpa using h.chronicle.of_getElem? he
  obtain ⟨final, hlast, hnumber, hend⟩ := h.exists_last
  constructor
  case ne_nil => exact h.chronicle.ne_nil
  case length_le => exact hl
  case about =>
    intro e he
    obtain ⟨i, hi⟩ := List.mem_iff_getElem?.mp he
    exact ⟨(hat hi).1.request, (hat hi).1.reasons⟩
  case attempt => exact fun i e he => (hat he).1.attempt
  case origin => exact fun e he => (hat he).1.origin
  case linked =>
    intro i e next he hn
    refine ⟨?_, (hat hn).1.origin⟩
    have hlt := (List.getElem?_eq_some_iff.mp hn).1
    rcases (hat he).2 with ⟨ha, -⟩ | ⟨hi, -⟩
    · exact ha.target
    · omega
  case retried =>
    intro i e he hi
    rcases (hat he).2 with ⟨ha, -⟩ | ⟨hi', -⟩
    · obtain ⟨error, ho⟩ := ha.outcome
      rw [ho]
      rfl
    · omega
  case delay =>
    intro i e error retry delayMs he ho
    rcases (hat he).2 with ⟨ha, -⟩ | ⟨-, hc⟩
    · obtain ⟨error', ho'⟩ := ha.outcome
      obtain ⟨-, rfl, rfl⟩ := Outcome.retrying.inj (ho.symm.trans ho')
      refine ⟨rfl, rfl, fun hm => ?_⟩
      exact Nat.mod_eq_of_lt (Nat.lt_of_le_of_lt (millis_delay_le policy i) hm)
    · rw [ho] at hc
      cases hc
  case last =>
    intro e he
    obtain rfl := Option.some.inj (hlast.symm.trans he)
    rcases hend with hs | hs | ⟨f, -, hf, -⟩ | hr
    · exact .inl hs
    · exact .inr (.inl hs)
    · exact .inr (.inr (.inl ⟨f.message, hf⟩))
    · exact .inr (.inr (.inr hr))
  case skipped =>
    intro i e he ho
    rcases (hat he).2 with ⟨ha, -⟩ | ⟨-, hc⟩
    · obtain ⟨error, ho'⟩ := ha.outcome
      cases ho.symm.trans ho'
    · rw [ho] at hc
      cases hc with
      | skipped hn hr ho => exact ⟨hn, hr, ho⟩
  case exhausted =>
    intro e timeout he ho
    obtain rfl := Option.some.inj (hlast.symm.trans he)
    rcases hend with hs | hs | ⟨f, hf, ho', hx⟩ | ⟨hr, -⟩
    · simp [hs] at ho
    · simp [hs] at ho
    · have hm := hf.isRetryable_of_message (by simpa [ho'] using ho)
      rw [← hnumber, hx hm]
    · rcases ho with ho | ho <;> rw [ho] at hr <;> cases hr
  case tallied =>
    intro t
    rw [h.counted, Tally.foldl_record_reports]
  case starts_le => exact Nat.le_trans h.starts_le hl
  case stops_le => exact Nat.le_trans h.stops_le hl
  case stop_only => exact h.stop_only

/-- A settled dispatcher takes up a request. Whatever the service answers and whatever is done to the
slot meanwhile, the dispatch comes to its end within a bounded number of turns, and its reports, its
counts and its calls are as `Recorded` says. -/
theorem dispatch_recorded {first : List Effect}
    (hs : Dispatcher.Settled l.dispatcher.state l.dispatcher.handle)
    (hb : l.begins? now m = some r) (hm : l.step? now m = some (l', first))
    (moves : List (Time × LoopMove)) :
    let ended := (l'.untilIdle moves).1
    let turns := (l'.untilIdle moves).2
    let effects := first ++ effectsOf turns
    turns.length ≤ 3 * l.dispatcher.policy.maxRetries + 2 ∧
      (ended.dispatcher.isIdle = false → ∀ now, ∃ s, (ended.step? now (.signal s)).isSome) ∧
      (ended.dispatcher.isIdle → Recorded l.dispatcher.policy r l.dispatcher.state
        (ended.slot.closed ∨ ended.slot.hasStop) effects (reportsIn effects)) := by
  intro ended turns effects
  refine ⟨length_dispatch_le hs hb hm moves,
    fun hi => exists_step?_signal (of_decide_eq_false hi), fun hi => ?_⟩
  have hr := recorded (dispatch_remains hs hb hm moves hi)
  simpa only [PendingSlot.wantsStop, Bool.or_eq_true] using hr

/-- A start times out, and a stop that is offered meanwhile cuts the wait for the next attempt. -/
theorem dispatch_recorded_of_cut :
    let r : Request := ⟨.ofSerial 0, [.plain .ui], .start, [], 0, 0⟩
    let l := new (.new (.ofMillis 5) ⟨3, .ofMillis 1, .ofMillis 2, true⟩) true
    let moves := [(5, .signal (.startAnswered .timedOut)),
      (5, .offer ⟨.ofSerial 1, [.plain .switchOff], .stop, [], 5, 5⟩), (5, .signal .stopWanted)]
    ∃ next first, l.step? 0 (.dispatch r) = some (next, first) ∧
      (next.untilIdle moves).1.dispatcher.isIdle ∧
      let effects := first ++ effectsOf (next.untilIdle moves).2
      (reportsIn effects).map (·.outcome.occurrence) = [.retry] ∧
        Recorded l.dispatcher.policy r .stopped
          ((next.untilIdle moves).1.slot.closed ∨ (next.untilIdle moves).1.slot.hasStop) effects
          (reportsIn effects) := by
  intro r l moves
  have hs : Dispatcher.Settled l.dispatcher.state l.dispatcher.handle := .of_stopped
  refine ⟨_, _, rfl, by decide, by decide, ?_⟩
  exact (dispatch_recorded (m := .dispatch r) hs rfl rfl moves).2.2 (by decide)

end DispatchLoop
end RestartCoordinator
