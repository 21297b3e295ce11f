import RestartCoordinator.Proofs.Pipeline.Counts
/-!
# The order of the endings

The dispatcher is busy only in its loop or with the stop at its end, so when its loop is over it is
idle, and if there was a stop at the end the service is stopped or has failed. When both halves are
over, the dispatcher has no part in any move. Nor has it when the slot is closed and empty, no stop
comes at the end, and the dispatch that was under way is over.
-/
namespace RestartCoordinator

namespace Dispatcher

/-- The dispatcher stops the service, or is done with that. -/
def Stopping (d : Dispatcher) : Prop :=
  match d.task with
  | .idle => d.state = .stopped ∨ d.state = .failed
  | .calling a _ => a.action = .stop ∧ a.request.isStop
  | .waiting a _ => a.request.isStop

variable {d d' : Dispatcher} {now : Time} {s : Signal} {effects : List Effect}

private theorem Stopping.idle (h : d.Stopping) (hi : d.task = .idle) :
    d.state = .stopped ∨ d.state = .failed := by
  simpa only [Stopping, hi] using h

private theorem Stopping.calling {a : Attempt} {c : Call} (h : d.Stopping)
    (ht : d.task = .calling a c) :
    a.action = .stop ∧ a.request.isStop := by
  simpa only [Stopping, ht] using h

private theorem Stopping.begins {r : Request} {recovery : Recovery} (h : d.Stopping)
    (hb : d.Begins s r recovery) (hbusy : d.task ≠ .idle) : r.isStop := by
  rcases hb with ⟨hi, -, -⟩ | ⟨a, delay, ht, -, rfl, -⟩
  · contradiction
  · simpa only [Stopping, ht] using h

private theorem Goes.stopping_of_request {r : Request} (hg : d.Goes now (.request r) d' effects)
    (hr : r.isStop) (hi : d.task = .idle) : d'.Stopping := by
  have same {r' : Request} {recovery : Recovery} (hb : d.Begins (.request r) r' recovery) :
      r' = r := hb.unique (.inl ⟨hi, rfl, rfl⟩)
  cases hg with
  | ignored hs => simp [awaits, hi] at hs
  | skipped hb hr' hs => exact .inl hs
  | stops hb hr' hs hh => exact ⟨(plan_stop hr' d.state).trans (if_neg hs), hr'⟩
  | stopsNothing hb hr' hs hh => exact .inl rfl
  | restarts hb hr' | starts hb hr' | releases hb hr' =>
    rw [same hb, hr] at hr'
    cases hr'
  | retries ht | givesUp ht => simp [hi] at ht

private theorem Goes.stopping (hg : d.Goes now s d' effects) (hf : d.Fits) (h : d.Stopping)
    (hbusy : d.task ≠ .idle) : d'.Stopping := by
  cases hg with
  | ignored => exact h
  | skipped hb hr hs => exact .inl hs
  | stops hb hr hs hh => exact ⟨(plan_stop hr d.state).trans (if_neg hs), hr⟩
  | stopsNothing => exact .inl rfl
  | restarts hb hr | starts hb hr | releases hb hr =>
    rw [h.begins hb hbusy] at hr
    cases hr
  | cut ht =>
    have hs : d.state = .failed := by simpa only [Fits, ht] using hf
    exact .inr hs
  | started ht =>
    simp only [Fits, ht] at hf
    rcases hf.2.2 with ha | ha <;> simp [(h.calling ht).1] at ha
  | stopped => exact .inl rfl
  | restopped ht ha => simp [(h.calling ht).1] at ha
  | released ht =>
    simp only [Fits, ht] at hf
    simp [(h.calling ht).1] at hf
  | retries ht hf' hg => exact (h.calling ht).2
  | givesUp => exact .inr rfl

end Dispatcher

namespace Pipeline

/-- What holds at every moment of every run: the dispatcher is busy only in its loop or with the stop
at its end, and after a stop at the end the service is down or has failed. -/
structure Ordered (p : Pipeline) : Prop where
  fits : p.loop.dispatcher.Fits
  paired : p.Paired
  busy : p.loop.dispatcher.task ≠ .idle → p.loop.stage = .serving ∨ p.loop.stage = .stopping
  stopping : p.loop.stage = .stopping → p.loop.dispatcher.Stopping
  down : p.coalescing ≠ .unstarted → p.loop.stopAtEnd →
    p.loop.stage = .draining ∨ p.loop.stage = .ended →
    p.loop.dispatcher.state = .stopped ∨ p.loop.dispatcher.state = .failed

theorem ordered_fresh (c : Config) (observers : Observers) : (fresh c observers).Ordered :=
  ⟨fits_fresh c observers, paired_fresh c observers, nofun, nofun, nofun⟩

section
variable {p p' : Pipeline} {moved : Moved} {now : Time} {m : Move}

theorem Ordered.same (h : p.Ordered) (hp : p'.Paired)
    (hd : p'.loop.dispatcher = p.loop.dispatcher) (hst : p'.loop.stage = p.loop.stage)
    (ha : p'.loop.stopAtEnd = p.loop.stopAtEnd)
    (hc : p'.coalescing ≠ .unstarted → p.coalescing ≠ .unstarted) : p'.Ordered where
  fits := hd ▸ h.fits
  paired := hp
  busy := hd ▸ hst ▸ h.busy
  stopping := hd ▸ hst ▸ h.stopping
  down := fun hun hs he => hd ▸ h.down (hc hun) (ha ▸ hs) (hst ▸ he)

theorem Ordered.step (h : p.Ordered) (hs : p.step? now m = some moved) :
    moved.pipeline.Ordered := by
  have hp := h.paired.step hs
  have hf := fits_step h.fits hs
  have hc := (step?_frame hs).coalescing
  cases m with
  | start =>
    simp only [step?, Option.ite_none_right_eq_some] at hs
    obtain rfl := Option.some.inj hs.2
    exact ⟨hf, hp, fun _ => .inl rfl, fun hst => (by cases hst), by simp [quiet]⟩
  | abandon =>
    simp only [step?, Option.ite_none_right_eq_some] at hs
    obtain ⟨hcan, hs⟩ := hs
    obtain rfl := Option.some.inj hs
    have hst : p.loop.stage = .unstarted := of_decide_eq_true hcan
    refine ⟨hf, hp, fun hbusy => ?_, fun hst' => (by cases hst'), fun hun => ?_⟩
    · rcases h.busy hbusy with hst' | hst' <;> cases hst.symm.trans hst'
    · exact absurd (h.paired.resolve_right fun hne => hne hst) hun
  | drained =>
    simp only [step?, Option.ite_none_right_eq_some, Bool.and_eq_true, decide_eq_true_iff] at hs
    obtain ⟨⟨hst, -⟩, hs⟩ := hs
    obtain rfl := Option.some.inj hs
    refine ⟨hf, hp, fun hbusy => ?_, fun hst' => (by cases hst'),
      fun hun ha _ => h.down hun ha (.inl hst)⟩
    rcases h.busy hbusy with hst' | hst' <;> cases hst.symm.trans hst'
  | serve =>
    obtain ⟨⟨l, effects⟩, hl, rfl⟩ := Option.map_eq_some_iff.mp hs
    have hst : l.stage = .serving := (DispatchLoop.serve?_stage hl).2
    refine ⟨hf, hp, fun _ => .inl hst, fun hst' => ?_, fun _ _ he => ?_⟩
    · cases hst.symm.trans hst'
    · rcases he with he | he <;> cases hst.symm.trans he
  | signal s =>
    obtain ⟨hbusy, -, ht⟩ := step?_signal_turned hs
    obtain ⟨⟨l, effects⟩, hl, rfl⟩ := Option.map_eq_some_iff.mp hs
    have hst : l.stage = p.loop.stage := (DispatchLoop.signal?_stage hl).1
    have hloop := h.busy hbusy
    refine ⟨hf, hp, fun _ => ?_, fun hst' => ?_, fun _ _ he => ?_⟩
    · change l.stage = _ ∨ l.stage = _
      rwa [hst]
    · exact (ht.goes h.fits).stopping h.fits (h.stopping (hst.symm.trans hst')) hbusy
    · change l.stage = _ ∨ l.stage = _ at he
      rw [hst] at he
      rcases hloop with hs | hs <;> rcases he with he | he <;> cases hs.symm.trans he
  | leave =>
    obtain ⟨hidle, ⟨hst, -, -, hst', ht⟩ | ⟨hdown, hl, -⟩⟩ := step?_leave_turned hs
    · refine ⟨hf, hp, fun _ => .inr hst', fun _ => ?_, fun _ _ he => ?_⟩
      · exact (ht.goes h.fits).stopping_of_request rfl hidle
      · rcases he with he | he <;> cases hst'.symm.trans he
    · refine ⟨hf, hp, ?_, ?_, fun hun ha _ => ?_⟩
      · rw [hl]
        exact fun hbusy => absurd hidle hbusy
      · rw [hl]
        exact fun hst => by cases hst
      · rw [hl] at ha ⊢
        obtain ⟨⟨l, effects⟩, hl', -⟩ := Option.map_eq_some_iff.mp hs
        rcases (DispatchLoop.leave?_stage hl').1 with ⟨hserving, -⟩ | hstopping
        · have hd := hdown hserving ha
          simp only [Dispatcher.isDown, Bool.and_eq_true, decide_eq_true_iff] at hd
          exact .inl hd.1
        · exact (h.stopping hstopping).idle hidle
  | endCoalescing =>
    have hrunning : p.coalescing ≠ .unstarted := by
      intro hun
      simp [step?, hun] at hs
    obtain ⟨slot, hl⟩ := step?_loop rfl hs
    exact h.same hp (by rw [hl]) (by rw [hl]) (by rw [hl]) fun _ => hrunning
  | _ =>
    obtain ⟨slot, hl⟩ := step?_loop rfl hs
    exact h.same hp (by rw [hl]) (by rw [hl]) (by rw [hl]) fun hun he => hun (hc.trans he)

theorem Ordered.run (h : p.Ordered) (moves : List (Time × Move)) : (p.run moves).Ordered :=
  run_preserves Ordered.step h moves

/-- Both halves are at their ends: nothing is taken in and nothing is dispatched. -/
structure Over (p : Pipeline) : Prop where
  idle : p.loop.dispatcher.task = .idle
  ended : p.loop.stage = .ended
  closed : p.queue.closed

theorem Over.step (h : p.Over) (hs : p.step? now m = some moved) :
    moved.pipeline.Over ∧ p.Idles moved := by
  have hclosed := step?_queue_closed h.closed hs
  cases m with
  | start | abandon => simp [step?, canStart, h.ended] at hs
  | drained => simp [step?, h.ended] at hs
  | serve =>
    obtain ⟨⟨l, effects⟩, hl, rfl⟩ := Option.map_eq_some_iff.mp hs
    cases h.ended.symm.trans (DispatchLoop.serve?_stage hl).1
  | signal s => exact absurd h.idle (step?_signal_turned hs).1
  | leave =>
    obtain ⟨⟨l, effects⟩, hl, rfl⟩ := Option.map_eq_some_iff.mp hs
    rcases (DispatchLoop.leave?_stage hl).1 with ⟨hst, -⟩ | hst <;> cases h.ended.symm.trans hst
  | _ =>
    obtain ⟨slot, hl⟩ := step?_loop rfl hs
    refine ⟨⟨?_, ?_, hclosed⟩, step?_idles rfl hs⟩
    · rw [hl]
      exact h.idle
    · rw [hl]
      exact h.ended

/-- Nothing waits for the dispatcher, and nothing will. -/
structure Sealed (p : Pipeline) : Prop where
  closed : p.loop.slot.closed
  empty : p.loop.slot.pending = none

theorem Sealed.step (h : p.Sealed) (hs : p.step? now m = some moved) : moved.pipeline.Sealed := by
  obtain ⟨hc, hp⟩ := step?_slot_of_closed h.closed hs
  refine ⟨hc, ?_⟩
  rcases hp with hp | hp
  · exact hp.trans h.empty
  · exact hp

private theorem Sealed.not_begins (h : p.Sealed) (ha : p.loop.stopAtEnd = false)
    (hs : p.step? now m = some moved) : Made.begins ⟨p, now, m, moved⟩ = false := by
  cases m with
  | serve =>
    obtain ⟨r, hp, -⟩ := step?_serve hs
    cases h.empty.symm.trans hp
  | leave =>
    obtain ⟨-, ⟨-, hstop, -⟩ | ⟨-, hl, -⟩⟩ := step?_leave_turned hs
    · rw [ha] at hstop
      cases hstop
    · simp [Made.after, hl]
  | _ => rfl

theorem Sealed.run (h : p.Sealed) (ha : p.loop.stopAtEnd = false) (moves : List (Time × Move)) :
    ∀ s ∈ p.history moves, s.begins = false := by
  induction moves generalizing p with
  | nil => exact fun s hs => absurd hs List.not_mem_nil
  | cons head rest ih =>
    obtain ⟨now, m⟩ := head
    simp only [history]
    cases hs : p.step? now m with
    | none => exact ih h ha
    | some moved =>
      intro s hsm
      rcases List.mem_cons.mp hsm with rfl | hsm
      · exact h.not_begins ha hs
      · exact ih (h.step hs) ((step?_frame hs).stopAtEnd.trans ha) s hsm

/-- No dispatch is under way, and none begins any more. -/
structure Quiet (p : Pipeline) : Prop extends Sealed p where
  idle : p.loop.dispatcher.task = .idle
  stays : p.loop.stopAtEnd = false

theorem Quiet.step (h : p.Quiet) (hs : p.step? now m = some moved) :
    moved.pipeline.Quiet ∧ p.Idles moved := by
  have hi : p.Idles moved := by
    cases m with
    | serve =>
      obtain ⟨r, hp, -⟩ := step?_serve hs
      cases h.empty.symm.trans hp
    | signal s => exact absurd h.idle (step?_signal_turned hs).1
    | leave =>
      obtain ⟨-, ⟨-, hstop, -⟩ | ⟨-, hl, he, -⟩⟩ := step?_leave_turned hs
      · rw [h.stays] at hstop
        cases hstop
      · exact ⟨by rw [hl], he⟩
    | _ => exact step?_idles rfl hs
  refine ⟨{ h.toSealed.step hs with idle := ?_, stays := ?_ }, hi⟩
  · rw [hi.dispatcher]
    exact h.idle
  · rw [(step?_frame hs).stopAtEnd]
    exact h.stays

/-- Where the dispatcher has no part in any move, it does nothing in a run. -/
theorem idles_run {P : Pipeline → Prop}
    (step : ∀ {p : Pipeline} {now : Time} {m : Move} {moved : Moved}, P p →
      p.step? now m = some moved → P moved.pipeline ∧ p.Idles moved)
    (h : P p) (moves : List (Time × Move)) :
    P (p.run moves) ∧ (p.run moves).loop.dispatcher = p.loop.dispatcher ∧
      p.effects moves = [] := by
  induction moves generalizing p with
  | nil => exact ⟨h, rfl, rfl⟩
  | cons head rest ih =>
    obtain ⟨now, m⟩ := head
    simp only [Pipeline.run, effects, history]
    cases hs : p.step? now m with
    | none => exact ih h
    | some moved =>
      obtain ⟨hp, hi⟩ := step h hs
      obtain ⟨hend, hd, he⟩ := ih hp
      refine ⟨hend, hd.trans hi.dispatcher, ?_⟩
      rw [List.flatMap_cons, hi.effects]
      exact he

theorem run_cons (p : Pipeline) (head : Time × Move) (rest : List (Time × Move)) :
    p.run (head :: rest) = (p.run [head]).run rest := p.run_append [head] rest

theorem exists_during (p : Pipeline) (moves : List (Time × Move))
    (hi : (p.run moves).loop.dispatcher.isIdle) :
    ∃ during after, moves = during ++ after ∧ (p.run during).loop.dispatcher.isIdle ∧
      ∀ k < during.length, (p.run (during.take k)).loop.dispatcher.isIdle = false := by
  induction moves generalizing p with
  | nil => exact ⟨[], [], rfl, hi, nofun⟩
  | cons head rest ih =>
    by_cases hidle : p.loop.dispatcher.isIdle
    · exact ⟨[], head :: rest, rfl, hidle, nofun⟩
    · rw [run_cons] at hi
      obtain ⟨during, after, rfl, hd, hbusy⟩ := ih _ hi
      refine ⟨head :: during, after, rfl, ?_, fun k hk => ?_⟩
      · rw [run_cons]
        exact hd
      · cases k with
        | zero => exact Bool.eq_false_of_not_eq_true hidle
        | succ k =>
          rw [List.take_succ_cons, run_cons]
          exact hbusy k (Nat.lt_of_succ_lt_succ hk)

end

end Pipeline
end RestartCoordinator
