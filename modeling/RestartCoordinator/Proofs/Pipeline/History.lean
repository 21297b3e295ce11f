import RestartCoordinator.Proofs.Dispatcher.Reports
import RestartCoordinator.Proofs.Pipeline.Stages
/-!
# The history of a run

The moves of a run that could be made, each with the pipeline before and after it. The dispatcher
has a part in three of them: it is given a request, or the signal it waits for, or it leaves its
loop. In all others it does nothing.
-/
namespace RestartCoordinator

/-- A move that was made. -/
structure Made where
  before : Pipeline
  time : Time
  move : Move
  moved : Moved

def Made.after (s : Made) : Pipeline := s.moved.pipeline

namespace Pipeline

def history (p : Pipeline) : List (Time × Move) → List Made
  | [] => []
  | (now, m) :: rest =>
    match p.step? now m with
    | some moved => ⟨p, now, m, moved⟩ :: history moved.pipeline rest
    | none => history p rest

/-- What the dispatcher does in a run. -/
def effects (p : Pipeline) (moves : List (Time × Move)) : List Effect :=
  (p.history moves).flatMap (·.moved.effects)

section
variable {p : Pipeline} {moved : Moved} {now : Time} {m : Move}

theorem run_append (p : Pipeline) (before after : List (Time × Move)) :
    p.run (before ++ after) = (p.run before).run after := by
  induction before generalizing p with
  | nil => rfl
  | cons head rest ih =>
    simp only [List.cons_append, Pipeline.run]
    cases hs : p.step? head.1 head.2 with
    | none => exact ih p
    | some moved => exact ih moved.pipeline

/-- The dispatcher takes a turn in the move, which is counted and published. -/
structure Turned (p : Pipeline) (now : Time) (s : Signal) (moved : Moved) : Prop where
  awaits : p.loop.dispatcher.awaits s
  turn : (moved.pipeline.loop.dispatcher, moved.effects) = p.loop.dispatcher.turn now s
  tally : moved.pipeline.tally =
    (moved.effects.filterMap Effect.occurrence?).foldl Tally.record p.tally
  events : moved.events = moved.effects.filterMap Effect.event?
  debouncer : moved.pipeline.debouncer = p.debouncer
  cancelled : moved.pipeline.cancelled = p.cancelled

/-- The dispatcher has no part in the move. -/
structure Idles (p : Pipeline) (moved : Moved) : Prop where
  dispatcher : moved.pipeline.loop.dispatcher = p.loop.dispatcher
  effects : moved.effects = []

theorem step?_serve_turned (hs : p.step? now .serve = some moved) :
    ∃ r, p.loop.slot.pending = some r ∧ p.loop.dispatcher.task = .idle ∧
      p.Turned now (.request r) moved := by
  obtain ⟨⟨l, effects⟩, hl, rfl⟩ := Option.map_eq_some_iff.mp hs
  obtain ⟨r, hp, hidle, ht⟩ := DispatchLoop.serve?_turn hl
  have hturn : (l.dispatcher, effects) = p.loop.dispatcher.turn now (.request r) :=
    DispatchLoop.dispatcher_turn (l := { p.loop with slot := p.loop.slot.take.2 }) ht
  refine ⟨r, hp, hidle, ?_, hturn, rfl, rfl, rfl, rfl⟩
  simp [Dispatcher.awaits, hidle]

theorem step?_signal_turned {s : Signal} (hs : p.step? now (.signal s) = some moved) :
    p.loop.dispatcher.task ≠ .idle ∧ (s = .stopWanted → p.loop.slot.wantsStop) ∧
      p.Turned now s moved := by
  obtain ⟨⟨l, effects⟩, hl, rfl⟩ := Option.map_eq_some_iff.mp hs
  obtain ⟨ha, hw, hbusy⟩ := DispatchLoop.signal?_cases hl
  exact ⟨hbusy, hw, ha, DispatchLoop.dispatcher_turn (DispatchLoop.signal?_turn hl), rfl, rfl, rfl,
    rfl⟩

theorem step?_leave_turned (hs : p.step? now .leave = some moved) :
    p.loop.dispatcher.task = .idle ∧
      ((p.loop.stage = .serving ∧ p.loop.stopAtEnd ∧ p.loop.dispatcher.isDown = false ∧
          moved.pipeline.loop.stage = .stopping ∧
          p.Turned now (.request (Dispatcher.shutdownRequest p.nextId now)) moved) ∨
        ((p.loop.stage = .serving → p.loop.stopAtEnd → p.loop.dispatcher.isDown) ∧
          moved.pipeline.loop = { p.loop with stage := .draining } ∧ moved.effects = [] ∧
          moved.pipeline.tally = p.tally ∧ moved.events = [])) := by
  obtain ⟨⟨l, effects⟩, hl, rfl⟩ := Option.map_eq_some_iff.mp hs
  obtain ⟨hidle, ⟨hc, ht⟩ | ⟨hc, rfl, rfl⟩⟩ := DispatchLoop.leave?_turn hl
  · simp only [Bool.and_eq_true, decide_eq_true_iff, Bool.not_eq_true'] at hc
    obtain ⟨⟨hst, hstop⟩, hdown⟩ := hc
    have hstage : l.stage = .stopping := by
      obtain ⟨rfl, -⟩ := Prod.mk.inj ht
      rfl
    have hturn : (l.dispatcher, effects) = p.loop.dispatcher.turn now
        (.request (Dispatcher.shutdownRequest p.nextId now)) :=
      DispatchLoop.dispatcher_turn (l := { p.loop with stage := .stopping }) ht
    refine ⟨hidle, .inl ⟨hst, hstop, hdown, hstage, ?_, hturn, rfl, rfl, rfl, rfl⟩⟩
    simp [Dispatcher.awaits, hidle]
  · refine ⟨hidle, .inr ⟨fun hst hstop => ?_, rfl, rfl, rfl, rfl⟩⟩
    simpa [hst, hstop] using hc

theorem step?_idles (hm : m.turns = false) (hs : p.step? now m = some moved) :
    p.Idles moved := by
  cases m with
  | submit t =>
    simp only [step?, submit] at hs
    cases hq : p.queue.submit t with
    | error f => simp [hq, bind, Except.bind, Except.toOption] at hs
    | ok answer =>
      simp only [hq, bind, Except.bind, pure, Except.pure, Except.toOption, Option.map_some] at hs
      obtain rfl := Option.some.inj hs
      exact ⟨rfl, rfl⟩
  | flush =>
    obtain ⟨w, -, -, rfl⟩ := step?_flush_eq hs
    exact ⟨by simp [count], by simp⟩
  | fold =>
    obtain ⟨-, t, queue, -, ⟨-, rfl⟩ | ⟨-, -, rfl⟩ | ⟨-, w, -, rfl⟩⟩ := step?_fold_eq hs
    · exact ⟨by simp [count], by simp⟩
    · exact ⟨rfl, rfl⟩
    · exact ⟨rfl, rfl⟩
  | start | endCoalescing | drained | abandon =>
    simp only [step?, Option.ite_none_right_eq_some] at hs
    obtain rfl := Option.some.inj hs.2
    exact ⟨rfl, rfl⟩
  | observe index =>
    obtain ⟨observers, -, rfl⟩ := Option.map_eq_some_iff.mp hs
    exact ⟨rfl, rfl⟩
  | closeQueue | closeSlot =>
    obtain rfl := Option.some.inj hs
    exact ⟨rfl, rfl⟩
  | serve | signal | leave => cases hm

theorem step?_dispatcher (hs : p.step? now m = some moved) :
    (∃ s, p.Turned now s moved) ∨ p.Idles moved := by
  cases m with
  | serve =>
    obtain ⟨r, -, -, ht⟩ := step?_serve_turned hs
    exact .inl ⟨_, ht⟩
  | signal s => exact .inl ⟨s, (step?_signal_turned hs).2.2⟩
  | leave =>
    obtain ⟨-, ⟨-, -, -, -, ht⟩ | ⟨-, hl, he, -⟩⟩ := step?_leave_turned hs
    · exact .inl ⟨_, ht⟩
    · exact .inr ⟨by rw [hl], he⟩
  | _ => exact .inr (step?_idles rfl hs)

theorem Turned.goes {s : Signal} (h : p.Turned now s moved) (hf : p.loop.dispatcher.Fits) :
    p.loop.dispatcher.Goes now s moved.pipeline.loop.dispatcher moved.effects := by
  have hg := hf.goes now s
  rwa [← h.turn] at hg

theorem fits_fresh (c : Config) (observers : Observers) :
    (fresh c observers).loop.dispatcher.Fits :=
  DispatchLoop.new_fits c.dispatch.timeout c.dispatch.policy c.coordinator.stopOnShutdown

theorem fits_step (h : p.loop.dispatcher.Fits) (hs : p.step? now m = some moved) :
    moved.pipeline.loop.dispatcher.Fits := by
  obtain ⟨s, ht⟩ | hi := step?_dispatcher hs
  · exact (ht.goes h).fits h
  · exact hi.dispatcher ▸ h

end

end Pipeline
end RestartCoordinator
