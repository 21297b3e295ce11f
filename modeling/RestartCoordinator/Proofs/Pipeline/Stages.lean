import RestartCoordinator.Proofs.PendingSlot.Histories
import RestartCoordinator.Proofs.Pipeline.Shutdown
/-!
# The stages of the pipeline

Both halves of the pipeline begin together and once. The half from the queue to the slot ends for
good; so does the dispatcher's, which may also be given up before it begins.
-/
namespace RestartCoordinator

/-- The stage of the work from queue to slot after a move that was made. -/
def CoalescingStage.after (s : CoalescingStage) : Move → CoalescingStage
  | .start => .running
  | .endCoalescing => .ended
  | _ => s

def Move.closesQueue : Move → Bool
  | .closeQueue => true
  | _ => false

/-- The move takes the dispatcher's loop on; the others change its slot at most. -/
def Move.drives : Move → Bool
  | .start | .serve | .signal _ | .leave | .drained | .abandon => true
  | _ => false

/-- With the move the dispatcher may take a turn. -/
def Move.turns : Move → Bool
  | .serve | .signal _ | .leave => true
  | _ => false

private theorem PendingSlot.closed_offer (s : PendingSlot) (r : Request) :
    (s.offer r).2.closed = s.closed := by
  unfold PendingSlot.offer
  split <;> rfl

namespace Pipeline

variable {p : Pipeline} {moved : Moved} {now : Time} {m : Move}

/-- A new pipeline to which observers were added. -/
def fresh (c : Config) (observers : Observers) : Pipeline := { new c with observers }

/-- What every step preserves holds after a run. -/
theorem run_preserves {P : Pipeline → Prop}
    (step : ∀ {p : Pipeline} {now : Time} {m : Move} {moved : Moved}, P p →
      p.step? now m = some moved → P moved.pipeline)
    (h : P p) (moves : List (Time × Move)) : P (p.run moves) := by
  induction moves generalizing p with
  | nil => exact h
  | cons head rest ih =>
    simp only [run]
    cases hs : p.step? head.1 head.2 with
    | none => exact ih h
    | some moved => exact ih (step h hs)

/-- What a step does to both halves, whatever passes through them. -/
structure Frame (p : Pipeline) (m : Move) (p' : Pipeline) : Prop where
  coalescing : p'.coalescing = p.coalescing.after m
  cancelled : p'.cancelled = (p.cancelled || m.closesQueue)
  queue_closed : p'.queue.closed = (p.queue.closed || m.closesQueue)
  stopAtEnd : p'.loop.stopAtEnd = p.loop.stopAtEnd
  slot : p'.loop.slot = p.loop.slot ∨ (∃ r, p'.loop.slot = (p.loop.slot.offer r).2) ∨
    p'.loop.slot = p.loop.slot.take.2 ∨ m = .closeSlot ∧ p'.loop.slot = p.loop.slot.close.2

theorem step?_frame (hs : p.step? now m = some moved) : p.Frame m moved.pipeline := by
  have kept (b : Bool) : b = (b || false) := (Bool.or_false b).symm
  cases m with
  | submit t =>
    obtain ⟨s, q, hq, hp⟩ := step?_submit hs
    obtain ⟨hopen, -, hopen', -⟩ := TriggerQueue.submit_eq_ok hq
    rw [hp]
    exact ⟨rfl, kept _, by rw [hopen, hopen']; rfl, rfl, .inl rfl⟩
  | flush =>
    obtain ⟨w, -, -, rfl⟩ := step?_flush_eq hs
    constructor
    case slot => exact .inr (.inl ⟨_, by rw [handOff_loop]; rfl⟩)
    all_goals simp [count, CoalescingStage.after, Move.closesQueue]
  | fold =>
    obtain ⟨-, t, queue, ht, hm⟩ := step?_fold_eq hs
    obtain ⟨lanes, rfl⟩ := TriggerQueue.take?_frame ht
    rcases hm with ⟨-, rfl⟩ | ⟨-, -, rfl⟩ | ⟨-, w, -, rfl⟩
    · constructor
      case slot => exact .inr (.inl ⟨_, by rw [handOff_loop]; rfl⟩)
      all_goals simp [count, CoalescingStage.after, Move.closesQueue]
    · exact ⟨rfl, kept _, kept _, rfl, .inl rfl⟩
    · exact ⟨rfl, kept _, kept _, rfl, .inl rfl⟩
  | start | endCoalescing | drained | abandon =>
    simp only [step?, Option.ite_none_right_eq_some] at hs
    obtain rfl := Option.some.inj hs.2
    exact ⟨rfl, kept _, kept _, rfl, .inl rfl⟩
  | serve =>
    obtain ⟨⟨l, effects⟩, hl, rfl⟩ := Option.map_eq_some_iff.mp hs
    obtain ⟨r, -, -, ht⟩ := DispatchLoop.serve?_turn hl
    obtain ⟨rfl, -⟩ := Prod.mk.inj ht
    exact ⟨rfl, kept _, kept _, rfl, .inr (.inr (.inl rfl))⟩
  | signal s =>
    obtain ⟨⟨l, effects⟩, hl, rfl⟩ := Option.map_eq_some_iff.mp hs
    obtain ⟨rfl, -⟩ := Prod.mk.inj (DispatchLoop.signal?_turn hl)
    exact ⟨rfl, kept _, kept _, rfl, .inl rfl⟩
  | leave =>
    obtain ⟨⟨l, effects⟩, hl, rfl⟩ := Option.map_eq_some_iff.mp hs
    obtain ⟨-, ⟨-, ht⟩ | ⟨-, rfl, -⟩⟩ := DispatchLoop.leave?_turn hl
    · obtain ⟨rfl, -⟩ := Prod.mk.inj ht
      exact ⟨rfl, kept _, kept _, rfl, .inl rfl⟩
    · exact ⟨rfl, kept _, kept _, rfl, .inl rfl⟩
  | observe index =>
    obtain ⟨observers, -, rfl⟩ := Option.map_eq_some_iff.mp hs
    exact ⟨rfl, kept _, kept _, rfl, .inl rfl⟩
  | closeQueue =>
    obtain rfl := Option.some.inj hs
    exact ⟨rfl, (Bool.or_true _).symm, (Bool.or_true _).symm, rfl, .inl rfl⟩
  | closeSlot =>
    obtain rfl := Option.some.inj hs
    exact ⟨rfl, kept _, kept _, rfl, .inr (.inr (.inr ⟨rfl, rfl⟩))⟩

theorem step?_cancelled (hc : p.cancelled) (hs : p.step? now m = some moved) :
    moved.pipeline.cancelled := by
  rw [(step?_frame hs).cancelled, hc, Bool.true_or]

theorem step?_queue_closed (hc : p.queue.closed) (hs : p.step? now m = some moved) :
    moved.pipeline.queue.closed := by
  rw [(step?_frame hs).queue_closed, hc, Bool.true_or]

theorem step?_slot_closed (hm : m ≠ .closeSlot) (hs : p.step? now m = some moved) :
    moved.pipeline.loop.slot.closed = p.loop.slot.closed := by
  rcases (step?_frame hs).slot with hslot | ⟨r, hslot⟩ | hslot | ⟨hclose, -⟩
  · rw [hslot]
  · rw [hslot, PendingSlot.closed_offer]
  · rw [hslot]
    rfl
  · contradiction

theorem step?_slot_of_closed (hc : p.loop.slot.closed) (hs : p.step? now m = some moved) :
    moved.pipeline.loop.slot.closed ∧
      (moved.pipeline.loop.slot.pending = p.loop.slot.pending ∨
        moved.pipeline.loop.slot.pending = none) := by
  rcases (step?_frame hs).slot with hslot | ⟨r, hslot⟩ | hslot | ⟨-, hslot⟩
  · rw [hslot]
    exact ⟨hc, .inl rfl⟩
  · rw [hslot, PendingSlot.offer_of_closed hc]
    exact ⟨hc, .inl rfl⟩
  · rw [hslot]
    exact ⟨hc, .inr rfl⟩
  · rw [hslot]
    refine ⟨rfl, ?_⟩
    unfold PendingSlot.close
    dsimp only
    split
    · exact .inl rfl
    · exact .inr rfl

theorem stopAtEnd_run (p : Pipeline) (moves : List (Time × Move)) :
    (p.run moves).loop.stopAtEnd = p.loop.stopAtEnd :=
  run_preserves (P := fun q => q.loop.stopAtEnd = p.loop.stopAtEnd)
    (fun h hs => (step?_frame hs).stopAtEnd.trans h) rfl moves

theorem slot_closed_run (hc : p.loop.slot.closed) (moves : List (Time × Move)) :
    (p.run moves).loop.slot.closed :=
  run_preserves (P := fun q => q.loop.slot.closed)
    (fun hc hs => (step?_slot_of_closed hc hs).1) hc moves

theorem step?_loop (hm : m.drives = false) (hs : p.step? now m = some moved) :
    ∃ slot, moved.pipeline.loop = { p.loop with slot } := by
  cases m with
  | submit t =>
    obtain ⟨s, q, -, hp⟩ := step?_submit hs
    exact ⟨_, by rw [hp]⟩
  | flush =>
    obtain ⟨-, r, -, -, -, hl⟩ := step?_flush hs
    exact ⟨_, hl⟩
  | fold =>
    obtain ⟨-, t, -, -, -, hl⟩ := step?_fold hs
    split at hl
    · exact ⟨_, hl⟩
    · exact ⟨p.loop.slot, hl⟩
  | endCoalescing =>
    obtain ⟨-, hp⟩ := step?_endCoalescing hs
    rw [hp]
    exact ⟨p.loop.slot, rfl⟩
  | observe index =>
    obtain ⟨observers, -, rfl⟩ := Option.map_eq_some_iff.mp hs
    exact ⟨p.loop.slot, rfl⟩
  | closeQueue | closeSlot =>
    obtain rfl := Option.some.inj hs
    exact ⟨_, rfl⟩
  | start | serve | signal | leave | drained | abandon => cases hm

/-- Where a step takes the dispatcher's loop: it begins, leaves serving or its last stop behind, or
ends, with observers that are through or before it has begun. -/
inductive Advance (p p' : Pipeline) : Prop
  | stays (same : p'.loop.stage = p.loop.stage)
  | starts (before : p.loop.stage = .unstarted) (after : p'.loop.stage = .serving)
  | leaves (before : p.loop.stage = .serving ∨ p.loop.stage = .stopping)
      (after : p'.loop.stage = .stopping ∨ p'.loop.stage = .draining)
  | ends (before : p.loop.stage = .unstarted ∨ p.loop.stage = .draining ∧ p.observers.isDrained)
      (observers : p'.observers = p.observers) (after : p'.loop.stage = .ended)

theorem step?_stage (hs : p.step? now m = some moved) : p.Advance moved.pipeline := by
  cases m with
  | start =>
    simp only [step?, Option.ite_none_right_eq_some] at hs
    obtain ⟨hcan, hs⟩ := hs
    obtain rfl := Option.some.inj hs
    exact .starts (of_decide_eq_true hcan) rfl
  | serve =>
    obtain ⟨⟨l, effects⟩, hl, rfl⟩ := Option.map_eq_some_iff.mp hs
    obtain ⟨hst, hst'⟩ := DispatchLoop.serve?_stage hl
    exact .stays (hst'.trans hst.symm)
  | signal s =>
    obtain ⟨⟨l, effects⟩, hl, rfl⟩ := Option.map_eq_some_iff.mp hs
    exact .stays (DispatchLoop.signal?_stage hl).1
  | leave =>
    obtain ⟨⟨l, effects⟩, hl, rfl⟩ := Option.map_eq_some_iff.mp hs
    have before := (DispatchLoop.leave?_stage hl).1.imp_left And.left
    obtain ⟨-, ⟨-, ht⟩ | ⟨-, rfl, -⟩⟩ := DispatchLoop.leave?_turn hl
    · obtain ⟨rfl, -⟩ := Prod.mk.inj ht
      exact .leaves before (.inl rfl)
    · exact .leaves before (.inr rfl)
  | drained =>
    simp only [step?, Option.ite_none_right_eq_some, Bool.and_eq_true, decide_eq_true_iff] at hs
    obtain ⟨before, hs⟩ := hs
    obtain rfl := Option.some.inj hs
    exact .ends (.inr before) rfl rfl
  | abandon =>
    simp only [step?, Option.ite_none_right_eq_some] at hs
    obtain ⟨hcan, hs⟩ := hs
    obtain rfl := Option.some.inj hs
    exact .ends (.inl (of_decide_eq_true hcan)) rfl rfl
  | _ =>
    obtain ⟨slot, hl⟩ := step?_loop rfl hs
    exact .stays (by rw [hl])

theorem step?_started (h : p.loop.stage ≠ .unstarted) (hs : p.step? now m = some moved) :
    moved.pipeline.loop.stage ≠ .unstarted := by
  intro hun
  cases step?_stage hs with
  | stays hst => exact h (hst.symm.trans hun)
  | starts _ hst => cases hst.symm.trans hun
  | leaves _ hst => rcases hst with hst | hst <;> cases hst.symm.trans hun
  | ends _ _ hst => cases hst.symm.trans hun

theorem step?_stays_ended (he : p.loop.stage = .ended) (hs : p.step? now m = some moved) :
    moved.pipeline.loop.stage = .ended := by
  cases step?_stage hs with
  | stays hst => exact hst.trans he
  | starts hst => cases he.symm.trans hst
  | leaves hst => rcases hst with hst | hst <;> cases he.symm.trans hst
  | ends _ _ hst => exact hst

/-- The work from queue to slot does not begin before the dispatcher's. -/
def Paired (p : Pipeline) : Prop := p.coalescing = .unstarted ∨ p.loop.stage ≠ .unstarted

theorem paired_fresh (c : Config) (observers : Observers) : (fresh c observers).Paired := .inl rfl

theorem Paired.step (h : p.Paired) (hs : p.step? now m = some moved) : moved.pipeline.Paired := by
  by_cases hst : p.loop.stage = .unstarted
  · have hun : p.coalescing = .unstarted := h.resolve_right fun hne => hne hst
    have hc := (step?_frame hs).coalescing
    rw [hun] at hc
    cases m with
    | start =>
      simp only [step?, Option.ite_none_right_eq_some] at hs
      obtain rfl := Option.some.inj hs.2
      exact .inr fun hun => by cases hun
    | endCoalescing => simp [step?, hun] at hs
    | _ => exact .inl hc
  · exact .inr (step?_started hst hs)

theorem Paired.run (h : p.Paired) (moves : List (Time × Move)) : (p.run moves).Paired :=
  run_preserves Paired.step h moves

theorem Paired.coalescing_ended (h : p.Paired) (he : p.coalescing = .ended)
    (hs : p.step? now m = some moved) : moved.pipeline.coalescing = .ended := by
  have hst : p.loop.stage ≠ .unstarted := h.resolve_left fun hun => by cases he.symm.trans hun
  rw [(step?_frame hs).coalescing]
  cases m with
  | start => simp [step?, canStart, hst] at hs
  | endCoalescing => rfl
  | _ => exact he

end Pipeline
end RestartCoordinator
