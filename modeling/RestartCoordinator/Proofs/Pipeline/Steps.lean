import RestartCoordinator.Pipeline
import RestartCoordinator.Proofs.DispatchLoop.Runs
/-!
# The steps of the pipeline

What each step does to the queue, the window and the slot. A trigger enters the queue, goes from
there into the window or at once into a request, a request goes to the slot and from there to the
dispatcher. Every other step leaves the way of the triggers aside.
-/
namespace RestartCoordinator
namespace Pipeline

variable {p : Pipeline} {moved : Moved} {now : Time}

@[simp] theorem handOff_queue (p : Pipeline) (r : Request) (events : List Event) :
    (p.handOff r events).pipeline.queue = p.queue := by
  unfold handOff
  dsimp only
  split <;> rfl

@[simp] theorem handOff_debouncer (p : Pipeline) (r : Request) (events : List Event) :
    (p.handOff r events).pipeline.debouncer = p.debouncer := by
  unfold handOff
  dsimp only
  split <;> rfl

@[simp] theorem handOff_cancelled (p : Pipeline) (r : Request) (events : List Event) :
    (p.handOff r events).pipeline.cancelled = p.cancelled := by
  unfold handOff
  dsimp only
  split <;> rfl

@[simp] theorem handOff_coalescing (p : Pipeline) (r : Request) (events : List Event) :
    (p.handOff r events).pipeline.coalescing = p.coalescing := by
  unfold handOff
  dsimp only
  split <;> rfl

@[simp] theorem handOff_loop (p : Pipeline) (r : Request) (events : List Event) :
    (p.handOff r events).pipeline.loop = { p.loop with slot := (p.loop.slot.offer r).2 } := by
  unfold handOff
  dsimp only
  split <;> rfl

@[simp] theorem handOff_observers (p : Pipeline) (r : Request) (events : List Event) :
    (p.handOff r events).pipeline.observers = p.observers := by
  unfold handOff
  dsimp only
  split <;> rfl

@[simp] theorem handOff_effects (p : Pipeline) (r : Request) (events : List Event) :
    (p.handOff r events).effects = [] := by
  unfold handOff
  dsimp only
  split <;> rfl

theorem handOff_tally (p : Pipeline) (r : Request) (events : List Event)
    (ho : p.loop.slot.closed = false) :
    (p.handOff r events).pipeline.tally =
      { p.tally with
        requestsMerged := p.tally.requestsMerged + p.loop.slot.pending.toList.length } := by
  unfold handOff
  dsimp only
  cases hp : p.loop.slot.pending with
  | none =>
    have hoffer : (p.loop.slot.offer r).1 = .queued := by
      simp [PendingSlot.offer, ho, PendingSlot.isEmpty, hp]
    rw [hoffer]
    rfl
  | some waiting =>
    have hoffer : (p.loop.slot.offer r).1 = .merged := by
      simp [PendingSlot.offer, ho, PendingSlot.isEmpty, hp]
    rw [hoffer]
    rfl

theorem handOff_events (p : Pipeline) (r : Request) (events : List Event) :
    (p.handOff r events).events = events ∨
      (p.handOff r events).events = events ++ [.requestMerged r.id] := by
  unfold handOff
  dsimp only
  split
  · exact .inr rfl
  · exact .inl rfl

theorem step?_submit {t : Trigger} (h : p.step? now (.submit t) = some moved) :
    ∃ s q, p.queue.submit t = .ok (s, q) ∧ moved.pipeline = { p with queue := q } := by
  simp only [step?, submit] at h
  cases hs : p.queue.submit t with
  | error f => simp [hs, bind, Except.bind, Except.toOption] at h
  | ok answer =>
    obtain ⟨s, q⟩ := answer
    simp only [hs, bind, Except.bind, pure, Except.pure, Except.toOption, Option.map_some] at h
    obtain rfl := Option.some.inj h
    exact ⟨s, q, rfl, rfl⟩

theorem step?_flush (h : p.step? now .flush = some moved) :
    p.canCoalesce ∧ ∃ r, p.debouncer.closeIfDue p.nextId now = (some r, moved.pipeline.debouncer) ∧
      moved.pipeline.queue = p.queue ∧ moved.pipeline.cancelled = p.cancelled ∧
      moved.pipeline.loop = { p.loop with slot := (p.loop.slot.offer r).2 } := by
  simp only [step?, Option.ite_none_right_eq_some] at h
  obtain ⟨hc, h⟩ := h
  refine ⟨hc, ?_⟩
  unfold flush? at h
  split at h
  · rename_i r d hd
    obtain rfl := Option.some.inj h
    exact ⟨r, by simpa [count] using hd, by simp [count]⟩
  · cases h

theorem step?_flush_eq (h : p.step? now .flush = some moved) :
    ∃ w, p.debouncer.window = some w ∧ w.deadline ≤ now ∧
      moved = ({ p with
          debouncer := { p.debouncer with window := none }
          serial := p.serial + 1 }.count .requestCoalesced).handOff
        ⟨p.nextId, w.reasons, w.command, [], w.start, now⟩
        [.windowClosed p.nextId w.reasons.length] := by
  simp only [step?, Option.ite_none_right_eq_some, flush?, Debouncer.closeIfDue] at h
  obtain ⟨-, h⟩ := h
  cases hw : p.debouncer.window with
  | none => simp [Debouncer.isDue, Debouncer.deadline, hw] at h
  | some w =>
    by_cases hd : w.deadline ≤ now
    · simp only [Debouncer.isDue, Debouncer.deadline, hw, Option.map_some, Option.any_some, hd,
        decide_true, ↓reduceIte, Debouncer.close] at h
      exact ⟨w, rfl, hd, (Option.some.inj h).symm⟩
    · simp [Debouncer.isDue, Debouncer.deadline, hw, hd] at h

/-- A trigger becomes a request at once, or opens a window, or joins the one that is open. -/
theorem step?_fold_eq (h : p.step? now .fold = some moved) :
    p.debouncer.isDue now = false ∧ ∃ t queue, p.queue.take? = some (t, queue) ∧
      ((t.isStop ∧
          let voided := (p.debouncer.window.map (·.reasons)).getD []
          moved = ({ p with
              queue
              debouncer := { p.debouncer with window := none }
              serial := p.serial + 1 }.count .stopPreemption).handOff
            { Request.immediate p.nextId t now with superseded := voided }
            [.stopPreempted p.nextId voided.length]) ∨
        (t.isStop = false ∧ p.debouncer.window = none ∧
          let w : Window := ⟨now, now + p.debouncer.interval, [t.reason], t.command⟩
          moved = ({ p with
              queue
              debouncer := { p.debouncer with window := some w } }.count .windowOpened).quiet
            [.windowOpened t.reason]) ∨
        (t.isStop = false ∧ ∃ w, p.debouncer.window = some w ∧
          moved = { p with
              queue
              debouncer := { p.debouncer with
                window := some (p.debouncer.join w t now) } }.quiet [])) := by
  simp only [step?, Option.ite_none_right_eq_some, Bool.and_eq_true, Bool.not_eq_true'] at h
  obtain ⟨⟨-, hd⟩, h⟩ := h
  refine ⟨hd, ?_⟩
  unfold fold? at h
  cases ht : p.queue.take? with
  | none => simp [ht] at h
  | some taken =>
    obtain ⟨t, queue⟩ := taken
    refine ⟨t, queue, rfl, ?_⟩
    simp only [ht] at h
    cases hstop : t.isStop with
    | true =>
      simp only [Debouncer.fold, hstop, ↓reduceIte] at h
      exact .inl ⟨rfl, (Option.some.inj h).symm⟩
    | false =>
      cases hw : p.debouncer.window with
      | none =>
        simp only [Debouncer.fold, hstop, hw] at h
        exact .inr (.inl ⟨rfl, rfl, (Option.some.inj h).symm⟩)
      | some w =>
        simp only [Debouncer.fold, hstop, hw] at h
        exact .inr (.inr ⟨rfl, w, rfl, (Option.some.inj h).symm⟩)

theorem step?_fold (h : p.step? now .fold = some moved) :
    p.canCoalesce ∧ ∃ t, p.queue.take? = some (t, moved.pipeline.queue) ∧
      moved.pipeline.debouncer = (p.debouncer.fold p.nextId t now).2 ∧
      moved.pipeline.cancelled = p.cancelled ∧
      moved.pipeline.loop = match (p.debouncer.fold p.nextId t now).1 with
        | .preempted r => { p.loop with slot := (p.loop.slot.offer r).2 }
        | _ => p.loop := by
  simp only [step?, Option.ite_none_right_eq_some, Bool.and_eq_true] at h
  obtain ⟨⟨hc, -⟩, h⟩ := h
  refine ⟨hc, ?_⟩
  unfold fold? at h
  cases ht : p.queue.take? with
  | none => simp [ht] at h
  | some taken =>
    obtain ⟨t, q⟩ := taken
    simp only [ht] at h
    refine ⟨t, ?_⟩
    cases hf : (p.debouncer.fold p.nextId t now).1 <;> simp only [hf] at h <;>
      obtain rfl := Option.some.inj h <;> simp [quiet, count]

theorem step?_serve (h : p.step? now .serve = some moved) :
    ∃ r, p.loop.slot.pending = some r ∧ moved.pipeline.queue = p.queue ∧
      moved.pipeline.debouncer = p.debouncer ∧ moved.pipeline.cancelled = p.cancelled ∧
      moved.pipeline.loop.slot = p.loop.slot.take.2 := by
  obtain ⟨⟨l, effects⟩, hl, rfl⟩ := Option.map_eq_some_iff.mp h
  obtain ⟨r, hp, -, ht⟩ := DispatchLoop.serve?_turn hl
  obtain ⟨rfl, -⟩ := Prod.mk.inj ht
  exact ⟨r, hp, rfl, rfl, rfl, rfl⟩

/-- Nothing was done between the queue and the dispatcher. -/
structure Aside (p p' : Pipeline) : Prop where
  queue_eq : p'.queue = p.queue
  debouncer_eq : p'.debouncer = p.debouncer
  cancelled_eq : p'.cancelled = p.cancelled
  slot_eq : p'.loop.slot = p.loop.slot

theorem step?_start (h : p.step? now .start = some moved) : p.Aside moved.pipeline := by
  simp only [step?, Option.ite_none_right_eq_some] at h
  obtain ⟨-, h⟩ := h
  obtain rfl := Option.some.inj h
  exact ⟨rfl, rfl, rfl, rfl⟩

theorem step?_signal {s : Signal} (h : p.step? now (.signal s) = some moved) :
    p.Aside moved.pipeline := by
  obtain ⟨⟨l, effects⟩, hl, rfl⟩ := Option.map_eq_some_iff.mp h
  obtain ⟨rfl, -⟩ := Prod.mk.inj (DispatchLoop.signal?_turn hl)
  exact ⟨rfl, rfl, rfl, rfl⟩

theorem step?_leave (h : p.step? now .leave = some moved) : p.Aside moved.pipeline := by
  obtain ⟨⟨l, effects⟩, hl, rfl⟩ := Option.map_eq_some_iff.mp h
  obtain ⟨-, ⟨-, ht⟩ | ⟨-, rfl, -⟩⟩ := DispatchLoop.leave?_turn hl
  · obtain ⟨rfl, -⟩ := Prod.mk.inj ht
    exact ⟨rfl, rfl, rfl, rfl⟩
  · exact ⟨rfl, rfl, rfl, rfl⟩

theorem step?_observe {index : Nat} (h : p.step? now (.observe index) = some moved) :
    p.Aside moved.pipeline := by
  obtain ⟨observers, -, rfl⟩ := Option.map_eq_some_iff.mp h
  exact ⟨rfl, rfl, rfl, rfl⟩

theorem step?_drained (h : p.step? now .drained = some moved) : p.Aside moved.pipeline := by
  simp only [step?, Option.ite_none_right_eq_some] at h
  obtain ⟨-, h⟩ := h
  obtain rfl := Option.some.inj h
  exact ⟨rfl, rfl, rfl, rfl⟩

theorem step?_abandon (h : p.step? now .abandon = some moved) : p.Aside moved.pipeline := by
  simp only [step?, Option.ite_none_right_eq_some] at h
  obtain ⟨-, h⟩ := h
  obtain rfl := Option.some.inj h
  exact ⟨rfl, rfl, rfl, rfl⟩

theorem step?_endCoalescing (h : p.step? now .endCoalescing = some moved) :
    (p.cancelled || (p.queue.closed && p.queue.isEmpty)) = true ∧
      moved.pipeline = p.endCoalescing := by
  simp only [step?, Option.ite_none_right_eq_some, Bool.and_eq_true] at h
  obtain ⟨⟨-, hc⟩, h⟩ := h
  obtain rfl := Option.some.inj h
  exact ⟨hc, rfl⟩

end Pipeline
end RestartCoordinator
