import RestartCoordinator.Proofs.Pipeline.Finality
/-!
# Shutdowns of a coordinator on a clock

The workers of a coordinator take their turns at the pipeline, and a shutdown makes its own moves in
between. So a shutdown that is waited for to its end is a run of the pipeline that closes the queue,
later the slot, and gives the loops up at the end; and if it is the first one, the dispatcher's loop
has ended when it returns. A shutdown that is dropped on the way, and one that comes after it and has
no loop left to wait for, are not meant.
-/
namespace RestartCoordinator

namespace Pipeline

/-- One pipeline comes from another in a run. -/
def Reaches (p p' : Pipeline) : Prop := ∃ moves, p' = p.run moves

variable {p p' p'' : Pipeline}

private theorem Reaches.refl (p : Pipeline) : p.Reaches p := ⟨[], rfl⟩

private theorem Reaches.trans (h : p.Reaches p') (h' : p'.Reaches p'') : p.Reaches p'' := by
  obtain ⟨moves, rfl⟩ := h
  obtain ⟨more, rfl⟩ := h'
  exact ⟨moves ++ more, (run_append p moves more).symm⟩

private theorem run_observe {o o' : Observer} {done rest : Observers} (ho : o.work? = some o') :
    { p with observers := done ++ o :: rest }.run [(0, .observe done.length)] =
      { p with observers := done ++ o' :: rest } := by
  simp [run, step?, Observers.work?, ho, quiet]

private theorem reaches_drain_one (o : Observer) (done rest : Observers) :
    { p with observers := done ++ o :: rest }.Reaches
      { p with observers := done ++ o.drain :: rest } := by
  obtain ⟨kind, waiting, handled, alive⟩ := o
  induction waiting generalizing handled alive with
  | nil =>
    have hd : Observer.drain ⟨kind, [], handled, alive⟩ = ⟨kind, [], handled, alive⟩ := by
      cases kind <;> simp [Observer.drain]
    rw [hd]
    exact .refl _
  | cons r more ih =>
    by_cases hk : kind = .broken
    · subst hk
      exact ⟨_, (run_observe rfl).symm⟩
    · have hw : Observer.work? ⟨kind, r :: more, handled, alive⟩ =
          some ⟨kind, more, handled ++ [r], alive⟩ := by
        cases kind <;> first | contradiction | rfl
      have hd : Observer.drain ⟨kind, r :: more, handled, alive⟩ =
          Observer.drain ⟨kind, more, handled ++ [r], alive⟩ := by
        cases kind <;> first | contradiction | simp [Observer.drain]
      rw [hd]
      exact Reaches.trans ⟨_, (run_observe hw).symm⟩ (ih (handled ++ [r]) alive)

private theorem reaches_drain (done rest : Observers) :
    { p with observers := done ++ rest }.Reaches
      { p with observers := done ++ Observers.drain rest } := by
  induction rest generalizing done with
  | nil => exact .refl _
  | cons o rest ih =>
    have hmore := ih (done ++ [o.drain])
    simp only [List.append_assoc, List.singleton_append] at hmore
    exact (reaches_drain_one o done rest).trans hmore

end Pipeline

namespace Coordinator

/-- Workers took their turns: the pipeline has made moves, and a shutdown stands where it stood. -/
structure Works (c c' : Coordinator) : Prop where
  reaches : c.pipeline.Reaches c'.pipeline
  closing : c'.closing = c.closing
  awaited : c'.awaited = c.awaited
  running : c'.running = c.running

variable {c c' c'' : Coordinator} {p : Pipeline}

private theorem Works.refl (c : Coordinator) : c.Works c := ⟨.refl _, rfl, rfl, rfl⟩

private theorem Works.trans (h : c.Works c') (h' : c'.Works c'') : c.Works c'' :=
  ⟨h.reaches.trans h'.reaches, h'.closing.trans h.closing, h'.awaited.trans h.awaited,
    h'.running.trans h.running⟩

private theorem pipeline_move (c : Coordinator) (m : Move) :
    (c.move m).pipeline = c.pipeline.run [(c.now, m)] := by
  simp only [move, move?, Pipeline.run]
  cases c.pipeline.step? c.now m <;> rfl

private theorem works_of_move? {m : Move} (h : c.move? m = some c') : c.Works c' := by
  obtain ⟨moved, hs, rfl⟩ := Option.map_eq_some_iff.mp h
  exact ⟨⟨[(c.now, m)], by simp only [Pipeline.run, hs]; rfl⟩, rfl, rfl, rfl⟩

private theorem works_move (c : Coordinator) (m : Move) : c.Works (c.move m) := by
  unfold move
  cases h : c.move? m with
  | none => exact .refl c
  | some next => exact works_of_move? h

private theorem works_submits (triggers : List Trigger) (c : Coordinator) :
    c.Works (triggers.foldl (fun c t => c.move (.submit t)) c) := by
  induction triggers generalizing c with
  | nil => exact .refl c
  | cons t rest ih => exact (works_move c _).trans (ih _)

private theorem works_turnSource (c : Coordinator) (place : Nat) : c.Works (c.turnSource place) := by
  unfold turnSource
  split
  · exact .refl c
  · rename_i s _
    have h := works_submits (s.turn c.pipeline.cancelled c.now).1 c
    exact ⟨h.reaches, h.closing, h.awaited, h.running⟩

private theorem works_coalesceWithin (fuel : Nat) (c : Coordinator) :
    c.Works (coalesceWithin fuel c) := by
  induction fuel generalizing c with
  | zero => exact .refl c
  | succ fuel ih =>
    unfold coalesceWithin
    split
    · rename_i next h
      exact works_of_move? h
    · split
      · rename_i next h
        rw [Option.orElse_eq_orElse, Option.orElse_eq_or, Option.or_eq_some_iff] at h
        rcases h with h | ⟨-, h⟩ <;> exact (works_of_move? h).trans (ih next)
      · exact .refl c

private theorem works_dispatch? (h : c.dispatch? = some c') : c.Works c' := by
  unfold dispatch? at h
  split at h
  · rename_i next hs
    obtain rfl := Option.some.inj h
    exact works_of_move? hs
  · split at h
    · have hw := works_of_move? h
      exact ⟨hw.reaches, hw.closing, hw.awaited, hw.running⟩
    · rw [Option.orElse_eq_orElse, Option.orElse_eq_or, Option.or_eq_some_iff] at h
      rcases h with h | ⟨-, h⟩ <;> exact works_of_move? h

private theorem works_dispatchWithin (fuel : Nat) (c : Coordinator) :
    c.Works (dispatchWithin fuel c) := by
  induction fuel generalizing c with
  | zero => exact .refl c
  | succ fuel ih =>
    unfold dispatchWithin
    cases h : c.dispatch? with
    | none => exact .refl c
    | some next => exact (works_dispatch? h).trans (ih next)

private theorem works_turnOf (c : Coordinator) (w : Worker) : c.Works (c.turnOf w) := by
  cases w with
  | source place =>
    have h := works_turnSource c place
    exact ⟨h.reaches, h.closing, h.awaited, h.running⟩
  | coalescer =>
    have h := works_coalesceWithin (c.pipeline.queue.size + 2) c
    exact ⟨h.reaches, h.closing, h.awaited, h.running⟩
  | recorder => exact ⟨.refl _, rfl, rfl, rfl⟩
  | dispatcher =>
    have h := works_dispatchWithin 32 c
    exact ⟨h.reaches, h.closing, h.awaited, h.running⟩

private theorem works_workWithin (fuel : Nat) (ws : List Worker) (c : Coordinator) :
    c.Works (workWithin fuel ws c) := by
  induction fuel generalizing ws c with
  | zero => exact .refl c
  | succ fuel ih =>
    cases ws with
    | nil => exact .refl c
    | cons w rest => exact (works_turnOf c w).trans (ih _ _)

private theorem works_observe (c : Coordinator) : c.Works c.observe := by
  have hd : c.Works { c with
      pipeline := { c.pipeline with observers := c.pipeline.observers.drain } } :=
    ⟨Pipeline.reaches_drain [] c.pipeline.observers, rfl, rfl, rfl⟩
  exact hd.trans (works_move _ _)

private theorem works_turn (c : Coordinator) : c.Works c.turn :=
  (works_workWithin _ _ c).trans (works_observe _)

/-- How far the pipeline is taken by a first shutdown that found it as it is given. -/
def Closes (p : Pipeline) (c : Coordinator) : Prop :=
  match c.closing with
  | .sources _ | .coalescing =>
    c.awaited = false ∧ ∃ closing joining, c.pipeline = p.run ((closing, .closeQueue) :: joining)
  | .dispatching first =>
    first ∧ ∃ closing joining sealing draining, c.pipeline =
      ((p.run ((closing, .closeQueue) :: joining)).run [(sealing, .closeSlot)]).run draining
  | .off =>
    ∃ closing joining sealing draining giving later,
      let r := (p.run ((closing, .closeQueue) :: joining)).run [(sealing, .closeSlot)]
      let e := r.run (draining ++ [(giving, .abandon)])
      e.loop.stage = .ended ∧ c.pipeline = e.run later

private theorem Closes.works (h : c.Closes p) (hw : c.Works c') : c'.Closes p := by
  obtain ⟨moves, hp⟩ := hw.reaches
  unfold Closes at h ⊢
  rw [hw.closing, hw.awaited, hp]
  cases hc : c.closing with
  | sources | coalescing =>
    rw [hc] at h
    obtain ⟨ha, closing, joining, hq⟩ := h
    refine ⟨ha, closing, joining ++ moves, ?_⟩
    rw [hq, ← Pipeline.run_append, List.cons_append]
  | dispatching first =>
    rw [hc] at h
    obtain ⟨hf, closing, joining, sealing, draining, hq⟩ := h
    refine ⟨hf, closing, joining, sealing, draining ++ moves, ?_⟩
    rw [hq, ← Pipeline.run_append]
  | off =>
    rw [hc] at h
    obtain ⟨closing, joining, sealing, draining, giving, later, he, hq⟩ := h
    refine ⟨closing, joining, sealing, draining, giving, later ++ moves, he, ?_⟩
    rw [hq, ← Pipeline.run_append]

private theorem stage_abandon (h : c.isStarted → c.pipeline.loop.stage = .ended) :
    (c.pipeline.run [(c.now, .abandon)]).loop.stage = .ended := by
  cases hs : c.isStarted with
  | true =>
    have hst := h hs
    have hcan : c.pipeline.canStart = false := by simpa [isStarted] using hs
    simp [Pipeline.run, Pipeline.step?, hcan, hst]
  | false =>
    have hcan : c.pipeline.canStart = true := by simpa [isStarted] using hs
    simp [Pipeline.run, Pipeline.step?, hcan, Pipeline.quiet]

private theorem Closes.close? (h : c.Closes p) (hc : c.close? = some c') : c'.Closes p := by
  unfold Closes at h
  unfold Coordinator.close? at hc
  cases hclosing : c.closing with
  | off => simp [hclosing] at hc
  | sources since =>
    rw [hclosing] at h
    simp only [hclosing] at hc
    split at hc
    · obtain rfl := Option.some.inj hc
      exact h
    · obtain ⟨sources, -, rfl⟩ := Option.map_eq_some_iff.mp hc
      exact h
  | coalescing =>
    rw [hclosing] at h
    simp only [hclosing, Option.ite_none_left_eq_some] at hc
    obtain ⟨ha, closing, joining, hp⟩ := h
    obtain rfl := Option.some.inj hc.2
    refine ⟨by rw [ha]; rfl, closing, joining, c.now, [], ?_⟩
    rw [← hp]
    exact c.pipeline_move .closeSlot
  | dispatching first =>
    rw [hclosing] at h
    simp only [hclosing, Option.ite_none_left_eq_some] at hc
    obtain ⟨hf, closing, joining, sealing, draining, hp⟩ := h
    obtain ⟨hwait, hc⟩ := hc
    obtain rfl := Option.some.inj hc
    have hended : (c.pipeline.run [(c.now, .abandon)]).loop.stage = .ended :=
      stage_abandon fun hs => by simpa [hf, hs] using hwait
    refine ⟨closing, joining, sealing, draining, c.now, [], ?_, ?_⟩
    · rw [Pipeline.run_append, ← hp]
      exact hended
    · rw [Pipeline.run_append _ draining, ← hp]
      exact c.pipeline_move .abandon

private theorem running_close? (hc : c.close? = some c') : c'.running = c.running := by
  unfold close? at hc
  split at hc
  · cases hc
  · split at hc
    · obtain rfl := Option.some.inj hc
      rfl
    · obtain ⟨sources, -, rfl⟩ := Option.map_eq_some_iff.mp hc
      rfl
  · split at hc
    · cases hc
    · obtain rfl := Option.some.inj hc
      exact (works_move c _).running
  · split at hc
    · cases hc
    · obtain rfl := Option.some.inj hc
      exact (works_move c _).running

private theorem closes_settleWithin (fuel : Nat) (h : c.Closes p) (ho : c.running = .off) :
    (settleWithin fuel c).Closes p ∧ (settleWithin fuel c).running = .off := by
  induction fuel generalizing c with
  | zero => exact ⟨h, ho⟩
  | succ fuel ih =>
    have hturn := works_turn c
    have ht : c.turn.Closes p := h.works hturn
    have hoff : c.turn.running = .off := hturn.running.trans ho
    have hrun : c.turn.run? = none := by simp [run?, hoff]
    unfold settleWithin
    simp only [hrun, Option.orElse_eq_orElse, Option.orElse_eq_or, Option.or_none]
    cases hc : c.turn.close? with
    | none => exact ⟨ht, hoff⟩
    | some next => exact ih (ht.close? hc) ((running_close? hc).trans hoff)

private theorem closes_waitWithin (isDone : Coordinator → Bool) (limit : Time) (fuel : Nat)
    (h : c.Closes p) (ho : c.running = .off) :
    (waitWithin isDone limit fuel c).2.Closes p ∧
      ((waitWithin isDone limit fuel c).1 → isDone (waitWithin isDone limit fuel c).2) := by
  induction fuel generalizing c with
  | zero => exact ⟨h, nofun⟩
  | succ fuel ih =>
    obtain ⟨hs, hoff⟩ := closes_settleWithin (c.sources.length + 8) h ho
    unfold waitWithin
    generalize hc : c.settle = settled
    have hsettled : settled.Closes p ∧ settled.running = .off := hc ▸ ⟨hs, hoff⟩
    dsimp only
    split
    · rename_i hd
      exact ⟨hsettled.1, fun _ => hd⟩
    · split
      · split
        · exact ih hsettled.1 hsettled.2
        · exact ⟨hsettled.1, nofun⟩
      · exact ⟨hsettled.1, nofun⟩

/-- A coordinator that does not run by itself is shut down for the first time, and the shutdown is
waited for to its end. It has closed the queue, later the slot, and given up loops that never began;
and when it returns the dispatcher's loop has ended. -/
theorem shutdown_runs (c : Coordinator) (hf : c.awaited = false) (ho : c.running = .off)
    (hd : c.shutdown.1 = true) :
    c.shutdown.2.pipeline.loop.stage = .ended ∧
      ∃ closing joining sealing draining giving later,
        let r := (c.pipeline.run ((closing, .closeQueue) :: joining)).run [(sealing, .closeSlot)]
        let e := r.run (draining ++ [(giving, .abandon)])
        e.loop.stage = .ended ∧ c.shutdown.2.pipeline = e.run later := by
  have hw := works_move c .closeQueue
  have hbegin : c.beginShutdown.Closes c.pipeline :=
    ⟨hw.awaited.trans hf, c.now, [], c.pipeline_move .closeQueue⟩
  obtain ⟨h, hdone⟩ := closes_waitWithin (·.closing = .off) (c.beginShutdown.now + longestWait)
    (longestWait + 1) hbegin (hw.running.trans ho)
  have hoff := of_decide_eq_true (hdone hd)
  unfold Closes at h
  rw [hoff] at h
  obtain ⟨closing, joining, sealing, draining, giving, later, he, hp⟩ := h
  have hp : c.shutdown.2.pipeline = _ := hp
  rw [hp]
  exact ⟨Pipeline.run_preserves Pipeline.step?_stays_ended he later,
    closing, joining, sealing, draining, giving, later, he, rfl⟩

-- a start is under way when the shutdown is called
example :
    (do
      let c ← Coordinator.new {} (.new 50 20) []
      let c ← c.start
      let (_, c) ← c.submit (.ofReason (.plain .ui) "ui" 0)
      let c := c.waitUntil 510
      return (c.shutdown.1, c.shutdown.2.snapshot.state)).toOption = some (true, .stopped) := by
  decide +kernel

end Coordinator
end RestartCoordinator
