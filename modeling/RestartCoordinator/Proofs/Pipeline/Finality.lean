import RestartCoordinator.Proofs.Pipeline.Progress
import RestartCoordinator.Simulation.Coordinator
/-!
# The end of a shutdown

A shutdown closes the queue, waits for the work from queue to slot, closes the slot, waits for the
dispatcher, and gives the loops up if they never began. Whatever happens between these, it can come
to its end, and when it is over nothing can happen any more. If the service was to be stopped then it
is stopped or has failed; if not, nothing was done after the slot was closed but to finish the
dispatch that was under way.
-/
namespace RestartCoordinator
namespace Pipeline

section
variable {p : Pipeline}

private theorem Over.submit (h : p.Over) (t : Trigger) : p.submit t = .error .queueClosed := by
  simp [Pipeline.submit, TriggerQueue.submit, h.closed, bind, Except.bind]

private theorem Over.canStart (h : p.Over) : p.canStart = false := by
  simp [Pipeline.canStart, h.ended]

private theorem sealed_closeSlot (hp : p.loop.slot.hasStop = false) (now : Time) :
    (p.run [(now, .closeSlot)]).Sealed :=
  ⟨rfl, by simp [Pipeline.run, step?, quiet, PendingSlot.close, hp]⟩

/-- Only the dispatch that is under way goes on to its end. -/
theorem Sealed.finishes (h : p.Sealed) (ha : p.loop.stopAtEnd = false) (moves : List (Time × Move))
    (hi : (p.run moves).loop.dispatcher.isIdle) :
    (∀ s ∈ p.history moves, s.begins = false) ∧
      ∃ during after, moves = during ++ after ∧ (p.run during).loop.dispatcher.isIdle ∧
        (∀ k < during.length, (p.run (during.take k)).loop.dispatcher.isIdle = false) ∧
        (p.run moves).loop.dispatcher = (p.run during).loop.dispatcher ∧
        (p.run during).effects after = [] := by
  refine ⟨h.run ha moves, ?_⟩
  obtain ⟨during, after, rfl, hidle, hbusy⟩ := exists_during p moves hi
  have hq : (p.run during).Quiet :=
    { run_preserves Sealed.step h during with
      idle := of_decide_eq_true hidle
      stays := (stopAtEnd_run p during).trans ha }
  obtain ⟨-, hd, he⟩ := idles_run Quiet.step hq after
  exact ⟨during, after, rfl, hidle, hbusy, by rw [run_append, hd], he⟩

private theorem abandon_dispatcher (p : Pipeline) (now : Time) :
    (p.run [(now, .abandon)]).loop.dispatcher = p.loop.dispatcher := by
  simp only [Pipeline.run]
  cases hs : p.step? now .abandon with
  | none => rfl
  | some moved => exact (step?_idles rfl hs).dispatcher

/-- A pipeline that is over is over for good. -/
theorem Over.run (h : p.Over) (later : List (Time × Move)) :
    let l := p.run later
    (∀ t, l.submit t = .error .queueClosed) ∧
      (∀ k : Coordinator, k.pipeline = l →
        k.start = .error (.system "Coordinator already started") ∧
          ∀ t, k.submit t = .error .queueClosed) ∧
      l.canStart = false ∧ l.loop.dispatcher = p.loop.dispatcher ∧ p.effects later = [] := by
  intro l
  obtain ⟨hl, hd, he⟩ : l.Over ∧ l.loop.dispatcher = p.loop.dispatcher ∧ p.effects later = [] :=
    idles_run Over.step h later
  refine ⟨hl.submit, fun k hk => ⟨?_, fun t => ?_⟩, hl.canStart, hd, he⟩
  · simp [Coordinator.start, Coordinator.move?, step?, hk, hl.canStart]
  · simp [Coordinator.submit, hk, hl.submit t, bind, Except.bind]

end

/-- A shutdown that is called at any moment closes the queue and then the slot, and gives the loops
up at the end if they never began; in between anything may happen, and the end can always be reached.
When it is over, triggers are refused, there is no start, and the dispatcher makes no call and keeps
its state. If the coordinator was started and is to stop the service at the end, the service is
stopped or has failed. If it is not to stop the service and no stop waited in the slot when the slot
was closed, no dispatch began after that, and the dispatcher is as the dispatch that was then under
way, if any, has left it. It is over when the dispatcher's loop has ended; `Coordinator.shutdown_runs`
shows that a first shutdown returns only then, if it is waited for. One that is dropped on the way is
not meant. -/
theorem shutdown_is_final (c : Config) (observers : Observers)
    (before joining draining : List (Time × Move)) (closing sealing giving : Time) :
    let p := (fresh c observers).run before
    let q := p.run ((closing, .closeQueue) :: joining)
    let r := q.run [(sealing, .closeSlot)]
    let e := r.run (draining ++ [(giving, .abandon)])
    (∃ more, ((r.run draining).run more).loop.stage = .ended) ∧
      (e.loop.stage = .ended →
        (∀ later,
          let l := e.run later
          (∀ t, l.submit t = .error .queueClosed) ∧
            (∀ k : Coordinator, k.pipeline = l →
              k.start = .error (.system "Coordinator already started") ∧
                ∀ t, k.submit t = .error .queueClosed) ∧
            l.canStart = false ∧ l.loop.dispatcher = e.loop.dispatcher ∧ e.effects later = []) ∧
          (e.coalescing ≠ .unstarted → c.coordinator.stopOnShutdown = true →
            e.loop.dispatcher.state = .stopped ∨ e.loop.dispatcher.state = .failed) ∧
          (c.coordinator.stopOnShutdown = false → q.loop.slot.hasStop = false →
            (∀ s ∈ r.history draining, s.begins = false) ∧
              ∃ during after, draining = during ++ after ∧
                (r.run during).loop.dispatcher.isIdle ∧
                (∀ k < during.length, (r.run (during.take k)).loop.dispatcher.isIdle = false) ∧
                e.loop.dispatcher = (r.run during).loop.dispatcher ∧
                (r.run during).effects after = [])) := by
  intro p q r e
  have hr : r.Ordered := (((ordered_fresh c observers).run before).run _).run _
  have hsealed : r.loop.slot.closed := rfl
  refine ⟨exists_ended (hr.run draining) (slot_closed_run hsealed draining) giving, ?_⟩
  intro hended
  have he : e.Ordered := hr.run _
  have hidle : e.loop.dispatcher.task = .idle := by
    by_contra hbusy
    rcases he.busy hbusy with hst | hst <;> cases hended.symm.trans hst
  have hclosed : e.queue.closed := by
    have hclose : (p.run [(closing, .closeQueue)]).queue.closed := rfl
    have hq : q.queue.closed := run_preserves step?_queue_closed hclose joining
    have hr : r.queue.closed := run_preserves step?_queue_closed hq [(sealing, .closeSlot)]
    exact run_preserves step?_queue_closed hr _
  have hstop : r.loop.stopAtEnd = c.coordinator.stopOnShutdown := by
    simp only [r, q, p, stopAtEnd_run]
    rfl
  have hd : e.loop.dispatcher = (r.run draining).loop.dispatcher := by
    simp only [e, run_append]
    exact abandon_dispatcher _ giving
  refine ⟨Over.run ⟨hidle, hended, hclosed⟩, fun hun hs => ?_, fun hs hw => ?_⟩
  · have hstop' : e.loop.stopAtEnd = c.coordinator.stopOnShutdown :=
      (stopAtEnd_run r _).trans hstop
    exact he.down hun (hstop'.trans hs) (.inr hended)
  · have hi : (r.run draining).loop.dispatcher.isIdle := by
      rw [← hd]
      exact decide_eq_true hidle
    rw [hd]
    exact (sealed_closeSlot hw sealing).finishes (hstop.trans hs) draining hi

/-- A start is under way when the slot is closed, which throws a reload away. The service runs when
the start is answered. If it is not to be stopped it stays so; otherwise it is stopped then. -/
theorem shutdown_is_final_of_start :
    let c : Config := { coordinator := { stopOnShutdown := false } }
    let t (now : Time) : Time × Move :=
      (now, .submit (.ofReason (.plain .ruleChanged) "rules" now))
    let before := [(0, .start), t 0, (0, .fold), (500, .flush), (500, .serve), t 600, (600, .fold),
      (1100, .flush), t 1200]
    let draining := [(1300, .signal (.startAnswered (.done ⟨7⟩))), (1300, .leave),
      (1310, .signal (.stopAnswered (.done ()))), (1310, .leave), (1310, .observe 0),
      (1310, .observe 0), (1310, .drained)]
    let p := (fresh c [.new .collector]).run before
    let q := p.run ((1210, .closeQueue) :: [(1210, .endCoalescing)])
    let r := q.run [(1210, .closeSlot)]
    let e := r.run (draining ++ [(1310, .abandon)])
    let p' := (fresh {} [.new .collector]).run before
    let q' := p'.run ((1210, .closeQueue) :: [(1210, .endCoalescing)])
    let r' := q'.run [(1210, .closeSlot)]
    let e' := r'.run (draining ++ [(1310, .abandon)])
    (q.loop.slot.isEmpty = false ∧ r.loop.dispatcher.isIdle = false ∧ e.loop.stage = .ended ∧
        e.loop.dispatcher.state = .running ∧ e'.loop.stage = .ended) ∧
      (∀ later,
        let l := e.run later
        (∀ t, l.submit t = .error .queueClosed) ∧ l.canStart = false ∧
          l.loop.dispatcher = e.loop.dispatcher ∧ e.effects later = []) ∧
      (∀ s ∈ r.history draining, s.begins = false) ∧
      (∃ during after, draining = during ++ after ∧ (r.run during).loop.dispatcher.isIdle ∧
        e.loop.dispatcher = (r.run during).loop.dispatcher ∧ (r.run during).effects after = []) ∧
      (e'.loop.dispatcher.state = .stopped ∨ e'.loop.dispatcher.state = .failed) := by
  intro c t before draining p q r e p' q' r' e'
  have stays := shutdown_is_final c [.new .collector] before [(1210, .endCoalescing)] draining 1210
    1210 1310
  have stops := shutdown_is_final {} [.new .collector] before [(1210, .endCoalescing)] draining 1210
    1210 1310
  extract_lets at stays stops
  obtain ⟨hfinal, -, hquiet⟩ := stays.2 (by decide)
  obtain ⟨-, hdown, -⟩ := stops.2 (by decide)
  obtain ⟨hbegins, during, after, hd, hidle, -, hsame, heffects⟩ := hquiet rfl (by decide)
  refine ⟨by decide, fun later => ?_, hbegins, ⟨during, after, hd, hidle, hsame, heffects⟩,
    hdown (by decide) rfl⟩
  obtain ⟨hsubmit, -, hstart, hstate, hnone⟩ := hfinal later
  exact ⟨hsubmit, hstart, hstate, hnone⟩

end Pipeline
end RestartCoordinator
