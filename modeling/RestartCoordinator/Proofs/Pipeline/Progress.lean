import Mathlib.Algebra.BigOperators.Group.List.Basic
import Mathlib.Algebra.GroupWithZero.Nat
import RestartCoordinator.Proofs.DispatchLoop.Stops
import RestartCoordinator.Proofs.Pipeline.Endings
/-!
# Progress of a shutdown

Once the slot is closed, few turns are left to the dispatcher's loop: those of the dispatch that is
under way, of the request that waits, and of the stop at the end. Each step of the loop uses one of
them up, no other step adds any, and until the end the loop can always go on.
-/
namespace RestartCoordinator

namespace Observers

/-- How many reports wait to be handled. -/
def backlog (os : Observers) : Nat := (os.map (·.waiting.length)).sum

private theorem exists_work? {os : Observers} (h : os.isDrained = false) :
    ∃ i os', os.work? i = some os' := by
  obtain ⟨o, ho, hw⟩ := List.all_eq_false.mp h
  obtain ⟨i, hi⟩ := List.mem_iff_getElem?.mp ho
  cases hl : o.waiting with
  | nil => simp [hl] at hw
  | cons r rest =>
    obtain ⟨o', ho'⟩ : ∃ o', o.work? = some o' := by
      unfold Observer.work?
      rw [hl]
      cases o.kind <;> exact ⟨_, rfl⟩
    exact ⟨i, os.set i o', by simp [work?, hi, ho']⟩

private theorem length_waiting_lt {o o' : Observer} (h : o.work? = some o') :
    o'.waiting.length < o.waiting.length := by
  unfold Observer.work? at h
  split at h
  · cases h
  · rename_i hw
    rw [hw]
    split at h <;> obtain rfl := Option.some.inj h <;> simp

private theorem backlog_lt {os os' : Observers} {i : Nat} (h : os.work? i = some os') :
    os'.backlog < os.backlog := by
  induction os generalizing i os' with
  | nil => simp [work?] at h
  | cons o rest ih =>
    cases i with
    | zero =>
      obtain ⟨o', ho, rfl⟩ : ∃ o', o.work? = some o' ∧ o' :: rest = os' := by
        simpa [work?, Option.bind_eq_some_iff] using h
      have hlt := length_waiting_lt ho
      simp only [backlog, List.map_cons, List.sum_cons]
      omega
    | succ i =>
      obtain ⟨next, hn, rfl⟩ : ∃ next, work? rest i = some next ∧ o :: next = os' := by
        simp only [work?, List.getElem?_cons_succ] at h ⊢
        obtain ⟨o₀, ho₀, h⟩ := Option.bind_eq_some_iff.mp h
        obtain ⟨o', ho', h⟩ := Option.bind_eq_some_iff.mp h
        obtain rfl := Option.some.inj h
        exact ⟨rest.set i o', by simp [ho₀, ho'], rfl⟩
      have hlt := ih hn
      simp only [backlog, List.map_cons, List.sum_cons] at hlt ⊢
      omega

end Observers

namespace Dispatcher

variable {d d' : Dispatcher} {now : Time} {s : Signal} {effects : List Effect}

/-- No dispatch takes more turns than this. -/
def patience (d : Dispatcher) : Nat := 3 * d.policy.maxRetries + 3

private theorem Goes.patience_eq (hg : d.Goes now s d' effects) : d'.patience = d.patience := by
  unfold patience
  rw [hg.settings.1]

private theorem Goes.pace_lt_patience {r : Request} (hg : d.Goes now (.request r) d' effects)
    (hi : d.task = .idle) : d'.pace < d.patience :=
  Nat.lt_succ_of_le (hg.pace_le_of_begins (.inl ⟨hi, rfl, rfl⟩))

private theorem Goes.pace_lt_patience_of_lt (hg : d.Goes now s d' effects) (hw : d.awaits s)
    (h : d.pace < d.patience) : d'.pace < d'.patience := by
  rw [hg.patience_eq]
  by_cases ht : d.task = .idle
  · cases s with
    | request r => exact hg.pace_lt_patience ht
    | _ => simp [awaits, ht] at hw
  · exact Nat.lt_trans (hg.pace_lt hw ht) h

end Dispatcher

namespace DispatchLoop

/-- How many steps the loop can still take if its slot is closed. -/
def stepsLeft (l : DispatchLoop) : Nat :=
  let waiting := l.slot.pending.toList.length * l.dispatcher.patience
  match l.stage with
  | .unstarted => l.dispatcher.pace + waiting + l.dispatcher.patience + 3
  | .serving => l.dispatcher.pace + waiting + l.dispatcher.patience + 2
  | .stopping => l.dispatcher.pace + 2
  | .draining => 1
  | .ended => 0

private theorem stepsLeft_le_of_pace {l : DispatchLoop}
    (h : l.dispatcher.pace < l.dispatcher.patience) :
    l.stepsLeft ≤ 9 * l.dispatcher.policy.maxRetries + 11 := by
  have hw : l.slot.pending.toList.length * l.dispatcher.patience ≤ l.dispatcher.patience :=
    (Nat.mul_le_mul_right _ Option.length_toList_le).trans_eq (Nat.one_mul _)
  have hp : l.dispatcher.patience = 3 * l.dispatcher.policy.maxRetries + 3 := rfl
  simp only [stepsLeft]
  split <;> omega

end DispatchLoop

namespace Pipeline

variable {p : Pipeline} {moved : Moved} {now : Time} {m : Move}

private theorem stepsLeft_lt (h : p.Ordered) (hm : m.drives) (hs : p.step? now m = some moved) :
    moved.pipeline.loop.stepsLeft < p.loop.stepsLeft := by
  cases m with
  | start =>
    simp only [step?, Option.ite_none_right_eq_some] at hs
    obtain ⟨hcan, hs⟩ := hs
    obtain rfl := Option.some.inj hs
    have hst : p.loop.stage = .unstarted := of_decide_eq_true hcan
    simp [DispatchLoop.stepsLeft, hst, quiet]
  | abandon =>
    simp only [step?, Option.ite_none_right_eq_some] at hs
    obtain ⟨hcan, hs⟩ := hs
    obtain rfl := Option.some.inj hs
    have hst : p.loop.stage = .unstarted := of_decide_eq_true hcan
    simp [DispatchLoop.stepsLeft, hst, quiet]
  | drained =>
    simp only [step?, Option.ite_none_right_eq_some, Bool.and_eq_true, decide_eq_true_iff] at hs
    obtain ⟨⟨hst, -⟩, hs⟩ := hs
    obtain rfl := Option.some.inj hs
    simp [DispatchLoop.stepsLeft, hst, quiet]
  | serve =>
    obtain ⟨r, hp, hidle, ht⟩ := step?_serve_turned hs
    have hg := ht.goes h.fits
    have hpace := hg.pace_lt_patience hidle
    have hpatience := hg.patience_eq
    obtain ⟨-, -, -, -, -, hslot⟩ := step?_serve hs
    obtain ⟨⟨l, effects⟩, hl, rfl⟩ := Option.map_eq_some_iff.mp hs
    obtain ⟨hst, hst'⟩ := DispatchLoop.serve?_stage hl
    simp only [absorb] at hpace hpatience hslot ⊢
    simp only [DispatchLoop.stepsLeft, hst, hst', hpatience, hslot, PendingSlot.take, hp,
      Option.toList_none, Option.toList_some, List.length_nil, List.length_singleton]
    omega
  | signal s =>
    obtain ⟨hbusy, -, ht⟩ := step?_signal_turned hs
    have hg := ht.goes h.fits
    have hpace := hg.pace_lt ht.awaits hbusy
    have hpatience := hg.patience_eq
    obtain ⟨⟨l, effects⟩, hl, rfl⟩ := Option.map_eq_some_iff.mp hs
    obtain ⟨hst, hslot⟩ := DispatchLoop.signal?_stage hl
    simp only [absorb] at hpace hpatience ⊢
    simp only [DispatchLoop.stepsLeft, hst, hslot, hpatience]
    rcases h.busy hbusy with hst | hst <;>
    · simp only [hst]
      omega
  | leave =>
    obtain ⟨hidle, ⟨hst, -, -, hst', ht⟩ | ⟨-, hl, -⟩⟩ := step?_leave_turned hs
    · have hpace := (ht.goes h.fits).pace_lt_patience hidle
      simp only [DispatchLoop.stepsLeft, hst, hst']
      omega
    · obtain ⟨⟨l, effects⟩, hl', -⟩ := Option.map_eq_some_iff.mp hs
      rw [hl]
      rcases (DispatchLoop.leave?_stage hl').1 with ⟨hst, -⟩ | hst <;>
      · simp only [DispatchLoop.stepsLeft, hst]
        omega
  | _ => cases hm

private theorem stepsLeft_le (hc : p.loop.slot.closed) (hm : m.drives = false)
    (hs : p.step? now m = some moved) : moved.pipeline.loop.stepsLeft ≤ p.loop.stepsLeft := by
  obtain ⟨-, hp⟩ := step?_slot_of_closed hc hs
  obtain ⟨slot, hl⟩ := step?_loop hm hs
  rw [hl] at hp ⊢
  simp only [DispatchLoop.stepsLeft]
  rcases hp with hp | hp
  · rw [hp]
  · rw [hp]
    split <;> simp

/-- The steps of the loop after the slot was closed are few, whatever else happens. -/
theorem countP_drives_add_stepsLeft_le (h : p.Ordered) (hc : p.loop.slot.closed)
    (moves : List (Time × Move)) :
    (p.history moves).countP (·.move.drives) + (p.run moves).loop.stepsLeft ≤
      p.loop.stepsLeft := by
  induction moves generalizing p with
  | nil => simp [history, Pipeline.run]
  | cons head rest ih =>
    obtain ⟨now, m⟩ := head
    simp only [history, Pipeline.run]
    cases hs : p.step? now m with
    | none => exact ih h hc
    | some moved =>
      have hrest := ih (h.step hs) (step?_slot_of_closed hc hs).1
      rw [List.countP_cons]
      by_cases hm : m.drives
      · have hlt := stepsLeft_lt h hm hs
        simp only [hm, if_true]
        omega
      · have hle := stepsLeft_le hc (Bool.eq_false_of_not_eq_true hm) hs
        simp only [hm, Bool.false_eq_true, if_false]
        omega

theorem run_of_step? (hs : p.step? now m = some moved) (rest : List (Time × Move)) :
    p.run ((now, m) :: rest) = moved.pipeline.run rest := by
  simp only [Pipeline.run, hs]

private theorem exists_drained (p : Pipeline) (now : Time) :
    ∃ moves, (p.run moves).observers.isDrained ∧ (p.run moves).loop = p.loop := by
  induction hb : p.observers.backlog using Nat.strong_induction_on generalizing p with
  | _ n ih =>
    cases hd : p.observers.isDrained with
    | true => exact ⟨[], hd, rfl⟩
    | false =>
      obtain ⟨i, os, hw⟩ := Observers.exists_work? hd
      have hs : p.step? now (.observe i) = some ({ p with observers := os }.quiet []) := by
        simp [step?, hw]
      have hlt : os.backlog < n := hb ▸ Observers.backlog_lt hw
      obtain ⟨moves, hdrained, hl⟩ := ih _ hlt { p with observers := os } rfl
      refine ⟨(now, .observe i) :: moves, ?_⟩
      rw [run_of_step? hs]
      exact ⟨hdrained, hl⟩

private theorem exists_stepsLeft_lt (h : p.Ordered) (hc : p.loop.slot.closed)
    (he : p.loop.stage ≠ .ended) (now : Time) :
    ∃ moves, (p.run moves).loop.stepsLeft < p.loop.stepsLeft := by
  have drive {m : Move} (hm : m.drives) (hs : (p.step? now m).isSome) :
      ∃ moves, (p.run moves).loop.stepsLeft < p.loop.stepsLeft := by
    obtain ⟨moved, hs⟩ := Option.isSome_iff_exists.mp hs
    refine ⟨[(now, m)], ?_⟩
    rw [run_of_step? hs]
    exact stepsLeft_lt h hm hs
  by_cases ht : p.loop.dispatcher.task = .idle
  · cases hst : p.loop.stage with
    | unstarted => exact drive (m := .abandon) rfl (by simp [step?, canStart, hst])
    | serving =>
      cases hp : p.loop.slot.pending with
      | some r => exact drive (m := .serve) rfl (by simp [step?, DispatchLoop.serve?, hst, ht, hp])
      | none =>
        refine drive (m := .leave) rfl ?_
        simp only [step?, DispatchLoop.leave?, hst, ht, hp, hc, Bool.not_true, Bool.false_eq_true,
          if_false]
        split <;> rfl
    | stopping => exact drive (m := .leave) rfl (by simp [step?, DispatchLoop.leave?, hst, ht])
    | draining =>
      obtain ⟨moves, hd, hl⟩ := exists_drained p now
      refine ⟨moves ++ [(now, .drained)], ?_⟩
      rw [run_append]
      have hs : (p.run moves).step? now .drained =
          some ({ p.run moves with
            loop := { (p.run moves).loop with stage := .ended } }.quiet []) := by
        simp [step?, hl, hst, hd]
      rw [run_of_step? hs]
      simp [DispatchLoop.stepsLeft, Pipeline.run, quiet, hst]
    | ended => exact absurd hst he
  · obtain ⟨s, hs⟩ := DispatchLoop.exists_step?_signal ht now
    exact drive (m := .signal s) rfl (by simpa [step?, DispatchLoop.step?] using hs)

theorem exists_ended (h : p.Ordered) (hc : p.loop.slot.closed) (now : Time) :
    ∃ moves, (p.run moves).loop.stage = .ended := by
  induction hn : p.loop.stepsLeft using Nat.strong_induction_on generalizing p with
  | _ n ih =>
    by_cases he : p.loop.stage = .ended
    · exact ⟨[], he⟩
    · obtain ⟨first, hlt⟩ := exists_stepsLeft_lt h hc he now
      obtain ⟨rest, hend⟩ := ih _ (hn ▸ hlt) (h.run first) (slot_closed_run hc first) rfl
      exact ⟨first ++ rest, by rwa [run_append]⟩

/-- The retry policy stays, and the turns that are left are those of one dispatch at most. -/
def Patient (policy : RetryPolicy) (p : Pipeline) : Prop :=
  p.loop.dispatcher.Fits ∧ p.loop.dispatcher.policy = policy ∧
    p.loop.dispatcher.pace < p.loop.dispatcher.patience

theorem Patient.step {policy : RetryPolicy} (h : p.Patient policy)
    (hs : p.step? now m = some moved) : moved.pipeline.Patient policy := by
  obtain ⟨hf, hpolicy, hpace⟩ := h
  refine ⟨fits_step hf hs, ?_⟩
  obtain ⟨s, ht⟩ | hi := step?_dispatcher hs
  · have hg := ht.goes hf
    exact ⟨hg.settings.1.trans hpolicy, hg.pace_lt_patience_of_lt ht.awaits hpace⟩
  · rw [hi.dispatcher]
    exact ⟨hpolicy, hpace⟩

/-- A shutdown that is called at any moment can always be brought to its end, first the work from
queue to slot and then the dispatcher's loop, and of the loop few steps are left once the slot is
closed. -/
theorem shutdown_ends (c : Config) (observers : Observers) (before joining : List (Time × Move))
    (closing sealing now : Time) :
    let q :=
      ((fresh c observers).run before).run ((closing, .closeQueue) :: joining)
    let r := q.run [(sealing, .closeSlot)]
    (∃ more, (q.run more).coalescing ≠ .running) ∧
      ∀ draining,
        (r.history draining).countP (·.move.drives) ≤ 9 * c.dispatch.policy.maxRetries + 11 ∧
          ∃ more, ((r.run draining).run more).loop.stage = .ended := by
  intro q r
  have horder : r.Ordered := (((ordered_fresh c observers).run before).run _).run _
  have hclosed : r.loop.slot.closed := rfl
  refine ⟨?_, fun draining => ⟨?_, ?_⟩⟩
  · have hcancelled : q.cancelled :=
      run_preserves (P := fun q => q.cancelled) step?_cancelled rfl joining
    refine ⟨[(now, .endCoalescing)], ?_⟩
    by_cases hrun : q.coalescing = .running
    · have hs : q.step? now .endCoalescing = some (q.endCoalescing.quiet []) := by
        simp [step?, hrun, hcancelled]
      rw [run_of_step? hs]
      exact fun hrun => by cases hrun
    · have hs : q.step? now .endCoalescing = none := by simp [step?, hrun]
      simpa [Pipeline.run, hs] using hrun
  · have hnew : (fresh c observers).Patient c.dispatch.policy :=
      ⟨fits_fresh c observers, rfl, Nat.succ_pos _⟩
    have hpatient (p : Pipeline) (h : p.Patient c.dispatch.policy) (moves : List (Time × Move)) :
        (p.run moves).Patient c.dispatch.policy := run_preserves Patient.step h moves
    obtain ⟨-, hpolicy, hpace⟩ : r.Patient c.dispatch.policy :=
      hpatient _ (hpatient _ (hpatient _ hnew before) _) _
    have hle := DispatchLoop.stepsLeft_le_of_pace hpace
    rw [hpolicy] at hle
    have hcount := countP_drives_add_stepsLeft_le horder hclosed draining
    omega
  · exact exists_ended (horder.run draining) (slot_closed_run hclosed draining) now

end Pipeline
end RestartCoordinator
