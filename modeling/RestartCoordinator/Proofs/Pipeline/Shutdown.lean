import RestartCoordinator.Proofs.Pipeline.Ledger
/-!
# The triggers in a shutdown

Once the queue is closed, nothing goes from it to the slot any more. What is in the window or waits
in the slot may then be thrown away, but no stop is: a stop is never in the window, and one that
waits is still dispatched. A stop that is still in the queue, however, stays there for good. So a
shutdown loses exactly those stops that it finds in the queue.
-/
namespace RestartCoordinator

namespace DispatchLoop

/-- The loop goes its way: it leaves only when nothing waits and nothing can come any more. -/
def InOrder (l : DispatchLoop) : Prop :=
  l.stage = .unstarted ∨ l.stage = .serving ∨ (l.slot.closed ∧ l.slot.pending = none)

variable {l l' : DispatchLoop} {now : Time} {effects : List Effect}

theorem serve?_stage (h : l.serve? now = some (l', effects)) :
    l.stage = .serving ∧ l'.stage = .serving := by
  unfold serve? at h
  split at h
  · rename_i hs _ _
    obtain ⟨rfl, -⟩ := Prod.mk.inj (Option.some.inj h)
    exact ⟨hs, hs⟩
  · cases h

theorem signal?_stage {s : Signal} (h : l.signal? now s = some (l', effects)) :
    l'.stage = l.stage ∧ l'.slot = l.slot := by
  obtain ⟨rfl, -⟩ := Prod.mk.inj (signal?_turn h)
  exact ⟨rfl, rfl⟩

theorem leave?_stage {id : RequestId} (h : l.leave? id now = some (l', effects)) :
    (l.stage = .serving ∧ l.slot.closed ∧ l.slot.pending = none ∨ l.stage = .stopping) ∧
      l'.slot = l.slot ∧ l'.stage ≠ .unstarted := by
  unfold leave? at h
  split at h
  · rename_i hs _ hp
    split at h
    · cases h
    · rename_i hc
      refine ⟨.inl ⟨hs, by simpa using hc, hp⟩, ?_⟩
      split at h <;> obtain ⟨rfl, -⟩ := Prod.mk.inj (Option.some.inj h) <;> exact ⟨rfl, nofun⟩
  · rename_i hs _
    obtain ⟨rfl, -⟩ := Prod.mk.inj (Option.some.inj h)
    exact ⟨.inr hs, rfl, nofun⟩
  · cases h

private theorem InOrder.offer (h : l.InOrder) (r : Request) :
    InOrder { l with slot := (l.slot.offer r).2 } := by
  rcases h with hs | hs | ⟨hc, hp⟩
  · exact .inl hs
  · exact .inr (.inl hs)
  · have ho : (l.slot.offer r).2 = l.slot := by simp [PendingSlot.offer, hc]
    exact .inr (.inr (by simp [ho, hc, hp]))

private theorem InOrder.close (h : l.InOrder) : InOrder { l with slot := l.slot.close.2 } := by
  rcases h with hs | hs | ⟨hc, hp⟩
  · exact .inl hs
  · exact .inr (.inl hs)
  · exact .inr (.inr (by simp [PendingSlot.close, hp]))

end DispatchLoop

private theorem PendingSlot.waits_close {s : PendingSlot} {block : List Queued}
    (h : s.Waits block) :
    s.close.2.Waits block ∨
      (s.close.2.Waits [] ∧ ∀ x ∈ block, x.trigger.isStop = false) := by
  unfold Waits at h ⊢
  cases hp : s.pending with
  | none =>
    rw [hp] at h
    exact .inl (by simpa [close, hp] using h)
  | some r =>
    have hr : r.StandsFor block := by simpa [hp] using h
    cases hb : r.isStop with
    | true => exact .inl (by simpa [close, hasStop, hp, hb] using hr)
    | false =>
      refine .inr ⟨by simp [close, hasStop, hp, hb], fun x hx => ?_⟩
      exact Request.Digests.not_isStop hr hb (List.mem_map_of_mem hx)

namespace Pipeline

section
variable {p : Pipeline} {moved : Moved} {now : Time} {m : Move}

/-- A loop that goes its way keeps to it, and once it has begun it has begun. It is given up only if
it never began. -/
theorem inOrder_step (h : p.loop.InOrder) (hm : m ≠ .abandon ∨ p.loop.stage ≠ .unstarted)
    (hs : p.step? now m = some moved) :
    moved.pipeline.loop.InOrder ∧
      (p.loop.stage ≠ .unstarted → moved.pipeline.loop.stage ≠ .unstarted) := by
  cases m with
  | submit t =>
    obtain ⟨s, q, -, hp⟩ := step?_submit hs
    exact hp ▸ ⟨h, id⟩
  | start =>
    simp only [step?, Option.ite_none_right_eq_some] at hs
    obtain rfl := Option.some.inj hs.2
    exact ⟨.inr (.inl rfl), fun _ hun => by cases hun⟩
  | flush =>
    obtain ⟨-, r, -, -, -, hl⟩ := step?_flush hs
    exact hl ▸ ⟨h.offer r, id⟩
  | fold =>
    obtain ⟨-, t, -, -, -, hl⟩ := step?_fold hs
    rw [hl]
    split
    · exact ⟨h.offer _, id⟩
    · exact ⟨h, id⟩
  | endCoalescing =>
    obtain ⟨-, hp⟩ := step?_endCoalescing hs
    exact hp ▸ ⟨h, id⟩
  | serve =>
    obtain ⟨⟨l, effects⟩, hl, rfl⟩ := Option.map_eq_some_iff.mp hs
    have hst : l.stage = .serving := (DispatchLoop.serve?_stage hl).2
    exact ⟨.inr (.inl hst), fun _ hun => by cases hst.symm.trans hun⟩
  | signal s =>
    obtain ⟨⟨l, effects⟩, hl, rfl⟩ := Option.map_eq_some_iff.mp hs
    obtain ⟨hst, hsl⟩ := DispatchLoop.signal?_stage hl
    change l.InOrder ∧ (_ → l.stage ≠ _)
    unfold DispatchLoop.InOrder
    rw [hst, hsl]
    exact ⟨h, id⟩
  | leave =>
    obtain ⟨⟨l, effects⟩, hl, rfl⟩ := Option.map_eq_some_iff.mp hs
    obtain ⟨hst, hsl, hun⟩ := DispatchLoop.leave?_stage hl
    have hc : p.loop.slot.closed ∧ p.loop.slot.pending = none := by
      rcases hst with ⟨-, hc⟩ | hst
      · exact hc
      · simpa [DispatchLoop.InOrder, hst] using h
    exact ⟨.inr (.inr (hsl ▸ hc)), fun _ => hun⟩
  | observe index =>
    obtain ⟨observers, -, rfl⟩ := Option.map_eq_some_iff.mp hs
    exact ⟨h, id⟩
  | drained =>
    simp only [step?, Option.ite_none_right_eq_some, Bool.and_eq_true, decide_eq_true_iff] at hs
    obtain ⟨⟨hst, -⟩, hs⟩ := hs
    obtain rfl := Option.some.inj hs
    have hc : p.loop.slot.closed ∧ p.loop.slot.pending = none := by
      simpa [DispatchLoop.InOrder, hst] using h
    exact ⟨.inr (.inr hc), fun _ hun => by cases hun⟩
  | closeQueue =>
    obtain rfl := Option.some.inj hs
    exact ⟨h, id⟩
  | closeSlot =>
    obtain rfl := Option.some.inj hs
    exact ⟨h.close, id⟩
  | abandon =>
    have hun : p.loop.stage ≠ .unstarted := hm.resolve_left fun hne => hne rfl
    simp [step?, canStart, hun] at hs

theorem inOrder_run (moves : List (Time × Move)) (h : p.loop.InOrder)
    (hm : (∀ m ∈ moves, m.2 ≠ .abandon) ∨ p.loop.stage ≠ .unstarted) :
    (p.run moves).loop.InOrder := by
  induction moves generalizing p with
  | nil => exact h
  | cons head rest ih =>
    obtain ⟨now, m⟩ := head
    have hr : (∀ m ∈ rest, m.2 ≠ .abandon) ∨ p.loop.stage ≠ .unstarted :=
      hm.imp_left fun hm m hm' => hm m (List.mem_cons_of_mem _ hm')
    simp only [run]
    cases hs : p.step? now m with
    | none => exact ih h hr
    | some moved =>
      have hn := inOrder_step h (hm.imp_left fun hm => hm (now, m) List.mem_cons_self) hs
      exact ih hn.1 (hr.imp_right hn.2)

end

/-- In a shutdown nothing is lost of what a request was made of, apart from what does not stop, and
the queue stays as the shutdown found it. -/
structure Closing (p : Pipeline) (g : Ledger) (blocks : List (List Queued))
    (pending lost queued : List Queued) : Prop
    extends Accounts p g blocks pending lost queued where
  not_isStop : ∀ x ∈ lost, x.trigger.isStop = false
  cancelled_eq : p.cancelled = true
  queue_closed : p.queue.closed = true

section
variable {p p' : Pipeline} {g : Ledger} {moved : Moved} {now : Time} {m : Move}
  {blocks : List (List Queued)} {pending window lost queued : List Queued}

private theorem Flows.closeQueue (h : p.Flows g blocks pending window queued)
    (hs : p.step? now .closeQueue = some moved) :
    moved.pipeline.Closing g blocks pending window queued := by
  obtain rfl := Option.some.inj hs
  have hw : ∀ x ∈ window, x.trigger.isStop = false :=
    fun x hx => h.gathers.not_isStop _ (List.mem_map_of_mem hx)
  exact ⟨⟨h.kept_eq, h.taken, h.waits, h.held.close, h.sorted, h.below⟩, hw, rfl, rfl⟩

private theorem Closing.aside (h : p.Closing g blocks pending lost queued) (ha : p.Aside p') :
    p'.Closing g blocks pending lost queued :=
  { h.same ha.queue_eq ha.slot_eq with
    not_isStop := h.not_isStop
    cancelled_eq := ha.cancelled_eq ▸ h.cancelled_eq
    queue_closed := ha.queue_eq ▸ h.queue_closed }

private theorem Closing.closeSlot (h : p.Closing g blocks pending lost queued)
    (hs : p.step? now .closeSlot = some moved) :
    ∃ pending lost, moved.pipeline.Closing g blocks pending lost queued := by
  obtain rfl := Option.some.inj hs
  rcases PendingSlot.waits_close h.waits with hw | ⟨hw, hn⟩
  · exact ⟨pending, lost, { h with waits := hw }⟩
  · refine ⟨[], pending ++ lost, { h with kept_eq := ?_, waits := hw, not_isStop := ?_ }⟩
    · rw [h.kept_eq]
      simp
    · exact fun x hx => (List.mem_append.mp hx).elim (hn x) (h.not_isStop x)

/-- Nothing leaves the queue any more, and no stop is lost on the way to the dispatcher. -/
theorem Closing.step (h : p.Closing g blocks pending lost queued)
    (hs : p.step? now m = some moved) :
    (p.note g m).kept = g.kept ∧ ∃ blocks pending lost,
      moved.pipeline.Closing (p.note g m) blocks pending lost queued := by
  have hcancelled : p.canCoalesce = false := by simp [canCoalesce, h.cancelled_eq]
  cases m with
  | submit t =>
    obtain ⟨s, q, hq, -⟩ := step?_submit hs
    have hopen := (TriggerQueue.submit_eq_ok hq).1
    rw [h.queue_closed] at hopen
    cases hopen
  | flush => exact absurd (step?_flush hs).1 (by simp [hcancelled])
  | fold => exact absurd (step?_fold hs).1 (by simp [hcancelled])
  | endCoalescing =>
    obtain ⟨-, hp⟩ := step?_endCoalescing hs
    rw [hp]
    exact ⟨rfl, _, _, _, { h with }⟩
  | serve =>
    obtain ⟨r, hp, hq, -, hn, hl⟩ := step?_serve hs
    exact ⟨rfl, _, _, _, { h.toAccounts.serve hp hq hl with
      not_isStop := h.not_isStop
      cancelled_eq := hn.trans h.cancelled_eq
      queue_closed := hq ▸ h.queue_closed }⟩
  | start => exact ⟨rfl, _, _, _, h.aside (step?_start hs)⟩
  | signal s => exact ⟨rfl, _, _, _, h.aside (step?_signal hs)⟩
  | leave => exact ⟨rfl, _, _, _, h.aside (step?_leave hs)⟩
  | observe index => exact ⟨rfl, _, _, _, h.aside (step?_observe hs)⟩
  | drained => exact ⟨rfl, _, _, _, h.aside (step?_drained hs)⟩
  | abandon => exact ⟨rfl, _, _, _, h.aside (step?_abandon hs)⟩
  | closeQueue =>
    obtain rfl := Option.some.inj hs
    exact ⟨rfl, _, _, _, { h with held := h.held.close, cancelled_eq := rfl, queue_closed := rfl }⟩
  | closeSlot => exact ⟨rfl, blocks, h.closeSlot hs⟩

theorem Closing.run (h : p.Closing g blocks pending lost queued) (moves : List (Time × Move)) :
    (p.ledger g moves).kept = g.kept ∧ ∃ blocks pending lost,
      (p.run moves).Closing (p.ledger g moves) blocks pending lost queued := by
  induction moves generalizing p g blocks pending lost with
  | nil => exact ⟨rfl, _, _, _, h⟩
  | cons head rest ih =>
    obtain ⟨now, m⟩ := head
    simp only [Pipeline.run, ledger]
    cases hs : p.step? now m with
    | none => exact ih h
    | some moved =>
      obtain ⟨hk, _, _, _, hn⟩ := h.step hs
      obtain ⟨hk', hr⟩ := ih hn
      exact ⟨hk'.trans hk, hr⟩

end

private theorem exists_taken {taken : List Request} {blocks : List (List Queued)} {x : Queued}
    (h : List.Forall₂ Request.StandsFor taken blocks) (hx : x ∈ blocks.flatten) :
    ∃ r b, (r, b) ∈ taken.zip blocks ∧ x ∈ b ∧ r.StandsFor b := by
  induction h with
  | nil => cases hx
  | @cons r b taken blocks hr h ih =>
    rw [List.flatten_cons, List.mem_append] at hx
    rcases hx with hx | hx
    · exact ⟨r, b, List.mem_cons_self, hx, hr⟩
    · obtain ⟨r', b', hm, hx', hr'⟩ := ih hx
      exact ⟨r', b', List.mem_cons_of_mem _ hm, hx', hr'⟩

section
variable {p : Pipeline} {g : Ledger} {blocks : List (List Queued)} {pending lost queued : List Queued}

private theorem Closing.pending_eq_nil (h : p.Closing g blocks pending lost queued)
    (ho : p.loop.InOrder)
    (he : p.loop.stage = .ended) : pending = [] := by
  have hp : p.loop.slot.pending = none := by
    rcases ho with hs | hs | ⟨-, hp⟩
    · simp [hs] at he
    · simp [hs] at he
    · exact hp
  simpa [PendingSlot.Waits, hp] using h.waits

private theorem Closing.stop_mem_iff {x : Queued} (h : p.Closing g blocks [] lost queued)
    (hx : x ∈ g.kept) (hstop : x.trigger.isStop) :
    (∃ r b, (r, b) ∈ g.taken.zip blocks ∧ r.isStop ∧ x ∈ b) ↔ x ∉ queued := by
  have hk : g.kept = blocks.flatten ++ (lost ++ queued) := by
    rw [h.kept_eq]
    simp
  have hn : (blocks.flatten ++ (lost ++ queued)).Nodup :=
    hk ▸ (TriggerQueue.nodup_of_sorted h.sorted).filter _
  constructor
  · rintro ⟨r, b, hm, -, hxb⟩ hq
    have hf : x ∈ blocks.flatten := List.mem_flatten_of_mem (List.of_mem_zip hm).2 hxb
    exact (List.nodup_append.mp hn).2.2 x hf x (List.mem_append_right _ hq) rfl
  · intro hq
    rw [hk, List.mem_append, List.mem_append] at hx
    rcases hx with hx | hx | hx
    · obtain ⟨r, b, hm, hxb, hr⟩ := exists_taken h.taken hx
      have hs := Request.Digests.isStop_iff hr
      exact ⟨r, b, hm, hs.mpr ⟨_, List.mem_map_of_mem hxb, hstop⟩, hxb⟩
    · rw [h.not_isStop x hx] at hstop
      cases hstop
    · exact absurd hx hq

end

/-- A coordinator was started and is shut down, at any moment and however the steps come: when the
shutdown is over, a stop that was accepted and not displaced belongs to a stop request that was
dispatched if and only if it was not in the queue any more when the shutdown began. A shutdown that is
dropped before the dispatcher's loop has ended is not meant. -/
theorem stop_taken_iff (c : Config) (before rest : List (Time × Move)) (now : Time)
    (hb : ∀ m ∈ before, m.2.closes = false) (hs : ((new c).run before).canStart = false)
    (he : (((new c).run before).run ((now, .closeQueue) :: rest)).loop.stage = .ended) :
    let p := (new c).run before
    let g := (new c).ledger {} before
    let taken := (p.ledger g ((now, .closeQueue) :: rest)).taken
    ∃ blocks lost,
      g.kept = blocks.flatten ++ lost ++ p.queue.contents ∧
        List.Forall₂ Request.StandsFor taken blocks ∧
        (∀ x ∈ lost, x.trigger.isStop = false) ∧
        ∀ x ∈ g.kept, x.trigger.isStop →
          ((∃ r b, (r, b) ∈ taken.zip blocks ∧ r.isStop ∧ x ∈ b) ↔ x ∉ p.queue.contents) := by
  intro p g taken
  obtain ⟨_, _, _, queued, hf⟩ := (flows_new c).run hb
  have hnew : (new c).loop.InOrder := .inl rfl
  have hnone : ∀ m ∈ before, m.2 ≠ .abandon := fun m hm ha => by
    simpa [ha, Move.closes] using hb m hm
  have horder : p.loop.InOrder := inOrder_run before hnew (.inl hnone)
  have hstarted : p.loop.stage ≠ .unstarted := of_decide_eq_false hs
  have hclose : p.step? now .closeQueue =
      some ({ p with queue := p.queue.close, cancelled := true }.quiet []) := rfl
  obtain ⟨hkept, blocks, pending, lost, hc⟩ := (hf.closeQueue hclose).run rest
  have hended := (inOrder_step horder (.inr hstarted) hclose).1
  replace hended := inOrder_run rest hended (.inr hstarted)
  obtain rfl := hc.pending_eq_nil hended he
  have hcontents : p.queue.contents = queued := hf.held.contents_eq
  rw [hcontents]
  refine ⟨blocks, lost, ?_, hc.taken, hc.not_isStop, fun x hx hstop => ?_⟩
  · rw [← List.append_nil blocks.flatten, ← hc.kept_eq]
    exact hkept.symm
  · exact hc.stop_mem_iff (hkept ▸ hx) hstop

/-- A stop that waits in the slot when the shutdown begins is dispatched. -/
theorem stop_taken_iff_of_waiting :
    let stop : Trigger := .ofReason (.plain .switchOff) "ui" 0
    let before := [(0, .start), (0, .submit stop), (0, .fold)]
    let rest := [(0, .endCoalescing), (0, .closeSlot), (0, .serve), (0, .leave), (0, .drained)]
    let p := (new {}).run before
    let g := (new {}).ledger {} before
    let taken := (p.ledger g ((0, .closeQueue) :: rest)).taken
    ∃ blocks lost,
      g.kept = blocks.flatten ++ lost ++ p.queue.contents ∧
        List.Forall₂ Request.StandsFor taken blocks ∧
        (∀ x ∈ lost, x.trigger.isStop = false) ∧
        ∀ x ∈ g.kept, x.trigger.isStop →
          ((∃ r b, (r, b) ∈ taken.zip blocks ∧ r.isStop ∧ x ∈ b) ↔ x ∉ p.queue.contents) := by
  intro stop before rest
  exact stop_taken_iff {} before rest 0 (by decide) (by decide) (by decide)

/-- A stop that is still in the queue when the shutdown begins is never dispatched: the work from
queue to slot ends before it takes another trigger. -/
theorem stop_lost_in_queue :
    let stop : Trigger := .ofReason (.plain .switchOff) "ui" 0
    let before := [(0, .start), (0, .submit stop)]
    let shutdown := [(0, .closeQueue), (0, .endCoalescing), (0, .closeSlot), (0, .leave),
      (0, .drained)]
    let p := (new { coordinator := { stopOnShutdown := false } }).run before
    let g := (new { coordinator := { stopOnShutdown := false } }).ledger {} before
    (p.run shutdown).loop.stage = .ended ∧ stop.isStop ∧ g.kept = [⟨0, stop⟩] ∧
      (p.ledger g shutdown).taken = [] := by
  decide

end Pipeline
end RestartCoordinator
