import RestartCoordinator.Proofs.Pipeline.History
/-!
# The counts of a run

The tally is kept by both halves of the pipeline at many points. It agrees with what can be read off
the history of a run: every request that was made was merged, taken, thrown away or still waits;
every window that was opened came to something; every dispatch that is over was counted once.

A shutdown closes the slot after the queue. With that order the slot never refuses a request.
-/
namespace RestartCoordinator

/-- The report of an attempt that is to be made again. -/
def Event.isRetrying : Event → Bool
  | .attempted report =>
    match report.outcome with
    | .retrying .. => true
    | _ => false
  | _ => false

namespace Made

/-- The dispatcher takes a request from the slot. -/
@[simp] def takes (s : Made) : Bool :=
  match s.move with
  | .serve => true
  | _ => false

/-- The slot is closed and throws a request away. -/
@[simp] def discards (s : Made) : Bool :=
  match s.move with
  | .closeSlot => s.before.loop.slot.close.1.isSome
  | _ => false

/-- A window is given up because the work from queue to slot ends. -/
@[simp] def givesUp (s : Made) : Bool :=
  match s.move with
  | .endCoalescing => s.before.debouncer.isOpen
  | _ => false

/-- A stop is published that makes void what was in a window. -/
@[simp] def voids (s : Made) : Bool :=
  s.moved.events.any fun
    | .stopPreempted _ superseded => superseded ≠ 0
    | _ => false

/-- The move may offer a request to the slot. -/
def feeds (s : Made) : Bool :=
  match s.move with
  | .flush | .fold => true
  | _ => false

/-- A dispatch begins, if only that which stops the service at the end. -/
@[simp] def begins (s : Made) : Bool :=
  match s.move with
  | .serve => true
  | .leave => s.before.loop.stage = .serving && s.after.loop.stage = .stopping
  | _ => false

/-- A dispatch is over. -/
@[simp] def finishes (s : Made) : Bool :=
  s.after.loop.dispatcher.isIdle && (s.begins || !s.before.loop.dispatcher.isIdle)

/-- A dispatch is abandoned while it waits for its next attempt. -/
@[simp] def abandons (s : Made) : Bool :=
  match s.move with
  | .signal .stopWanted => true
  | _ => false

end Made

namespace Dispatcher

variable {d d' : Dispatcher} {now : Time} {s : Signal} {effects : List Effect}

private theorem Begins.ne_stopWanted {r : Request} {recovery : Recovery}
    (hb : d.Begins s r recovery) :
    s ≠ .stopWanted := by
  rcases hb with ⟨-, rfl, -⟩ | ⟨_, _, -, rfl, -, -⟩
  · exact nofun
  · exact nofun

private theorem ne_stopWanted_of_failure? {c : Call} {f : Failure} (hf : d.failure? c s = some f) :
    s ≠ .stopWanted := by
  rintro rfl
  cases c <;> cases hf

/-- A turn that ends a dispatch counts one way in which it ended, unless it was abandoned; a retry is
counted when it is published; nothing else is counted. -/
theorem Goes.counts (hg : d.Goes now s d' effects) (ha : d.awaits s) (t : Tally) :
    let t' := (effects.filterMap Effect.occurrence?).foldl Tally.record t
    t'.windowsOpened = t.windowsOpened ∧ t'.requestsCoalesced = t.requestsCoalesced ∧
      t'.stopPreemptions = t.stopPreemptions ∧ t'.requestsMerged = t.requestsMerged ∧
      t'.retries = t.retries + (effects.filterMap Effect.event?).countP Event.isRetrying ∧
      t'.dispatches + t'.skipped + t'.failures + (if s = .stopWanted then 1 else 0) =
        t.dispatches + t.skipped + t.failures + d'.isIdle.toNat := by
  cases hg with
  | ignored hs => simp [hs] at ha
  | skipped hb | stops hb | stopsNothing hb | restarts hb | starts hb | releases hb =>
    have hne : s ≠ .stopWanted := hb.ne_stopWanted
    simp [List.filterMap_cons, Effect.occurrence?, Effect.event?, Event.isRetrying, Tally.record,
      report, isIdle, hne] <;> omega
  | cut | started | stopped | restopped | released =>
    simp [List.filterMap_cons, Effect.occurrence?, Effect.event?, Event.isRetrying, Tally.record,
      report, isIdle] <;> omega
  | retries ht hf | givesUp ht hf =>
    have hne : s ≠ .stopWanted := ne_stopWanted_of_failure? hf
    simp [List.filterMap_cons, Effect.occurrence?, Effect.event?, Event.isRetrying, Tally.record,
      report, isIdle, hne] <;> omega

end Dispatcher

namespace Pipeline

/-- What holds before and after each move of a run in which the slot is closed after the queue. -/
structure Steady (p : Pipeline) : Prop where
  fits : p.loop.dispatcher.Fits
  paired : p.Paired
  nonempty : ∀ w, p.debouncer.window = some w → w.reasons ≠ []
  cancelled : p.loop.slot.closed → p.cancelled
  kept : p.loop.slot.closed → ∀ r, p.loop.slot.pending = some r → r.isStop

private theorem steady_fresh (c : Config) (observers : Observers) : (fresh c observers).Steady :=
  ⟨fits_fresh c observers, paired_fresh c observers, nofun, nofun, nofun⟩

section
variable {p p' : Pipeline} {moved : Moved} {now : Time} {m : Move}

private theorem Steady.slot_open (h : p.Steady) (hc : p.canCoalesce) :
    p.loop.slot.closed = false := by
  by_contra hclosed
  have hcancelled : p.cancelled := h.cancelled (by simpa using hclosed)
  simp [canCoalesce, hcancelled] at hc

private theorem Steady.aside (h : p.Steady) (ha : p.Aside p') (hf : p'.loop.dispatcher.Fits)
    (hp : p'.Paired) : p'.Steady where
  fits := hf
  paired := hp
  nonempty := ha.debouncer_eq ▸ h.nonempty
  cancelled := ha.cancelled_eq ▸ ha.slot_eq ▸ h.cancelled
  kept := ha.slot_eq ▸ h.kept

theorem Steady.step (h : p.Steady) (hm : m = .closeSlot → p.cancelled)
    (hs : p.step? now m = some moved) : moved.pipeline.Steady := by
  have hf := fits_step h.fits hs
  have hp := h.paired.step hs
  cases m with
  | submit t =>
    obtain ⟨s, q, -, he⟩ := step?_submit hs
    rw [he] at hf hp ⊢
    exact ⟨hf, hp, h.nonempty, h.cancelled, h.kept⟩
  | flush =>
    have ho := h.slot_open (step?_flush hs).1
    obtain ⟨w, -, -, rfl⟩ := step?_flush_eq hs
    refine ⟨hf, hp, ?_, ?_, ?_⟩ <;> simp [count, PendingSlot.offer, ho]
  | fold =>
    have ho := h.slot_open (step?_fold hs).1
    obtain ⟨-, t, queue, -, ⟨-, rfl⟩ | ⟨-, -, rfl⟩ | ⟨-, w, -, rfl⟩⟩ := step?_fold_eq hs
    · refine ⟨hf, hp, ?_, ?_, ?_⟩ <;> simp [count, PendingSlot.offer, ho]
    · exact ⟨hf, hp, by simp [quiet, count], h.cancelled, h.kept⟩
    · exact ⟨hf, hp, by simp [quiet, Debouncer.join], h.cancelled, h.kept⟩
  | endCoalescing =>
    obtain ⟨-, he⟩ := step?_endCoalescing hs
    rw [he] at hf hp ⊢
    exact ⟨hf, hp, fun w hw => (by cases hw), h.cancelled, h.kept⟩
  | serve =>
    obtain ⟨r, -, -, hd, hc, hl⟩ := step?_serve hs
    have hclosed : moved.pipeline.loop.slot.closed = p.loop.slot.closed := by rw [hl]; rfl
    have hnone : moved.pipeline.loop.slot.pending = none := by rw [hl]; rfl
    refine ⟨hf, hp, hd ▸ h.nonempty, ?_, by simp [hnone]⟩
    rw [hclosed, hc]
    exact h.cancelled
  | start => exact h.aside (step?_start hs) hf hp
  | signal s => exact h.aside (step?_signal hs) hf hp
  | leave => exact h.aside (step?_leave hs) hf hp
  | observe index => exact h.aside (step?_observe hs) hf hp
  | drained => exact h.aside (step?_drained hs) hf hp
  | abandon => exact h.aside (step?_abandon hs) hf hp
  | closeQueue =>
    obtain rfl := Option.some.inj hs
    exact ⟨hf, hp, h.nonempty, fun _ => rfl, h.kept⟩
  | closeSlot =>
    obtain rfl := Option.some.inj hs
    refine ⟨hf, hp, h.nonempty, fun _ => hm rfl, fun _ r hr => ?_⟩
    simp only [quiet, PendingSlot.close, Option.ite_none_right_eq_some] at hr
    simpa [PendingSlot.hasStop, hr.2] using hr.1

/-- From one pipeline to another, all counts have gone as the history between them tells. -/
structure Balance (p : Pipeline) (h : List Made) (p' : Pipeline) : Prop where
  requests : p'.tally.requestsCoalesced + p'.tally.stopPreemptions +
      (p.tally.requestsMerged + p.loop.slot.pending.toList.length) =
    p.tally.requestsCoalesced + p.tally.stopPreemptions +
      (p'.tally.requestsMerged + h.countP Made.takes + p'.loop.slot.pending.toList.length +
        h.countP Made.discards)
  windows : p'.tally.windowsOpened +
      (p.tally.requestsCoalesced + p.debouncer.window.toList.length) =
    p.tally.windowsOpened + (p'.tally.requestsCoalesced + h.countP Made.voids +
      p'.debouncer.window.toList.length + h.countP Made.givesUp)
  dispatches : h.countP Made.finishes +
      (p.tally.dispatches + p.tally.skipped + p.tally.failures) =
    p'.tally.dispatches + p'.tally.skipped + p'.tally.failures + h.countP Made.abandons
  begun : h.countP Made.begins + (!p.loop.dispatcher.isIdle).toNat =
    h.countP Made.finishes + (!p'.loop.dispatcher.isIdle).toNat
  retries : p'.tally.retries =
    p.tally.retries + (h.flatMap (·.moved.events)).countP Event.isRetrying

theorem Balance.refl (p : Pipeline) : p.Balance [] p := by
  constructor <;> simp

theorem Balance.trans {p'' : Pipeline} {h h' : List Made} (hb : p.Balance h p')
    (hb' : p'.Balance h' p'') : p.Balance (h ++ h') p'' := by
  obtain ⟨hr, hw, hd, hn, ht⟩ := hb
  obtain ⟨hr', hw', hd', hn', ht'⟩ := hb'
  constructor <;> simp only [List.countP_append, List.flatMap_append] <;> omega

private theorem Balance.submit {t : Trigger} (hs : p.step? now (.submit t) = some moved) :
    p.Balance [⟨p, now, .submit t, moved⟩] moved.pipeline := by
  simp only [step?, Pipeline.submit] at hs
  cases hq : p.queue.submit t with
  | error f => simp [hq, bind, Except.bind, Except.toOption] at hs
  | ok answer =>
    simp only [hq, bind, Except.bind, pure, Except.pure, Except.toOption, Option.map_some] at hs
    obtain rfl := Option.some.inj hs
    cases answer.1 <;> constructor <;> simp [quiet, Made.after, Event.isRetrying]

private theorem countP_handOff (q : Pipeline) (r : Request) {e : Event}
    (he : e.isRetrying = false) :
    (q.handOff r [e]).events.countP Event.isRetrying = 0 := by
  have hm : (Event.requestMerged r.id).isRetrying = false := rfl
  rcases q.handOff_events r [e] with h | h <;> simp [h, he, hm]

private theorem any_handOff (q : Pipeline) (r : Request) (e : Event) (f : Event → Bool)
    (hf : f (.requestMerged r.id) = false) : (q.handOff r [e]).events.any f = f e := by
  rcases q.handOff_events r [e] with h | h <;> simp [h, hf]

private theorem Balance.flush (h : p.Steady) (hs : p.step? now .flush = some moved) :
    p.Balance [⟨p, now, .flush, moved⟩] moved.pipeline := by
  have ho := h.slot_open (step?_flush hs).1
  obtain ⟨w, hw, -, rfl⟩ := step?_flush_eq hs
  constructor
  case requests =>
    simp [handOff_tally, count, Tally.record, ho, PendingSlot.offer]
    omega
  case windows =>
    simp [handOff_tally, any_handOff, count, Tally.record, ho, hw]
  case dispatches =>
    simp [handOff_tally, count, Tally.record, ho, Made.after]
  case begun =>
    simp [count, Made.after]
  case retries =>
    rw [List.flatMap_singleton, countP_handOff _ _ rfl, handOff_tally]
    · rfl
    · exact ho

private theorem Balance.fold (h : p.Steady) (hs : p.step? now .fold = some moved) :
    p.Balance [⟨p, now, .fold, moved⟩] moved.pipeline := by
  have ho := h.slot_open (step?_fold hs).1
  obtain ⟨-, t, queue, -, ⟨-, rfl⟩ | ⟨-, hw, rfl⟩ | ⟨-, w, hw, rfl⟩⟩ := step?_fold_eq hs
  · constructor
    case requests =>
      simp [handOff_tally, count, Tally.record, ho, PendingSlot.offer]
      omega
    case windows =>
      cases hw : p.debouncer.window with
      | none => simp [handOff_tally, any_handOff, count, Tally.record, ho]
      | some w => simp [handOff_tally, any_handOff, count, Tally.record, ho, h.nonempty w hw]
    case dispatches =>
      simp [handOff_tally, count, Tally.record, ho, Made.after]
    case begun =>
      simp [count, Made.after]
    case retries =>
      rw [List.flatMap_singleton, countP_handOff _ _ rfl, handOff_tally]
      · rfl
      · exact ho
  · constructor <;> simp [quiet, count, Tally.record, Made.after, Event.isRetrying, hw]
    omega
  · constructor <;> simp [quiet, Made.after, hw]

private theorem countP_one (f : Made → Bool) (s : Made) : [s].countP f = (f s).toNat := by
  cases hs : f s <;> simp [hs]

private theorem voids_turned {s : Signal} (ht : p.Turned now s moved) :
    Made.voids ⟨p, now, m, moved⟩ = false := by
  simp only [Made.voids, ht.events, List.any_eq_false, List.mem_filterMap]
  rintro e ⟨effect, -, he⟩
  cases effect <;> cases he <;> simp

private theorem Balance.turned {s : Signal} (h : p.Steady) (ht : p.Turned now s moved)
    (hbegins : Made.begins ⟨p, now, m, moved⟩ = p.loop.dispatcher.isIdle)
    (habandons : Made.abandons ⟨p, now, m, moved⟩ = decide (s = .stopWanted))
    (hgives : Made.givesUp ⟨p, now, m, moved⟩ = false)
    (hdiscards : Made.discards ⟨p, now, m, moved⟩ = false)
    (hwaiting : p.loop.slot.pending.toList.length =
      (Made.takes ⟨p, now, m, moved⟩).toNat + moved.pipeline.loop.slot.pending.toList.length) :
    p.Balance [⟨p, now, m, moved⟩] moved.pipeline := by
  obtain ⟨hw, hc, hp, hm, hr, hf⟩ := (ht.goes h.fits).counts ht.awaits p.tally
  rw [← ht.tally] at hw hc hp hm hr hf
  rw [← ht.events] at hr
  have hfinishes : Made.finishes ⟨p, now, m, moved⟩ = moved.pipeline.loop.dispatcher.isIdle := by
    simp only [Made.finishes, hbegins, Bool.or_not_self, Bool.and_true]
    rfl
  have hcut : (if s = .stopWanted then 1 else 0) = (decide (s = .stopWanted)).toNat := by
    by_cases hs : s = .stopWanted <;> simp [hs]
  constructor
  case requests =>
    rw [countP_one, countP_one, hdiscards, hc, hp, hm, hwaiting]
    simp only [Bool.toNat_false]
    omega
  case windows =>
    rw [countP_one, countP_one, voids_turned ht, hgives, hw, hc, ht.debouncer]
    simp
  case dispatches =>
    rw [countP_one, countP_one, hfinishes, habandons]
    omega
  case begun =>
    rw [countP_one, countP_one, hfinishes, hbegins]
    cases p.loop.dispatcher.isIdle <;> cases moved.pipeline.loop.dispatcher.isIdle <;> rfl
  case retries => rw [List.flatMap_singleton, hr]

private theorem Balance.serve (h : p.Steady) (hs : p.step? now .serve = some moved) :
    p.Balance [⟨p, now, .serve, moved⟩] moved.pipeline := by
  obtain ⟨r, hp, hidle, ht⟩ := step?_serve_turned hs
  obtain ⟨-, -, -, -, -, hl⟩ := step?_serve hs
  have hidle : p.loop.dispatcher.isIdle = true := decide_eq_true hidle
  refine .turned h ht ?_ rfl rfl rfl ?_
  · exact hidle.symm
  · rw [hl, hp]
    rfl

private theorem Balance.signal {s : Signal} (h : p.Steady)
    (hs : p.step? now (.signal s) = some moved) :
    p.Balance [⟨p, now, .signal s, moved⟩] moved.pipeline := by
  obtain ⟨hbusy, -, ht⟩ := step?_signal_turned hs
  have hidle : p.loop.dispatcher.isIdle = false := decide_eq_false hbusy
  refine .turned h ht ?_ ?_ rfl rfl ?_
  · exact hidle.symm
  · cases s <;> rfl
  · rw [(step?_signal hs).slot_eq]
    exact (Nat.zero_add _).symm

private theorem Balance.leave (h : p.Steady) (hs : p.step? now .leave = some moved) :
    p.Balance [⟨p, now, .leave, moved⟩] moved.pipeline := by
  have ha := step?_leave hs
  obtain ⟨hidle, ⟨hst, -, -, hst', ht⟩ | ⟨-, hl, -, htally, he⟩⟩ := step?_leave_turned hs
  · have hidle : p.loop.dispatcher.isIdle = true := decide_eq_true hidle
    refine .turned h ht ?_ rfl rfl rfl ?_
    · simp [Made.begins, Made.after, hst, hst', hidle]
    · rw [ha.slot_eq]
      exact (Nat.zero_add _).symm
  · constructor <;>
      simp [Made.after, hl, htally, he, ha.debouncer_eq]

theorem Balance.step (h : p.Steady) (hs : p.step? now m = some moved) :
    p.Balance [⟨p, now, m, moved⟩] moved.pipeline := by
  cases m with
  | submit t => exact .submit hs
  | flush => exact .flush h hs
  | fold => exact .fold h hs
  | serve => exact .serve h hs
  | signal s => exact .signal h hs
  | leave => exact .leave h hs
  | closeSlot =>
    obtain rfl := Option.some.inj hs
    cases hp : p.loop.slot.pending with
    | none => constructor <;> simp [quiet, Made.after, PendingSlot.close, PendingSlot.hasStop, hp]
    | some r =>
      cases hr : r.isStop <;> constructor <;>
        simp [quiet, Made.after, PendingSlot.close, PendingSlot.hasStop, hp, hr]
  | endCoalescing =>
    simp only [step?, Option.ite_none_right_eq_some] at hs
    obtain rfl := Option.some.inj hs.2
    cases hw : p.debouncer.window <;> constructor <;>
      simp [quiet, Made.after, endCoalescing, Debouncer.discard, Debouncer.isOpen, hw]
  | start | drained | abandon =>
    simp only [step?, Option.ite_none_right_eq_some] at hs
    obtain rfl := Option.some.inj hs.2
    constructor <;> simp [quiet, Made.after]
  | observe index =>
    obtain ⟨observers, -, rfl⟩ := Option.map_eq_some_iff.mp hs
    constructor <;> simp [quiet, Made.after]
  | closeQueue =>
    obtain rfl := Option.some.inj hs
    constructor <;> simp [quiet, Made.after]

/-- The slot throws away one request at most, and one window at most is given up. -/
structure Once (p : Pipeline) (h : List Made) (p' : Pipeline) : Prop where
  discards : h.countP Made.discards + p.loop.slot.closed.toNat ≤ p'.loop.slot.closed.toNat
  givesUp : h.countP Made.givesUp + (decide (p.coalescing = .ended)).toNat ≤
    (decide (p'.coalescing = .ended)).toNat

theorem Once.refl (p : Pipeline) : p.Once [] p := by
  constructor <;> simp

theorem Once.trans {p'' : Pipeline} {h h' : List Made} (ho : p.Once h p') (ho' : p'.Once h' p'') :
    p.Once (h ++ h') p'' := by
  obtain ⟨hd, hg⟩ := ho
  obtain ⟨hd', hg'⟩ := ho'
  constructor <;> rw [List.countP_append] <;> omega

theorem Once.step (h : p.Steady) (hs : p.step? now m = some moved) :
    p.Once [⟨p, now, m, moved⟩] moved.pipeline := by
  constructor
  case discards =>
    rw [countP_one]
    by_cases hm : m = .closeSlot
    · subst m
      obtain rfl := Option.some.inj hs
      cases hc : p.loop.slot.closed with
      | false => exact Bool.toNat_le _
      | true =>
        have hkept : p.loop.slot.close.1 = none := by
          cases hp : p.loop.slot.pending with
          | none => simp [PendingSlot.close, PendingSlot.hasStop, hp]
          | some r => simp [PendingSlot.close, PendingSlot.hasStop, hp, h.kept hc r hp]
        rw [Made.discards, hkept]
        exact Nat.le_refl 1
    · have hd : Made.discards ⟨p, now, m, moved⟩ = false := by
        cases m with
        | closeSlot => contradiction
        | _ => rfl
      rw [hd, step?_slot_closed hm hs]
      exact Nat.le_of_eq (Nat.zero_add _)
  case givesUp =>
    rw [countP_one]
    by_cases he : p.coalescing = .ended
    · have hg : Made.givesUp ⟨p, now, m, moved⟩ = false := by
        cases m with
        | endCoalescing => simp [step?, he] at hs
        | _ => rfl
      rw [hg, h.paired.coalescing_ended he hs]
      simp [he]
    · by_cases hm : m = .endCoalescing
      · subst m
        have hc : moved.pipeline.coalescing = .ended := (step?_frame hs).coalescing
        rw [hc, decide_eq_false he]
        exact Bool.toNat_le _
      · have hg : Made.givesUp ⟨p, now, m, moved⟩ = false := by
          cases m with
          | endCoalescing => contradiction
          | _ => rfl
        rw [hg, decide_eq_false he]
        exact Nat.zero_le _

/-- The slot is closed only after the queue. -/
def queueFirst : List (Time × Move) → Bool
  | [] => true
  | (_, .closeQueue) :: _ => true
  | (_, .closeSlot) :: _ => false
  | _ :: rest => queueFirst rest

theorem Steady.run (h : p.Steady) {moves : List (Time × Move)}
    (hm : p.cancelled ∨ queueFirst moves) :
    (p.run moves).Steady ∧ p.Balance (p.history moves) (p.run moves) ∧
      p.Once (p.history moves) (p.run moves) ∧
      ∀ s ∈ p.history moves, s.feeds → s.before.loop.slot.closed = false := by
  induction moves generalizing p with
  | nil => exact ⟨h, .refl p, .refl p, fun s hs => absurd hs List.not_mem_nil⟩
  | cons head rest ih =>
    obtain ⟨now, m⟩ := head
    simp only [Pipeline.run, history]
    cases hs : p.step? now m with
    | none =>
      refine ih h (hm.imp_right fun hq => ?_)
      cases m with
      | closeQueue => cases hs
      | closeSlot => cases hs
      | _ => exact hq
    | some moved =>
      have hclose : m = .closeSlot → p.cancelled := by
        rintro rfl
        exact hm.resolve_right fun hq => by cases hq
      have hrest : moved.pipeline.cancelled ∨ queueFirst rest := by
        rcases hm with hc | hq
        · exact .inl (step?_cancelled hc hs)
        · cases m with
          | closeQueue =>
            obtain rfl := Option.some.inj hs
            exact .inl rfl
          | closeSlot => cases hq
          | _ => exact .inr hq
      have hopen : Made.feeds ⟨p, now, m, moved⟩ → p.loop.slot.closed = false := by
        intro hf
        cases m with
        | flush => exact h.slot_open (step?_flush hs).1
        | fold => exact h.slot_open (step?_fold hs).1
        | _ => cases hf
      obtain ⟨hn, hb, ho, hfeeds⟩ := ih (h.step hclose hs) hrest
      refine ⟨hn, (Balance.step h hs).trans hb, (Once.step h hs).trans ho, ?_⟩
      intro s hsm
      rcases List.mem_cons.mp hsm with rfl | hsm
      · exact hopen
      · exact hfeeds s hsm

end

/-- At every moment of a run that closes the slot, if at all, after the queue: each request that was
made of triggers was merged or taken, waits, or was thrown away when the slot was closed; each window
that was opened gave a request, was made void by a stop, is open, or was given up at the end; each
dispatch that is over was counted as done, as skipped or as failed, or was abandoned; the retries are
those that were published; and the slot never refused a request. -/
theorem counts_agree (c : Config) (observers : Observers) (moves : List (Time × Move))
    (hm : queueFirst moves) :
    let p := (fresh c observers).run moves
    let h := (fresh c observers).history moves
    let t := p.statistics.tally
    t.requestsCoalesced + t.stopPreemptions =
        t.requestsMerged + h.countP Made.takes + p.loop.slot.pending.toList.length +
          h.countP Made.discards ∧
      h.countP Made.discards ≤ 1 ∧
      t.windowsOpened = t.requestsCoalesced + h.countP Made.voids +
        p.debouncer.window.toList.length + h.countP Made.givesUp ∧
      h.countP Made.givesUp ≤ 1 ∧
      h.countP Made.finishes = t.dispatches + t.skipped + t.failures + h.countP Made.abandons ∧
      h.countP Made.begins = h.countP Made.finishes + (!p.loop.dispatcher.isIdle).toNat ∧
      t.retries = (h.flatMap (·.moved.events)).countP Event.isRetrying ∧
      ∀ s ∈ h, s.feeds → ∀ r, (s.before.loop.slot.offer r).1 ≠ .rejected := by
  intro p h t
  obtain ⟨-, hb, ho, hfeeds⟩ : p.Steady ∧ (fresh c observers).Balance h p ∧
      (fresh c observers).Once h p ∧ ∀ s ∈ h, s.feeds → s.before.loop.slot.closed = false :=
    (steady_fresh c observers).run (.inr hm)
  obtain ⟨hrequests, hwindows, hdispatches, hbegun, hretries⟩ := hb
  have htally : (fresh c observers).tally = .zero := rfl
  have hpending : (fresh c observers).loop.slot.pending = none := rfl
  have hwindow : (fresh c observers).debouncer.window = none := rfl
  have hidle : (fresh c observers).loop.dispatcher.isIdle = true := rfl
  simp only [htally, hpending, hwindow, hidle, Tally.zero, Option.toList_none, List.length_nil,
    Bool.not_true, Bool.toNat_false, Nat.add_zero, Nat.zero_add]
    at hrequests hwindows hdispatches hbegun hretries
  have hdiscards : h.countP Made.discards ≤ 1 :=
    Nat.le_trans (Nat.le_add_right _ _) (Nat.le_trans ho.discards (Bool.toNat_le _))
  have hgivesUp : h.countP Made.givesUp ≤ 1 :=
    Nat.le_trans (Nat.le_add_right _ _) (Nat.le_trans ho.givesUp (Bool.toNat_le _))
  refine ⟨hrequests, hdiscards, hwindows, hgivesUp, hdispatches, hbegun, hretries, ?_⟩
  intro s hs hf r
  simp only [PendingSlot.offer, hfeeds s hs hf]
  cases s.before.loop.slot.isEmpty <;> simp

/-- A start is not answered in time and its retry is abandoned for a stop, which was merged with a
reload that waited and made a window void; a shutdown then throws away a reload and gives up a
window. -/
theorem counts_agree_in_shutdown :
    let t (r : PlainReason) (now : Time) : Time × Move :=
      (now, .submit (.ofReason (.plain r) "rules" now))
    let moves := [(0, .start), t .ruleChanged 0, (0, .fold), (500, .flush), (500, .serve),
      (510, .signal (.startAnswered .timedOut)), t .ruleChanged 520, (520, .fold), (1020, .flush),
      t .ruleChanged 1025, (1025, .fold), t .switchOff 1030, (1030, .fold),
      (1040, .signal .stopWanted), (1040, .serve), t .ruleChanged 1100, (1100, .fold),
      (1600, .flush), t .ruleChanged 1610, (1610, .fold), (1700, .closeQueue),
      (1700, .endCoalescing), (1700, .closeSlot), (1700, .leave), (1710, .observe 0),
      (1720, .observe 0), (1720, .drained)]
    let p := (fresh {} [.new .collector]).run moves
    let h := (fresh {} [.new .collector]).history moves
    let t := p.statistics.tally
    (p.loop.stage = .ended ∧ h.countP Made.takes = 2 ∧ h.countP Made.voids = 1 ∧
        h.countP Made.abandons = 1) ∧
      t.requestsCoalesced + t.stopPreemptions =
        t.requestsMerged + h.countP Made.takes + p.loop.slot.pending.toList.length +
          h.countP Made.discards ∧
      t.windowsOpened = t.requestsCoalesced + h.countP Made.voids +
        p.debouncer.window.toList.length + h.countP Made.givesUp ∧
      h.countP Made.finishes = t.dispatches + t.skipped + t.failures + h.countP Made.abandons ∧
      t.retries = (h.flatMap (·.moved.events)).countP Event.isRetrying := by
  intro t moves
  obtain ⟨hr, -, hw, -, hd, -, ht, -⟩ := counts_agree {} [.new .collector] moves (by decide)
  exact ⟨by decide, hr, hw, hd, ht⟩

end Pipeline
end RestartCoordinator
