import RestartCoordinator.Proofs.PendingSlot.Histories
/-!
# Calls that wait on the pending slot

Two calls can wait on a slot, one for a request and one for the news that a stop is wanted. They are
run, left waiting and dropped at any time, while requests are offered and taken and the slot is
closed. What carries all histories is that a call which waits and has not been woken has nothing to
wait for: a request that is offered wakes the one, a stop that is offered wakes the other, and the
closing wakes both. A request that is no stop wakes only the first, and makes no stop of what waits.
-/
namespace RestartCoordinator
namespace PendingSlot

/-- What the call for a request should say of the slot. -/
def answer (s : PendingSlot) : Poll (Option Request) :=
  match s.pending with
  | some r => .ready (some r)
  | none => if s.closed then .ready none else .pending

/-- What the call for a stop should say of the slot. -/
def stopAnswer (s : PendingSlot) : Poll Unit := if s.wantsStop then .ready () else .pending

/-- A call that waits and has not been woken has nothing to wait for. -/
structure Alert (s : PendingSlot) : Prop where
  next : s.available.waiter = .waiting → s.answer = .pending
  stopRequested : s.stopOffered.waiter = .waiting → s.stopAnswer = .pending

/-- The slot with other permits kept for its calls. -/
def withPermits (s : PendingSlot) (available stopOffered : Bool) : PendingSlot :=
  { s with
    available := { s.available with permit := available }
    stopOffered := { s.stopOffered with permit := stopOffered } }

variable {s : PendingSlot}

private theorem answer_eq_pending_iff :
    s.answer = .pending ↔ s.pending = none ∧ s.closed = false := by
  unfold answer
  cases s.pending <;> simp

private theorem stopAnswer_eq_pending_iff :
    s.stopAnswer = .pending ↔ s.closed = false ∧ ∀ r, s.pending = some r → r.isStop = false := by
  unfold stopAnswer wantsStop hasStop
  cases s.pending with
  | none => simp
  | some r => cases hr : r.isStop <;> simp [hr]

private theorem found_look (s : PendingSlot) :
    Wakeup.found look s = (s.answer, { s with pending := none }) := by
  obtain ⟨pending, closed, available, stopOffered⟩ := s
  cases pending <;> cases closed <;> rfl

private theorem found_stop (s : PendingSlot) :
    Wakeup.found (fun s : PendingSlot => if s.wantsStop then some ((), s) else none) s =
      (s.stopAnswer, s) := by
  simp only [Wakeup.found, stopAnswer]
  cases s.wantsStop <;> rfl

/-- A run of the call for a request answers for the slot as it is. -/
theorem Alert.next_eq (h : s.Alert) :
    ∃ w, s.next = (s.answer, { s with pending := none, available := w }) ∧
      (w.waiter = .waiting → s.answer = .pending) := by
  have hf := s.found_look
  obtain ⟨w, he, hw⟩ := s.available.attempt_of_alert look s (by rw [hf]; exact h.next)
  rw [hf] at he hw
  unfold PendingSlot.next
  rw [he]
  exact ⟨w, rfl, fun hwaits => congrArg Prod.fst (hw hwaits)⟩

private theorem Alert.stopRequested_eq (h : s.Alert) :
    ∃ w, s.stopRequested = (s.stopAnswer, { s with stopOffered := w }) ∧
      (w.waiter = .waiting → s.stopAnswer = .pending) := by
  have hf := s.found_stop
  obtain ⟨w, he, hw⟩ := s.stopOffered.attempt_of_alert
    (fun s : PendingSlot => if s.wantsStop then some ((), s) else none) s
    (by rw [hf]; exact h.stopRequested)
  rw [hf] at he hw
  unfold PendingSlot.stopRequested
  rw [he]
  exact ⟨w, rfl, fun hwaits => congrArg Prod.fst (hw hwaits)⟩

theorem alert_new : new.Alert := ⟨nofun, nofun⟩

private theorem Alert.withPermits (h : s.Alert) (available stopOffered : Bool) :
    (s.withPermits available stopOffered).Alert := ⟨h.next, h.stopRequested⟩

private theorem fst_step_offer (s : PendingSlot) (r : Request) : (s.step (.offer r)).1 =
    (s.offer r).2 := by
  dsimp only [step]
  generalize s.offer r = answer
  obtain ⟨o, s'⟩ := answer
  cases o <;> rfl

private theorem fst_step_next (s : PendingSlot) : (s.step .next).1 = s.next.2 := by
  dsimp only [step]
  generalize s.next = answer
  obtain ⟨_ | _ | r, s'⟩ := answer <;> rfl

private theorem Alert.offer (h : s.Alert) (r : Request) : (s.offer r).2.Alert := by
  cases hc : s.closed with
  | true =>
    rw [offer_of_closed hc]
    exact h
  | false =>
    simp only [PendingSlot.offer, hc, Bool.false_eq_true, ↓reduceIte]
    constructor
    · intro hw
      exact absurd hw (Wakeup.waiter_notifyOne _)
    · intro hw
      cases hr : r.isStop with
      | true =>
        simp only [hr, ↓reduceIte] at hw
        exact absurd hw (Wakeup.waiter_notifyOne _)
      | false =>
        -- the call for a stop is left waiting, and what waits for the dispatcher is still no stop
        simp only [hr, Bool.false_eq_true, ↓reduceIte] at hw
        have hn := (stopAnswer_eq_pending_iff.mp (h.stopRequested hw)).2
        apply stopAnswer_eq_pending_iff.mpr
        refine ⟨rfl, ?_⟩
        intro whole hp
        obtain rfl := Option.some.inj hp
        cases hs : s.pending with
        | none => exact hr
        | some waiting =>
          have hm : ¬(waiting.merge r).isStop := by
            rw [Request.isStop_merge, hn waiting hs, hr]
            simp
          exact Bool.eq_false_iff.mpr hm

private theorem Alert.take (h : s.Alert) : s.take.2.Alert := by
  constructor
  · intro hw
    have hp := answer_eq_pending_iff.mp (h.next hw)
    exact answer_eq_pending_iff.mpr ⟨rfl, hp.2⟩
  · intro hw
    have hp := stopAnswer_eq_pending_iff.mp (h.stopRequested hw)
    exact stopAnswer_eq_pending_iff.mpr ⟨hp.1, nofun⟩

private theorem Alert.close (s : PendingSlot) : s.close.2.Alert := by
  constructor
  · intro hw
    exact absurd hw (Wakeup.waiter_notifyAll _)
  · intro hw
    exact absurd hw (Wakeup.waiter_notifyAll _)

theorem Alert.step (h : s.Alert) (m : SlotMove) : (s.step m).1.Alert := by
  cases m with
  | offer r =>
    rw [fst_step_offer]
    exact h.offer r
  | take => exact h.take
  | next =>
    rw [fst_step_next]
    obtain ⟨w, hn, hw⟩ := h.next_eq
    rw [hn]
    refine ⟨?_, h.take.stopRequested⟩
    intro hq
    have hp := answer_eq_pending_iff.mp (hw hq)
    exact answer_eq_pending_iff.mpr ⟨rfl, hp.2⟩
  | dropNext =>
    refine ⟨?_, h.stopRequested⟩
    intro hw
    have hd : s.dropNext.available.waiter = .absent := Wakeup.waiter_drop _
    rw [PendingSlot.step, hd] at hw
    cases hw
  | stopRequested =>
    change s.stopRequested.2.Alert
    obtain ⟨w, hs, hw⟩ := h.stopRequested_eq
    rw [hs]
    exact ⟨h.next, hw⟩
  | dropStopRequested =>
    refine ⟨h.next, ?_⟩
    intro hw
    have hd : s.dropStopRequested.stopOffered.waiter = .absent := Wakeup.waiter_drop _
    rw [PendingSlot.step, hd] at hw
    cases hw
  | close => exact .close s

theorem Alert.run (h : s.Alert) (moves : List SlotMove) : (s.run moves).1.Alert := by
  induction moves generalizing s with
  | nil => exact h
  | cons m rest ih => exact ih (h.step m)

/-- Both calls answer for the slot as it is. -/
structure Answers (s : PendingSlot) : Prop where
  pending : s.next.1 = .pending ↔ s.pending = none ∧ s.closed = false
  request : ∀ r, s.next.1 = .ready (some r) ↔ s.pending = some r
  none : s.next.1 = .ready none ↔ s.pending = none ∧ s.closed = true
  next_takes : s.next.2.pending = .none ∧ s.next.2.closed = s.closed
  stop : s.stopRequested.1 = .pending ↔
    s.closed = false ∧ ∀ r, s.pending = some r → r.isStop = false
  stop_leaves : s.stopRequested.2.pending = s.pending ∧ s.stopRequested.2.closed = s.closed

theorem Alert.answers (h : s.Alert) : s.Answers := by
  obtain ⟨w, hn, -⟩ := h.next_eq
  obtain ⟨v, hs, -⟩ := h.stopRequested_eq
  constructor
  case pending =>
    rw [hn]
    exact answer_eq_pending_iff
  case request =>
    intro r
    rw [hn]
    unfold answer
    cases s.pending <;> cases s.closed <;> simp
  case none =>
    rw [hn]
    unfold answer
    cases s.pending <;> simp
  case next_takes =>
    rw [hn]
    exact ⟨rfl, rfl⟩
  case stop =>
    rw [hs]
    exact stopAnswer_eq_pending_iff
  case stop_leaves =>
    rw [hs]
    exact ⟨rfl, rfl⟩

/-- In every history of a slot, with its two calls run and dropped at any time. A run of the call for a
request waits exactly if the slot is empty and open, answers with the request that waits, and answers
that none will come exactly if the slot is closed and empty; a run of the call for a stop waits exactly
if the slot is open and no stop waits in it. A call that waits and was not woken has nothing to wait
for, a call that is dropped takes nothing with it, and no permit left from an earlier offer changes an
answer. -/
theorem calls_answer (moves : List SlotMove) :
    let s := (new.run moves).1
    s.Answers ∧
      (s.available.waiter = .waiting → s.pending = none ∧ s.closed = false) ∧
      (s.stopOffered.waiter = .waiting → s.wantsStop = false) ∧
      (s.dropNext.pending = s.pending ∧ s.dropStopRequested.pending = s.pending) ∧
      ∀ available stopOffered,
        (s.withPermits available stopOffered).next.1 = s.next.1 ∧
          (s.withPermits available stopOffered).stopRequested.1 = s.stopRequested.1 := by
  intro s
  have h : s.Alert := alert_new.run moves
  refine ⟨h.answers, ?_, ?_, ⟨rfl, rfl⟩, ?_⟩
  · intro hw
    exact answer_eq_pending_iff.mp (h.next hw)
  · intro hw
    have hp := h.stopRequested hw
    unfold stopAnswer at hp
    split at hp
    · cases hp
    · rename_i hf
      exact Bool.eq_false_iff.mpr hf
  · intro available stopOffered
    have hp := h.withPermits available stopOffered
    obtain ⟨w, hn, -⟩ := h.next_eq
    obtain ⟨w', hn', -⟩ := hp.next_eq
    obtain ⟨v, hs, -⟩ := h.stopRequested_eq
    obtain ⟨v', hs', -⟩ := hp.stopRequested_eq
    rw [hn, hn', hs, hs']
    exact ⟨rfl, rfl⟩

/-- A stop was offered and taken again before the calls ran: both spend the permit it left and wait. A
close then wakes both, a reload only the one that waits for a request, and a stop that follows it the
other one too. -/
theorem calls_answer_of_taken_stop :
    let stop := Request.immediate .nil (.ofReason (.plain .switchOff) "ui" 0) 0
    let reload := Request.immediate ⟨1⟩ (.ofReason (.plain .ruleChanged) "rules" 0) 0
    let moves := [.offer stop, .take, .next, .stopRequested]
    let s := (new.run moves).1
    let loaded := (new.run (moves ++ [.offer reload])).1
    let stopped := (new.run (moves ++ [.offer reload, .offer stop])).1
    s.available = ⟨false, .waiting⟩ ∧ s.stopOffered = ⟨false, .waiting⟩ ∧
      s.pending = none ∧ s.closed = false ∧ s.wantsStop = false ∧
      (new.run (moves ++ [.close])).1.next.1 = .ready none ∧
      (loaded.next.1 = .ready (some reload) ∧ loaded.stopRequested.1 = .pending) ∧
      stopped.next.1 = .ready (some (reload.merge stop)) ∧ stopped.stopRequested.1 = .ready () := by
  intro stop reload moves s loaded stopped
  have hs : s = ⟨none, false, ⟨false, .waiting⟩, ⟨false, .waiting⟩⟩ := by decide +kernel
  have ha : s.available.waiter = .waiting := by rw [hs]
  have hb : s.stopOffered.waiter = .waiting := by rw [hs]
  have hreload : loaded.pending = some reload := by decide +kernel
  have hstop : stopped.pending = some (reload.merge stop) := by decide +kernel
  obtain ⟨-, hnext, hwaits, -⟩ := calls_answer moves
  obtain ⟨hpending, hclosed⟩ := hnext ha
  obtain ⟨hclose, -⟩ := calls_answer (moves ++ [.close])
  obtain ⟨hloaded, -⟩ := calls_answer (moves ++ [.offer reload])
  obtain ⟨hstopped, -⟩ := calls_answer (moves ++ [.offer reload, .offer stop])
  refine ⟨by rw [hs], by rw [hs], hpending, hclosed, hwaits hb, hclose.none.mpr ?_,
    ⟨(hloaded.request reload).mpr hreload, hloaded.stop.mpr ⟨by decide +kernel, ?_⟩⟩,
    (hstopped.request _).mpr hstop, ?_⟩
  · change s.close.2.pending = none ∧ s.close.2.closed = true
    rw [hs]
    exact ⟨rfl, rfl⟩
  · intro r hr
    obtain rfl := Option.some.inj (hreload.symm.trans hr)
    rfl
  · cases h : stopped.stopRequested.1 with
    | ready answer => rfl
    | pending =>
      have hno := (hstopped.stop.mp h).2 _ hstop
      cases hno

end PendingSlot
end RestartCoordinator
