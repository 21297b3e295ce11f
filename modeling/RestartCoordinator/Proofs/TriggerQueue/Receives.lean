import RestartCoordinator.Proofs.TriggerQueue.Line
/-!
# Receives from the trigger queue

A receive may be run, left waiting, and dropped at any time, and what it waits for may be taken by
another path before it runs again. The invariant that carries all histories is that a call which
waits and has not been woken has nothing to wait for: every submission and the closing wake it, and
no other move makes it wait. So each run of a receive answers for the queue as it is.
-/
namespace RestartCoordinator

/-- What a receive should say of the line. -/
def Line.answer (l : Line) : Poll (Option Trigger) :=
  match l.held with
  | [] => if l.closed then .ready none else .pending
  | x :: _ => .ready (some x.trigger)

/-- The line after a receive. -/
def Line.afterReceive (l : Line) : Line := (l.take?.map (·.2)).getD l

namespace TriggerQueue

/-- One run of a receive that has time for `n` rounds. -/
def receiveWithin (n : Nat) (q : TriggerQueue) : Option (Poll (Option Trigger) × TriggerQueue) :=
  (q.arrival.attemptWithin look n q).map fun (answer, arrival, q) => (answer, { q with arrival })

/-- If a call waits and has not been woken, then there is nothing that should wake it. -/
def Alert (q : TriggerQueue) : Prop := q.arrival.waiter = .waiting → q.line.answer = .pending

variable {q q' : TriggerQueue} {capacity : Nat} {accepted held : List Queued} {t : Trigger}

private theorem receiveWithin_two (q : TriggerQueue) : q.receiveWithin 2 = some q.receive := by
  unfold receiveWithin
  rw [Wakeup.attemptWithin_two]
  rfl

private theorem arrival_take? (ht : q.take? = some (t, q')) : q'.arrival = q.arrival := by
  obtain ⟨lanes, rfl⟩ := take?_frame ht
  rfl

private theorem arrival_submit {s : Submission} (hs : q.submit t = .ok (s, q')) :
    q'.arrival = q.arrival.notifyOne := by
  unfold submit at hs
  split at hs
  · cases hs
  · dsimp only at hs
    split at hs <;>
    · obtain ⟨-, rfl⟩ := Prod.mk.inj (Except.ok.inj hs)
      rfl

private theorem Holds.found_look (h : q.Holds held) :
    (Wakeup.found look q).1 = q.line.answer ∧
      (Wakeup.found look q).2.line = q.line.afterReceive := by
  have hl : q.line.held = held := h.contents_eq
  have hline := h.line_take?
  have hclosed : q.line.closed = q.closed := rfl
  unfold Wakeup.found look Line.answer Line.afterReceive
  rw [hl, hclosed, ← hline]
  cases held with
  | nil =>
    rw [h.take?_nil]
    cases q.closed <;> exact ⟨rfl, rfl⟩
  | cons x rest =>
    obtain ⟨next, ht, -⟩ := h.take?_cons
    rw [ht]
    exact ⟨rfl, rfl⟩

/-- A run of a receive answers for the line as it is, and it waits only if that is the answer. -/
theorem Holds.receive (h : q.Holds held) (ha : q.Alert) :
    q.receive.1 = q.line.answer ∧ q.receive.2.line = q.line.afterReceive ∧ q.receive.2.Alert := by
  obtain ⟨hanswer, hafter⟩ := h.found_look
  obtain ⟨w, he, hw⟩ := q.arrival.attempt_of_alert look q (by rw [hanswer]; exact ha)
  have hr : q.receive =
      ((Wakeup.found look q).1, { (Wakeup.found look q).2 with arrival := w }) := by
    unfold TriggerQueue.receive
    rw [he]
  rw [hr]
  refine ⟨hanswer, hafter, ?_⟩
  intro hwaits
  change (Wakeup.found look q).2.line.answer = .pending
  rw [hw hwaits] at hanswer ⊢
  exact hanswer.symm

theorem Alert.step (h : q.Holds held) (ha : q.Alert) (m : QueueMove) : (q.step m).1.Alert := by
  cases m with
  | submit t =>
    cases hs : q.submit t with
    | error f => simpa [TriggerQueue.step, hs] using ha
    | ok answer =>
      intro hw
      simp only [TriggerQueue.step, hs] at hw
      rw [arrival_submit hs] at hw
      exact absurd hw (Wakeup.waiter_notifyOne _)
  | take =>
    cases ht : q.take? with
    | none => simpa [TriggerQueue.step, ht] using ha
    | some answer =>
      intro hw
      simp only [TriggerQueue.step, ht, Option.map_some, Option.getD_some] at hw
      rw [arrival_take? ht] at hw
      have hp := ha hw
      have hl := h.line_take?
      rw [ht] at hl
      cases hh : q.line.held with
      | nil => simp [Line.take?, hh] at hl
      | cons x rest => simp [Line.answer, hh] at hp
  | receive => exact (h.receive ha).2.2
  | dropReceive =>
    intro hw
    have hd : q.dropReceive.arrival.waiter = .absent := Wakeup.waiter_drop _
    rw [TriggerQueue.step, hd] at hw
    cases hw
  | close =>
    intro hw
    exact absurd hw (Wakeup.waiter_notifyOne _)

theorem Keeps.alert_run (h : q.Keeps capacity accepted) (ha : q.Alert) (moves : List QueueMove) :
    (q.run moves).1.Alert := by
  induction moves generalizing q accepted with
  | nil => exact ha
  | cons m rest ih =>
    obtain ⟨held, hq⟩ := h.held
    exact ih (h.step m) (ha.step hq m)

/-- In every history of a queue, a run of a receive waits exactly if the queue is empty and open,
answers with the oldest trigger if there is one, and answers that none will come exactly if the queue
is closed and empty. It takes two rounds at most. A call that waits and was not woken has nothing to
wait for, and a call that is dropped takes nothing with it. -/
theorem receive_answers (capacity : Nat) (moves : List QueueMove) :
    let q := ((new capacity).run moves).1
    (q.receive.1 = .pending ↔ q.contents = [] ∧ q.closed = false) ∧
      (∀ t, q.receive.1 = .ready (some t) ↔ ∃ x, q.contents.head? = some x ∧ x.trigger = t) ∧
      (∀ x ∈ q.contents.head?, ∀ y ∈ q.contents, x.seq ≤ y.seq) ∧
      (q.receive.1 = .ready none ↔ q.contents = [] ∧ q.closed = true) ∧
      q.receive.2.line = (q.line.take?.map (·.2)).getD q.line ∧
      (q.arrival.waiter = .waiting → q.contents = [] ∧ q.closed = false) ∧
      q.dropReceive.line = q.line ∧
      q.receiveWithin 2 = some q.receive := by
  intro q
  have h : q.Keeps (max capacity 1) _ := (keeps_new capacity).run moves
  have ha : q.Alert := (keeps_new capacity).alert_run nofun moves
  obtain ⟨held, hq⟩ := h.held
  obtain ⟨hr, hline, -⟩ := hq.receive ha
  have hc : q.contents = held := hq.contents_eq
  have hanswer : (q.line.answer = .pending ↔ q.contents = [] ∧ q.closed = false) ∧
      (∀ t, q.line.answer = .ready (some t) ↔ ∃ x, q.contents.head? = some x ∧ x.trigger = t) ∧
      (q.line.answer = .ready none ↔ q.contents = [] ∧ q.closed = true) := by
    have hl : q.line.held = q.contents := rfl
    have hopen : q.line.closed = q.closed := rfl
    unfold Line.answer
    rw [hl, hopen]
    cases q.contents <;> cases q.closed <;> simp
  have hfirst : ∀ x ∈ q.contents.head?, ∀ y ∈ q.contents, x.seq ≤ y.seq := by
    rw [hc]
    intro x hx y hy
    obtain ⟨rest, rfl⟩ := List.head?_eq_some_iff.mp hx
    rcases List.mem_cons.mp hy with rfl | hy
    · exact Nat.le_refl _
    · exact Nat.le_of_lt ((List.pairwise_cons.mp hq.sorted).1 y hy)
  rw [hr]
  exact ⟨hanswer.1, hanswer.2.1, hfirst, hanswer.2.2, hline, fun hw => hanswer.1.mp (ha hw), rfl,
    q.receiveWithin_two⟩

/-- A call that waits is woken by a submission and gets its trigger, or the older one of two; if the
trigger was taken before the call runs, it waits again. A close wakes it too. -/
theorem receive_answers_of_waiting :
    let first : Trigger := .ofReason (.plain .ui) "ui" 0
    let second : Trigger := .ofReason (.plain .ruleChanged) "rules" 1
    let after (moves : List QueueMove) := ((new 2).run (.receive :: moves)).1
    ((after []).arrival.waiter = .waiting ∧ (after []).contents = [] ∧
        (after []).closed = false) ∧
      ((after [.submit first]).arrival.waiter = .woken true ∧
        (after [.submit first]).receive.1 = .ready (some first)) ∧
      (after [.submit first, .submit second]).receive.1 = .ready (some first) ∧
      (after [.submit first, .take]).receive.1 = .pending ∧
      (after [.close]).receive.1 = .ready none := by
  intro first second after
  obtain ⟨-, -, -, -, -, hwaits, -⟩ := receive_answers 2 [.receive]
  obtain ⟨-, hone, -⟩ := receive_answers 2 [.receive, .submit first]
  obtain ⟨-, htwo, -⟩ := receive_answers 2 [.receive, .submit first, .submit second]
  obtain ⟨htaken, -⟩ := receive_answers 2 [.receive, .submit first, .take]
  obtain ⟨-, -, -, hclosed, -⟩ := receive_answers 2 [.receive, .close]
  have hwaiting : (after []).arrival.waiter = .waiting := by decide +kernel
  have hlanes : (after [.submit first, .submit second]).lanes.flatMap (·.queued) =
      [⟨0, first⟩, ⟨1, second⟩] := by
    decide +kernel
  have hcontents : (after [.submit first, .submit second]).contents =
      [⟨0, first⟩, ⟨1, second⟩] := by
    rw [contents, hlanes]
    exact List.mergeSort_of_pairwise (by decide)
  exact ⟨⟨hwaiting, hwaits hwaiting⟩,
    ⟨by decide +kernel, (hone first).mpr ⟨⟨0, first⟩, by decide +kernel, rfl⟩⟩,
    (htwo first).mpr ⟨⟨0, first⟩, congrArg List.head? hcontents, rfl⟩, htaken.mpr (by decide +kernel),
    hclosed.mpr (by decide +kernel)⟩

end TriggerQueue
end RestartCoordinator
