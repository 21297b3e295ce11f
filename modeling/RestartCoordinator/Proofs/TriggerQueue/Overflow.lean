import RestartCoordinator.Proofs.TriggerQueue.Contents
import RestartCoordinator.Proofs.Wakeup.Attempts
/-!
# Overflow of the trigger queue

Which trigger a full queue loses depends on the places in the queue alone, not on what the triggers
ask for. In every history of submissions and receives, a lane holds the latest of the triggers that
were accepted from its producer. So a trigger that is not delivered in time is lost to one submission
of its own producer, and it can be told from the history which one that is.
-/
namespace RestartCoordinator

/-- What can happen to a trigger queue. -/
inductive QueueMove where
  | submit (trigger : Trigger)
  | take
  /-- The call that waits for a trigger is run, or a new one. -/
  | receive
  | dropReceive
  | close

namespace TriggerQueue

/-- The queue after a move, with the trigger that is accepted in its course, if there is one. -/
def step (q : TriggerQueue) : QueueMove → TriggerQueue × Option Queued
  | .submit t =>
    match q.submit t with
    | .ok (_, next) => (next, some ⟨q.nextSeq, t⟩)
    | .error _ => (q, none)
  | .take => ((q.take?.map (·.2)).getD q, none)
  | .receive => (q.receive.2, none)
  | .dropReceive => (q.dropReceive, none)
  | .close => (q.close, none)

/-- The queue after all moves, with the triggers that were accepted in their course. -/
def run (q : TriggerQueue) : List QueueMove → TriggerQueue × List Queued
  | [] => (q, [])
  | m :: rest =>
    let (q, accepted) := q.step m
    let (q, more) := q.run rest
    (q, accepted.toList ++ more)

section
variable {q q' : TriggerQueue}

private theorem look_cases {answer : Option Trigger} (h : q.look = some (answer, q')) :
    q' = q ∨ ∃ t, q.take? = some (t, q') := by
  unfold look at h
  split at h
  · rename_i ht
    obtain ⟨-, rfl⟩ := Prod.mk.inj (Option.some.inj h)
    exact .inr ⟨_, ht⟩
  · obtain ⟨-, h⟩ := Option.ite_none_right_eq_some.mp h
    exact .inl (Prod.mk.inj (Option.some.inj h)).2.symm

private theorem receive_cases (q : TriggerQueue) :
    (∃ w, q.receive.2 = { q with arrival := w }) ∨
      ∃ t next w, q.take? = some (t, next) ∧ q.receive.2 = { next with arrival := w } := by
  unfold receive
  rcases q.arrival.attempt_cases look q with ⟨w, ha⟩ | ⟨answer, w, next, hl, ha⟩
  · rw [ha]
    exact .inl ⟨w, rfl⟩
  · rw [ha]
    rcases look_cases hl with rfl | ⟨t, ht⟩
    · exact .inl ⟨w, rfl⟩
    · exact .inr ⟨t, next, w, ht, rfl⟩

theorem step_cases (q : TriggerQueue) (m : QueueMove) :
    (∃ w, q.step m = ({ q with arrival := w }, none)) ∨
      (∃ t s next, m = .submit t ∧ q.submit t = .ok (s, next) ∧
        q.step m = (next, some ⟨q.nextSeq, t⟩)) ∨
      (∃ t next w, q.take? = some (t, next) ∧ q.step m = ({ next with arrival := w }, none)) ∨
      m = .close ∧ q.step m = (q.close, none) := by
  cases m with
  | submit t =>
    cases hs : q.submit t with
    | error f => exact .inl ⟨q.arrival, by simp [step, hs]⟩
    | ok answer => exact .inr (.inl ⟨t, answer.1, answer.2, rfl, hs, by simp [step, hs]⟩)
  | take =>
    cases ht : q.take? with
    | none => exact .inl ⟨q.arrival, by simp [step, ht]⟩
    | some answer =>
      exact .inr (.inr (.inl ⟨answer.1, answer.2, answer.2.arrival, rfl, by simp [step, ht]⟩))
  | receive =>
    rcases q.receive_cases with ⟨w, hr⟩ | ⟨t, next, w, ht, hr⟩
    · exact .inl ⟨w, by simp [step, hr]⟩
    · exact .inr (.inr (.inl ⟨t, next, w, ht, by simp [step, hr]⟩))
  | dropReceive => exact .inl ⟨_, rfl⟩
  | close => exact .inr (.inr (.inr ⟨rfl, rfl⟩))

end

/-- A lane holds the latest of the triggers that were accepted from its producer, and no more of them
than there is room for. -/
structure Keeps (q : TriggerQueue) (capacity : Nat) (accepted : List Queued) : Prop where
  capacity_eq : q.capacity = capacity
  held : ∃ held, q.Holds held
  sorted : accepted.Pairwise (·.seq < ·.seq)
  below : ∀ x ∈ accepted, x.seq < q.nextSeq
  latest : ∀ producer, q.lane producer <:+ accepted.filter (·.trigger.origin == producer)
  room : ∀ producer, (q.lane producer).length ≤ capacity

variable {q q' : TriggerQueue} {capacity : Nat} {accepted held : List Queued} {t : Trigger}
  {x : Queued}

theorem keeps_new (capacity : Nat) : (new capacity).Keeps (max capacity 1) [] :=
  ⟨rfl, ⟨[], holds_new capacity⟩, .nil, nofun, fun _ => List.suffix_rfl, fun _ => Nat.zero_le _⟩

private theorem Keeps.setArrival (h : q.Keeps capacity accepted) (w : Wakeup) :
    Keeps { q with arrival := w } capacity accepted := by
  obtain ⟨held, hq⟩ := h.held
  exact ⟨h.capacity_eq, ⟨held, hq.sorted, hq.below, hq.nodup, hq.nonempty, hq.lane_eq⟩, h.sorted,
    h.below, h.latest, h.room⟩

private theorem Keeps.close (h : q.Keeps capacity accepted) : q.close.Keeps capacity accepted := by
  obtain ⟨held, hq⟩ := h.held
  exact ⟨h.capacity_eq, ⟨held, hq.close⟩, h.sorted, h.below, h.latest, h.room⟩

private theorem Keeps.take? {t : Trigger} (h : q.Keeps capacity accepted)
    (ht : q.take? = some (t, q')) : q'.Keeps capacity accepted := by
  obtain ⟨held, hq⟩ := h.held
  cases held with
  | nil =>
    rw [hq.take?_nil] at ht
    cases ht
  | cons x rest =>
    obtain ⟨next, hx, hr, hn, -, hc⟩ := hq.take?_cons
    obtain ⟨-, rfl⟩ := Prod.mk.inj (Option.some.inj (hx.symm.trans ht))
    have hl (producer : String) : next.lane producer <:+ q.lane producer := by
      rw [hq.lane_eq, hr.lane_eq]
      exact (List.suffix_cons x rest).filter _
    exact ⟨hc.trans h.capacity_eq, ⟨rest, hr⟩, h.sorted, hn ▸ h.below,
      fun p => (hl p).trans (h.latest p), fun p => Nat.le_trans (hl p).length_le (h.room p)⟩

private theorem isSome_oldestOf? {producer : String} :
    (q.oldestOf? producer).isSome ↔ q.capacity ≤ (q.lane producer).length := by
  have hn (hc : q.capacity ≤ (q.lane producer).length) : q.lane producer ≠ [] :=
    List.length_pos_iff.mp (Nat.lt_of_lt_of_le q.capacity_pos hc)
  unfold oldestOf?
  split
  · rename_i hc
    simp [hc, List.isSome_head?, hn hc]
  · rename_i hc
    simp [hc]

private theorem Keeps.submit {s : Submission} (h : q.Keeps capacity accepted)
    (hs : q.submit t = .ok (s, q')) : q'.Keeps capacity (accepted ++ [⟨q.nextSeq, t⟩]) := by
  obtain ⟨held, hq⟩ := h.held
  obtain ⟨-, -, -, hc, hn, -⟩ := submit_eq_ok hs
  constructor
  case capacity_eq => exact hc.trans h.capacity_eq
  case held => exact ⟨_, hq.submit hs⟩
  case sorted =>
    refine List.pairwise_append.mpr ⟨h.sorted, List.pairwise_singleton .., fun x hx y hy => ?_⟩
    obtain rfl := List.mem_singleton.mp hy
    exact h.below x hx
  case below =>
    intro x hx
    rw [hn]
    rcases List.mem_append.mp hx with hx | hx
    · exact Nat.lt_succ_of_lt (h.below x hx)
    · obtain rfl := List.mem_singleton.mp hx
      exact Nat.lt_succ_self _
  case latest =>
    intro producer
    rw [lane_submit hs, List.filter_append]
    split
    · subst producer
      have hkept : (if (q.oldestOf? t.origin).isSome then (q.lane t.origin).tail
          else q.lane t.origin) <:+ accepted.filter (·.trigger.origin == t.origin) := by
        split
        · exact (List.tail_suffix _).trans (h.latest _)
        · exact h.latest _
      obtain ⟨front, hf⟩ := hkept
      exact ⟨front, by simp [← hf]⟩
    · rename_i hp
      simpa [Ne.symm hp] using h.latest producer
  case room =>
    intro producer
    have hr := h.room producer
    have hpos : 0 < capacity := h.capacity_eq ▸ q.capacity_pos
    rw [lane_submit hs]
    split
    · subst producer
      rw [List.length_append, List.length_singleton]
      split
      · rw [List.length_tail]
        omega
      · rename_i hfull
        rw [isSome_oldestOf?, h.capacity_eq] at hfull
        omega
    · exact hr

theorem Keeps.step (h : q.Keeps capacity accepted) (m : QueueMove) :
    (q.step m).1.Keeps capacity (accepted ++ (q.step m).2.toList) := by
  rcases q.step_cases m with ⟨w, he⟩ | ⟨t, s, next, -, hs, he⟩ | ⟨t, next, w, ht, he⟩ | ⟨-, he⟩
  · simpa [he] using h.setArrival w
  · simpa [he] using h.submit hs
  · simpa [he] using (h.take? ht).setArrival w
  · simpa [he] using h.close

theorem Keeps.run (h : q.Keeps capacity accepted) (moves : List QueueMove) :
    (q.run moves).1.Keeps capacity (accepted ++ (q.run moves).2) := by
  induction moves generalizing q accepted with
  | nil => simpa [TriggerQueue.run] using h
  | cons m rest ih =>
    have hr := ih (h.step m)
    rwa [List.append_assoc] at hr

private theorem mem_contents : x ∈ q.contents ↔ ∃ l ∈ q.lanes, x ∈ l.queued := by
  rw [contents, List.mem_mergeSort, List.mem_flatMap]

/-- How many triggers of its producer were accepted after `x`. -/
def laterThan (accepted : List Queued) (x : Queued) : Nat :=
  (accepted.filter (·.trigger.origin == x.trigger.origin)).countP (x.seq < ·.seq)

private theorem Keeps.laterThan_eq (h : q.Keeps capacity accepted) {before after : List Queued}
    (hl : q.lane x.trigger.origin = before ++ x :: after) :
    laterThan accepted x = after.length := by
  obtain ⟨front, hf⟩ := h.latest x.trigger.origin
  -- all that was accepted from the producer of x is in order: what is gone, then what is held
  have hs : (front ++ before ++ x :: after).Pairwise (·.seq < ·.seq) := by
    rw [List.append_assoc, ← hl, hf]
    exact h.sorted.filter _
  obtain ⟨-, hx, hb⟩ := List.pairwise_append.mp hs
  have hearlier : (front ++ before).countP (x.seq < ·.seq) = 0 :=
    List.countP_eq_zero.mpr fun y hy => by
      simpa using Nat.le_of_lt (hb y hy x List.mem_cons_self)
  have hlater : after.countP (x.seq < ·.seq) = after.length :=
    List.countP_eq_length.mpr fun y hy => by simpa using (List.pairwise_cons.mp hx).1 y hy
  rw [laterThan, ← hf, hl, ← List.append_assoc, List.countP_append, hearlier,
    List.countP_cons_of_neg (by simp), hlater, Nat.zero_add]

/-- The trigger that has to go is the one after which there is no room for another. -/
theorem Keeps.oldestOf?_iff (h : q.Keeps capacity accepted) {producer : String}
    (hx : x ∈ q.contents) :
    q.oldestOf? producer = some x ↔
      producer = x.trigger.origin ∧ laterThan accepted x + 1 = capacity := by
  obtain ⟨held, hq⟩ := h.held
  have hroom := h.room x.trigger.origin
  constructor
  · intro ho
    obtain ⟨hfull, -, rfl, rest, hr⟩ := hq.oldestOf?_eq ho
    have hfirst : q.lane x.trigger.origin = [] ++ x :: rest := hr
    rw [h.capacity_eq, hr] at hfull
    rw [hr] at hroom
    rw [h.laterThan_eq hfirst]
    exact ⟨rfl, Nat.le_antisymm hroom hfull⟩
  · rintro ⟨rfl, hc⟩
    have hm : x ∈ q.lane x.trigger.origin := by
      rw [hq.lane_eq, List.mem_filter]
      exact ⟨hq.contents_eq ▸ hx, beq_self_eq_true _⟩
    obtain ⟨before, after, hl⟩ := List.append_of_mem hm
    rw [h.laterThan_eq hl] at hc
    have hlen : (q.lane x.trigger.origin).length = before.length + capacity := by
      rw [hl, List.length_append, List.length_cons, hc]
    obtain rfl : before = [] := List.eq_nil_of_length_eq_zero (by omega)
    rw [oldestOf?, h.capacity_eq, hlen, if_pos (Nat.le_add_left ..), hl]
    rfl

/-- In every history of a queue: a trigger that is held is lost to a submission exactly if both come
from one producer and, with the new one, as many triggers of that producer were accepted after it as
there is room for. It does not matter what the triggers ask for, nor what else is held. -/
theorem lost_iff (capacity : Nat) (moves : List QueueMove) :
    let q := ((new capacity).run moves).1
    let accepted := ((new capacity).run moves).2
    ∀ x ∈ q.contents, ∀ t s next, q.submit t = .ok (s, next) →
      (x ∉ next.contents ↔
        t.origin = x.trigger.origin ∧ laterThan accepted x + 1 = max capacity 1) ∧
      (x ∉ next.contents → s = .displaced x.trigger) := by
  intro q accepted x hx t s next hs
  have h : q.Keeps (max capacity 1) accepted := (keeps_new capacity).run moves
  obtain ⟨held, hq⟩ := h.held
  have hlost : x ∉ next.contents ↔ q.oldestOf? t.origin = some x := by
    have hne : x ≠ ⟨q.nextSeq, t⟩ := fun he =>
      Nat.ne_of_lt (hq.below x (hq.contents_eq ▸ hx)) (congrArg Queued.seq he)
    rw [(hq.submit hs).contents_eq, ← hq.contents_eq]
    simp [List.mem_filter, hx, hne]
  refine ⟨hlost.trans (h.oldestOf?_iff hx), fun hn => ?_⟩
  rw [(submit_eq_ok hs).2.1, hlost.mp hn]
  rfl

/-- With room for two, a stop is lost to the second trigger that its producer submits after it, in
spite of a receive in between. -/
theorem lost_of_third :
    let submit (reason : PlainReason) (producer : String) (now : Time) : QueueMove :=
      .submit (.ofReason (.plain reason) producer now)
    let moves := [submit .blockHost "rules" 0, submit .switchOff "ui" 1,
      submit .ruleChanged "ui" 2, .take]
    let q := ((new 2).run moves).1
    let stop : Queued := ⟨1, .ofReason (.plain .switchOff) "ui" 1⟩
    ∃ s next, q.submit (.ofReason (.plain .ruleChanged) "ui" 3) = .ok (s, next) ∧
      stop ∈ q.contents ∧ stop ∉ next.contents ∧ s = .displaced stop.trigger := by
  intro submit moves q stop
  have hx : stop ∈ q.contents := mem_contents.mpr (by decide)
  have h := lost_iff 2 moves stop hx (.ofReason (.plain .ruleChanged) "ui" 3) _ _ rfl
  have hn := h.1.mpr (by decide)
  exact ⟨_, _, rfl, hx, hn, h.2 hn⟩

/-- A stop that was accepted is lost, and none of the triggers that are still delivered is a stop. -/
theorem stop_lost_in_overflow :
    let stop := Trigger.ofReason (.plain .switchOff) "ui" 0
    let moves := [.submit stop, .submit (.ofReason (.plain .ruleChanged) "ui" 1)]
    let q := ((new 2).run moves).1
    stop.isStop ∧ ⟨0, stop⟩ ∈ ((new 2).run moves).2 ∧
      ∃ next, q.submit (.ofReason (.plain .ruleChanged) "ui" 2) = .ok (.displaced stop, next) ∧
        ∀ t ∈ next.drain.1, t.isStop = false :=
  ⟨rfl, by decide, _, rfl, by decide⟩

end TriggerQueue
end RestartCoordinator
