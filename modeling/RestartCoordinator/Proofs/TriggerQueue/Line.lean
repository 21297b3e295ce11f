import RestartCoordinator.Proofs.TriggerQueue.Overflow
/-!
# The trigger queue as one line

To those who use it a trigger queue is a single line: a trigger joins at the end, the head is
delivered, and a producer with too many triggers in the line loses the first of them. What is true of
the line, such as that every trigger is accounted for, is then true of the queue with its lanes.
-/
namespace RestartCoordinator

/-- All triggers in the order of their numbers, and what is counted of them. -/
structure Line where
  held : List Queued
  nextSeq : Nat
  closed : Bool
  submitted : Nat
  delivered : Nat
  dropped : Nat
deriving DecidableEq, Repr

namespace Line

/-- The first trigger of a producer, which has to go if there are too many of them. -/
def leaving? (l : Line) (capacity : Nat) (producer : String) : Option Queued :=
  if capacity ≤ l.held.countP (·.trigger.origin == producer) then
    l.held.find? (·.trigger.origin == producer)
  else none

/-- The line without the first trigger of a producer, if there are too many of them. -/
def kept (l : Line) (capacity : Nat) (producer : String) : List Queued :=
  if capacity ≤ l.held.countP (·.trigger.origin == producer) then
    l.held.eraseP (·.trigger.origin == producer)
  else l.held

def submit (capacity : Nat) (l : Line) (t : Trigger) : Except Failure (Submission × Line) :=
  if l.closed then .error .queueClosed
  else
    .ok ((l.leaving? capacity t.origin).elim .accepted fun x => .displaced x.trigger,
      { l with
        held := l.kept capacity t.origin ++ [⟨l.nextSeq, t⟩]
        nextSeq := l.nextSeq + 1
        submitted := l.submitted + 1
        dropped := l.dropped + (l.leaving? capacity t.origin).toList.length })

def take? (l : Line) : Option (Trigger × Line) :=
  match l.held with
  | [] => none
  | x :: rest => some (x.trigger, { l with held := rest, delivered := l.delivered + 1 })

def close (l : Line) : Line := { l with closed := true }

/-- Every trigger that was submitted was delivered or dropped or is still there. -/
def Balanced (l : Line) : Prop := l.submitted = l.delivered + l.dropped + l.held.length

variable {l l' : Line} {capacity : Nat} {t : Trigger}

private theorem length_kept (hc : 0 < capacity) (producer : String) :
    (l.kept capacity producer).length + (l.leaving? capacity producer).toList.length =
      l.held.length := by
  unfold kept leaving?
  split
  · rename_i hfull
    obtain ⟨x, hx, hp⟩ := List.countP_pos_iff.mp (Nat.lt_of_lt_of_le hc hfull)
    have hf : (l.held.find? (·.trigger.origin == producer)).isSome := by
      rw [List.find?_isSome]
      exact ⟨x, hx, hp⟩
    obtain ⟨y, hy⟩ := Option.isSome_iff_exists.mp hf
    have hpos : 0 < l.held.length := List.length_pos_of_mem hx
    rw [hy, List.length_eraseP_of_mem hx hp]
    simp only [Option.toList_some, List.length_singleton]
    omega
  · simp

private theorem Balanced.submit {s : Submission} (h : l.Balanced) (hc : 0 < capacity)
    (hs : l.submit capacity t = .ok (s, l')) : l'.Balanced := by
  unfold Line.submit at hs
  split at hs
  · cases hs
  · obtain ⟨-, rfl⟩ := Prod.mk.inj (Except.ok.inj hs)
    have hlen := length_kept (l := l) hc t.origin
    simp only [Balanced, List.length_append, List.length_singleton] at h ⊢
    omega

private theorem Balanced.take? (h : l.Balanced) (ht : l.take? = some (t, l')) : l'.Balanced := by
  unfold Line.take? at ht
  split at ht
  · cases ht
  · rename_i x rest hl
    obtain ⟨-, rfl⟩ := Prod.mk.inj (Option.some.inj ht)
    simp only [Balanced, hl, List.length_cons] at h ⊢
    omega

end Line

namespace TriggerQueue

/-- The queue as one line. -/
def line (q : TriggerQueue) : Line :=
  ⟨q.contents, q.nextSeq, q.closed, q.submitted, q.delivered, q.dropped⟩

variable {q q' : TriggerQueue} {capacity : Nat} {accepted held : List Queued} {t : Trigger}

private theorem size_eq (q : TriggerQueue) : q.size = q.contents.length := by
  rw [contents, List.length_mergeSort, size]

private theorem Holds.oldestOf?_eq_leaving? (h : q.Holds held) (producer : String) :
    q.oldestOf? producer = q.line.leaving? q.capacity producer := by
  have hl : q.line.held = held := h.contents_eq
  unfold oldestOf? Line.leaving?
  rw [hl, h.lane_eq, ← List.countP_eq_length_filter, List.head?_filter]

private theorem filter_ne_eq_eraseP {p : Queued → Bool} {x : Queued} (hn : held.Nodup)
    (hx : held.find? p = some x) : held.filter (some x ≠ some ·) = held.eraseP p := by
  obtain ⟨hp, before, after, rfl, hbefore⟩ := List.find?_eq_some_iff_append.mp hx
  have hb : ∀ y ∈ before, decide (some x ≠ some y) = true := fun y hy =>
    decide_eq_true fun he => by
      have hy' := hbefore y hy
      rw [← Option.some.inj he, hp] at hy'
      cases hy'
  have ha : ∀ y ∈ after, decide (some x ≠ some y) = true := fun y hy =>
    decide_eq_true fun he =>
      (List.nodup_cons.mp (List.nodup_append.mp hn).2.1).1 (Option.some.inj he ▸ hy)
  rw [List.eraseP_append_right _ (by simpa using hbefore), List.eraseP_cons, hp, cond_true,
    List.filter_append, List.filter_cons_of_neg (by simp), List.filter_eq_self.mpr hb,
    List.filter_eq_self.mpr ha]

private theorem Holds.filter_eq_kept (h : q.Holds held) (producer : String) :
    held.filter (q.oldestOf? producer ≠ some ·) = q.line.kept q.capacity producer := by
  have hl : q.line.held = held := h.contents_eq
  rw [h.oldestOf?_eq_leaving?]
  unfold Line.leaving? Line.kept
  rw [hl]
  split
  · cases hx : held.find? (·.trigger.origin == producer) with
    | none =>
      rw [List.eraseP_of_forall_not (List.find?_eq_none.mp hx)]
      simp
    | some x => exact filter_ne_eq_eraseP h.nodup_held hx
  · simp

private theorem submit_of_closed (h : q.closed) (t : Trigger) :
    q.submit t = .error .queueClosed := if_pos h

private theorem exists_submit_eq_ok (h : q.closed = false) (t : Trigger) :
    ∃ a, q.submit t = .ok a := by
  unfold submit
  rw [if_neg (by simp [h])]
  cases q.displacedBy t.origin <;> exact ⟨_, rfl⟩

private theorem submit_counts {s : Submission} (hs : q.submit t = .ok (s, q')) :
    q'.submitted = q.submitted + 1 ∧ q'.delivered = q.delivered ∧
      q'.dropped = q.dropped + (q.oldestOf? t.origin).toList.length := by
  unfold submit at hs
  split at hs
  · cases hs
  · simp only [displacedBy_eq] at hs
    cases ho : q.oldestOf? t.origin with
    | none =>
      simp only [ho, Option.map_none] at hs
      obtain ⟨-, rfl⟩ := Prod.mk.inj (Except.ok.inj hs)
      exact ⟨rfl, rfl, rfl⟩
    | some x =>
      simp only [ho, Option.map_some] at hs
      obtain ⟨-, rfl⟩ := Prod.mk.inj (Except.ok.inj hs)
      exact ⟨rfl, rfl, rfl⟩

private theorem take?_counts (ht : q.take? = some (t, q')) :
    q'.submitted = q.submitted ∧ q'.delivered = q.delivered + 1 ∧ q'.dropped = q.dropped := by
  unfold take? at ht
  split at ht
  · cases ht
  · split at ht
    · cases ht
    · obtain ⟨-, rfl⟩ := Prod.mk.inj (Option.some.inj ht)
      exact ⟨rfl, rfl, rfl⟩

private theorem Holds.line_submit (h : q.Holds held) (t : Trigger) :
    (q.submit t).map (fun a => (a.1, a.2.line)) = q.line.submit q.capacity t := by
  cases hopen : q.closed with
  | true =>
    have hl : q.line.closed := hopen
    rw [submit_of_closed hopen, Line.submit, if_pos hl]
    rfl
  | false =>
    have hl : q.line.closed = false := hopen
    obtain ⟨⟨s, next⟩, hs⟩ := exists_submit_eq_ok hopen t
    obtain ⟨-, hanswer, hclosed, -, hseq, -⟩ := submit_eq_ok hs
    obtain ⟨hsub, hdel, hdrop⟩ := submit_counts hs
    have hheld := (h.submit hs).contents_eq
    rw [h.filter_eq_kept] at hheld
    rw [h.oldestOf?_eq_leaving?] at hanswer hdrop
    rw [hs, Line.submit, if_neg (by simp [hl]), ← hanswer]
    change Except.ok (s, next.line) = _
    rw [line, hheld, hseq, hclosed, hsub, hdel, hdrop, ← hopen]
    rfl

theorem Holds.line_take? (h : q.Holds held) :
    q.take?.map (fun a => (a.1, a.2.line)) = q.line.take? := by
  have hl : q.line.held = held := h.contents_eq
  unfold Line.take?
  rw [hl]
  cases held with
  | nil => rw [h.take?_nil]; rfl
  | cons x rest =>
    obtain ⟨next, ht, hr, hn, hc, -⟩ := h.take?_cons
    obtain ⟨hs, hd, hp⟩ := take?_counts ht
    rw [ht, Option.map_some, line, hr.contents_eq, hn, hc, hs, hd, hp]
    rfl

theorem Holds.balanced_step (h : q.Holds held) (hb : q.line.Balanced) (m : QueueMove) :
    (q.step m).1.line.Balanced := by
  rcases q.step_cases m with ⟨w, he⟩ | ⟨t, s, next, -, hs, he⟩ | ⟨t, next, w, ht, he⟩ | ⟨-, he⟩
  · rw [he]
    exact hb
  · have hl : .ok (s, next.line) = q.line.submit q.capacity t := by
      rw [← h.line_submit, hs]
      rfl
    rw [he]
    exact hb.submit q.capacity_pos hl.symm
  · have hl : some (t, next.line) = q.line.take? := by simpa [ht] using h.line_take?
    rw [he]
    exact hb.take? hl.symm
  · rw [he]
    exact hb

theorem Keeps.balanced_run (h : q.Keeps capacity accepted) (hb : q.line.Balanced)
    (moves : List QueueMove) : (q.run moves).1.line.Balanced := by
  induction moves generalizing q accepted with
  | nil => exact hb
  | cons m rest ih =>
    obtain ⟨held, hq⟩ := h.held
    exact ih (h.step m) (hq.balanced_step hb m)

private theorem line_new (capacity : Nat) : (new capacity).line = ⟨[], 0, false, 0, 0, 0⟩ := by
  rw [line, (holds_new capacity).contents_eq]
  rfl

/-- In every history of a queue, each call does to the queue what it does to the line, with the same
answer; the lanes are short and never empty; and every trigger is accounted for. -/
theorem refines_line (capacity : Nat) (moves : List QueueMove) :
    let q := ((new capacity).run moves).1
    (∀ t, (q.submit t).map (fun a => (a.1, a.2.line)) = q.line.submit (max capacity 1) t) ∧
      q.take?.map (fun a => (a.1, a.2.line)) = q.line.take? ∧
      q.close.line = q.line.close ∧
      (q.closed → ∀ t, q.submit t = .error .queueClosed ∧ q.step (.submit t) = (q, none)) ∧
      (q.lanes.map (·.producer)).Nodup ∧
      (∀ l ∈ q.lanes, 0 < l.queued.length ∧ l.queued.length ≤ max capacity 1) ∧
      q.size = q.line.held.length ∧ q.submitted = q.delivered + q.dropped + q.size := by
  intro q
  have h : q.Keeps (max capacity 1) _ := (keeps_new capacity).run moves
  have hb : q.line.Balanced :=
    (keeps_new capacity).balanced_run (by simp [line_new, Line.Balanced]) moves
  obtain ⟨held, hq⟩ := h.held
  refine ⟨fun t => ?_, hq.line_take?, rfl, fun hc t => ?_, hq.nodup, fun l hl => ?_, q.size_eq, ?_⟩
  · rw [← h.capacity_eq]
    exact hq.line_submit t
  · have hs := submit_of_closed hc t
    exact ⟨hs, by simp only [step, hs]⟩
  · refine ⟨List.length_pos_iff.mpr (hq.nonempty l hl), ?_⟩
    rw [hq.queued_eq hl, ← hq.lane_eq]
    exact h.room l.producer
  · rw [size_eq]
    exact hb

/-- Room for none is room for one: the second trigger of a producer drops the first, and a closed queue
takes no third one. -/
theorem refines_line_of_closed :
    let trigger (now : Time) : Trigger := .ofReason (.plain .ui) "ui" now
    let q := ((new 0).run [.submit (trigger 0), .submit (trigger 1), .close]).1
    q.submit (trigger 2) = .error .queueClosed ∧ q.step (.submit (trigger 2)) = (q, none) ∧
      q.dropped = 1 ∧ q.size = 1 ∧ q.submitted = q.delivered + q.dropped + q.size := by
  intro trigger q
  obtain ⟨-, -, -, hclosed, -, -, -, hb⟩ :=
    refines_line 0 [.submit (trigger 0), .submit (trigger 1), .close]
  obtain ⟨hs, hq⟩ := hclosed rfl (trigger 2)
  exact ⟨hs, hq, rfl, rfl, hb⟩

end TriggerQueue
end RestartCoordinator
