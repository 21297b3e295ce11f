import RestartCoordinator.PendingSlot
import RestartCoordinator.Proofs.Request.Merges
import RestartCoordinator.Proofs.Wakeup.Attempts
/-!
# Histories of the pending slot

Requests are offered to a slot and leave it in any order, and it may be closed at any time. What waits
in the slot is always the merge of the requests accepted since the last one left. A stop that was
accepted stays there until it leaves in a request that is handed out.
-/
namespace RestartCoordinator

/-- What can happen to a pending slot. -/
inductive SlotMove where
  | offer (request : Request)
  | take
  /-- The call that waits for a request is run, or a new one. -/
  | next
  | dropNext
  | stopRequested
  | dropStopRequested
  | close

/-- What is seen of a pending slot. -/
inductive SlotEvent where
  | accepted (request : Request)
  | rejected (request : Request)
  | handedOut (request : Request)
  | closed (discarded : Option Request)
deriving DecidableEq

namespace SlotEvent

/-- A request leaves the slot. -/
def removes : SlotEvent → Bool
  | .handedOut _ | .closed (some _) => true
  | _ => false

/-- The requests accepted since the last removal, by those accepted before the event. -/
def gathers (waiting : List Request) : SlotEvent → List Request
  | .accepted r => waiting ++ [r]
  | .rejected _ | .closed none => waiting
  | .handedOut _ | .closed (some _) => []

/-- What leaves the slot is the merge of what has been accepted, and closing leaves a stop. -/
def Fits (waiting : List Request) : SlotEvent → Prop
  | .handedOut whole => Request.mergeAll waiting = some whole
  | .closed discarded => discarded = (Request.mergeAll waiting).filter (!·.isStop)
  | _ => True

end SlotEvent

/-- The requests accepted since the last one was removed. -/
def gathered (history : List SlotEvent) : List Request := history.foldl SlotEvent.gathers []

def Coherent (waiting : List Request) : List SlotEvent → Prop
  | [] => True
  | e :: rest => e.Fits waiting ∧ Coherent (e.gathers waiting) rest

section
variable {waiting : List Request} {history later : List SlotEvent} {r whole : Request}

theorem SlotEvent.Fits.discarded (h : SlotEvent.Fits waiting (.closed (some whole))) :
    Request.mergeAll waiting = some whole ∧ ∀ r ∈ waiting, r.isStop = false := by
  obtain ⟨hw, hns⟩ := Option.filter_eq_some_iff.mp h.symm
  refine ⟨hw, fun r hr => Bool.eq_false_iff.mpr fun hs => ?_⟩
  have hstop := (Request.isStop_of_mergeAll hw).mpr ⟨r, hr, hs⟩
  simp [hstop] at hns

private theorem gathered_append (before : List SlotEvent) (e : SlotEvent) (after : List SlotEvent) :
    gathered (before ++ e :: after) = after.foldl SlotEvent.gathers (e.gathers (gathered before)) :=
  List.foldl_append

private theorem coherent_append :
    Coherent waiting (history ++ later) ↔
      Coherent waiting history ∧ Coherent (history.foldl SlotEvent.gathers waiting) later := by
  induction history generalizing waiting with
  | nil => simp [Coherent]
  | cons e rest ih => simp [Coherent, ih, and_assoc]

private theorem Coherent.stop_stays (h : Coherent waiting history) (hr : r ∈ waiting)
    (hs : r.isStop) :
    (r ∈ history.foldl SlotEvent.gathers waiting ∧ ∀ e ∈ history, e.removes = false) ∨
      ∃ middle whole later, history = middle ++ .handedOut whole :: later ∧
        (∀ e ∈ middle, e.removes = false) ∧ r ∈ middle.foldl SlotEvent.gathers waiting ∧
        Request.mergeAll (middle.foldl SlotEvent.gathers waiting) = some whole := by
  induction history generalizing waiting with
  | nil => exact .inl ⟨hr, by simp⟩
  | cons e rest ih =>
    obtain ⟨hfits, hrest⟩ := h
    have onward (hn : e.removes = false) (hm : r ∈ e.gathers waiting) :
        (r ∈ (e :: rest).foldl SlotEvent.gathers waiting ∧ ∀ x ∈ e :: rest, x.removes = false) ∨
          ∃ middle whole later, e :: rest = middle ++ .handedOut whole :: later ∧
            (∀ x ∈ middle, x.removes = false) ∧ r ∈ middle.foldl SlotEvent.gathers waiting ∧
            Request.mergeAll (middle.foldl SlotEvent.gathers waiting) = some whole := by
      rcases ih hrest hm with ⟨hin, hnone⟩ | ⟨middle, whole, later, rfl, hnone, hin, hw⟩
      · exact .inl ⟨hin, List.forall_mem_cons.mpr ⟨hn, hnone⟩⟩
      · exact .inr ⟨e :: middle, whole, later, rfl, List.forall_mem_cons.mpr ⟨hn, hnone⟩, hin, hw⟩
    cases e with
    | accepted r' => exact onward rfl (List.mem_append_left _ hr)
    | rejected r' => exact onward rfl hr
    | handedOut whole => exact .inr ⟨[], whole, rest, rfl, by simp, hr, hfits⟩
    | closed discarded =>
      cases discarded with
      | none => exact onward rfl hr
      | some whole =>
        have hn := hfits.discarded.2 r hr
        rw [hs] at hn
        cases hn

end

/-- The merge of the parts is a stop with all reasons of one of them. -/
structure CarriesStop (parts : List Request) (stop whole : Request) : Prop where
  mem : stop ∈ parts
  mergeAll_eq : Request.mergeAll parts = some whole
  isStop : whole.isStop
  reasons : stop.reasons <:+: whole.reasons

section
variable {before after : List SlotEvent} {r whole : Request}

private theorem carriesStop {parts : List Request} (hw : Request.mergeAll parts = some whole)
    (hr : r ∈ parts)
    (hs : r.isStop) : CarriesStop parts r whole :=
  ⟨hr, hw, (Request.isStop_of_mergeAll hw).mpr ⟨r, hr, hs⟩, Request.reasons_infix_of_mergeAll hw hr hs⟩

theorem Coherent.fits {e : SlotEvent} (hc : Coherent [] (before ++ e :: after)) :
    e.Fits (gathered before) ∧ Coherent (e.gathers (gathered before)) after :=
  (coherent_append.mp hc).2

/-- A stop that was accepted waits as part of a stop, or was handed out in one. -/
theorem Coherent.stop (hc : Coherent [] (before ++ .accepted r :: after)) (hs : r.isStop) :
    (∃ whole, CarriesStop (gathered (before ++ .accepted r :: after)) r whole ∧
        ∀ e ∈ after, e.removes = false) ∨
      ∃ middle whole later, after = middle ++ .handedOut whole :: later ∧
        CarriesStop (gathered (before ++ .accepted r :: middle)) r whole ∧
        ∀ e ∈ middle, e.removes = false := by
  rcases hc.fits.2.stop_stays (by simp [SlotEvent.gathers]) hs with
    ⟨hin, hnone⟩ | ⟨middle, whole, later, hafter, hnone, hin, hw⟩
  · left
    rw [← gathered_append] at hin
    cases hm : Request.mergeAll (gathered (before ++ .accepted r :: after)) with
    | none =>
      rw [Request.mergeAll_eq_none_iff.mp hm] at hin
      cases hin
    | some whole => exact ⟨whole, carriesStop hm hin hs, hnone⟩
  · right
    rw [← gathered_append] at hw hin
    exact ⟨middle, whole, later, hafter, carriesStop hw hin hs, hnone⟩

end

namespace PendingSlot

/-- The slot after a move, and what is seen of it. -/
def step (s : PendingSlot) : SlotMove → PendingSlot × List SlotEvent
  | .offer r =>
    match s.offer r with
    | (.rejected, s) => (s, [.rejected r])
    | (_, s) => (s, [.accepted r])
  | .take => (s.take.2, s.take.1.toList.map .handedOut)
  | .next =>
    match s.next with
    | (.ready (some r), s) => (s, [.handedOut r])
    | (_, s) => (s, [])
  | .dropNext => (s.dropNext, [])
  | .stopRequested => (s.stopRequested.2, [])
  | .dropStopRequested => (s.dropStopRequested, [])
  | .close => (s.close.2, [.closed s.close.1])

/-- The slot after all moves, and its history. -/
def run (s : PendingSlot) : List SlotMove → PendingSlot × List SlotEvent
  | [] => (s, [])
  | m :: rest =>
    let (s, events) := s.step m
    let (s, more) := s.run rest
    (s, events ++ more)

variable {s : PendingSlot} {waiting : List Request} {r : Request}

theorem offer_of_closed (h : s.closed) (r : Request) : s.offer r = (.rejected, s) := if_pos h

theorem step_offer_of_open (h : s.closed = false) :
    (s.step (.offer r)).1.pending = some (joined s.pending r) ∧
      (s.step (.offer r)).1.closed = false ∧ (s.step (.offer r)).2 = [.accepted r] := by
  have hp : (s.offer r).2.pending = some (joined s.pending r) := by simp [offer, h]
  have hc : (s.offer r).2.closed = false := by simp [offer, h]
  have hn : (s.offer r).1 ≠ .rejected := by
    simp only [offer, h, Bool.false_eq_true, ↓reduceIte]
    split <;> simp
  dsimp only [step]
  generalize s.offer r = answer at hp hc hn
  obtain ⟨o, s'⟩ := answer
  cases o with
  | rejected => exact absurd rfl hn
  | queued | merged => exact ⟨hp, hc, rfl⟩

theorem step_next (s : PendingSlot) :
    (s.step .next).1.closed = s.closed ∧
      (((s.step .next).1.pending = s.pending ∧ (s.step .next).2 = []) ∨
        ∃ r, s.pending = some r ∧ (s.step .next).1.pending = none ∧
          (s.step .next).2 = [.handedOut r]) := by
  unfold step next
  rcases s.available.attempt_cases look s with ⟨w, ha⟩ | ⟨answer, w, s', hl, ha⟩
  · rw [ha]
    exact ⟨rfl, .inl ⟨rfl, rfl⟩⟩
  · rw [ha]
    unfold look at hl
    cases hp : s.pending with
    | some r =>
      simp only [hp, Option.some.injEq, Prod.mk.injEq] at hl
      obtain ⟨rfl, rfl⟩ := hl
      exact ⟨rfl, .inr ⟨r, rfl, rfl, rfl⟩⟩
    | none =>
      simp only [hp, Option.ite_none_right_eq_some, Option.some.injEq, Prod.mk.injEq] at hl
      obtain ⟨-, rfl, rfl⟩ := hl
      exact ⟨rfl, .inl ⟨hp, rfl⟩⟩

theorem step_stopRequested (s : PendingSlot) :
    (s.step .stopRequested).1.closed = s.closed ∧
      (s.step .stopRequested).1.pending = s.pending := by
  unfold step stopRequested
  rcases s.stopOffered.attempt_cases (fun s => if s.wantsStop then some ((), s) else none) s with
    ⟨w, ha⟩ | ⟨answer, w, s', hl, ha⟩
  · rw [ha]
    exact ⟨rfl, rfl⟩
  · rw [ha]
    simp only [Option.ite_none_right_eq_some, Option.some.injEq, Prod.mk.injEq] at hl
    obtain ⟨-, -, rfl⟩ := hl
    exact ⟨rfl, rfl⟩

theorem close_eq_filter (s : PendingSlot) :
    s.close.1 = s.pending.filter (!·.isStop) ∧
      s.close.2.pending = s.pending.filter (·.isStop) := by
  cases hp : s.pending with
  | none => simp [close, hasStop, hp]
  | some r => cases hr : r.isStop <;> simp [close, hasStop, hp, hr, Option.filter]

theorem step_coherent (h : s.pending = Request.mergeAll waiting) (m : SlotMove) :
    Coherent waiting (s.step m).2 ∧
      (s.step m).1.pending = Request.mergeAll ((s.step m).2.foldl SlotEvent.gathers waiting) := by
  cases m with
  | offer r =>
    by_cases hc : s.closed
    · simp only [step, offer_of_closed hc]
      exact ⟨⟨trivial, trivial⟩, h⟩
    · obtain ⟨hp, -, he⟩ := step_offer_of_open (r := r) (by simpa using hc)
      rw [he, hp]
      refine ⟨⟨trivial, trivial⟩, ?_⟩
      simp only [List.foldl_cons, List.foldl_nil, SlotEvent.gathers]
      rw [Request.mergeAll_append_singleton, ← h]
      cases s.pending <;> rfl
  | take =>
    cases hp : s.pending with
    | none =>
      rw [hp] at h
      simp only [step, take, hp, Option.toList_none, List.map_nil]
      exact ⟨trivial, h⟩
    | some r =>
      rw [hp] at h
      simp only [step, take, hp, Option.toList_some, List.map_cons, List.map_nil]
      exact ⟨⟨h.symm, trivial⟩, rfl⟩
  | next =>
    obtain ⟨-, ⟨hp, he⟩ | ⟨r, hr, hp, he⟩⟩ := s.step_next
    · rw [hp, he]
      exact ⟨trivial, h⟩
    · rw [hp, he]
      exact ⟨⟨h.symm.trans hr, trivial⟩, rfl⟩
  | dropNext => exact ⟨trivial, h⟩
  | stopRequested => exact ⟨trivial, s.step_stopRequested.2.trans h⟩
  | dropStopRequested => exact ⟨trivial, h⟩
  | close =>
    obtain ⟨hd, hk⟩ := s.close_eq_filter
    rw [h] at hd hk
    refine ⟨⟨hd, trivial⟩, ?_⟩
    simp only [step, List.foldl_cons, List.foldl_nil, hd, hk]
    cases hm : Request.mergeAll waiting with
    | none => simpa [SlotEvent.gathers] using hm.symm
    | some whole =>
      cases hs : whole.isStop
      · simp [SlotEvent.gathers, Option.filter, hs, Request.mergeAll]
      · simpa [SlotEvent.gathers, Option.filter, hs] using hm.symm

theorem run_coherent (h : s.pending = Request.mergeAll waiting) (moves : List SlotMove) :
    Coherent waiting (s.run moves).2 ∧
      (s.run moves).1.pending = Request.mergeAll ((s.run moves).2.foldl SlotEvent.gathers waiting) := by
  induction moves generalizing s waiting with
  | nil => exact ⟨trivial, h⟩
  | cons m rest ih =>
    obtain ⟨hc, hp⟩ := step_coherent h m
    obtain ⟨hcr, hpr⟩ := ih hp
    refine ⟨coherent_append.mpr ⟨hc, hcr⟩, ?_⟩
    simpa only [run, List.foldl_append] using hpr

theorem closed_step (s : PendingSlot) (m : SlotMove) :
    (s.step m).1.closed ↔ s.closed ∨ m = .close := by
  cases m with
  | offer r =>
    by_cases hc : s.closed
    · simp [step, offer_of_closed hc, hc]
    · have hc' : s.closed = false := by simpa using hc
      simp [step_offer_of_open hc', hc']
  | next => simp [s.step_next.1]
  | stopRequested => simp [s.step_stopRequested.1]
  | take | dropNext | dropStopRequested => simp [step, take, dropNext, dropStopRequested]
  | close => simp [step, close]

theorem closed_run (s : PendingSlot) (moves : List SlotMove) :
    (s.run moves).1.closed ↔ s.closed ∨ .close ∈ moves := by
  induction moves generalizing s with
  | nil => simp [run]
  | cons m rest ih =>
    simp only [run, ih, closed_step, List.mem_cons, or_assoc, @eq_comm _ m]

end PendingSlot
end RestartCoordinator
