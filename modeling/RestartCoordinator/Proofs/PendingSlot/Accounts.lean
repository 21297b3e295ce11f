import RestartCoordinator.Proofs.PendingSlot.Waits
/-!
# The accounts of the pending slot

What becomes of the requests that a slot has accepted: they wait in it, merged into one, until it is
taken, handed to the call that waits for it, or thrown away when the slot is closed. A stop is never
thrown away, nor is a request with a stop in it.
-/
namespace RestartCoordinator
namespace PendingSlot

variable {s : PendingSlot}

/-- Where the requests are that a slot has accepted. -/
structure Accounts (s : PendingSlot) (history : List SlotEvent) : Prop where
  pending : s.pending = Request.mergeAll (gathered history)
  hasStop : s.hasStop ↔ ∃ r ∈ gathered history, r.isStop
  handedOut : ∀ before whole after, history = before ++ .handedOut whole :: after →
    Request.mergeAll (gathered before) = some whole
  discarded : ∀ before whole after, history = before ++ .closed (some whole) :: after →
    Request.mergeAll (gathered before) = some whole ∧ ∀ r ∈ gathered before, r.isStop = false
  /-- A stop that was accepted still waits, or the first thing that left the slot after it has it and
  was handed out. -/
  stop : ∀ before r after, history = before ++ .accepted r :: after → r.isStop →
    (∃ whole, s.pending = some whole ∧ CarriesStop (gathered history) r whole ∧
        ∀ e ∈ after, e.removes = false) ∨
      ∃ middle whole later, after = middle ++ .handedOut whole :: later ∧
        CarriesStop (gathered (before ++ .accepted r :: middle)) r whole ∧
        ∀ e ∈ middle, e.removes = false

private theorem accounts_of_coherent {history : List SlotEvent} (hc : Coherent [] history)
    (hp : s.pending = Request.mergeAll (gathered history)) : s.Accounts history := by
  constructor
  case pending => exact hp
  case hasStop =>
    unfold hasStop
    cases hm : Request.mergeAll (gathered history) with
    | none =>
      rw [hp, hm, Request.mergeAll_eq_none_iff.mp hm]
      simp
    | some whole =>
      rw [hp, hm, Option.any_some]
      exact Request.isStop_of_mergeAll hm
  case handedOut =>
    rintro before whole after rfl
    exact hc.fits.1
  case discarded =>
    rintro before whole after rfl
    exact hc.fits.1.discarded
  case stop =>
    rintro before r after rfl hs
    rcases hc.stop hs with ⟨whole, hw, hnone⟩ | hout
    · exact .inl ⟨whole, hp.trans hw.mergeAll_eq, hw, hnone⟩
    · exact .inr hout

/-- In every history of a slot. What waits is the merge of what was accepted since the last removal; it
is what a take or a run of the call for a request hands out, and is gone then. No stop is ever thrown
away, and once closed, the slot takes nothing more. -/
theorem run_accounts (moves : List SlotMove) :
    let slot := (new.run moves).1
    let history := (new.run moves).2
    slot.Accounts history ∧
      (slot.take.1 = slot.pending ∧ slot.take.2.pending = none) ∧
      ((∀ r, slot.next.1 = .ready (some r) ↔ slot.pending = some r) ∧
        slot.next.2.pending = none) ∧
      slot.close.1 = slot.pending.filter (!·.isStop) ∧
      slot.close.2.pending = slot.pending.filter (·.isStop) ∧
      (.close ∈ moves → ∀ r, slot.offer r = (.rejected, slot)) ∧
      (.close ∉ moves → ∀ r,
        (slot.offer r).1 = if gathered history = [] then .queued else .merged) := by
  intro slot history
  obtain ⟨hc, hp⟩ : Coherent [] history ∧ slot.pending = Request.mergeAll (gathered history) :=
    run_coherent rfl moves
  have hclosed : slot.closed ↔ .close ∈ moves := (closed_run new moves).trans (by simp [new])
  have hanswers : slot.Answers := (alert_new.run moves).answers
  refine ⟨accounts_of_coherent hc hp, ⟨rfl, rfl⟩, ⟨hanswers.request, hanswers.next_takes.1⟩,
    slot.close_eq_filter.1, slot.close_eq_filter.2, ?_, ?_⟩
  · exact fun hm => offer_of_closed (hclosed.mpr hm)
  · intro hm r
    have hopen : slot.closed = false := by simpa using mt hclosed.mp hm
    have hempty : slot.isEmpty ↔ gathered history = [] := by
      rw [← Request.mergeAll_eq_none_iff, isEmpty, Option.isNone_iff_eq_none]
      exact iff_of_eq (congrArg (· = none) hp)
    simp only [offer, hopen, Bool.false_eq_true, ↓reduceIte, hempty]

/-- A stop that was merged into a reload is not thrown away with it, and a start comes too late; the
call for a request is handed both. In another slot a reload goes to that call, a start and a reload are
taken together, and a last reload is thrown away. -/
theorem run_accounts_of_stop :
    let reload : Request := .immediate ⟨1⟩ (.ofReason (.plain .ruleChanged) "rules" 1) 1
    let stop : Request := .immediate ⟨2⟩ (.ofReason (.plain .switchOff) "ui" 2) 2
    let start : Request := .immediate ⟨3⟩ (.ofReason (.plain .ui) "ui" 3) 3
    let stopped := (new.run [.offer reload, .offer stop, .close, .offer start, .close]).1
    let moves := [.offer reload, .next, .offer start, .offer reload, .take, .offer reload]
    let slot := (new.run moves).1
    let last := new.run (moves ++ [.close])
    (stopped.offer start = (.rejected, stopped) ∧
        ∃ whole, stopped.pending = some whole ∧ CarriesStop [reload, stop] stop whole ∧
          stopped.next.1 = .ready (some whole)) ∧
      (slot.take.1 = some reload ∧ slot.next.1 = .ready (some reload) ∧
        (slot.offer start).1 = .merged) ∧
      last.2 = [.accepted reload, .handedOut reload, .accepted start, .accepted reload,
        .handedOut (start.merge reload), .accepted reload, .closed (some reload)] ∧
      Request.mergeAll [start, reload] = some (start.merge reload) ∧
      ∀ r ∈ [reload], r.isStop = false := by
  intro reload stop start stopped moves slot last
  obtain ⟨haccounts, -, hnext, -, -, hrejected, -⟩ :=
    run_accounts [.offer reload, .offer stop, .close, .offer start, .close]
  obtain ⟨-, htake, hhanded, -, -, -, hmerged⟩ := run_accounts moves
  obtain ⟨hlast, -⟩ := run_accounts (moves ++ [.close])
  have hhistory : last.2 = [.accepted reload, .handedOut reload, .accepted start,
      .accepted reload, .handedOut (start.merge reload), .accepted reload,
      .closed (some reload)] := by
    decide +kernel
  have hpending : slot.pending = some reload := by decide +kernel
  have hgathered : gathered (new.run moves).2 ≠ [] := by decide +kernel
  refine ⟨⟨hrejected (by simp) start, ?_⟩, ⟨htake.1.trans hpending, (hhanded.1 reload).mpr hpending,
    ?_⟩, hhistory, ?_, ?_⟩
  · rcases haccounts.stop [.accepted reload] stop [.closed none, .rejected start, .closed none] rfl
      rfl with ⟨whole, hp, hw, -⟩ | ⟨middle, whole, later, hm, -⟩
    · exact ⟨whole, hp, hw, (hnext.1 whole).mpr hp⟩
    · have hin : .handedOut whole ∈ middle ++ .handedOut whole :: later := by simp
      rw [← hm] at hin
      simp at hin
  · rw [hmerged (by simp [moves]) start, if_neg hgathered]
  · exact hlast.handedOut [.accepted reload, .handedOut reload, .accepted start, .accepted reload] _
      [.accepted reload, .closed (some reload)] hhistory
  · exact (hlast.discarded [.accepted reload, .handedOut reload, .accepted start, .accepted reload,
      .handedOut (start.merge reload), .accepted reload] reload [] hhistory).2

end PendingSlot
end RestartCoordinator
