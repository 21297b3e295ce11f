import RestartCoordinator.Proofs.Lifecycle.Histories
/-!
# Views of a lifecycle machine

What the holder of a view has learnt by it, and what a call that waits for a snapshot answers. Two
things are kept while the machine shows one snapshot after the other. A call that waits has looked
at the snapshot of the version that it saw, and did not want it. The last snapshot that was learnt
by a view is the one on show if the view has seen its version, and else an earlier one. So an answer
is always for the snapshot on show, and none overlooks it.
-/
namespace RestartCoordinator.Lifecycle

/-- The second snapshot comes after the first: by moves, or as the message of the same failure. -/
def Snapshot.Later (s t : Snapshot) : Prop :=
  s.generation < t.generation ∨
    s.lastError = none ∧ ∃ message, t = { s with lastError := some message }

/-- A call that waits for a snapshot, with the view that it makes for itself when it is first run.
-/
structure Wait where
  wanted : Snapshot → Bool
  view? : Option View

/-- One run of the call. -/
def Wait.run (x : Wait) (w : Watch) : Poll (Option Snapshot) × View :=
  match x.view? with
  | none => View.waitFor x.wanted w
  | some v => v.waitForAgain x.wanted w

/-- A view with the snapshots that were learnt by it: the one on show when it was made, or the last
one that was learnt by the view of which it is a copy, and then those that its calls for the next
one gave. -/
structure Reader where
  view : View
  told : List Snapshot

/-- One run of the call for the next snapshot. One that has to wait leaves nothing behind, so it is
no matter whether it is run again or dropped. -/
def Reader.learn (r : Reader) (w : Watch) : Reader :=
  match r.view.changed w with
  | (.ready (some s), v) => ⟨v, r.told ++ [s]⟩
  | (_, v) => ⟨v, r.told⟩

namespace Snapshot

variable {s t u : Snapshot}

theorem Later.trans (h : s.Later t) (h' : t.Later u) : s.Later u := by
  rcases h with h | ⟨hs, m, rfl⟩ <;> rcases h' with h' | ⟨ht, m', rfl⟩
  · exact .inl (Nat.lt_trans h h')
  · exact .inl h
  · exact .inl h'
  · cases ht

private theorem Later.ne (h : s.Later t) : s ≠ t := by
  rintro rfl
  rcases h with h | ⟨hs, m, hm⟩
  · exact Nat.lt_irrefl _ h
  · rw [hm] at hs
    cases hs

end Snapshot

namespace Watch

variable {w w' : Watch} {input : Input} {reasons : List Reason}

theorem apply_eq_ok (h : w.apply input reasons = .ok w') :
    ∃ state, w.snapshot.state.next? input = some state ∧
      w' = w.publish (w.snapshot.moveTo state reasons) := by
  cases hn : w.snapshot.state.next? input with
  | none =>
    rw [apply_of_refused hn] at h
    cases h
  | some state =>
    rw [apply_of_accepted hn] at h
    exact ⟨state, rfl, (Except.ok.inj h).symm⟩

private theorem fail_eq_ok {failure : Failure} (h : w.fail failure reasons = .ok w') :
    ∃ moved, w.apply .failed reasons = .ok moved ∧
      w' = moved.publish { moved.snapshot with lastError := some failure.message } := by
  unfold Watch.fail at h
  cases ha : w.apply .failed reasons with
  | error f =>
    rw [ha] at h
    cases h
  | ok moved =>
    rw [ha] at h
    exact ⟨moved, rfl, (Except.ok.inj h).symm⟩

theorem advances_of_apply (h : w.apply input reasons = .ok w') :
    w.snapshot.generation < w'.snapshot.generation ∧ w.version < w'.version ∧
      (w'.snapshot.lastError.isSome → w'.snapshot.state = .failed) := by
  obtain ⟨state, -, rfl⟩ := apply_eq_ok h
  refine ⟨Nat.lt_succ_self _, Nat.lt_succ_self _, fun hm => ?_⟩
  by_cases hf : state = .failed
  · exact hf
  · simp [publish, Snapshot.moveTo, hf] at hm

theorem advances_of_call {c : MachineCall} (h : w.call c = .ok w') :
    w.snapshot.generation < w'.snapshot.generation ∧ w.version < w'.version ∧
      (w'.snapshot.lastError.isSome → w'.snapshot.state = .failed) := by
  cases c with
  | apply input reasons => exact advances_of_apply h
  | fail failure reasons =>
    obtain ⟨moved, ha, rfl⟩ := fail_eq_ok h
    obtain ⟨hg, hv, -⟩ := advances_of_apply ha
    obtain ⟨state, hn, rfl⟩ := apply_eq_ok ha
    exact ⟨hg, Nat.lt_succ_of_lt hv, fun _ => State.eq_failed_of_next? hn⟩

end Watch

namespace View

variable {v : View} {w : Watch} {p : Snapshot → Bool}

private theorem changed_of_ne (h : v.seen ≠ w.version) :
    v.changed w = (.ready (some w.snapshot), ⟨w.version⟩) := by
  simp only [changed, await, if_pos h]

private theorem changed_of_eq (h : v.seen = w.version) :
    v.changed w = (if w.closed then .ready none else .pending, v) := by
  cases hc : w.closed <;> simp [changed, await, h, hc]

private theorem waitFor_eq (p : Snapshot → Bool) (w : Watch) :
    waitFor p w =
      (if p w.snapshot then .ready (some w.snapshot)
        else if w.closed then .ready none else .pending, ⟨w.version⟩) := by
  unfold waitFor
  cases hp : p w.snapshot <;> cases hc : w.closed <;> simp [await, hc]

private theorem waitForAgain_of_ne (h : v.seen ≠ w.version) :
    waitForAgain p v w = waitFor p w := by
  simp only [waitForAgain, await, if_pos h]

private theorem waitForAgain_of_eq (h : v.seen = w.version) :
    waitForAgain p v w = (if w.closed then .ready none else .pending, v) := by
  cases hc : w.closed <;> simp [waitForAgain, await, h, hc]

end View

variable {w w' : Watch} {shown : List Snapshot}

/-- What a call that waits should say: the snapshot on show if it is wanted, and none if it is not
and nothing else will be shown. -/
def Wait.answer (x : Wait) (w : Watch) : Poll (Option Snapshot) :=
  if x.wanted w.snapshot then .ready (some w.snapshot)
  else if w.closed then .ready none
  else .pending

/-- If the call waits at the version on show, then it does not want what is shown. -/
def Wait.Looked (x : Wait) (w : Watch) : Prop :=
  ∀ v, x.view? = some v →
    v.seen ≤ w.version ∧ (v.seen = w.version → x.wanted w.snapshot = false)

namespace Wait

variable {x : Wait}

theorem looked_new (wanted : Snapshot → Bool) (w : Watch) : Looked ⟨wanted, none⟩ w := nofun

/-- A run answers for the snapshot on show, and has seen its version if it goes on waiting. -/
theorem Looked.run_eq (h : x.Looked w) :
    (x.run w).1 = x.answer w ∧ ((x.run w).1 = .pending → (x.run w).2.seen = w.version) := by
  have hfirst : View.waitFor x.wanted w = (x.answer w, ⟨w.version⟩) := View.waitFor_eq x.wanted w
  unfold Wait.run
  cases hv : x.view? with
  | none =>
    rw [hfirst]
    exact ⟨rfl, fun _ => rfl⟩
  | some v =>
    by_cases hs : v.seen = w.version
    · have hp : x.wanted w.snapshot = false := (h v hv).2 hs
      dsimp only
      rw [View.waitForAgain_of_eq hs, answer, hp]
      exact ⟨rfl, fun _ => hs⟩
    · dsimp only
      rw [View.waitForAgain_of_ne hs, hfirst]
      exact ⟨rfl, fun _ => rfl⟩

private theorem answer_eq_pending_iff :
    x.answer w = .pending ↔ x.wanted w.snapshot = false ∧ w.closed = false := by
  unfold answer
  cases x.wanted w.snapshot <;> cases w.closed <;> simp

theorem Looked.waits (h : x.Looked w) (hp : (x.run w).1 = .pending) :
    Looked { x with view? := some (x.run w).2 } w := by
  obtain ⟨ha, hseen⟩ := h.run_eq
  intro v hv
  obtain rfl := Option.some.inj hv
  refine ⟨Nat.le_of_eq (hseen hp), fun _ => ?_⟩
  rw [ha] at hp
  exact (answer_eq_pending_iff.mp hp).1

theorem Looked.present (h : x.Looked w) (hv : w.version < w'.version) : x.Looked w' := by
  intro v hx
  have hle := (h v hx).1
  refine ⟨by omega, fun he => ?_⟩
  omega

end Wait

/-- What was learnt by a view was shown in this order, and is what is on show now if the view has
seen it. -/
structure Reader.Follows (r : Reader) (shown : List Snapshot) (w : Watch) : Prop where
  sublist : r.told.Sublist shown
  current : r.view.seen = w.version → r.told.getLast? = some w.snapshot
  behind : r.view.seen ≠ w.version →
    r.view.seen < w.version ∧ ∃ s, r.told.getLast? = some s ∧ s.Later w.snapshot

namespace Reader

variable {r : Reader}

private theorem Follows.seen_iff (h : r.Follows shown w) :
    r.view.seen = w.version ↔ r.told.getLast? = some w.snapshot := by
  refine ⟨h.current, fun hl => ?_⟩
  by_cases hs : r.view.seen = w.version
  · exact hs
  · obtain ⟨-, s, ht, hlater⟩ := h.behind hs
    rw [hl] at ht
    exact absurd (Option.some.inj ht).symm hlater.ne

private theorem sublist_of_getLast? {told before : List Snapshot} {s : Snapshot}
    (h : told.Sublist (before ++ [s])) (hl : told.getLast? ≠ some s) : told.Sublist before := by
  obtain ⟨front, back, rfl, hf, hb⟩ := List.sublist_append_iff.mp h
  cases hb with
  | cons _ hb =>
    cases hb
    rwa [List.append_nil]
  | cons_cons _ hb =>
    cases hb
    exact absurd List.getLast?_concat hl

theorem Follows.learn (h : r.Follows shown w) (hs : shown.getLast? = some w.snapshot) :
    (r.learn w).Follows shown w := by
  unfold Reader.learn
  by_cases he : r.view.seen = w.version
  · rw [View.changed_of_eq he]
    cases w.closed <;> exact h
  · rw [View.changed_of_ne he]
    obtain ⟨before, rfl⟩ := List.getLast?_eq_some_iff.mp hs
    have hold : r.told.Sublist before := sublist_of_getLast? h.sublist (mt h.seen_iff.mpr he)
    exact ⟨hold.append_right _, fun _ => List.getLast?_concat, fun hne => absurd rfl hne⟩

theorem Follows.present (h : r.Follows shown w) (hl : w.snapshot.Later w'.snapshot)
    (hv : w.version < w'.version) : r.Follows (shown ++ [w'.snapshot]) w' := by
  have hold : r.view.seen < w'.version ∧ ∃ s, r.told.getLast? = some s ∧ s.Later w'.snapshot := by
    by_cases he : r.view.seen = w.version
    · exact ⟨he ▸ hv, _, h.current he, hl⟩
    · obtain ⟨hlt, s, ht, hs⟩ := h.behind he
      exact ⟨Nat.lt_trans hlt hv, s, ht, hs.trans hl⟩
  refine ⟨h.sublist.trans (List.sublist_append_left _ _), fun he => ?_, fun _ => hold⟩
  exact absurd he (Nat.ne_of_lt hold.1)

end Reader

/-- The call answers for what is on show, and is woken before it would answer. -/
structure Wait.Answers (x : Wait) (w : Watch) : Prop where
  found : ∀ t, (x.run w).1 = .ready (some t) ↔ t = w.snapshot ∧ x.wanted w.snapshot = true
  none : (x.run w).1 = .ready none ↔ x.wanted w.snapshot = false ∧ w.closed = true
  pending : (x.run w).1 = .pending ↔ x.wanted w.snapshot = false ∧ w.closed = false
  woken : ∀ v, x.view? = some v → (x.run w).1 ≠ .pending → v.seen < w.version ∨ w.closed = true

theorem Wait.Looked.answers {x : Wait} (h : x.Looked w) : x.Answers w := by
  have ha := h.run_eq.1
  constructor
  case found =>
    intro t
    rw [ha, answer]
    cases x.wanted w.snapshot <;> cases w.closed <;> simp [eq_comm]
  case none =>
    rw [ha, answer]
    cases x.wanted w.snapshot <;> cases w.closed <;> simp
  case pending =>
    rw [ha]
    exact answer_eq_pending_iff
  case woken =>
    intro v hv hp
    obtain ⟨hle, hlooked⟩ := h v hv
    rw [ha, Ne, answer_eq_pending_iff] at hp
    by_cases hs : v.seen = w.version
    · right
      cases hc : w.closed with
      | true => rfl
      | false => exact absurd ⟨hlooked hs, hc⟩ hp
    · exact .inl (Nat.lt_of_le_of_ne hle hs)

/-- The snapshots that were learnt by a view came one later than the other. The next call gives the
one on show, unless that was learnt last; then there is none if the machine is gone. A snapshot that
was not learnt is earlier than the one on show, or is what the next call gives. -/
structure Reader.Answers (r : Reader) (shown : List Snapshot) (w : Watch) : Prop where
  sublist : r.told.Sublist shown
  later : r.told.Pairwise Snapshot.Later
  next : ∀ t, (r.view.changed w).1 = .ready (some t) ↔
    t = w.snapshot ∧ r.told.getLast? ≠ some w.snapshot
  none : (r.view.changed w).1 = .ready none ↔
    r.told.getLast? = some w.snapshot ∧ w.closed = true
  pending : (r.view.changed w).1 = .pending ↔
    r.told.getLast? = some w.snapshot ∧ w.closed = false
  skipped : ∀ s ∈ shown, s ∉ r.told →
    s.Later w.snapshot ∨ (r.view.changed w).1 = .ready (some s)

private theorem Reader.Follows.changed_eq {r : Reader} (h : r.Follows shown w) :
    (r.view.changed w).1 =
      if r.told.getLast? = some w.snapshot then
        if w.closed then .ready none else .pending
      else .ready (some w.snapshot) := by
  by_cases he : r.view.seen = w.version
  · rw [View.changed_of_eq he, if_pos (h.current he)]
  · rw [View.changed_of_ne he, if_neg (mt h.seen_iff.mpr he)]

theorem Reader.Follows.answers {r : Reader} (h : r.Follows shown w)
    (hs : shown.getLast? = some w.snapshot) (hl : shown.Pairwise Snapshot.Later) :
    r.Answers shown w := by
  have hc := h.changed_eq
  constructor
  case sublist => exact h.sublist
  case later => exact hl.sublist h.sublist
  case next =>
    intro t
    rw [hc]
    by_cases ht : r.told.getLast? = some w.snapshot
    · rw [if_pos ht]
      cases w.closed <;> simp [ht]
    · rw [if_neg ht]
      simp [ht, eq_comm]
  case none =>
    rw [hc]
    split <;> cases w.closed <;> simp_all
  case pending =>
    rw [hc]
    split <;> cases w.closed <;> simp_all
  case skipped =>
    intro s hmem hnot
    obtain ⟨before, rfl⟩ := List.getLast?_eq_some_iff.mp hs
    rcases List.mem_append.mp hmem with hb | hb
    · exact .inl ((List.pairwise_append.mp hl).2.2 s hb _ List.mem_cons_self)
    · obtain rfl := List.mem_singleton.mp hb
      right
      rw [hc, if_neg fun ht => hnot (List.mem_of_getLast? ht)]

end RestartCoordinator.Lifecycle
