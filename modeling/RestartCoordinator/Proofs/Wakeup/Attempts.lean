import RestartCoordinator.Wakeup
/-!
# Attempts of a waiting call

Whatever permits and notifications there are, a run of a call either leaves alone what it looks at,
and waits, or answers with what a look finds. A call that has been notified, or has not waited yet,
always looks; it never needs a third round.
-/
namespace RestartCoordinator
namespace Wakeup

variable {σ α : Type}

theorem waiter_notifyOne (w : Wakeup) : w.notifyOne.waiter ≠ .waiting := by
  unfold notifyOne
  split
  · simp
  · rename_i hw
    exact hw

theorem waiter_notifyAll (w : Wakeup) : w.notifyAll.waiter ≠ .waiting := by
  unfold notifyAll
  split
  · simp
  · rename_i hw
    exact hw

@[simp] theorem waiter_drop (w : Wakeup) : w.drop.waiter = .absent := by
  unfold drop
  split <;> rfl

section
variable (look : σ → Option (α × σ)) (w : Wakeup) (s : σ)

private theorem search_of_some {a : α} {s' : σ} (hl : look s = some (a, s')) :
    w.search look s = (.ready a, w, s') := by
  unfold search
  simp only [hl]

private theorem search_of_none (hl : look s = none) : w.search look s =
    (.pending, ⟨false, .waiting⟩, s) := by
  by_cases hp : w.permit
  · -- the second look, with the permit spent, finds no more than the first
    unfold search
    simp only [hl, hp, ↓reduceIte]
    unfold search
    simp only [hl, Bool.false_eq_true, ↓reduceIte]
  · unfold search
    simp only [hl, hp, Bool.false_eq_true, ↓reduceIte]

private theorem attempt_of_waiting (hw : w.waiter = .waiting) : w.attempt look s =
    (.pending, w, s) := by
  unfold attempt
  rw [hw]

private theorem attempt_of_ne (hw : w.waiter ≠ .waiting) :
    w.attempt look s = search look { w with waiter := .absent } s := by
  unfold attempt
  split
  · contradiction
  · rfl

/-- What a look finds, as the answer of a call, and what it leaves. -/
def found : Poll α × σ :=
  match look s with
  | none => (.pending, s)
  | some (a, s') => (.ready a, s')

/-- A run of a call answers with what a look finds, provided that a call which is still waiting has
nothing to find. -/
theorem attempt_of_alert (ha : w.waiter = .waiting → (found look s).1 = .pending) :
    ∃ w', w.attempt look s = ((found look s).1, w', (found look s).2) ∧
      (w'.waiter = .waiting → found look s = (.pending, s)) := by
  cases hl : look s with
  | none =>
    have hf : found look s = (.pending, s) := by simp only [found, hl]
    rw [hf]
    by_cases hw : w.waiter = .waiting
    · exact ⟨w, attempt_of_waiting look w s hw, fun _ => rfl⟩
    · rw [attempt_of_ne look w s hw]
      exact ⟨_, search_of_none look _ s hl, fun _ => rfl⟩
  | some answer =>
    have hf : found look s = (.ready answer.1, answer.2) := by simp only [found, hl]
    rw [hf] at ha ⊢
    have hw : w.waiter ≠ .waiting := by
      intro hw
      cases ha hw
    rw [attempt_of_ne look w s hw]
    exact ⟨_, search_of_some look _ s hl, nofun⟩

theorem attempt_cases :
    (∃ w', w.attempt look s = (.pending, w', s)) ∨
      ∃ a w' s', look s = some (a, s') ∧ w.attempt look s = (.ready a, w', s') := by
  by_cases hw : w.waiter = .waiting
  · exact .inl ⟨w, attempt_of_waiting look w s hw⟩
  · rw [attempt_of_ne look w s hw]
    cases hl : look s with
    | none => exact .inl ⟨_, search_of_none look _ s hl⟩
    | some found => exact .inr ⟨_, _, _, rfl, search_of_some look _ s hl⟩

end

/-- The rounds of a running call that has time for `n` of them. -/
def searchWithin (look : σ → Option (α × σ)) : Nat → Wakeup → σ → Option (Poll α × Wakeup × σ)
  | 0, _, _ => none
  | n + 1, w, s =>
    match look s with
    | some (a, s) => some (.ready a, w, s)
    | none =>
      if w.permit then searchWithin look n { w with permit := false } s
      else some (.pending, { w with waiter := .waiting }, s)

/-- One run of a call that has time for `n` rounds. -/
def attemptWithin (look : σ → Option (α × σ)) (n : Nat) (w : Wakeup) (s : σ) :
    Option (Poll α × Wakeup × σ) :=
  match w.waiter with
  | .waiting => some (.pending, w, s)
  | _ => searchWithin look n { w with waiter := .absent } s

private theorem searchWithin_two (look : σ → Option (α × σ)) (w : Wakeup) (s : σ) :
    searchWithin look 2 w s = some (w.search look s) := by
  cases hl : look s with
  | some found =>
    rw [search_of_some look w s hl]
    simp only [searchWithin, hl]
  | none =>
    rw [search_of_none look w s hl]
    obtain ⟨permit, waiter⟩ := w
    cases permit <;> simp [searchWithin, hl]

theorem attemptWithin_two (look : σ → Option (α × σ)) (w : Wakeup) (s : σ) :
    attemptWithin look 2 w s = some (w.attempt look s) := by
  by_cases hw : w.waiter = .waiting
  · rw [attempt_of_waiting look w s hw]
    simp only [attemptWithin, hw]
  · rw [attempt_of_ne look w s hw, ← searchWithin_two]
    unfold attemptWithin
    split
    · contradiction
    · rfl

end Wakeup
end RestartCoordinator
