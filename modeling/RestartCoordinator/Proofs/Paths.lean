/-!
# Paths

A relation that says how events lead from one state to the next says it of lists of events too.
-/
namespace RestartCoordinator

/-- The events lead from the first state to the last. -/
inductive Path (step : σ → ε → σ → Prop) : σ → List ε → σ → Prop where
  | nil {s} : Path step s [] s
  | cons {s s' s'' e rest} (h : step s e s') (ht : Path step s' rest s'') : Path step s (e :: rest) s''

variable {step : σ → ε → σ → Prop} {s s' : σ} {e : ε} {before after : List ε}

theorem path_append :
    Path step s (before ++ after) s' ↔ ∃ mid, Path step s before mid ∧ Path step mid after s' := by
  induction before generalizing s with
  | nil =>
    constructor
    · exact fun h => ⟨s, .nil, h⟩
    · rintro ⟨mid, hb, ha⟩
      cases hb
      exact ha
  | cons e rest ih =>
    constructor
    · intro h
      cases h with
      | cons h ht =>
        obtain ⟨mid, hb, ha⟩ := ih.mp ht
        exact ⟨mid, .cons h hb, ha⟩
    · rintro ⟨mid, hb, ha⟩
      cases hb with
      | cons h ht => exact .cons h (ih.mpr ⟨mid, ht, ha⟩)

theorem Path.append {mid : σ} (hb : Path step s before mid) (ha : Path step mid after s') :
    Path step s (before ++ after) s' := path_append.mpr ⟨mid, hb, ha⟩

theorem path_singleton : Path step s [e] s' ↔ step s e s' := by
  constructor
  · intro h
    cases h with
    | cons h ht =>
      cases ht
      exact h
  · exact fun h => .cons h .nil

theorem Path.middle (h : Path step s (before ++ e :: after) s') :
    ∃ m m', Path step s before m ∧ step m e m' ∧ Path step m' after s' := by
  obtain ⟨m, hb, ha⟩ := path_append.mp h
  cases ha with
  | cons he ha => exact ⟨m, _, hb, he, ha⟩

end RestartCoordinator
