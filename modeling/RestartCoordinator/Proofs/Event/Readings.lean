import Mathlib.Algebra.Order.Ring.Nat
import RestartCoordinator.Event.Bus
/-!
# Readings from the event bus

The bus keeps the last of the events that were published, as many as its capacity. A subscriber that
looks for its next event gets the first one of its choice among those that it has not passed over
and that are kept; those before it are passed over, whether they were read or lost.
-/
namespace RestartCoordinator

/-- The least power of two that is not below a number. -/
theorem roundUpPow2_spec (n : Nat) :
    n ≤ roundUpPow2 n ∧ (∃ k, roundUpPow2 n = 2 ^ k) ∧ ∀ k, n ≤ 2 ^ k → roundUpPow2 n ≤ 2 ^ k := by
  unfold roundUpPow2
  split
  · rename_i hn
    exact ⟨hn, ⟨0, rfl⟩, fun k _ => Nat.one_le_two_pow⟩
  · rename_i hn
    rw [Nat.one_shiftLeft]
    have hlow : 2 ^ (n - 1).log2 ≤ n - 1 := Nat.log2_self_le (by omega)
    have hhigh : n - 1 < 2 ^ ((n - 1).log2 + 1) := Nat.lt_log2_self
    refine ⟨by omega, ⟨_, rfl⟩, fun k hk => ?_⟩
    have hlt : (n - 1).log2 < k := (Nat.pow_lt_pow_iff_right Nat.one_lt_two).mp (by omega)
    exact Nat.pow_le_pow_right (by decide) hlt

namespace Bus

variable {b : Bus} {history : List Event} {name other : String} {s : Subscriber}

/-- The bus keeps the last of the events that were published while someone listened. -/
structure Keeps (b : Bus) (history : List Event) : Prop where
  published_eq : b.published = history.length
  kept_eq : b.kept = history.drop (history.length - b.capacity)

theorem keeps_new (capacity : Nat) : (new capacity).Keeps [] := ⟨rfl, List.drop_nil.symm⟩

private theorem Keeps.length_kept (h : b.Keeps history) :
    b.kept.length = min history.length b.capacity := by
  rw [h.kept_eq, List.length_drop]
  omega

private theorem Keeps.oldest_eq (h : b.Keeps history) : b.oldest = history.length - b.capacity := by
  rw [oldest, h.published_eq, h.length_kept]
  omega

private theorem Keeps.getElem?_kept (h : b.Keeps history) {position : Nat}
    (hp : b.oldest ≤ position) :
    b.kept[position - b.oldest]? = history[position]? := by
  rw [h.oldest_eq] at hp ⊢
  rw [h.kept_eq, List.getElem?_drop]
  congr 1
  omega

private theorem Keeps.read_of_some (h : b.Keeps history) {position : Nat} {e : Event}
    (hp : b.oldest ≤ position) (he : history[position]? = some e) :
    b.read position = (.event e, position + 1) := by
  rw [read, if_neg (Nat.not_lt.mpr hp), h.getElem?_kept hp, he]

private theorem Keeps.read_of_none (h : b.Keeps history) {position : Nat}
    (hp : b.oldest ≤ position) (he : history[position]? = none) :
    b.read position = (if b.closed then .ended else .nothing, position) := by
  rw [read, if_neg (Nat.not_lt.mpr hp), h.getElem?_kept hp, he]

theorem publish_of_nil (h : b.subscribers = []) (e : Event) : (b.publish e).2 = b := by
  simp [publish, h]

theorem publish_of_ne_nil (h : b.subscribers ≠ []) (e : Event) :
    (b.publish e).2 =
      { b with
        published := b.published + 1
        kept := (b.kept ++ [e]).drop (b.kept.length + 1 - b.capacity) } := by
  have hempty : b.subscribers.isEmpty = false := by simpa using h
  simp only [publish, hempty, Bool.false_eq_true, if_false, List.length_append,
    List.length_singleton]

theorem Keeps.publish (h : b.Keeps history) (hs : b.subscribers ≠ []) (e : Event) :
    (b.publish e).2.Keeps (history ++ [e]) := by
  rw [publish_of_ne_nil hs]
  constructor
  · simp [h.published_eq]
  · simp only [h.length_kept, List.length_append, List.length_singleton]
    rw [h.kept_eq, ← List.drop_append_of_le_length (by omega), List.drop_drop]
    congr 1
    omega

/-- The first event from a number on that a filter accepts. -/
structure First (events : List Event) (filter : EventFilter) (start i : Nat) (e : Event) :
    Prop where
  le : start ≤ i
  event : events[i]? = some e
  accepted : filter.accepts e = true
  before : ∀ j e', start ≤ j → j < i → events[j]? = some e' → filter.accepts e' = false

/-- No event from a number on is accepted by a filter. -/
def NoneFrom (events : List Event) (filter : EventFilter) (start : Nat) : Prop :=
  ∀ j e, start ≤ j → events[j]? = some e → filter.accepts e = false

variable {filter : EventFilter} {start : Nat}

private theorem First.of_succ {i : Nat} {e e' : Event} (h : First history filter (start + 1) i e)
    (he : history[start]? = some e') (ha : filter.accepts e' = false) :
    First history filter start i e := by
  refine ⟨Nat.le_of_succ_le h.le, h.event, h.accepted, fun j x hj hlt hx => ?_⟩
  rcases Nat.eq_or_lt_of_le hj with rfl | hj
  · obtain rfl := Option.some.inj (he.symm.trans hx)
    exact ha
  · exact h.before j x hj hlt hx

private theorem NoneFrom.of_succ {e' : Event} (h : NoneFrom history filter (start + 1))
    (he : history[start]? = some e') (ha : filter.accepts e' = false) :
    NoneFrom history filter start := by
  intro j x hj hx
  rcases Nat.eq_or_lt_of_le hj with rfl | hj
  · obtain rfl := Option.some.inj (he.symm.trans hx)
    exact ha
  · exact h j x hj hx

theorem First.unique {i j : Nat} {e e' : Event} (h : First history filter start i e)
    (h' : First history filter start j e') : e = e' := by
  rcases Nat.lt_trichotomy i j with hlt | rfl | hlt
  · have hno := h'.before i e h.le hlt h.event
    rw [h.accepted] at hno
    cases hno
  · exact Option.some.inj (h.event.symm.trans h'.event)
  · have hno := h.before j e' h'.le hlt h'.event
    rw [h'.accepted] at hno
    cases hno

theorem First.not_noneFrom {i : Nat} {e : Event} (h : First history filter start i e) :
    ¬NoneFrom history filter start := by
  intro hnone
  have hno := hnone i e h.le h.event
  rw [h.accepted] at hno
  cases hno

theorem First.of_append {earlier : List Event} {i : Nat} {e : Event}
    (h : First (earlier ++ history) filter (earlier.length + start) i e) :
    ∃ j, i = earlier.length + j ∧ First history filter start j e := by
  obtain ⟨j, rfl⟩ := Nat.exists_eq_add_of_le (Nat.le_trans (Nat.le_add_right _ _) h.le)
  have hget (k : Nat) : (earlier ++ history)[earlier.length + k]? = history[k]? := by
    rw [List.getElem?_append_right (Nat.le_add_right _ _), Nat.add_sub_cancel_left]
  refine ⟨j, rfl, Nat.le_of_add_le_add_left h.le, hget j ▸ h.event, h.accepted, ?_⟩
  intro k e' hk hlt he
  exact h.before _ e' (Nat.add_le_add_left hk _) (Nat.add_lt_add_left hlt _) ((hget k).trans he)

theorem NoneFrom.of_append {earlier : List Event}
    (h : NoneFrom (earlier ++ history) filter (earlier.length + start)) :
    NoneFrom history filter start := by
  intro j e hj he
  refine h (earlier.length + j) e (Nat.add_le_add_left hj _) ?_
  rw [List.getElem?_append_right (Nat.le_add_right _ _), Nat.add_sub_cancel_left]
  exact he

/-- What reading on from a position gives, and where it ends: with the first event of the filter's
choice, or else at the end of what was published. -/
def Yields (history : List Event) (filter : EventFilter) (closed : Bool) (start : Nat)
    (answer : Reading × Nat) : Prop :=
  (∃ i e, First history filter start i e ∧ answer = (.event e, i + 1)) ∨
    NoneFrom history filter start ∧
      answer = (if closed then .ended else .nothing, history.length)

private theorem Keeps.seek (h : b.Keeps history) (filter : EventFilter) {fuel position : Nat}
    (ho : b.oldest ≤ position) (hp : position ≤ history.length)
    (hf : history.length - position < fuel) :
    Yields history filter b.closed position (b.seek filter fuel position) := by
  -- on the rounds: each event that is not wanted costs one and brings the end one nearer
  induction fuel generalizing position with
  | zero => omega
  | succ fuel ih =>
    unfold Bus.seek
    cases he : history[position]? with
    | none =>
      have hend : position = history.length := Nat.le_antisymm hp (List.getElem?_eq_none_iff.mp he)
      rw [h.read_of_none ho he]
      refine .inr ⟨fun j e hj hx => ?_, ?_⟩
      · rw [List.getElem?_eq_none (hend ▸ hj)] at hx
        cases hx
      · cases b.closed <;> exact congrArg (Prod.mk _) hend
    | some e =>
      obtain ⟨hlt, -⟩ := List.getElem?_eq_some_iff.mp he
      rw [h.read_of_some ho he]
      cases ha : filter.accepts e with
      | true =>
        refine .inl ⟨position, e, ⟨Nat.le_refl _, he, ha, fun j _ hj hlt => ?_⟩, by simp [ha]⟩
        exact absurd hj (Nat.not_le.mpr hlt)
      | false =>
        have hrest := ih (Nat.le_succ_of_le ho) hlt (by omega)
        simp only [ha, Bool.false_eq_true, if_false]
        rcases hrest with ⟨i, x, hfirst, heq⟩ | ⟨hnone, heq⟩
        · exact .inl ⟨i, x, hfirst.of_succ he ha, heq⟩
        · exact .inr ⟨hnone.of_succ he ha, heq⟩

private theorem Keeps.seek_kept (h : b.Keeps history) (filter : EventFilter) {position : Nat}
    (hp : position ≤ history.length) :
    Yields history filter b.closed (max position (history.length - b.capacity))
      (b.seek filter (b.kept.length + 2) position) := by
  have ho := h.oldest_eq
  have hlen := h.length_kept
  by_cases hlost : position < b.oldest
  · have hread : b.read position = (.missed (b.oldest - position), b.oldest) := if_pos hlost
    have hstart : max position (history.length - b.capacity) = b.oldest := by omega
    rw [hstart, Bus.seek, hread]
    exact h.seek filter (Nat.le_refl _) (by omega) (by omega)
  · have hstart : max position (history.length - b.capacity) = position := by omega
    rw [hstart]
    exact h.seek filter (Nat.not_lt.mp hlost) hp (by omega)

/-- A run of the call for the next event gives the first one of the subscriber's choice that is kept
and not passed over. If there is none it waits, or says that none will come as the bus is gone. -/
theorem Keeps.receive (h : b.Keeps history) (hp : s.position ≤ history.length) :
    (∃ i e, First history s.filter (max s.position (history.length - b.capacity)) i e ∧
        b.receive s = (.ready (some e), b.moveTo s.name (i + 1))) ∨
      NoneFrom history s.filter (max s.position (history.length - b.capacity)) ∧
        b.receive s =
          (if b.closed then .ready none else .pending, b.moveTo s.name history.length) := by
  rcases h.seek_kept s.filter hp with ⟨i, e, hfirst, heq⟩ | ⟨hnone, heq⟩
  · refine .inl ⟨i, e, hfirst, ?_⟩
    simp only [Bus.receive, heq]
  · refine .inr ⟨hnone, ?_⟩
    cases hc : b.closed <;> simp only [Bus.receive, heq, hc] <;> rfl

theorem subscriber?_moveTo (b : Bus) (other : String) (position : Nat) :
    (b.moveTo other position).subscriber? name =
      (b.subscriber? name).map fun s => if s.name == other then { s with position } else s := by
  unfold subscriber? moveTo
  rw [List.find?_map]
  congr 2
  funext x
  simp only [Function.comp_apply]
  split <;> rfl

private theorem find?_filter_of_ne (h : other ≠ name) (l : List Subscriber) :
    (l.filter (·.name != other)).find? (·.name == name) = l.find? (·.name == name) := by
  rw [List.find?_filter]
  congr 1
  funext x
  by_cases hx : x.name = name
  · simp [hx, Ne.symm h]
  · simp [hx]

theorem subscriber?_unsubscribe_of_ne (h : other ≠ name) :
    (b.unsubscribe other).subscriber? name = b.subscriber? name :=
  find?_filter_of_ne h b.subscribers

theorem subscriber?_subscribe_of_ne (h : other ≠ name) (filter : EventFilter) :
    (b.subscribe other filter).subscriber? name = b.subscriber? name := by
  unfold subscriber? subscribe
  rw [List.find?_append, find?_filter_of_ne h]
  simp [h]

theorem subscriber?_subscribe (b : Bus) (name : String) (filter : EventFilter) :
    (b.subscribe name filter).subscriber? name = some ⟨name, filter, b.published⟩ := by
  have hgone : (b.subscribers.filter (·.name != name)).find? (·.name == name) = none := by
    apply List.find?_eq_none.mpr
    intro x hx
    simpa using (List.mem_filter.mp hx).2
  unfold subscriber? subscribe
  rw [List.find?_append, hgone]
  simp

end Bus
end RestartCoordinator
