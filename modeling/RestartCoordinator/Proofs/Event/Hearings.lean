import RestartCoordinator.Proofs.Event.Readings
/-!
# What a subscriber hears

A bus is published on, read by its subscribers and closed in any order. One subscriber, from when it
came, is told every event that is published, and passes over the events in their order: each run of
its call brings it to the first event of its choice that is still kept, or to the end. So it hears
the events of its choice once and in order, but for those that were pushed out by newer ones before
it came to them; and its stream ends only with the bus, after all that was kept.
-/
namespace RestartCoordinator

/-- What can happen to a bus. -/
inductive BusMove where
  | subscribe (name : String) (filter : EventFilter)
  | unsubscribe (name : String)
  | publish (e : Event)
  /-- The subscriber of this name runs its call for the next event. -/
  | receive (name : String)
  | close
deriving DecidableEq

/-- After the move another subscriber has this name, or none has it. -/
def BusMove.replaces (name : String) : BusMove → Bool
  | .subscribe other _ | .unsubscribe other => other == name
  | _ => false

namespace Bus

/-- The bus after a move. When it is gone nobody can subscribe or publish. -/
def step (b : Bus) : BusMove → Bus
  | .subscribe name filter => if b.closed then b else b.subscribe name filter
  | .unsubscribe name => b.unsubscribe name
  | .publish e => if b.closed then b else (b.publish e).2
  | .receive name => (b.subscriber? name).elim b fun s => (b.receive s).2
  | .close => b.close

def run (b : Bus) (moves : List BusMove) : Bus := moves.foldl step b

/-- The event that a move publishes, if it does. -/
def telling (b : Bus) : BusMove → List Event
  | .publish e => if b.closed then [] else [e]
  | _ => []

end Bus

/-- A bus as one of its subscribers meets it: the events that were published since it came, and
those that its calls have given. -/
structure Hearing where
  name : String
  /-- The number of the first event that it can hear. -/
  origin : Nat
  bus : Bus
  told : List Event
  heard : List Event

namespace Hearing

/-- A subscriber comes to a bus. -/
def start (b : Bus) (name : String) (filter : EventFilter) : Hearing :=
  ⟨name, b.published, b.subscribe name filter, [], []⟩

/-- How many of the events that it was told the subscriber has passed over. -/
def passed (h : Hearing) : Nat :=
  (h.bus.subscriber? h.name).elim 0 (·.position) - h.origin

/-- What a run of the subscriber's call answers. -/
def answer (h : Hearing) : Poll (Option Event) :=
  (h.bus.subscriber? h.name).elim .pending fun s => (h.bus.receive s).1

/-- The event that the subscriber gets by a move, if it gets one. -/
def hearing (h : Hearing) (m : BusMove) : List Event :=
  if m = .receive h.name then
    match h.answer with
    | .ready (some e) => [e]
    | _ => []
  else []

def step (h : Hearing) (m : BusMove) : Hearing :=
  { h with
    bus := h.bus.step m
    told := h.told ++ h.bus.telling m
    heard := h.heard ++ h.hearing m }

def run (h : Hearing) (moves : List BusMove) : Hearing := moves.foldl step h

/-- The first event that the subscriber can still get: it has not passed it over, and not as many
newer ones as the bus keeps have been published. -/
def reach (h : Hearing) : Nat := max h.passed (h.told.length - h.bus.capacity)

/-- The subscriber has not passed over the event of this number, and as many newer ones as the bus
keeps, or more, have been published. -/
def Misses (h : Hearing) (i : Nat) : Prop :=
  h.passed ≤ i ∧ i + h.bus.capacity < h.told.length

/-- The event of this number was missed when the subscriber ran its call. -/
def Lost (h : Hearing) (moves : List BusMove) (i : Nat) : Prop :=
  ∃ early late, moves = early ++ .receive h.name :: late ∧ (h.run early).Misses i

/-- What the subscriber's call for the next event answers: the first event within reach that is of
its choice, or, if there is none, that none will come exactly if the bus is gone. Without an event,
everything that was published is passed over then. -/
structure Answers (h : Hearing) (filter : EventFilter) : Prop where
  event : ∀ e, h.answer = .ready (some e) ↔ ∃ i, Bus.First h.told filter h.reach i e
  ended : h.answer = .ready none ↔ h.bus.closed = true ∧ Bus.NoneFrom h.told filter h.reach
  waits : h.answer = .pending ↔ h.bus.closed = false ∧ Bus.NoneFrom h.told filter h.reach
  through : (∀ e, h.answer ≠ .ready (some e)) →
    (h.step (.receive h.name)).passed = h.told.length

end Hearing

namespace Bus

variable {b b' : Bus} {history : List Event} {name : String} {s : Subscriber} {m : BusMove}

/-- What a move does to a bus. -/
inductive Turns (b : Bus) : BusMove → Bus → Prop where
  | idle {m : BusMove} (ht : b.telling m = []) : Turns b m b
  | came (name : String) (filter : EventFilter) :
      Turns b (.subscribe name filter) (b.subscribe name filter)
  | went (name : String) : Turns b (.unsubscribe name) (b.unsubscribe name)
  | unheard {e : Event} (hs : b.subscribers = []) : Turns b (.publish e) b
  | published {e : Event} (hopen : b.closed = false) (hs : b.subscribers ≠ []) :
      Turns b (.publish e) (b.publish e).2
  | read {name : String} {s : Subscriber} (hs : b.subscriber? name = some s) (position : Nat) :
      Turns b (.receive name) (b.moveTo name position)
  | closed : Turns b .close b.close

private theorem name_of_subscriber? (hs : b.subscriber? name = some s) : s.name = name := by
  have hname := List.find?_some (p := fun x : Subscriber => x.name == name) hs
  exact beq_iff_eq.mp hname

private theorem ne_nil_of_subscriber? (hs : b.subscriber? name = some s) : b.subscribers ≠ [] :=
  List.ne_nil_of_mem (List.mem_of_find?_eq_some hs)

private theorem receive_moves (b : Bus) (s : Subscriber) :
    ∃ position, (b.receive s).2 = b.moveTo s.name position := by
  unfold receive
  split <;> exact ⟨_, rfl⟩

theorem step_turns (b : Bus) (m : BusMove) : b.Turns m (b.step m) := by
  cases m with
  | subscribe name filter =>
    dsimp only [step]
    split
    · exact .idle rfl
    · exact .came name filter
  | unsubscribe name => exact .went name
  | publish e =>
    dsimp only [step]
    split
    · rename_i hc
      exact .idle (if_pos hc)
    · rename_i hc
      by_cases hs : b.subscribers = []
      · rw [publish_of_nil hs]
        exact .unheard hs
      · exact .published (Bool.eq_false_iff.mpr hc) hs
  | receive name =>
    dsimp only [step]
    cases hs : b.subscriber? name with
    | none => exact .idle rfl
    | some s =>
      obtain ⟨position, hp⟩ := b.receive_moves s
      rw [Option.elim_some, hp, name_of_subscriber? hs]
      exact .read hs position
  | close => exact .closed

private theorem Turns.capacity_eq (ht : b.Turns m b') : b'.capacity = b.capacity := by
  cases ht with
  | published _ hs => rw [publish_of_ne_nil hs]
  | _ => rfl

/-- While someone listens, a bus keeps the last of all events that are published. -/
theorem Turns.keeps (ht : b.Turns m b') (h : b.Keeps history) (hs : b.subscribers ≠ []) :
    b'.Keeps (history ++ b.telling m) := by
  cases ht with
  | idle ht =>
    rw [ht, List.append_nil]
    exact h
  | unheard hn => exact absurd hn hs
  | @published e hopen _ =>
    have htold : b.telling (.publish e) = [e] := if_neg (by simp [hopen])
    rw [htold]
    exact h.publish hs e
  | came | went | read | closed =>
    simp only [telling, List.append_nil]
    exact ⟨h.published_eq, h.kept_eq⟩

private theorem Turns.exists_keeps (ht : b.Turns m b') (h : b.Keeps history) :
    ∃ history', b'.Keeps history' := by
  cases ht with
  | idle | unheard => exact ⟨history, h⟩
  | @published e _ hs => exact ⟨_, h.publish hs e⟩
  | came | went | read | closed => exact ⟨history, h.published_eq, h.kept_eq⟩

theorem Keeps.exists_run (h : b.Keeps history) (moves : List BusMove) :
    (∃ history', (b.run moves).Keeps history') ∧ (b.run moves).capacity = b.capacity := by
  induction moves generalizing b history with
  | nil => exact ⟨⟨history, h⟩, rfl⟩
  | cons m rest ih =>
    have ht := b.step_turns m
    obtain ⟨history', h'⟩ := ht.exists_keeps h
    obtain ⟨hrest, hcapacity⟩ := ih h'
    exact ⟨hrest, hcapacity.trans ht.capacity_eq⟩

private theorem Turns.subscriber?_eq (ht : b.Turns m b') (hr : m.replaces name = false)
    (hm : m ≠ .receive name) : b'.subscriber? name = b.subscriber? name := by
  cases ht with
  | idle | unheard | closed => rfl
  | came other filter => exact subscriber?_subscribe_of_ne (beq_eq_false_iff_ne.mp hr) filter
  | went other => exact subscriber?_unsubscribe_of_ne (beq_eq_false_iff_ne.mp hr)
  | published _ hs =>
    rw [publish_of_ne_nil hs]
    rfl
  | @read other _ _ position =>
    have hne : name ≠ other := fun he => hm (he ▸ rfl)
    rw [subscriber?_moveTo]
    cases hs : b.subscriber? name with
    | none => rfl
    | some s =>
      have hname : (s.name == other) = false := by
        rw [name_of_subscriber? hs]
        exact beq_eq_false_iff_ne.mpr hne
      simp only [Option.map_some, hname, Bool.false_eq_true, if_false]

end Bus

namespace Hearing

variable {h : Hearing} {filter : EventFilter} {lost : Nat → Prop} {numbers : List Nat} {m : BusMove}

/-- The subscriber has heard the events of these numbers: those of its choice that it has passed
over and that were not lost. -/
structure Hears (h : Hearing) (filter : EventFilter) (lost : Nat → Prop) (numbers : List Nat) :
    Prop where
  keeps : ∃ earlier, earlier.length = h.origin ∧ h.bus.Keeps (earlier ++ h.told)
  subscriber : h.bus.subscriber? h.name = some ⟨h.name, filter, h.origin + h.passed⟩
  passed_le : h.passed ≤ h.told.length
  sorted : numbers.Pairwise (· < ·)
  heard : numbers.map (h.told[·]?) = h.heard.map some
  mem_iff : ∀ i e, h.told[i]? = some e →
    (i ∈ numbers ↔ filter.accepts e = true ∧ i < h.passed ∧ ¬lost i)
  lt_of_lost : ∀ i, lost i → i < h.passed

private theorem exists_of_mem {told heard : List Event}
    (hm : numbers.map (told[·]?) = heard.map some)
    {i : Nat} (hi : i ∈ numbers) : ∃ e ∈ heard, told[i]? = some e := by
  have hmem : told[i]? ∈ heard.map some := hm ▸ List.mem_map_of_mem hi
  obtain ⟨e, he, heq⟩ := List.mem_map.mp hmem
  exact ⟨e, he, heq.symm⟩

private theorem passed_le_reach (h : Hearing) : h.passed ≤ h.reach := Nat.le_max_left _ _

private theorem misses_iff {i : Nat} : h.Misses i ↔ h.passed ≤ i ∧ i < h.reach := by
  unfold Misses reach
  omega

private theorem passed_of_subscriber? {n : Nat}
    (hs : h.bus.subscriber? h.name = some ⟨h.name, filter, h.origin + n⟩) : h.passed = n := by
  simp [passed, hs]

private theorem Hears.lt_passed (hh : h.Hears filter lost numbers) {i : Nat} (hi : i ∈ numbers) :
    i < h.passed := by
  obtain ⟨e, -, he⟩ := exists_of_mem hh.heard hi
  exact ((hh.mem_iff i e he).mp hi).2.1

private theorem hears_start {b : Bus} {history : List Event} (hk : b.Keeps history) (name : String)
    (filter : EventFilter) : (start b name filter).Hears filter (fun _ => False) [] := by
  have hs : (start b name filter).bus.subscriber? name = some ⟨name, filter, b.published + 0⟩ :=
    b.subscriber?_subscribe name filter
  have hp : (start b name filter).passed = 0 := passed_of_subscriber? hs
  refine ⟨⟨history, hk.published_eq.symm, ?_⟩, ?_, ?_, .nil, rfl, ?_, nofun⟩
  · change (b.subscribe name filter).Keeps (history ++ [])
    rw [List.append_nil]
    exact ⟨hk.published_eq, hk.kept_eq⟩
  · rw [hp]
    exact hs
  · rw [hp]
    exact Nat.zero_le _
  · intro i e he
    cases he

theorem Hears.step_of_ne (hh : h.Hears filter lost numbers) (hr : m.replaces h.name = false)
    (hm : m ≠ .receive h.name) : (h.step m).Hears filter lost numbers := by
  have ht := h.bus.step_turns m
  have hsub : (h.bus.step m).subscriber? h.name = _ := (ht.subscriber?_eq hr hm).trans hh.subscriber
  have hp : (h.step m).passed = h.passed := passed_of_subscriber? hsub
  have hheard : (h.step m).heard = h.heard := by
    change h.heard ++ h.hearing m = h.heard
    rw [hearing, if_neg hm, List.append_nil]
  have hold {i : Nat} (hi : i < h.told.length) : (h.step m).told[i]? = h.told[i]? :=
    List.getElem?_append_left hi
  obtain ⟨earlier, hlen, hk⟩ := hh.keeps
  constructor
  case keeps =>
    refine ⟨earlier, hlen, ?_⟩
    change (h.bus.step m).Keeps (earlier ++ (h.told ++ h.bus.telling m))
    rw [← List.append_assoc]
    exact ht.keeps hk (Bus.ne_nil_of_subscriber? hh.subscriber)
  case subscriber =>
    rw [hp]
    exact hsub
  case passed_le =>
    rw [hp]
    exact Nat.le_trans hh.passed_le (by simp [step])
  case sorted => exact hh.sorted
  case heard =>
    rw [hheard, ← hh.heard]
    apply List.map_congr_left
    intro i hi
    exact hold (Nat.lt_of_lt_of_le (hh.lt_passed hi) hh.passed_le)
  case mem_iff =>
    intro i e he
    rw [hp]
    by_cases hi : i < h.told.length
    · rw [hold hi] at he
      exact hh.mem_iff i e he
    · have hle := hh.passed_le
      constructor
      · intro hmem
        exact absurd (hh.lt_passed hmem) (by omega)
      · rintro ⟨-, hlt, -⟩
        omega
  case lt_of_lost =>
    rw [hp]
    exact hh.lt_of_lost

/-- The subscriber's own call brings it on in what it was told. -/
theorem Hears.call (hh : h.Hears filter lost numbers) :
    (∃ i e, Bus.First h.told filter h.reach i e ∧ h.answer = .ready (some e) ∧
        h.bus.step (.receive h.name) = h.bus.moveTo h.name (h.origin + (i + 1))) ∨
      Bus.NoneFrom h.told filter h.reach ∧
        h.answer = (if h.bus.closed then .ready none else .pending) ∧
        h.bus.step (.receive h.name) = h.bus.moveTo h.name (h.origin + h.told.length) := by
  obtain ⟨earlier, hlen, hk⟩ := hh.keeps
  have hle := hh.passed_le
  have hall : (earlier ++ h.told).length = h.origin + h.told.length := by
    rw [List.length_append, hlen]
  have hstart : max (h.origin + h.passed) ((earlier ++ h.told).length - h.bus.capacity) =
      earlier.length + h.reach := by
    rw [hall, reach]
    omega
  have hans : h.answer = (h.bus.receive ⟨h.name, filter, h.origin + h.passed⟩).1 := by
    rw [answer, hh.subscriber, Option.elim_some]
  have hbus : h.bus.step (.receive h.name) =
      (h.bus.receive ⟨h.name, filter, h.origin + h.passed⟩).2 := by
    rw [Bus.step, hh.subscriber, Option.elim_some]
  have hrec := hk.receive (s := ⟨h.name, filter, h.origin + h.passed⟩)
    (hall ▸ Nat.add_le_add_left hle _)
  rw [hans, hbus]
  rcases hrec with ⟨i, e, hfirst, heq⟩ | ⟨hnone, heq⟩
  · obtain ⟨j, rfl, hj⟩ := Bus.First.of_append (hstart ▸ hfirst)
    refine .inl ⟨j, e, hj, by rw [heq], ?_⟩
    rw [heq, hlen, Nat.add_assoc]
  · refine .inr ⟨Bus.NoneFrom.of_append (hstart ▸ hnone), by rw [heq], ?_⟩
    rw [heq, hall]

private theorem Hears.subscriber_moved (hh : h.Hears filter lost numbers) {n : Nat}
    (hbus : h.bus.step (.receive h.name) = h.bus.moveTo h.name (h.origin + n)) :
    (h.step (.receive h.name)).bus.subscriber? h.name =
      some ⟨h.name, filter, h.origin + n⟩ := by
  change (h.bus.step (.receive h.name)).subscriber? h.name = _
  rw [hbus, Bus.subscriber?_moveTo, hh.subscriber]
  simp

private theorem Hears.moved (hh : h.Hears filter lost numbers) {n : Nat} {fresh : List Nat}
    (hn : h.reach ≤ n) (hle : n ≤ h.told.length)
    (hbus : h.bus.step (.receive h.name) = h.bus.moveTo h.name (h.origin + n))
    (hsorted : fresh.Pairwise (· < ·))
    (hheard : fresh.map (h.told[·]?) = (h.hearing (.receive h.name)).map some)
    (hfresh : ∀ i e, h.told[i]? = some e →
      (i ∈ fresh ↔ filter.accepts e = true ∧ h.reach ≤ i ∧ i < n)) :
    (h.step (.receive h.name)).Hears filter (fun i => lost i ∨ h.Misses i) (numbers ++ fresh) := by
  have hsub := hh.subscriber_moved hbus
  have hp : (h.step (.receive h.name)).passed = n := passed_of_subscriber? hsub
  have htold : (h.step (.receive h.name)).told = h.told := List.append_nil _
  have hreach := h.passed_le_reach
  obtain ⟨earlier, hlen, hk⟩ := hh.keeps
  constructor
  case keeps =>
    refine ⟨earlier, hlen, ?_⟩
    rw [htold]
    change (h.bus.step (.receive h.name)).Keeps _
    rw [hbus]
    exact ⟨hk.published_eq, hk.kept_eq⟩
  case subscriber =>
    rw [hp]
    exact hsub
  case passed_le =>
    rw [hp, htold]
    exact hle
  case sorted =>
    refine List.pairwise_append.mpr ⟨hh.sorted, hsorted, fun i hi j hj => ?_⟩
    obtain ⟨e, -, he⟩ := exists_of_mem hheard hj
    have hle' : h.reach ≤ j := ((hfresh j e he).mp hj).2.1
    exact Nat.lt_of_lt_of_le (hh.lt_passed hi) (Nat.le_trans hreach hle')
  case heard =>
    rw [htold, List.map_append, hh.heard, hheard, ← List.map_append]
    rfl
  case mem_iff =>
    intro i e he
    rw [htold] at he
    rw [hp, List.mem_append, hh.mem_iff i e he, hfresh i e he]
    by_cases hi : i < h.passed
    · have hmiss : ¬h.Misses i := fun hm => absurd hi (Nat.not_lt.mpr hm.1)
      have hnot : ¬h.reach ≤ i := Nat.not_le.mpr (Nat.lt_of_lt_of_le hi hreach)
      have hlt : i < n := by omega
      simp [hi, hmiss, hnot, hlt]
    · have hl : ¬lost i := fun hl => hi (hh.lt_of_lost i hl)
      have hmiss : ¬h.Misses i ↔ h.reach ≤ i := by
        rw [misses_iff]
        omega
      simp only [hi, hl, hmiss, false_and, false_or, and_comm]
  case lt_of_lost =>
    rw [hp]
    rintro i (hl | hmiss)
    · exact Nat.lt_of_lt_of_le (hh.lt_of_lost i hl) (Nat.le_trans hreach hn)
    · exact Nat.lt_of_lt_of_le (misses_iff.mp hmiss).2 hn

private theorem Hears.receive (hh : h.Hears filter lost numbers) :
    ∃ fresh, (h.step (.receive h.name)).Hears filter (fun i => lost i ∨ h.Misses i)
      (numbers ++ fresh) := by
  have hself : h.hearing (.receive h.name) = match h.answer with
      | .ready (some e) => [e]
      | _ => [] := if_pos rfl
  rcases hh.call with ⟨i, e, hfirst, hans, hbus⟩ | ⟨hnone, hans, hbus⟩
  · obtain ⟨hlt, -⟩ := List.getElem?_eq_some_iff.mp hfirst.event
    have hheard : h.hearing (.receive h.name) = [e] := by rw [hself, hans]
    refine ⟨[i], hh.moved (Nat.le_succ_of_le hfirst.le) hlt hbus (List.pairwise_singleton _ _)
      (by simp [hheard, hfirst.event]) fun j e' he => ?_⟩
    rw [List.mem_singleton]
    constructor
    · rintro rfl
      obtain rfl := Option.some.inj (hfirst.event.symm.trans he)
      exact ⟨hfirst.accepted, hfirst.le, Nat.lt_succ_self _⟩
    · rintro ⟨ha, hr, hj⟩
      rcases Nat.lt_succ_iff_lt_or_eq.mp hj with hj | rfl
      · rw [hfirst.before j e' hr hj he] at ha
        cases ha
      · rfl
  · have hheard : h.hearing (.receive h.name) = [] := by
      rw [hself, hans]
      cases h.bus.closed <;> rfl
    have hreach : h.reach ≤ h.told.length := Nat.max_le.mpr ⟨hh.passed_le, Nat.sub_le _ _⟩
    refine ⟨[], hh.moved hreach (Nat.le_refl _) hbus .nil (by simp [hheard]) fun j e' he => ?_⟩
    have hno (ha : filter.accepts e' = true) (hr : h.reach ≤ j) : False := by
      rw [hnone j e' hr he] at ha
      cases ha
    simp only [List.not_mem_nil, false_iff]
    exact fun hj => hno hj.1 hj.2.1

private theorem Hears.of_iff {lost' : Nat → Prop} (hh : h.Hears filter lost numbers)
    (hl : ∀ i, lost i ↔ lost' i) : h.Hears filter lost' numbers := by
  obtain rfl : lost = lost' := funext fun i => propext (hl i)
  exact hh

theorem Hears.step (hh : h.Hears filter lost numbers) (hr : m.replaces h.name = false) :
    ∃ numbers', (h.step m).Hears filter (fun i => lost i ∨ m = .receive h.name ∧ h.Misses i)
      numbers' := by
  by_cases hm : m = .receive h.name
  · subst hm
    obtain ⟨fresh, hf⟩ := hh.receive
    exact ⟨_, hf.of_iff fun i => by simp⟩
  · exact ⟨_, (hh.step_of_ne hr hm).of_iff fun i => by simp [hm]⟩

private theorem lost_nil {i : Nat} : ¬h.Lost [] i := by
  rintro ⟨early, late, heq, -⟩
  cases early <;> cases heq

private theorem lost_cons {moves : List BusMove} {i : Nat} :
    h.Lost (m :: moves) i ↔ (m = .receive h.name ∧ h.Misses i) ∨ (h.step m).Lost moves i := by
  constructor
  · rintro ⟨early, late, heq, hmiss⟩
    cases early with
    | nil =>
      cases heq
      exact .inl ⟨rfl, hmiss⟩
    | cons x early =>
      cases heq
      exact .inr ⟨early, late, rfl, hmiss⟩
  · rintro (⟨rfl, hmiss⟩ | ⟨early, late, rfl, hmiss⟩)
    · exact ⟨[], moves, rfl, hmiss⟩
    · exact ⟨m :: early, late, rfl, hmiss⟩

theorem Hears.run (hh : h.Hears filter lost numbers) {moves : List BusMove}
    (hr : ∀ m ∈ moves, m.replaces h.name = false) :
    ∃ numbers', (h.run moves).Hears filter (fun i => lost i ∨ h.Lost moves i) numbers' := by
  induction moves generalizing h lost numbers with
  | nil => exact ⟨numbers, hh.of_iff fun i => (or_iff_left lost_nil).symm⟩
  | cons m rest ih =>
    obtain ⟨hm, hrest⟩ := List.forall_mem_cons.mp hr
    obtain ⟨_, hstep⟩ := hh.step hm
    obtain ⟨numbers', hrun⟩ := ih hstep hrest
    exact ⟨numbers', hrun.of_iff fun i => by rw [lost_cons, or_assoc]⟩

theorem Hears.answers (hh : h.Hears filter lost numbers) : h.Answers filter := by
  rcases hh.call with ⟨i, e, hfirst, hans, -⟩ | ⟨hnone, hans, hbus⟩
  · have hsome := hfirst.not_noneFrom
    constructor
    case event =>
      intro e'
      rw [hans]
      constructor
      · intro heq
        cases heq
        exact ⟨i, hfirst⟩
      · rintro ⟨j, hj⟩
        rw [hfirst.unique hj]
    case ended => simp [hans, hsome]
    case waits => simp [hans, hsome]
    case through => exact fun hno => absurd hans (hno e)
  · constructor
    case event =>
      intro e
      have hno : ¬∃ i, Bus.First h.told filter h.reach i e := fun ⟨_, hi⟩ => hi.not_noneFrom hnone
      simp only [hno, iff_false, hans]
      cases h.bus.closed <;> nofun
    case ended => cases hc : h.bus.closed <;> simp [hans, hc, hnone]
    case waits => cases hc : h.bus.closed <;> simp [hans, hc, hnone]
    case through => exact fun _ => passed_of_subscriber? (hh.subscriber_moved hbus)

theorem run_capacity (h : Hearing) (moves : List BusMove) :
    (h.run moves).bus.capacity = h.bus.capacity := by
  induction moves generalizing h with
  | nil => rfl
  | cons m rest ih => exact (ih (h.step m)).trans (h.bus.step_turns m).capacity_eq

/-- In every history of a bus of some capacity, a subscriber that comes to it
* finds that the bus keeps as many events as the least power of two that is not below its capacity;
* has heard, in their order and each once, those of the events that were published since it came
  which it chose and has passed over, but for those that were missed when it ran its call: when as
  many newer ones as the bus keeps, or more, had been published;
* gets by its next call the first event of its choice that is kept and not passed over. There is
  none of them exactly if it waits while the bus is there, and exactly if its stream ends when the
  bus is gone; then it has passed over all events. -/
theorem subscriber_hears (capacity : Nat) (before : List BusMove) (name : String)
    (filter : EventFilter) (moves : List BusMove) (hr : ∀ m ∈ moves, m.replaces name = false) :
    let start := start ((Bus.new capacity).run before) name filter
    let h := start.run moves
    (capacity ≤ h.bus.capacity ∧ (∃ k, h.bus.capacity = 2 ^ k) ∧
        ∀ k, capacity ≤ 2 ^ k → h.bus.capacity ≤ 2 ^ k) ∧
      (∃ numbers : List Nat, numbers.Pairwise (· < ·) ∧
        numbers.map (h.told[·]?) = h.heard.map some ∧
        ∀ i e, h.told[i]? = some e →
          (i ∈ numbers ↔ filter.accepts e = true ∧ i < h.passed ∧ ¬start.Lost moves i)) ∧
      h.Answers filter := by
  intro start h
  obtain ⟨⟨history, hk⟩, hcapacity⟩ := (Bus.keeps_new capacity).exists_run before
  have hc : h.bus.capacity = roundUpPow2 capacity := (start.run_capacity moves).trans hcapacity
  obtain ⟨numbers, hh⟩ := (hears_start hk name filter).run hr
  refine ⟨hc ▸ roundUpPow2_spec capacity, ⟨numbers, hh.sorted, hh.heard, fun i e he => ?_⟩,
    hh.answers⟩
  rw [hh.mem_iff i e he, false_or]

/-- A subscriber chose changes of state and hears the first one. Four events follow on a bus that
keeps two: the change among the first two of them is lost, the other one is heard; then the bus goes
away, and the subscriber passes over the last event and is told that none will come. -/
theorem subscriber_hears_after_lag :
    let change (origin target : Lifecycle.State) : Event := .stateChanged origin target
    let before : List BusMove := [.subscribe "log" .all, .publish (.shutdownRequested "early")]
    let moves : List BusMove := [.publish (change .stopped .starting), .receive "ui",
      .publish (change .starting .running), .publish (.shutdownRequested "late"),
      .publish (change .running .stopping), .publish (.shutdownRequested "last"), .receive "ui",
      .receive "log", .close]
    let start := start ((Bus.new 2).run before) "ui" (.types ["state_changed"])
    let h := start.run moves
    (∀ m ∈ moves, m.replaces "ui" = false) ∧
      h.heard = [change .stopped .starting, change .running .stopping] ∧
      h.told[1]? = some (change .starting .running) ∧ start.Lost moves 1 ∧
      h.answer = .ready none := by
  intro change before moves start h
  have hr : ∀ m ∈ moves, m.replaces "ui" = false := by simp [moves, BusMove.replaces]
  have hheard : h.heard = [change .stopped .starting, change .running .stopping] := by decide
  have hlate : h.told[1]? = some (change .starting .running) := by decide
  obtain ⟨-, ⟨numbers, -, hnumbers, hmem⟩, hanswers⟩ :=
    subscriber_hears 2 before "ui" (.types ["state_changed"]) moves hr
  refine ⟨hr, hheard, hlate, ?_, hanswers.ended.mpr ⟨rfl, ?_⟩⟩
  · by_contra hl
    have hin : 1 ∈ numbers := (hmem 1 _ hlate).mpr ⟨by decide, by decide, hl⟩
    obtain ⟨e, hsaid, he⟩ := exists_of_mem hnumbers hin
    obtain rfl := Option.some.inj (hlate.symm.trans he)
    have hno : change .starting .running ∉ h.heard := by decide
    exact hno hsaid
  · intro j e hj he
    have hrest : ∀ j < h.told.length,
        h.reach ≤ j → h.told[j]? = some (.shutdownRequested "last") := by
      decide
    obtain ⟨hlt, -⟩ := List.getElem?_eq_some_iff.mp he
    obtain rfl := Option.some.inj ((hrest j hlt hj).symm.trans he)
    decide

end Hearing
end RestartCoordinator
