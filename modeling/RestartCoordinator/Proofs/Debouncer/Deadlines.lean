import Mathlib.Data.List.Induction
import RestartCoordinator.Proofs.Debouncer.Yields
/-!
# The deadline of an open window

The deadline is set when the window opens, a quiet period later. From then on it only moves forward,
and never past the longest window allowed. Times may come in any order: the bounds hold for triggers
from before the window began as well as for those from after its end.
-/
namespace RestartCoordinator

/-- The deadline leaves room for the quiet period and stays within the longest window. -/
structure Window.Timed (w : Window) (interval longest : Nat) : Prop where
  quiet : w.start + interval ≤ w.deadline
  ceiling : w.deadline ≤ w.start + longest

namespace Debouncer

/-- The window that a trigger leaves open, if it does not stop. -/
def gather (d : Debouncer) (t : Trigger) (now : Time) : Window :=
  match d.window with
  | none => ⟨now, now + d.interval, [t.reason], t.command⟩
  | some w => d.join w t now

/-- A window is open at first and after each use. -/
def staysOpen (d : Debouncer) : List DebouncerMove → Bool
  | [] => d.isOpen
  | m :: moves => d.isOpen && (d.step m).1.staysOpen moves

variable {d : Debouncer} {w : Window} {t : Trigger} {now : Time}

theorem window_fold (ht : t.isStop = false) (id : RequestId) (now : Time) :
    (d.fold id t now).2 = { d with window := some (d.gather t now) } := by
  unfold fold gather
  rw [if_neg (by simp [ht])]
  cases d.window <;> rfl

theorem gather_of_open (hw : d.window = some w) (t : Trigger) (now : Time) :
    d.gather t now = d.join w t now := by
  simp only [gather, hw]

theorem gather_of_closed (hw : d.window = none) (t : Trigger) (now : Time) :
    d.gather t now = ⟨now, now + d.interval, [t.reason], t.command⟩ := by
  simp only [gather, hw]

theorem step_fold (d : Debouncer) (id : RequestId) (t : Trigger) (now : Time) :
    (d.step (.fold id t now)).1 = (d.fold id t now).2 := by
  simp only [step]
  rcases d.fold id t now with ⟨_ | _ | _, d'⟩ <;> rfl

theorem step_cases (d : Debouncer) (m : DebouncerMove) :
    (d.step m).1 = { d with window := none } ∨ (d.step m).1 = d ∨
      ∃ id t now, m = .fold id t now ∧ t.isStop = false ∧
        (d.step m).1 = { d with window := some (d.gather t now) } := by
  cases m with
  | fold id t now =>
    rw [step_fold]
    cases ht : t.isStop with
    | true =>
      left
      simp only [fold, ht, if_true]
    | false =>
      right
      right
      exact ⟨id, t, now, rfl, ht, window_fold ht id now⟩
  | close id now => exact .inl rfl
  | closeIfDue id now =>
    simp only [step, Debouncer.closeIfDue]
    split
    · exact .inl rfl
    · exact .inr (.inl rfl)
  | discard => exact .inl rfl

theorem run_append (d : Debouncer) (first more : List DebouncerMove) :
    (d.run (first ++ more)).1 = ((d.run first).1.run more).1 := by
  induction first generalizing d with
  | nil => rfl
  | cons m first ih => exact ih (d.step m).1

theorem run_append_singleton (d : Debouncer) (moves : List DebouncerMove) (m : DebouncerMove) :
    (d.run (moves ++ [m])).1 = ((d.run moves).1.step m).1 :=
  d.run_append moves [m]

theorem step_settings (d : Debouncer) (m : DebouncerMove) :
    (d.step m).1.interval = d.interval ∧ (d.step m).1.longest = d.longest := by
  rcases d.step_cases m with h | h | ⟨_, _, _, -, -, h⟩ <;> rw [h] <;> exact ⟨rfl, rfl⟩

theorem run_settings (d : Debouncer) (moves : List DebouncerMove) :
    (d.run moves).1.interval = d.interval ∧ (d.run moves).1.longest = d.longest := by
  induction moves generalizing d with
  | nil => exact ⟨rfl, rfl⟩
  | cons m moves ih =>
    obtain ⟨hi, hl⟩ := ih (d.step m).1
    obtain ⟨hi', hl'⟩ := d.step_settings m
    exact ⟨hi.trans hi', hl.trans hl'⟩

private theorem extend_le_ceiling (h : w.deadline ≤ w.start + d.longest) (p : Priority)
    (now : Time) :
    d.extend w p now ≤ w.start + d.longest := by
  cases p with
  | background => exact h
  | user => exact Nat.max_le.mpr ⟨h, Nat.min_le_right _ _⟩

/-- A trigger keeps the bounds, whatever its time is. -/
theorem timed_join (h : w.Timed d.interval d.longest) (t : Trigger) (now : Time) :
    (d.join w t now).Timed d.interval d.longest := by
  constructor
  case quiet => exact Nat.le_trans h.quiet (d.deadline_le_extend w t.priority now)
  case ceiling => exact extend_le_ceiling h.ceiling t.priority now

private theorem timed_gather (h : ∀ w, d.window = some w → w.Timed d.interval d.longest)
    (t : Trigger)
    (now : Time) : (d.gather t now).Timed d.interval d.longest := by
  cases hw : d.window with
  | none =>
    rw [gather_of_closed hw]
    have hle := d.interval_le_longest
    constructor
    case quiet => exact Nat.le_refl _
    case ceiling => exact Nat.add_le_add_left hle now
  | some w =>
    rw [gather_of_open hw]
    exact timed_join (h w hw) t now

theorem timed_step (h : ∀ w, d.window = some w → w.Timed d.interval d.longest)
    (m : DebouncerMove) :
    ∀ w, (d.step m).1.window = some w → w.Timed (d.step m).1.interval (d.step m).1.longest := by
  intro w hw
  rcases d.step_cases m with hd | hd | ⟨id, t, now, -, -, hd⟩
  · rw [hd] at hw
    cases hw
  · rw [hd] at hw ⊢
    exact h w hw
  · rw [hd] at hw ⊢
    obtain rfl := Option.some.inj hw
    exact timed_gather h t now

theorem timed_run (h : ∀ w, d.window = some w → w.Timed d.interval d.longest)
    (moves : List DebouncerMove) :
    ∀ w, (d.run moves).1.window = some w → w.Timed d.interval d.longest := by
  induction moves generalizing d with
  | nil => exact h
  | cons m moves ih =>
    have hr := ih (timed_step h m)
    obtain ⟨hi, hl⟩ := d.step_settings m
    rw [hi, hl] at hr
    exact hr

private theorem deadline_le_of_staysOpen {moves : List DebouncerMove} (hw : d.window = some w)
    (h : d.staysOpen moves) :
    ∃ w', (d.run moves).1.window = some w' ∧ w'.start = w.start ∧ w.deadline ≤ w'.deadline := by
  induction moves generalizing d w with
  | nil => exact ⟨w, hw, rfl, Nat.le_refl _⟩
  | cons m moves ih =>
    simp only [staysOpen, Bool.and_eq_true] at h
    rcases d.step_cases m with hd | hd | ⟨id, t, now, -, -, hd⟩
    · have hn : (d.step m).1.staysOpen moves = false := by
        rw [hd]
        cases moves <;> rfl
      rw [hn] at h
      cases h.2
    · have hs : (d.step m).1.window = some w := by rw [hd, hw]
      exact ih hs h.2
    · have hj : (d.step m).1.window = some (d.join w t now) := by
        rw [hd, gather_of_open hw]
      obtain ⟨w', hw', hs, hle⟩ := ih hj h.2
      have hmono : w.deadline ≤ (d.join w t now).deadline := d.deadline_le_extend w t.priority now
      exact ⟨w', hw', hs, Nat.le_trans hmono hle⟩

private theorem staysOpen_append_singleton {moves : List DebouncerMove} {m : DebouncerMove}
    (h : d.staysOpen moves) (hm : (d.run (moves ++ [m])).1.isOpen) :
    d.staysOpen (moves ++ [m]) := by
  induction moves generalizing d with
  | nil => simpa [staysOpen, run] using And.intro h hm
  | cons first moves ih =>
    simp only [staysOpen, Bool.and_eq_true, List.cons_append] at h ⊢
    exact ⟨h.1, ih h.2 hm⟩

/-- An open window was opened at its start by a trigger that does not stop, and has stayed open. -/
theorem exists_opening (hd : d.window = none) (moves : List DebouncerMove) :
    ∀ w, (d.run moves).1.window = some w →
      ∃ before id t after, moves = before ++ .fold id t w.start :: after ∧ t.isStop = false ∧
        (d.run before).1.isOpen = false ∧
        ((d.run before).1.step (.fold id t w.start)).1.staysOpen after := by
  -- on the uses from the last one back: the window is the one before it, or the last use opened it
  induction moves using List.reverseRecOn with
  | nil =>
    intro w hw
    change d.window = some w at hw
    rw [hd] at hw
    cases hw
  | append_singleton moves m ih =>
    intro w hw
    have hopen : (d.run (moves ++ [m])).1.isOpen := by simp [isOpen, hw]
    have onward {w' : Window} (hw' : (d.run moves).1.window = some w') (hs : w'.start = w.start) :
        ∃ before id t after, moves ++ [m] = before ++ .fold id t w.start :: after ∧
          t.isStop = false ∧ (d.run before).1.isOpen = false ∧
          ((d.run before).1.step (.fold id t w.start)).1.staysOpen after := by
      obtain ⟨before, id, t, after, hm, ht, hb, ha⟩ := ih w' hw'
      rw [hs] at hm ha
      refine ⟨before, id, t, after ++ [m], by simp [hm], ht, hb, ?_⟩
      apply staysOpen_append_singleton ha
      have he : (d.run (moves ++ [m])).1 =
          (((d.run before).1.step (.fold id t w.start)).1.run (after ++ [m])).1 := by
        rw [hm, List.append_assoc, run_append]
        rfl
      rw [← he]
      exact hopen
    rw [run_append_singleton] at hw
    rcases (d.run moves).1.step_cases m with hs | hs | ⟨id, t, now, rfl, ht, hs⟩
    · rw [hs] at hw
      cases hw
    · rw [hs] at hw
      exact onward hw rfl
    · have hg : (d.run moves).1.gather t now = w := by
        rw [hs] at hw
        exact Option.some.inj hw
      cases hw' : (d.run moves).1.window with
      | none =>
        rw [gather_of_closed hw'] at hg
        obtain rfl := hg
        refine ⟨moves, id, t, [], rfl, ht, by simp [isOpen, hw'], ?_⟩
        rw [run_append_singleton] at hopen
        exact hopen
      | some w' =>
        rw [gather_of_open hw'] at hg
        have hs : w'.start = w.start := by
          rw [← hg]
          rfl
        exact onward hw' hs

private theorem closeIfDue_of_ceiling (hw : d.window = some w) (h : w.Timed d.interval d.longest)
    (hn : w.start + d.longest ≤ now) (id : RequestId) :
    d.isDue now ∧ ∃ r, d.closeIfDue id now = (some r, { d with window := none }) ∧
      r.windowStart = w.start := by
  have hdue : d.isDue now := by
    have hle : w.deadline ≤ now := Nat.le_trans h.ceiling hn
    rw [isDue, deadline, hw]
    exact decide_eq_true hle
  refine ⟨hdue, ⟨id, w.reasons, w.command, [], w.start, now⟩, ?_, rfl⟩
  simp only [Debouncer.closeIfDue, hdue, if_true, Debouncer.close, hw, Option.map_some]

private theorem fold_of_open (hw : d.window = some w) (ht : t.isStop = false) (id : RequestId)
    (now : Time) :
    d.fold id t now =
      (.joined (d.extend w t.priority now) (w.deadline < d.extend w t.priority now),
        { d with window := some (d.join w t now) }) := by
  unfold fold
  rw [if_neg (by simp [ht])]
  simp only [hw]
  rfl

/-- From a new debouncer on, whatever its uses and their times, a window that is open
* was opened at its start by a trigger that does not stop, when there was no window, and has stayed
  open since then;
* has its deadline between the end of the quiet period and the end of the longest window;
* keeps its start, and never has an earlier deadline, for as long as it stays open;
* keeps its deadline when a background trigger comes, and gets the later one of this and what is
  allowed to a trigger of user priority when one comes, which is told as an extension if it is
  later; a stop, whatever its priority, leaves no window;
* is due from the end of the longest window on, so that it closes when it is looked at. -/
theorem run_deadlines (interval longest : Nat) (moves : List DebouncerMove) {w : Window}
    (hw : ((new interval longest).run moves).1.window = some w) :
    let d := ((new interval longest).run moves).1
    let most := max longest interval
    (∃ before id t after, moves = before ++ .fold id t w.start :: after ∧ t.isStop = false ∧
      ((new interval longest).run before).1.isOpen = false ∧
      (((new interval longest).run before).1.step (.fold id t w.start)).1.staysOpen after) ∧
    w.start + interval ≤ w.deadline ∧ w.deadline ≤ w.start + most ∧
    (∀ more, d.staysOpen more →
      ∃ w', (d.run more).1.window = some w' ∧ w'.start = w.start ∧ w.deadline ≤ w'.deadline) ∧
    (∀ id t now,
      (t.isStop → (d.fold id t now).2.isOpen = false) ∧
      (t.isStop = false → ∃ w' extended,
        d.fold id t now = (.joined w'.deadline extended, { d with window := some w' }) ∧
        w'.start = w.start ∧
        w'.deadline = (match t.priority with
          | .background => w.deadline
          | .user => max w.deadline (min (now + interval) (w.start + most))) ∧
        (extended = true ↔ w.deadline < w'.deadline))) ∧
    ∀ id now, w.start + most ≤ now → d.isDue now ∧
      ∃ r, d.closeIfDue id now = (some r, { d with window := none }) ∧ r.windowStart = w.start := by
  intro d most
  obtain ⟨hi, hl⟩ : d.interval = interval ∧ d.longest = most := run_settings _ moves
  have htimed : w.Timed interval most := timed_run (d := new interval longest) nofun moves w hw
  refine ⟨exists_opening rfl moves w hw, htimed.quiet, htimed.ceiling, ?_, ?_, ?_⟩
  · intro more hopen
    exact deadline_le_of_staysOpen hw hopen
  · intro id t now
    constructor
    · intro ht
      obtain ⟨r, -, -, -, -, hn⟩ := d.fold_of_isStop ht id now
      exact hn
    · intro ht
      refine ⟨d.join w t now, _, fold_of_open hw ht id now, rfl, ?_, decide_eq_true_iff⟩
      change d.extend w t.priority now = _
      cases t.priority with
      | background => rfl
      | user =>
        rw [← hi, ← hl]
        rfl
  · intro id now hn
    rw [← hi, ← hl] at htimed
    rw [← hl] at hn
    exact closeIfDue_of_ceiling hw htimed hn id

/-- A user moves the deadline twice, the second time up to the ceiling, and a trigger from before
the window changes nothing any more. -/
theorem run_deadlines_of_users :
    let fold (reason : PlainReason) (now : Time) : DebouncerMove :=
      .fold .nil (.ofReason (.plain reason) "ui" now) now
    let d := ((new 500 2000).run [fold .connectivityChanged 100, fold .pull 500, fold .tile 1900]).1
    ∃ w, d.window = some w ∧ w.start = 100 ∧ w.deadline = 2100 ∧
      (∃ w', (d.run [fold .pull 50]).1.window = some w' ∧ w'.start = w.start ∧
        w.deadline ≤ w'.deadline) ∧
      (d.fold .nil (.ofReason (.plain .switchOff) "ui" 2000) 2000).2.isOpen = false ∧
      d.isDue 2100 ∧ ∃ r, d.closeIfDue .nil 2100 = (some r, { d with window := none }) ∧
        r.windowStart = w.start := by
  intro fold d
  obtain ⟨-, -, -, hmore, hfold, hdue⟩ := run_deadlines 500 2000
    [fold .connectivityChanged 100, fold .pull 500, fold .tile 1900] rfl
  exact ⟨_, rfl, rfl, rfl, hmore [fold .pull 50] (by decide), (hfold _ _ _).1 (by decide),
    hdue .nil 2100 (by decide)⟩

end Debouncer
end RestartCoordinator
