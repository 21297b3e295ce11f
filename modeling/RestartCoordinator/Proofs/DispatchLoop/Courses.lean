import RestartCoordinator.Proofs.DispatchLoop.Dispatches
/-!
# The course of a dispatch

While a dispatch goes on, requests are offered to the slot and the slot is closed. For a service whose
conduct is given, all this can change one thing only: a delay between two attempts may be cut short.
Two courses of one dispatch therefore agree for as long as both last, and one that ends before the
other has just announced a retry and leaves the lifecycle failed. A stop that is wanted when a delay
begins always cuts it short, unless the delay is no time at all.
-/
namespace RestartCoordinator

/-- Timers count whole milliseconds and never end early. -/
def Duration.ticks (d : Duration) : Nat := (d.nanos + 999_999) / 1_000_000

private theorem Duration.ticks_pos {d : Duration} (h : 0 < d.nanos) : 0 < d.ticks := by
  unfold ticks
  omega

/-- How the service behaves in a dispatch: how long a call takes and how it ends, which may depend on
all calls of the dispatch up to this one and on their times. Some calls never end. -/
structure Conduct where
  start : List (Time × Call) → Option (Nat × Except ServiceError Handle)
  stop : List (Time × Call) → Option (Nat × Except ServiceError Unit)

/-- How long a call is waited for, and its answer. One that ends just when its time is up is
answered. -/
def Conduct.within (limit : Nat) : Option (Nat × Except ServiceError α) → Nat × Answer α
  | none => (limit, .timedOut)
  | some (took, outcome) =>
    if limit < took then (limit, .timedOut)
    else
      match outcome with
      | .ok value => (took, .done value)
      | .error error => (took, .failed error)

/-- A dispatch under way. -/
structure Course where
  loop : DispatchLoop
  /-- When the dispatcher took its last turn. -/
  since : Time
  /-- What it did, and when. -/
  told : List (Time × Effect)

/-- What can happen beside a dispatch, or let it go on. -/
inductive Occasion where
  | offer (r : Request)
  | close
  /-- During a delay the slot is asked whether a stop is wanted. -/
  | look (now : Time)
  /-- A call or a delay ends. If a stop is wanted just when a delay ends, either may come first. -/
  | wake (stopFirst : Bool)

def Effect.call? : Effect → Option Call
  | .called c => some c
  | _ => none

namespace Course

def calls (c : Course) : List (Time × Call) :=
  c.told.filterMap fun e => e.2.call?.map (e.1, ·)

def events (c : Course) : List (Time × Event) :=
  c.told.filterMap fun e => e.2.event?.map (e.1, ·)

/-- The dispatcher takes up a request. -/
def begin (l : DispatchLoop) (r : Request) (now : Time) : Course :=
  let (loop, effects) := l.turn now (.request r)
  ⟨loop, now, effects.map (now, ·)⟩

/-- The dispatcher takes a turn if it can. -/
def after (c : Course) (now : Time) (moved : Option (DispatchLoop × List Effect)) : Course :=
  match moved with
  | none => c
  | some (loop, effects) => ⟨loop, now, c.told ++ effects.map (now, ·)⟩

/-- When the call or the delay under way ends, and the signal of this. -/
def due? (c : Course) (s : Conduct) : Option (Time × Signal) :=
  let limit := c.loop.dispatcher.timeout.ticks
  match c.loop.dispatcher.task with
  | .idle => none
  | .calling _ .start =>
    let (took, answer) := Conduct.within limit (s.start c.calls)
    some (c.since + took, .startAnswered answer)
  | .calling _ _ =>
    let (took, answer) := Conduct.within limit (s.stop c.calls)
    some (c.since + took, .stopAnswered answer)
  | .waiting _ delay => some (c.since + delay.ticks, .delayEnded)

def onward (c : Course) (s : Conduct) : Course :=
  match c.due? s with
  | none => c
  | some (time, signal) => c.after time (c.loop.signal? time signal)

/-- A delay is cut short if a stop is wanted. -/
def cut (c : Course) (now : Time) : Course := c.after now (c.loop.signal? now .stopWanted)

/-- The slot is asked before the end of a delay. -/
def look (c : Course) (now : Time) : Course :=
  match c.loop.dispatcher.task with
  | .waiting _ delay => if now < c.since + delay.ticks then c.cut now else c
  | _ => c

/-- What is under way ends. A delay that begins with this asks the slot at once. -/
def wake (c : Course) (s : Conduct) (stopFirst : Bool) : Course :=
  let c := if stopFirst then c.cut c.since else c
  (c.onward s).look (c.onward s).since

def step (c : Course) (s : Conduct) : Occasion → Course
  | .offer r => { c with loop := { c.loop with slot := (c.loop.slot.offer r).2 } }
  | .close => { c with loop := { c.loop with slot := c.loop.slot.close.2 } }
  | .look now => c.look now
  | .wake stopFirst => c.wake s stopFirst

def follow (c : Course) (s : Conduct) (occasions : List Occasion) : Course :=
  occasions.foldl (fun c o => c.step s o) c

/-- A whole dispatch. After the given occasions it goes on until it must have ended. -/
def dispatch (s : Conduct) (l : DispatchLoop) (r : Request) (now : Time)
    (beside : List Occasion) : Course :=
  let ends := List.replicate (3 * l.dispatcher.policy.maxRetries + 2) (.wake false)
  ((begin l r now).follow s beside).follow s ends

variable {c c' u u' : Course} {s : Conduct} {now : Time} {k : Nat}

/-! ## What a turn does to a course -/

/-- The courses differ in the slot at most. -/
structure Alike (c u : Course) : Prop where
  dispatcher : c.loop.dispatcher = u.loop.dispatcher
  since : c.since = u.since
  told : c.told = u.told

theorem Alike.refl (c : Course) : c.Alike c := ⟨rfl, rfl, rfl⟩

private theorem Alike.due? (h : c.Alike u) : c.due? s = u.due? s := by
  unfold Course.due? calls
  rw [h.dispatcher, h.since, h.told]

theorem awaits_due {time : Time} {signal : Signal} (h : c.due? s = some (time, signal)) :
    c.loop.dispatcher.awaits signal ∧ c.loop.dispatcher.task ≠ .idle ∧ signal ≠ .stopWanted := by
  unfold due? at h
  unfold Dispatcher.awaits
  cases ht : c.loop.dispatcher.task with
  | idle => simp [ht] at h
  | calling a call =>
    cases call <;>
    · simp only [ht, Option.some.injEq, Prod.mk.injEq] at h
      obtain ⟨-, rfl⟩ := h
      simp
  | waiting a delay =>
    simp only [ht, Option.some.injEq, Prod.mk.injEq] at h
    obtain ⟨-, rfl⟩ := h
    simp

private theorem signal?_eq_turn {l : DispatchLoop} {signal : Signal}
    (hw : l.dispatcher.awaits signal)
    (ht : l.dispatcher.task ≠ .idle) (hs : signal ≠ .stopWanted) :
    l.signal? now signal = some (l.turn now signal) := by
  unfold Dispatcher.awaits at hw
  unfold DispatchLoop.signal?
  split at hw <;> simp_all

private theorem onward_cases (c : Course) (s : Conduct) :
    (c.loop.dispatcher.task = .idle ∧ c.onward s = c) ∨
      ∃ time signal, c.due? s = some (time, signal) ∧ c.loop.dispatcher.awaits signal ∧
        c.loop.dispatcher.task ≠ .idle ∧
        c.onward s = c.after time (some (c.loop.turn time signal)) := by
  unfold onward
  cases hd : c.due? s with
  | none =>
    left
    refine ⟨?_, rfl⟩
    unfold due? at hd
    split at hd
    · assumption
    all_goals cases hd
  | some due =>
    obtain ⟨time, signal⟩ := due
    obtain ⟨hw, ht, hs⟩ := awaits_due hd
    right
    refine ⟨time, signal, rfl, hw, ht, ?_⟩
    change c.after time (c.loop.signal? time signal) = _
    rw [signal?_eq_turn hw ht hs]

theorem Alike.onward (h : c.Alike u) : (c.onward s).Alike (u.onward s) := by
  rcases onward_cases c s with ⟨hi, hc⟩ | ⟨time, signal, hd, -, ht, hc⟩
  · rcases onward_cases u s with ⟨-, hu⟩ | ⟨_, _, -, -, ht, -⟩
    · rw [hc, hu]
      exact h
    · exact absurd (h.dispatcher ▸ hi) ht
  · rcases onward_cases u s with ⟨hi, -⟩ | ⟨time', signal', hd', -, -, hu⟩
    · exact absurd (h.dispatcher ▸ hi) ht
    · rw [h.due?, hd'] at hd
      obtain ⟨rfl, rfl⟩ := Prod.mk.inj (Option.some.inj hd)
      rw [hc, hu]
      constructor
      · change (c.loop.dispatcher.turn time' signal').1 = _
        rw [h.dispatcher]
        rfl
      · rfl
      · change c.told ++ (c.loop.dispatcher.turn time' signal').2.map _ = _
        rw [h.dispatcher, h.told]
        rfl

private theorem cut_of_wanted {a : Attempt} {delay : Duration}
    (ht : c.loop.dispatcher.task = .waiting a delay) (hw : c.loop.slot.wantsStop) (now : Time) :
    (c.cut now).loop.dispatcher = { c.loop.dispatcher with task := .idle } ∧
      (c.cut now).told = c.told := by
  have hs : c.loop.signal? now .stopWanted =
      some ({ c.loop with dispatcher := { c.loop.dispatcher with task := .idle } }, []) := by
    simp only [DispatchLoop.signal?, DispatchLoop.turn, Dispatcher.turn, Dispatcher.rest, ht, hw,
      if_true]
  unfold cut
  rw [hs]
  exact ⟨rfl, List.append_nil _⟩

private theorem cut_cases (c : Course) (now : Time) :
    c.cut now = c ∨
      ∃ a delay, c.loop.dispatcher.task = .waiting a delay ∧
        (c.cut now).loop.dispatcher = { c.loop.dispatcher with task := .idle } ∧
        (c.cut now).told = c.told := by
  cases ht : c.loop.dispatcher.task with
  | idle => exact .inl (by simp [cut, after, DispatchLoop.signal?, ht])
  | calling a call => exact .inl (by simp [cut, after, DispatchLoop.signal?, ht])
  | waiting a delay =>
    cases hw : c.loop.slot.wantsStop with
    | false => exact .inl (by simp [cut, after, DispatchLoop.signal?, ht, hw])
    | true => exact .inr ⟨a, delay, rfl, cut_of_wanted ht hw now⟩

theorem look_cases (c : Course) (now : Time) : c.look now = c ∨ c.look now = c.cut now := by
  unfold look
  split
  · split
    · exact .inr rfl
    · exact .inl rfl
  · exact .inl rfl

/-- The last thing told is that another attempt will be made. -/
def Announces (c : Course) : Prop :=
  ∃ before time e error retry delayMs, c.told = before ++ [(time, .reported e)] ∧
    e.outcome = .retrying error retry delayMs

/-- The dispatcher fits, and a delay has just been announced. -/
structure Sound (c : Course) : Prop where
  fits : c.loop.dispatcher.Fits
  announces : ∀ a delay, c.loop.dispatcher.task = .waiting a delay → c.Announces

/-- A turn that leads to a delay is an answer to a call, and announces another attempt. -/
theorem announces_of_goes {d d' : Dispatcher} {signal : Signal} {effects : List Effect} {a : Attempt}
    {delay : Duration} (hg : d.Goes now signal d' effects) (hw : d.awaits signal)
    (ht : d'.task = .waiting a delay) :
    (∃ a' call, d.task = .calling a' call) ∧
      ∃ before e error retry delayMs, effects = before ++ [.reported e] ∧
        e.outcome = .retrying error retry delayMs := by
  cases hg with
  | ignored hi => simp [hi] at hw
  | retries hc => exact ⟨⟨_, _, hc⟩, [_, _], _, _, _, _, rfl, rfl⟩
  | _ => cases ht

private theorem goes_turn {l : DispatchLoop} (hf : l.dispatcher.Fits) (now : Time)
    (signal : Signal) :
    l.dispatcher.Goes now signal (l.turn now signal).1.dispatcher (l.turn now signal).2 :=
  hf.goes now signal

private theorem sound_after {l : DispatchLoop} {signal : Signal} (hf : l.dispatcher.Fits)
    (hw : l.dispatcher.awaits signal) (told : List (Time × Effect)) :
    Sound ⟨(l.turn now signal).1, now, told ++ (l.turn now signal).2.map (now, ·)⟩ := by
  have hg := goes_turn hf now signal
  refine ⟨hg.fits hf, ?_⟩
  intro a delay ht
  obtain ⟨-, before, e, error, retry, delayMs, he, ho⟩ := announces_of_goes hg hw ht
  refine ⟨told ++ before.map (now, ·), now, e, error, retry, delayMs, ?_, ho⟩
  rw [he]
  simp

private theorem Sound.onward (h : c.Sound) : (c.onward s).Sound := by
  rcases onward_cases c s with ⟨-, hc⟩ | ⟨time, signal, -, hw, -, hc⟩
  · rw [hc]
    exact h
  · rw [hc]
    exact sound_after h.fits hw c.told

private theorem told_prefix_onward (c : Course) (s : Conduct) : c.told <+: (c.onward s).told := by
  rcases onward_cases c s with ⟨-, hc⟩ | ⟨time, signal, -, -, -, hc⟩
  · simp [hc]
  · rw [hc]
    exact List.prefix_append _ _

/-! ## The course that nothing disturbs -/

/-- The course after so many turns, if no stop is ever wanted. -/
def undisturbed (c : Course) (s : Conduct) : Nat → Course
  | 0 => c
  | k + 1 => (c.undisturbed s k).onward s

private theorem Sound.undisturbed (h : c.Sound) (k : Nat) : (c.undisturbed s k).Sound := by
  induction k with
  | zero => exact h
  | succ k ih => exact ih.onward

private theorem told_prefix_undisturbed {k k' : Nat} (h : k ≤ k') :
    (c.undisturbed s k).told <+: (c.undisturbed s k').told := by
  induction h with
  | refl => exact List.prefix_rfl
  | step _ ih => exact ih.trans (told_prefix_onward _ _)

private theorem undisturbed_of_idle {k k' : Nat} (h : k ≤ k')
    (hi : (c.undisturbed s k).loop.dispatcher.task = .idle) :
    c.undisturbed s k' = c.undisturbed s k := by
  induction h with
  | refl => rfl
  | @step k' _ ih =>
    change (c.undisturbed s k').onward s = _
    rw [ih]
    rcases onward_cases (c.undisturbed s k) s with ⟨-, hc⟩ | ⟨_, _, -, -, ht, -⟩
    · exact hc
    · exact absurd hi ht

/-- The course has gone along with the undisturbed one for so many turns, and may then have been cut
short. -/
inductive KeepsTo (s : Conduct) (first c : Course) (k : Nat) : Prop
  | along (h : c.Alike (first.undisturbed s k))
  | cut {a : Attempt} {delay : Duration}
      (hw : (first.undisturbed s k).loop.dispatcher.task = .waiting a delay)
      (hd : c.loop.dispatcher = { (first.undisturbed s k).loop.dispatcher with task := .idle })
      (ht : c.told = (first.undisturbed s k).told)

variable {first : Course}

private theorem KeepsTo.cut_short (h : KeepsTo s first c k) (now : Time) :
    KeepsTo s first (c.cut now) k := by
  rcases cut_cases c now with hc | ⟨a, delay, ht, hd, htold⟩
  · rw [hc]
    exact h
  · cases h with
    | along h => exact .cut (h.dispatcher ▸ ht) (h.dispatcher ▸ hd) (htold.trans h.told)
    | cut _ hidle => simp [hidle] at ht

private theorem KeepsTo.look (h : KeepsTo s first c k) (now : Time) :
    KeepsTo s first (c.look now) k := by
  rcases look_cases c now with hc | hc
  · rw [hc]
    exact h
  · rw [hc]
    exact h.cut_short now

private theorem KeepsTo.onward (h : KeepsTo s first c k) :
    ∃ k', KeepsTo s first (c.onward s) k' := by
  cases h with
  | along h => exact ⟨k + 1, .along h.onward⟩
  | cut hw hd ht =>
    refine ⟨k, ?_⟩
    rcases onward_cases c s with ⟨-, hc⟩ | ⟨_, _, -, -, hne, -⟩
    · rw [hc]
      exact .cut hw hd ht
    · simp [hd] at hne

theorem KeepsTo.step (h : KeepsTo s first c k) (o : Occasion) :
    ∃ k', KeepsTo s first (c.step s o) k' := by
  cases o with
  | offer r | close =>
    refine ⟨k, ?_⟩
    cases h with
    | along h => exact .along ⟨h.dispatcher, h.since, h.told⟩
    | cut hw hd ht => exact .cut hw hd ht
  | look now => exact ⟨k, h.look now⟩
  | wake stopFirst =>
    have hcut : KeepsTo s first (if stopFirst then c.cut c.since else c) k := by
      split
      · exact h.cut_short _
      · exact h
    obtain ⟨k', hk⟩ := hcut.onward
    exact ⟨k', hk.look _⟩

private theorem KeepsTo.follow (h : KeepsTo s first c k) (occasions : List Occasion) :
    ∃ k', KeepsTo s first (c.follow s occasions) k' := by
  induction occasions generalizing c k with
  | nil => exact ⟨k, h⟩
  | cons o rest ih =>
    obtain ⟨k', hk⟩ := h.step o
    exact ih hk

private theorem KeepsTo.fits (h : KeepsTo s first c k) (hf : first.Sound) :
    c.loop.dispatcher.Fits := by
  have hu := (hf.undisturbed k (s := s)).fits
  cases h with
  | along h => exact h.dispatcher ▸ hu
  | cut hw hd =>
    rw [hd]
    exact hu.settled_of_waiting hw

/-! ## The end of a course -/

private theorem pace_eq_zero_iff {d : Dispatcher} : d.pace = 0 ↔ d.task = .idle := by
  unfold Dispatcher.pace
  split <;> simp_all

private theorem pace_cut_le (c : Course) (now : Time) :
    (c.cut now).loop.dispatcher.pace ≤ c.loop.dispatcher.pace := by
  rcases cut_cases c now with hc | ⟨_, _, -, hd, -⟩
  · simp [hc]
  · rw [hd]
    exact Nat.zero_le _

private theorem pace_look_le (c : Course) (now : Time) :
    (c.look now).loop.dispatcher.pace ≤ c.loop.dispatcher.pace := by
  rcases look_cases c now with hc | hc
  · simp [hc]
  · rw [hc]
    exact pace_cut_le c now

private theorem pace_onward_le (hf : c.loop.dispatcher.Fits) :
    (c.onward s).loop.dispatcher.pace ≤ c.loop.dispatcher.pace - 1 := by
  rcases onward_cases c s with ⟨hi, hc⟩ | ⟨time, signal, -, hw, ht, hc⟩
  · simp [hc, pace_eq_zero_iff.mpr hi]
  · rw [hc]
    exact Nat.le_sub_one_of_lt ((goes_turn hf time signal).pace_lt hw ht)

private theorem pace_wake_le (h : KeepsTo s first c k) (hf : first.Sound) (stopFirst : Bool) :
    (c.wake s stopFirst).loop.dispatcher.pace ≤ c.loop.dispatcher.pace - 1 := by
  have hcut : ∃ c' : Course, KeepsTo s first c' k ∧
      c'.loop.dispatcher.pace ≤ c.loop.dispatcher.pace ∧
      c.wake s stopFirst = (c'.onward s).look (c'.onward s).since := by
    cases stopFirst with
    | true => exact ⟨c.cut c.since, h.cut_short _, pace_cut_le c _, rfl⟩
    | false => exact ⟨c, h, Nat.le_refl _, rfl⟩
  obtain ⟨c', hk, hle, hc⟩ := hcut
  have hon := pace_onward_le (s := s) (hk.fits hf)
  have hlook := pace_look_le (c'.onward s) (c'.onward s).since
  rw [hc]
  omega

private theorem pace_step_le (h : KeepsTo s first c k) (hf : first.Sound) (o : Occasion) :
    (c.step s o).loop.dispatcher.pace ≤ c.loop.dispatcher.pace := by
  cases o with
  | offer r | close => exact Nat.le_refl _
  | look now => exact pace_look_le c now
  | wake stopFirst => exact Nat.le_trans (pace_wake_le h hf stopFirst) (Nat.sub_le _ _)

private theorem pace_follow_le (h : KeepsTo s first c k) (hf : first.Sound)
    (occasions : List Occasion) :
    (c.follow s occasions).loop.dispatcher.pace ≤ c.loop.dispatcher.pace := by
  induction occasions generalizing c k with
  | nil => exact Nat.le_refl _
  | cons o rest ih =>
    obtain ⟨k', hk⟩ := h.step o
    exact Nat.le_trans (ih hk) (pace_step_le h hf o)

private theorem pace_follow_wakes (h : KeepsTo s first c k) (hf : first.Sound) (n : Nat) :
    (c.follow s (List.replicate n (.wake false))).loop.dispatcher.pace ≤
      c.loop.dispatcher.pace - n := by
  induction n generalizing c k with
  | zero => exact Nat.le_refl _
  | succ n ih =>
    obtain ⟨k', hk⟩ := h.step (.wake false)
    have hrest := ih hk
    have hwake := pace_wake_le h hf false
    change ((c.wake s false).follow s (List.replicate n (.wake false))).loop.dispatcher.pace ≤ _
    change ((c.wake s false).follow s (List.replicate n (.wake false))).loop.dispatcher.pace ≤
      (c.wake s false).loop.dispatcher.pace - n at hrest
    omega

theorem step_of_idle (hi : c.loop.dispatcher.task = .idle) (o : Occasion) :
    (c.step s o).loop.dispatcher.task = .idle ∧ (c.step s o).told = c.told := by
  have hcut (now : Time) : c.cut now = c := by
    rcases cut_cases c now with hc | ⟨_, _, ht, -⟩
    · exact hc
    · rw [hi] at ht
      cases ht
  have hlook (now : Time) : c.look now = c := by
    rcases look_cases c now with hc | hc
    · exact hc
    · exact hc.trans (hcut now)
  have honward : c.onward s = c := by
    rcases onward_cases c s with ⟨-, hc⟩ | ⟨_, _, -, -, ht, -⟩
    · exact hc
    · exact absurd hi ht
  cases o with
  | offer r | close => exact ⟨hi, rfl⟩
  | look now =>
    change (c.look now).loop.dispatcher.task = .idle ∧ (c.look now).told = c.told
    rw [hlook]
    exact ⟨hi, rfl⟩
  | wake stopFirst =>
    have hw : c.wake s stopFirst = c := by
      simp only [wake, hcut, ite_self, honward, hlook]
    change (c.wake s stopFirst).loop.dispatcher.task = .idle ∧ (c.wake s stopFirst).told = c.told
    rw [hw]
    exact ⟨hi, rfl⟩

private theorem follow_of_idle (hi : c.loop.dispatcher.task = .idle) (occasions : List Occasion) :
    (c.follow s occasions).loop.dispatcher.task = .idle ∧
      (c.follow s occasions).told = c.told := by
  induction occasions generalizing c with
  | nil => exact ⟨hi, rfl⟩
  | cons o rest ih =>
    obtain ⟨hi', ht⟩ := step_of_idle (s := s) hi o
    obtain ⟨hi'', ht'⟩ := ih hi'
    exact ⟨hi'', ht'.trans ht⟩

/-! ## Two courses of one dispatch -/

/-- The course ends where the other goes on: it has announced another attempt, and the lifecycle has
failed. -/
structure BreaksOff (c c' : Course) : Prop where
  told : c.told <+: c'.told
  shorter : c.told.length < c'.told.length
  calls : c.calls <+: c'.calls
  events : c.events <+: c'.events
  last : ∃ time e error retry delayMs, c.events.getLast? = some (time, .attempted e) ∧
    e.outcome = .retrying error retry delayMs
  failed : c.loop.dispatcher.state = .failed

private theorem Announces.last (h : c.Announces) :
    ∃ time e error retry delayMs, c.events.getLast? = some (time, .attempted e) ∧
      e.outcome = .retrying error retry delayMs := by
  obtain ⟨before, time, e, error, retry, delayMs, ht, ho⟩ := h
  refine ⟨time, e, error, retry, delayMs, ?_, ho⟩
  have he : c.events = before.filterMap (fun e => e.2.event?.map (e.1, ·)) ++
      [(time, .attempted e)] := by
    unfold events
    rw [ht, List.filterMap_append]
    rfl
  rw [he, List.getLast?_concat]

private theorem KeepsTo.told_eq_or_breaksOff {k' : Nat} (h : KeepsTo s first c k)
    (h' : KeepsTo s first c' k') (hf : first.Sound) (hle : k ≤ k')
    (hi : c.loop.dispatcher.task = .idle) : c.told = c'.told ∨ c.BreaksOff c' := by
  have htold' : c'.told = (first.undisturbed s k').told := by
    cases h' with
    | along h' => exact h'.told
    | cut _ _ ht => exact ht
  cases h with
  | along h =>
    left
    have hu := undisturbed_of_idle hle (h.dispatcher ▸ hi)
    rw [h.told, htold', hu]
  | @cut a delay hw hd ht =>
    -- cut after `k` turns: the undisturbed course has told the same by then, and may tell more
    have hp : c.told <+: c'.told := by
      rw [ht, htold']
      exact told_prefix_undisturbed hle
    rcases Nat.lt_or_ge c.told.length c'.told.length with hlt | hge
    · right
      have hs := hf.undisturbed (s := s) k
      have ha : c.Announces := by
        obtain ⟨before, time, e, error, retry, delayMs, hu, ho⟩ := hs.announces a delay hw
        exact ⟨before, time, e, error, retry, delayMs, ht.trans hu, ho⟩
      have hfailed : (first.undisturbed s k).loop.dispatcher.state = .failed := by
        have hfits := hs.fits
        simpa only [Dispatcher.Fits, hw] using hfits
      refine ⟨hp, hlt, hp.filterMap _, hp.filterMap _, ha.last, ?_⟩
      rw [hd]
      exact hfailed
    · left
      exact hp.eq_of_length_le hge

/-- A delay has begun that takes any time. -/
def BacksOff (c : Course) : Prop :=
  ∃ a delay, c.loop.dispatcher.task = .waiting a delay ∧ 0 < delay.nanos

private theorem told_of_backsOff (hf : c.loop.dispatcher.Fits) (hb : (c.onward s).BacksOff)
    (hw : c.loop.slot.wantsStop) (stopFirst : Bool) (more : List Occasion) :
    (c.follow s (.wake stopFirst :: more)).told = (c.onward s).told := by
  obtain ⟨a, delay, ht, hpos⟩ := hb
  have hcalling : (∃ a' call, c.loop.dispatcher.task = .calling a' call) ∧
      (c.onward s).loop.slot = c.loop.slot := by
    rcases onward_cases c s with ⟨hi, hc⟩ | ⟨time, signal, -, hs, -, hc⟩
    · rw [hc, hi] at ht
      cases ht
    · rw [hc] at ht ⊢
      exact ⟨(announces_of_goes (goes_turn hf time signal) hs ht).1, rfl⟩
  obtain ⟨⟨a', call, hcall⟩, hslot⟩ := hcalling
  have hcut : c.cut c.since = c := by
    rcases cut_cases c c.since with hc | ⟨_, _, hd, -⟩
    · exact hc
    · rw [hcall] at hd
      cases hd
  have hwake : c.wake s stopFirst = (c.onward s).cut (c.onward s).since := by
    have hlook : (c.onward s).look (c.onward s).since = (c.onward s).cut (c.onward s).since := by
      have hlt : (c.onward s).since < (c.onward s).since + delay.ticks :=
        Nat.lt_add_of_pos_right (Duration.ticks_pos hpos)
      simp only [look, ht, if_pos hlt]
    simp only [wake, hcut, ite_self, hlook]
  obtain ⟨hd, htold⟩ := cut_of_wanted ht (hslot ▸ hw) (c.onward s).since
  have hidle : (c.wake s stopFirst).loop.dispatcher.task = .idle := by
    rw [hwake, hd]
  calc (c.follow s (.wake stopFirst :: more)).told
      = ((c.wake s stopFirst).follow s more).told := rfl
    _ = (c.wake s stopFirst).told := (follow_of_idle hidle more).2
    _ = (c.onward s).told := by rw [hwake, htold]

private theorem sound_begin {l : DispatchLoop} (hi : l.dispatcher.task = .idle)
    (hs : Dispatcher.Settled l.dispatcher.state l.dispatcher.handle) (r : Request) (now : Time) :
    (begin l r now).Sound := by
  have hf : l.dispatcher.Fits := by simpa only [Dispatcher.Fits, hi] using hs
  have hw : l.dispatcher.awaits (.request r) := by simp [Dispatcher.awaits, hi]
  exact sound_after hf hw []

private theorem pace_begin_le {l : DispatchLoop} (hi : l.dispatcher.task = .idle)
    (hs : Dispatcher.Settled l.dispatcher.state l.dispatcher.handle) (r : Request) (now : Time) :
    (begin l r now).loop.dispatcher.pace ≤ 3 * l.dispatcher.policy.maxRetries + 2 := by
  have hf : l.dispatcher.Fits := by simpa only [Dispatcher.Fits, hi] using hs
  exact (hf.goes now (.request r)).pace_le_of_begins (.inl ⟨hi, rfl, rfl⟩)

private theorem alike_begin {l l' : DispatchLoop} (hl : l'.dispatcher = l.dispatcher) (r : Request)
    (now : Time) : (begin l' r now).Alike (begin l r now) := by
  constructor
  · change (l'.dispatcher.turn now (.request r)).1 = _
    rw [hl]
    rfl
  · rfl
  · change (l'.dispatcher.turn now (.request r)).2.map _ = _
    rw [hl]
    rfl

/-- Every dispatch comes to its end, and keeps to the one that nothing disturbs. -/
theorem dispatch_keepsTo {l l' : DispatchLoop} (hl : l'.dispatcher = l.dispatcher)
    (hi : l.dispatcher.task = .idle)
    (hs : Dispatcher.Settled l.dispatcher.state l.dispatcher.handle) (r : Request) (now : Time)
    (beside : List Occasion) :
    (dispatch s l' r now beside).loop.dispatcher.task = .idle ∧
      ∃ k, KeepsTo s (begin l r now) (dispatch s l' r now beside) k := by
  have hf : (begin l r now).Sound := sound_begin hi hs r now
  have ha : (begin l' r now).Alike (begin l r now) := alike_begin hl r now
  have h₀ : KeepsTo s (begin l r now) (begin l' r now) 0 := .along ha
  obtain ⟨k, hk⟩ := h₀.follow beside
  refine ⟨?_, hk.follow _⟩
  -- what happens beside never sets the pace back, and the turns left at the end use it up
  have hbegin := pace_begin_le hi hs r now
  have hbeside := pace_follow_le h₀ hf beside
  have hend := pace_follow_wakes hk hf (3 * l'.dispatcher.policy.maxRetries + 2)
  rw [ha.dispatcher] at hbeside
  apply pace_eq_zero_iff.mp
  change (((begin l' r now).follow s beside).follow s _).loop.dispatcher.pace = 0
  rw [hl] at hend ⊢
  omega

/-- Two dispatchers that are alike, settled and idle take up the same request, and the service behaves
in the same way. Whatever is offered to their slots before and meanwhile, and whenever these are
closed, both come to an end, and both do the same at the same times, except that one may break off
before another attempt. If a stop is wanted when a delay of any length begins, nothing is done any
more. -/
theorem dispatch_uninterrupted (s : Conduct) {l l' : DispatchLoop}
    (hl : l'.dispatcher = l.dispatcher) (hi : l.dispatcher.task = .idle)
    (hs : Dispatcher.Settled l.dispatcher.state l.dispatcher.handle) (r : Request) (now : Time)
    (beside beside' : List Occasion) :
    let c := dispatch s l r now beside
    let c' := dispatch s l' r now beside'
    c.loop.dispatcher.isIdle ∧ c'.loop.dispatcher.isIdle ∧
      (c.told = c'.told ∨ c.BreaksOff c' ∨ c'.BreaksOff c) ∧
      ∀ before stopFirst more,
        let reached := (begin l r now).follow s before
        (reached.onward s).BacksOff → reached.loop.slot.closed ∨ reached.loop.slot.hasStop →
          (reached.follow s (.wake stopFirst :: more)).told = (reached.onward s).told := by
  intro c c'
  obtain ⟨hidle, k, hk⟩ := dispatch_keepsTo (s := s) rfl hi hs r now beside
  obtain ⟨hidle', k', hk'⟩ := dispatch_keepsTo (s := s) hl hi hs r now beside'
  have hf : (begin l r now).Sound := sound_begin hi hs r now
  refine ⟨decide_eq_true hidle, decide_eq_true hidle', ?_, ?_⟩
  · rcases Nat.le_total k k' with hle | hle
    · rcases hk.told_eq_or_breaksOff hk' hf hle hidle with h | h
      · exact .inl h
      · exact .inr (.inl h)
    · rcases hk'.told_eq_or_breaksOff hk hf hle hidle' with h | h
      · exact .inl h.symm
      · exact .inr (.inr h)
  · intro before stopFirst more reached hb hw
    have h₀ : KeepsTo s (begin l r now) (begin l r now) 0 := .along (.refl _)
    obtain ⟨j, hj⟩ := h₀.follow before
    apply told_of_backsOff (hj.fits hf) hb
    simpa only [PendingSlot.wantsStop, Bool.or_eq_true] using hw

/-- A start that times out. In one course a stop is offered during the call, in the other nothing
happens and the second attempt succeeds. -/
theorem dispatch_uninterrupted_of_timeout :
    let r : Request := ⟨.ofSerial 0, [.plain .ui], .start, [], 0, 0⟩
    let stop : Request := ⟨.ofSerial 1, [.plain .switchOff], .stop, [], 3, 3⟩
    let l := DispatchLoop.new (.new (.ofMillis 5) ⟨3, .ofMillis 1, .ofMillis 2, true⟩) true
    let s : Conduct :=
      ⟨fun calls => if calls.length ≤ 1 then none else some (2, .ok ⟨1⟩), fun _ => none⟩
    let c := dispatch s l r 0 [.offer stop]
    let c' := dispatch s l r 0 []
    c.BreaksOff c' ∧ c.calls = [(0, .start)] ∧ c'.calls = [(0, .start), (6, .start)] ∧
      c'.loop.dispatcher.state = .running ∧
      let reached := (begin l r 0).follow s [.offer stop]
      ∀ more, (reached.follow s (.wake false :: more)).told = (reached.onward s).told := by
  intro r stop l s c c'
  have hl : l.dispatcher = l.dispatcher := rfl
  have hs : Dispatcher.Settled l.dispatcher.state l.dispatcher.handle := .of_stopped
  obtain ⟨-, -, hends, hwanted⟩ := dispatch_uninterrupted s hl rfl hs r 0 [.offer stop] []
  have hc : c.told.length = 5 := by decide
  have hc' : c'.told.length = 10 := by decide
  have hbreaks : c.BreaksOff c' := by
    rcases hends with h | h | h
    · have he : c.told.length = c'.told.length := congrArg List.length h
      omega
    · exact h
    · have hlt : c'.told.length < c.told.length := h.shorter
      omega
  refine ⟨hbreaks, by decide, by decide, by decide, ?_⟩
  intro reached more
  exact hwanted [.offer stop] false more ⟨_, _, rfl, by decide⟩ (.inr (by decide))

end Course
end RestartCoordinator
