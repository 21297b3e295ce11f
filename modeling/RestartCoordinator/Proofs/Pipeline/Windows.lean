import Mathlib.Data.List.Basic
import RestartCoordinator.Proofs.Pipeline.Counts
/-!
# The windows of a run

Beside a run of the pipeline it is noted which triggers were folded into the open window, each with
its time and the deadline that stood then, and which windows closed. A step is made at one moment of
the clock, which never goes back. Folding does not look at the deadline, so what is shown of the
windows rests on the order of the loop: a window whose end has come closes before another trigger is
taken.
-/
namespace RestartCoordinator

/-- A trigger that was folded into a window. -/
structure Entry where
  trigger : Trigger
  time : Time
  /-- The deadline of the window at that time; for the trigger that opened it, the one it set. -/
  deadline : Time

structure ClosedWindow where
  request : Request
  time : Time
  deadline : Time
  entries : List Entry

structure WindowBook where
  /-- The entries of the open window. -/
  entries : List Entry := []
  /-- The windows that closed because their end had come. -/
  closed : List ClosedWindow := []

namespace Debouncer

/-- The entries of the open window after a trigger was taken in. -/
def entriesAfter (d : Debouncer) (folded : Folded) (t : Trigger) (now : Time)
    (entries : List Entry) : List Entry :=
  match folded, d.window with
  | .opened deadline, _ => [⟨t, now, deadline⟩]
  | .joined .., some w => entries ++ [⟨t, now, w.deadline⟩]
  | _, _ => []

end Debouncer

namespace Pipeline

/-- The book after a move that was made. -/
def book (p : Pipeline) (now : Time) (b : WindowBook) : Move → WindowBook
  | .fold =>
    match p.queue.take? with
    | some (t, _) =>
      let folded := (p.debouncer.fold p.nextId t now).1
      { b with entries := p.debouncer.entriesAfter folded t now b.entries }
    | none => b
  | .flush =>
    match p.debouncer.window, (p.debouncer.closeIfDue p.nextId now).1 with
    | some w, some r =>
      { entries := [], closed := b.closed ++ [⟨r, now, w.deadline, b.entries⟩] }
    | _, _ => b
  | .endCoalescing => { b with entries := [] }
  | _ => b

def windows (p : Pipeline) (b : WindowBook) : List (Time × Move) → WindowBook
  | [] => b
  | (now, m) :: rest =>
    match p.step? now m with
    | some moved => windows moved.pipeline (p.book now b m) rest
    | none => windows p b rest

end Pipeline

/-- What the window holds was folded into it, each trigger before the deadline of its time. -/
structure Window.Holds (w : Window) (interval : Nat) (entries : List Entry) : Prop where
  quiet : w.start + interval ≤ w.deadline
  nonempty : entries ≠ []
  reasons_eq : w.reasons = entries.map (·.trigger.reason)
  timely : ∀ e ∈ entries, w.start ≤ e.time ∧ e.time < e.deadline ∧ e.deadline ≤ w.deadline

/-- The window closed when its end had come, with what was folded into it before the end. -/
structure ClosedWindow.Sound (w : ClosedWindow) (interval : Nat) : Prop where
  due : w.deadline ≤ w.time
  emitted : w.request.windowEnd = w.time
  quiet : w.request.windowStart + interval ≤ w.deadline
  nonempty : w.entries ≠ []
  reasons_eq : w.request.reasons = w.entries.map (·.trigger.reason)
  timely : ∀ e ∈ w.entries,
    w.request.windowStart ≤ e.time ∧ e.time < e.deadline ∧ e.deadline ≤ w.deadline

section
variable {w : Window} {d : Debouncer} {interval : Nat} {entries : List Entry} {t : Trigger}
  {now : Time}

private theorem Window.Holds.opened (hi : 0 < d.interval) :
    Window.Holds ⟨now, now + d.interval, [t.reason], t.command⟩ d.interval
      [⟨t, now, now + d.interval⟩] := by
  constructor
  case quiet => exact Nat.le_refl _
  case nonempty => exact List.cons_ne_nil _ _
  case reasons_eq => rfl
  case timely =>
    intro e he
    obtain rfl := List.mem_singleton.mp he
    exact ⟨Nat.le_refl _, Nat.lt_add_of_pos_right hi, Nat.le_refl _⟩

private theorem Window.Holds.join (h : w.Holds interval entries) (hs : w.start ≤ now)
    (hd : now < w.deadline) :
    (d.join w t now).Holds interval (entries ++ [⟨t, now, w.deadline⟩]) := by
  have hle : w.deadline ≤ (d.join w t now).deadline := d.deadline_le_extend w t.priority now
  constructor
  case quiet => exact Nat.le_trans h.quiet hle
  case nonempty => exact List.append_ne_nil_of_left_ne_nil h.nonempty _
  case reasons_eq => simp [Debouncer.join, h.reasons_eq]
  case timely =>
    intro e he
    rcases List.mem_append.mp he with he | he
    · obtain ⟨hstart, hlt, hd⟩ := h.timely e he
      exact ⟨hstart, hlt, Nat.le_trans hd hle⟩
    · obtain rfl := List.mem_singleton.mp he
      exact ⟨hs, hd, hle⟩

private theorem Window.Holds.close (h : w.Holds interval entries) (hd : w.deadline ≤ now)
    (id : RequestId) :
    ClosedWindow.Sound ⟨⟨id, w.reasons, w.command, [], w.start, now⟩, now, w.deadline, entries⟩
      interval :=
  ⟨hd, rfl, h.quiet, h.nonempty, h.reasons_eq, h.timely⟩

end

namespace Pipeline

/-- The book is right at a time, and no window began before the one before it had closed. -/
structure Clocked (p : Pipeline) (interval : Nat) (b : WindowBook) (now : Time) : Prop where
  interval_eq : p.debouncer.interval = interval
  apart : b.closed.Pairwise fun a c => a.time + interval ≤ c.time
  sound : ∀ c ∈ b.closed, c.Sound interval
  past : ∀ c ∈ b.closed, c.time ≤ now
  holds : ∀ w, p.debouncer.window = some w →
    w.Holds interval b.entries ∧ w.start ≤ now ∧ ∀ c ∈ b.closed, c.time ≤ w.start

section
variable {p p' : Pipeline} {moved : Moved} {interval : Nat} {b : WindowBook} {now now' : Time}
  {m : Move}

private theorem clocked_fresh (c : Config) (observers : Observers) :
    (fresh c observers).Clocked c.coordinator.debounceIntervalMs {} 0 :=
  ⟨rfl, .nil, nofun, nofun, nofun⟩

private theorem Clocked.wait (h : p.Clocked interval b now) (hn : now ≤ now') :
    p.Clocked interval b now' :=
  { h with
    past := fun c hc => Nat.le_trans (h.past c hc) hn
    holds := fun w hw =>
      have ⟨hh, hs, hc⟩ := h.holds w hw
      ⟨hh, Nat.le_trans hs hn, hc⟩ }

private theorem Clocked.same (h : p.Clocked interval b now) (hd : p'.debouncer = p.debouncer) :
    p'.Clocked interval b now :=
  ⟨hd ▸ h.interval_eq, h.apart, h.sound, h.past, hd ▸ h.holds⟩

private theorem book_flush {w : Window} (hw : p.debouncer.window = some w)
    (hd : w.deadline ≤ now) :
    p.book now b .flush = { entries := [], closed := b.closed ++
      [⟨⟨p.nextId, w.reasons, w.command, [], w.start, now⟩, now, w.deadline, b.entries⟩] } := by
  simp [book, hw, Debouncer.closeIfDue, Debouncer.isDue, Debouncer.deadline, hd, Debouncer.close]

/-- The request that is noted as the window's is the one that the slot is offered. -/
theorem step?_flush_offers (hs : p.step? now .flush = some moved) :
    ∃ c, (p.book now b .flush).closed = b.closed ++ [c] ∧ c.time = now ∧
      (p.debouncer.closeIfDue p.nextId now).1 = some c.request ∧
      moved.pipeline.loop.slot = (p.loop.slot.offer c.request).2 := by
  obtain ⟨w, hw, hd, rfl⟩ := step?_flush_eq hs
  have hclose : (p.debouncer.closeIfDue p.nextId now).1 =
      some ⟨p.nextId, w.reasons, w.command, [], w.start, now⟩ := by
    simp [Debouncer.closeIfDue, Debouncer.isDue, Debouncer.deadline, hw, hd, Debouncer.close]
  refine ⟨_, congrArg WindowBook.closed (book_flush hw hd), rfl, hclose, ?_⟩
  rw [handOff_loop]
  rfl

private theorem book_closed_of_ne (hm : m ≠ .flush) : (p.book now b m).closed = b.closed := by
  cases m with
  | fold =>
    simp only [book]
    split <;> rfl
  | flush => contradiction
  | _ => rfl

private theorem Clocked.flush (h : p.Clocked interval b now)
    (hs : p.step? now .flush = some moved) :
    moved.pipeline.Clocked interval (p.book now b .flush) now := by
  obtain ⟨w, hw, hd, rfl⟩ := step?_flush_eq hs
  obtain ⟨hh, -, hbefore⟩ := h.holds w hw
  rw [book_flush hw hd]
  constructor
  case interval_eq => simpa [count] using h.interval_eq
  case apart =>
    refine List.pairwise_append.mpr ⟨h.apart, List.pairwise_singleton .., ?_⟩
    intro c hc a ha
    obtain rfl := List.mem_singleton.mp ha
    calc c.time + interval
      _ ≤ w.start + interval := Nat.add_le_add_right (hbefore c hc) interval
      _ ≤ w.deadline := hh.quiet
      _ ≤ now := hd
  case sound =>
    intro c hc
    rcases List.mem_append.mp hc with hc | hc
    · exact h.sound c hc
    · obtain rfl := List.mem_singleton.mp hc
      exact hh.close hd p.nextId
  case past =>
    intro c hc
    rcases List.mem_append.mp hc with hc | hc
    · exact h.past c hc
    · obtain rfl := List.mem_singleton.mp hc
      exact Nat.le_refl _
  case holds =>
    intro w' hw'
    simp [count] at hw'

private theorem Clocked.fold (hi : 0 < interval) (h : p.Clocked interval b now)
    (hs : p.step? now .fold = some moved) :
    moved.pipeline.Clocked interval (p.book now b .fold) now := by
  obtain ⟨hdue, t, queue, ht, ⟨hstop, rfl⟩ | ⟨hstop, hw, rfl⟩ | ⟨hstop, w, hw, rfl⟩⟩ :=
    step?_fold_eq hs
  · have hb : (p.book now b .fold).closed = b.closed := book_closed_of_ne nofun
    constructor
    case interval_eq => simpa [count] using h.interval_eq
    case apart => exact hb ▸ h.apart
    case sound => exact hb ▸ h.sound
    case past => exact hb ▸ h.past
    case holds =>
      intro w hw
      simp [count] at hw
  · have hb : p.book now b .fold =
        { b with entries := [⟨t, now, now + p.debouncer.interval⟩] } := by
      simp [book, ht, Debouncer.fold, hstop, hw, Debouncer.entriesAfter]
    rw [hb]
    refine ⟨h.interval_eq, h.apart, h.sound, h.past, fun w hw' => ?_⟩
    obtain rfl := Option.some.inj hw'
    rw [← h.interval_eq] at hi ⊢
    exact ⟨.opened hi, Nat.le_refl _, h.past⟩
  · obtain ⟨hh, hstart, hbefore⟩ := h.holds w hw
    have hlt : now < w.deadline := by
      simpa [Debouncer.isDue, Debouncer.deadline, hw] using hdue
    have hb : p.book now b .fold =
        { b with entries := b.entries ++ [⟨t, now, w.deadline⟩] } := by
      simp [book, ht, Debouncer.fold, hstop, hw, Debouncer.entriesAfter]
    rw [hb]
    refine ⟨h.interval_eq, h.apart, h.sound, h.past, fun w' hw' => ?_⟩
    obtain rfl := Option.some.inj hw'
    exact ⟨hh.join hstart hlt, hstart, hbefore⟩

theorem step?_debouncer (hflush : m ≠ .flush) (hfold : m ≠ .fold) (hend : m ≠ .endCoalescing)
    (hs : p.step? now m = some moved) :
    moved.pipeline.debouncer = p.debouncer ∧ p.book now b m = b := by
  cases m with
  | submit t =>
    obtain ⟨s, q, -, hp⟩ := step?_submit hs
    exact ⟨by rw [hp], rfl⟩
  | start => exact ⟨(step?_start hs).debouncer_eq, rfl⟩
  | flush => contradiction
  | fold => contradiction
  | endCoalescing => contradiction
  | serve =>
    obtain ⟨r, -, -, hd, -⟩ := step?_serve hs
    exact ⟨hd, rfl⟩
  | signal s => exact ⟨(step?_signal hs).debouncer_eq, rfl⟩
  | leave => exact ⟨(step?_leave hs).debouncer_eq, rfl⟩
  | observe index => exact ⟨(step?_observe hs).debouncer_eq, rfl⟩
  | drained => exact ⟨(step?_drained hs).debouncer_eq, rfl⟩
  | closeQueue | closeSlot =>
    obtain rfl := Option.some.inj hs
    exact ⟨rfl, rfl⟩
  | abandon => exact ⟨(step?_abandon hs).debouncer_eq, rfl⟩

theorem Clocked.step (hi : 0 < interval) (h : p.Clocked interval b now)
    (hs : p.step? now m = some moved) :
    moved.pipeline.Clocked interval (p.book now b m) now := by
  by_cases hflush : m = .flush
  · subst m
    exact h.flush hs
  by_cases hfold : m = .fold
  · subst m
    exact h.fold hi hs
  by_cases hend : m = .endCoalescing
  · subst m
    obtain ⟨-, hp⟩ := step?_endCoalescing hs
    rw [hp]
    exact ⟨h.interval_eq, h.apart, h.sound, h.past, nofun⟩
  obtain ⟨hd, hb⟩ := step?_debouncer (b := b) hflush hfold hend hs
  rw [hb]
  exact h.same hd

theorem Clocked.run (hi : 0 < interval) (h : p.Clocked interval b now) (moves : List (Time × Move))
    (hn : ∀ m ∈ moves, now ≤ m.1) (hm : moves.Pairwise (·.1 ≤ ·.1)) :
    ∃ last, (p.run moves).Clocked interval (p.windows b moves) last := by
  induction moves generalizing p b now with
  | nil => exact ⟨now, h⟩
  | cons head rest ih =>
    obtain ⟨time, m⟩ := head
    obtain ⟨hlater, hrest⟩ := List.pairwise_cons.mp hm
    have hwait : p.Clocked interval b time := h.wait (hn (time, m) List.mem_cons_self)
    simp only [Pipeline.run, windows]
    cases hs : p.step? time m with
    | none => exact ih hwait hlater hrest
    | some moved => exact ih (hwait.step hi hs) hlater hrest

/-- Every window of a run closes with a step at its time, which offers its request to the slot. -/
theorem windows_offered (p : Pipeline) (b : WindowBook) (moves : List (Time × Move)) :
    ∃ more, (p.windows b moves).closed = b.closed ++ more ∧
      ∀ c ∈ more, ∃ before after moved, moves = before ++ (c.time, .flush) :: after ∧
        (p.run before).step? c.time .flush = some moved ∧
        moved.pipeline.loop.slot = ((p.run before).loop.slot.offer c.request).2 := by
  induction moves generalizing p b with
  | nil => exact ⟨[], (List.append_nil _).symm, nofun⟩
  | cons head rest ih =>
    obtain ⟨time, m⟩ := head
    simp only [windows]
    cases hs : p.step? time m with
    | none =>
      obtain ⟨more, hclosed, hmore⟩ := ih p b
      refine ⟨more, hclosed, fun c hc => ?_⟩
      obtain ⟨before, after, moved, rfl, hstep, hslot⟩ := hmore c hc
      have hrun : p.run ((time, m) :: before) = p.run before := by simp only [Pipeline.run, hs]
      exact ⟨(time, m) :: before, after, moved, rfl, hrun ▸ hstep, hrun ▸ hslot⟩
    | some next =>
      obtain ⟨more, hclosed, hmore⟩ := ih next.pipeline (p.book time b m)
      have hrun (before : List (Time × Move)) :
          p.run ((time, m) :: before) = next.pipeline.run before := by
        simp only [Pipeline.run, hs]
      have hlater : ∀ c ∈ more, ∃ before after moved,
          (time, m) :: rest = before ++ (c.time, .flush) :: after ∧
            (p.run before).step? c.time .flush = some moved ∧
            moved.pipeline.loop.slot = ((p.run before).loop.slot.offer c.request).2 := by
        intro c hc
        obtain ⟨before, after, moved, rfl, hstep, hslot⟩ := hmore c hc
        refine ⟨(time, m) :: before, after, moved, rfl, ?_, ?_⟩
        · rw [hrun]
          exact hstep
        · rw [hrun]
          exact hslot
      by_cases hflush : m = .flush
      · subst m
        obtain ⟨c, hbook, htime, -, hslot⟩ := step?_flush_offers (b := b) hs
        refine ⟨c :: more, by rw [hclosed, hbook]; simp, ?_⟩
        intro c' hc'
        rcases List.mem_cons.mp hc' with rfl | hc'
        · exact ⟨[], rest, next, by rw [htime]; rfl, htime ▸ hs, hslot⟩
        · exact hlater c' hc'
      · refine ⟨more, ?_, hlater⟩
        rw [hclosed, book_closed_of_ne hflush]

private theorem windows_closed (p : Pipeline) (b : WindowBook) (moves : List (Time × Move)) :
    b.closed <+: (p.windows b moves).closed := by
  obtain ⟨more, hclosed, -⟩ := p.windows_offered b moves
  exact ⟨more, hclosed.symm⟩

private theorem windows_append (p : Pipeline) (b : WindowBook)
    (before after : List (Time × Move)) :
    p.windows b (before ++ after) = (p.run before).windows (p.windows b before) after := by
  induction before generalizing p b with
  | nil => rfl
  | cons head rest ih =>
    obtain ⟨time, m⟩ := head
    simp only [List.cons_append, windows, Pipeline.run]
    cases hs : p.step? time m with
    | none => exact ih p b
    | some moved => exact ih moved.pipeline _

private theorem windows_of_ended (h : p.Paired) (he : p.coalescing = .ended)
    (moves : List (Time × Move)) :
    (p.windows b moves).closed = b.closed := by
  induction moves generalizing p b with
  | nil => rfl
  | cons head rest ih =>
    obtain ⟨time, m⟩ := head
    simp only [windows]
    cases hs : p.step? time m with
    | none => exact ih h he
    | some moved =>
      have hclosed : (p.book time b m).closed = b.closed :=
        book_closed_of_ne fun hm => by simp [hm, step?, canCoalesce, he] at hs
      rw [ih (h.step hs) (h.coalescing_ended he hs), hclosed]

private theorem handOff_requestsCoalesced (p : Pipeline) (r : Request) (events : List Event) :
    (p.handOff r events).pipeline.tally.requestsCoalesced = p.tally.requestsCoalesced := by
  unfold handOff
  dsimp only
  split <;> rfl

theorem step?_requestsCoalesced (hf : p.loop.dispatcher.Fits) (hs : p.step? now m = some moved) :
    moved.pipeline.tally.requestsCoalesced + b.closed.length =
      p.tally.requestsCoalesced + (p.book now b m).closed.length := by
  have hturned {s : Signal} (ht : p.Turned now s moved) :
      moved.pipeline.tally.requestsCoalesced = p.tally.requestsCoalesced := by
    rw [ht.tally]
    exact ((ht.goes hf).counts ht.awaits p.tally).2.1
  cases m with
  | flush =>
    obtain ⟨w, hw, hd, rfl⟩ := step?_flush_eq hs
    rw [handOff_requestsCoalesced, book_flush hw hd]
    simp only [count, Tally.record, List.length_append, List.length_singleton]
    omega
  | fold =>
    have hm : Move.fold ≠ .flush := by simp
    rw [book_closed_of_ne hm]
    obtain ⟨-, t, queue, -, ⟨-, rfl⟩ | ⟨-, -, rfl⟩ | ⟨-, w, -, rfl⟩⟩ := step?_fold_eq hs
    · rw [handOff_requestsCoalesced]
      rfl
    · rfl
    · rfl
  | serve =>
    obtain ⟨r, -, -, ht⟩ := step?_serve_turned hs
    rw [hturned ht]
    rfl
  | signal s =>
    rw [hturned (step?_signal_turned hs).2.2]
    rfl
  | leave =>
    obtain ⟨-, ⟨-, -, -, -, ht⟩ | ⟨-, -, -, htally, -⟩⟩ := step?_leave_turned hs
    · rw [hturned ht]
      rfl
    · rw [htally]
      rfl
  | submit t =>
    obtain ⟨s, q, -, hp⟩ := step?_submit hs
    rw [hp]
    rfl
  | observe index =>
    obtain ⟨observers, -, rfl⟩ := Option.map_eq_some_iff.mp hs
    rfl
  | start | endCoalescing | drained | abandon =>
    simp only [step?, Option.ite_none_right_eq_some] at hs
    obtain rfl := Option.some.inj hs.2
    rfl
  | closeQueue | closeSlot =>
    obtain rfl := Option.some.inj hs
    rfl

private theorem length_windows (hf : p.loop.dispatcher.Fits) (moves : List (Time × Move)) :
    (p.run moves).tally.requestsCoalesced + b.closed.length =
      p.tally.requestsCoalesced + (p.windows b moves).closed.length := by
  induction moves generalizing p b with
  | nil => rfl
  | cons head rest ih =>
    obtain ⟨time, m⟩ := head
    simp only [Pipeline.run, windows]
    cases hs : p.step? time m with
    | none => exact ih hf
    | some moved =>
      have hone := step?_requestsCoalesced (b := b) hf hs
      have hrest := ih (b := p.book time b m) (fits_step hf hs)
      simp only
      omega

/-- Once its end has come, a window closes with the entries that it has, before any other one. -/
theorem windows_of_due (h : p.Paired) (hd : p.debouncer.isDue now) (moves : List (Time × Move))
    (hn : ∀ m ∈ moves, now ≤ m.1) :
    ∃ more, (p.windows b moves).closed = b.closed ++ more ∧
      ∀ w ∈ more.head?, w.entries = b.entries := by
  induction moves generalizing p b with
  | nil => exact ⟨[], (List.append_nil _).symm, nofun⟩
  | cons head rest ih =>
    obtain ⟨time, m⟩ := head
    have htime : now ≤ time := hn (time, m) List.mem_cons_self
    have hlater := fun m hm => hn m (List.mem_cons_of_mem _ hm)
    have hdue : p.debouncer.isDue time := by
      cases hw : p.debouncer.window with
      | none => simp [Debouncer.isDue, Debouncer.deadline, hw] at hd
      | some w =>
        have hle : w.deadline ≤ now := by simpa [Debouncer.isDue, Debouncer.deadline, hw] using hd
        simpa [Debouncer.isDue, Debouncer.deadline, hw] using Nat.le_trans hle htime
    simp only [windows]
    cases hs : p.step? time m with
    | none => exact ih h hd hlater
    | some moved =>
      by_cases hflush : m = .flush
      · subst m
        obtain ⟨w, hw, hdeadline, -⟩ := step?_flush_eq hs
        obtain ⟨more, hmore⟩ := windows_closed moved.pipeline (p.book time b .flush) rest
        have hclosed := congrArg WindowBook.closed (book_flush (b := b) hw hdeadline)
        rw [hclosed, List.append_assoc] at hmore
        exact ⟨_, hmore.symm, fun c hc => (Option.some.inj hc) ▸ rfl⟩
      by_cases hfold : m = .fold
      · subst m
        rw [(step?_fold_eq hs).1] at hdue
        cases hdue
      by_cases hend : m = .endCoalescing
      · subst m
        have hended : moved.pipeline.coalescing = .ended := (step?_frame hs).coalescing
        refine ⟨[], ?_, nofun⟩
        rw [windows_of_ended (h.step hs) hended, List.append_nil]
        rfl
      obtain ⟨hsame, hb⟩ := step?_debouncer (b := b) hflush hfold hend hs
      rw [hb]
      exact ih (h.step hs) (hsame ▸ hd) hlater

end

/-- Of times that are some interval apart, only so many fall into one span. -/
theorem countP_span_le {times : List Nat} {interval : Nat} (hi : 0 < interval)
    (h : times.Pairwise (· + interval ≤ ·)) (first span : Nat) :
    times.countP (fun t => first ≤ t ∧ t ≤ first + span) ≤ span / interval + 1 := by
  induction times generalizing first span with
  | nil => exact Nat.zero_le _
  | cons a rest ih =>
    obtain ⟨hlater, hrest⟩ := List.pairwise_cons.mp h
    by_cases ha : first ≤ a ∧ a ≤ first + span
    · rw [List.countP_cons_of_pos (by simpa using ha)]
      by_cases hs : span < interval
      · have hnone : rest.countP (fun t => first ≤ t ∧ t ≤ first + span) = 0 := by
          refine List.countP_eq_zero.mpr fun t ht => ?_
          have hle := hlater t ht
          simp only [decide_eq_true_iff]
          omega
        rw [hnone]
        exact Nat.le_add_left 1 _
      · have hshift : rest.countP (fun t => first ≤ t ∧ t ≤ first + span) ≤
            rest.countP (fun t => first + interval ≤ t ∧
              t ≤ first + interval + (span - interval)) := by
          refine List.countP_mono_left fun t ht => ?_
          have hle := hlater t ht
          simp only [decide_eq_true_iff]
          omega
        have hdiv : span / interval = (span - interval) / interval + 1 :=
          Nat.div_eq_sub_div hi (Nat.le_of_not_lt hs)
        have hcount := ih hrest (first + interval) (span - interval)
        omega
    · rw [List.countP_cons_of_neg (by simpa using ha)]
      exact ih hrest first span

/-- However triggers come, stops among them, and however the steps are made on a clock that never
goes back: windows close at least the quiet period apart, so only so many of them close in any span
of time; each closes at its deadline or later, with triggers that were folded into it before the
deadline of their time; and once the deadline has come no trigger joins the window. A step reads the
clock once, so a window is looked at and a trigger is folded at one and the same time. -/
theorem windows_apart (c : Config) (observers : Observers)
    (hc : 0 < c.coordinator.debounceIntervalMs)
    (moves : List (Time × Move)) (hm : moves.Pairwise (·.1 ≤ ·.1)) :
    let interval := c.coordinator.debounceIntervalMs
    let closed := ((fresh c observers).windows {} moves).closed
    closed.length = ((fresh c observers).run moves).tally.requestsCoalesced ∧
      closed.Pairwise (fun a b => a.time + interval ≤ b.time) ∧
      (∀ first span, (closed.map (·.time)).countP (fun t => first ≤ t ∧ t ≤ first + span) ≤
        span / interval + 1) ∧
      (∀ w ∈ closed, w.Sound interval) ∧
      ∀ before after now, moves = before ++ after →
        ((fresh c observers).run before).debouncer.isDue now → (∀ m ∈ after, now ≤ m.1) →
        let b := (fresh c observers).windows {} before
        ∃ more, closed = b.closed ++ more ∧ ∀ w ∈ more.head?, w.entries = b.entries := by
  intro interval closed
  obtain ⟨last, h⟩ := (clocked_fresh c observers).run hc moves (fun _ _ => Nat.zero_le _) hm
  have hlength := length_windows (b := {}) (fits_fresh c observers) moves
  have hzero : (fresh c observers).tally.requestsCoalesced = 0 := rfl
  rw [hzero, Nat.zero_add] at hlength
  refine ⟨hlength.symm, h.apart, countP_span_le hc (List.pairwise_map.mpr h.apart), h.sound, ?_⟩
  rintro before after now rfl hdue hn b
  obtain ⟨more, hmore, hhead⟩ :=
    windows_of_due (b := b) ((paired_fresh c observers).run before) hdue after hn
  refine ⟨more, ?_, hhead⟩
  rw [← hmore]
  exact congrArg WindowBook.closed (windows_append (fresh c observers) {} before after)

/-- A user trigger moves the end of the first window; a stop cuts the second one off; the third one
closes late, without the trigger that comes when its end has come. -/
theorem windows_apart_of_three :
    let t (r : PlainReason) (now : Time) : Time × Move :=
      (now, .submit (.ofReason (.plain r) "ui" now))
    let c : Config := {}
    let before := [(0, .start), t .ruleChanged 0, (0, .fold), t .ui 300, (300, .fold),
      (800, .flush), t .ui 800, (800, .fold), t .switchOff 900, (900, .fold), t .ui 900,
      (900, .fold), t .ui 1000, (1000, .fold)]
    let after := [t .ui 1500, (1500, .fold), (1600, .flush)]
    let b := (fresh c [.new .log]).windows {} before
    let closed := ((fresh c [.new .log]).windows {} (before ++ after)).closed
    closed.map (fun w => (w.time, w.deadline, w.entries.length)) = [(800, 800, 2), (1600, 1500, 2)] ∧
      closed.Pairwise (fun a b => a.time + 500 ≤ b.time) ∧
      (closed.map (·.time)).countP (fun t => 700 ≤ t ∧ t ≤ 700 + 900) ≤ 900 / 500 + 1 ∧
      (∀ w ∈ closed, w.Sound 500) ∧
      ∃ more, closed = b.closed ++ more ∧ ∀ w ∈ more.head?, w.entries = b.entries := by
  intro t c before after b closed
  obtain ⟨-, hapart, hspan, hsound, hdue⟩ :=
    windows_apart c [.new .log] (by decide) (before ++ after) (by decide)
  exact ⟨by decide, hapart, hspan 700 900, hsound, hdue before after 1500 rfl (by decide) (by decide)⟩

end Pipeline
end RestartCoordinator
