import RestartCoordinator.Proofs.Dispatcher.Indifference
import RestartCoordinator.Proofs.DispatchLoop.Courses
/-!
# Courses that are the same when bare

Two courses are the same when nothing but the reasons, the identifiers and the commands that stand
in their reports tells them apart. What a course does next leaves them the same, as long as the slots
tell the two dispatchers the same.
-/
namespace RestartCoordinator

def Event.bare : Event → Event
  | .attempted e => .attempted e.bare
  | e => e

@[simp] theorem Effect.call?_bare (e : Effect) : e.bare.call? = e.call? := by
  cases e <;> rfl

@[simp] theorem Effect.occurrence?_bare (e : Effect) : e.bare.occurrence? = e.occurrence? := by
  cases e <;> rfl

@[simp] theorem Effect.event?_bare (e : Effect) : e.bare.event? = e.event?.map Event.bare := by
  cases e <;> rfl

namespace PendingSlot

/-- The slots tell the dispatcher the same. -/
structure Agrees (s s' : PendingSlot) : Prop where
  closed : s.closed = s'.closed
  hasStop : s.hasStop = s'.hasStop

theorem Agrees.refl (s : PendingSlot) : s.Agrees s := ⟨rfl, rfl⟩

theorem Agrees.symm {s s' : PendingSlot} (h : s.Agrees s') : s'.Agrees s :=
  ⟨h.closed.symm, h.hasStop.symm⟩

private theorem Agrees.wantsStop {s s' : PendingSlot} (h : s.Agrees s') :
    s.wantsStop = s'.wantsStop := by
  unfold PendingSlot.wantsStop
  rw [h.closed, h.hasStop]

end PendingSlot

namespace DispatchLoop

def bare (l : DispatchLoop) : DispatchLoop := { l with dispatcher := l.dispatcher.bare }

/-- A loop that has moved, and what it did, both bare. -/
def bareMoved (moved : DispatchLoop × List Effect) : DispatchLoop × List Effect :=
  (moved.1.bare, moved.2.map Effect.bare)

private theorem turn_bare (l : DispatchLoop) (now : Time) (s : Signal) :
    bareMoved (l.turn now s) = l.bare.turn now s.bare := by
  have h : l.bare.dispatcher.turn now s.bare = (l.dispatcher.turn now s).bare :=
    (l.dispatcher.turn_bare now s).symm
  unfold turn
  rw [h]
  rfl

private theorem signal?_bare (l : DispatchLoop) (now : Time) (s : Signal) :
    (l.signal? now s).map bareMoved = l.bare.signal? now s.bare := by
  have ht : l.bare.dispatcher.task = l.dispatcher.task.bare := rfl
  have hw : l.bare.slot = l.slot := rfl
  unfold signal?
  rw [ht, hw, ← turn_bare]
  cases l.dispatcher.task with
  | idle => cases s <;> rfl
  | calling a c => cases c <;> cases s <;> rfl
  | waiting a delay =>
    cases s with
    | stopWanted =>
      simp only [Task.bare, Signal.bare]
      split <;> rfl
    | _ => rfl

end DispatchLoop

namespace Course

variable {c c' u : Course} {s : Conduct} {now : Time}

def bare (c : Course) : Course :=
  { c with loop := c.loop.bare, told := c.told.map (Prod.map id Effect.bare) }

/-- What was counted in the course, added up. -/
def tally (c : Course) : Tally :=
  (c.told.filterMap fun e => e.2.occurrence?).foldl Tally.record .zero

private theorem calls_bare (c : Course) : c.bare.calls = c.calls := by
  simp only [calls, bare, List.filterMap_map]
  congr
  funext e
  simp

private theorem tally_bare (c : Course) : c.bare.tally = c.tally := by
  simp only [tally, bare, List.filterMap_map]
  congr
  funext e
  simp

private theorem events_bare (c : Course) :
    c.bare.events = c.events.map (Prod.map id Event.bare) := by
  simp only [events, bare, List.filterMap_map, List.map_filterMap]
  congr
  funext e
  cases h : e.2.event? <;> simp [h]

private theorem after_bare (c : Course) (now : Time)
    (moved : Option (DispatchLoop × List Effect)) :
    (c.after now moved).bare = c.bare.after now (moved.map DispatchLoop.bareMoved) := by
  cases moved with
  | none => rfl
  | some moved => simp [after, bare, DispatchLoop.bareMoved, Function.comp_def]

private theorem due?_bare (c : Course) (s : Conduct) : c.bare.due? s = c.due? s := by
  have ht : c.bare.loop.dispatcher.task = c.loop.dispatcher.task.bare := rfl
  unfold due?
  rw [ht, calls_bare]
  cases c.loop.dispatcher.task with
  | idle => rfl
  | calling a call => cases call <;> rfl
  | waiting a delay => rfl

private theorem onward_bare (c : Course) (s : Conduct) : (c.onward s).bare = c.bare.onward s := by
  unfold onward
  rw [due?_bare]
  cases hd : c.due? s with
  | none => rfl
  | some due =>
    obtain ⟨time, signal⟩ := due
    have hs : signal.bare = signal := by
      have hw := (awaits_due hd).1
      have ht := (awaits_due hd).2.1
      cases signal with
      | request r => simp [Dispatcher.awaits] at hw; simp_all
      | _ => rfl
    have hsignal := c.loop.signal?_bare time signal
    rw [hs] at hsignal
    change (c.after time (c.loop.signal? time signal)).bare = _
    rw [after_bare, hsignal]
    rfl

private theorem cut_bare (c : Course) (now : Time) : (c.cut now).bare = c.bare.cut now := by
  unfold cut
  rw [after_bare, DispatchLoop.signal?_bare]
  rfl

private theorem look_bare (c : Course) (now : Time) : (c.look now).bare = c.bare.look now := by
  have ht : c.bare.loop.dispatcher.task = c.loop.dispatcher.task.bare := rfl
  have hs : c.bare.since = c.since := rfl
  unfold look
  rw [ht, hs, ← cut_bare]
  cases c.loop.dispatcher.task with
  | idle | calling => rfl
  | waiting a delay =>
    simp only [Task.bare]
    split <;> rfl

private theorem wake_bare (c : Course) (s : Conduct) (stopFirst : Bool) :
    (c.wake s stopFirst).bare = c.bare.wake s stopFirst := by
  have hwake (c : Course) : ((c.onward s).look (c.onward s).since).bare =
      (c.bare.onward s).look (c.bare.onward s).since := by
    rw [look_bare, ← onward_bare]
    rfl
  unfold wake
  cases stopFirst with
  | true =>
    have h := hwake (c.cut c.since)
    rw [cut_bare] at h
    exact h
  | false => exact hwake c

/-! ## Courses that are alike -/

private theorem Alike.turn (h : c.Alike u) {l l' : DispatchLoop} (hd : l.dispatcher = l'.dispatcher)
    (now : Time) (signal : Signal) :
    (c.after now (some (l.turn now signal))).Alike (u.after now (some (l'.turn now signal))) := by
  constructor
  · change (l.dispatcher.turn now signal).1 = (l'.dispatcher.turn now signal).1
    rw [hd]
  · rfl
  · change c.told ++ (l.dispatcher.turn now signal).2.map _ =
      u.told ++ (l'.dispatcher.turn now signal).2.map _
    rw [hd, h.told]

private theorem Alike.cut (h : c.Alike u) (hw : c.loop.slot.wantsStop = u.loop.slot.wantsStop)
    (now : Time) : (c.cut now).Alike (u.cut now) := by
  unfold Course.cut DispatchLoop.signal?
  rw [h.dispatcher, hw]
  cases u.loop.dispatcher.task with
  | idle => exact h
  | calling a call => cases call <;> exact h
  | waiting a delay =>
    cases u.loop.slot.wantsStop with
    | false => exact h
    | true => exact h.turn h.dispatcher now .stopWanted

private theorem Alike.look (h : c.Alike u) (hw : c.loop.slot.wantsStop = u.loop.slot.wantsStop)
    (now : Time) : (c.look now).Alike (u.look now) := by
  unfold Course.look
  rw [h.dispatcher, h.since]
  cases u.loop.dispatcher.task with
  | idle | calling => exact h
  | waiting a delay =>
    dsimp only
    split
    · exact h.cut hw now
    · exact h

/-- The loop is where it was, but for the dispatcher. -/
structure Framed (c c' : Course) : Prop where
  slot : c'.loop.slot = c.loop.slot
  stage : c'.loop.stage = c.loop.stage
  stopAtEnd : c'.loop.stopAtEnd = c.loop.stopAtEnd

theorem Framed.refl (c : Course) : c.Framed c := ⟨rfl, rfl, rfl⟩

theorem Framed.trans {c'' : Course} (h : c.Framed c') (h' : c'.Framed c'') : c.Framed c'' :=
  ⟨h'.slot.trans h.slot, h'.stage.trans h.stage, h'.stopAtEnd.trans h.stopAtEnd⟩

private theorem framed_signal (c : Course) (now : Time) (signal : Signal) :
    c.Framed (c.after now (c.loop.signal? now signal)) := by
  cases hs : c.loop.signal? now signal with
  | none => exact .refl c
  | some moved =>
    obtain ⟨l, effects⟩ := moved
    obtain ⟨rfl, -⟩ := Prod.mk.inj (DispatchLoop.signal?_turn hs)
    exact ⟨rfl, rfl, rfl⟩

private theorem framed_cut (c : Course) (now : Time) : c.Framed (c.cut now) :=
  c.framed_signal now .stopWanted

private theorem framed_onward (c : Course) (s : Conduct) : c.Framed (c.onward s) := by
  unfold onward
  cases c.due? s with
  | none => exact .refl c
  | some due => exact c.framed_signal due.1 due.2

theorem framed_look (c : Course) (now : Time) : c.Framed (c.look now) := by
  rcases look_cases c now with h | h <;> rw [h]
  · exact .refl c
  · exact c.framed_cut now

theorem framed_wake (c : Course) (s : Conduct) (stopFirst : Bool) :
    c.Framed (c.wake s stopFirst) := by
  have hwake (c : Course) : c.Framed ((c.onward s).look (c.onward s).since) :=
    (c.framed_onward s).trans ((c.onward s).framed_look _)
  cases stopFirst with
  | true => exact (c.framed_cut c.since).trans (hwake (c.cut c.since))
  | false => exact hwake c

private theorem Alike.wake (h : c.Alike u) (hw : c.loop.slot.wantsStop = u.loop.slot.wantsStop)
    (stopFirst : Bool) : (c.wake s stopFirst).Alike (u.wake s stopFirst) := by
  have hwake {c u : Course} (h : c.Alike u) (hw : c.loop.slot.wantsStop = u.loop.slot.wantsStop) :
      ((c.onward s).look (c.onward s).since).Alike ((u.onward s).look (u.onward s).since) := by
    rw [h.onward.since]
    apply h.onward.look
    rw [(c.framed_onward s).slot, (u.framed_onward s).slot, hw]
  cases stopFirst with
  | true =>
    have hcut := h.cut hw c.since
    rw [h.since] at hcut
    have hw' : (c.cut u.since).loop.slot.wantsStop = (u.cut u.since).loop.slot.wantsStop := by
      rw [(c.framed_cut u.since).slot, (u.framed_cut u.since).slot, hw]
    have hgo := hwake hcut hw'
    rw [← h.since] at hgo
    simp only [Course.wake, if_true]
    rw [← h.since]
    exact hgo
  | false => exact hwake h hw

/-- The courses are the same when bare, whatever waits in the slots. -/
structure Same (c c' : Course) : Prop where
  alike : c.bare.Alike c'.bare
  stage : c.loop.stage = c'.loop.stage
  stopAtEnd : c.loop.stopAtEnd = c'.loop.stopAtEnd

namespace Same

theorem dispatcher (h : c.Same c') : c.loop.dispatcher.bare = c'.loop.dispatcher.bare :=
  h.alike.dispatcher

theorem state (h : c.Same c') : c.loop.dispatcher.state = c'.loop.dispatcher.state :=
  show c.loop.dispatcher.bare.state = c'.loop.dispatcher.bare.state by rw [h.dispatcher]

theorem handle (h : c.Same c') : c.loop.dispatcher.handle = c'.loop.dispatcher.handle :=
  show c.loop.dispatcher.bare.handle = c'.loop.dispatcher.bare.handle by rw [h.dispatcher]

theorem isIdle (h : c.Same c') : c.loop.dispatcher.isIdle = c'.loop.dispatcher.isIdle := by
  have hb (d : Dispatcher) : d.bare.isIdle = d.isIdle := by
    have ht : d.bare.task = d.task.bare := rfl
    unfold Dispatcher.isIdle
    rw [ht]
    cases d.task <;> simp [Task.bare]
  rw [← hb, h.dispatcher, hb]

theorem isDown (h : c.Same c') : c.loop.dispatcher.isDown = c'.loop.dispatcher.isDown := by
  unfold Dispatcher.isDown
  rw [h.state, h.handle]

theorem calls (h : c.Same c') : c.calls = c'.calls := by
  rw [← calls_bare, ← c'.calls_bare]
  unfold Course.calls
  rw [h.alike.told]

theorem tally (h : c.Same c') : c.tally = c'.tally := by
  rw [← tally_bare, ← c'.tally_bare]
  unfold Course.tally
  rw [h.alike.told]

theorem events (h : c.Same c') :
    c.events.map (Prod.map id Event.bare) = c'.events.map (Prod.map id Event.bare) := by
  rw [← events_bare, ← events_bare]
  unfold Course.events
  rw [h.alike.told]

theorem look (h : c.Same c') (hs : c.loop.slot.Agrees c'.loop.slot) (now : Time) :
    (c.look now).Same (c'.look now) := by
  constructor
  · rw [look_bare, look_bare]
    exact h.alike.look hs.wantsStop now
  · rw [(c.framed_look now).stage, (c'.framed_look now).stage, h.stage]
  · rw [(c.framed_look now).stopAtEnd, (c'.framed_look now).stopAtEnd, h.stopAtEnd]

theorem wake (h : c.Same c') (hs : c.loop.slot.Agrees c'.loop.slot) (stopFirst : Bool) :
    (c.wake s stopFirst).Same (c'.wake s stopFirst) := by
  constructor
  · rw [wake_bare, wake_bare]
    exact h.alike.wake hs.wantsStop stopFirst
  · rw [(c.framed_wake s stopFirst).stage, (c'.framed_wake s stopFirst).stage, h.stage]
  · rw [(c.framed_wake s stopFirst).stopAtEnd, (c'.framed_wake s stopFirst).stopAtEnd,
      h.stopAtEnd]

theorem turn (h : c.Same c') (l l' : DispatchLoop) {signal signal' : Signal}
    (hd : l.bare.dispatcher = l'.bare.dispatcher) (hst : l.stage = l'.stage)
    (hsa : l.stopAtEnd = l'.stopAtEnd) (hs : signal.bare = signal'.bare) (now : Time) :
    (c.after now (some (l.turn now signal))).Same
      (c'.after now (some (l'.turn now signal'))) := by
  constructor
  · rw [after_bare, after_bare, Option.map_some, Option.map_some, DispatchLoop.turn_bare,
      DispatchLoop.turn_bare, hs]
    exact h.alike.turn hd now signal'.bare
  · exact hst
  · exact hsa

theorem toStage (h : c.Same c') (stage : LoopStage) (now : Time) :
    (c.after now (some ({ c.loop with stage }, []))).Same
      (c'.after now (some ({ c'.loop with stage }, []))) := by
  constructor
  · constructor
    · exact h.dispatcher
    · rfl
    · simpa [after, Course.bare] using h.alike.told
  · rfl
  · exact h.stopAtEnd

theorem withSlots (h : c.Same c') (p p' : PendingSlot) :
    Same { c with loop := { c.loop with slot := p } }
      { c' with loop := { c'.loop with slot := p' } } :=
  ⟨⟨h.alike.dispatcher, h.alike.since, h.alike.told⟩, h.stage, h.stopAtEnd⟩

theorem step (h : c.Same c') (hs : c.loop.slot = c'.loop.slot) (o : Occasion) :
    (c.step s o).Same (c'.step s o) ∧ (c.step s o).loop.slot = (c'.step s o).loop.slot := by
  have ha : c.loop.slot.Agrees c'.loop.slot := hs ▸ .refl _
  cases o with
  | offer r =>
    refine ⟨h.withSlots _ _, ?_⟩
    change (c.loop.slot.offer r).2 = (c'.loop.slot.offer r).2
    rw [hs]
  | close =>
    refine ⟨h.withSlots _ _, ?_⟩
    change c.loop.slot.close.2 = c'.loop.slot.close.2
    rw [hs]
  | look now =>
    refine ⟨h.look ha now, ?_⟩
    change (c.look now).loop.slot = (c'.look now).loop.slot
    rw [(c.framed_look now).slot, (c'.framed_look now).slot, hs]
  | wake stopFirst =>
    refine ⟨h.wake ha stopFirst, ?_⟩
    change (c.wake s stopFirst).loop.slot = (c'.wake s stopFirst).loop.slot
    rw [(c.framed_wake s stopFirst).slot, (c'.framed_wake s stopFirst).slot, hs]

private theorem follow (h : c.Same c') (hs : c.loop.slot = c'.loop.slot)
    (occasions : List Occasion) :
    (c.follow s occasions).Same (c'.follow s occasions) ∧
      (c.follow s occasions).loop.slot = (c'.follow s occasions).loop.slot := by
  induction occasions generalizing c c' with
  | nil => exact ⟨h, hs⟩
  | cons o rest ih =>
    obtain ⟨hstep, hslot⟩ := h.step (s := s) hs o
    exact ih hstep hslot

end Same

private theorem same_begin (l : DispatchLoop) {r r' : Request} (hr : r.isStop = r'.isStop)
    (now : Time) :
    (begin l r now).Same (begin l r' now) := by
  have h₀ : Same ⟨l, now, []⟩ ⟨l, now, []⟩ := ⟨.refl _, rfl, rfl⟩
  have hb : (Signal.request r).bare = (Signal.request r').bare :=
    congrArg Signal.request (Request.bare_eq_iff.mpr hr)
  exact h₀.turn l l rfl rfl rfl hb now

/-- Dispatches of two requests that both stop, or both do not, are the same. -/
theorem same_dispatch (s : Conduct) (l : DispatchLoop) {r r' : Request}
    (hr : r.isStop = r'.isStop) (now : Time) (beside : List Occasion) :
    (dispatch s l r now beside).Same (dispatch s l r' now beside) := by
  have hslot : (begin l r now).loop.slot = (begin l r' now).loop.slot := rfl
  obtain ⟨hbeside, hslot⟩ := (same_begin l hr now).follow (s := s) hslot beside
  exact (hbeside.follow hslot _).1

end Course
end RestartCoordinator
