import RestartCoordinator.Proofs.DispatchLoop.Indifference
import RestartCoordinator.Proofs.PendingSlot.Histories
/-!
# Runs whose requests differ

Two dispatchers of the same settings drive services of the same conduct. Their slots are used in
any two ways that tell the same at the same times, and the requests that they take up stop, or do not
stop, in the same places. Then both runs are the same up to what stands in the reports: the rest of
a request, a start instead of a reload included, changes nothing.
-/
namespace RestartCoordinator

/-- What happens in a run of the loop with a service of a given conduct. -/
inductive Happening where
  /-- The slot is used. -/
  | slot (moves : List SlotMove)
  | begin
  /-- A request is served before the loop begins. -/
  | dispatch (r : Request) (now : Time)
  | serve (now : Time)
  | look (now : Time)
  | wake (stopFirst : Bool)
  | leave (id : RequestId) (now : Time)

/-- Both are of one kind and at one time, and what may come first does so in both or in neither. -/
inductive Happening.Like : Happening → Happening → Prop
  | slot (moves moves' : List SlotMove) : Like (.slot moves) (.slot moves')
  | begin : Like .begin .begin
  | dispatch (r r' : Request) (now : Time) : Like (.dispatch r now) (.dispatch r' now)
  | serve (now : Time) : Like (.serve now) (.serve now)
  | look (now : Time) : Like (.look now) (.look now)
  | wake (stopFirst : Bool) : Like (.wake stopFirst) (.wake stopFirst)
  | leave (id id' : RequestId) (now : Time) : Like (.leave id now) (.leave id' now)

namespace PendingSlot

/-- Nothing but a stop waits in a slot that is closed. -/
def Sifted (s : PendingSlot) : Prop := s.closed → s.hasStop = false → s.pending = none

theorem Sifted.step {s : PendingSlot} (h : s.Sifted) (m : SlotMove) : (s.step m).1.Sifted := by
  have same {s' : PendingSlot} (hc : s'.closed = s.closed) (hp : s'.pending = s.pending) :
      s'.Sifted := by
    intro hc' hs
    unfold hasStop at hs
    rw [hp] at hs ⊢
    exact h (hc ▸ hc') hs
  cases m with
  | offer r =>
    cases hc : s.closed with
    | true =>
      simp only [PendingSlot.step, offer_of_closed hc]
      exact h
    | false =>
      intro hc'
      rw [(step_offer_of_open hc).2.1] at hc'
      cases hc'
  | take => exact fun _ _ => rfl
  | next =>
    obtain ⟨hc, ⟨hp, -⟩ | ⟨r, -, hp, -⟩⟩ := s.step_next
    · exact same hc hp
    · exact fun _ _ => hp
  | dropNext | dropStopRequested => exact same rfl rfl
  | stopRequested => exact same s.step_stopRequested.1 s.step_stopRequested.2
  | close =>
    intro _ hs
    have hp : s.close.2.pending = s.pending.filter (·.isStop) := s.close_eq_filter.2
    change s.close.2.pending = none
    change s.close.2.pending.any (·.isStop) = false at hs
    cases hq : s.close.2.pending with
    | none => rfl
    | some r =>
      rw [hq] at hp hs
      have hr := (Option.filter_eq_some_iff.mp hp.symm).2
      simp [hr] at hs

theorem Sifted.run {s : PendingSlot} (h : s.Sifted) (moves : List SlotMove) :
    (s.run moves).1.Sifted := by
  induction moves generalizing s with
  | nil => exact h
  | cons m rest ih => exact ih (h.step m)

private theorem Agrees.pending_eq_none {s s' : PendingSlot} (h : s.Agrees s') (hs' : s'.Sifted)
    (hc : s.closed) (hp : s.pending = none) : s'.pending = none := by
  have hn : s'.hasStop = false := by
    rw [← h.hasStop, PendingSlot.hasStop, hp]
    rfl
  exact hs' (h.closed ▸ hc) hn

end PendingSlot

namespace Course

variable {c c' : Course} {s : Conduct}

/-! ## Runs -/

/-- The request that the dispatcher takes up from outside. -/
def takes? (c : Course) : Happening → Option Request
  | .dispatch r _ =>
    if c.loop.stage = .unstarted && c.loop.dispatcher.isIdle then some r else none
  | .serve _ =>
    if c.loop.stage = .serving && c.loop.dispatcher.isIdle then c.loop.slot.pending else none
  | _ => none

def move (c : Course) (now : Time) (m : LoopMove) : Course := c.after now (c.loop.step? now m)

def undergo (c : Course) (s : Conduct) : Happening → Course
  | .slot moves => { c with loop := { c.loop with slot := (c.loop.slot.run moves).1 } }
  | .begin => c.move c.since .begin
  | .dispatch r now => c.move now (.dispatch r)
  | .serve now => c.move now .serve
  | .look now => c.look now
  | .wake stopFirst => c.wake s stopFirst
  | .leave id now => c.move now (.leave id)

def live (c : Course) (s : Conduct) (happenings : List Happening) : Course :=
  happenings.foldl (fun c h => c.undergo s h) c

private theorem serve?_eq (l : DispatchLoop) (now : Time) :
    l.serve? now =
      (if l.stage = .serving && l.dispatcher.isIdle then l.slot.pending else none).map
        fun r => DispatchLoop.turn { l with slot := l.slot.take.2 } now (.request r) := by
  unfold DispatchLoop.serve? Dispatcher.isIdle
  cases hst : l.stage <;> cases ht : l.dispatcher.task <;> cases hp : l.slot.pending <;> simp

private theorem leave?_eq (l : DispatchLoop) (id : RequestId) (now : Time) :
    l.leave? id now =
      if l.dispatcher.isIdle then
        if l.stage = .serving && l.slot.closed && l.slot.isEmpty then
          if l.stopAtEnd && !l.dispatcher.isDown then
            some (DispatchLoop.turn { l with stage := .stopping } now
              (.request (Dispatcher.shutdownRequest id now)))
          else some ({ l with stage := .draining }, [])
        else if l.stage = .stopping then some ({ l with stage := .draining }, [])
        else none
      else none := by
  unfold DispatchLoop.leave? Dispatcher.isIdle PendingSlot.isEmpty
  cases hst : l.stage <;> cases ht : l.dispatcher.task <;> cases hp : l.slot.pending <;>
    cases hc : l.slot.closed <;> simp

private theorem Same.of_takes (h : c.Same c') (l l' : DispatchLoop) {now : Time}
    {r r' : Option Request}
    (hr : r.map Request.isStop = r'.map Request.isStop)
    (hd : l.bare.dispatcher = l'.bare.dispatcher) (hst : l.stage = l'.stage)
    (hsa : l.stopAtEnd = l'.stopAtEnd) :
    (c.after now (r.map fun r => l.turn now (.request r))).Same
      (c'.after now (r'.map fun r => l'.turn now (.request r))) := by
  cases r with
  | none =>
    cases r' with
    | none => exact h
    | some r' => cases hr
  | some r =>
    cases r' with
    | none => cases hr
    | some r' =>
      have hb : (Signal.request r).bare = (Signal.request r').bare :=
        congrArg Signal.request (Request.bare_eq_iff.mpr (Option.some.inj hr))
      exact h.turn l l' hd hst hsa hb now

/-- One step of two runs that are the same so far. -/
theorem Same.undergo (h : c.Same c') (hs : c.loop.slot.Agrees c'.loop.slot)
    (hf : c.loop.slot.Sifted) (hf' : c'.loop.slot.Sifted) {x x' : Happening} (hl : x.Like x')
    (ht : (c.takes? x).map Request.isStop = (c'.takes? x').map Request.isStop) :
    (c.undergo s x).Same (c'.undergo s x') := by
  cases hl with
  | slot moves moves' => exact h.withSlots _ _
  | begin =>
    have hsince : c.since = c'.since := h.alike.since
    simp only [Course.undergo, move, DispatchLoop.step?]
    rw [h.stage, h.isIdle, hsince]
    split
    · exact h.toStage .serving c'.since
    · exact h
  | dispatch r r' now =>
    have he (c : Course) (r : Request) : c.undergo s (.dispatch r now) =
        c.after now ((c.takes? (.dispatch r now)).map fun r => c.loop.turn now (.request r)) := by
      simp only [Course.undergo, move, DispatchLoop.step?, takes?]
      split <;> rfl
    rw [he, he]
    exact h.of_takes c.loop c'.loop ht h.dispatcher h.stage h.stopAtEnd
  | serve now =>
    have he (c : Course) : c.undergo s (.serve now) =
        c.after now ((c.takes? (.serve now)).map fun r =>
          DispatchLoop.turn { c.loop with slot := c.loop.slot.take.2 } now (.request r)) := by
      simp only [Course.undergo, move, DispatchLoop.step?, takes?, serve?_eq]
    rw [he, he]
    exact h.of_takes { c.loop with slot := c.loop.slot.take.2 }
      { c'.loop with slot := c'.loop.slot.take.2 } ht h.dispatcher h.stage h.stopAtEnd
  | look now => exact h.look hs now
  | wake stopFirst => exact h.wake hs stopFirst
  | leave id id' now =>
    have hn : (c.loop.slot.closed && c.loop.slot.isEmpty) =
        (c'.loop.slot.closed && c'.loop.slot.isEmpty) := by
      apply Bool.eq_iff_iff.mpr
      simp only [Bool.and_eq_true, PendingSlot.isEmpty, Option.isNone_iff_eq_none]
      constructor
      · rintro ⟨hc, hp⟩
        exact ⟨hs.closed ▸ hc, hs.pending_eq_none hf' hc hp⟩
      · rintro ⟨hc, hp⟩
        exact ⟨hs.closed ▸ hc, hs.symm.pending_eq_none hf hc hp⟩
    have hdown : (c.loop.stopAtEnd && !c.loop.dispatcher.isDown) =
        (c'.loop.stopAtEnd && !c'.loop.dispatcher.isDown) := by
      rw [h.stopAtEnd, h.isDown]
    have hb : (Signal.request (Dispatcher.shutdownRequest id now)).bare =
        (Signal.request (Dispatcher.shutdownRequest id' now)).bare := rfl
    simp only [Course.undergo, move, DispatchLoop.step?, leave?_eq, Bool.and_assoc, hn, hdown,
      h.isIdle, h.stage]
    split
    · split
      · split
        · exact h.turn { c.loop with stage := .stopping } { c'.loop with stage := .stopping }
            h.dispatcher rfl h.stopAtEnd hb now
        · exact h.toStage .draining now
      · split
        · exact h.toStage .draining now
        · exact h
    · exact h

private theorem sifted_undergo (hf : c.loop.slot.Sifted) (s : Conduct) (x : Happening) :
    (c.undergo s x).loop.slot.Sifted := by
  have hmove (now : Time) (m : LoopMove)
      (hm : ∀ l' effects, c.loop.step? now m = some (l', effects) →
        l'.slot = c.loop.slot ∨ l'.slot.pending = none) : (c.move now m).loop.slot.Sifted := by
    unfold move
    cases hs : c.loop.step? now m with
    | none => exact hf
    | some moved =>
      rcases hm moved.1 moved.2 hs with h | h
      · change moved.1.slot.Sifted
        rw [h]
        exact hf
      · exact fun _ _ => h
  cases x with
  | slot moves => exact hf.run moves
  | look now =>
    change (c.look now).loop.slot.Sifted
    rw [(c.framed_look now).slot]
    exact hf
  | wake stopFirst =>
    change (c.wake s stopFirst).loop.slot.Sifted
    rw [(c.framed_wake s stopFirst).slot]
    exact hf
  | begin =>
    apply hmove
    intro l' effects h
    simp only [DispatchLoop.step?, Option.ite_none_right_eq_some, Option.some.injEq,
      Prod.mk.injEq] at h
    exact .inl (h.2.1 ▸ rfl)
  | dispatch r now =>
    apply hmove
    intro l' effects h
    simp only [DispatchLoop.step?, Option.ite_none_right_eq_some, Option.some.injEq] at h
    exact .inl (by rw [← (Prod.mk.inj h.2).1])
  | serve now =>
    apply hmove
    intro l' effects h
    obtain ⟨r, -, -, he⟩ := DispatchLoop.serve?_turn h
    exact .inr (by rw [(Prod.mk.inj he).1]; rfl)
  | leave id now =>
    apply hmove
    intro l' effects h
    obtain ⟨-, ⟨-, he⟩ | ⟨-, he, -⟩⟩ := DispatchLoop.leave?_turn h
    · exact .inl (by rw [(Prod.mk.inj he).1])
    · exact .inl (by rw [he])

/-- Two runs side by side. Happenings are alike, the requests taken up agree in whether they stop,
and the slots tell the same all the time. -/
inductive Abreast (s : Conduct) : Course → List Happening → Course → List Happening → Prop
  | nil (c c' : Course) : Abreast s c [] c' []
  | cons {c c' : Course} {x x' : Happening} {rest rest' : List Happening} (like : x.Like x')
      (takes : (c.takes? x).map Request.isStop = (c'.takes? x').map Request.isStop)
      (agrees : (c.undergo s x).loop.slot.Agrees (c'.undergo s x').loop.slot)
      (further : Abreast s (c.undergo s x) rest (c'.undergo s x') rest') :
      Abreast s c (x :: rest) c' (x' :: rest')

variable {xs xs' : List Happening}

private theorem Abreast.take (h : Abreast s c xs c' xs') (k : Nat) :
    Abreast s c (xs.take k) c' (xs'.take k) := by
  induction h generalizing k with
  | nil c c' => simpa using .nil c c'
  | cons like takes agrees _ ih =>
    cases k with
    | zero => exact .nil _ _
    | succ k => exact .cons like takes agrees (ih k)

private theorem Abreast.same (h : Abreast s c xs c' xs') (hc : c.Same c')
    (hs : c.loop.slot.Agrees c'.loop.slot) (hf : c.loop.slot.Sifted) (hf' : c'.loop.slot.Sifted) :
    (c.live s xs).Same (c'.live s xs') := by
  induction h with
  | nil => exact hc
  | cons like takes agrees _ ih =>
    exact ih (hc.undergo hs hf hf' like takes) agrees (sifted_undergo hf s _)
      (sifted_undergo hf' s _)

/-- A run that is about to begin. -/
def fresh (timeout : Duration) (policy : RetryPolicy) (stopAtEnd : Bool) : Course :=
  ⟨.new (.new timeout policy) stopAtEnd, 0, []⟩

/-- Two runs of dispatchers of the same settings, side by side over a service of one conduct: at
every point of the way they are in the same state, hold the same handle, have made the same calls at
the same times, have counted the same, and have done and told the same at the same times, up to the
identifiers and the reasons in it. -/
theorem live_indifferent (s : Conduct) (timeout : Duration) (policy : RetryPolicy)
    (stopAtEnd : Bool) {xs xs' : List Happening}
    (h : Abreast s (fresh timeout policy stopAtEnd) xs (fresh timeout policy stopAtEnd) xs')
    (k : Nat) :
    let c := (fresh timeout policy stopAtEnd).live s (xs.take k)
    let c' := (fresh timeout policy stopAtEnd).live s (xs'.take k)
    c.loop.dispatcher.state = c'.loop.dispatcher.state ∧
      c.loop.dispatcher.handle = c'.loop.dispatcher.handle ∧
      c.loop.dispatcher.bare = c'.loop.dispatcher.bare ∧
      c.calls = c'.calls ∧ c.tally = c'.tally ∧ c.bare.told = c'.bare.told ∧
      c.events.map (Prod.map id Event.bare) = c'.events.map (Prod.map id Event.bare) := by
  intro c c'
  have hsame : c.Same c' := by
    apply (h.take k).same
    · exact ⟨.refl _, rfl, rfl⟩
    · exact .refl _
    · exact fun _ _ => rfl
    · exact fun _ _ => rfl
  exact ⟨hsame.state, hsame.handle, hsame.dispatcher, hsame.calls, hsame.tally, hsame.alike.told,
    hsame.events⟩

/-- One dispatcher is to reload, for reasons that were merged, and again while it is at it. The
other is to start, and nothing comes up meanwhile. Both wait for an answer in vain, try again and
run. -/
theorem live_indifferent_of_reload :
    let reload (n : Nat) : Request := ⟨.ofSerial n, [.plain .ui], .reload, [], 0, n⟩
    let start : Request := ⟨.ofSerial 9, [.plain .ui], .start, [.plain .switchOff], 1, 1⟩
    let s : Conduct :=
      ⟨fun calls => if calls.length ≤ 1 then none else some (2, .ok ⟨1⟩), fun _ => none⟩
    let new := fresh (.ofMillis 5) ⟨3, .ofMillis 1, .ofMillis 2, true⟩ true
    let c := new.live s [.slot [.offer (reload 0), .offer (reload 1)], .begin, .serve 2,
      .slot [.offer (reload 2)], .wake false, .wake true, .wake false]
    let c' := new.live s [.slot [.offer start], .begin, .serve 2, .slot [], .wake false,
      .wake true, .wake false]
    c.calls = c'.calls ∧ c.bare.told = c'.bare.told ∧ c.told ≠ c'.told ∧
      c'.loop.dispatcher.state = .running ∧ c'.calls = [(2, .start), (8, .start)] := by
  intro reload start s new c c'
  have h : Abreast s new _ new _ :=
    .cons (.slot [.offer (reload 0), .offer (reload 1)] [.offer start]) (by decide)
      ⟨by decide, by decide⟩ <|
    .cons .begin (by decide) ⟨by decide, by decide⟩ <|
    .cons (.serve 2) (by decide) ⟨by decide, by decide⟩ <|
    .cons (.slot [.offer (reload 2)] []) (by decide) ⟨by decide, by decide⟩ <|
    .cons (.wake false) (by decide) ⟨by decide, by decide⟩ <|
    .cons (.wake true) (by decide) ⟨by decide, by decide⟩ <|
    .cons (.wake false) (by decide) ⟨by decide, by decide⟩ <|
    .nil _ _
  have hs := live_indifferent s _ _ _ h 7
  have hcalls : c.calls = c'.calls := hs.2.2.2.1
  have htold : c.bare.told = c'.bare.told := hs.2.2.2.2.2.1
  exact ⟨hcalls, htold, by decide, by decide, by decide⟩

end Course
end RestartCoordinator
