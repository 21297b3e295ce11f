import RestartCoordinator.Proofs.Dispatcher.Calls
import RestartCoordinator.Proofs.DispatchLoop.Runs
import RestartCoordinator.Simulation.DispatchRig
/-!
# Runs of the dispatcher over a simulated service

The simulated service says of itself whether it is running. On the rig, where the clock may show any
time and requests, actions on the slot and the ends of calls come in any order, it is running
exactly if the dispatcher knows of an instance or has abandoned one. A stopped dispatcher knows of
none, so what is left running then was abandoned.
-/
namespace RestartCoordinator

namespace Simulated

private theorem endStart_running (s : Simulated) (inTime : Bool) (outcome : Scripted) :
    (s.endStart inTime outcome).2.running =
      (EndedCall.start (s.endStart inTime outcome).1).leaves s.running := by
  cases inTime <;> cases outcome <;> rfl

private theorem endStop_running (s : Simulated) (inTime : Bool) (outcome : Scripted) (h : Handle) :
    (s.endStop inTime outcome).2.running =
      (EndedCall.stop h (s.endStop inTime outcome).1).leaves s.running := by
  cases inTime <;> cases outcome <;> rfl

end Simulated

private theorem EndedCall.leaves_release (running : Bool) (h : Handle) (answer : Answer Unit) :
    (release h answer).leaves running = (stop h answer).leaves running := by
  cases answer <;> rfl

namespace Bench

variable {b b' : Bench} {now : Time} {d : Dispatcher} {s : Signal}

private theorem beginCall_running (b : Bench) (timeout : Nat) (now : Time) (call : Call) :
    (b.beginCall timeout now call).service.running = b.service.running := by
  cases call <;> rfl

@[simp] theorem follow_running (b : Bench) (now : Time) (d : Dispatcher) (effects : List Effect) :
    (b.follow now d effects).service.running = b.service.running := by
  unfold follow
  cases d.task with
  | idle => rfl
  | calling a call =>
    dsimp only
    split
    · rfl
    · exact b.beginCall_running ..
  | waiting a delay =>
    dsimp only
    split <;> rfl

private theorem due?_running (h : b.due? now d = some (s, b')) (hs : d.awaits s) :
    b'.service.running =
      (d.ended? s).elim b.service.running (·.leaves b.service.running) := by
  unfold due? at h
  split at h
  · cases h
  · split at h
    · cases h
    · split at h <;> obtain ⟨rfl, rfl⟩ := Prod.mk.inj (Option.some.inj h)
      · cases ht : d.task <;> simp [Dispatcher.ended?, ht]
      · rename_i ht _ _
        simp only [Dispatcher.ended?, ht]
        exact b.service.endStart_running ..
      · cases ht : d.task with
        | idle => simp [Dispatcher.awaits, ht] at hs
        | waiting a delay => simp [Dispatcher.awaits, ht] at hs
        | calling a c =>
          cases c with
          | start => simp [Dispatcher.awaits, ht] at hs
          | stop hd =>
            simp only [Dispatcher.ended?, ht]
            exact b.service.endStop_running _ _ hd
          | release hd =>
            simp only [Dispatcher.ended?, ht, Option.elim_some, EndedCall.leaves_release]
            exact b.service.endStop_running _ _ hd

end Bench

/-- What can happen on the rig. -/
inductive RigMove where
  /-- A request is served, if none is being served. -/
  | dispatch (request : Request)
  | serve (stopAtEnd : Bool)
  | act (action : SlotAction)
  /-- The next thing happens that can happen at this moment. -/
  | happen
  | clock (time : Time)

namespace DispatchRig

def moved? (r : DispatchRig) : RigMove → Option DispatchRig
  | .dispatch request =>
    if r.loop.dispatcher.isIdle then
      let (loop, effects) := r.loop.turn r.now (.request request)
      some (r.absorb loop r.bench effects)
    else none
  | .serve stopAtEnd => some { r with loop := { r.loop with stage := .serving, stopAtEnd } }
  | .act action => some (r.act action).2
  | .happen => r.step?
  | .clock time => some { r with now := time }

/-- The signal with which the rig goes on: a wanted stop, or that of a timer. -/
def signal? (r : DispatchRig) : Option Signal :=
  match r.loop.signal? r.now .stopWanted with
  | some _ => some .stopWanted
  | none => (r.bench.due? r.now r.loop.dispatcher).map (·.1)

/-- The service call that ends with a move. -/
def ended? (r : DispatchRig) : RigMove → Option EndedCall
  | .happen => r.signal?.bind r.loop.dispatcher.ended?
  | _ => none

/-- The moves of a list that can be made, and the service calls that end in their course. -/
def run (r : DispatchRig) : List RigMove → DispatchRig × List EndedCall
  | [] => (r, [])
  | m :: rest =>
    match r.moved? m with
    | some next =>
      let (last, calls) := run next rest
      (last, (r.ended? m).toList ++ calls)
    | none => run r rest

variable {r r' : DispatchRig} {m : RigMove}

/-- In a move the dispatcher takes a turn or has no part in it. A call that ends with the turn leaves
its mark on the service, and nothing else does. -/
inductive Turned (r : DispatchRig) (m : RigMove) (r' : DispatchRig) : Prop where
  | aside (hd : r'.loop.dispatcher = r.loop.dispatcher) (he : r.ended? m = none)
      (hr : r'.bench.service.running = r.bench.service.running)
  | turn (s : Signal) (hd : r'.loop.dispatcher = (r.loop.dispatcher.turn r.now s).1)
      (he : r.ended? m = r.loop.dispatcher.ended? s)
      (hr : r'.bench.service.running = (r.loop.dispatcher.ended? s).elim r.bench.service.running
        (·.leaves r.bench.service.running))

private theorem turned_absorb {loop : DispatchLoop} {effects : List Effect} {s : Signal}
    (bench : Bench) (hl : (loop.dispatcher, effects) = r.loop.dispatcher.turn r.now s)
    (he : r.ended? m = r.loop.dispatcher.ended? s)
    (hb : bench.service.running = (r.loop.dispatcher.ended? s).elim r.bench.service.running
      (·.leaves r.bench.service.running)) :
    r.Turned m (r.absorb loop bench effects) :=
  .turn s (congrArg Prod.fst hl) he ((Bench.follow_running ..).trans hb)

private theorem ended?_request (ht : r.loop.dispatcher.task = .idle) (q : Request) :
    r.loop.dispatcher.ended? (.request q) = none := by
  simp [Dispatcher.ended?, ht]

theorem step?_turned (h : r.step? = some r') : r.Turned .happen r' := by
  unfold step? at h
  split at h
  · rename_i loop effects hs
    obtain rfl := Option.some.inj h
    have hn : r.loop.dispatcher.ended? .stopWanted = none := by
      unfold Dispatcher.ended?
      split <;> simp_all
    have hl := DispatchLoop.dispatcher_turn (DispatchLoop.signal?_turn hs)
    exact turned_absorb r.bench hl (by simp [ended?, signal?, hs]) (by simp [hn])
  · rename_i hw
    split at h
    · rename_i s bench hd
      obtain ⟨⟨loop, effects⟩, hs, rfl⟩ := Option.map_eq_some_iff.mp h
      have hl := DispatchLoop.dispatcher_turn (DispatchLoop.signal?_turn hs)
      have hb := Bench.due?_running hd (DispatchLoop.signal?_cases hs).1
      exact turned_absorb bench hl (by simp [ended?, signal?, hw, hd]) hb
    · rename_i hd
      have he : r.ended? .happen = none := by simp [ended?, signal?, hw, hd]
      split at h
      · rename_i loop effects hs
        obtain rfl := Option.some.inj h
        obtain ⟨q, -, ht, hl⟩ := DispatchLoop.serve?_turn hs
        have hl := DispatchLoop.dispatcher_turn
          (l := { r.loop with slot := r.loop.slot.take.2 }) hl
        have hn := ended?_request ht q
        exact turned_absorb r.bench hl (he.trans hn.symm) (by simp [hn])
      · split at h
        · rename_i loop effects hs
          obtain rfl := Option.some.inj h
          obtain ⟨ht, ⟨-, hl⟩ | ⟨-, rfl, rfl⟩⟩ := DispatchLoop.leave?_turn hs
          · have hl := DispatchLoop.dispatcher_turn (l := { r.loop with stage := .stopping }) hl
            have hn := ended?_request ht (Dispatcher.shutdownRequest r.lastId r.now)
            exact turned_absorb r.bench hl (he.trans hn.symm) (by simp [hn])
          · exact .aside rfl he (Bench.follow_running ..)
        · cases h

private theorem moved?_turned (h : r.moved? m = some r') : r.Turned m r' := by
  cases m with
  | dispatch q =>
    simp only [moved?, Option.ite_none_right_eq_some, Option.some.injEq] at h
    obtain ⟨hc, rfl⟩ := h
    have hn := ended?_request (of_decide_eq_true hc) q
    have hl : ((r.loop.turn r.now (.request q)).1.dispatcher, (r.loop.turn r.now (.request q)).2) =
        r.loop.dispatcher.turn r.now (.request q) := DispatchLoop.dispatcher_turn rfl
    exact turned_absorb r.bench hl hn.symm (by simp [hn])
  | serve | clock =>
    obtain rfl := Option.some.inj h
    exact .aside rfl rfl rfl
  | act a =>
    obtain rfl := Option.some.inj h
    cases a <;> exact .aside rfl rfl rfl
  | happen => exact step?_turned h

/-- The dispatcher fits, and it keeps track of the service over the calls that have ended. -/
structure Sound (r : DispatchRig) (calls : List EndedCall) : Prop where
  fits : r.loop.dispatcher.Fits
  tracks : r.loop.dispatcher.Tracks r.bench.service.running calls

private theorem Sound.moved {calls : List EndedCall} (hs : r.Sound calls)
    (h : r.moved? m = some r') :
    r'.Sound (calls ++ (r.ended? m).toList) := by
  cases moved?_turned h with
  | aside hd he hr =>
    refine ⟨hd ▸ hs.fits, ?_⟩
    rw [hd, hr, he, Option.toList_none, List.append_nil]
    exact hs.tracks
  | turn s hd he hr =>
    have hg := hs.fits.goes r.now s
    refine ⟨hd ▸ hg.fits hs.fits, ?_⟩
    rw [hd, hr, he]
    exact hg.tracks hs.fits hs.tracks

theorem Sound.run {calls : List EndedCall} (hs : r.Sound calls) (moves : List RigMove) :
    (r.run moves).1.Sound (calls ++ (r.run moves).2) := by
  induction moves generalizing r calls with
  | nil => simpa [DispatchRig.run] using hs
  | cons m rest ih =>
    simp only [DispatchRig.run]
    cases h : r.moved? m with
    | none => exact ih hs
    | some next =>
      have hn := ih (hs.moved h)
      rwa [List.append_assoc] at hn

private theorem Sound.running_iff_of_stopped {calls : List EndedCall} (h : r.Sound calls)
    (hi : r.loop.dispatcher.isIdle) (hs : r.loop.dispatcher.state = .stopped) :
    r.bench.service.running = true ↔ Abandoned calls := by
  have ht := of_decide_eq_true hi
  have hh := h.fits
  simp only [Dispatcher.Fits, ht] at hh
  have hk := h.tracks.running_iff
  simpa [Dispatcher.instance?, ht, hh.free hs] using hk

private theorem sound_new (c : Config.Dispatch) (service : Simulated) (capacity : Nat)
    (lastId : RequestId)
    (hr : service.running = false) : (new c service capacity lastId).Sound [] := by
  refine ⟨Dispatcher.Settled.of_stopped, ?_, fun _ => not_abandoned_nil⟩
  have hi : (new c service capacity lastId).loop.dispatcher.instance? = none := rfl
  change service.running = true ↔ _
  simp [hi, hr, not_abandoned_nil]

/-- A fresh dispatcher is given requests one after the other, over a simulated service with any
script: when it is stopped and serves no request, the service is running exactly if its instance was
abandoned, that is, if its release failed and no start has succeeded since. -/
theorem running_iff_abandoned (c : Config.Dispatch) (startDelay stopDelay : Nat)
    (starts stops : List Scripted) (capacity : Nat) (lastId : RequestId)
    (moves : List RigMove) :
    let service := (Simulated.new startDelay stopDelay).script starts stops
    let ended := (new c service capacity lastId).run moves
    ended.1.loop.dispatcher.isIdle → ended.1.loop.dispatcher.state = .stopped →
      (ended.1.bench.service.running = true ↔ Abandoned ended.2) := by
  intro service ended hi hs
  exact ((sound_new c service capacity lastId rfl).run moves).running_iff_of_stopped hi hs

/-- A stop that succeeds after a start leaves nothing abandoned. -/
theorem running_iff_abandoned_of_stop :
    let service := (Simulated.new 2 1).script [] []
    let moves := [
      .dispatch ⟨.ofSerial 0, [.plain .ui], .start, [], 0, 0⟩, .clock 2, .happen,
      .dispatch ⟨.ofSerial 1, [.plain .switchOff], .stop, [], 2, 2⟩, .clock 3, .happen]
    ¬Abandoned ((new {} service 8 .nil).run moves).2 := by
  intro service moves
  have h := running_iff_abandoned {} 2 1 [] [] 8 .nil moves (by decide) (by decide)
  exact mt h.mpr (by decide)

/-- A stopped dispatcher with the service running. The restart cannot stop the instance, the next
reload gives it up and cannot start another, and the stop succeeds without a call. -/
theorem stopped_while_running :
    let service := (Simulated.new 0 0).script [.succeed, .fail (.unavailable "no tun")]
      [.fail (.other "busy"), .fail (.other "busy")]
    let r := new { maxRetryAttempts := 0 } service 8 .nil
    let r := r.run [
      .dispatch ⟨.ofSerial 0, [.plain .ui], .start, [], 0, 0⟩, .happen,
      .dispatch ⟨.ofSerial 1, [.plain .ruleChanged], .reload, [], 0, 0⟩, .happen,
      .dispatch ⟨.ofSerial 2, [.plain .ruleChanged], .reload, [], 0, 0⟩, .happen, .happen,
      .dispatch ⟨.ofSerial 3, [.plain .switchOff], .stop, [], 0, 0⟩] |>.1
    (r.loop.dispatcher.isIdle ∧ r.loop.dispatcher.state = .stopped) ∧
      (r.bench.service.running = true ∧ r.bench.service.stopCalls = 2) ∧
      r.bus.kept.getLast?.any fun
        | .attempted report => report.action = .stop ∧ report.outcome = .succeeded
        | _ => false := by
  decide

/-- One rig comes from another in a run. -/
def Reaches (r r' : DispatchRig) : Prop := ∃ moves, (r.run moves).1 = r'

theorem run_append (moves more : List RigMove) :
    (r.run (moves ++ more)).1 = ((r.run moves).1.run more).1 := by
  induction moves generalizing r with
  | nil => rfl
  | cons m rest ih =>
    simp only [List.cons_append, run]
    cases r.moved? m with
    | none => exact ih
    | some next => exact ih

theorem Reaches.refl (r : DispatchRig) : r.Reaches r := ⟨[], rfl⟩

theorem Reaches.trans {r'' : DispatchRig} (h : r.Reaches r') (h' : r'.Reaches r'') :
    r.Reaches r'' := by
  obtain ⟨moves, rfl⟩ := h
  obtain ⟨more, rfl⟩ := h'
  exact ⟨moves ++ more, run_append moves more⟩

private theorem Reaches.of_moved? (h : r.moved? m = some r') : r.Reaches r' :=
  ⟨[m], by simp [run, h]⟩

private theorem reaches_settleWithin (fuel : Nat) (r : DispatchRig) :
    r.Reaches (settleWithin fuel r) := by
  induction fuel generalizing r with
  | zero => exact .refl r
  | succ fuel ih =>
    unfold settleWithin
    cases h : r.step? with
    | none => exact .refl r
    | some next => exact (Reaches.of_moved? (m := .happen) h).trans (ih next)

private theorem reaches_actDue (r : DispatchRig) (planned : List Planned) :
    r.Reaches (r.actDue planned).2.2 := by
  induction planned generalizing r with
  | nil => exact .refl r
  | cons p rest ih =>
    unfold actDue
    split
    · exact (Reaches.of_moved? (m := .act p.action) rfl).trans (ih _)
    · exact .refl r

private theorem reaches_workWithin (isDone : DispatchRig → Bool) (limit : Time) (fuel : Nat)
    (ended : Option Time) (results : List (Nat × SlotResult)) (planned : List Planned)
    (r : DispatchRig) :
    r.Reaches (workWithin isDone limit fuel ended results planned r).2.2 := by
  induction fuel generalizing ended results planned r with
  | zero => exact .refl r
  | succ fuel ih =>
    unfold workWithin
    have hs : r.Reaches (if ended.isSome then r else r.settle) := by
      split
      · exact .refl r
      · exact reaches_settleWithin _ r
    generalize (if ended.isSome then r else r.settle) = settled at hs ⊢
    have ha := hs.trans (reaches_actDue settled planned)
    have hc (time : Time) := ha.trans (.of_moved? (m := .clock time) rfl)
    dsimp only
    generalize (ended <|> if isDone settled then some settled.now else none) = first
    split
    · exact ha.trans (ih ..)
    · split
      · exact ha
      · split
        · exact hc limit
        · exact (hc _).trans (ih ..)

private theorem reaches_work {isDone : DispatchRig → Bool} {planned : List (Nat × SlotAction)}
    (hd : (r.work isDone planned).1.done) : r.Reaches (r.work isDone planned).2 := by
  unfold work at hd ⊢
  dsimp only at hd ⊢
  generalize hp : (List.map _ _).mergeSort _ = sorted at hd ⊢
  have hw := reaches_workWithin isDone (r.now + longestWait)
    (longestWait + 2 * sorted.length + 2) none [] sorted r
  generalize workWithin isDone (r.now + longestWait) (longestWait + 2 * sorted.length + 2) none []
    sorted r = ended at hw hd ⊢
  obtain ⟨_ | time, results, last⟩ := ended
  · simp at hd
  · exact hw

/-- The work of the rig on a request, if it comes to its end, is such a run. -/
theorem reaches_dispatch {request : Request} {planned : List (Nat × SlotAction)}
    (hi : r.loop.dispatcher.isIdle) (hd : (r.dispatch request planned).1.done) :
    r.Reaches (r.dispatch request planned).2 :=
  (Reaches.of_moved? (m := .dispatch request) (if_pos hi)).trans (reaches_work hd)

end DispatchRig
end RestartCoordinator
