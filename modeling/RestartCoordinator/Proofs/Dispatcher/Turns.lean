import RestartCoordinator.Dispatcher
/-!
# The turns of the dispatcher

What the dispatcher waits for goes with a state of the lifecycle and with a handle that it holds or
does not hold: the dispatcher *fits*. From there a turn goes one of a few ways, which `Goes` lists
with everything they do, and each way leads to a dispatcher that fits again. In particular no input
to the lifecycle is ever refused, and no request is dropped before an attempt at it was reported.
-/
namespace RestartCoordinator
open Lifecycle (State Input Snapshot)

@[simp] theorem Lifecycle.Snapshot.moveTo_state (s : Snapshot) (state : State)
    (reasons : List Reason) : (s.moveTo state reasons).state = state := rfl

namespace Dispatcher

/-- What the state and the handle can be between two requests. -/
structure Settled (state : State) (handle : Option Handle) : Prop where
  at_rest : state = .stopped ∨ state = .running ∨ state = .failed
  held : state = .running → handle.isSome
  free : state = .stopped → handle = none

theorem Settled.of_stopped : Settled .stopped none := ⟨.inl rfl, nofun, fun _ => rfl⟩

private theorem Settled.of_running (h : Handle) : Settled .running (some h) :=
  ⟨.inr (.inl rfl), fun _ => rfl, nofun⟩

private theorem Settled.of_failed (handle : Option Handle) : Settled .failed handle :=
  ⟨.inr (.inr rfl), nofun, nofun⟩

/-- The state and the handle are what the dispatcher needs for the task at hand. -/
def Fits (d : Dispatcher) : Prop :=
  match d.task with
  | .idle => Settled d.state d.handle
  | .calling a .start =>
    d.state = .starting ∧ d.handle = none ∧ (a.action = .start ∨ a.action = .restart)
  | .calling a (.stop _) =>
    d.handle = none ∧
      (d.state = .stopping ∧ a.action = .stop ∨ d.state = .restarting ∧ a.action = .restart)
  | .calling a (.release _) => d.state = .starting ∧ d.handle = none ∧ a.action = .start
  | .waiting _ _ => d.state = .failed

def enter (d : Dispatcher) (state : State) (reasons : List Reason) : Dispatcher :=
  { d with snapshot := d.snapshot.moveTo state reasons }

def enterFailed (d : Dispatcher) (f : Failure) (reasons : List Reason) : Dispatcher :=
  { d with snapshot :=
    { d.snapshot.moveTo .failed reasons with lastError := some f.message } }

@[simp] theorem enter_state (d : Dispatcher) (state : State) (reasons : List Reason) :
    (d.enter state reasons).state = state := rfl

@[simp] theorem enterFailed_state (d : Dispatcher) (f : Failure) (reasons : List Reason) :
    (d.enterFailed f reasons).state = .failed := rfl

def tried (d : Dispatcher) (r : Request) (recovery : Recovery) (now : Time) : Attempt :=
  ⟨r, plan d.state r, d.state, now, recovery⟩

/-- The signal makes the dispatcher begin an attempt at the request. -/
def Begins (d : Dispatcher) (s : Signal) (r : Request) (recovery : Recovery) : Prop :=
  (d.task = .idle ∧ s = .request r ∧ recovery = .new d.policy) ∨
    ∃ a delay, d.task = .waiting a delay ∧ s = .delayEnded ∧ r = a.request ∧
      recovery = a.recovery

/-- The dispatcher was waiting for the signal. -/
def awaits (d : Dispatcher) (s : Signal) : Bool :=
  match d.task, s with
  | .idle, .request _ => true
  | .calling _ .start, .startAnswered _ => true
  | .calling _ (.stop _), .stopAnswered _ => true
  | .calling _ (.release _), .stopAnswered _ => true
  | .waiting .., .delayEnded => true
  | .waiting .., .stopWanted => true
  | _, _ => false

/-- The failure of an attempt that ends with the answer to a call. A release has none. -/
def failure? (d : Dispatcher) : Call → Signal → Option Failure
  | .start, .startAnswered (.failed e) => some (.startFailed e)
  | .start, .startAnswered .timedOut => some (.timedOut "start" d.timeout)
  | .stop _, .stopAnswered (.failed e) => some (.stopFailed e)
  | .stop _, .stopAnswered .timedOut => some (.timedOut "stop" d.timeout)
  | _, _ => none

end Dispatcher

/-- The instance that a call is about to stop, if a failure leaves it at hand. -/
def Call.kept? : Call → Option Handle
  | .stop h => some h
  | _ => none

namespace Dispatcher

/-- The ways in which a turn can go. -/
inductive Goes (d : Dispatcher) (now : Time) : Signal → Dispatcher → List Effect → Prop where
  | ignored {s} (hs : d.awaits s = false) : Goes d now s d []
  | skipped {s r recovery} (hb : d.Begins s r recovery) (hr : r.isStop)
      (hs : d.state = .stopped) :
      Goes d now s { d with task := .idle }
        [.counted .skipped, .reported (d.report (d.tried r recovery now) now .skipped)]
  | stops {s r recovery h} (hb : d.Begins s r recovery) (hr : r.isStop)
      (hs : d.state ≠ .stopped) (hh : d.handle = some h) :
      Goes d now s
        { d.enter .stopping r.reasons with
          handle := none, task := .calling (d.tried r recovery now) (.stop h) }
        [.moved d.state .stopping, .called (.stop h)]
  /-- A stop finds nothing left to stop. -/
  | stopsNothing {s r recovery} (hb : d.Begins s r recovery) (hr : r.isStop)
      (hs : d.state = .failed) (hh : d.handle = none) :
      Goes d now s { (d.enter .stopping r.reasons).enter .stopped r.reasons with task := .idle }
        [.moved .failed .stopping, .moved .stopping .stopped, .counted .dispatch,
          .reported (((d.enter .stopping r.reasons).enter .stopped r.reasons).report
            (d.tried r recovery now) now .succeeded)]
  | restarts {s r recovery h} (hb : d.Begins s r recovery) (hr : r.isStop = false)
      (hs : d.state = .running) (hh : d.handle = some h) :
      Goes d now s
        { d.enter .restarting r.reasons with
          handle := none, task := .calling (d.tried r recovery now) (.stop h) }
        [.moved .running .restarting, .called (.stop h)]
  | starts {s r recovery} (hb : d.Begins s r recovery) (hr : r.isStop = false)
      (hs : d.state = .stopped ∨ d.state = .failed) (hh : d.handle = none) :
      Goes d now s
        { d.enter .starting r.reasons with task := .calling (d.tried r recovery now) .start }
        [.moved d.state .starting, .called .start]
  /-- A start begins with the release of an instance that a failed stop left behind. -/
  | releases {s r recovery h} (hb : d.Begins s r recovery) (hr : r.isStop = false)
      (hs : d.state = .failed) (hh : d.handle = some h) :
      Goes d now s
        { d.enter .starting r.reasons with
          handle := none, task := .calling (d.tried r recovery now) (.release h) }
        [.moved .failed .starting, .called (.release h)]
  | cut {a delay} (ht : d.task = .waiting a delay) :
      Goes d now .stopWanted { d with task := .idle } []
  | started {a h} (ht : d.task = .calling a .start) (hs : d.state = .starting) :
      Goes d now (.startAnswered (.done h))
        { d.enter .running a.request.reasons with handle := some h, task := .idle }
        [.moved .starting .running, .counted .dispatch,
          .reported ((d.enter .running a.request.reasons).report a now .succeeded)]
  | stopped {a h} (ht : d.task = .calling a (.stop h)) (ha : a.action = .stop)
      (hs : d.state = .stopping) :
      Goes d now (.stopAnswered (.done ()))
        { d.enter .stopped a.request.reasons with task := .idle }
        [.moved .stopping .stopped, .counted .dispatch,
          .reported ((d.enter .stopped a.request.reasons).report a now .succeeded)]
  | restopped {a h} (ht : d.task = .calling a (.stop h)) (ha : a.action = .restart)
      (hs : d.state = .restarting) :
      Goes d now (.stopAnswered (.done ()))
        { d.enter .starting a.request.reasons with task := .calling a .start }
        [.moved .restarting .starting, .called .start]
  /-- The release is over, in whatever way. -/
  | released {a h answer} (ht : d.task = .calling a (.release h)) :
      Goes d now (.stopAnswered answer) { d with task := .calling a .start } [.called .start]
  | retries {s a c f delay recovery} (ht : d.task = .calling a c) (hf : d.failure? c s = some f)
      (hg : a.recovery.handle f = (.retryAfter delay, recovery)) :
      Goes d now s
        { d.enterFailed f a.request.reasons with
          handle := c.kept?, task := .waiting { a with recovery } delay }
        [.moved d.state .failed, .counted .retry,
          .reported ((d.enterFailed f a.request.reasons).report a now
            (.retrying f.message recovery.retries (delay.millis % UInt64.size)))]
  | givesUp {s a c f} (ht : d.task = .calling a c) (hf : d.failure? c s = some f)
      (hg : (a.recovery.handle f).1 = .giveUp) :
      Goes d now s
        { d.enterFailed f a.request.reasons with handle := c.kept?, task := .idle }
        [.moved d.state .failed, .counted .failure,
          .reported ((d.enterFailed f a.request.reasons).report a now (.failed f.message))]

variable {d d' : Dispatcher} {now : Time} {s : Signal} {effects : List Effect}

private theorem move_eq {a : Attempt} {input : Input} {state : State}
    (next : Dispatcher → List Effect → Turn) (h : d.state.next? input = some state) :
    d.move a input effects next =
      next (d.enter state a.request.reasons) (effects ++ [.moved d.state state]) := by
  have ha : d.snapshot.apply input a.request.reasons =
      .ok (d.snapshot.moveTo state a.request.reasons) :=
    Snapshot.apply_eq_ok_iff.mpr ⟨state, h, rfl⟩
  simp only [move, ha]
  rfl

private theorem fail_eq {a : Attempt} {f : Failure} (h : d.state.isTransitional) :
    d.fail a now f effects =
      (d.enterFailed f a.request.reasons).recover a now f
        (effects ++ [.moved d.state .failed]) := by
  have hn : d.state.next? .failed = some .failed := by
    cases hs : d.state <;> simp_all [State.isTransitional, State.next?]
  have ha : d.snapshot.fail f a.request.reasons =
      .ok { d.snapshot.moveTo .failed a.request.reasons with lastError := some f.message } := by
    have hm : d.snapshot.apply .failed a.request.reasons =
        .ok (d.snapshot.moveTo .failed a.request.reasons) :=
      Snapshot.apply_eq_ok_iff.mpr ⟨_, hn, rfl⟩
    simp only [Snapshot.fail, hm]
    rfl
  simp only [fail, ha]
  rfl

private theorem Settled.split {state : State} {handle : Option Handle} (h : Settled state handle) :
    (state = .stopped ∧ handle = none) ∨ (∃ hd, state = .running ∧ handle = some hd) ∨
      (state = .failed ∧ handle = none) ∨ ∃ hd, state = .failed ∧ handle = some hd := by
  rcases h.at_rest with hs | hs | hs
  · exact .inl ⟨hs, h.free hs⟩
  · obtain ⟨hd, hh⟩ := Option.isSome_iff_exists.mp (h.held hs)
    exact .inr (.inl ⟨hd, hs, hh⟩)
  · cases handle with
    | none => exact .inr (.inr (.inl ⟨hs, rfl⟩))
    | some hd => exact .inr (.inr (.inr ⟨hd, hs, rfl⟩))

theorem plan_stop {r : Request} (hr : r.isStop) (state : State) :
    plan state r = if state = .stopped then .none else .stop := by
  unfold plan
  cases state <;> simp [hr]

private theorem plan_reload {r : Request} (hr : r.isStop = false) (state : State) :
    plan state r =
      if state = .running then .restart
      else if state = .stopped ∨ state = .failed then .start else .none := by
  unfold plan
  cases state <;> simp [hr]

private theorem attempt_eq {r : Request} {recovery : Recovery} {a : Attempt}
    (ha : d.tried r recovery now = a) :
    d.attempt r recovery now =
      match a.action with
      | .none => d.rest [.counted .skipped, .reported (d.report a now .skipped)]
      | .start => d.move a .start [] fun d effects => d.startInstance a effects
      | .restart => d.move a .restart [] fun d effects => d.stopInstance a now effects
      | .stop => d.move a .stop [] fun d effects => d.stopInstance a now effects := by
  subst ha
  rfl

section
variable {a : Attempt} {h : Handle} {state : State} {reasons : List Reason}

private theorem stopInstance_some (hh : d.handle = some h) :
    (d.enter state reasons).stopInstance a now effects =
      { d.enter state reasons with handle := none }.call a (.stop h) effects := by
  have he : (d.enter state reasons).handle = some h := hh
  simp only [stopInstance, he]

private theorem stopInstance_none (hh : d.handle = none) :
    (d.enter state reasons).stopInstance a now effects =
      (d.enter state reasons).afterStop a now effects := by
  have he : (d.enter state reasons).handle = none := hh
  simp only [stopInstance, he]

private theorem startInstance_some (hh : d.handle = some h) :
    (d.enter state reasons).startInstance a effects =
      { d.enter state reasons with handle := none }.call a (.release h) effects := by
  have he : (d.enter state reasons).handle = some h := hh
  simp only [startInstance, he]

private theorem startInstance_none (hh : d.handle = none) :
    (d.enter state reasons).startInstance a effects =
      (d.enter state reasons).call a .start effects := by
  have he : (d.enter state reasons).handle = none := hh
  simp only [startInstance, he]

end

private theorem afterStop_of_stop {a : Attempt} (hs : d.state = .stopping) (ha : a.action = .stop) :
    d.afterStop a now effects =
      (d.enter .stopped a.request.reasons).succeed a now
        (effects ++ [.moved .stopping .stopped]) := by
  have hn : d.state.next? .stopSucceeded = some .stopped := by simp [hs, State.next?]
  rw [afterStop, move_eq _ hn, if_neg (by simp [ha]), hs]

private theorem afterStop_of_restart {a : Attempt} (hs : d.state = .restarting)
    (ha : a.action = .restart) :
    d.afterStop a now effects =
      (d.enter .starting a.request.reasons).call a .start
        (effects ++ [.moved .restarting .starting]) := by
  have hn : d.state.next? .stopSucceeded = some .starting := by simp [hs, State.next?]
  rw [afterStop, move_eq _ hn, if_pos ha, hs]

private theorem goes_stop {r : Request} {recovery : Recovery} (hb : d.Begins s r recovery)
    (hr : r.isStop) (h : Settled d.state d.handle) :
    d.Goes now s (d.attempt r recovery now).1 (d.attempt r recovery now).2 := by
  have ha : (d.tried r recovery now).action = if d.state = .stopped then .none else .stop :=
    plan_stop hr d.state
  by_cases hs : d.state = .stopped
  · rw [if_pos hs] at ha
    rw [attempt_eq rfl, ha]
    exact .skipped hb hr hs
  · have hn : d.state.next? .stop = some .stopping := by
      rcases h.at_rest with hd | hd | hd <;> simp_all [State.next?]
    rw [if_neg hs] at ha
    rw [attempt_eq rfl, ha]
    dsimp only
    rw [move_eq _ hn]
    cases hh : d.handle with
    | some h =>
      rw [stopInstance_some hh]
      exact .stops hb hr hs hh
    | none =>
      have hf : d.state = .failed := by
        rcases h.split with ⟨hs', -⟩ | ⟨_, -, hh'⟩ | ⟨hs', -⟩ | ⟨_, hs', -⟩ <;> simp_all
      rw [stopInstance_none hh, afterStop_of_stop rfl ha, hf]
      exact .stopsNothing hb hr hf hh

private theorem goes_reload {r : Request} {recovery : Recovery} (hb : d.Begins s r recovery)
    (hr : r.isStop = false) (h : Settled d.state d.handle) :
    d.Goes now s (d.attempt r recovery now).1 (d.attempt r recovery now).2 := by
  have ha : (d.tried r recovery now).action = _ := plan_reload hr d.state
  rcases h.split with ⟨hs, hh⟩ | ⟨hd, hs, hh⟩ | ⟨hs, hh⟩ | ⟨hd, hs, hh⟩
  · replace ha : (d.tried r recovery now).action = .start := by simpa [hs] using ha
    have hn : d.state.next? .start = some .starting := by simp [hs, State.next?]
    rw [attempt_eq rfl, ha]
    dsimp only
    rw [move_eq _ hn, startInstance_none hh]
    exact .starts hb hr (.inl hs) hh
  · replace ha : (d.tried r recovery now).action = .restart := by simpa [hs] using ha
    have hn : d.state.next? .restart = some .restarting := by simp [hs, State.next?]
    rw [attempt_eq rfl, ha]
    dsimp only
    rw [move_eq _ hn, stopInstance_some hh, hs]
    exact .restarts hb hr hs hh
  · replace ha : (d.tried r recovery now).action = .start := by simpa [hs] using ha
    have hn : d.state.next? .start = some .starting := by simp [hs, State.next?]
    rw [attempt_eq rfl, ha]
    dsimp only
    rw [move_eq _ hn, startInstance_none hh]
    exact .starts hb hr (.inr hs) hh
  · replace ha : (d.tried r recovery now).action = .start := by simpa [hs] using ha
    have hn : d.state.next? .start = some .starting := by simp [hs, State.next?]
    rw [attempt_eq rfl, ha]
    dsimp only
    rw [move_eq _ hn, startInstance_some hh, hs]
    exact .releases hb hr hs hh

private theorem goes_attempt {r : Request} {recovery : Recovery} (hb : d.Begins s r recovery)
    (h : Settled d.state d.handle) :
    d.Goes now s (d.attempt r recovery now).1 (d.attempt r recovery now).2 := by
  cases hr : r.isStop with
  | true => exact goes_stop hb hr h
  | false => exact goes_reload hb hr h

private theorem goes_fail {a : Attempt} {c : Call} {f : Failure} (ht : d.task = .calling a c)
    (hf : d.failure? c s = some f) (hs : d.state.isTransitional) :
    d.Goes now s ({ d with handle := c.kept? }.fail a now f []).1
      ({ d with handle := c.kept? }.fail a now f []).2 := by
  rw [fail_eq (d := { d with handle := c.kept? }) hs, recover]
  rcases hg : a.recovery.handle f with ⟨delay | _, recovery⟩
  · exact .retries ht hf hg
  · exact .givesUp ht hf (by rw [hg])

private theorem goes_startAnswered {a : Attempt} (ht : d.task = .calling a .start)
    (hs : d.state = .starting) (hh : d.handle = none) (answer : Answer Handle) :
    d.Goes now (.startAnswered answer) (d.afterStartCall a now answer).1
      (d.afterStartCall a now answer).2 := by
  have hk : { d with handle := Call.start.kept? } = d := by
    cases d
    simp_all [Call.kept?]
  have ht' : d.state.isTransitional := by rw [hs]; rfl
  cases answer with
  | done h =>
    have hs' : { d with handle := some h }.state = .starting := hs
    have hn : { d with handle := some h }.state.next? .startSucceeded = some .running := by
      rw [hs']
      rfl
    rw [afterStartCall, move_eq _ hn, hs']
    exact .started ht hs
  | failed e =>
    have hg : d.Goes now (.startAnswered (.failed e)) _ _ := goes_fail ht rfl ht'
    rwa [hk] at hg
  | timedOut =>
    have hg : d.Goes now (.startAnswered .timedOut) _ _ := goes_fail ht rfl ht'
    rwa [hk] at hg

private theorem goes_stopAnswered {a : Attempt} {h : Handle} (ht : d.task = .calling a (.stop h))
    (hs : d.state = .stopping ∧ a.action = .stop ∨ d.state = .restarting ∧ a.action = .restart)
    (answer : Answer Unit) :
    d.Goes now (.stopAnswered answer) (d.afterStopCall a h now answer).1
      (d.afterStopCall a h now answer).2 := by
  have ht' : d.state.isTransitional := by
    rcases hs with ⟨hs, -⟩ | ⟨hs, -⟩ <;> rw [hs] <;> rfl
  cases answer with
  | done =>
    rw [afterStopCall]
    rcases hs with ⟨hs, ha⟩ | ⟨hs, ha⟩
    · rw [afterStop_of_stop hs ha]
      exact .stopped ht ha hs
    · rw [afterStop_of_restart hs ha]
      exact .restopped ht ha hs
  | failed e => exact goes_fail (f := .stopFailed e) ht rfl ht'
  | timedOut => exact goes_fail (f := .timedOut "stop" d.timeout) ht rfl ht'

/-- From a dispatcher that fits, every turn goes one of the ways. -/
theorem Fits.goes (h : d.Fits) (now : Time) (s : Signal) :
    d.Goes now s (d.turn now s).1 (d.turn now s).2 := by
  by_cases hw : d.awaits s
  · unfold Fits at h
    cases ht : d.task with
    | idle =>
      rw [ht] at h
      cases s with
      | request r =>
        simp only [turn, ht]
        exact goes_attempt (.inl ⟨ht, rfl, rfl⟩) h
      | _ => simp [awaits, ht] at hw
    | calling a c =>
      cases c with
      | start =>
        rw [ht] at h
        cases s with
        | startAnswered answer =>
          simp only [turn, ht]
          exact goes_startAnswered ht h.1 h.2.1 answer
        | _ => simp [awaits, ht] at hw
      | stop hd =>
        rw [ht] at h
        cases s with
        | stopAnswered answer =>
          simp only [turn, ht]
          exact goes_stopAnswered ht h.2 answer
        | _ => simp [awaits, ht] at hw
      | release hd =>
        cases s with
        | stopAnswered answer =>
          simp only [turn, ht]
          exact .released ht
        | _ => simp [awaits, ht] at hw
    | waiting a delay =>
      rw [ht] at h
      cases s with
      | delayEnded =>
        simp only [turn, ht]
        have hs : Settled d.state d.handle := by
          change d.state = .failed at h
          exact h ▸ .of_failed _
        exact goes_attempt (.inr ⟨a, delay, ht, rfl, rfl, rfl⟩) hs
      | stopWanted =>
        simp only [turn, ht]
        exact .cut ht
      | _ => simp [awaits, ht] at hw
  · have hi : d.turn now s = (d, []) := by
      unfold turn
      unfold awaits at hw
      split <;> simp_all
    rw [hi]
    exact .ignored (by simpa using hw)

theorem Fits.handle_of_calling {a : Attempt} {c : Call} (h : d.Fits) (ht : d.task = .calling a c) :
    d.handle = none := by
  unfold Fits at h
  rw [ht] at h
  cases c with
  | start | release => exact h.2.1
  | stop => exact h.1

theorem Fits.settled_of_waiting {a : Attempt} {delay : Duration} (h : d.Fits)
    (ht : d.task = .waiting a delay) : Settled d.state d.handle := by
  have hs : d.state = .failed := by simpa only [Fits, ht] using h
  exact hs ▸ .of_failed _

theorem Begins.settled {r : Request} {recovery : Recovery} (hb : d.Begins s r recovery)
    (h : d.Fits) : Settled d.state d.handle := by
  rcases hb with ⟨ht, -, -⟩ | ⟨a, delay, ht, -, -, -⟩
  · simpa only [Fits, ht] using h
  · exact h.settled_of_waiting ht

theorem Goes.fits (hg : d.Goes now s d' effects) (h : d.Fits) : d'.Fits := by
  cases hg with
  | ignored => exact h
  | skipped hb hr hs => exact hb.settled h
  | stops hb hr hs hh => exact ⟨rfl, .inl ⟨rfl, (plan_stop hr d.state).trans (if_neg hs)⟩⟩
  | stopsNothing hb hr hs hh =>
    change Settled .stopped d.handle
    exact hh ▸ .of_stopped
  | restarts hb hr hs hh =>
    exact ⟨rfl, .inr ⟨rfl, (plan_reload hr d.state).trans (if_pos hs)⟩⟩
  | starts hb hr hs hh =>
    refine ⟨rfl, hh, .inl ((plan_reload hr d.state).trans ?_)⟩
    rcases hs with hs | hs <;> simp [hs]
  | releases hb hr hs hh => exact ⟨rfl, rfl, (plan_reload hr d.state).trans (by simp [hs])⟩
  | cut ht => exact h.settled_of_waiting ht
  | started ht hs => exact .of_running _
  | stopped ht ha hs =>
    change Settled .stopped d.handle
    exact h.handle_of_calling ht ▸ .of_stopped
  | restopped ht ha hs =>
    simp only [Fits, ht] at h
    exact ⟨rfl, h.1, .inr ha⟩
  | released ht =>
    simp only [Fits, ht] at h
    exact ⟨h.1, h.2.1, .inl h.2.2⟩
  | retries ht hf hg => exact rfl
  | givesUp ht hf hg => exact .of_failed _

theorem Goes.not_refused (hg : d.Goes now s d' effects) (origin : State) (input : Input) :
    .refused origin input ∉ effects := by
  cases hg <;> simp

theorem Goes.task_of_start (hg : d.Goes now s d' effects) (hc : .called .start ∈ effects) :
    ∃ a, d'.task = .calling a .start := by
  cases hg <;> simp_all

/-- A report of the request is among the effects. -/
def Tells (effects : List Effect) (r : Request) : Prop :=
  ∃ report, .reported report ∈ effects ∧ report.request = r.id ∧ report.reasons = r.reasons

theorem Tells.mono {more : List Effect} {r : Request} (h : Tells effects r)
    (hm : effects ⊆ more) : Tells more r := by
  obtain ⟨report, hr, hid, hreasons⟩ := h
  exact ⟨report, hm hr, hid, hreasons⟩

private theorem Tells.of_getLast? {r : Request} {a : Attempt} {outcome : Outcome}
    (hr : a.request = r) (h : effects.getLast? = some (.reported (d.report a now outcome))) :
    Tells effects r :=
  ⟨_, List.mem_of_getLast? h, congrArg Request.id hr, congrArg Request.reasons hr⟩

theorem Begins.unique {r r' : Request} {recovery recovery' : Recovery}
    (hb : d.Begins s r recovery) (hb' : d.Begins s r' recovery') : r = r' := by
  rcases hb with ⟨ht, hs, -⟩ | ⟨a, delay, ht, hs, rfl, -⟩ <;>
    rcases hb' with ⟨ht', hs', -⟩ | ⟨a', delay', ht', hs', rfl, -⟩ <;> simp_all

theorem Begins.not_calling {r : Request} {recovery : Recovery} (hb : d.Begins s r recovery)
    (a : Attempt) (c : Call) : d.task ≠ .calling a c := by
  rcases hb with ⟨ht, -, -⟩ | ⟨_, _, ht, -, -, -⟩ <;> simp [ht]

theorem Goes.of_begins {r : Request} {recovery : Recovery} (hg : d.Goes now s d' effects)
    (hb : d.Begins s r recovery) :
    (∃ a c, d'.task = .calling a c ∧ a.request = r) ∨ Tells effects r := by
  cases hg with
  | ignored hs =>
    rcases hb with ⟨ht, rfl, -⟩ | ⟨_, _, ht, rfl, -, -⟩ <;> simp [awaits, ht] at hs
  | skipped hb' => exact .inr (.of_getLast? (hb'.unique hb) rfl)
  | stops hb' => exact .inl ⟨_, _, rfl, hb'.unique hb⟩
  | stopsNothing hb' => exact .inr (.of_getLast? (hb'.unique hb) rfl)
  | restarts hb' => exact .inl ⟨_, _, rfl, hb'.unique hb⟩
  | starts hb' => exact .inl ⟨_, _, rfl, hb'.unique hb⟩
  | releases hb' => exact .inl ⟨_, _, rfl, hb'.unique hb⟩
  | cut => rcases hb with ⟨_, hs, -⟩ | ⟨_, _, _, hs, -, -⟩ <;> simp at hs
  | started ht | stopped ht | restopped ht | released ht | retries ht | givesUp ht =>
    exact absurd ht (hb.not_calling _ _)

theorem Goes.of_calling {a : Attempt} {c : Call} (hg : d.Goes now s d' effects)
    (ht : d.task = .calling a c) :
    (∃ a' c', d'.task = .calling a' c' ∧ a'.request = a.request) ∨ Tells effects a.request := by
  cases hg with
  | ignored => exact .inl ⟨a, c, ht, rfl⟩
  | skipped hb | stops hb | stopsNothing hb | restarts hb | starts hb | releases hb =>
    exact absurd ht (hb.not_calling a c)
  | cut ht' => simp [ht] at ht'
  | started ht' | stopped ht' | retries ht' | givesUp ht' =>
    obtain ⟨rfl, -⟩ : a = _ ∧ c = _ := by simpa [ht] using ht'
    exact .inr (.of_getLast? rfl rfl)
  | restopped ht' | released ht' =>
    obtain ⟨rfl, -⟩ : a = _ ∧ c = _ := by simpa [ht] using ht'
    exact .inl ⟨_, _, rfl, rfl⟩

end Dispatcher
end RestartCoordinator
