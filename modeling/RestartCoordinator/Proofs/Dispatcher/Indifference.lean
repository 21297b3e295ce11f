import RestartCoordinator.Dispatcher
/-!
# What the dispatcher makes of a request

Of all that a request says, the dispatcher acts on one thing only: whether it stops. The rest
passes through to the reports and to the snapshot. To say so, everything else is taken off the
requests, the reports and the dispatcher itself, and what is left is *bare*. A bare dispatcher that
is brought bare signals does what the dispatcher does, but for what was taken off.
-/
namespace RestartCoordinator
open Lifecycle (State Input Snapshot)

/-- Only whether the request stops is left of it. -/
def Request.bare (r : Request) : Request :=
  ⟨.nil, [], if r.isStop then .stop else .reload, [], 0, 0⟩

@[simp] theorem Request.isStop_bare (r : Request) : r.bare.isStop = r.isStop := by
  unfold Request.bare
  cases h : r.isStop <;> rfl

theorem Request.bare_eq_iff {r r' : Request} : r.bare = r'.bare ↔ r.isStop = r'.isStop := by
  constructor
  · intro h
    rw [← r.isStop_bare, h, isStop_bare]
  · intro h
    simp only [bare, h]

def Lifecycle.Snapshot.bare (s : Snapshot) : Snapshot := { s with reasons := [] }

def Report.bare (e : Report) : Report := { e with request := .nil, reasons := [] }

def Attempt.bare (a : Attempt) : Attempt := { a with request := a.request.bare }

def Task.bare : Task → Task
  | .idle => .idle
  | .calling a c => .calling a.bare c
  | .waiting a delay => .waiting a.bare delay

def Effect.bare : Effect → Effect
  | .reported e => .reported e.bare
  | e => e

def Signal.bare : Signal → Signal
  | .request r => .request r.bare
  | s => s

def Dispatcher.bare (d : Dispatcher) : Dispatcher :=
  { d with snapshot := d.snapshot.bare, task := d.task.bare }

def Turn.bare (t : Turn) : Turn := (t.1.bare, t.2.map Effect.bare)

namespace Dispatcher

variable {d : Dispatcher} {a : Attempt} {now : Time} {effects : List Effect}

@[simp] theorem bare_state (d : Dispatcher) : d.bare.state = d.state := rfl

@[simp] theorem bare_handle (d : Dispatcher) : d.bare.handle = d.handle := rfl

@[simp] theorem plan_bare (state : State) (r : Request) : plan state r.bare = plan state r := by
  unfold plan
  rw [r.isStop_bare]

private theorem call_bare (d : Dispatcher) (a : Attempt) (c : Call) (effects : List Effect) :
    (d.call a c effects).bare = d.bare.call a.bare c (effects.map Effect.bare) := by
  simp only [call, Turn.bare, List.map_append]
  rfl

private theorem apply_bare (s : Snapshot) (input : Input) (reasons : List Reason) :
    s.bare.apply input [] = (s.apply input reasons).map Snapshot.bare := by
  have hs : s.bare.state = s.state := rfl
  unfold Snapshot.apply
  rw [hs]
  cases s.state.next? input <;> rfl

private theorem fail_bare_snapshot (s : Snapshot) (f : Failure) (reasons : List Reason) :
    s.bare.fail f [] = (s.fail f reasons).map Snapshot.bare := by
  unfold Snapshot.fail
  rw [apply_bare s .failed reasons]
  cases s.apply .failed reasons <;> rfl

private theorem move_bare {next next' : Dispatcher → List Effect → Turn}
    (h : ∀ d effects, (next d effects).bare = next' d.bare (effects.map Effect.bare))
    (d : Dispatcher) (a : Attempt) (input : Input) (effects : List Effect) :
    (d.move a input effects next).bare =
      d.bare.move a.bare input (effects.map Effect.bare) next' := by
  have ha : d.bare.snapshot.apply input a.bare.request.reasons =
      (d.snapshot.apply input a.request.reasons).map Snapshot.bare := apply_bare _ _ _
  unfold move
  rw [ha]
  cases d.snapshot.apply input a.request.reasons with
  | ok s =>
    simp only [Except.map, h, List.map_append]
    rfl
  | error f =>
    simp only [Except.map, rest, Turn.bare, List.map_append]
    rfl

private theorem succeed_bare (d : Dispatcher) (a : Attempt) (now : Time) (effects : List Effect) :
    (d.succeed a now effects).bare = d.bare.succeed a.bare now (effects.map Effect.bare) := by
  simp only [succeed, rest, Turn.bare, List.map_append]
  rfl

private theorem recover_bare (d : Dispatcher) (a : Attempt) (now : Time) (f : Failure)
    (effects : List Effect) :
    (d.recover a now f effects).bare = d.bare.recover a.bare now f (effects.map Effect.bare) := by
  have ha : a.bare.recovery = a.recovery := rfl
  unfold recover
  rw [ha]
  rcases a.recovery.handle f with ⟨delay | _, recovery⟩
  · simp only [Turn.bare, List.map_append]
    rfl
  · simp only [rest, Turn.bare, List.map_append]
    rfl

private theorem fail_bare (d : Dispatcher) (a : Attempt) (now : Time) (f : Failure)
    (effects : List Effect) :
    (d.fail a now f effects).bare = d.bare.fail a.bare now f (effects.map Effect.bare) := by
  have hf : d.bare.snapshot.fail f a.bare.request.reasons =
      (d.snapshot.fail f a.request.reasons).map Snapshot.bare := fail_bare_snapshot _ _ _
  unfold fail
  rw [hf]
  cases d.snapshot.fail f a.request.reasons with
  | ok s =>
    simp only [Except.map, recover_bare, List.map_append]
    rfl
  | error f =>
    simp only [Except.map, rest, Turn.bare, List.map_append]
    rfl

private theorem afterStop_bare (d : Dispatcher) (a : Attempt) (now : Time) (effects : List Effect) :
    (d.afterStop a now effects).bare = d.bare.afterStop a.bare now (effects.map Effect.bare) := by
  have ha : a.bare.action = a.action := rfl
  unfold afterStop
  apply move_bare
  intro d effects
  rw [ha]
  split
  · exact call_bare _ _ _ _
  · exact succeed_bare _ _ _ _

private theorem stopInstance_bare (d : Dispatcher) (a : Attempt) (now : Time)
    (effects : List Effect) :
    (d.stopInstance a now effects).bare =
      d.bare.stopInstance a.bare now (effects.map Effect.bare) := by
  unfold stopInstance
  rw [bare_handle]
  cases d.handle with
  | none => exact afterStop_bare _ _ _ _
  | some h => exact call_bare { d with handle := none } _ _ _

private theorem startInstance_bare (d : Dispatcher) (a : Attempt) (effects : List Effect) :
    (d.startInstance a effects).bare = d.bare.startInstance a.bare (effects.map Effect.bare) := by
  unfold startInstance
  rw [bare_handle]
  cases d.handle with
  | none => exact call_bare _ _ _ _
  | some h => exact call_bare { d with handle := none } _ _ _

private theorem attempt_bare (d : Dispatcher) (r : Request) (recovery : Recovery) (now : Time) :
    (d.attempt r recovery now).bare = d.bare.attempt r.bare recovery now := by
  unfold attempt
  simp only [bare_state, plan_bare]
  cases plan d.state r with
  | none => rfl
  | start => exact move_bare (fun d effects => startInstance_bare d _ effects) d _ _ _
  | restart => exact move_bare (fun d effects => stopInstance_bare d _ now effects) d _ _ _
  | stop => exact move_bare (fun d effects => stopInstance_bare d _ now effects) d _ _ _

private theorem afterStartCall_bare (d : Dispatcher) (a : Attempt) (now : Time)
    (answer : Answer Handle) :
    (d.afterStartCall a now answer).bare = d.bare.afterStartCall a.bare now answer := by
  cases answer with
  | done h =>
    unfold afterStartCall
    apply move_bare
    intro d effects
    exact succeed_bare d a now effects
  | failed e => exact fail_bare d a now _ []
  | timedOut => exact fail_bare d a now _ []

private theorem afterStopCall_bare (d : Dispatcher) (a : Attempt) (h : Handle) (now : Time)
    (answer : Answer Unit) :
    (d.afterStopCall a h now answer).bare = d.bare.afterStopCall a.bare h now answer := by
  cases answer with
  | done => exact afterStop_bare d a now []
  | failed e => exact fail_bare { d with handle := some h } a now _ []
  | timedOut => exact fail_bare { d with handle := some h } a now _ []

/-- A bare dispatcher takes the same turns, and the effects are the same but for what is bare. -/
theorem turn_bare (d : Dispatcher) (now : Time) (s : Signal) :
    (d.turn now s).bare = d.bare.turn now s.bare := by
  have hp : d.bare.policy = d.policy := rfl
  have ht : d.bare.task = d.task.bare := rfl
  unfold turn
  rw [ht, hp]
  cases d.task with
  | idle =>
    cases s with
    | request r => exact attempt_bare d r _ now
    | _ => rfl
  | calling a c =>
    cases c with
    | start =>
      cases s with
      | startAnswered answer => exact afterStartCall_bare d a now answer
      | _ => rfl
    | stop h =>
      cases s with
      | stopAnswered answer => exact afterStopCall_bare d a h now answer
      | _ => rfl
    | release h =>
      cases s with
      | stopAnswered answer => exact call_bare d a .start []
      | _ => rfl
  | waiting a delay =>
    cases s with
    | delayEnded => exact attempt_bare d a.request a.recovery now
    | _ => rfl

end Dispatcher
end RestartCoordinator
