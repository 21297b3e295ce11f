import RestartCoordinator.Lifecycle.Watch
import RestartCoordinator.Proofs.DispatchLoop.Runs
/-!
# The history of a lifecycle machine

A machine may be asked for any move, and refuses those that its state does not have. What it shows
follows from the calls that it accepted: their inputs lead to its state, their number is its
generation, and the last of them gave the reasons and, if it was a failure, the message. The machine
of a dispatcher fails through failures only, so there a message goes with the failed state.
-/
namespace RestartCoordinator
namespace Lifecycle

theorem State.ne_failed_of_next? {s : State} {input : Input} (h : s.next? input = some .failed) :
    s ≠ .failed ∧ input = .failed := by
  cases s <;> cases input <;> simp_all [State.next?]

theorem State.eq_failed_of_next? {s t : State} (h : s.next? .failed = some t) : t = .failed := by
  cases s <;> simp_all [State.next?]

/-- A call that may move the machine. -/
inductive MachineCall where
  | apply (input : Input) (reasons : List Reason)
  | fail (failure : Failure) (reasons : List Reason)

namespace MachineCall

def input : MachineCall → Input
  | .apply input _ => input
  | .fail _ _ => .failed

def reasons : MachineCall → List Reason
  | .apply _ reasons | .fail _ reasons => reasons

/-- The message that the call brings. -/
def message? : MachineCall → Option String
  | .apply _ _ => none
  | .fail failure _ => some failure.message

private theorem input_of_message? {c : MachineCall} (h : c.message?.isSome) :
    c.input = .failed := by
  cases c with
  | apply => cases h
  | fail => rfl

end MachineCall

namespace Watch

variable {w : Watch} {input : Input} {state : State}

theorem apply_of_accepted (h : w.snapshot.state.next? input = some state)
    (reasons : List Reason) :
    w.apply input reasons = .ok (w.publish (w.snapshot.moveTo state reasons)) := by
  have hs : w.snapshot.apply input reasons = .ok (w.snapshot.moveTo state reasons) :=
    Snapshot.apply_eq_ok_iff.mpr ⟨state, h, rfl⟩
  unfold Watch.apply
  rw [hs]
  rfl

theorem apply_of_refused (h : w.snapshot.state.next? input = none) (reasons : List Reason) :
    w.apply input reasons = .error (.invalidTransition w.snapshot.state input) := by
  have hs : w.snapshot.apply input reasons = .error (.invalidTransition w.snapshot.state input) :=
    Snapshot.apply_eq_error_iff.mpr ⟨h, rfl⟩
  unfold Watch.apply
  rw [hs]
  rfl

def call (w : Watch) : MachineCall → Except Failure Watch
  | .apply input reasons => w.apply input reasons
  | .fail failure reasons => w.fail failure reasons

/-- The machine after a call, with the answer: the state it has come to, or why the call is
refused. -/
def respond (w : Watch) (c : MachineCall) : Watch × Except Failure State :=
  match w.call c with
  | .ok w' => (w', .ok w'.snapshot.state)
  | .error f => (w, .error f)

/-- The machine after any number of calls, with those that it accepted. -/
def run (w : Watch) : List MachineCall → Watch × List MachineCall
  | [] => (w, [])
  | c :: calls =>
    let (w', answer) := w.respond c
    let (last, accepted) := w'.run calls
    (last, if answer.isOk then c :: accepted else accepted)

private theorem respond_of_refused {c : MachineCall} (h : w.snapshot.state.next? c.input = none) :
    w.respond c = (w, .error (.invalidTransition w.snapshot.state c.input)) := by
  cases c with
  | apply input reasons =>
    have ha : w.apply input reasons = _ := apply_of_refused h reasons
    simp only [respond, call, ha]
  | fail failure reasons =>
    have ha : w.apply .failed reasons = _ := apply_of_refused h reasons
    simp only [respond, call, Watch.fail, ha]
    rfl

private theorem respond_of_accepted {c : MachineCall}
    (h : w.snapshot.state.next? c.input = some state) :
    (w.respond c).2 = .ok state ∧
      (w.respond c).1.snapshot =
        { w.snapshot.moveTo state c.reasons with
          lastError := c.message?.or (w.snapshot.moveTo state c.reasons).lastError } := by
  cases c with
  | apply input reasons =>
    have ha : w.apply input reasons = _ := apply_of_accepted h reasons
    simp only [respond, call, ha]
    exact ⟨rfl, rfl⟩
  | fail failure reasons =>
    have ha : w.apply .failed reasons = _ := apply_of_accepted h reasons
    simp only [respond, call, Watch.fail, ha]
    exact ⟨rfl, rfl⟩

end Watch

/-- The snapshot is what the accepted calls make of a new machine. -/
structure Snapshot.Records (s : Snapshot) (accepted : List MachineCall) : Prop where
  generation : s.generation = accepted.length
  state : (accepted.map MachineCall.input).foldlM State.next? .stopped = some s.state
  reasons : s.reasons = (accepted.getLast?.map MachineCall.reasons).getD []
  lastError : s.lastError = accepted.getLast?.bind MachineCall.message?
  failed : s.state = .failed → ∃ before c, accepted = before ++ [c] ∧ c.input = .failed
  only_failed : s.lastError.isSome → s.state = .failed

namespace Watch

open Snapshot (Records)

variable {w : Watch} {accepted : List MachineCall}

private theorem records_new : Records new.snapshot [] :=
  ⟨rfl, rfl, rfl, rfl, nofun, nofun⟩

private theorem records_respond (h : Records w.snapshot accepted) (c : MachineCall) :
    Records (w.respond c).1.snapshot
      (accepted ++ if (w.respond c).2.isOk then [c] else []) := by
  cases hn : w.snapshot.state.next? c.input with
  | none =>
    rw [respond_of_refused hn]
    simpa [Except.isOk, Except.toBool] using h
  | some state =>
    obtain ⟨hok, hs⟩ := respond_of_accepted hn
    rw [hok, hs]
    -- a message from before is gone: a state that can fail has none
    have hkept : (w.snapshot.moveTo state c.reasons).lastError = none := by
      simp only [Snapshot.moveTo]
      split
      · rename_i hf
        rw [hf] at hn
        have hnone := mt h.only_failed (State.ne_failed_of_next? hn).1
        simpa using hnone
      · rfl
    simp only [hkept, Option.or_none]
    constructor
    case generation => simp [Snapshot.moveTo, h.generation, Except.isOk, Except.toBool]
    case state => simp [Snapshot.moveTo, h.state, hn, Except.isOk, Except.toBool]
    case reasons => simp [Snapshot.moveTo, Except.isOk, Except.toBool]
    case lastError => simp [Except.isOk, Except.toBool]
    case failed =>
      intro hf
      obtain rfl : state = .failed := hf
      exact ⟨accepted, c, rfl, (State.ne_failed_of_next? hn).2⟩
    case only_failed =>
      intro hm
      rw [MachineCall.input_of_message? hm] at hn
      exact State.eq_failed_of_next? hn

theorem records_run (h : Records w.snapshot accepted) (calls : List MachineCall) :
    Records (w.run calls).1.snapshot (accepted ++ (w.run calls).2) := by
  induction calls generalizing w accepted with
  | nil => simpa [run] using h
  | cons c calls ih =>
    have hr := ih (records_respond h c)
    rw [List.append_assoc] at hr
    simp only [run]
    split <;> simp_all

end Watch
end Lifecycle

open Lifecycle (State)

/-- There is a message if and only if the lifecycle has failed. -/
def Dispatcher.Explains (d : Dispatcher) : Prop :=
  d.state = .failed ↔ d.snapshot.lastError.isSome

namespace Dispatcher

variable {d d' : Dispatcher} {now : Time} {s : Signal} {effects : List Effect}

private theorem explains_enter (d : Dispatcher) {state : State} (hs : state ≠ .failed)
    (reasons : List Reason) : (d.enter state reasons).Explains := by
  simp [Explains, enter, Dispatcher.state, Lifecycle.Snapshot.moveTo, hs]

private theorem explains_enterFailed (d : Dispatcher) (f : Failure) (reasons : List Reason) :
    (d.enterFailed f reasons).Explains :=
  ⟨fun _ => rfl, fun _ => rfl⟩

private theorem Goes.explains (hg : d.Goes now s d' effects) (h : d.Explains) : d'.Explains := by
  cases hg with
  | ignored | skipped | cut | released => exact h
  | retries | givesUp => exact d.explains_enterFailed _ _
  | stops | restarts | starts | releases | started | stopped | restopped =>
    exact d.explains_enter (by decide) _
  | stopsNothing => exact (d.enter _ _).explains_enter (by decide) _

end Dispatcher

theorem DispatchLoop.run_explains {l : DispatchLoop} (hf : l.dispatcher.Fits)
    (h : l.dispatcher.Explains) (moves : List (Time × LoopMove)) :
    (l.run moves).1.dispatcher.Explains := by
  induction moves generalizing l with
  | nil => exact h
  | cons head rest ih =>
    obtain ⟨now, m⟩ := head
    simp only [run]
    cases hs : l.step? now m with
    | none => exact ih hf h
    | some next =>
      obtain ⟨l', effects⟩ := next
      apply ih (step?_fits hs hf).1
      rcases step?_turn hs with ⟨hd, -⟩ | ⟨signal, hd⟩
      · exact hd ▸ h
      · have hg := hf.goes now signal
        rw [← hd] at hg
        exact hg.explains h

namespace Lifecycle.Watch

/-- Whatever is asked of a new machine, in any order:
* its generation is the number of calls that it accepted, and their inputs lead from stopped to its
  state;
* its reasons are those of the last of them, and so is its message, which only a failure brings;
* it has failed only by the last of them, and has no message unless it has failed;
* a call is accepted if the state has a move for its input, and is refused otherwise, with the state
  and the input and without any change; so is a failure unless a move is under way.
In all runs of a dispatcher it has a message if and only if it has failed. -/
theorem run_history (calls : List MachineCall) :
    let w := (new.run calls).1
    let accepted := (new.run calls).2
    let s := w.snapshot
    s.generation = accepted.length ∧
    (accepted.map MachineCall.input).foldlM State.next? .stopped = some s.state ∧
    s.reasons = (accepted.getLast?.map MachineCall.reasons).getD [] ∧
    s.lastError = accepted.getLast?.bind MachineCall.message? ∧
    (s.state = .failed →
      ∃ before c, accepted = before ++ [c] ∧ c.input = .failed ∧ s.lastError = c.message?) ∧
    (s.lastError.isSome → s.state = .failed) ∧
    (∀ c : MachineCall, match s.state.next? c.input with
      | some state => (w.respond c).2 = .ok state
      | none => w.respond c = (w, .error (.invalidTransition s.state c.input))) ∧
    (∀ f reasons, s.state.isTransitional = false →
      w.respond (.fail f reasons) = (w, .error (.invalidTransition s.state .failed))) ∧
    ∀ timeout policy stopAtEnd moves,
      let d := ((DispatchLoop.new (.new timeout policy) stopAtEnd).run moves).1.dispatcher
      d.state = .failed ↔ d.snapshot.lastError.isSome := by
  intro w accepted s
  have h : s.Records accepted := by simpa using records_run records_new calls
  refine ⟨h.generation, h.state, h.reasons, h.lastError, ?_, h.only_failed, ?_, ?_, ?_⟩
  · intro hf
    obtain ⟨before, c, hc, hi⟩ := h.failed hf
    refine ⟨before, c, hc, hi, ?_⟩
    rw [h.lastError, hc, List.getLast?_concat, Option.bind_some]
  · intro c
    cases hn : s.state.next? c.input with
    | some state => exact (respond_of_accepted hn).1
    | none => exact respond_of_refused hn
  · intro f reasons ht
    have hn : s.state.next? .failed = none := by
      apply Option.not_isSome_iff_eq_none.mp
      rw [next?_failed_isSome_iff, ht]
      exact Bool.false_ne_true
    exact respond_of_refused (c := .fail f reasons) hn
  · intro timeout policy stopAtEnd moves
    apply DispatchLoop.run_explains (DispatchLoop.new_fits timeout policy stopAtEnd)
    exact ⟨nofun, nofun⟩

/-- A start that fails. A restart is refused while it is under way, and so is a second failure. -/
theorem run_history_of_failure :
    let failure : Failure := .timedOut "start" (.ofMillis 5)
    let calls : List MachineCall := [.apply .start [.plain .ui], .apply .restart [.plain .pull],
      .fail failure [.plain .tile]]
    let w := (new.run calls).1
    w.snapshot.generation = 2 ∧ w.snapshot.state = .failed ∧
      w.snapshot.reasons = [.plain .tile] ∧ w.snapshot.lastError = some failure.message ∧
      w.respond (.fail failure []) = (w, .error (.invalidTransition .failed .failed)) := by
  intro failure calls w
  have hs : w.snapshot.state = .failed := by decide
  obtain ⟨hgeneration, -, hreasons, hmessage, -, -, -, hrefused, -⟩ := run_history calls
  exact ⟨hgeneration, hs, hreasons, hmessage, hs ▸ hrefused failure [] (by decide)⟩

end Lifecycle.Watch
end RestartCoordinator
