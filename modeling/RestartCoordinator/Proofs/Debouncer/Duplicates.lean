import RestartCoordinator.Proofs.Debouncer.Deadlines
import RestartCoordinator.Proofs.DispatchLoop.Indifference
/-!
# Duplicate triggers

A trigger that does not stop may be folded in twice at the same time. The window then holds its
reason once more, and that is all: the two debouncers are alike but for repetitions of reasons. They
stay so through all their further uses, which give alike answers, and to the dispatcher alike
requests are the same.
-/
namespace RestartCoordinator

namespace Reason

variable {rs rs' : List Reason}

private theorem distinct_append_singleton (rs : List Reason) (r : Reason) :
    distinct (rs ++ [r]) = if r ∈ distinct rs then distinct rs else distinct rs ++ [r] := by
  rw [distinct, List.foldl_append]
  rfl

private theorem distinct_append_congr (h : distinct rs = distinct rs') (r : Reason) :
    distinct (rs ++ [r]) = distinct (rs' ++ [r]) := by
  rw [distinct_append_singleton, distinct_append_singleton, h]

private theorem distinct_append_twice (rs : List Reason) (r : Reason) :
    distinct (rs ++ [r] ++ [r]) = distinct (rs ++ [r]) := by
  have hr : r ∈ distinct (rs ++ [r]) := by
    rw [distinct_append_singleton]
    split
    · assumption
    · exact List.mem_append_right _ (List.mem_singleton_self r)
  rw [distinct_append_singleton (rs ++ [r]), if_pos hr]

end Reason

/-- The requests differ in their identifiers and in repetitions of reasons at most. -/
structure Request.Alike (r r' : Request) : Prop where
  command : r.command = r'.command
  windowStart : r.windowStart = r'.windowStart
  windowEnd : r.windowEnd = r'.windowEnd
  distinctReasons : r.distinctReasons = r'.distinctReasons
  superseded : Reason.distinct r.superseded = Reason.distinct r'.superseded

private theorem Request.Alike.isStop {r r' : Request} (h : r.Alike r') : r.isStop = r'.isStop := by
  unfold Request.isStop
  rw [h.command]

/-- The windows differ in repetitions of reasons at most. -/
structure Window.Alike (w w' : Window) : Prop where
  start : w.start = w'.start
  deadline : w.deadline = w'.deadline
  command : w.command = w'.command
  reasons : Reason.distinct w.reasons = Reason.distinct w'.reasons

/-- The uses differ in the identifiers at most. -/
inductive DebouncerMove.Like : DebouncerMove → DebouncerMove → Prop
  | fold (id id' : RequestId) (t : Trigger) (now : Time) : Like (.fold id t now) (.fold id' t now)
  | close (id id' : RequestId) (now : Time) : Like (.close id now) (.close id' now)
  | closeIfDue (id id' : RequestId) (now : Time) : Like (.closeIfDue id now) (.closeIfDue id' now)
  | discard : Like .discard .discard

/-- The answer to a use of a debouncer. -/
inductive Reply where
  | folded (f : Folded)
  | closed (r : Option Request)
  | discarded (reasons : List Reason)
deriving DecidableEq

/-- The answers are of one kind and tell the same, in requests that are alike. -/
inductive Reply.Alike : Reply → Reply → Prop
  | opened (deadline : Time) : Alike (.folded (.opened deadline)) (.folded (.opened deadline))
  | joined (deadline : Time) (extended : Bool) :
      Alike (.folded (.joined deadline extended)) (.folded (.joined deadline extended))
  | preempted {r r' : Request} (h : r.Alike r') :
      Alike (.folded (.preempted r)) (.folded (.preempted r'))
  | unclosed : Alike (.closed none) (.closed none)
  | closed {r r' : Request} (h : r.Alike r') : Alike (.closed (some r)) (.closed (some r'))
  | discarded {rs rs' : List Reason} (h : Reason.distinct rs = Reason.distinct rs') :
      Alike (.discarded rs) (.discarded rs')

namespace Debouncer

def reply (d : Debouncer) : DebouncerMove → Reply
  | .fold id t now => .folded (d.fold id t now).1
  | .close id now => .closed (d.close id now).1
  | .closeIfDue id now => .closed (d.closeIfDue id now).1
  | .discard => .discarded d.discard.1

/-- The answers to any number of uses, one after the other. -/
def replies (d : Debouncer) : List DebouncerMove → List Reply
  | [] => []
  | m :: moves => d.reply m :: (d.step m).1.replies moves

/-- The debouncers differ in repetitions of reasons at most. -/
structure Alike (d d' : Debouncer) : Prop where
  interval : d.interval = d'.interval
  longest : d.longest = d'.longest
  window : Option.Rel Window.Alike d.window d'.window

variable {d d' : Debouncer} {w w' : Window} {t : Trigger} {now : Time}

namespace Alike

private theorem cases (h : d.Alike d') :
    (d.window = none ∧ d'.window = none) ∨
      ∃ w w', d.window = some w ∧ d'.window = some w' ∧ w.Alike w' := by
  have hw := h.window
  revert hw
  cases d.window <;> cases d'.window <;> intro hw <;> cases hw
  · exact .inl ⟨rfl, rfl⟩
  · exact .inr ⟨_, _, rfl, rfl, ‹_›⟩

private theorem distinct_gathered (h : d.Alike d') :
    Reason.distinct d.gathered = Reason.distinct d'.gathered := by
  unfold gathered
  rcases h.cases with ⟨hw, hw'⟩ | ⟨w, w', hw, hw', ha⟩
  · rw [hw, hw']
  · rw [hw, hw']
    exact ha.reasons

private theorem deadline (h : d.Alike d') : d.deadline = d'.deadline := by
  unfold Debouncer.deadline
  rcases h.cases with ⟨hw, hw'⟩ | ⟨w, w', hw, hw', ha⟩
  · rw [hw, hw']
  · rw [hw, hw', Option.map_some, Option.map_some, ha.deadline]

private theorem join (h : d.Alike d') (hw : w.Alike w') (t : Trigger) (now : Time) :
    (d.join w t now).Alike (d'.join w' t now) := by
  constructor
  case start => exact hw.start
  case deadline =>
    simp only [Debouncer.join, extend, h.interval, h.longest, hw.start, hw.deadline]
  case command => simp only [Debouncer.join, hw.command]
  case reasons => exact Reason.distinct_append_congr hw.reasons t.reason

private theorem withoutWindow (h : d.Alike d') :
    Alike { d with window := none } { d' with window := none } :=
  ⟨h.interval, h.longest, .none⟩

private theorem withWindows (h : d.Alike d') (hw : w.Alike w') :
    Alike { d with window := some w } { d' with window := some w' } :=
  ⟨h.interval, h.longest, .some hw⟩

private theorem fold (h : d.Alike d') (id id' : RequestId) (t : Trigger) (now : Time) :
    (Reply.folded (d.fold id t now).1).Alike (.folded (d'.fold id' t now).1) ∧
      (d.fold id t now).2.Alike (d'.fold id' t now).2 := by
  unfold Debouncer.fold
  split
  · exact ⟨.preempted ⟨rfl, rfl, rfl, rfl, h.distinct_gathered⟩, h.withoutWindow⟩
  · rcases h.cases with ⟨hw, hw'⟩ | ⟨w, w', hw, hw', ha⟩
    · have hd : now + d.interval = now + d'.interval := by rw [h.interval]
      rw [hw, hw']
      refine ⟨?_, h.withWindows ⟨rfl, hd, rfl, rfl⟩⟩
      dsimp only
      rw [hd]
      exact .opened _
    · have hj : (d.join w t now).Alike (d'.join w' t now) := h.join ha t now
      rw [hw, hw']
      refine ⟨?_, h.withWindows hj⟩
      dsimp only
      rw [hj.deadline, ha.deadline]
      exact .joined _ _

private theorem close (h : d.Alike d') (id id' : RequestId) (now : Time) :
    (Reply.closed (d.close id now).1).Alike (.closed (d'.close id' now).1) ∧
      (d.close id now).2.Alike (d'.close id' now).2 := by
  refine ⟨?_, h.withoutWindow⟩
  unfold Debouncer.close
  rcases h.cases with ⟨hw, hw'⟩ | ⟨w, w', hw, hw', ha⟩
  · rw [hw, hw']
    exact .unclosed
  · rw [hw, hw']
    exact .closed ⟨ha.command, ha.start, rfl, ha.reasons, rfl⟩

/-- One use of two debouncers that are alike. -/
theorem step (h : d.Alike d') {m m' : DebouncerMove} (hm : m.Like m') :
    (d.reply m).Alike (d'.reply m') ∧ (d.step m).1.Alike (d'.step m').1 := by
  cases hm with
  | fold id id' t now =>
    rw [step_fold, step_fold]
    exact h.fold id id' t now
  | close id id' now => exact h.close id id' now
  | closeIfDue id id' now =>
    have hd : d.isDue now = d'.isDue now := by
      unfold isDue
      rw [h.deadline]
    simp only [reply, Debouncer.step, closeIfDue, hd]
    split
    · exact h.close id id' now
    · exact ⟨.unclosed, h⟩
  | discard => exact ⟨.discarded h.distinct_gathered, h.withoutWindow⟩

theorem run (h : d.Alike d') {moves moves' : List DebouncerMove}
    (hm : List.Forall₂ DebouncerMove.Like moves moves') :
    List.Forall₂ Reply.Alike (d.replies moves) (d'.replies moves') ∧
      (d.run moves).1.Alike (d'.run moves').1 := by
  induction hm generalizing d d' with
  | nil => exact ⟨.nil, h⟩
  | cons hlike _ ih =>
    obtain ⟨hreply, hnext⟩ := h.step hlike
    obtain ⟨hreplies, hlast⟩ := ih hnext
    exact ⟨.cons hreply hreplies, hlast⟩

end Alike

private theorem extend_extend (d : Debouncer) (w : Window) (p : Priority) (now : Time) :
    d.extend { w with deadline := d.extend w p now } p now = d.extend w p now := by
  cases p with
  | background => rfl
  | user => exact Nat.max_eq_left (Nat.le_max_right _ _)

private theorem extend_opened (d : Debouncer) (rs : List Reason) (c : Command) (p : Priority)
    (now : Time) : d.extend ⟨now, now + d.interval, rs, c⟩ p now = now + d.interval := by
  cases p with
  | background => rfl
  | user => exact Nat.max_eq_left (Nat.min_le_left _ _)

private theorem join_gather (d : Debouncer) (t : Trigger) (now : Time) :
    (d.gather t now).Alike (d.join (d.gather t now) t now) := by
  cases hw : d.window with
  | none =>
    rw [gather_of_closed hw]
    constructor
    case start => rfl
    case deadline => exact (d.extend_opened [t.reason] t.command t.priority now).symm
    case command =>
      simp only [join]
      split <;> simp_all
    case reasons => exact (Reason.distinct_append_twice [] t.reason).symm
  | some w =>
    rw [gather_of_open hw]
    constructor
    case start => rfl
    case deadline => exact (d.extend_extend w t.priority now).symm
    case command =>
      simp only [join]
      split <;> rfl
    case reasons => exact (Reason.distinct_append_twice w.reasons t.reason).symm

/-- In whatever state a debouncer is, a trigger that does not stop may be folded in twice instead of
once: the window has the same start, deadline and command; all further uses are answered alike, and
leave the same deadline; and of two requests that are alike, each brings a dispatcher to the same
end by the same calls. -/
theorem fold_twice (d : Debouncer) (ht : t.isStop = false) (now : Time) (id id' id'' : RequestId) :
    let once := (d.fold id t now).2
    let twice := ((d.fold id' t now).2.fold id'' t now).2
    (∃ w w', once.window = some w ∧ twice.window = some w' ∧ w.start = w'.start ∧
      w.deadline = w'.deadline ∧ w.command = w'.command) ∧
    (∀ moves moves', List.Forall₂ DebouncerMove.Like moves moves' →
      List.Forall₂ Reply.Alike (once.replies moves) (twice.replies moves') ∧
      (once.run moves).1.deadline = (twice.run moves').1.deadline) ∧
    ∀ r r', Request.Alike r r' → ∀ s l time beside,
      let c := Course.dispatch s l r time beside
      let c' := Course.dispatch s l r' time beside
      c.loop.dispatcher.state = c'.loop.dispatcher.state ∧ c.calls = c'.calls ∧
      (l.dispatcher.task = .idle → Dispatcher.Settled l.dispatcher.state l.dispatcher.handle →
        c.loop.dispatcher.isIdle ∧ c'.loop.dispatcher.isIdle) := by
  intro once twice
  have honce : once = { d with window := some (d.gather t now) } := window_fold ht id now
  have htwice : twice = { d with window := some (d.join (d.gather t now) t now) } := by
    change ((d.fold id' t now).2.fold id'' t now).2 = _
    rw [window_fold ht id' now, window_fold ht id'' now]
    rfl
  have hw : (d.gather t now).Alike (d.join (d.gather t now) t now) := d.join_gather t now
  have ha : once.Alike twice := by
    rw [honce, htwice]
    exact ⟨rfl, rfl, .some hw⟩
  refine ⟨⟨_, _, by rw [honce], by rw [htwice], hw.start, hw.deadline, hw.command⟩, ?_, ?_⟩
  · intro moves moves' hm
    obtain ⟨hreplies, hlast⟩ := ha.run hm
    exact ⟨hreplies, hlast.deadline⟩
  · intro r r' hr s l time beside c c'
    have hsame : c.Same c' := Course.same_dispatch s l hr.isStop time beside
    refine ⟨hsame.state, hsame.calls, ?_⟩
    intro hi hs
    have hidle : c.loop.dispatcher.task = .idle :=
      (Course.dispatch_keepsTo rfl hi hs r time beside).1
    exact ⟨decide_eq_true hidle, hsame.isIdle ▸ decide_eq_true hidle⟩

/-- A user pulls once or twice while a window is open. A stop would then supersede the reason once
or twice; when the window closes instead, either request starts the service in the same way. -/
theorem fold_twice_of_pull :
    let fold (reason : PlainReason) (now : Time) : DebouncerMove :=
      .fold .nil (.ofReason (.plain reason) "ui" now) now
    let stop := fold .switchOff 400
    let d := ((new 500 2000).run [fold .connectivityChanged 100]).1
    let pull : Trigger := .ofReason (.plain .pull) "ui" 300
    let once := (d.fold .nil pull 300).2
    let twice := ((d.fold .nil pull 300).2.fold .nil pull 300).2
    let r : Request := ⟨.nil, [.plain .connectivityChanged, .plain .pull], .reload, [], 100, 900⟩
    let r' : Request := { r with reasons := r.reasons ++ [.plain .pull] }
    let l := DispatchLoop.new (.new (.ofMillis 5) ⟨3, .ofMillis 1, .ofMillis 2, true⟩) true
    let s : Conduct := ⟨fun _ => some (2, .ok ⟨1⟩), fun _ => none⟩
    twice.deadline = some 800 ∧
    List.Forall₂ Reply.Alike (once.replies [stop]) (twice.replies [stop]) ∧
    once.replies [.close .nil 900] = [.closed (some r)] ∧
    twice.replies [.close .nil 900] = [.closed (some r')] ∧ r.Alike r' ∧
    (Course.dispatch s l r 900 []).calls = (Course.dispatch s l r' 900 []).calls ∧
    (Course.dispatch s l r' 900 []).loop.dispatcher.state = .running := by
  intro fold stop d pull once twice r r' l s
  have hpull : pull.isStop = false := by decide
  obtain ⟨-, hmore, hdispatch⟩ := d.fold_twice hpull 300 .nil .nil .nil
  have hstop : List.Forall₂ Reply.Alike (once.replies [stop]) (twice.replies [stop]) :=
    (hmore [stop] [stop] (.cons (.fold _ _ _ _) .nil)).1
  have hclose : List.Forall₂ Reply.Alike [.closed (some r)] [.closed (some r')] :=
    (hmore [.close .nil 900] [.close .nil 900] (.cons (.close _ _ _) .nil)).1
  have hr : r.Alike r' := by
    cases hclose with
    | cons h _ =>
      cases h with
      | closed hr => exact hr
  exact ⟨by decide, hstop, by decide, by decide, hr, (hdispatch r r' hr s l 900 []).2.1,
    by decide⟩

end Debouncer
end RestartCoordinator
