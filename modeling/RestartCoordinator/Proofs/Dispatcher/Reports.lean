import RestartCoordinator.Proofs.Dispatcher.Turns
/-!
# The reports of one request

A request is served by attempts that are numbered from zero, and each attempt ends with one report.
A report either announces the next attempt or concludes the matter, so the reports of one request
form a `Chronicle`: retries first, one conclusion last, unless a wanted stop cuts the wait for an
attempt. What is counted and which calls are made goes with the reports.
-/
namespace RestartCoordinator
open Lifecycle (State)

/-- What is counted when an attempt ends in this way. -/
def Outcome.occurrence : Outcome → Occurrence
  | .succeeded => .dispatch
  | .skipped => .skipped
  | .retrying .. => .retry
  | .failed _ => .failure

private theorem Tally.foldl_record (occurrences : List Occurrence) (t : Tally) :
    occurrences.foldl record t =
      { windowsOpened := t.windowsOpened + occurrences.count .windowOpened
        requestsCoalesced := t.requestsCoalesced + occurrences.count .requestCoalesced
        stopPreemptions := t.stopPreemptions + occurrences.count .stopPreemption
        requestsMerged := t.requestsMerged + occurrences.count .requestMerged
        dispatches := t.dispatches + occurrences.count .dispatch
        skipped := t.skipped + occurrences.count .skipped
        failures := t.failures + occurrences.count .failure
        retries := t.retries + occurrences.count .retry } := by
  induction occurrences generalizing t with
  | nil => rfl
  | cons o rest ih =>
    rw [List.foldl_cons, ih]
    cases o <;> simp [record, Nat.add_comm, Nat.add_left_comm]

theorem Tally.foldl_record_reports (reports : List Report) (t : Tally) :
    (reports.map (·.outcome.occurrence)).foldl record t =
      { t with
        dispatches := t.dispatches + reports.countP (·.outcome.occurrence = .dispatch)
        skipped := t.skipped + reports.countP (·.outcome.occurrence = .skipped)
        failures := t.failures + reports.countP (·.outcome.occurrence = .failure)
        retries := t.retries + reports.countP (·.outcome.occurrence = .retry) } := by
  have hn (o : Occurrence) (ho : ∀ outcome : Outcome, outcome.occurrence ≠ o) :
      (reports.map (·.outcome.occurrence)).count o = 0 :=
    List.count_eq_zero.mpr fun hm => by
      obtain ⟨e, -, he⟩ := List.mem_map.mp hm
      exact ho e.outcome he
  have hc (o : Occurrence) : (reports.map (·.outcome.occurrence)).count o =
      reports.countP (·.outcome.occurrence = o) := by
    rw [List.count, List.countP_map]
    exact List.countP_congr fun e _ => by simp
  rw [foldl_record, hn .windowOpened nofun, hn .requestCoalesced nofun, hn .stopPreemption nofun,
    hn .requestMerged nofun, hc, hc, hc, hc]
  rfl

def Effect.isStopCall : Effect → Bool
  | .called (.stop _) | .called (.release _) => true
  | _ => false

def reportsIn (effects : List Effect) : List Report := effects.filterMap Effect.report?

def startsIn (effects : List Effect) : Nat := effects.count (.called .start)

/-- The calls that stop an instance, a release included. -/
def stopsIn (effects : List Effect) : Nat := effects.countP Effect.isStopCall

section
variable {before after : List Effect}

private theorem reportsIn_append :
    reportsIn (before ++ after) = reportsIn before ++ reportsIn after :=
  List.filterMap_append

private theorem startsIn_append : startsIn (before ++ after) = startsIn before + startsIn after :=
  List.count_append

private theorem stopsIn_append : stopsIn (before ++ after) = stopsIn before + stopsIn after :=
  List.countP_append

end

/-- A service call fails in one of these ways. -/
inductive Failure.OfCall : Failure → Prop where
  | startFailed (error : ServiceError) : OfCall (.startFailed error)
  | stopFailed (error : ServiceError) : OfCall (.stopFailed error)
  | startTimedOut (timeout : Duration) : OfCall (.timedOut "start" timeout)
  | stopTimedOut (timeout : Duration) : OfCall (.timedOut "stop" timeout)

private theorem append_ne_append {a b : String} (n : Nat) (ha : n ≤ a.toList.length)
    (hb : n ≤ b.toList.length) (h : a.toList.take n ≠ b.toList.take n) (x y : String) :
    a ++ x ≠ b ++ y := by
  intro he
  have ht := congrArg (fun text => text.toList.take n) he
  simp only [String.toList_append] at ht
  rw [List.take_append_of_le_length ha, List.take_append_of_le_length hb] at ht
  exact h ht

theorem Failure.OfCall.isRetryable_of_message {f : Failure} {timeout : Duration}
    (hf : f.OfCall)
    (hm : f.message = (timedOut "start" timeout).message ∨
      f.message = (timedOut "stop" timeout).message) : f.isRetryable := by
  have differs {failed operation : String} (x y : String)
      (ha : 9 ≤ failed.toList.length)
      (hb : 9 ≤ ("Service " ++ operation ++ " did not complete within ").toList.length)
      (h : failed.toList.take 9 ≠
        ("Service " ++ operation ++ " did not complete within ").toList.take 9) :
      failed ++ x ≠ "Service " ++ operation ++ " did not complete within " ++ y :=
    append_ne_append 9 ha hb h x y
  cases hf with
  | startFailed e | stopFailed e =>
    rcases hm with hm | hm
    · exact absurd hm (differs _ _ (by decide) (by decide) (by decide))
    · exact absurd hm (differs _ _ (by decide) (by decide) (by decide))
  | startTimedOut | stopTimedOut => rfl

/-- The attempt of this number at a request that was taken up in the state `origin`. -/
structure Attempt.IsOf (a : Attempt) (policy : RetryPolicy) (r : Request) (origin : State)
    (number : Nat) : Prop where
  request : a.request = r
  action : a.action = Dispatcher.plan a.origin r
  origin : a.origin = if number = 0 then origin else .failed
  recovery : a.recovery = ⟨policy, number⟩

/-- The report of the attempt of this number. -/
structure Report.IsOf (e : Report) (r : Request) (origin : State) (number : Nat) : Prop where
  request : e.request = r.id
  reasons : e.reasons = r.reasons
  attempt : e.attempt = number
  origin : e.origin = if number = 0 then origin else .failed

/-- The report announces the next attempt after that of this number. -/
structure Report.Announces (e : Report) (policy : RetryPolicy) (number : Nat) : Prop where
  target : e.target = .failed
  outcome : ∃ error, e.outcome =
    .retrying error (number + 1) ((policy.delay number).millis % UInt64.size)

/-- After an attempt that ends in this way there is no other. -/
inductive Outcome.Concludes (policy : RetryPolicy) (r : Request) (origin : State) (number : Nat) :
    Outcome → Prop where
  | succeeded : Concludes policy r origin number .succeeded
  | skipped (hn : number = 0) (hr : r.isStop) (ho : origin = .stopped) :
    Concludes policy r origin number .skipped
  | failed {f : Failure} (hf : f.OfCall) (hn : f.isRetryable → number = policy.maxRetries) :
    Concludes policy r origin number (.failed f.message)

/-- The reports from the attempt of this number on. The last one concludes the matter, unless a stop
is wanted and cuts the wait for the next attempt. -/
inductive Chronicle (policy : RetryPolicy) (r : Request) (origin : State) (wanted : Prop) :
    Nat → List Report → Prop where
  | cut {number} (hp : 0 < number) (hw : wanted) : Chronicle policy r origin wanted number []
  | concluded {number e} (hn : number ≤ policy.maxRetries) (he : e.IsOf r origin number)
      (hc : e.outcome.Concludes policy r origin number) :
      Chronicle policy r origin wanted number [e]
  | retried {number e rest} (hn : number < policy.maxRetries) (he : e.IsOf r origin number)
      (ha : e.Announces policy number) (hr : Chronicle policy r origin wanted (number + 1) rest) :
      Chronicle policy r origin wanted number (e :: rest)

theorem Chronicle.of_getElem? {policy : RetryPolicy} {r : Request} {origin : State} {wanted : Prop}
    {number i : Nat} {reports : List Report} {e : Report}
    (h : Chronicle policy r origin wanted number reports) (he : reports[i]? = some e) :
    e.IsOf r origin (number + i) ∧
      (e.Announces policy (number + i) ∧ (i + 1 = reports.length → wanted) ∨
        i + 1 = reports.length ∧ e.outcome.Concludes policy r origin (number + i)) := by
  induction h generalizing i with
  | cut => cases he
  | @concluded number first hn hf hc =>
    cases i with
    | succ i => cases he
    | zero =>
      obtain rfl : first = e := Option.some.inj he
      exact ⟨hf, .inr ⟨rfl, hc⟩⟩
  | @retried number first rest hn hf ha hr ih =>
    cases i with
    | zero =>
      obtain rfl : first = e := Option.some.inj he
      refine ⟨hf, .inl ⟨ha, fun hl => ?_⟩⟩
      cases hr with
      | cut _ hw => exact hw
      | concluded | retried => simp at hl
    | succ i =>
      rw [List.getElem?_cons_succ] at he
      rw [List.length_cons, ← Nat.add_assoc, Nat.add_right_comm number, Nat.add_right_cancel_iff]
      exact ih he

theorem Chronicle.ne_nil {policy : RetryPolicy} {r : Request} {origin : State} {wanted : Prop}
    {reports : List Report} (h : Chronicle policy r origin wanted 0 reports) : reports ≠ [] := by
  cases h with
  | cut hp => exact absurd hp (Nat.lt_irrefl 0)
  | concluded | retried => exact List.cons_ne_nil _ _

theorem Chronicle.length_le {policy : RetryPolicy} {r : Request} {origin : State} {wanted : Prop}
    {number : Nat} {reports : List Report}
    (h : Chronicle policy r origin wanted number reports) (hn : number ≤ policy.maxRetries) :
    number + reports.length ≤ policy.maxRetries + 1 := by
  induction h with
  | cut => exact Nat.le_succ_of_le hn
  | concluded => exact Nat.succ_le_succ hn
  | retried hlt he ha hr ih =>
    have hl := ih hlt
    rw [List.length_cons]
    omega

/-- The start of the attempt under way that has been called. -/
def Task.starts : Task → Nat
  | .calling _ .start => 1
  | _ => 0

/-- The stop of the attempt under way that has been called, or need not be. -/
def Task.stops : Task → Nat
  | .calling .. => 1
  | _ => 0

private theorem Task.starts_le_one (task : Task) : task.starts ≤ 1 := by
  unfold starts
  split <;> decide

private theorem Task.stops_le_one (task : Task) : task.stops ≤ 1 := by
  unfold stops
  split <;> decide

/-- What is still to come for a request, with the calls already made for the attempt under way:
each attempt is reported, and for each one start and one stop are called at most. -/
structure Remains (policy : RetryPolicy) (r : Request) (origin : State) (wanted : Prop)
    (task : Task) (number : Nat) (effects : List Effect) : Prop where
  chronicle : Chronicle policy r origin wanted number (reportsIn effects)
  counted : effects.filterMap Effect.occurrence? =
    (reportsIn effects).map (·.outcome.occurrence)
  starts_le : startsIn effects + task.starts ≤ (reportsIn effects).length
  stops_le : stopsIn effects + task.stops ≤ (reportsIn effects).length
  stop_only : r.isStop → startsIn effects = 0

theorem Remains.exists_last {policy : RetryPolicy} {r : Request} {origin : State} {wanted : Prop}
    {effects : List Effect} (h : Remains policy r origin wanted .idle 0 effects) :
    ∃ e, (reportsIn effects).getLast? = some e ∧ e.attempt + 1 = (reportsIn effects).length ∧
      (e.outcome = .succeeded ∨ e.outcome = .skipped ∨
        (∃ f : Failure, f.OfCall ∧ e.outcome = .failed f.message ∧
          (f.isRetryable → e.attempt = policy.maxRetries)) ∨
        e.outcome.occurrence = .retry ∧ wanted) := by
  have hc := h.chronicle.ne_nil
  have he := List.getLast?_eq_some_getLast hc
  generalize (reportsIn effects).getLast hc = e at he
  have hl : (reportsIn effects).length - 1 + 1 = (reportsIn effects).length :=
    Nat.sub_add_cancel (List.length_pos_iff.mpr hc)
  obtain ⟨ho, hx⟩ := h.chronicle.of_getElem? (List.getLast?_eq_getElem?.symm.trans he)
  rw [Nat.zero_add] at ho hx
  have hn := ho.attempt
  refine ⟨e, he, hn ▸ hl, ?_⟩
  rcases hx with ⟨ha, hw⟩ | ⟨-, hc⟩
  · obtain ⟨error, ho⟩ := ha.outcome
    exact .inr (.inr (.inr ⟨by rw [ho]; rfl, hw hl⟩))
  · generalize e.outcome = outcome at hc ⊢
    cases hc with
    | succeeded => exact .inl rfl
    | skipped => exact .inr (.inl rfl)
    | failed hf hx => exact .inr (.inr (.inl ⟨_, hf, rfl, fun hr => hn.trans (hx hr)⟩))

namespace Dispatcher

/-- The dispatcher serves the request, and the attempt of this number is under way or next. -/
inductive Serves (policy : RetryPolicy) (r : Request) (origin : State) (d : Dispatcher) :
    Nat → Prop where
  | calling {number a c} (ht : d.task = .calling a c) (hn : number ≤ policy.maxRetries)
      (ha : a.IsOf policy r origin number) : Serves policy r origin d number
  | waiting {number a delay} (ht : d.task = .waiting a delay) (hn : number ≤ policy.maxRetries)
      (hp : 0 < number) (hr : a.request = r) (ha : a.recovery = ⟨policy, number⟩) :
      Serves policy r origin d number

variable {d d' : Dispatcher} {now : Time} {s : Signal} {effects : List Effect}
  {policy : RetryPolicy} {r : Request} {origin : State} {wanted : Prop} {number : Nat}

private theorem Begins.unique_recovery {r r' : Request} {recovery recovery' : Recovery}
    (hb : d.Begins s r recovery) (hb' : d.Begins s r' recovery') : recovery = recovery' := by
  rcases hb with ⟨ht, hs, hr⟩ | ⟨a, delay, ht, hs, -, hr⟩ <;>
    rcases hb' with ⟨ht', hs', hr'⟩ | ⟨a', delay', ht', hs', -, hr'⟩ <;> simp_all

private theorem tried_isOf (ho : d.state = if number = 0 then origin else .failed) :
    (d.tried r ⟨policy, number⟩ now).IsOf policy r origin number :=
  ⟨rfl, rfl, ho, rfl⟩

private theorem report_isOf {a : Attempt} (ha : a.IsOf policy r origin number) (outcome : Outcome) :
    (d.report a now outcome).IsOf r origin number := by
  obtain ⟨rfl, -, ho, hr⟩ := ha
  exact ⟨rfl, rfl, congrArg Recovery.retries hr, ho⟩

private theorem handle_eq_retryAfter {recovery : Recovery} {f : Failure} {delay : Duration}
    (h : Recovery.handle ⟨policy, number⟩ f = (.retryAfter delay, recovery)) :
    number < policy.maxRetries ∧ delay = policy.delay number ∧
      recovery = ⟨policy, number + 1⟩ := by
  unfold Recovery.handle at h
  split at h
  · rename_i hc
    obtain ⟨hd, rfl⟩ := Prod.mk.inj h
    have hx : ¬policy.maxRetries ≤ number := by
      simp_all [Recovery.isExhausted]
    exact ⟨by omega, (RetryDecision.retryAfter.inj hd).symm, rfl⟩
  · cases h

theorem handle_eq_giveUp {f : Failure} (h : (Recovery.handle ⟨policy, number⟩ f).1 = .giveUp)
    (hf : f.isRetryable) : policy.maxRetries ≤ number := by
  unfold Recovery.handle at h
  split at h
  · cases h
  · simp_all [Recovery.isExhausted]

private theorem failure?_ofCall {c : Call} {f : Failure} (h : d.failure? c s = some f) :
    f.OfCall := by
  unfold failure? at h
  split at h <;> cases h
  · exact .startFailed _
  · exact .startTimedOut _
  · exact .stopFailed _
  · exact .stopTimedOut _

/-- The effects of the turn so far are moves and calls only. -/
structure Silent (effects : List Effect) : Prop where
  reports : reportsIn effects = []
  counts : effects.filterMap Effect.occurrence? = []

private theorem remains_called {task task' : Task} {called rest : List Effect} (hc : Silent called)
    (hs : startsIn called + task.starts ≤ task'.starts)
    (hp : stopsIn called + task.stops ≤ task'.stops) (hr : r.isStop → startsIn called = 0)
    (h : Remains policy r origin wanted task' number rest) :
    Remains policy r origin wanted task number (called ++ rest) := by
  have hl : reportsIn (called ++ rest) = reportsIn rest := by
    rw [reportsIn_append, hc.reports, List.nil_append]
  have hstarts := h.starts_le
  have hstops := h.stops_le
  constructor
  · rw [hl]
    exact h.chronicle
  · rw [hl, List.filterMap_append, hc.counts, List.nil_append]
    exact h.counted
  · rw [hl, startsIn_append]
    omega
  · rw [hl, stopsIn_append]
    omega
  · intro hstop
    rw [startsIn_append, hr hstop, h.stop_only hstop]

/-- The effects of the turn in which an attempt is reported. -/
def reported (origin target : State) (e : Report) : List Effect :=
  [.moved origin target, .counted e.outcome.occurrence, .reported e]

private theorem remains_retried {task task' : Task} {e : Report} {rest : List Effect}
    {before after : State} (hn : number < policy.maxRetries) (he : e.IsOf r origin number)
    (ha : e.Announces policy number)
    (h : Remains policy r origin wanted task' (number + 1) rest) :
    Remains policy r origin wanted task number (reported before after e ++ rest) := by
  have hl : reportsIn (reported before after e ++ rest) = e :: reportsIn rest := rfl
  have hs : startsIn (reported before after e ++ rest) = startsIn rest :=
    startsIn_append.trans (Nat.zero_add _)
  have hp : stopsIn (reported before after e ++ rest) = stopsIn rest :=
    stopsIn_append.trans (Nat.zero_add _)
  have hs' := task.starts_le_one
  have hp' := task.stops_le_one
  have hstarts := h.starts_le
  have hstops := h.stops_le
  constructor
  · rw [hl]
    exact .retried hn he ha h.chronicle
  · rw [hl, List.map_cons, ← h.counted]
    rfl
  · rw [hl, hs, List.length_cons]
    omega
  · rw [hl, hp, List.length_cons]
    omega
  · rw [hs]
    exact h.stop_only

private theorem remains_concluded {task : Task} {e : Report} (called : List Effect)
    (hm : Silent called)
    (hs : startsIn called = 0) (hp : stopsIn called = 0)
    (hn : number ≤ policy.maxRetries) (he : e.IsOf r origin number)
    (hc : e.outcome.Concludes policy r origin number) :
    Remains policy r origin wanted task number
      (called ++ [.counted e.outcome.occurrence, .reported e]) := by
  have hl : reportsIn (called ++ [.counted e.outcome.occurrence, .reported e]) = [e] := by
    rw [reportsIn_append, hm.reports]
    rfl
  have hs' : startsIn (called ++ [.counted e.outcome.occurrence, .reported e]) = 0 := by
    rw [startsIn_append, hs]
    rfl
  have hp' : stopsIn (called ++ [.counted e.outcome.occurrence, .reported e]) = 0 := by
    rw [stopsIn_append, hp]
    rfl
  constructor
  · rw [hl]
    exact .concluded hn he hc
  · rw [hl, List.filterMap_append, hm.counts]
    rfl
  · rw [hl, hs', Nat.zero_add]
    exact task.starts_le_one
  · rw [hl, hp', Nat.zero_add]
    exact task.stops_le_one
  · exact fun _ => hs'

/-- A turn ends the service of the request, or it goes on. -/
def Advances (policy : RetryPolicy) (r : Request) (origin : State) (wanted : Prop)
    (task : Task) (number : Nat) (d' : Dispatcher) (effects : List Effect) : Prop :=
  (d'.task = .idle ∧ Remains policy r origin wanted task number effects) ∨
    ∃ next, d'.Serves policy r origin next ∧ ∀ rest,
      Remains policy r origin wanted d'.task next rest →
        Remains policy r origin wanted task number (effects ++ rest)

theorem Advances.serves {task : Task} (h : Advances policy r origin True task number d' effects) :
    d'.task = .idle ∨ ∃ next, d'.Serves policy r origin next :=
  h.imp And.left fun ⟨next, hs, _⟩ => ⟨next, hs⟩

theorem Goes.advances_of_begins (hg : d.Goes now s d' effects)
    (hb : d.Begins s r ⟨policy, number⟩) (hn : number ≤ policy.maxRetries)
    (ho : d.state = if number = 0 then origin else .failed) :
    Advances policy r origin wanted d.task number d' effects := by
  have hs : d.task.starts = 0 ∧ d.task.stops = 0 := by
    rcases hb with ⟨ht, -⟩ | ⟨_, _, ht, -⟩ <;> rw [ht] <;> exact ⟨rfl, rfl⟩
  cases hg with
  | ignored hi =>
    rcases hb with ⟨ht, rfl, -⟩ | ⟨_, _, ht, rfl, -, -⟩ <;> simp [awaits, ht] at hi
  | skipped hb' hr hs' =>
    obtain rfl := hb'.unique hb
    obtain rfl := hb'.unique_recovery hb
    have hz : number = 0 := Decidable.byContradiction fun hz => by
      rw [if_neg hz, hs'] at ho
      cases ho
    refine .inl ⟨rfl, remains_concluded [] ⟨rfl, rfl⟩ rfl rfl hn
      (report_isOf (tried_isOf ho) _) (.skipped hz hr ?_)⟩
    rw [if_pos hz] at ho
    exact ho.symm.trans hs'
  | stopsNothing hb' hr hs' hh =>
    obtain rfl := hb'.unique hb
    obtain rfl := hb'.unique_recovery hb
    exact .inl ⟨rfl, remains_concluded [.moved .failed .stopping, .moved .stopping .stopped]
      ⟨rfl, rfl⟩ rfl rfl hn (report_isOf (tried_isOf ho) _) .succeeded⟩
  | stops hb' | restarts hb' | releases hb' =>
    obtain rfl := hb'.unique hb
    obtain rfl := hb'.unique_recovery hb
    refine .inr ⟨number, .calling rfl hn (tried_isOf ho), fun rest h => ?_⟩
    exact remains_called ⟨rfl, rfl⟩ (hs.1 ▸ Nat.le_refl 0) (hs.2 ▸ Nat.le_refl 1) (fun _ => rfl) h
  | starts hb' hr =>
    obtain rfl := hb'.unique hb
    obtain rfl := hb'.unique_recovery hb
    refine .inr ⟨number, .calling rfl hn (tried_isOf ho), fun rest h => ?_⟩
    exact remains_called ⟨rfl, rfl⟩ (hs.1 ▸ Nat.le_refl 1) (hs.2 ▸ Nat.zero_le 1) (by simp [hr]) h
  | cut => rcases hb with ⟨_, hs', -⟩ | ⟨_, _, _, hs', -, -⟩ <;> simp at hs'
  | started ht | stopped ht | restopped ht | released ht | retries ht | givesUp ht =>
    exact absurd ht (hb.not_calling _ _)

theorem Serves.action_of_stop {a : Attempt} {c : Call} (h : d.Serves policy r origin number)
    (ht : d.task = .calling a c) (hr : r.isStop) : a.action = .none ∨ a.action = .stop := by
  cases h with
  | calling ht' hn ha =>
    obtain ⟨rfl, -⟩ := Task.calling.inj (ht'.symm.trans ht)
    rw [ha.action, plan_stop hr]
    split
    · exact .inl rfl
    · exact .inr rfl
  | waiting ht' => cases ht'.symm.trans ht

theorem Serves.attempt {a : Attempt} {c : Call} (h : d.Serves policy r origin number)
    (ht : d.task = .calling a c) : number ≤ policy.maxRetries ∧ a.IsOf policy r origin number := by
  cases h with
  | calling ht' hn ha =>
    obtain ⟨rfl, -⟩ := Task.calling.inj (ht'.symm.trans ht)
    exact ⟨hn, ha⟩
  | waiting ht' => cases ht'.symm.trans ht

theorem Serves.task_ne_idle (h : d.Serves policy r origin number) : d.task ≠ .idle := by
  cases h with
  | calling ht | waiting ht => simp [ht]

theorem Goes.idle_of_stopWanted (hg : d.Goes now .stopWanted d' effects)
    (hw : d.awaits .stopWanted) : d'.task = .idle := by
  cases hg with
  | ignored hs => simp [hs] at hw
  | cut => rfl
  | skipped hb | stops hb | stopsNothing hb | restarts hb | starts hb | releases hb =>
    rcases hb with ⟨-, hs, -⟩ | ⟨_, _, -, hs, -, -⟩ <;> cases hs
  | givesUp => rfl
  | @retries s a c f delay recovery ht hf =>
    cases c <;> cases hf

/-- A turn at a request: a report concludes the matter or announces the next attempt, or the attempt
under way goes on to its start. -/
theorem Goes.advances (hg : d.Goes now s d' effects) (hf : d.Fits)
    (h : d.Serves policy r origin number) (hw : s = .stopWanted → wanted) :
    Advances policy r origin wanted d.task number d' effects := by
  have hb {r' : Request} {recovery : Recovery} (hb : d.Begins s r' recovery) :
      Advances policy r origin wanted d.task number d' effects := by
    cases h with
    | calling ht => exact absurd ht (hb.not_calling _ _)
    | @waiting a delay ht hn hp hr ha =>
      have hs : d.state = .failed := by simpa only [Fits, ht] using hf
      rcases hb with ⟨ht', -, -⟩ | ⟨a', delay', ht', hs', -, -⟩
      · cases ht.symm.trans ht'
      · refine hg.advances_of_begins (.inr ⟨a, delay, ht, hs', hr.symm, ha.symm⟩) hn ?_
        rw [if_neg (Nat.ne_of_gt hp), hs]
  -- the turns that begin an attempt are those after a delay; the others answer the call under way
  cases hg with
  | ignored => exact .inr ⟨number, h, fun rest hr => hr⟩
  | skipped hb' | stops hb' | stopsNothing hb' | restarts hb' | starts hb' | releases hb' =>
    exact hb hb'
  | cut ht =>
    have hp : 0 < number := by
      cases h with
      | calling ht' => cases ht'.symm.trans ht
      | waiting _ _ hp => exact hp
    exact .inl ⟨rfl, .cut hp (hw rfl), rfl, ht ▸ Nat.le_refl 0, ht ▸ Nat.le_refl 0, fun _ => rfl⟩
  | started ht =>
    obtain ⟨hn, ha⟩ := h.attempt ht
    exact .inl ⟨rfl, remains_concluded [_] ⟨rfl, rfl⟩ rfl rfl hn (report_isOf ha _)
      .succeeded⟩
  | stopped ht =>
    obtain ⟨hn, ha⟩ := h.attempt ht
    exact .inl ⟨rfl, remains_concluded [_] ⟨rfl, rfl⟩ rfl rfl hn (report_isOf ha _)
      .succeeded⟩
  | restopped ht hr =>
    obtain ⟨hn, ha⟩ := h.attempt ht
    refine .inr ⟨number, .calling rfl hn ha, fun rest hrest => ?_⟩
    refine remains_called ⟨rfl, rfl⟩ (ht ▸ Nat.le_refl 1) (ht ▸ Nat.le_refl 1) (fun hstop => ?_)
      hrest
    rcases h.action_of_stop ht hstop with hc | hc <;> cases hc.symm.trans hr
  | released ht =>
    obtain ⟨hn, ha⟩ := h.attempt ht
    have hr := by simpa only [Fits, ht] using hf
    refine .inr ⟨number, .calling rfl hn ha, fun rest hrest => ?_⟩
    refine remains_called ⟨rfl, rfl⟩ (ht ▸ Nat.le_refl 1) (ht ▸ Nat.le_refl 1) (fun hstop => ?_)
      hrest
    rcases h.action_of_stop ht hstop with hc | hc <;> cases hc.symm.trans hr.2.2
  | @retries s a c f delay recovery ht hf' hg =>
    obtain ⟨hn, ha⟩ := h.attempt ht
    rw [ha.recovery] at hg
    obtain ⟨hlt, rfl, rfl⟩ := handle_eq_retryAfter hg
    have he : (d.enterFailed f a.request.reasons).report a now (.retrying f.message (number + 1)
        ((policy.delay number).millis % UInt64.size)) |>.IsOf r origin number := report_isOf ha _
    exact .inr ⟨number + 1, .waiting rfl hlt (Nat.succ_pos _) ha.request rfl, fun rest hrest =>
      remains_retried hlt he ⟨rfl, _, rfl⟩ hrest⟩
  | givesUp ht hf' hg =>
    obtain ⟨hn, ha⟩ := h.attempt ht
    rw [ha.recovery] at hg
    exact .inl ⟨rfl, remains_concluded [_] ⟨rfl, rfl⟩ rfl rfl hn (report_isOf ha _)
      (.failed (failure?_ofCall hf') fun hx => Nat.le_antisymm hn (handle_eq_giveUp hg hx))⟩

/-- How many signals can still come before the dispatcher is idle: each attempt takes two answers at
most, and between two attempts a delay ends. -/
def pace (d : Dispatcher) : Nat :=
  match d.task with
  | .idle => 0
  | .calling a .start => 3 * (a.recovery.policy.maxRetries - a.recovery.retries) + 1
  | .calling a _ => 3 * (a.recovery.policy.maxRetries - a.recovery.retries) + 2
  | .waiting a _ => 3 * (a.recovery.policy.maxRetries - a.recovery.retries) + 3

theorem Goes.pace_le_of_begins {recovery : Recovery} (hg : d.Goes now s d' effects)
    (hb : d.Begins s r recovery) :
    d'.pace ≤ 3 * (recovery.policy.maxRetries - recovery.retries) + 2 := by
  cases hg with
  | ignored hi =>
    rcases hb with ⟨ht, rfl, -⟩ | ⟨_, _, ht, rfl, -, -⟩ <;> simp [awaits, ht] at hi
  | skipped | stopsNothing => exact Nat.zero_le _
  | stops hb' | restarts hb' | releases hb' =>
    obtain rfl := hb'.unique_recovery hb
    exact Nat.le_refl _
  | starts hb' =>
    obtain rfl := hb'.unique_recovery hb
    exact Nat.le_succ _
  | cut => rcases hb with ⟨_, hs, -⟩ | ⟨_, _, _, hs, -, -⟩ <;> simp at hs
  | started ht | stopped ht | restopped ht | released ht | retries ht | givesUp ht =>
    exact absurd ht (hb.not_calling _ _)

theorem Goes.pace_lt (hg : d.Goes now s d' effects) (hw : d.awaits s) (ht : d.task ≠ .idle) :
    d'.pace < d.pace := by
  have hb {r : Request} {recovery : Recovery} (hb : d.Begins s r recovery) : d'.pace < d.pace := by
    have hle := hg.pace_le_of_begins hb
    rcases hb with ⟨hi, -⟩ | ⟨a, delay, hd, -, -, rfl⟩
    · exact absurd hi ht
    · have hp : d.pace = 3 * (a.recovery.policy.maxRetries - a.recovery.retries) + 3 := by
        simp only [pace, hd]
      omega
  cases hg with
  | ignored hi => simp [hi] at hw
  | skipped hb' | stops hb' | stopsNothing hb' | restarts hb' | starts hb' | releases hb' =>
    exact hb hb'
  | cut hd =>
    simp only [pace, hd]
    omega
  | started hd | stopped hd | restopped hd | released hd =>
    simp only [pace, hd]
    omega
  | @retries s a c f delay recovery hd hf hg =>
    have hgo : Recovery.handle ⟨a.recovery.policy, a.recovery.retries⟩ f =
      (.retryAfter delay, recovery) := hg
    obtain ⟨hlt, -, rfl⟩ := handle_eq_retryAfter hgo
    cases c <;>
    · simp only [pace, hd]
      omega
  | @givesUp s a c f hd hf hg =>
    cases c <;>
    · simp only [pace, hd]
      omega

end Dispatcher
end RestartCoordinator
