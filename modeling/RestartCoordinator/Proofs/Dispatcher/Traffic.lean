import Mathlib.Data.List.Induction
import RestartCoordinator.Proofs.Dispatcher.Calls
import RestartCoordinator.Proofs.Paths
/-!
# The traffic with the service

Calls begin and end, one after the other. At any moment the dispatcher stands with the service by the
instance that it knows of and the call that is under way, and every event of the traffic follows from
there: a start is called when no instance is known, a stop only for the instance that is known, and no
other call begins before the call under way has ended.
-/
namespace RestartCoordinator

inductive CallEvent where
  | begun (call : Call)
  /-- The call was answered, or cut off when its time was up. -/
  | ended (call : EndedCall)
deriving DecidableEq, Repr

/-- The instance that a call is to stop. -/
def Call.handle? : Call → Option Handle
  | .start => none
  | .stop h | .release h => some h

namespace EndedCall

def call : EndedCall → Call
  | .start _ => .start
  | .stop h _ => .stop h
  | .release h _ => .release h

def succeeds : EndedCall → Bool
  | .start (.done _) | .stop _ (.done ()) | .release _ (.done ()) => true
  | _ => false

private theorem succeeds_stop {h : Handle} {answer : Answer Unit} (ha : answer ≠ .done ()) :
    (EndedCall.stop h answer).succeeds = false := by
  cases answer with
  | done => exact absurd rfl ha
  | failed | timedOut => rfl

end EndedCall

/-- The instance that a start has brought up. -/
def CallEvent.started? : CallEvent → Option Handle
  | .ended (.start (.done h)) => some h
  | _ => none

/-- The latest success in a history was the start of the instance. -/
def LastStarted (history : List CallEvent) (h : Handle) : Prop :=
  ∃ earlier since, history = earlier ++ .ended (.start (.done h)) :: since ∧
    ∀ e, .ended e ∈ since → e.succeeds = false

private theorem LastStarted.append_singleton {history : List CallEvent} {h : Handle} {x : CallEvent}
    (hl : LastStarted history h) (hx : ∀ e, x = .ended e → e.succeeds = false) :
    LastStarted (history ++ [x]) h := by
  obtain ⟨earlier, since, rfl, hs⟩ := hl
  refine ⟨earlier, since ++ [x], by simp, fun e he => ?_⟩
  rcases List.mem_append.mp he with he | he
  · exact hs e he
  · exact hx e (List.mem_singleton.mp he).symm

structure Disciplined (history : List CallEvent) : Prop where
  /-- Nothing follows the beginning of a call but its end. -/
  ends : ∀ before c after, history = before ++ .begun c :: after →
    after = [] ∨ ∃ e later, after = .ended e :: later ∧ e.call = c
  begins : ∀ before e after, history = before ++ .ended e :: after →
    ∃ earlier, before = earlier ++ [.begun e.call]
  latest : ∀ before c after h, history = before ++ .begun c :: after → c.handle? = some h →
    LastStarted before h
  /-- If no two instances have the same token, no instance is stopped after it was stopped. -/
  once : (history.filterMap CallEvent.started?).Nodup →
    ∀ before c after h, history = before ++ .begun c :: after → c.handle? = some h →
      .ended (.stop h (.done ())) ∉ before ∧ .ended (.release h (.done ())) ∉ before
  between : ∀ before x middle y after,
    history = before ++ .ended (.start (.done x)) :: (middle ++ .ended (.start (.done y)) :: after) →
      ∃ c, .begun c ∈ middle ∧ c.handle? = some x

structure Standing where
  /-- The instance that the dispatcher knows of. -/
  instance? : Option Handle
  /-- The call that is under way. -/
  call? : Option Call
deriving DecidableEq, Repr

namespace Standing

def initial : Standing := ⟨none, none⟩

inductive Follows : Standing → CallEvent → Standing → Prop where
  | begun {c known} (h : c.handle? = known) : Follows ⟨known, none⟩ (.begun c) ⟨known, some c⟩
  | ended {e known known'} (h : Dispatcher.Hands (some e) known known') :
    Follows ⟨known, some e.call⟩ (.ended e) ⟨known', none⟩

variable {s s' : Standing} {history before after : List CallEvent} {c : Call} {e : EndedCall}
  {h : Handle}

private theorem lastStarted_of_path (hp : Path Follows initial history s)
    (hi : s.instance? = some h) :
    LastStarted history h := by
  induction history using List.reverseRecOn generalizing s with
  | nil =>
    cases hp
    cases hi
  | append_singleton before x ih =>
    obtain ⟨m, hb, hx⟩ := path_append.mp hp
    cases path_singleton.mp hx with
    | begun => exact (ih hb hi).append_singleton nofun
    | @ended e known known' hh =>
      obtain rfl : known' = some h := hi
      cases hh with
      | started => exact ⟨before, [], rfl, nofun⟩
      | stopFailed ha =>
        refine (ih hb rfl).append_singleton fun e he => ?_
        exact CallEvent.ended.inj he ▸ EndedCall.succeeds_stop ha

private theorem started_mem (hl : LastStarted history h) :
    h ∈ history.filterMap CallEvent.started? := by
  obtain ⟨earlier, since, rfl, -⟩ := hl
  simp [CallEvent.started?]

private theorem lastStarted_of_ended (hp : Path Follows initial (before ++ .ended e :: after) s)
    (he : e = .stop h (.done ()) ∨ e = .release h (.done ())) : LastStarted before h := by
  obtain ⟨m, m', hb, hx, -⟩ := hp.middle
  refine lastStarted_of_path hb ?_
  cases hx with
  | ended hh => rcases he with rfl | rfl <;> cases hh <;> rfl

private theorem not_ended_of_lastStarted (hp : Path Follows initial (before ++ after) s)
    (hn : ((before ++ after).filterMap CallEvent.started?).Nodup) (hl : LastStarted before h)
    (he : e = .stop h (.done ()) ∨ e = .release h (.done ())) : .ended e ∉ before := by
  intro hm
  obtain ⟨earlier, since, rfl, hs⟩ := hl
  have hearlier : .ended e ∈ earlier := by
    rcases List.mem_append.mp hm with hm | hm
    · exact hm
    · rcases List.mem_cons.mp hm with hm | hm
      · rcases he with rfl | rfl <;> cases hm
      · have hf := hs e hm
        rcases he with rfl | rfl <;> cases hf
  obtain ⟨first, second, rfl⟩ := List.append_of_mem hearlier
  have hfirst : h ∈ first.filterMap CallEvent.started? := by
    rw [List.append_assoc, List.append_assoc] at hp
    exact started_mem (lastStarted_of_ended hp he)
  have hlater : h ∈ (.ended e :: second ++ .ended (.start (.done h)) :: since ++ after).filterMap
      CallEvent.started? :=
    List.mem_filterMap.mpr ⟨.ended (.start (.done h)), by simp, rfl⟩
  have hd : first ++ .ended e :: second ++ .ended (.start (.done h)) :: since ++ after =
      first ++ (.ended e :: second ++ .ended (.start (.done h)) :: since ++ after) := by simp
  rw [hd, List.filterMap_append] at hn
  exact (List.nodup_append.mp hn).2.2 h hfirst h hlater rfl

private theorem next_of_begun (hp : Path Follows initial (before ++ .begun c :: after) s) :
    after = [] ∨ ∃ e later, after = .ended e :: later ∧ e.call = c := by
  obtain ⟨m, m', -, hx, ha⟩ := hp.middle
  cases hx
  cases ha with
  | nil => exact .inl rfl
  | cons hx' _ =>
    cases hx'
    exact .inr ⟨_, _, rfl, rfl⟩

private theorem previous_of_ended (hp : Path Follows initial (before ++ .ended e :: after) s) :
    ∃ earlier, before = earlier ++ [.begun e.call] := by
  obtain ⟨m, m', hb, hx, -⟩ := hp.middle
  cases hx with
  | ended hh =>
    rcases List.eq_nil_or_concat before with rfl | ⟨earlier, x, rfl⟩
    · cases hb
    · rw [List.concat_eq_append] at hb
      obtain ⟨k, -, hk⟩ := path_append.mp hb
      cases path_singleton.mp hk
      exact ⟨earlier, List.concat_eq_append⟩

private theorem next_of_started
    (hp : Path Follows initial (before ++ .ended (.start (.done h)) :: after) s) :
    after = [] ∨ ∃ c later, after = .begun c :: later ∧ c.handle? = some h := by
  obtain ⟨m, m', -, hx, ha⟩ := hp.middle
  cases hx with
  | ended hh =>
    cases hh with
    | startFailed hn => exact absurd rfl (hn h)
    | started =>
      cases ha with
      | nil => exact .inl rfl
      | cons hc _ =>
        cases hc with
        | begun hc => exact .inr ⟨_, _, rfl, hc⟩

private theorem lastStarted_of_begun (hp : Path Follows initial (before ++ .begun c :: after) s)
    (hc : c.handle? = some h) : LastStarted before h := by
  obtain ⟨m, m', hb, hx, -⟩ := hp.middle
  cases hx with
  | begun hk => exact lastStarted_of_path hb (hk.symm.trans hc)

theorem disciplined_of_path (hp : Path Follows initial history s) : Disciplined history := by
  constructor
  case ends =>
    rintro before c after rfl
    exact next_of_begun hp
  case begins =>
    rintro before e after rfl
    exact previous_of_ended hp
  case latest =>
    rintro before c after h rfl hc
    exact lastStarted_of_begun hp hc
  case once =>
    rintro hn before c after h rfl hc
    have hl := lastStarted_of_begun hp hc
    exact ⟨not_ended_of_lastStarted hp hn hl (.inl rfl),
      not_ended_of_lastStarted hp hn hl (.inr rfl)⟩
  case between =>
    rintro before x middle y after rfl
    rcases next_of_started hp with hnil | ⟨c, later, hcons, hc⟩
    · simp at hnil
    · cases middle with
      | nil => cases hcons
      | cons first rest =>
        obtain ⟨rfl, -⟩ := List.cons.inj hcons
        exact ⟨c, List.mem_cons_self, hc⟩

end Standing

def Effect.begun? : Effect → Option CallEvent
  | .called c => some (.begun c)
  | _ => none

/-- The traffic of a turn: a call that ends with it, and a call that is made in it. -/
def trafficOf (ended : Option EndedCall) (effects : List Effect) : List CallEvent :=
  (ended.map .ended).toList ++ effects.filterMap Effect.begun?

namespace Dispatcher

def underway? (d : Dispatcher) : Option Call :=
  match d.task with
  | .calling _ c => some c
  | _ => none

def standing (d : Dispatcher) : Standing := ⟨d.instance?, d.underway?⟩

variable {d d' : Dispatcher} {now : Time} {s : Signal} {effects : List Effect} {c : Call}
  {e : EndedCall}

private theorem ended?_underway? (he : d.ended? s = some e) : d.underway? = some e.call := by
  unfold ended? at he
  unfold underway?
  split at he <;> simp_all
  all_goals
    subst he
    rfl

private theorem Fits.handle?_eq (hf : d.Fits) (hc : d.underway? = some c) :
    c.handle? = d.instance? := by
  cases ht : d.task with
  | idle => simp [underway?, ht] at hc
  | waiting a delay => simp [underway?, ht] at hc
  | calling a c' =>
    obtain rfl : c' = c := by simpa [underway?, ht] using hc
    cases c' with
    | start => simp only [instance?, ht, hf.handle_of_calling ht, Call.handle?]
    | stop h | release h => simp only [instance?, ht, Call.handle?]

/-- A turn that does anything leaves the call under way that is made in it. -/
theorem Goes.begun (hg : d.Goes now s d' effects) :
    (d.ended? s = none ∧ d' = d ∧ effects = []) ∨
      (d.ended? s = none → d.underway? = none) ∧
        effects.filterMap Effect.begun? = (d'.underway?.map .begun).toList := by
  cases hg with
  | ignored hs => exact .inl ⟨ended?_of_not_awaits hs, rfl, rfl⟩
  | skipped hb | stops hb | stopsNothing hb | restarts hb | starts hb | releases hb =>
    refine .inr ⟨fun _ => ?_, rfl⟩
    rcases hb with ⟨ht, -, -⟩ | ⟨_, _, ht, -, -, -⟩ <;> simp [underway?, ht]
  | cut ht => exact .inr ⟨fun _ => by simp [underway?, ht], rfl⟩
  | started ht | stopped ht | restopped ht | released ht =>
    exact .inr ⟨fun hn => by simp [ended?, ht] at hn, rfl⟩
  | retries ht hf | givesUp ht hf =>
    refine .inr ⟨fun hn => ?_, rfl⟩
    unfold failure? at hf
    split at hf <;> simp [ended?, ht] at hn hf

private theorem hands_none {known known' : Option Handle} (hh : Hands none known known') :
    known = known' := by
  cases hh
  rfl

theorem Goes.path (hg : d.Goes now s d' effects) (hf : d.Fits) :
    Path Standing.Follows d.standing (trafficOf (d.ended? s) effects) d'.standing := by
  have hh := hg.hands hf
  unfold trafficOf
  rcases hg.begun with ⟨hn, rfl, rfl⟩ | ⟨hn, hb⟩
  · rw [hn]
    exact .nil
  · have hend : Path Standing.Follows d.standing ((d.ended? s).map CallEvent.ended).toList
        ⟨d'.instance?, none⟩ := by
      cases he : d.ended? s with
      | none =>
        rw [he] at hh
        rw [standing, hands_none hh, hn he]
        exact .nil
      | some e =>
        rw [he] at hh
        rw [standing, ended?_underway? he]
        exact path_singleton.mpr (.ended hh)
    have hbegin : Path Standing.Follows ⟨d'.instance?, none⟩ (effects.filterMap Effect.begun?)
        d'.standing := by
      rw [hb, standing]
      cases hu : d'.underway? with
      | none => exact .nil
      | some c => exact path_singleton.mpr (.begun ((hg.fits hf).handle?_eq hu))
    exact hend.append hbegin

theorem Goes.handle_of_start (hg : d.Goes now s d' effects) (hf : d.Fits)
    (hc : .called .start ∈ effects) : d'.handle = none := by
  obtain ⟨a, ht⟩ := hg.task_of_start hc
  exact (hg.fits hf).handle_of_calling ht

end Dispatcher
end RestartCoordinator
