import RestartCoordinator.Proofs.Observers.Attention
import RestartCoordinator.Proofs.Pipeline.Progress
import RestartCoordinator.Simulation.Coordinator
/-!
# What observers hear of a run

A story is kept beside a run: the observers that were added, the reports that the dispatcher made,
and the events that were published. Observers are told each report at once and handle it at any later
moment, in the midst of a shutdown as well. The loop ends only after all of them are through, and the
dispatcher reports nothing from then on. So at the end of a shutdown each observer has handled all
reports in their order, and these are the reports among the events.
-/
namespace RestartCoordinator

/-- The report that is published by an event. -/
def Event.report? : Event → Option Report
  | .attempted report => some report
  | _ => none

private theorem Effect.report?_of_event? (effects : List Effect) :
    (effects.filterMap Effect.event?).filterMap Event.report? =
      effects.filterMap Effect.report? := by
  rw [List.filterMap_filterMap]
  apply List.filterMap_congr
  intro e _
  cases e <;> rfl

/-- What happens to a coordinator: an observer is added, or the pipeline makes a move. -/
inductive Act where
  | observer (kind : Observer.Kind)
  | move (now : Time) (move : Move)

/-- What is written down of a run. -/
structure Story where
  /-- The observers that were added. -/
  observers : List Observer.Kind := []
  /-- The reports that the dispatcher made. -/
  reports : List Report := []
  /-- The events that were published. -/
  events : List Event := []

/-- The story after an act that was done. -/
def Story.note (s : Story) (a : Act) (moved : Moved) : Story where
  observers :=
    match a with
    | .observer kind => s.observers ++ [kind]
    | .move .. => s.observers
  reports := s.reports ++ moved.effects.filterMap Effect.report?
  events := s.events ++ moved.events

namespace Pipeline

/-- Observers can be added until the loops begin. -/
def admit? (p : Pipeline) (kind : Observer.Kind) : Option Pipeline :=
  if p.canStart then some { p with observers := p.observers ++ [.new kind] } else none

def act? (p : Pipeline) : Act → Option Moved
  | .observer kind => (p.admit? kind).map (·.quiet [])
  | .move now m => p.step? now m

/-- The acts of a list that can be done, in order, and the story of them; the others are passed over.
-/
def live (p : Pipeline) (s : Story) : List Act → Pipeline × Story
  | [] => (p, s)
  | a :: rest =>
    match p.act? a with
    | some moved => live moved.pipeline (s.note a moved) rest
    | none => live p s rest

/-- The life of a new coordinator. -/
def life (c : Config) (acts : List Act) : Pipeline × Story := (new c).live {} acts

variable {p p' : Pipeline} {s s' : Story} {moved : Moved} {now : Time} {m : Move} {a : Act}

/-- A coordinator takes an observer just when its pipeline admits one. -/
theorem addObserver_eq (c : Coordinator) (kind : Observer.Kind) :
    c.addObserver kind =
      match c.pipeline.admit? kind with
      | some p => .ok { c with pipeline := p }
      | none => .error (.system "Observers must be added before start") := by
  unfold Coordinator.addObserver Coordinator.isStarted admit?
  cases c.pipeline.canStart <;> rfl

private theorem live_append (p : Pipeline) (s : Story) (before after : List Act) :
    p.live s (before ++ after) = (p.live s before).1.live (p.live s before).2 after := by
  induction before generalizing p s with
  | nil => rfl
  | cons a rest ih =>
    simp only [List.cons_append, live]
    cases p.act? a with
    | none => exact ih p s
    | some moved => exact ih moved.pipeline (s.note a moved)

private theorem live_moves (p : Pipeline) (s : Story) (moves : List (Time × Move)) :
    (p.live s (moves.map fun (now, m) => .move now m)).1 = p.run moves := by
  induction moves generalizing p s with
  | nil => rfl
  | cons head rest ih =>
    simp only [List.map_cons, live, act?, Pipeline.run]
    cases p.step? head.1 head.2 with
    | none => exact ih p s
    | some moved => exact ih moved.pipeline _

private theorem handOff_reports (p : Pipeline) (r : Request) {e : Event} (he : e.report? = none) :
    (p.handOff r [e]).events.filterMap Event.report? = [] := by
  have hm : (Event.requestMerged r.id).report? = none := rfl
  rcases p.handOff_events r [e] with h | h <;> rw [h] <;> simp [he, hm]

/-- A move publishes what the dispatcher reports in it and tells it to the observers, or one of them
works. -/
theorem step?_reports (hs : p.step? now m = some moved) :
    moved.events.filterMap Event.report? = moved.effects.filterMap Effect.report? ∧
      (moved.pipeline.observers = p.observers.tellAll (moved.effects.filterMap Effect.report?) ∨
        moved.effects = [] ∧ ∃ i, p.observers.work? i = some moved.pipeline.observers) := by
  cases m with
  | submit t =>
    have he := (step?_idles rfl hs).effects
    obtain ⟨_, _, -, hp⟩ := step?_submit hs
    rw [hp, he]
    refine ⟨?_, .inl rfl⟩
    simp only [step?, submit] at hs
    cases hq : p.queue.submit t with
    | error f => simp [hq, bind, Except.bind, Except.toOption] at hs
    | ok answer =>
      simp only [hq, bind, Except.bind, pure, Except.pure, Except.toOption, Option.map_some] at hs
      obtain rfl := Option.some.inj hs
      cases answer.1 <;> rfl
  | flush =>
    obtain ⟨w, -, -, rfl⟩ := step?_flush_eq hs
    rw [handOff_effects, handOff_observers, handOff_reports _ _ rfl]
    exact ⟨rfl, .inl rfl⟩
  | fold =>
    obtain ⟨-, t, queue, -, ⟨-, rfl⟩ | ⟨-, -, rfl⟩ | ⟨-, w, -, rfl⟩⟩ := step?_fold_eq hs
    · rw [handOff_effects, handOff_observers, handOff_reports _ _ rfl]
      exact ⟨rfl, .inl rfl⟩
    · exact ⟨rfl, .inl rfl⟩
    · exact ⟨rfl, .inl rfl⟩
  | start | endCoalescing | drained | abandon =>
    simp only [step?, Option.ite_none_right_eq_some] at hs
    obtain rfl := Option.some.inj hs.2
    exact ⟨rfl, .inl rfl⟩
  | serve | signal | leave =>
    obtain ⟨⟨l, effects⟩, -, rfl⟩ := Option.map_eq_some_iff.mp hs
    exact ⟨Effect.report?_of_event? effects, .inl rfl⟩
  | observe index =>
    obtain ⟨observers, hw, rfl⟩ := Option.map_eq_some_iff.mp hs
    exact ⟨rfl, .inr ⟨rfl, index, hw⟩⟩
  | closeQueue | closeSlot =>
    obtain rfl := Option.some.inj hs
    exact ⟨rfl, .inl rfl⟩

private theorem Ordered.idles (h : p.Ordered) (hserving : p.loop.stage ≠ .serving)
    (hstopping : p.loop.stage ≠ .stopping) (hs : p.step? now m = some moved) : p.Idles moved := by
  cases m with
  | serve =>
    obtain ⟨⟨l, effects⟩, hl, -⟩ := Option.map_eq_some_iff.mp hs
    exact absurd (DispatchLoop.serve?_stage hl).1 hserving
  | signal s =>
    rcases h.busy (step?_signal_turned hs).1 with hst | hst
    · exact absurd hst hserving
    · exact absurd hst hstopping
  | leave =>
    obtain ⟨⟨l, effects⟩, hl, -⟩ := Option.map_eq_some_iff.mp hs
    rcases (DispatchLoop.leave?_stage hl).1 with ⟨hst, -⟩ | hst
    · exact absurd hst hserving
    · exact absurd hst hstopping
  | _ => exact step?_idles rfl hs

/-- The story tells what the observers were told and what was published. Nothing is reported before
the loop begins, and when it has ended nothing waits for an observer. -/
structure Tells (s : Story) (p : Pipeline) : Prop where
  ordered : p.Ordered
  attend : p.observers.Attend s.reports s.observers
  published : s.events.filterMap Event.report? = s.reports
  unstarted : p.loop.stage = .unstarted → s.reports = []
  ended : p.loop.stage = .ended → p.observers.Rest

private theorem tells_new (c : Config) : Tells {} (new c) where
  ordered := ordered_fresh c []
  attend := .nil
  published := rfl
  unstarted := fun _ => rfl
  ended := nofun

private theorem Tells.admit {kind : Observer.Kind} (h : Tells s p) (ha : p.admit? kind = some p') :
    Tells { s with observers := s.observers ++ [kind] } p' := by
  unfold admit? at ha
  rw [Option.ite_none_right_eq_some] at ha
  obtain ⟨hcan, ha⟩ := ha
  obtain rfl := Option.some.inj ha
  have hst : p.loop.stage = .unstarted := of_decide_eq_true hcan
  have hnone := h.unstarted hst
  refine ⟨h.ordered.same h.ordered.paired rfl rfl rfl id, ?_, h.published, h.unstarted, ?_⟩
  · have hattend := h.attend
    dsimp only
    rw [hnone] at hattend ⊢
    exact hattend.add kind
  · intro he
    cases hst.symm.trans he

private theorem Tells.move (h : Tells s p) (hs : p.step? now m = some moved) :
    Tells (s.note (.move now m) moved) moved.pipeline := by
  have hattend : moved.pipeline.observers.Attend
      (s.reports ++ moved.effects.filterMap Effect.report?) s.observers := by
    rcases (step?_reports hs).2 with ho | ⟨he, i, hw⟩
    · rw [ho]
      exact h.attend.tellAll _
    · rw [he, List.filterMap_nil, List.append_nil]
      exact h.attend.work? hw
  refine ⟨h.ordered.step hs, hattend, ?_, ?_, ?_⟩
  · change (s.events ++ moved.events).filterMap Event.report? = _
    rw [List.filterMap_append, h.published, (step?_reports hs).1]
    rfl
  · intro hst'
    have hst : p.loop.stage = .unstarted := by
      by_contra hne
      exact step?_started hne hs hst'
    have hi := h.ordered.idles (by simp [hst]) (by simp [hst]) hs
    change s.reports ++ moved.effects.filterMap Effect.report? = []
    rw [hi.effects, h.unstarted hst]
    rfl
  · intro he'
    cases step?_stage hs with
    | stays hst =>
      have he : p.loop.stage = .ended := hst.symm.trans he'
      have hi := h.ordered.idles (by simp [he]) (by simp [he]) hs
      rcases (step?_reports hs).2 with ho | ⟨-, i, hw⟩
      · rw [ho, hi.effects]
        exact h.ended he
      · exact (h.ended he).work? hw
    | starts _ hst => cases he'.symm.trans hst
    | leaves _ hst => rcases hst with hst | hst <;> cases he'.symm.trans hst
    | ends before ho _ =>
      rw [ho]
      rcases before with hst | ⟨-, hdrained⟩
      · exact h.attend.rest_of_nil (h.unstarted hst)
      · exact Observers.rest_of_isDrained hdrained

private theorem Tells.act (h : Tells s p) (ha : p.act? a = some moved) :
    Tells (s.note a moved) moved.pipeline := by
  cases a with
  | observer kind =>
    obtain ⟨p', hp, rfl⟩ := Option.map_eq_some_iff.mp ha
    have hnote : s.note (.observer kind) (p'.quiet []) =
        { s with observers := s.observers ++ [kind] } := by
      simp [Story.note, quiet]
    rw [hnote]
    exact h.admit hp
  | move now m => exact h.move ha

private theorem Tells.live (h : Tells s p) (acts : List Act) :
    Tells (p.live s acts).2 (p.live s acts).1 := by
  induction acts generalizing p s with
  | nil => exact h
  | cons a rest ih =>
    simp only [Pipeline.live]
    cases ha : p.act? a with
    | none => exact ih h
    | some moved => exact ih (h.act ha)

private theorem tells_life (c : Config) (acts : List Act) : Tells (life c acts).2 (life c acts).1 :=
  (tells_new c).live acts

private theorem Tells.heard (h : Tells s p) (he : p.loop.stage = .ended) :
    List.Forall₂ (Observer.Heard s.reports) p.observers s.observers :=
  h.attend.heard (h.ended he)

private theorem Tells.live_of_ended (h : Tells s p) (he : p.loop.stage = .ended)
    (later : List Act) :
    (p.live s later).1.loop.stage = .ended ∧ (p.live s later).2.reports = s.reports ∧
      (p.live s later).2.observers = s.observers := by
  induction later generalizing p s with
  | nil => exact ⟨he, rfl, rfl⟩
  | cons a rest ih =>
    simp only [Pipeline.live]
    cases ha : p.act? a with
    | none => exact ih h he
    | some moved =>
      cases a with
      | observer kind => simp [act?, admit?, canStart, he] at ha
      | move now m =>
        have hi := h.ordered.idles (by simp [he]) (by simp [he]) ha
        obtain ⟨hend, hreports, hobservers⟩ := ih (h.act ha) (step?_stays_ended he ha)
        refine ⟨hend, ?_, hobservers⟩
        rw [hreports]
        change s.reports ++ moved.effects.filterMap Effect.report? = s.reports
        rw [hi.effects, List.filterMap_nil, List.append_nil]

private theorem slot_closed_live (hc : p.loop.slot.closed) (s : Story) (acts : List Act) :
    (p.live s acts).1.loop.slot.closed := by
  induction acts generalizing p s with
  | nil => exact hc
  | cons a rest ih =>
    simp only [Pipeline.live]
    cases ha : p.act? a with
    | none => exact ih hc s
    | some moved =>
      refine ih ?_ _
      cases a with
      | observer kind =>
        obtain ⟨p', hp, rfl⟩ := Option.map_eq_some_iff.mp ha
        rw [admit?, Option.ite_none_right_eq_some] at hp
        obtain rfl := Option.some.inj hp.2
        exact hc
      | move now m => exact (step?_slot_of_closed hc ha).1

/-- Observers may be added until the loops begin, and they work whenever they like. A shutdown that is
called at any moment can always be brought to its end. When it is over, every observer that was added,
and does not break down, has handled all reports that the dispatcher made from the beginning to the
end, each of them once and in their order; and these are the reports among the events that were
published. Nothing changes that later. A shutdown that is dropped before the dispatcher's loop has
ended is not meant. -/
theorem observers_hear_all (c : Config) (before joining draining : List Act)
    (closing sealing giving : Time) :
    let acts :=
      before ++ .move closing .closeQueue :: (joining ++ .move sealing .closeSlot :: draining)
    let e := (life c (acts ++ [.move giving .abandon])).1
    let s := (life c (acts ++ [.move giving .abandon])).2
    (∃ more, (life c (acts ++ more)).1.loop.stage = .ended) ∧
      (e.loop.stage = .ended →
        List.Forall₂ (Observer.Heard s.reports) e.observers s.observers ∧
          s.events.filterMap Event.report? = s.reports ∧
          ∀ later,
            List.Forall₂ (Observer.Heard s.reports) (e.live s later).1.observers s.observers ∧
              (e.live s later).2.reports = s.reports) := by
  intro acts e s
  have htells : Tells s e := tells_life c _
  refine ⟨?_, fun he => ⟨htells.heard he, htells.published, fun later => ?_⟩⟩
  · have hclosed : (life c acts).1.loop.slot.closed := by
      have hacts : acts = (before ++ .move closing .closeQueue :: joining ++
          [.move sealing .closeSlot]) ++ draining := by simp [acts]
      rw [hacts, life, live_append]
      apply slot_closed_live
      rw [live_append]
      rfl
    obtain ⟨moves, hend⟩ := exists_ended (tells_life c acts).ordered hclosed giving
    refine ⟨moves.map fun (now, m) => .move now m, ?_⟩
    rw [life, live_append, live_moves]
    exact hend
  · obtain ⟨hend, hreports, hobservers⟩ := htells.live_of_ended he later
    have hheard := (htells.live later).heard hend
    rw [hreports, hobservers] at hheard
    exact ⟨hheard, hreports⟩

/-- Two observers and one that breaks down; a fourth comes too late. A stop that waits when the
shutdown is called is drained and fails, so there is another stop at the end. Of its three reports the
collector handles the last two only then. -/
theorem observers_hear_all_of_two_stops :
    let t (r : PlainReason) (now : Time) : Act := .move now (.submit (.ofReason (.plain r) "ui" now))
    let busy : Answer Unit := .failed (.other "busy")
    let before : List Act := [.observer .collector, t .ui 0, .observer .broken, .observer .log,
      .move 0 .start, .observer .collector, .move 0 .fold, .move 500 .flush, .move 500 .serve,
      .move 550 (.signal (.startAnswered (.done ⟨1⟩))), .move 560 (.observe 0), t .switchOff 600,
      .move 600 .fold]
    let joining : List Act := [.move 600 .endCoalescing]
    let draining : List Act := [.move 600 .serve, .move 620 (.signal (.stopAnswered busy)),
      .move 620 .leave, .move 630 (.observe 2), .move 640 (.signal (.stopAnswered (.done ()))),
      .move 640 .leave, .move 640 (.observe 0), .move 640 (.observe 1), .move 640 (.observe 2),
      .move 640 (.observe 0), .move 640 (.observe 2), .move 640 .drained]
    let acts :=
      before ++ .move 600 .closeQueue :: (joining ++ .move 600 .closeSlot :: draining)
    let e := (life {} (acts ++ [.move 640 .abandon])).1
    let s := (life {} (acts ++ [.move 640 .abandon])).2
    (e.loop.stage = .ended ∧ s.observers.length = 3 ∧
        s.reports.map (fun r => (r.action, r.outcome.isSuccess)) =
          [(.start, true), (.stop, false), (.stop, true)]) ∧
      List.Forall₂ (Observer.Heard s.reports) e.observers s.observers ∧
      s.events.filterMap Event.report? = s.reports := by
  intro t busy before joining draining acts e s
  have h := observers_hear_all {} before joining draining 600 600 640
  extract_lets at h
  have hended : e.loop.stage = .ended := by decide
  obtain ⟨hheard, hpublished, -⟩ := h.2 hended
  exact ⟨⟨hended, by decide, by decide⟩, hheard, hpublished⟩

end Pipeline
end RestartCoordinator
