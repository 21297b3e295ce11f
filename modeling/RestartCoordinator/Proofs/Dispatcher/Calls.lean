import RestartCoordinator.Proofs.Dispatcher.Turns
/-!
# Calls that have ended

The calls that have ended, in their order, tell whether an instance of the service is running: a
start that succeeds brings one up, and a stop or a release that succeeds brings it down. The
dispatcher keeps track of the instance with one exception. An instance whose release fails is not at
hand any more, so it runs on unseen until something is started again: it is *abandoned*.
-/
namespace RestartCoordinator

/-- A service call that has ended, with its answer. -/
inductive EndedCall where
  | start (answer : Answer Handle)
  | stop (handle : Handle) (answer : Answer Unit)
  | release (handle : Handle) (answer : Answer Unit)
deriving DecidableEq, Repr

/-- Whether an instance is running after a call, by whether one was running before. -/
def EndedCall.leaves (running : Bool) : EndedCall → Bool
  | .start (.done _) => true
  | .stop _ (.done ()) | .release _ (.done ()) => false
  | _ => running

private theorem EndedCall.leaves_eq {running : Bool} {c : EndedCall}
    (hs : ∀ h, c ≠ .start (.done h))
    (hp : ∀ h, c ≠ .stop h (.done ())) (hr : ∀ h, c ≠ .release h (.done ())) :
    c.leaves running = running := by
  unfold leaves
  split <;> simp_all

/-- A release has failed, and no start has succeeded since. -/
def Abandoned (calls : List EndedCall) : Prop :=
  ∃ before h answer after, calls = before ++ .release h answer :: after ∧ answer ≠ .done () ∧
    ∀ new, .start (.done new) ∉ after

theorem not_abandoned_nil : ¬Abandoned [] := by
  rintro ⟨before, h, answer, after, he, -⟩
  exact List.append_ne_nil_of_right_ne_nil before (List.cons_ne_nil _ after) he.symm

private theorem abandoned_append_singleton {calls : List EndedCall} {c : EndedCall} :
    Abandoned (calls ++ [c]) ↔
      (∃ h answer, c = .release h answer ∧ answer ≠ .done ()) ∨
        Abandoned calls ∧ ∀ new, c ≠ .start (.done new) := by
  constructor
  · rintro ⟨before, h, answer, after, he, ha, hn⟩
    rcases List.eq_nil_or_concat after with rfl | ⟨after, last, rfl⟩
    · obtain ⟨-, rfl⟩ := List.append_singleton_inj.mp he
      exact .inl ⟨h, answer, rfl, ha⟩
    · simp only [List.concat_eq_append] at he hn
      rw [← List.cons_append, ← List.append_assoc] at he
      obtain ⟨rfl, rfl⟩ := List.append_singleton_inj.mp he
      refine .inr ⟨⟨before, h, answer, after, rfl, ha, fun new hm => ?_⟩, fun new hl => ?_⟩
      · exact hn new (List.mem_append_left _ hm)
      · exact hn new (hl ▸ List.mem_append_right _ (List.mem_singleton.mpr rfl))
  · rintro (⟨h, answer, rfl, ha⟩ | ⟨⟨before, h, answer, after, rfl, ha, hn⟩, hc⟩)
    · exact ⟨calls, h, answer, [], rfl, ha, fun _ => List.not_mem_nil⟩
    · refine ⟨before, h, answer, after ++ [c], by simp, ha, fun new hm => ?_⟩
      rcases List.mem_append.mp hm with hm | hm
      · exact hn new hm
      · exact hc new (List.mem_singleton.mp hm).symm

namespace Dispatcher

def ended? (d : Dispatcher) (s : Signal) : Option EndedCall :=
  match d.task, s with
  | .calling _ .start, .startAnswered answer => some (.start answer)
  | .calling _ (.stop h), .stopAnswered answer => some (.stop h answer)
  | .calling _ (.release h), .stopAnswered answer => some (.release h answer)
  | _, _ => none

/-- The instance that the dispatcher knows of: the one at hand, or the one it is just stopping. -/
def instance? (d : Dispatcher) : Option Handle :=
  match d.task with
  | .calling _ (.stop h) | .calling _ (.release h) => some h
  | _ => d.handle

/-- A call that ends takes the instance that the dispatcher knew of to the one that it knows of then. -/
inductive Hands : Option EndedCall → Option Handle → Option Handle → Prop where
  | aside {known} : Hands none known known
  | started {h} : Hands (some (.start (.done h))) none (some h)
  | stopped {h} : Hands (some (.stop h (.done ()))) (some h) none
  | released {h} : Hands (some (.release h (.done ()))) (some h) none
  /-- The instance may run on, but the dispatcher does not know of it any more. -/
  | lost {h answer} (ha : answer ≠ .done ()) : Hands (some (.release h answer)) (some h) none
  | startFailed {answer} (ha : ∀ h, answer ≠ .done h) : Hands (some (.start answer)) none none
  | stopFailed {h answer} (ha : answer ≠ .done ()) :
    Hands (some (.stop h answer)) (some h) (some h)

variable {d d' : Dispatcher} {now : Time} {s : Signal} {effects : List Effect} {running : Bool}
  {calls : List EndedCall}

theorem ended?_of_not_awaits (h : d.awaits s = false) : d.ended? s = none := by
  unfold ended?
  unfold awaits at h
  split at h <;> simp_all

private theorem Begins.ended? {r : Request} {recovery : Recovery} (hb : d.Begins s r recovery) :
    d.ended? s = none := by
  rcases hb with ⟨ht, rfl, -⟩ | ⟨a, delay, ht, rfl, -, -⟩ <;> simp [Dispatcher.ended?, ht]

private theorem Begins.instance? {r : Request} {recovery : Recovery} (hb : d.Begins s r recovery) :
    d.instance? = d.handle := by
  rcases hb with ⟨ht, -, -⟩ | ⟨a, delay, ht, -, -, -⟩ <;> simp [Dispatcher.instance?, ht]

private theorem hands_of_failure? {a : Attempt} {c : Call} {f : Failure} (hd : d.Fits)
    (ht : d.task = .calling a c) (hf : d.failure? c s = some f)
    (hk : d'.instance? = c.kept?) : Hands (d.ended? s) d.instance? d'.instance? := by
  rw [hk]
  cases c with
  | start =>
    have hi : d.instance? = none := by simp only [instance?, ht, hd.handle_of_calling ht]
    rw [hi]
    cases s with
    | startAnswered answer =>
      simp only [ended?, ht]
      refine .startFailed fun h he => ?_
      simp [he, failure?] at hf
    | _ => simp [failure?] at hf
  | stop h =>
    have hi : d.instance? = some h := by simp only [instance?, ht]
    rw [hi]
    cases s with
    | stopAnswered answer =>
      simp only [ended?, ht]
      refine .stopFailed fun he => ?_
      simp [he, failure?] at hf
    | _ => simp [failure?] at hf
  | release h => simp [failure?] at hf

theorem Goes.hands (hg : d.Goes now s d' effects) (hf : d.Fits) :
    Hands (d.ended? s) d.instance? d'.instance? := by
  cases hg with
  | ignored hs => exact ended?_of_not_awaits hs ▸ .aside
  | skipped hb | stopsNothing hb | starts hb =>
    rw [hb.ended?, hb.instance?]
    exact .aside
  | stops hb _ _ hh | restarts hb _ _ hh | releases hb _ _ hh =>
    rw [hb.ended?, hb.instance?, hh]
    exact .aside
  | cut ht =>
    have hi : { d with task := .idle }.instance? = d.instance? := by simp [instance?, ht]
    simp only [ended?, ht, hi]
    exact .aside
  | started ht hs =>
    have hi : d.instance? = none := by simp only [instance?, ht, hf.handle_of_calling ht]
    simp only [ended?, ht, hi]
    exact .started
  | @stopped a h ht | @restopped a h ht =>
    have hi : d.instance? = some h := by simp only [instance?, ht]
    simp only [ended?, ht, hi]
    change Hands _ _ d.handle
    rw [hf.handle_of_calling ht]
    exact .stopped
  | @released a h answer ht =>
    have hi : d.instance? = some h := by simp only [instance?, ht]
    simp only [ended?, ht, hi]
    change Hands _ _ d.handle
    rw [hf.handle_of_calling ht]
    by_cases ha : answer = .done ()
    · rw [ha]
      exact .released
    · exact .lost ha
  | retries ht hf' => exact hands_of_failure? hf ht hf' rfl
  | givesUp ht hf' => exact hands_of_failure? hf ht hf' rfl

/-- An instance is running exactly if the dispatcher knows of it or has abandoned it, never both. -/
structure Tracks (d : Dispatcher) (running : Bool) (calls : List EndedCall) : Prop where
  running_iff : running = true ↔ d.instance?.isSome ∨ Abandoned calls
  known : d.instance?.isSome → ¬Abandoned calls

private theorem Tracks.same (h : Tracks d running calls) (hi : d'.instance? = d.instance?) :
    Tracks d' running calls :=
  ⟨hi ▸ h.running_iff, hi ▸ h.known⟩

private theorem Tracks.of_started {h : Handle} (hi : d'.instance? = some h) :
    Tracks d' true (calls ++ [.start (.done h)]) := by
  have hn : ¬Abandoned (calls ++ [.start (.done h)]) := by
    simp [abandoned_append_singleton]
  exact ⟨by simp [hi], fun _ => hn⟩

private theorem Tracks.of_stopped {c : EndedCall} {h : Handle} (ht : Tracks d running calls)
    (hk : d.instance? = some h) (hc : c = .stop h (.done ()) ∨ c = .release h (.done ()))
    (hi : d'.instance? = none) : Tracks d' (c.leaves running) (calls ++ [c]) := by
  have hl : c.leaves running = false := by
    rcases hc with rfl | rfl <;> rfl
  have hn : ¬Abandoned (calls ++ [c]) := by
    have := ht.known (by simp [hk])
    rcases hc with rfl | rfl <;> simp [abandoned_append_singleton, this]
  exact ⟨by simp [hl, hi, hn], fun _ => hn⟩

private theorem Tracks.of_released {h : Handle} {answer : Answer Unit} (ht : Tracks d running calls)
    (hk : d.instance? = some h) (ha : answer ≠ .done ()) (hi : d'.instance? = none) :
    Tracks d' ((EndedCall.release h answer).leaves running)
      (calls ++ [.release h answer]) := by
  have hl : (EndedCall.release h answer).leaves running = running :=
    EndedCall.leaves_eq (by simp) (by simp) (by simp [ha])
  have hr : running = true := ht.running_iff.mpr (.inl (by simp [hk]))
  have hc : Abandoned (calls ++ [.release h answer]) :=
    abandoned_append_singleton.mpr (.inl ⟨h, answer, rfl, ha⟩)
  exact ⟨by rw [hl]; simp [hr, hc], by simp [hi]⟩

private theorem Tracks.of_failed {c : EndedCall} (ht : Tracks d running calls)
    (hr : ∀ h answer, c ≠ .release h answer) (hs : ∀ h, c ≠ .start (.done h))
    (hp : ∀ h, c ≠ .stop h (.done ())) (hi : d'.instance? = d.instance?) :
    Tracks d' (c.leaves running) (calls ++ [c]) := by
  have hl : c.leaves running = running := EndedCall.leaves_eq hs hp fun h => hr h (.done ())
  have hn : Abandoned (calls ++ [c]) ↔ Abandoned calls := by
    simp [abandoned_append_singleton, hr, hs]
  exact ⟨by rw [hl, hi, hn]; exact ht.running_iff, by rw [hi, hn]; exact ht.known⟩

theorem Goes.tracks (hg : d.Goes now s d' effects) (hf : d.Fits) (h : Tracks d running calls) :
    Tracks d' ((d.ended? s).elim running (·.leaves running))
      (calls ++ (d.ended? s).toList) := by
  have hh := hg.hands hf
  generalize d.ended? s = ended at hh ⊢
  generalize hi : d.instance? = known at hh
  generalize hi' : d'.instance? = known' at hh
  cases hh with
  | aside =>
    rw [Option.toList_none, List.append_nil]
    exact h.same (hi'.trans hi.symm)
  | started => exact .of_started hi'
  | stopped => exact h.of_stopped hi (.inl rfl) hi'
  | released => exact h.of_stopped hi (.inr rfl) hi'
  | lost ha => exact h.of_released hi ha hi'
  | startFailed ha => exact h.of_failed (by simp) (by simpa using ha) (by simp) (hi'.trans hi.symm)
  | stopFailed ha => exact h.of_failed (by simp) (by simp) (by simp [ha]) (hi'.trans hi.symm)

end Dispatcher
end RestartCoordinator
