import RestartCoordinator.Proofs.Retry.Delays
/-!
# Recoveries

What a recovery decides depends on the failures before only through the number of calls among them
that were not answered in time: so many retries were granted, as long as the policy allows more. Every
other failure is given up and leaves no trace. So the delays that a request gets are the first delays
of its policy, each at least as long as the one before.
-/
namespace RestartCoordinator

private theorem Failure.isRetryable_iff {f : Failure} :
    f.isRetryable ↔ ∃ operation timeout, f = .timedOut operation timeout := by
  cases f <;> simp [Failure.isRetryable]

/-- How many of the failures are calls that were not answered in time. -/
def timeouts (fs : List Failure) : Nat := fs.countP Failure.isRetryable

private theorem timeouts_cons (f : Failure) (fs : List Failure) :
    timeouts (f :: fs) = f.isRetryable.toNat + timeouts fs := by
  unfold timeouts
  rw [List.countP_cons]
  cases f.isRetryable <;> simp [Nat.add_comm]

/-- The delay that was granted, if there is to be a retry. -/
def RetryDecision.delay? : RetryDecision → Option Duration
  | .retryAfter delay => some delay
  | .giveUp => none

namespace RetryPolicy

/-- What is decided on a failure before which so many calls were not answered in time. -/
def decision (p : RetryPolicy) (seen : Nat) (f : Failure) : RetryDecision :=
  if f.isRetryable ∧ seen < p.maxRetries then .retryAfter (p.delay seen) else .giveUp

/-- The recovery of a request for which so many calls were not answered in time. -/
def recovery (p : RetryPolicy) (seen : Nat) : Recovery := ⟨p, min seen p.maxRetries⟩

private theorem recovery_of_le {p : RetryPolicy} {seen : Nat} (h : seen ≤ p.maxRetries) :
    p.recovery seen = ⟨p, seen⟩ := by
  have hmin : min seen p.maxRetries = seen := by omega
  rw [recovery, hmin]

private theorem recovery_of_exhausted {p : RetryPolicy} {seen : Nat} (h : p.maxRetries ≤ seen) :
    p.recovery seen = ⟨p, p.maxRetries⟩ := by
  have hmin : min seen p.maxRetries = p.maxRetries := by omega
  rw [recovery, hmin]

private theorem isExhausted_recovery (p : RetryPolicy) (seen : Nat) :
    (p.recovery seen).isExhausted ↔ p.maxRetries ≤ seen := by
  unfold Recovery.isExhausted
  rw [decide_eq_true_iff]
  change p.maxRetries ≤ min seen p.maxRetries ↔ _
  omega

private theorem handle_recovery (p : RetryPolicy) (seen : Nat) (f : Failure) :
    (p.recovery seen).handle f = (p.decision seen f, p.recovery (seen + f.isRetryable.toNat)) := by
  unfold Recovery.handle decision
  cases hf : f.isRetryable with
  | false => simp
  | true =>
    by_cases hs : seen < p.maxRetries
    · have hx : (p.recovery seen).isExhausted = false := by
        have h := p.isExhausted_recovery seen
        rw [← Bool.not_eq_true, h]
        omega
      simp only [hx, Bool.not_false, Bool.and_true, if_true, hs, and_true, Bool.toNat_true]
      rw [recovery_of_le (Nat.le_of_lt hs), recovery_of_le hs]
    · have hle : p.maxRetries ≤ seen := by omega
      have hx : (p.recovery seen).isExhausted := (p.isExhausted_recovery seen).mpr hle
      simp only [hx, Bool.not_true, Bool.and_false, Bool.false_eq_true, if_false, hs, and_false]
      rw [recovery_of_exhausted hle, recovery_of_exhausted (Nat.le_add_right_of_le hle)]

end RetryPolicy

namespace Recovery

/-- Decides on failures one after the other. -/
def handleAll (r : Recovery) : List Failure → List RetryDecision × Recovery
  | [] => ([], r)
  | f :: rest =>
    let (decision, r) := r.handle f
    let (decisions, r) := r.handleAll rest
    (decision :: decisions, r)

variable (p : RetryPolicy) (seen : Nat)

private theorem handleAll_cons (f : Failure) (rest : List Failure) :
    (p.recovery seen).handleAll (f :: rest) =
      (p.decision seen f :: ((p.recovery (seen + f.isRetryable.toNat)).handleAll rest).1,
        ((p.recovery (seen + f.isRetryable.toNat)).handleAll rest).2) := by
  simp only [handleAll, p.handle_recovery]

private theorem handleAll_recovery (fs : List Failure) :
    ((p.recovery seen).handleAll fs).2 = p.recovery (seen + timeouts fs) := by
  induction fs generalizing seen with
  | nil => rfl
  | cons f rest ih =>
    rw [handleAll_cons, timeouts_cons, ih, Nat.add_assoc]

private theorem length_handleAll (fs : List Failure) :
    ((p.recovery seen).handleAll fs).1.length = fs.length := by
  induction fs generalizing seen with
  | nil => rfl
  | cons f rest ih =>
    rw [handleAll_cons, List.length_cons, List.length_cons, ih]

private theorem getElem?_handleAll (fs : List Failure) (k : Nat) :
    ((p.recovery seen).handleAll fs).1[k]? =
      fs[k]?.map (p.decision (seen + timeouts (fs.take k))) := by
  induction fs generalizing seen k with
  | nil => rfl
  | cons f rest ih =>
    rw [handleAll_cons]
    cases k with
    | zero => rfl
    | succ k =>
      rw [List.getElem?_cons_succ, List.getElem?_cons_succ, List.take_succ_cons, timeouts_cons, ih,
        Nat.add_assoc]

private theorem delays_handleAll (fs : List Failure) :
    ((p.recovery seen).handleAll fs).1.filterMap RetryDecision.delay? =
      (List.range' seen (min (seen + timeouts fs) p.maxRetries - seen)).map p.delay := by
  induction fs generalizing seen with
  | nil =>
    have hzero : min seen p.maxRetries - seen = 0 := by omega
    simp [handleAll, timeouts, hzero]
  | cons f rest ih =>
    rw [handleAll_cons, timeouts_cons, List.filterMap_cons, ih]
    cases hf : f.isRetryable with
    | false => simp [RetryPolicy.decision, hf, RetryDecision.delay?]
    | true =>
      by_cases hs : seen < p.maxRetries
      · have hlen : min (seen + (Bool.toNat true + timeouts rest)) p.maxRetries - seen =
            min (seen + Bool.toNat true + timeouts rest) p.maxRetries - (seen + Bool.toNat true) +
              1 := by
          simp only [Bool.toNat_true]
          omega
        rw [hlen, List.range'_succ]
        simp [RetryPolicy.decision, hf, hs, RetryDecision.delay?]
      · have hleft : min (seen + Bool.toNat true + timeouts rest) p.maxRetries -
            (seen + Bool.toNat true) = 0 := by omega
        have hright : min (seen + (Bool.toNat true + timeouts rest)) p.maxRetries - seen = 0 := by
          omega
        rw [hleft, hright]
        simp [RetryPolicy.decision, hs, RetryDecision.delay?]

/-- Whatever fails and in whatever order: a call that was not answered in time is made again after
the delay of its number, as long as that is below the greatest number of retries, and given up from
then on; every other failure is given up and leaves the recovery as it was. The retries that are
counted are the calls that were not answered, up to the greatest number, and from there on they are
exhausted. The delays are those of the first retries. They never become shorter, and lie between the
base, if that is not too long, and the longest delay. -/
theorem handleAll_answers (fs : List Failure) :
    let r (k : Nat) := ((new p).handleAll (fs.take k)).2
    let decisions := ((new p).handleAll fs).1
    let delays := decisions.filterMap RetryDecision.delay?
    (∀ f : Failure, f.isRetryable ↔ ∃ operation timeout, f = .timedOut operation timeout) ∧
      decisions.length = fs.length ∧
      (∀ k f, fs[k]? = some f →
        let i := timeouts (fs.take k)
        decisions[k]? = some (if f.isRetryable ∧ i < p.maxRetries then .retryAfter (p.delay i)
          else .giveUp) ∧
        (f.isRetryable = false → r (k + 1) = r k)) ∧
      (∀ k, (r k).policy = p ∧ (r k).retries = min (timeouts (fs.take k)) p.maxRetries ∧
        ((r k).isExhausted ↔ p.maxRetries ≤ timeouts (fs.take k))) ∧
      delays = (List.range (min (timeouts fs) p.maxRetries)).map p.delay ∧
      delays.Pairwise (·.nanos ≤ ·.nanos) ∧
      ∀ d ∈ delays, min p.base.nanos p.longest.nanos ≤ d.nanos ∧ d.nanos ≤ p.longest.nanos := by
  intro r decisions delays
  have hnew : new p = p.recovery 0 := by simp [new, RetryPolicy.recovery]
  have hr (k : Nat) : r k = p.recovery (timeouts (fs.take k)) := by
    simp only [r, hnew]
    rw [handleAll_recovery, Nat.zero_add]
  have hdelays : delays = (List.range (min (timeouts fs) p.maxRetries)).map p.delay := by
    simp only [delays, decisions, hnew]
    rw [delays_handleAll, Nat.zero_add, Nat.sub_zero, List.range_eq_range']
  refine ⟨fun f => Failure.isRetryable_iff, ?_, ?_, ?_, hdelays, ?_, ?_⟩
  · simp only [decisions, hnew]
    exact length_handleAll p 0 fs
  · intro k f hf i
    constructor
    · simp only [decisions, hnew]
      rw [getElem?_handleAll, hf, Nat.zero_add]
      rfl
    · intro hterminal
      have hcount : timeouts (fs.take (k + 1)) = timeouts (fs.take k) := by
        rw [List.take_add_one, hf]
        simp [timeouts, hterminal]
      rw [hr, hr, hcount]
  · intro k
    rw [hr]
    exact ⟨rfl, rfl, p.isExhausted_recovery _⟩
  · rw [hdelays, List.pairwise_map]
    exact List.pairwise_lt_range.imp fun hlt => p.nanos_delay_mono (Nat.le_of_lt hlt)
  · intro d hd
    rw [hdelays] at hd
    obtain ⟨i, -, rfl⟩ := List.mem_map.mp hd
    exact ⟨p.min_le_nanos_delay i, p.nanos_delay_le i⟩

/-- Of two retries the second is granted although a start was refused in between; the third call that
is not answered finds none left. -/
theorem handleAll_answers_of_four :
    let p : RetryPolicy := ⟨2, .ofMillis 500, .ofMillis 3000, true⟩
    let late : Failure := .timedOut "start" (.ofMillis 30000)
    let refused : Failure := .startFailed (.rejected "denied")
    let fs := [late, refused, late, late]
    let decisions := ((new p).handleAll fs).1
    (fs[1]? = some refused ∧ fs[2]? = some late ∧ fs[3]? = some late) ∧
      decisions[1]? = some .giveUp ∧
      ((new p).handleAll (fs.take 2)).2 = ((new p).handleAll (fs.take 1)).2 ∧
      decisions[2]? = some (.retryAfter (p.delay 1)) ∧ decisions[3]? = some .giveUp ∧
      min p.base.nanos p.longest.nanos ≤ (p.delay 1).nanos ∧
      (p.delay 1).nanos ≤ p.longest.nanos := by
  intro p late refused fs decisions
  obtain ⟨-, -, hat, -, hdelays, -, hbounds⟩ := handleAll_answers p fs
  have hmem : p.delay 1 ∈ decisions.filterMap RetryDecision.delay? := by
    rw [hdelays]
    exact List.mem_map_of_mem (List.mem_range.mpr (by decide))
  obtain ⟨hrefused, hsame⟩ := hat 1 refused rfl
  exact ⟨by decide, hrefused, hsame rfl, (hat 2 late rfl).1, (hat 3 late rfl).1, hbounds _ hmem⟩

end Recovery
end RestartCoordinator
