import RestartCoordinator.Failure
/-!
# Retries

How often and after what delay a timed out attempt is made again. The delay is a constant or doubles
with each retry; the doubling factor stays below 2^32, and a product that is no duration counts as
longer than the longest delay allowed. `Recovery` counts the retries of one request.
-/
namespace RestartCoordinator

/-- The plan for retries. -/
structure RetryPolicy where
  /-- How many retries may follow the first attempt. -/
  maxRetries : Nat
  base : Duration
  /-- No delay is longer. -/
  longest : Duration
  exponential : Bool
deriving DecidableEq, Repr

namespace RetryPolicy

/-- Two to the power of the retry, kept below 2^32. -/
def factor (retry : Nat) : Nat :=
  if retry < 32 then 1 <<< retry else UInt32.size - 1

/-- The delay before the retry of this number, counted from zero. -/
def delay (p : RetryPolicy) (retry : Nat) : Duration :=
  if p.exponential then
    match p.base.mul? (factor retry) with
    | some d => d.min p.longest
    | none => p.longest
  else p.base.min p.longest

theorem nanos_delay_le (p : RetryPolicy) (retry : Nat) :
    (p.delay retry).nanos ≤ p.longest.nanos := by
  unfold delay
  split
  · split
    · exact Nat.le_trans (Nat.le_of_eq (Duration.nanos_min _ _)) (Nat.min_le_right _ _)
    · exact Nat.le_refl _
  · exact Nat.le_trans (Nat.le_of_eq (Duration.nanos_min _ _)) (Nat.min_le_right _ _)

end RetryPolicy

/-- What follows a failed attempt. -/
inductive RetryDecision where
  | retryAfter (delay : Duration)
  | giveUp
deriving DecidableEq, Repr

/-- The retries made for one request. -/
structure Recovery where
  policy : RetryPolicy
  retries : Nat
deriving DecidableEq, Repr

namespace Recovery

def new (policy : RetryPolicy) : Recovery := ⟨policy, 0⟩

def isExhausted (r : Recovery) : Bool :=
  r.policy.maxRetries ≤ r.retries

/-- Decides on a failure and counts the retry, if it grants one. -/
def handle (r : Recovery) (f : Failure) : RetryDecision × Recovery :=
  if f.isRetryable && !r.isExhausted then
    (.retryAfter (r.policy.delay r.retries), { r with retries := r.retries + 1 })
  else (.giveUp, r)

end Recovery
end RestartCoordinator
