import Mathlib.Algebra.Order.Ring.Nat
import RestartCoordinator.Config
/-!
# Delays between attempts

With exponential backoff the delay starts at the base and doubles with each retry until it meets the
longest delay. Three limits bear on that: the factor stays below 2^32, the product has to be a
duration, and no delay passes the longest. The second never shows, since no longest delay is longer
than a duration; the first does where the base is so short that 2^32 - 1 times the base has not
reached the longest delay. From the retry 32 on the delay then stays where it is.
-/
namespace RestartCoordinator
namespace RetryPolicy

variable {p : RetryPolicy} {retry : Nat}

/-- The delay if it doubled with each retry up to the longest delay, in nanoseconds. -/
def doubled (p : RetryPolicy) (retry : Nat) : Nat := min (p.base.nanos * 2 ^ retry) p.longest.nanos

private theorem factor_eq_min (retry : Nat) : factor retry = min (2 ^ retry) (2 ^ 32 - 1) := by
  unfold factor
  by_cases hr : retry < 32
  · have hle : 2 ^ retry ≤ 2 ^ 31 := Nat.pow_le_pow_right (by decide) (by omega)
    rw [if_pos hr, Nat.one_shiftLeft]
    omega
  · have hle : 2 ^ 32 ≤ 2 ^ retry := Nat.pow_le_pow_right (by decide) (by omega)
    rw [if_neg hr]
    simp only [UInt32.size]
    omega

private theorem factor_pos (retry : Nat) : 0 < factor retry := by
  have hpos : 0 < 2 ^ retry := Nat.pow_pos (by decide)
  rw [factor_eq_min]
  omega

private theorem factor_mono {retry later : Nat} (h : retry ≤ later) :
    factor retry ≤ factor later := by
  have hle : 2 ^ retry ≤ 2 ^ later := Nat.pow_le_pow_right (by decide) h
  rw [factor_eq_min, factor_eq_min]
  omega

/-- A product that is no duration is longer than the longest delay, so it needs no case. -/
theorem nanos_delay_of_exponential (hx : p.exponential) (retry : Nat) :
    (p.delay retry).nanos = min (p.base.nanos * factor retry) p.longest.nanos := by
  unfold delay
  rw [if_pos hx]
  split
  · rename_i d hd
    rw [Duration.nanos_min, Duration.mul?_eq_some_iff.mp hd]
  · rename_i hd
    have hlong : p.longest.nanos < p.base.nanos * factor retry := by
      have hbound := p.longest.bounded
      unfold Duration.mul? Duration.ofNanos? at hd
      split at hd
      · cases hd
      · omega
    omega

private theorem nanos_delay_of_constant (hx : p.exponential = false) (retry : Nat) :
    (p.delay retry).nanos = min p.base.nanos p.longest.nanos := by
  simp [delay, hx]

theorem min_le_nanos_delay (p : RetryPolicy) (retry : Nat) :
    min p.base.nanos p.longest.nanos ≤ (p.delay retry).nanos := by
  cases hx : p.exponential with
  | false => rw [nanos_delay_of_constant hx]
  | true =>
    have hle : p.base.nanos ≤ p.base.nanos * factor retry :=
      Nat.le_mul_of_pos_right _ (factor_pos retry)
    rw [nanos_delay_of_exponential hx]
    omega

theorem nanos_delay_mono (p : RetryPolicy) {retry later : Nat} (h : retry ≤ later) :
    (p.delay retry).nanos ≤ (p.delay later).nanos := by
  cases hx : p.exponential with
  | false => rw [nanos_delay_of_constant hx, nanos_delay_of_constant hx]
  | true =>
    have hle : p.base.nanos * factor retry ≤ p.base.nanos * factor later :=
      Nat.mul_le_mul_left _ (factor_mono h)
    rw [nanos_delay_of_exponential hx, nanos_delay_of_exponential hx]
    omega

/-- The delay is the base times the power of two, which is kept below 2^32, cut to the longest delay.
It never passes the delay that doubles without end, and falls short of it exactly where the power of
two is 2^32 or more and the base times 2^32 - 1 is less than the longest delay. -/
theorem nanos_delay_eq_doubled_iff (p : RetryPolicy) (hx : p.exponential) (retry : Nat) :
    (p.delay retry).nanos = min (p.base.nanos * min (2 ^ retry) (2 ^ 32 - 1)) p.longest.nanos ∧
      (p.delay retry).nanos ≤ p.doubled retry ∧
      ((p.delay retry).nanos = p.doubled retry ↔
        retry < 32 ∨ p.base.nanos = 0 ∨ p.longest.nanos ≤ p.base.nanos * (2 ^ 32 - 1)) := by
  have hd := nanos_delay_of_exponential hx retry
  rw [factor_eq_min] at hd
  refine ⟨hd, ?_⟩
  unfold doubled
  rw [hd]
  by_cases hr : retry < 32
  · have hle : 2 ^ retry ≤ 2 ^ 31 := Nat.pow_le_pow_right (by decide) (by omega)
    have hmin : min (2 ^ retry) (2 ^ 32 - 1) = 2 ^ retry := by omega
    rw [hmin]
    exact ⟨Nat.le_refl _, fun _ => .inl hr, fun _ => rfl⟩
  · have hle : 2 ^ 32 ≤ 2 ^ retry := Nat.pow_le_pow_right (by decide) (by omega)
    have hmin : min (2 ^ retry) (2 ^ 32 - 1) = 2 ^ 32 - 1 := by omega
    have hmul : p.base.nanos * 2 ^ 32 ≤ p.base.nanos * 2 ^ retry := Nat.mul_le_mul_left _ hle
    rw [hmin]
    refine ⟨by omega, fun heq => ?_, fun hlaw => ?_⟩
    · omega
    · rcases hlaw with hlt | hzero | hlong
      · contradiction
      · rw [hzero, Nat.zero_mul, Nat.zero_mul]
      · omega

/-- With a base of a second and a longest delay of a minute, the longest delay is met long before the
factor meets its limit. -/
theorem nanos_delay_eq_doubled_of_seconds :
    let p : RetryPolicy := ⟨40, .ofMillis 1000, .ofMillis 60000, true⟩
    p.exponential ∧
      (p.delay 35).nanos = min (p.base.nanos * min (2 ^ 35) (2 ^ 32 - 1)) p.longest.nanos ∧
      (p.delay 35).nanos ≤ p.doubled 35 ∧
      ((p.delay 35).nanos = p.doubled 35 ↔
        35 < 32 ∨ p.base.nanos = 0 ∨ p.longest.nanos ≤ p.base.nanos * (2 ^ 32 - 1)) := by
  intro p
  exact ⟨rfl, nanos_delay_eq_doubled_iff p rfl 35⟩

/-- With a base of a millisecond and a longest delay of 2^33 milliseconds, which are valid settings,
the delay before the retry 33 is little more than half of what doubling gives. -/
theorem delay_below_doubled :
    let d : Config.Dispatch :=
      { retryBackoffBaseMs := 1, retryBackoffMaxMs := 8_589_934_592, maxRetryAttempts := 40 }
    ({ dispatch := d } : Config).fault? = none ∧ d.policy.exponential ∧
      (d.policy.delay 33).nanos = 4_294_967_295_000_000 ∧
      d.policy.doubled 33 = 8_589_934_592_000_000 ∧
      (d.policy.delay 33).nanos < d.policy.doubled 33 := by
  decide

end RetryPolicy
end RestartCoordinator
