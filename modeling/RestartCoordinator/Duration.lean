/-!
# Durations

A span of time in whole nanoseconds, less than 2^64 seconds. Multiplication can leave that range and
then has no result; milliseconds beyond it are cut to the longest duration. `Duration.text` writes a
duration in the largest unit of which it holds at least one.
-/
namespace RestartCoordinator

/-- A span of time, counted in nanoseconds and shorter than 2^64 seconds. -/
structure Duration where
  nanos : Nat
  bounded : nanos < 18_446_744_073_709_551_616_000_000_000
deriving DecidableEq, Repr

namespace Duration

@[ext] theorem ext {d e : Duration} (h : d.nanos = e.nanos) : d = e := by
  cases d; cases e; simp_all

def zero : Duration := ⟨0, by decide⟩

instance : Inhabited Duration := ⟨zero⟩

/-- The duration of so many nanoseconds, if there is one. -/
def ofNanos? (n : Nat) : Option Duration :=
  if h : n < 18_446_744_073_709_551_616_000_000_000 then some ⟨n, h⟩ else none

/-- The longest duration. -/
def longest : Duration := ⟨18_446_744_073_709_551_615_999_999_999, by decide⟩

/-- So many milliseconds, or the longest duration if they are too many. -/
def ofMillis (ms : Nat) : Duration :=
  (ofNanos? (ms * 1_000_000)).getD longest

/-- Seconds below 2^64 and nanoseconds below one second. -/
def ofParts? (seconds nanos : Nat) : Option Duration :=
  if seconds < UInt64.size ∧ nanos < 1_000_000_000 then
    ofNanos? (seconds * 1_000_000_000 + nanos)
  else none

def seconds (d : Duration) : Nat := d.nanos / 1_000_000_000

/-- The nanoseconds beyond the whole seconds. -/
def subsecond (d : Duration) : Nat := d.nanos % 1_000_000_000

/-- The whole milliseconds. -/
def millis (d : Duration) : Nat := d.nanos / 1_000_000

def min (d e : Duration) : Duration := if d.nanos ≤ e.nanos then d else e

/-- The multiple of a duration, if it is a duration. -/
def mul? (d : Duration) (k : Nat) : Option Duration :=
  ofNanos? (d.nanos * k)

/-- A decimal fraction below one: `digits` places of `part`, written without trailing zeros and with
its point, or nothing if `part` is zero. -/
def fraction (digits part : Nat) : String :=
  let written := Nat.toDigits 10 part
  let padded := List.replicate (digits - written.length) '0' ++ written
  let kept := (padded.reverse.dropWhile (· == '0')).reverse
  if kept.isEmpty then "" else String.ofList ('.' :: kept)

/-- Written in seconds, milliseconds, microseconds or nanoseconds, whichever is the largest unit
that the duration reaches. -/
def text (d : Duration) : String :=
  let write (unit places : Nat) (name : String) : String :=
    toString (d.nanos / unit) ++ fraction places (d.nanos % unit) ++ name
  if 1_000_000_000 ≤ d.nanos then write 1_000_000_000 9 "s"
  else if 1_000_000 ≤ d.nanos then write 1_000_000 6 "ms"
  else if 1_000 ≤ d.nanos then write 1_000 3 "µs"
  else write 1 0 "ns"

@[simp] theorem nanos_min (d e : Duration) : (d.min e).nanos = Nat.min d.nanos e.nanos := by
  unfold Duration.min
  split <;> simp [Nat.min_def, *]

theorem ofNanos?_eq_some_iff {n : Nat} {d : Duration} : ofNanos? n = some d ↔ d.nanos = n := by
  constructor
  · unfold ofNanos?
    split
    · rintro ⟨⟩; rfl
    · simp
  · rintro rfl
    exact dif_pos d.bounded

theorem mul?_eq_some_iff {d e : Duration} {k : Nat} :
    d.mul? k = some e ↔ e.nanos = d.nanos * k :=
  ofNanos?_eq_some_iff

end Duration
end RestartCoordinator
