import RevisionGuard.Text.Numeral

/-!
# Durations and instants

A duration is a number of nanoseconds below 2^64 seconds.  An instant is a
point of a monotone clock, counted in nanoseconds from the clock's origin, and
the clock ends after 2^63 seconds: adding a duration to an instant has a result
only if that result is still on the clock (`Instant.add?`).
-/

namespace RevisionGuard

def nanosecondsPerSecond : Nat := 1000000000

/-- A span of time, exact to the nanosecond. -/
structure Duration where
  nanoseconds : Nat
  /-- The whole seconds fit in 64 bits. -/
  bounded : nanoseconds < Numeral.bound * nanosecondsPerSecond
  deriving DecidableEq

namespace Duration

/-- The duration of so many nanoseconds, if it is not too long. -/
def ofNanoseconds? (nanoseconds : Nat) : Option Duration :=
  if bounded : nanoseconds < Numeral.bound * nanosecondsPerSecond then
    some ⟨nanoseconds, bounded⟩
  else none

def zero : Duration := ⟨0, by decide⟩

def ofSeconds (seconds : UInt64) : Duration :=
  ⟨seconds.toNat * nanosecondsPerSecond,
    Nat.mul_lt_mul_of_pos_right seconds.toNat_lt (by decide)⟩

def millisecond : Duration := ⟨1000000, by decide⟩

def seconds (duration : Duration) : Nat := duration.nanoseconds / nanosecondsPerSecond

/-- The nanoseconds that a duration has beyond its whole seconds. -/
def fraction (duration : Duration) : Nat := duration.nanoseconds % nanosecondsPerSecond

def isZero (duration : Duration) : Bool := duration.nanoseconds = 0

/-- A count of a unit that has `10 ^ places` parts: the whole units, and behind
a point the parts without trailing zeros, if there are any. -/
def unitText (count places : Nat) (unit : String) : String :=
  let parts := Nat.pow 10 places
  let decimals :=
    ((Numeral.padded places (count % parts)).toList.reverse.dropWhile (· = '0')).reverse
  let whole := Numeral.text (count / parts)
  if count % parts = 0 then whole ++ unit
  else whole ++ "." ++ String.ofList decimals ++ unit

/-- A duration as a diagnostic shows it: in the largest of seconds,
milliseconds, microseconds and nanoseconds of which it has at least one. -/
def text (duration : Duration) : String :=
  if 1000000000 ≤ duration.nanoseconds then unitText duration.nanoseconds 9 "s"
  else if 1000000 ≤ duration.nanoseconds then unitText duration.nanoseconds 6 "ms"
  else if 1000 ≤ duration.nanoseconds then unitText duration.nanoseconds 3 "µs"
  else unitText duration.nanoseconds 0 "ns"

end Duration

/-- The end of the clock, in nanoseconds from its origin. -/
def Instant.bound : Nat := 9223372036854775808 * nanosecondsPerSecond

/-- A point of the clock. -/
structure Instant where
  nanoseconds : Nat
  bounded : nanoseconds < Instant.bound
  deriving DecidableEq

namespace Instant

/-- The point so many nanoseconds after the origin, if it is on the clock. -/
def ofNanoseconds? (nanoseconds : Nat) : Option Instant :=
  if bounded : nanoseconds < Instant.bound then some ⟨nanoseconds, bounded⟩ else none

def origin : Instant := ⟨0, by decide⟩

/-- The point a duration after an instant, if it is on the clock. -/
def add? (instant : Instant) (duration : Duration) : Option Instant :=
  ofNanoseconds? (instant.nanoseconds + duration.nanoseconds)

/-- Whether an instant comes strictly after another. -/
def isAfter (instant earlier : Instant) : Bool := earlier.nanoseconds < instant.nanoseconds

end Instant

end RevisionGuard
