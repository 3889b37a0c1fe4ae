import Linkage.Binary64

/-! How long something took. -/

namespace Linkage

def nanosecondsPerSecond : Nat := 1000000000

/-- A span of time; the nanoseconds are those beyond the whole seconds. -/
structure Elapsed where
  seconds : Nat := 0
  nanoseconds : Nat := 0
  deriving DecidableEq, Repr, Inhabited

namespace Elapsed

/-- The seconds as a fraction. Both parts are floating-point numbers, and so is their sum. -/
def inSeconds (elapsed : Elapsed) : Nat × Nat :=
  let (whole, one) := Binary64.rounded elapsed.seconds 1
  let (part, unit) := Binary64.rounded elapsed.nanoseconds nanosecondsPerSecond
  Binary64.rounded (whole * unit + part * one) (one * unit)

/-- A fraction with one decimal; a half goes to the even neighbour. -/
def tenths (numerator denominator : Nat) : String :=
  let count := Binary64.roundToEven (10 * numerator) denominator
  toString (count / 10) ++ "." ++ toString (count % 10)

/-- Milliseconds below one second, else seconds or minutes with one decimal. -/
def text (elapsed : Elapsed) : String :=
  let (numerator, denominator) := elapsed.inSeconds
  if numerator < denominator then toString (elapsed.seconds * 1000 + elapsed.nanoseconds / 1000000) ++ "ms"
  else if numerator < 60 * denominator then tenths numerator denominator ++ "s"
  else
    let (numerator, denominator) := Binary64.rounded numerator (60 * denominator)
    tenths numerator denominator ++ "m"

end Elapsed
end Linkage
