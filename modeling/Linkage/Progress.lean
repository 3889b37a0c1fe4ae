/-! A bar that shows how many of a number of steps are done. -/

namespace Linkage

structure Progress where
  total : Nat
  position : Nat := 0
  deriving DecidableEq, Repr

namespace Progress

/-- One more step is done. More steps than there are in total may be. -/
def advance (progress : Progress) : Progress :=
  { progress with position := progress.position + 1 }

/-- A bar that is finished stands at its end, whatever was done before. -/
def finish (progress : Progress) : Progress :=
  { progress with position := progress.total }

end Progress
end Linkage
