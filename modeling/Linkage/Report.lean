import Linkage.Sha256
import Linkage.Verdict

/-! The verdicts of a matrix run, in the order of rules and then of versions. -/

namespace Linkage

structure Report where
  verdicts : List Verdict
  deriving DecidableEq, Repr

namespace Report

def passed (report : Report) : Nat :=
  report.verdicts.countP (·.isPass)

def failed (report : Report) : Nat :=
  report.verdicts.countP (·.isFailure)

def skipped (report : Report) : Nat :=
  report.verdicts.countP (·.isSkipped)

def isSuccess (report : Report) : Bool :=
  report.failed = 0

/-- The lines of all verdicts, each ended by a line feed. -/
def lines (report : Report) : String :=
  report.verdicts.foldl (fun text verdict => text ++ verdict.line ++ "\n") ""

/-- A hash by which equal reports are recognised. -/
def fingerprint (report : Report) : String :=
  Sha256.hexOf report.lines

/-- The report itself, unless a sample failed. -/
def require (report : Report) : Except Error Report :=
  if report.failed = 0 then return report else throw (.incompatible report.failed)

end Report
end Linkage
