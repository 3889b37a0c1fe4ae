import Linkage.Diagnostic
import Linkage.Text.Style

/-! A report for people to read. -/

namespace Linkage.Diagnostic

def severityStyle : Severity → Text.Style
  | .hint => Text.Style.cyan
  | .warning => Text.Style.yellow.bold
  | .error => Text.Style.red.bold

/-- The lines of one diagnostic; an empty line ends them. -/
def humanLines (color : Bool) (diagnostic : Diagnostic) : List String :=
  let severity := diagnostic.severity.word
  let shown := if color then (severityStyle diagnostic.severity).apply severity else severity
  [shown ++ "[" ++ diagnostic.code.text ++ "]: " ++ diagnostic.message] ++
    (diagnostic.location.map ("  --> " ++ ·)).toList ++
    (diagnostic.suggestion.map ("   = help: " ++ ·)).toList ++ [""]

/-- The lines at the end: the counts of samples when there are any, the fingerprint, and the counts of problems. -/
def summaryLines (summary : Summary) (errors warnings : Nat) : List String :=
  (if summary.total = 0 then []
    else ["Checked " ++ toString summary.total ++ " sample(s): " ++ toString summary.passed ++ " passed, " ++
      toString summary.failed ++ " failed, " ++ toString summary.skipped ++ " skipped"]) ++
    (summary.fingerprint.map ("Fingerprint: " ++ ·)).toList ++
    (if errors = 0 && warnings = 0 then []
      else ["Found " ++ toString errors ++ " error(s) and " ++ toString warnings ++ " warning(s)"])

def human (diagnostics : List Diagnostic) (summary : Summary) (color hints : Bool) : String :=
  let shown := diagnostics.filter fun diagnostic => hints || diagnostic.severity ≠ .hint
  let lines := shown.flatMap (humanLines color) ++
    summaryLines summary (count .error diagnostics) (count .warning diagnostics)
  String.join (lines.map (· ++ "\n"))

end Linkage.Diagnostic
