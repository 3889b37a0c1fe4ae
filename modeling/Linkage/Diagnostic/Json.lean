import Linkage.Diagnostic
import Linkage.Json.Writer

/-! A report for programs to read. -/

namespace Linkage.Diagnostic

/-- A field that is left out when there is no text. -/
def jsonField (name : String) (text : Option String) : List (String × Json) :=
  text.toList.map fun text => (name, .string text)

def toJson (diagnostic : Diagnostic) : Json :=
  .object ([("code", .string diagnostic.code.text), ("severity", .string diagnostic.severity.word),
      ("message", .string diagnostic.message)] ++
    jsonField "rule" diagnostic.rule ++ jsonField "module" diagnostic.module ++
    jsonField "version" diagnostic.version ++ jsonField "suggestion" diagnostic.suggestion)

def summaryJson (diagnostics : List Diagnostic) (summary : Summary) : Json :=
  .object ([("passed", .ofNat summary.passed), ("failed", .ofNat summary.failed),
      ("skipped", .ofNat summary.skipped)] ++ jsonField "fingerprint" summary.fingerprint ++
    [("errors", .ofNat (count .error diagnostics)), ("warnings", .ofNat (count .warning diagnostics)),
      ("hints", .ofNat (count .hint diagnostics))])

def json (diagnostics : List Diagnostic) (summary : Summary) : String :=
  (Json.object [("diagnostics", .list (diagnostics.map toJson)),
    ("summary", summaryJson diagnostics summary)]).pretty ++ "\n"

end Linkage.Diagnostic
