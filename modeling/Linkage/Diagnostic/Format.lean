import Linkage.Diagnostic.Human
import Linkage.Diagnostic.Sarif

/-! The formats in which a report can be written. -/

namespace Linkage

inductive ReportFormat where
  | human
  | json
  | sarif
  deriving DecidableEq, Repr, Inhabited

namespace ReportFormat

def word : ReportFormat → String
  | human => "human"
  | json => "json"
  | sarif => "sarif"

def ofWord? : String → Option ReportFormat
  | "human" => some human
  | "json" => some json
  | "sarif" => some sarif
  | _ => none

/-- Colour and hints concern the text for people only. -/
def render (format : ReportFormat) (diagnostics : List Diagnostic) (summary : Summary) (color hints : Bool) : String :=
  match format with
  | human => Diagnostic.human diagnostics summary color hints
  | json => Diagnostic.json diagnostics summary
  | sarif => Diagnostic.sarif diagnostics summary

end ReportFormat
end Linkage
