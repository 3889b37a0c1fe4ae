import Linkage.Report

/-! What a report tells: one diagnostic for every violation and for every skipped sample, and a summary. -/

namespace Linkage

inductive Severity where
  /-- Does not affect the exit code. -/
  | hint
  | warning
  | error
  deriving DecidableEq, Repr, Inhabited

namespace Severity

def word : Severity → String
  | hint => "hint"
  | warning => "warning"
  | error => "error"

def ofWord? : String → Option Severity
  | "hint" => some hint
  | "warning" => some warning
  | "error" => some error
  | _ => none

end Severity

/-- The kind of a diagnostic. Checks of the configuration have names of their own. -/
inductive Code where
  | missingSymbol
  | excludedSymbol
  | matcherMismatch
  | unexpectedPass
  | unresolvedModule
  | outOfRange
  | skippedVersion
  | config (check : String)
  deriving DecidableEq, Repr

namespace Code

def text : Code → String
  | missingSymbol => "missing-symbol"
  | excludedSymbol => "excluded-symbol"
  | matcherMismatch => "matcher-mismatch"
  | unexpectedPass => "unexpected-pass"
  | unresolvedModule => "unresolved-module"
  | outOfRange => "out-of-range"
  | skippedVersion => "skipped-version"
  | config check => check

def description : Code → String
  | missingSymbol => "A referenced symbol does not exist at a sampled version"
  | excludedSymbol => "A referenced symbol is only provided by an excluded artifact"
  | matcherMismatch => "A class-loader matcher class is absent"
  | unexpectedPass => "A version expected to fail linked cleanly"
  | unresolvedModule => "The rule's module is not in the dependency set"
  | outOfRange => "The resolved version is outside the rule's range"
  | skippedVersion => "The version is listed in skip_versions"
  | config _ => "Configuration problem"

/-- The kind of a name; a name that no kind has belongs to a check of the configuration. -/
def ofText (name : String) : Code :=
  let known := [missingSymbol, excludedSymbol, matcherMismatch, unexpectedPass, unresolvedModule, outOfRange,
    skippedVersion]
  (known.find? (·.text = name)).getD (config name)

end Code

structure Diagnostic where
  code : Code
  severity : Severity
  message : String
  /-- The label of the rule. -/
  rule : Option String := none
  /-- The key of the library. -/
  module : Option String := none
  version : Option String := none
  suggestion : Option String := none
  deriving DecidableEq, Repr

namespace Diagnostic

/-- Attaches rule, library and version of a verdict. -/
def about (diagnostic : Diagnostic) (verdict : Verdict) : Diagnostic :=
  { diagnostic with
    rule := some verdict.label
    module := some verdict.key.text
    version := verdict.version.map (·.text) }

/-- Where the problem is: the rule, and in parentheses the library and version, unless the rule is named like them. -/
def location (diagnostic : Diagnostic) : Option String :=
  diagnostic.rule.map fun rule =>
    let target := match diagnostic.module, diagnostic.version with
      | some module, some version => some (module ++ " " ++ version)
      | some module, none => some module
      | none, some version => some version
      | none, none => none
    match target with
    | none => rule
    | some target => if diagnostic.module = some rule then target else rule ++ " (" ++ target ++ ")"

def ofViolation (violation : Violation) : Diagnostic :=
  let (code, suggestion) := match violation with
    | .missingSymbol symbol none => (Code.missingSymbol,
      "Narrow the rule's range or add an extra dependency that provides " ++ symbol.owner)
    | .missingSymbol _ (some key) => (.excludedSymbol,
      "Stop referencing it, or remove " ++ key.text ++ " from the exclusions")
    | .matcherAbsent _ => (.matcherMismatch,
      "Add the artifact providing the matcher class as an extra dependency")
    | .unexpectedPass => (.unexpectedPass,
      "Use 'assert: pass' or move the range to versions that really break")
  { code, severity := .error, message := violation.text, suggestion := some suggestion }

def ofSkip (reason : SkipReason) : Diagnostic :=
  let code := match reason with
    | .unresolvedModule => Code.unresolvedModule
    | .outOfRange _ => .outOfRange
    | .skippedVersion => .skippedVersion
  { code, severity := .hint, message := "skipped: " ++ reason.text }

/-- The diagnostics of one verdict; a pass has none. -/
def ofVerdict (verdict : Verdict) : List Diagnostic :=
  match verdict.outcome with
  | .passed => []
  | .failed violations => violations.map fun violation => (ofViolation violation).about verdict
  | .skipped reason => [(ofSkip reason).about verdict]

def ofVerdicts (verdicts : List Verdict) : List Diagnostic :=
  verdicts.flatMap ofVerdict

def count (severity : Severity) (diagnostics : List Diagnostic) : Nat :=
  diagnostics.countP (·.severity = severity)

end Diagnostic

/-- The counts at the end of a report; a matrix run has a fingerprint too. -/
structure Summary where
  passed : Nat
  failed : Nat
  skipped : Nat
  fingerprint : Option String := none
  deriving DecidableEq, Repr

namespace Summary

def ofVerdicts (verdicts : List Verdict) : Summary :=
  let report : Report := ⟨verdicts⟩
  { passed := report.passed, failed := report.failed, skipped := report.skipped }

def ofReport (report : Report) : Summary :=
  { ofVerdicts report.verdicts with fingerprint := some report.fingerprint }

def total (summary : Summary) : Nat :=
  summary.passed + summary.failed + summary.skipped

end Summary
end Linkage
