import Linkage.Rule
import Linkage.Symbol

/-! The outcome of checking one rule at one version. -/

namespace Linkage

inductive Violation where
  /-- A reference does not resolve; when an excluded library has the symbol, it is named. -/
  | missingSymbol (symbol : Symbol) (excludedBy : Option ModuleKey)
  | matcherAbsent (name : String)
  | unexpectedPass
  deriving DecidableEq, Repr

def Violation.text : Violation → String
  | missingSymbol symbol none => "missing " ++ symbol.kind ++ " " ++ symbol.text
  | missingSymbol symbol (some key) =>
    "missing " ++ symbol.kind ++ " " ++ symbol.text ++ " (only provided by excluded " ++ key.text ++ ")"
  | matcherAbsent name => "class-loader matcher class " ++ name ++ " is absent"
  | unexpectedPass => "expected a failure but every symbol resolved"

inductive SkipReason where
  | unresolvedModule
  | outOfRange (range : VersionRange)
  | skippedVersion
  deriving DecidableEq, Repr

def SkipReason.text : SkipReason → String
  | unresolvedModule => "module not in dependency set"
  | outOfRange range => "outside " ++ range.text
  | skippedVersion => "version skipped by rule"

inductive Outcome where
  | passed
  | failed (violations : List Violation)
  | skipped (reason : SkipReason)
  deriving DecidableEq, Repr

structure Verdict where
  /-- The place of the rule in the order of registration, counted from zero. -/
  rule : Nat
  label : String
  key : ModuleKey
  /-- There is no version when the library is not resolved. -/
  version : Option Version
  expectation : Expectation
  outcome : Outcome
  deriving DecidableEq, Repr

namespace Verdict

def isPass (verdict : Verdict) : Bool :=
  match verdict.outcome with
  | .passed => true
  | _ => false

def isFailure (verdict : Verdict) : Bool :=
  match verdict.outcome with
  | .failed _ => true
  | _ => false

def isSkipped (verdict : Verdict) : Bool :=
  match verdict.outcome with
  | .skipped _ => true
  | _ => false

def violations (verdict : Verdict) : List Violation :=
  match verdict.outcome with
  | .failed violations => violations
  | _ => []

def versionLabel (verdict : Verdict) : String :=
  verdict.version.elim "-" (·.text)

def status (verdict : Verdict) : String :=
  match verdict.outcome with
  | .passed => "pass"
  | .failed _ => "fail"
  | .skipped _ => "skip"

/-- The symbol or matcher class that is missing, if the violation is of that kind. -/
def missing? : Violation → Option String
  | .missingSymbol symbol _ => some symbol.text
  | .matcherAbsent name => some name
  | .unexpectedPass => none

/-- The verdict itself, unless something is missing. -/
def require (verdict : Verdict) : Except Error Verdict :=
  match verdict.violations.findSome? missing? with
  | some symbol => throw (.missingSymbol symbol verdict.key.text verdict.versionLabel)
  | none => return verdict

def detail (verdict : Verdict) : String :=
  match verdict.outcome with
  | .passed => ""
  | .failed violations => Text.join ";" (violations.map (·.text))
  | .skipped reason => reason.text

/-- The verdict on one line, as it enters the fingerprint of a report. -/
def line (verdict : Verdict) : String :=
  Text.join "|" [toString verdict.rule, verdict.label, verdict.key.text, verdict.versionLabel, verdict.expectation.word,
    verdict.status, verdict.detail]

end Verdict
end Linkage
