import Linkage.Classpath
import Linkage.DependencySet
import Linkage.Report
import Linkage.Sampling
import Linkage.Surface

/-! Checking rules against resolved versions, and against every sample of their ranges. Rules are independent of each
other, so they may be shared out among workers; the verdicts come in the order of registration all the same. -/

namespace Linkage

structure Verifier where
  surface : Surface
  catalog : Catalog
  /-- Libraries that are kept off every classpath. -/
  exclusions : ModuleSet := []
  rules : List Rule := []
  /-- The number of workers that rules are shared out among. -/
  workers : Nat := 1
  deriving DecidableEq, Repr

namespace Verifier

def withExclusion (verifier : Verifier) (key : ModuleKey) : Verifier :=
  { verifier with exclusions := verifier.exclusions.insert key }

/-- There is always one worker. -/
def withWorkers (verifier : Verifier) (workers : Nat) : Verifier :=
  { verifier with workers := max workers 1 }

/-- Adds a rule at the end, unless there is one like it or it excludes its own library. -/
def register (verifier : Verifier) (rule : Rule) : Except Error (Nat × Verifier) :=
  if verifier.rules.any (·.same rule) then throw (.configInvalid ("duplicate rule: " ++ rule.text))
  else if rule.key ∈ rule.excludedDependencies || rule.key ∈ verifier.exclusions then
    throw (.configInvalid ("rule " ++ rule.text ++ " excludes its own module"))
  else return (verifier.rules.length, { verifier with rules := verifier.rules ++ [rule] })

def registerText (verifier : Verifier) (group name versions : String) (extraDependencies : List String) :
    Except Error (Nat × Verifier) := do
  verifier.register (← Rule.parse group name versions extraDependencies)

/-- The matcher classes that nothing on the classpath provides, then the references that do not resolve. -/
def violations (verifier : Verifier) (classpath : Classpath) : List Violation :=
  let absent := verifier.surface.matcherClasses.filterMap fun name =>
    match classpath.lookup verifier.catalog (.ofClass name) with
    | .found _ => none
    | _ => some (Violation.matcherAbsent name)
  let missing := verifier.surface.checkedReferences.filterMap fun symbol =>
    match classpath.resolves verifier.catalog symbol with
    | .found _ => none
    | .excluded key => some (Violation.missingSymbol symbol (some key))
    | .missing => some (Violation.missingSymbol symbol none)
  absent ++ missing

/-- What the violations mean under an expectation. -/
def judge : Expectation → List Violation → Outcome
  | .pass, [] => .passed
  | .pass, violations => .failed violations
  | .fail, [] => .failed [.unexpectedPass]
  | .fail, _ => .passed

def verdict (index : Nat) (rule : Rule) (version : Option Version) (expectation : Expectation) (outcome : Outcome) :
    Verdict :=
  ⟨index, rule.label, rule.key, version, expectation, outcome⟩

/-- Checks a rule at a version, whatever its range. -/
def check (verifier : Verifier) (index : Nat) (rule : Rule) (version : Version) (dependencies : DependencySet)
    (expectation : Expectation) : Verdict :=
  let exclusions := verifier.exclusions.union rule.excludedDependencies
  let classpath := Classpath.build verifier.catalog dependencies rule.extraDependencies exclusions
  verdict index rule (some version) expectation (judge expectation (verifier.violations classpath))

def evaluate (verifier : Verifier) (dependencies : DependencySet) (index : Nat) (rule : Rule) : Verdict :=
  match dependencies.find? rule.key with
  | none => verdict index rule none rule.expectation (.skipped .unresolvedModule)
  | some version =>
    -- The range is looked at first: a skipped version outside of it is told as out of range.
    if !rule.versions.contains version then
      verdict index rule (some version) rule.expectation (.skipped (.outOfRange rule.versions))
    else if rule.skips version then verdict index rule (some version) rule.expectation (.skipped .skippedVersion)
    else verifier.check index rule version dependencies rule.expectation

/-- Applies a function to elements and their places, counted from `first`. -/
def numbered {α : Type u} {β : Type v} (f : Nat → α → β) (first : Nat) : List α → List β
  | [] => []
  | x :: rest => f first x :: numbered f (first + 1) rest

/-- Pieces of a size, which is at least one; the last may be smaller. -/
def pieces {α : Type u} (size : Nat) : List α → List (List α)
  | [] => []
  | x :: rest => (x :: rest.take (size - 1)) :: pieces size (rest.drop (size - 1))
termination_by elements => elements.length
decreasing_by simp only [List.length_drop, List.length_cons]; omega

/-- Shares elements out in pieces; each piece is numbered from its place in the whole list. -/
def shared {α : Type u} {β : Type v} (workers : Nat) (f : Nat → α → β) (elements : List α) : List (List β) :=
  let size := (elements.length + workers - 1) / workers
  numbered (fun place piece => numbered f (place * size) piece) 0 (pieces size elements)

/-- The answers for all rules, in the order of registration. -/
def mapRules {β : Type v} (verifier : Verifier) (f : Nat → Rule → β) : List β :=
  let workers := min verifier.workers verifier.rules.length
  if workers ≤ 1 then numbered f 0 verifier.rules else (shared workers f verifier.rules).flatten

def verify (verifier : Verifier) (dependencies : DependencySet) : List Verdict :=
  verifier.mapRules (verifier.evaluate dependencies)

def verifyRule (verifier : Verifier) (index : Nat) (dependencies : DependencySet) : Option Verdict :=
  verifier.rules[index]?.map (verifier.evaluate dependencies index)

def compareVersions : Option Version → Option Version → Ordering
  | none, none => .eq
  | none, some _ => .lt
  | some _, none => .gt
  | some a, some b => a.compare b

/-- Evaluates a rule at each of its samples, in ascending order of versions. -/
def sampleRule (verifier : Verifier) (candidates : Candidates) (index : Nat) (rule : Rule) : List Verdict :=
  let known := verifier.catalog.releases rule.key ++ candidates.get rule.key
  let inside := (rule.samplesInRange known).map fun version =>
    verifier.evaluate (.single rule.key version) index rule
  let outside := if rule.assertInverse then
      (rule.samplesOutside known).map fun version =>
        verifier.check index rule version (.single rule.key version) rule.expectation.inverted
    else []
  Ascending.sort (fun a b => compareVersions a.version b.version) (inside ++ outside)

/-- The verdicts of every rule, with the place of the rule. -/
def matrixByRule (verifier : Verifier) (candidates : Candidates) : List (Nat × List Verdict) :=
  verifier.mapRules fun index rule => (index, verifier.sampleRule candidates index rule)

def matrix (verifier : Verifier) (candidates : Candidates) : Report :=
  ⟨((verifier.matrixByRule candidates).map (·.2)).flatten⟩

end Verifier
end Linkage
