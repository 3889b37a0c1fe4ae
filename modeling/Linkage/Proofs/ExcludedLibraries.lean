import Linkage.Proofs.MatrixSamples
import Linkage.Proofs.RuleEvaluation

/-! An excluded library decides nothing. Two catalogs that differ in this library alone lead the search through the same
turns, since a key that is never let in is never followed. The classpath is the same then, and so is what is present on
it. Only a violation shows the difference, by naming the excluded library that has the missing symbol. -/

namespace Linkage

def Catalog.AgreeApart (hidden : ModuleKey) (catalog other : Catalog) : Prop :=
  ∀ key, key ≠ hidden → catalog.find? key = other.find? key

namespace Classpath
variable {catalog other : Catalog} {exclusions : ModuleSet} {candidates : List Candidate}
  {followed : List ModuleKey} {state : Classpath × List ModuleKey} {classpath : Classpath}
  {hidden key : ModuleKey} {symbol : Symbol}

namespace Reached

/-- What the catalog has under an excluded key does not change the turns of a run. -/
theorem agreeApart (reached : Reached catalog exclusions candidates followed state)
    (agree : Catalog.AgreeApart hidden catalog other) (excluded : hidden ∈ exclusions) :
    Reached other exclusions candidates followed state := by
  induction reached with
  | start => exact .start
  | @turn followed classpath key queue before ih =>
    have visible : key ≠ hidden := by
      rintro rfl
      exact before.not_mem_of_excluded excluded (by simp)
    have same : pulled catalog key = pulled other key := by
      simp only [pulled, Catalog.dependencies, agree key visible]
    rw [same]
    exact .turn ih

end Reached

theorem build_agreeApart (agree : Catalog.AgreeApart hidden catalog other) (excluded : hidden ∈ exclusions)
    (resolved : List (ModuleKey × Version)) (extras : List Coordinate) :
    build catalog resolved extras exclusions = build other resolved extras exclusions := by
  obtain ⟨followed, first⟩ := build_reached catalog resolved extras exclusions
  obtain ⟨others, second⟩ := build_reached other resolved extras exclusions
  exact (first.agreeApart agree excluded).end_unique second

theorem not_mem_build_of_excluded {resolved : List (ModuleKey × Version)} {extras : List Coordinate}
    (excluded : key ∈ exclusions) : key ∉ (build catalog resolved extras exclusions).entries.keys := by
  obtain ⟨followed, reached⟩ := build_reached catalog resolved extras exclusions
  have absent := reached.not_mem_of_excluded excluded
  rwa [reached.mem_iff, ← ModuleMap.mem_keys_iff] at absent

section
variable (agree : Catalog.AgreeApart hidden catalog other) (absent : hidden ∉ classpath.entries.keys)
include agree absent

theorem present_agreeApart : classpath.Present catalog symbol ↔ classpath.Present other symbol := by
  unfold Present Catalog.Offers
  refine exists_congr fun entry => and_congr_right fun member => ?_
  have visible : entry.1 ≠ hidden := by
    rintro rfl
    exact absent (List.mem_map_of_mem member)
  rw [agree entry.1 visible]

theorem links_agreeApart : classpath.Links catalog symbol ↔ classpath.Links other symbol := by
  unfold Links
  rw [present_agreeApart agree absent, present_agreeApart agree absent]

end
end Classpath

/-- A violation without the library that is blamed for it. -/
def Violation.unblamed : Violation → Violation
  | missingSymbol symbol _ => missingSymbol symbol none
  | matcherAbsent name => matcherAbsent name
  | unexpectedPass => unexpectedPass

def Outcome.unblamed : Outcome → Outcome
  | passed => passed
  | failed violations => failed (violations.map Violation.unblamed)
  | skipped reason => skipped reason

def Verdict.unblamed (verdict : Verdict) : Verdict :=
  { verdict with outcome := verdict.outcome.unblamed }

namespace Verifier
variable {verifier : Verifier} {other : Catalog} {hidden : ModuleKey} {rule : Rule} {classpath : Classpath}

/-- A verifier with another catalog, the same in all else. -/
def withCatalog (verifier : Verifier) (catalog : Catalog) : Verifier :=
  { verifier with catalog }

theorem judge_unblamed (expectation : Expectation) (found : List Violation) :
    (judge expectation found).unblamed = judge expectation (found.map Violation.unblamed) := by
  cases expectation with
  | pass =>
    cases found with
    | nil => rfl
    | cons violation rest => rfl
  | fail =>
    cases found with
    | nil => rfl
    | cons violation rest => rfl

theorem violations_unblamed (verifier : Verifier) (classpath : Classpath) :
    (verifier.violations classpath).map Violation.unblamed =
      (verifier.absentMatchers classpath).map .matcherAbsent ++
        (verifier.surface.checkedReferences.filter (¬ classpath.Links verifier.catalog ·)).map fun symbol =>
          .missingSymbol symbol none := by
  rw [violations_eq, List.map_append, List.map_map, List.map_map]
  rfl

theorem violations_agreeApart (agree : Catalog.AgreeApart hidden verifier.catalog other)
    (absent : hidden ∉ classpath.entries.keys) :
    (verifier.violations classpath).map Violation.unblamed =
      ((verifier.withCatalog other).violations classpath).map Violation.unblamed := by
  have present (symbol : Symbol) : classpath.Present verifier.catalog symbol ↔ classpath.Present other symbol :=
    Classpath.present_agreeApart agree absent
  have links (symbol : Symbol) : classpath.Links verifier.catalog symbol ↔ classpath.Links other symbol :=
    Classpath.links_agreeApart agree absent
  rw [violations_unblamed, violations_unblamed]
  simp only [absentMatchers, present, links]
  rfl

section
variable (agree : Catalog.AgreeApart hidden verifier.catalog other)
  (excluded : hidden ∈ verifier.exclusions ∨ hidden ∈ rule.excludedDependencies)
include agree excluded

theorem check_agreeApart (index : Nat) (version : Version) (dependencies : DependencySet) (expectation : Expectation) :
    (verifier.check index rule version dependencies expectation).unblamed =
      ((verifier.withCatalog other).check index rule version dependencies expectation).unblamed := by
  let exclusions := verifier.exclusions.union rule.excludedDependencies
  have barred : hidden ∈ exclusions := (ModuleSet.mem_union _ _).mpr excluded
  have same := Classpath.build_agreeApart agree barred dependencies rule.extraDependencies
  have absent : hidden ∉ (Classpath.build other dependencies rule.extraDependencies exclusions).entries.keys :=
    Classpath.not_mem_build_of_excluded barred
  have found := violations_agreeApart agree absent
  have judged : (judge expectation (verifier.violations
        (.build verifier.catalog dependencies rule.extraDependencies exclusions))).unblamed =
      (judge expectation ((verifier.withCatalog other).violations
        (.build other dependencies rule.extraDependencies exclusions))).unblamed := by
    rw [judge_unblamed, judge_unblamed, same, found]
  exact congrArg (verdict index rule (some version) expectation) judged

theorem evaluate_agreeApart (index : Nat) (dependencies : DependencySet) :
    (verifier.evaluate dependencies index rule).unblamed =
      ((verifier.withCatalog other).evaluate dependencies index rule).unblamed := by
  unfold evaluate
  split
  · rfl
  · split
    · rfl
    · split
      · rfl
      · exact check_agreeApart agree excluded _ _ _ _

theorem sampleRule_agreeApart (apart : hidden ≠ rule.key) (candidates : Candidates) (index : Nat) :
    (verifier.sampleRule candidates index rule).map Verdict.unblamed =
      ((verifier.withCatalog other).sampleRule candidates index rule).map Verdict.unblamed := by
  have releases : verifier.catalog.releases rule.key = (verifier.withCatalog other).catalog.releases rule.key := by
    rw [Catalog.releases, agree rule.key apart.symm]
    rfl
  have evaluated (version : Version) := evaluate_agreeApart agree excluded index (.single rule.key version)
  have checked (version : Version) :=
    check_agreeApart agree excluded index version (.single rule.key version) rule.expectation.inverted
  have sorted (verdicts : List Verdict) :
      (Ascending.sort (fun a b => compareVersions a.version b.version) verdicts).map Verdict.unblamed =
        Ascending.sort (fun a b => compareVersions a.version b.version) (verdicts.map Verdict.unblamed) :=
    Ascending.map_sort fun _ _ => rfl
  simp only [sampleRule]
  rw [sorted, sorted, releases]
  split
  · simp only [List.map_append, List.map_map, Function.comp_def, evaluated, checked]
  · simp only [List.append_nil, List.map_map, Function.comp_def, evaluated]

end

/-- A rule whose library is another one than the excluded library is judged the same, blame apart, whatever the catalog
has under the excluded key, and whether it has anything there: against every set of resolved versions, and at every
sample of a matrix run. -/
theorem excluded_library_neutral (verifier : Verifier) (other : Catalog) (hidden : ModuleKey) (index : Nat) (rule : Rule)
    (registered : verifier.rules[index]? = some rule)
    (excluded : hidden ∈ verifier.exclusions ∨ hidden ∈ rule.excludedDependencies) (apart : hidden ≠ rule.key)
    (agree : Catalog.AgreeApart hidden verifier.catalog other) :
    (∀ dependencies, (verifier.verifyRule index dependencies).map Verdict.unblamed =
      ((verifier.withCatalog other).verifyRule index dependencies).map Verdict.unblamed) ∧
    ∀ candidates, ((verifier.matrix candidates).verdicts.filter (·.rule = index)).map Verdict.unblamed =
      (((verifier.withCatalog other).matrix candidates).verdicts.filter (·.rule = index)).map Verdict.unblamed := by
  have listed : (verifier.withCatalog other).rules[index]? = some rule := registered
  refine ⟨?_, ?_⟩
  · intro dependencies
    rw [verifyRule, verifyRule, registered, listed, Option.map_some, Option.map_some, Option.map_some, Option.map_some,
      evaluate_agreeApart agree excluded]
  · intro candidates
    rw [matrix_verdicts, matrix_verdicts, filter_flatten_numbered (fun _ _ => sampleRule_rule) registered,
      filter_flatten_numbered (fun _ _ => sampleRule_rule) listed]
    exact sampleRule_agreeApart agree excluded apart candidates index

namespace Helper

def core : ModuleKey := ⟨"org.sample", "core", isKeyPart_sample, by decide⟩
def helper : ModuleKey := ⟨"org.sample", "helper", isKeyPart_sample, by decide⟩
def base : ModuleKey := ⟨"org.sample", "base", isKeyPart_sample, by decide⟩
def release : Version := ⟨"1.0", [1, 0], none⟩
def hook : Symbol := .ofClass "org.sample.Hook"
def sample : Rule :=
  { key := core, versions := .atLeast release, extraDependencies := [⟨helper, release⟩], excludedDependencies := [helper] }

/-- Both the helper and the library behind it have the hook. -/
def complete : Catalog :=
  ⟨[(base, { key := base, symbols := [.always hook] }), (core, { key := core, releases := [release] }),
    (helper, { key := helper, dependencies := [⟨base, release⟩], symbols := [.always hook] })]⟩

def partly : Catalog :=
  ⟨[(base, { key := base, symbols := [.always hook] }), (core, { key := core, releases := [release] })]⟩

def start : Verifier :=
  { surface := .ofReferences [hook], catalog := complete, rules := [sample] }

theorem agreeApart : Catalog.AgreeApart helper complete partly := by
  intro key visible
  simp only [Catalog.find?, complete, partly, ModuleMap.find?_cons, ModuleMap.find?_nil, visible.symm, if_false]

end Helper

open Helper in
/-- The helper is blamed if the catalog has it, and nothing else changes. -/
theorem excluded_library_neutral_helper :
    start.verifyRule 0 (.single core release) =
      some ⟨0, "org.sample:core", core, some release, .pass, .failed [.missingSymbol hook (some helper)]⟩ ∧
    (start.withCatalog partly).verifyRule 0 (.single core release) =
      some ⟨0, "org.sample:core", core, some release, .pass, .failed [.missingSymbol hook none]⟩ ∧
    (∀ dependencies, (start.verifyRule 0 dependencies).map Verdict.unblamed =
      ((start.withCatalog partly).verifyRule 0 dependencies).map Verdict.unblamed) ∧
    ∀ candidates, ((start.matrix candidates).verdicts.filter (·.rule = 0)).map Verdict.unblamed =
      (((start.withCatalog partly).matrix candidates).verdicts.filter (·.rule = 0)).map Verdict.unblamed :=
  ⟨by decide, by decide, excluded_library_neutral start partly helper 0 sample rfl (.inr (by decide)) (by decide) agreeApart⟩

end Verifier
end Linkage
