import Linkage.Proofs.MatrixSamples

/-! The shape of verdicts. Whatever is verified, a rule that should pass fails with what is wrong on its classpath, and
one that should fail fails with that alone. A verdict is refused just in the first case. Turning the expectation of a rule
around turns its verdict around, unless the rule is skipped. -/

namespace Linkage

namespace Verdict
variable {verdict : Verdict} {found : List Violation}

structure WellShaped (verdict : Verdict) : Prop where
  broken : ∀ found, verdict.outcome = .failed found → verdict.expectation = .pass →
    found ≠ [] ∧ .unexpectedPass ∉ found
  unexpected : ∀ found, verdict.outcome = .failed found → verdict.expectation = .fail → found = [.unexpectedPass]

theorem violations_of_failed (failed : verdict.outcome = .failed found) : verdict.violations = found := by
  unfold violations
  rw [failed]

theorem isFailure_iff : verdict.isFailure ↔ ∃ found, verdict.outcome = .failed found := by
  unfold isFailure
  cases verdict.outcome <;> simp

theorem violations_of_not_isFailure (other : ¬ verdict.isFailure) : verdict.violations = [] := by
  unfold violations
  cases outcome : verdict.outcome with
  | failed found => exact absurd (isFailure_iff.mpr ⟨found, outcome⟩) other
  | passed => rfl
  | skipped reason => rfl

theorem missing?_eq_none_iff {violation : Violation} : missing? violation = none ↔ violation = .unexpectedPass := by
  cases violation <;> simp [missing?]

theorem require_eq_ok_iff :
    verdict.require = .ok verdict ↔ ∀ violation ∈ verdict.violations, violation = .unexpectedPass := by
  unfold require
  cases named : verdict.violations.findSome? missing? with
  | none =>
    rw [List.findSome?_eq_none_iff] at named
    refine iff_of_true rfl ?_
    intro violation member
    exact missing?_eq_none_iff.mp (named violation member)
  | some symbol =>
    obtain ⟨violation, member, names⟩ := List.exists_of_findSome?_eq_some named
    constructor
    · intro passed
      cases passed
    · intro only
      rw [only violation member] at names
      cases names

theorem require_ok_or_error : verdict.require = .ok verdict ∨ ∃ error, verdict.require = .error error := by
  unfold require
  split
  · exact .inr ⟨_, rfl⟩
  · exact .inl rfl

/-- A refusal names something that is missing, and only a failure to pass has that. -/
theorem WellShaped.refused_iff (shaped : verdict.WellShaped) :
    (∃ error, verdict.require = .error error) ↔ verdict.isFailure ∧ verdict.expectation = .pass := by
  have refused : (∃ error, verdict.require = .error error) ↔ ¬ verdict.require = .ok verdict := by
    constructor
    · intro ⟨error, refused⟩ passed
      rw [refused] at passed
      cases passed
    · intro refused
      exact require_ok_or_error.resolve_left refused
  rw [refused, require_eq_ok_iff]
  constructor
  · intro named
    have failure : verdict.isFailure := by
      by_contra other
      apply named
      rw [violations_of_not_isFailure other]
      intro violation member
      cases member
    refine ⟨failure, ?_⟩
    obtain ⟨found, failed⟩ := isFailure_iff.mp failure
    cases expected : verdict.expectation with
    | pass => rfl
    | fail =>
      exfalso
      apply named
      rw [violations_of_failed failed, shaped.unexpected found failed expected]
      intro violation member
      exact List.mem_singleton.mp member
  · intro ⟨failure, expected⟩ only
    obtain ⟨found, failed⟩ := isFailure_iff.mp failure
    obtain ⟨nonempty, named⟩ := shaped.broken found failed expected
    rw [violations_of_failed failed] at only
    obtain ⟨violation, member⟩ := List.exists_mem_of_ne_nil found nonempty
    exact named (only violation member ▸ member)

end Verdict

namespace Verifier
variable {verifier : Verifier} {verdicts : List Verdict} {dependencies : DependencySet} {index : Nat} {rule : Rule}
  {version : Option Version} {expectation : Expectation} {found : List Violation}

/-- The lists of verdicts that a verifier gives. -/
inductive Gives (verifier : Verifier) : List Verdict → Prop where
  | verified (dependencies : DependencySet) : Gives verifier (verifier.verify dependencies)
  | picked {index : Nat} {dependencies : DependencySet} {verdict : Verdict}
      (found : verifier.verifyRule index dependencies = some verdict) : Gives verifier [verdict]
  | sampled (candidates : Candidates) : Gives verifier (verifier.matrix candidates).verdicts

theorem unexpectedPass_not_mem_violations (verifier : Verifier) (classpath : Classpath) :
    .unexpectedPass ∉ verifier.violations classpath := by
  unfold violations
  simp only [List.mem_append, List.mem_filterMap]
  intro listed
  rcases listed with ⟨name, -, named⟩ | ⟨symbol, -, named⟩
  · split at named <;> cases named
  · split at named <;> cases named

theorem wellShaped_judge (named : .unexpectedPass ∉ found) :
    (verdict index rule version expectation (judge expectation found)).WellShaped := by
  constructor
  · intro listed failed expected
    cases expected
    cases found with
    | nil => cases failed
    | cons violation rest =>
      obtain rfl := Outcome.failed.inj failed
      exact ⟨List.cons_ne_nil _ _, named⟩
  · intro listed failed expected
    cases expected
    cases found with
    | nil => exact (Outcome.failed.inj failed).symm
    | cons violation rest => cases failed

theorem wellShaped_skipped (reason : SkipReason) :
    (verdict index rule version expectation (.skipped reason)).WellShaped := by
  constructor
  · intro found failed
    cases failed
  · intro found failed
    cases failed

theorem wellShaped_check (verifier : Verifier) (index : Nat) (rule : Rule) (version : Version)
    (dependencies : DependencySet) (expectation : Expectation) :
    (verifier.check index rule version dependencies expectation).WellShaped :=
  wellShaped_judge (unexpectedPass_not_mem_violations verifier _)

theorem wellShaped_evaluate (verifier : Verifier) (dependencies : DependencySet) (index : Nat) (rule : Rule) :
    (verifier.evaluate dependencies index rule).WellShaped := by
  unfold evaluate
  split
  · exact wellShaped_skipped _
  · split
    · exact wellShaped_skipped _
    · split
      · exact wellShaped_skipped _
      · exact wellShaped_check ..

theorem wellShaped_sampleAt (verifier : Verifier) (index : Nat) (rule : Rule) (version : Version) :
    (verifier.sampleAt index rule version).WellShaped := by
  unfold sampleAt
  split
  · exact wellShaped_evaluate ..
  · exact wellShaped_check ..

theorem Gives.wellShaped (gives : verifier.Gives verdicts) : ∀ verdict ∈ verdicts, verdict.WellShaped := by
  intro verdict member
  cases gives with
  | verified dependencies =>
    obtain ⟨index, found⟩ := List.mem_iff_getElem?.mp member
    rw [verify, getElem?_mapRules, Option.map_eq_some_iff] at found
    obtain ⟨rule, -, rfl⟩ := found
    exact wellShaped_evaluate ..
  | picked found =>
    obtain rfl := List.mem_singleton.mp member
    rw [verifyRule, Option.map_eq_some_iff] at found
    obtain ⟨rule, -, rfl⟩ := found
    exact wellShaped_evaluate ..
  | sampled candidates =>
    rw [matrix_verdicts] at member
    obtain ⟨index, rule, -, inside⟩ := mem_flatten_numbered.mp member
    obtain ⟨version, -, rfl⟩ := mem_sampleRule inside
    exact wellShaped_sampleAt ..

end Verifier

/-- Outcomes under expectations that are opposite to each other. -/
inductive Outcome.Opposite : Outcome → Outcome → Prop where
  | skipped (reason : SkipReason) : Opposite (.skipped reason) (.skipped reason)
  | passed (found : List Violation) : Opposite .passed (.failed found)
  | failed (found : List Violation) : Opposite (.failed found) .passed

namespace Verifier
variable {verifier : Verifier}

theorem opposite_judge (expectation : Expectation) (found : List Violation) :
    (judge expectation found).Opposite (judge expectation.inverted found) := by
  cases expectation with
  | pass =>
    cases found with
    | nil => exact .passed _
    | cons violation rest => exact .failed _
  | fail =>
    cases found with
    | nil => exact .failed _
    | cons violation rest => exact .passed _

theorem opposite_evaluate (verifier : Verifier) (dependencies : DependencySet) (index : Nat) (rule : Rule) :
    (verifier.evaluate dependencies index rule).outcome.Opposite
      (verifier.evaluate dependencies index { rule with expectation := rule.expectation.inverted }).outcome := by
  unfold evaluate
  -- Nothing that decides about skipping a rule looks at its expectation.
  cases dependencies.find? rule.key with
  | none => exact .skipped _
  | some version =>
    have limits : Rule.skips { rule with expectation := rule.expectation.inverted } version = rule.skips version := rfl
    simp only [limits]
    cases rule.versions.contains version with
    | false => exact .skipped _
    | true =>
      cases rule.skips version with
      | true => exact .skipped _
      | false => exact opposite_judge rule.expectation _

/-- Every verdict has the shape of its expectation, and is refused just if it fails to pass. Under the opposite
expectation a rule is skipped for the same reason, or one of the two passes and the other one fails. -/
theorem verdicts_shaped (verifier : Verifier) :
    (∀ verdicts, verifier.Gives verdicts → ∀ verdict ∈ verdicts, verdict.WellShaped ∧
      ((∃ error, verdict.require = .error error) ↔ verdict.isFailure ∧ verdict.expectation = .pass)) ∧
    ∀ dependencies index (rule : Rule), (verifier.evaluate dependencies index rule).outcome.Opposite
      (verifier.evaluate dependencies index { rule with expectation := rule.expectation.inverted }).outcome := by
  refine ⟨?_, opposite_evaluate verifier⟩
  intro verdicts gives verdict member
  have shaped := gives.wellShaped verdict member
  exact ⟨shaped, shaped.refused_iff⟩

namespace Panel

def panel : ModuleKey := ⟨"org.widgets", "panel", by decide, by decide⟩
def release : Version := ⟨"1.0", [1, 0], none⟩
def hook : Symbol := .ofClass "org.widgets.Hook"
def sample : Rule := { key := panel, versions := .atLeast release }

/-- Nothing provides the hook. -/
def start : Verifier := { surface := .ofReferences [hook], catalog := {}, rules := [sample] }

def broken : Verdict := ⟨0, "org.widgets:panel", panel, some release, .pass, .failed [.missingSymbol hook none]⟩

end Panel

open Panel in
theorem verdicts_shaped_panel : start.verify (.single panel release) = [broken] ∧ broken.WellShaped ∧
    ((∃ error, broken.require = .error error) ↔ broken.isFailure ∧ broken.expectation = .pass) ∧
    broken.outcome.Opposite
      (start.evaluate (.single panel release) 0 { sample with expectation := .fail }).outcome := by
  obtain ⟨shaped, opposite⟩ := verdicts_shaped start
  have given : start.verify (.single panel release) = [broken] := by decide
  have gives : start.Gives (start.verify (.single panel release)) := .verified _
  rw [given] at gives
  obtain ⟨wellShaped, refused⟩ := shaped [broken] gives broken (List.mem_singleton.mpr rfl)
  exact ⟨given, wellShaped, refused, opposite (.single panel release) 0 sample⟩

end Verifier
end Linkage
