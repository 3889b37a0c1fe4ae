import Linkage.Proofs.KeyOrder
import Linkage.Proofs.MatrixSamples

/-! Verdicts that are not skipped. Each is that of a check, at the version that is resolved for the library of the rule and
on the classpath that all resolved versions make up. A sample of a matrix run is checked where nothing else is resolved. -/

namespace Linkage.Verifier
variable {verifier : Verifier} {dependencies : DependencySet} {candidates : Candidates} {index : Nat} {rule : Rule}
  {version : Version} {verdict : Verdict}

/-- What a rule is checked on when versions are resolved. -/
def classpathOf (verifier : Verifier) (rule : Rule) (dependencies : DependencySet) : Classpath :=
  .build verifier.catalog dependencies rule.extraDependencies (verifier.exclusions.union rule.excludedDependencies)

theorem check_eq_judge (index : Nat) (rule : Rule) (version : Version) (dependencies : DependencySet)
    (expectation : Expectation) : verifier.check index rule version dependencies expectation =
      ⟨index, rule.label, rule.key, some version, expectation,
        judge expectation (verifier.violations (verifier.classpathOf rule dependencies))⟩ :=
  rfl

/-- The verdict is that of a check of a registered rule, at the version that is resolved. -/
structure ChecksAt (verifier : Verifier) (dependencies : DependencySet) (rule : Rule) (version : Version)
    (verdict : Verdict) : Prop where
  registered : verifier.rules[verdict.rule]? = some rule
  resolved : dependencies.find? rule.key = some version
  checked : verdict = verifier.check verdict.rule rule version dependencies verdict.expectation

/-- Whether a rule is skipped does not depend on what it expects. -/
theorem evaluate_eq_check (evaluated : ∀ reason, (verifier.evaluate dependencies index rule).outcome ≠ .skipped reason) :
    ∃ version, dependencies.find? rule.key = some version ∧ ∀ expectation,
      verifier.evaluate dependencies index { rule with expectation } =
        verifier.check index rule version dependencies expectation := by
  unfold evaluate at evaluated ⊢
  cases resolved : dependencies.find? rule.key with
  | none =>
    rw [resolved] at evaluated
    exact absurd rfl (evaluated .unresolvedModule)
  | some version =>
    rw [resolved] at evaluated
    refine ⟨version, rfl, fun expectation => ?_⟩
    by_cases outside : (!rule.versions.contains version) = true
    · simp only [outside, if_true] at evaluated
      exact absurd rfl (evaluated (.outOfRange rule.versions))
    · by_cases skipped : rule.skips version = true
      · simp only [outside, skipped, if_true] at evaluated
        exact absurd rfl (evaluated .skippedVersion)
      · have limits : Rule.skips { rule with expectation } version = rule.skips version := rfl
        simp only [limits, resolved, outside, skipped]
        rfl

theorem find?_single (key : ModuleKey) (version : Version) :
    (DependencySet.single key version).find? key = some version := by
  rw [DependencySet.single, ModuleMap.find?_cons, if_pos rfl]

theorem sampleAt_eq_check (evaluated : ∀ reason, (verifier.sampleAt index rule version).outcome ≠ .skipped reason) :
    verifier.sampleAt index rule version = verifier.check index rule version (.single rule.key version)
      (verifier.sampleAt index rule version).expectation := by
  unfold sampleAt at evaluated ⊢
  split at evaluated
  next inside =>
    rw [if_pos inside]
    obtain ⟨other, resolved, same⟩ := evaluate_eq_check evaluated
    rw [find?_single] at resolved
    obtain rfl := Option.some.inj resolved
    have own := same rule.expectation
    rw [own]
    rfl
  next outside =>
    rw [if_neg outside]
    rfl

theorem exists_checksAt_of_evaluate (registered : verifier.rules[index]? = some rule)
    (evaluated : ∀ reason, (verifier.evaluate dependencies index rule).outcome ≠ .skipped reason) :
    ∃ version, verifier.ChecksAt dependencies rule version (verifier.evaluate dependencies index rule) := by
  obtain ⟨version, resolved, same⟩ := evaluate_eq_check evaluated
  have own : verifier.evaluate dependencies index rule = verifier.check index rule version dependencies rule.expectation :=
    same rule.expectation
  rw [own]
  exact ⟨version, registered, resolved, rfl⟩

theorem exists_checksAt_of_verifyRule (found : verifier.verifyRule index dependencies = some verdict)
    (evaluated : ∀ reason, verdict.outcome ≠ .skipped reason) :
    ∃ rule version, verifier.ChecksAt dependencies rule version verdict := by
  obtain ⟨rule, registered, rfl⟩ := Option.map_eq_some_iff.mp found
  exact ⟨rule, exists_checksAt_of_evaluate registered evaluated⟩

theorem exists_checksAt_of_verify (member : verdict ∈ verifier.verify dependencies)
    (evaluated : ∀ reason, verdict.outcome ≠ .skipped reason) :
    ∃ rule version, verifier.ChecksAt dependencies rule version verdict := by
  obtain ⟨index, found⟩ := List.mem_iff_getElem?.mp member
  rw [verify, getElem?_mapRules] at found
  exact exists_checksAt_of_verifyRule found evaluated

theorem exists_checksAt_of_matrix (member : verdict ∈ (verifier.matrix candidates).verdicts)
    (evaluated : ∀ reason, verdict.outcome ≠ .skipped reason) :
    ∃ rule version, verifier.ChecksAt (.single rule.key version) rule version verdict := by
  rw [matrix_verdicts] at member
  obtain ⟨index, rule, registered, inside⟩ := mem_flatten_numbered.mp member
  obtain ⟨version, -, rfl⟩ := mem_sampleRule inside
  refine ⟨rule, version, ?_, find?_single rule.key version, ?_⟩
  · rwa [sampleAt_rule, Nat.zero_add]
  · rw [sampleAt_rule]
    exact sampleAt_eq_check evaluated

end Linkage.Verifier
