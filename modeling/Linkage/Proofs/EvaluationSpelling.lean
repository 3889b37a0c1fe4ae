import Linkage.Proofs.ClasspathSpelling
import Linkage.Proofs.MatrixSamples

/-! Verifiers whose versions are written differently come to equal verdicts. A verdict depends on a version by the range,
the skipped versions and the classpath, and none of them looks at the spelling. A matrix run is judged at equal samples,
so what is sampled for one set of candidates is sampled for every other set that holds equal versions and more. -/

namespace Linkage

/-- Each version of a library among the candidates equals one that the others have for it. -/
def Candidates.Within (candidates others : Candidates) : Prop :=
  ∀ key, ∀ version ∈ candidates.get key, ∃ other ∈ others.get key, version.same other

namespace Rule
variable {rule other : Rule} {known versions : List Version} {version : Version}

theorem holds_samplesInRange : Ascending.Holds Version.compare (rule.samplesInRange known) version ↔
    rule.versions.contains version ∧ Ascending.Holds Version.compare known version ∨
      Ascending.Holds Version.compare rule.versions.inclusiveEndpoints version := by
  rw [samplesInRange, Ascending.holds_foldl_insert, Ascending.holds_filter]
  intro sample equal
  exact VersionRange.contains_congr equal

/-- Equal versions are both outside and not skipped, or neither is. -/
theorem sampledOutside_congr {a b : Version} (equal : a.compare b = .eq) :
    (!rule.versions.contains a && !rule.skips a) = (!rule.versions.contains b && !rule.skips b) := by
  have skipped : rule.skips a = rule.skips b := by
    unfold skips
    congr 1
    funext listed
    exact Version.same_congr (Version.same_self listed) (Version.same_iff.mpr equal)
  rw [VersionRange.contains_congr equal, skipped]

theorem holds_samplesOutside : Ascending.Holds Version.compare (rule.samplesOutside known) version ↔
    (!rule.versions.contains version && !rule.skips version) ∧ Ascending.Holds Version.compare known version := by
  rw [samplesOutside, Ascending.holds_ofListLast, Ascending.holds_filter]
  intro sample equal
  exact sampledOutside_congr equal

end Rule

namespace Verifier
variable {verifier other : Verifier} {rule rival : Rule} {candidates others : Candidates} {version spelling : Version}
  {dependencies settled : DependencySet}

/-- The same verifier, apart from the spelling of versions in its catalog and rules, and from the number of workers. -/
structure Alike (verifier other : Verifier) : Prop where
  surface : verifier.surface = other.surface
  catalog : verifier.catalog.Alike other.catalog
  exclusions : verifier.exclusions = other.exclusions
  rules : List.Forall₂ (fun a b => Rule.same a b) verifier.rules other.rules

theorem same_judge (expectation : Expectation) (found : List Violation) :
    (judge expectation found).same (judge expectation found) := by
  cases expectation with
  | pass => cases found <;> simp [judge, Outcome.same]
  | fail => cases found <;> simp [judge, Outcome.same]

theorem alike_self (verifier : Verifier) : verifier.Alike verifier where
  surface := rfl
  catalog := verifier.catalog.alike_self
  exclusions := rfl
  rules := List.forall₂_same.mpr fun rule _ => Rule.same_iff.mpr rule.alike_self

theorem Alike.symm (alike : verifier.Alike other) : other.Alike verifier where
  surface := alike.surface.symm
  catalog := alike.catalog.symm
  exclusions := alike.exclusions.symm
  rules := (alike.rules.imp fun _ _ same => Rule.same_iff.mpr (Rule.same_iff.mp same).symm).flip

/-- Verdicts about equal rules at equal versions are equal if their outcomes are. -/
theorem same_verdict (rules : rule.Alike rival) {a b : Option Version} {outcome result : Outcome} {index : Nat}
    {expectation : Expectation} (versions : compareVersions a b = .eq) (outcomes : outcome.same result) :
    (verdict index rule a expectation outcome).same (verdict index rival b expectation result) := by
  simp [verdict, Verdict.same, rules.label, rules.key, versions, outcomes]

section
variable (alike : verifier.Alike other) (rules : rule.Alike rival)
include alike

theorem violations_alike {classpath path : Classpath} (built : classpath.Alike path) :
    verifier.violations classpath = other.violations path := by
  have found := Classpath.lookup_alike alike.catalog built
  have resolved := Classpath.resolves_alike alike.catalog built
  unfold violations
  rw [alike.surface]
  simp only [found, resolved]

include rules

theorem check_alike (index : Nat) (versions : version.same spelling)
    (resolved : ModuleMap.Alike (fun a b => Version.same a b) dependencies settled) (expectation : Expectation) :
    (verifier.check index rule version dependencies expectation).same
      (other.check index rival spelling settled expectation) := by
  have built := Classpath.build_alike alike.catalog resolved rules.extraDependencies
    (verifier.exclusions.union rule.excludedDependencies)
  have found := violations_alike alike built
  simp only [check]
  rw [found, ← alike.exclusions, ← rules.excludedDependencies]
  exact same_verdict rules (Version.same_iff.mp versions) (same_judge _ _)

theorem evaluate_alike (index : Nat)
    (resolved : ModuleMap.Alike (fun a b => Version.same a b) dependencies settled) :
    (verifier.evaluate dependencies index rule).same (other.evaluate settled index rival) := by
  have found := resolved.find? rule.key
  unfold evaluate
  rw [← rules.key, ← rules.expectation]
  generalize dependencies.find? rule.key = version? at found ⊢
  generalize settled.find? rule.key = spelling? at found ⊢
  cases found with
  | none => exact same_verdict rules rfl rfl
  | @some version spelling versions =>
    have equal := Version.same_iff.mp versions
    simp only
    rw [VersionRange.contains_of_same rules.versions versions, rules.skips versions]
    split
    · exact same_verdict rules equal rules.versions
    · split
      · exact same_verdict rules equal rfl
      · exact check_alike alike rules index versions resolved _

theorem sampleAt_alike (index : Nat) (versions : version.same spelling) :
    (verifier.sampleAt index rule version).same (other.sampleAt index rival spelling) := by
  have resolved : ModuleMap.Alike (fun a b => Version.same a b) (DependencySet.single rule.key version)
      (DependencySet.single rival.key spelling) := .cons ⟨rules.key, versions⟩ .nil
  have inside : rule.versions.Admits version ↔ rival.versions.Admits spelling := by
    rw [← VersionRange.contains_iff_admits, ← VersionRange.contains_iff_admits,
      VersionRange.contains_of_same rules.versions versions]
  unfold sampleAt
  simp only [inside, ← rules.expectation]
  split
  · exact evaluate_alike alike rules index resolved
  · exact check_alike alike rules index versions resolved _

theorem holds_known_alike (within : candidates.Within others)
    (known : Ascending.Holds Version.compare (verifier.catalog.releases rule.key ++ candidates.get rule.key) version) :
    Ascending.Holds Version.compare (other.catalog.releases rival.key ++ others.get rival.key) version := by
  rw [Ascending.holds_append] at known ⊢
  rw [← rules.key]
  rcases known with release | ⟨candidate, given, equal⟩
  · exact .inl ((Version.holds_congr (alike.catalog.releases rule.key)).mp release)
  · obtain ⟨twin, listed, same⟩ := within rule.key candidate given
    rw [Version.compare_congr same (Version.same_self version)] at equal
    exact .inr ⟨twin, listed, equal⟩

/-- A sample is an end of the range, or it is known and in the range, or known and asked for outside. Equal versions
agree on all of this. -/
theorem holds_samples_alike (within : candidates.Within others)
    (sampled : Ascending.Holds Version.compare (verifier.samples candidates rule) version) :
    Ascending.Holds Version.compare (other.samples others rival) version := by
  have self := Version.same_self version
  have inside := VersionRange.contains_of_same rules.versions self
  have skipped := rules.skips self
  simp only [samples, Ascending.holds_append] at sampled ⊢
  rcases sampled with sampled | sampled
  · left
    rw [Rule.holds_samplesInRange] at sampled ⊢
    rcases sampled with ⟨contained, known⟩ | endpoint
    · exact .inl ⟨inside ▸ contained, holds_known_alike alike rules within known⟩
    · exact .inr ((VersionRange.holds_inclusiveEndpoints_of_same rules.versions).mp endpoint)
  · right
    rw [← rules.assertInverse]
    split at sampled
    next asked =>
      rw [if_pos asked]
      rw [Rule.holds_samplesOutside] at sampled ⊢
      rw [← inside, ← skipped]
      exact ⟨sampled.1, holds_known_alike alike rules within sampled.2⟩
    next => exact absurd sampled Ascending.holds_nil

end
end Verifier
end Linkage
