import Linkage.Verifier
import Linkage.Proofs.RangeMembership
import Linkage.Proofs.RuleNumbering

/-! What a matrix run reports. Equal versions are on the same side of a range, so no sample in the range equals one
outside it, and sorting the verdicts of a rule puts them in strict order. At a sample the library is always resolved,
and a sample is only evaluated as one of the range if it is in it, so no verdict says otherwise. -/

namespace Linkage

namespace Rule
variable {rule : Rule} {known : List Version} {version : Version}

theorem samplesInRange_strict : Ascending.Strict Version.compare (rule.samplesInRange known) :=
  Ascending.foldl_insert_strict _ rule.versions.inclusiveEndpoints_strict

theorem admits_of_mem_samplesInRange (member : version ∈ rule.samplesInRange known) : rule.versions.Admits version := by
  rcases Ascending.mem_of_mem_foldl_insert member with sampled | endpoint
  · exact VersionRange.contains_iff_admits.mp (List.mem_filter.mp sampled).2
  · exact VersionRange.admits_of_mem_inclusiveEndpoints endpoint

theorem samplesOutside_strict : Ascending.Strict Version.compare (rule.samplesOutside known) :=
  Ascending.ofListLast_strict _

theorem not_admits_of_mem_samplesOutside (member : version ∈ rule.samplesOutside known) :
    ¬ rule.versions.Admits version := by
  have outside := (List.mem_filter.mp (Ascending.mem_of_mem_ofListLast member)).2
  rw [← VersionRange.contains_iff_admits]
  simp_all

end Rule

namespace Verifier
variable {verifier : Verifier} {candidates : Candidates} {index : Nat} {rule : Rule} {version : Version}

/-- The versions that a rule is checked at: those in its range, and those outside if the rule asks for them. -/
def samples (verifier : Verifier) (candidates : Candidates) (rule : Rule) : List Version :=
  let known := verifier.catalog.releases rule.key ++ candidates.get rule.key
  rule.samplesInRange known ++ if rule.assertInverse then rule.samplesOutside known else []

theorem samples_distinct (verifier : Verifier) (candidates : Candidates) (rule : Rule) :
    (verifier.samples candidates rule).Pairwise fun a b => a.compare b ≠ .eq := by
  have distinct {versions : List Version} (strict : Ascending.Strict Version.compare versions) :
      versions.Pairwise fun a b => a.compare b ≠ .eq :=
    strict.imp fun below same => nomatch below.symm.trans same
  refine List.pairwise_append.mpr ⟨distinct Rule.samplesInRange_strict, ?_, ?_⟩
  · split
    · exact distinct Rule.samplesOutside_strict
    · exact .nil
  · intro inside first outside second same
    split at second
    · have admits := VersionRange.contains_iff_admits.mpr (Rule.admits_of_mem_samplesInRange first)
      rw [VersionRange.contains_congr same] at admits
      exact Rule.not_admits_of_mem_samplesOutside second (VersionRange.contains_iff_admits.mp admits)
    · exact absurd second List.not_mem_nil

/-- The verdict of a rule at a sample of either kind. -/
def sampleAt (verifier : Verifier) (index : Nat) (rule : Rule) (version : Version) : Verdict :=
  if rule.versions.Admits version then verifier.evaluate (.single rule.key version) index rule
  else verifier.check index rule version (.single rule.key version) rule.expectation.inverted

theorem sampleRule_perm (verifier : Verifier) (candidates : Candidates) (index : Nat) (rule : Rule) :
    (verifier.sampleRule candidates index rule).Perm
      ((verifier.samples candidates rule).map (verifier.sampleAt index rule)) := by
  refine (Ascending.sort_perm _).trans (.of_eq ?_)
  rw [samples, List.map_append]
  refine congrArg₂ (· ++ ·) (List.map_congr_left fun version member => ?_) ?_
  · rw [sampleAt, if_pos (Rule.admits_of_mem_samplesInRange member)]
  · split
    · refine List.map_congr_left fun version member => ?_
      rw [sampleAt, if_neg (Rule.not_admits_of_mem_samplesOutside member)]
    · rfl

theorem judge_ne_skipped (expectation : Expectation) (found : List Violation) (reason : SkipReason) :
    judge expectation found ≠ .skipped reason := by
  cases expectation <;> cases found <;> simp [judge]

private theorem check_eq (verifier : Verifier) (index : Nat) (rule : Rule) (version : Version)
    (dependencies : DependencySet) (expectation : Expectation) :
    ∃ outcome, verifier.check index rule version dependencies expectation =
      verdict index rule (some version) expectation outcome ∧ ∀ reason, outcome ≠ .skipped reason :=
  ⟨_, rfl, judge_ne_skipped _ _⟩

/-- The verdict at a sample is about this rule and this version, and it is skipped only if the rule says so. -/
theorem sampleAt_eq (verifier : Verifier) (index : Nat) (rule : Rule) (version : Version) :
    ∃ outcome, verifier.sampleAt index rule version = verdict index rule (some version)
      (if rule.versions.Admits version then rule.expectation else rule.expectation.inverted) outcome ∧
      ∀ reason, outcome = .skipped reason → rule.versions.Admits version ∧ reason = .skippedVersion := by
  have resolved : (DependencySet.single rule.key version).find? rule.key = some version := by
    simp [DependencySet.single, ModuleMap.find?]
  by_cases inside : rule.versions.Admits version
  · have held := VersionRange.contains_iff_admits.mpr inside
    simp only [sampleAt, evaluate, resolved, inside, held, if_true, Bool.not_true, Bool.false_eq_true, if_false,
      true_and]
    split
    · exact ⟨_, rfl, fun reason same => (Outcome.skipped.inj same).symm⟩
    · obtain ⟨outcome, checked, evaluated⟩ := verifier.check_eq index rule version _ rule.expectation
      exact ⟨outcome, checked, fun reason same => absurd same (evaluated reason)⟩
  · simp only [sampleAt, inside, if_false, false_and]
    exact verifier.check_eq index rule version _ rule.expectation.inverted

instance : Std.TransCmp compareVersions where
  eq_swap {a b} := by
    cases a <;> cases b <;> try rfl
    exact @Std.OrientedCmp.eq_swap _ Version.compare _ _ _
  isLE_trans {a b c} lower upper := by
    cases a <;> cases b <;> cases c <;> simp only [compareVersions] at *
    all_goals first | exact Std.TransCmp.isLE_trans lower upper | contradiction | rfl

instance : Std.TransCmp fun a b : Verdict => compareVersions a.version b.version where
  eq_swap := Std.OrientedCmp.eq_swap
  isLE_trans lower upper := Std.TransCmp.isLE_trans lower upper

/-- An earlier rule, or the same rule at a lower version. -/
def Before (a b : Verdict) : Prop :=
  a.rule < b.rule ∨ a.rule = b.rule ∧ ∃ lower upper, a.version = some lower ∧ b.version = some upper ∧
    lower.compare upper = .lt

/-- Each verdict of a rule is the one at some sample. -/
theorem mem_sampleRule {result : Verdict} (member : result ∈ verifier.sampleRule candidates index rule) :
    ∃ version ∈ verifier.samples candidates rule, verifier.sampleAt index rule version = result :=
  List.mem_map.mp ((sampleRule_perm verifier candidates index rule).mem_iff.mp member)

theorem sampleAt_rule (verifier : Verifier) (index : Nat) (rule : Rule) (version : Version) :
    (verifier.sampleAt index rule version).rule = index := by
  obtain ⟨outcome, same, -⟩ := verifier.sampleAt_eq index rule version
  rw [same]
  rfl

theorem sampleAt_version (verifier : Verifier) (index : Nat) (rule : Rule) (version : Version) :
    (verifier.sampleAt index rule version).version = some version := by
  obtain ⟨outcome, same, -⟩ := verifier.sampleAt_eq index rule version
  rw [same]
  rfl

theorem sampleRule_rule (result : Verdict) (member : result ∈ verifier.sampleRule candidates index rule) :
    result.rule = index := by
  obtain ⟨version, -, rfl⟩ := mem_sampleRule member
  exact sampleAt_rule verifier index rule version

theorem sampleRule_ascending (verifier : Verifier) (candidates : Candidates) (index : Nat) (rule : Rule) :
    (verifier.sampleRule candidates index rule).Pairwise Before := by
  have distinct : ((verifier.samples candidates rule).map (verifier.sampleAt index rule)).Pairwise
      fun a b => compareVersions a.version b.version ≠ .eq := by
    rw [List.pairwise_map]
    simpa only [sampleAt_version, compareVersions] using samples_distinct verifier candidates rule
  have ascending : Ascending.Strict (fun a b : Verdict => compareVersions a.version b.version)
      (verifier.sampleRule candidates index rule) :=
    Ascending.strict_of_sorted (Ascending.sort_sorted _)
      (Ascending.distinct_of_perm (sampleRule_perm verifier candidates index rule) distinct)
  refine ascending.imp_of_mem fun first second below => ?_
  obtain ⟨lower, -, rfl⟩ := mem_sampleRule first
  obtain ⟨upper, -, rfl⟩ := mem_sampleRule second
  simp only [sampleAt_version] at below
  refine .inr ⟨?_, lower, upper, sampleAt_version .., sampleAt_version .., below⟩
  rw [sampleAt_rule, sampleAt_rule]

theorem matrix_verdicts (verifier : Verifier) (candidates : Candidates) :
    (verifier.matrix candidates).verdicts = (numbered (verifier.sampleRule candidates) 0 verifier.rules).flatten := by
  rw [matrix, matrixByRule, mapRules_eq_numbered, map_numbered]

/-- What a matrix run reports. -/
structure Sampled (verifier : Verifier) (candidates : Candidates) (verdicts : List Verdict) : Prop where
  ascending : verdicts.Pairwise Before
  versioned : ∀ result ∈ verdicts, result.version.isSome
  registered : ∀ result ∈ verdicts, result.rule < verifier.rules.length
  /-- A rule has exactly one verdict for each of its samples. -/
  once : ∀ index rule, verifier.rules[index]? = some rule →
    ((verdicts.filter (·.rule = index)).map (·.version)).Perm ((verifier.samples candidates rule).map some)
  /-- In the range the verdict is that of a verification in which just this version is resolved. -/
  inside : ∀ result ∈ verdicts, ∀ rule version, verifier.rules[result.rule]? = some rule →
    result.version = some version → rule.versions.Admits version →
    result.expectation = rule.expectation ∧
      (verifier.verify (.single rule.key version))[result.rule]? = some result
  outside : ∀ result ∈ verdicts, ∀ rule version, verifier.rules[result.rule]? = some rule →
    result.version = some version → ¬ rule.versions.Admits version →
    result.expectation = rule.expectation.inverted ∧ ∀ reason, result.outcome ≠ .skipped reason
  evaluated : ∀ result ∈ verdicts,
    result.outcome ≠ .skipped .unresolvedModule ∧ ∀ range, result.outcome ≠ .skipped (.outOfRange range)

theorem matrix_sampled (verifier : Verifier) (candidates : Candidates) :
    Sampled verifier candidates (verifier.matrix candidates).verdicts := by
  rw [matrix_verdicts]
  -- Each verdict is the one at a sample of a registered rule.
  have origin : ∀ result ∈ (numbered (verifier.sampleRule candidates) 0 verifier.rules).flatten, ∃ rule version,
      verifier.rules[result.rule]? = some rule ∧ result = verifier.sampleAt result.rule rule version := by
    intro result member
    obtain ⟨index, rule, registered, inside⟩ := mem_flatten_numbered.mp member
    obtain ⟨version, -, rfl⟩ := mem_sampleRule inside
    rw [Nat.zero_add, sampleAt_rule]
    exact ⟨rule, version, registered, rfl⟩
  have identified : ∀ result ∈ (numbered (verifier.sampleRule candidates) 0 verifier.rules).flatten, ∀ rule version,
      verifier.rules[result.rule]? = some rule → result.version = some version →
      result = verifier.sampleAt result.rule rule version := by
    intro result member rule version registered versioned
    obtain ⟨own, sampled, listed, same⟩ := origin result member
    obtain rfl := Option.some.inj (listed.symm.trans registered)
    rw [same, sampleAt_version] at versioned
    rwa [← Option.some.inj versioned]
  refine ⟨?_, ?_, ?_, ?_, ?_, ?_, ?_⟩
  · refine pairwise_flatten_numbered (sampleRule_ascending verifier candidates) fun earlier a first b second => .inl ?_
    rwa [sampleRule_rule a first, sampleRule_rule b second]
  · intro result member
    obtain ⟨rule, version, -, same⟩ := origin result member
    rw [same, sampleAt_version]
    rfl
  · intro result member
    obtain ⟨rule, version, registered, -⟩ := origin result member
    exact (List.getElem?_eq_some_iff.mp registered).1
  · intro index rule registered
    rw [filter_flatten_numbered (fun _ _ => sampleRule_rule) registered]
    refine ((sampleRule_perm verifier candidates index rule).map _).trans (.of_eq ?_)
    simp only [List.map_map, Function.comp_def, sampleAt_version]
  · intro result member rule version registered versioned admits
    have same := identified result member rule version registered versioned
    obtain ⟨outcome, shape, -⟩ := verifier.sampleAt_eq result.rule rule version
    refine ⟨by rw [same, shape, if_pos admits]; rfl, ?_⟩
    rw [verify, getElem?_mapRules, registered, Option.map_some]
    rw [sampleAt, if_pos admits] at same
    exact congrArg some same.symm
  · intro result member rule version registered versioned apart
    have same := identified result member rule version registered versioned
    obtain ⟨outcome, shape, skipped⟩ := verifier.sampleAt_eq result.rule rule version
    rw [same, shape, if_neg apart]
    exact ⟨rfl, fun reason skips => apart (skipped reason skips).1⟩
  · intro result member
    obtain ⟨rule, version, -, same⟩ := origin result member
    obtain ⟨outcome, shape, skipped⟩ := verifier.sampleAt_eq result.rule rule version
    rw [same, shape]
    refine ⟨fun skips => ?_, fun range skips => ?_⟩
    · cases (skipped _ skips).2
    · cases (skipped _ skips).2

end Verifier
end Linkage
