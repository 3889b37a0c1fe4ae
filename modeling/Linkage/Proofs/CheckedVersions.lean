import Linkage.Proofs.ClasspathMediation
import Linkage.Proofs.ConfiguredVerifiers
import Linkage.Proofs.EvaluatedVerdicts

/-! The version that a verdict names is the version that was checked. A resolved version is the first to ask for its key,
so no extra dependency and no cycle in the catalog can put another one on the classpath. Only an exclusion could keep it
away; but a configuration excludes libraries before it registers rules, and a rule whose library is excluded is refused. -/

namespace Linkage

namespace Classpath
variable {catalog : Catalog} {resolved : ModuleMap Version} {extras : List Coordinate} {exclusions : ModuleSet}
  {key : ModuleKey} {version : Version}

/-- A resolved version that is not excluded is on the classpath, whatever else asks for its key. -/
theorem find?_build_resolved (pinned : resolved.find? key = some version) (allowed : key ∉ exclusions) :
    (build catalog resolved extras exclusions).find? key = some ⟨version, .resolved⟩ := by
  obtain ⟨followed, reached⟩ := build_reached catalog resolved extras exclusions
  have first := reached.find?_entries key
  rw [if_neg allowed, List.find?_append, Option.map_or, find?_direct, pinned] at first
  exact first

end Classpath

namespace Verifier
variable {config : Config} {verifier : Verifier} {dependencies : DependencySet} {rule : Rule} {version : Version}
  {verdict : Verdict}

/-- A verdict that was found for a registered rule on a classpath that has the library of the rule, in the version that
was resolved and that the verdict reports. -/
structure JudgesResolved (verifier : Verifier) (dependencies : DependencySet) (rule : Rule) (version : Version)
    (verdict : Verdict) : Prop where
  registered : verifier.rules[verdict.rule]? = some rule
  key : verdict.key = rule.key
  reported : verdict.version = some version
  judged : verdict.outcome = judge verdict.expectation (verifier.violations (verifier.classpathOf rule dependencies))
  own : (verifier.classpathOf rule dependencies).find? rule.key = some ⟨version, .resolved⟩

theorem ChecksAt.judgesResolved (checks : verifier.ChecksAt dependencies rule version verdict)
    (describes : config.Describes verifier) : verifier.JudgesResolved dependencies rule version verdict := by
  have member : rule ∈ verifier.rules := List.mem_of_getElem? checks.registered
  have allowed : rule.key ∉ verifier.exclusions.union rule.excludedDependencies := by
    rw [ModuleSet.mem_union]
    rintro (excluded | excluded)
    · exact describes.admitted rule member excluded
    · exact describes.keeps rule member excluded
  have shape := checks.checked
  rw [check_eq_judge] at shape
  exact {
    registered := checks.registered
    key := congrArg Verdict.key shape
    reported := congrArg Verdict.version shape
    judged := congrArg Verdict.outcome shape
    own := Classpath.find?_build_resolved checks.resolved allowed }

/-- Every verdict that is not skipped tells the truth about its version, in the range of its rule and outside. What is
sampled is resolved alone. -/
theorem configured_verdict_judges_resolved (config : Config) (verifier : Verifier) (built : config.verifier = .ok verifier) :
    (∀ dependencies, ∀ verdict ∈ verifier.verify dependencies, (∀ reason, verdict.outcome ≠ .skipped reason) →
      ∃ rule version, verifier.JudgesResolved dependencies rule version verdict) ∧
    (∀ index dependencies verdict, verifier.verifyRule index dependencies = some verdict →
      (∀ reason, verdict.outcome ≠ .skipped reason) →
        ∃ rule version, verifier.JudgesResolved dependencies rule version verdict) ∧
    ∀ candidates, ∀ verdict ∈ (verifier.matrix candidates).verdicts, (∀ reason, verdict.outcome ≠ .skipped reason) →
      ∃ rule version, verifier.JudgesResolved (.single rule.key version) rule version verdict := by
  have describes := Config.describes_of_built built
  refine ⟨?_, ?_, ?_⟩
  · intro dependencies verdict member evaluated
    obtain ⟨rule, version, checks⟩ := exists_checksAt_of_verify member evaluated
    exact ⟨rule, version, checks.judgesResolved describes⟩
  · intro index dependencies verdict found evaluated
    obtain ⟨rule, version, checks⟩ := exists_checksAt_of_verifyRule found evaluated
    exact ⟨rule, version, checks.judgesResolved describes⟩
  · intro candidates verdict member evaluated
    obtain ⟨rule, version, checks⟩ := exists_checksAt_of_matrix member evaluated
    exact ⟨rule, version, checks.judgesResolved describes⟩

section
private def engine : ModuleKey := ⟨"org.sample", "engine", isKeyPart_sample, by decide⟩
private def plugin : ModuleKey := ⟨"org.sample", "plugin", isKeyPart_sample, by decide⟩
private def legacy : ModuleKey := ⟨"org.sample", "legacy", isKeyPart_sample, by decide⟩
private def initial : Version := ⟨"1", [1], none⟩
private def outsider : Version := ⟨"3.0", [3, 0], none⟩

/-- The engine needs a plugin that needs the engine in another version, and the rule adds it in a third one. -/
private def cyclicConfig : Config :=
  { instrumentation := { references := ["org.sample.Engine"], exclusions := ["org.sample:legacy"] }
    rules := [
      { group := "org.sample", module := "engine", versions := "[1,2)", extraDependencies := ["org.sample:engine:1"]
        assertInverse := true }]
    catalog := [
      { artifact := "org.sample:engine", releases := ["3.0"], dependencies := ["org.sample:plugin:1"]
        symbols := [{ symbol := "org.sample.Engine", «until» := some "3.0" }] },
      { artifact := "org.sample:plugin", dependencies := ["org.sample:engine:1", "org.sample:legacy:1"] }] }

private def cyclicRule : Rule :=
  { key := engine, versions := ⟨some ⟨initial, true⟩, some ⟨⟨"2", [2], none⟩, false⟩, rfl⟩
    extraDependencies := [⟨engine, initial⟩], assertInverse := true }

private def cyclicVerifier : Verifier :=
  { surface := .ofReferences [.ofClass "org.sample.Engine"]
    catalog := ⟨[
      (engine, { key := engine, releases := [outsider], dependencies := [⟨plugin, initial⟩]
                 symbols := [{ symbol := .ofClass "org.sample.Engine", since := none, «until» := some outsider }] }),
      (plugin, { key := plugin, dependencies := [⟨engine, initial⟩, ⟨legacy, initial⟩] })]⟩
    exclusions := [legacy]
    rules := [cyclicRule] }

private def outsideVerdict : Verdict :=
  cyclicVerifier.check 0 cyclicRule outsider (.single engine outsider) .fail

/-- In version 1 the class is there, so a classpath with that version would have failed the sample. -/
theorem configured_verdict_judges_resolved_cycle :
    cyclicConfig.verifier = .ok cyclicVerifier ∧ outsideVerdict ∈ (cyclicVerifier.matrix {}).verdicts ∧
      outsideVerdict.outcome = .passed ∧
      cyclicVerifier.JudgesResolved (.single engine outsider) cyclicRule outsider outsideVerdict := by
  have built : cyclicConfig.verifier = .ok cyclicVerifier := by decide +kernel
  have member : outsideVerdict ∈ (cyclicVerifier.matrix {}).verdicts := by decide +kernel
  have passed : outsideVerdict.outcome = .passed := by decide +kernel
  obtain ⟨-, -, sampled⟩ := configured_verdict_judges_resolved cyclicConfig cyclicVerifier built
  obtain ⟨rule, version, judges⟩ := sampled {} outsideVerdict member (by simp [passed])
  obtain rfl : cyclicRule = rule := Option.some.inj judges.registered
  obtain rfl : outsider = version := Option.some.inj judges.reported
  exact ⟨built, member, passed, judges⟩

end

end Verifier
end Linkage
