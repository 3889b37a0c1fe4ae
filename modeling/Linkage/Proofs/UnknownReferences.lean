import Linkage.Proofs.ConfiguredVerifiers
import Linkage.Proofs.EvaluatedVerdicts
import Linkage.Proofs.FindingPlaces
import Linkage.Proofs.RuleEvaluation
import Linkage.Proofs.VerdictShape

/-! Warnings about references to classes that no library has. The warning looks at names alone: at no versions, no
exclusions and no classpath. A class that no entry of the catalog mentions is on no classpath and in no excluded library,
so whatever is evaluated, the reference is missing and nobody is blamed for it. -/

namespace Linkage

namespace Config
open Acceptance

namespace Finding

/-- The warning that no library provides a class. -/
def unknownReference (owner : String) : Finding :=
  warning "unknown-reference" "instrumentation.references" ("No catalog artifact provides class '" ++ owner ++ "'")

theorem unknownReference_inj {owner other : String} (same : unknownReference owner = unknownReference other) :
    owner = other := by
  have messages : "No catalog artifact provides class '" ++ owner ++ "'" = "No catalog artifact provides class '" ++ other ++ "'" :=
    congrArg Finding.message same
  simpa using messages

end Finding

open Finding
variable {config : Config} {location : String}

/-- Only the check of a reference gives this warning. -/
theorem mem_findings_iff {finding : Finding} (named : finding.check = "unknown-reference") : finding ∈ config.findings ↔
    ∃ reference ∈ config.instrumentation.references, finding ∈ config.checkReference reference := by
  rw [mem_findings_iff_part]
  constructor
  · rintro ⟨location, checks, part, inside, found⟩
    have possible : "unknown-reference" ∈ checks := named ▸ (inside.foundAt finding found).2
    cases inside with
    | reference listed => exact ⟨_, listed, found⟩
    | catalog | matcher | exclusion | noCatalog | noRules | rule | resolved => exact absurd possible (by decide)
  · rintro ⟨reference, listed, found⟩
    exact ⟨_, _, _, .reference listed, found⟩

/-- The class of the symbol has to be on the classpath, and no entry of the catalog mentions it. -/
structure Unprovided (config : Config) (symbol : Symbol) : Prop where
  foreign : ∀ start ∈ config.instrumentation.ignoredPrefixes, ¬ start.toList <+: symbol.owner.toList
  unlisted : ∀ entry ∈ config.catalog, ∀ provided ∈ entry.symbols, ∀ other, Symbol.parse provided.symbol = .ok other →
    other.owner ≠ symbol.owner

theorem unprovided_iff {symbol : Symbol} : config.Unprovided symbol ↔
    ¬ ((config.instrumentation.ignoredPrefixes.any fun start => start.toList.isPrefixOf symbol.owner.toList) ∨
      symbol.owner ∈ config.providedOwners) := by
  simp only [providedOwners, List.mem_filterMap, List.mem_flatMap, Option.map_eq_some_iff, toOption_eq_some_iff,
    List.any_eq_true, List.isPrefixOf_iff_prefix]
  constructor
  · rintro unprovided (⟨start, listed, ignored⟩ | ⟨provided, ⟨entry, member, inside⟩, other, parsed, same⟩)
    · exact unprovided.foreign start listed ignored
    · exact unprovided.unlisted entry member provided inside other parsed same
  · intro neither
    constructor
    · intro start listed ignored
      exact neither (.inl ⟨start, listed, ignored⟩)
    · intro entry member provided inside other parsed same
      exact neither (.inr ⟨provided, ⟨entry, member, inside⟩, other, parsed, same⟩)

theorem checkReference_of_unprovided {reference : String} {symbol : Symbol}
    (parsed : Symbol.parse reference = .ok symbol) (unprovided : config.Unprovided symbol) :
    config.checkReference reference = [unknownReference symbol.owner] := by
  have absent := unprovided_iff.mp unprovided
  simp only [checkReference, parsed, Bool.or_eq_true, decide_eq_true_eq, if_neg absent]
  rfl

theorem checkReference_of_provided {reference : String} {symbol : Symbol}
    (parsed : Symbol.parse reference = .ok symbol) (provided : ¬ config.Unprovided symbol) :
    config.checkReference reference = [] := by
  have listed := Classical.not_not.mp (mt unprovided_iff.mpr provided)
  simp only [checkReference, parsed, Bool.or_eq_true, decide_eq_true_eq, if_pos listed]

/-- The warning about a class is given just if some reference is to a symbol of this class that is not provided. -/
theorem unknownReference_mem_findings_iff {owner : String} : unknownReference owner ∈ config.findings ↔
    ∃ reference ∈ config.instrumentation.references, ∃ symbol, Symbol.parse reference = .ok symbol ∧
      symbol.owner = owner ∧ config.Unprovided symbol := by
  rw [mem_findings_iff rfl]
  refine exists_congr fun reference => and_congr_right fun _ => ?_
  cases parsed : Symbol.parse reference with
  | error reason =>
    have other : unknownReference owner ∉ config.checkReference reference := by
      simp [checkReference, parsed, unknownReference, error, warning]
    simp [other]
  | ok symbol =>
    simp only [Except.ok.injEq, exists_eq_left']
    by_cases unprovided : config.Unprovided symbol
    · rw [checkReference_of_unprovided parsed unprovided, List.mem_singleton, and_iff_left unprovided]
      constructor
      · intro same
        exact (unknownReference_inj same).symm
      · intro same
        rw [same]
    · simp [checkReference_of_provided parsed unprovided, unprovided]

variable {symbol other : Symbol} {catalog : Catalog}

theorem find?_foldl_insert {artifacts : List Artifact} {start : Catalog} {key : ModuleKey} {artifact : Artifact}
    (found : (artifacts.foldl Catalog.insert start).find? key = some artifact) :
    artifact ∈ artifacts ∨ start.find? key = some artifact := by
  induction artifacts generalizing start with
  | nil => exact .inr found
  | cons first rest ih =>
    rcases ih found with later | earlier
    · exact .inl (List.mem_cons_of_mem first later)
    · rw [Catalog.find?, Catalog.insert, ModuleMap.find?_insert] at earlier
      split at earlier
      · obtain rfl := Option.some.inj earlier
        exact .inl List.mem_cons_self
      · exact .inr earlier

/-- Whatever a library of the catalog provides is mentioned by some entry. -/
theorem exists_entry_of_find? (built : config.toCatalog = .ok catalog) {key : ModuleKey} {artifact : Artifact}
    (found : catalog.find? key = some artifact) {provided : ProvidedSymbol} (member : provided ∈ artifact.symbols) :
    ∃ entry ∈ config.catalog, ∃ listed ∈ entry.symbols, Symbol.parse listed.symbol = .ok provided.symbol := by
  obtain ⟨artifacts, read, built⟩ := bind_eq_ok_iff.mp built
  obtain rfl := Except.ok.inj built
  have inside : artifact ∈ artifacts := (find?_foldl_insert found).resolve_right nofun
  obtain ⟨entry, declared, made⟩ := (mem_of_mapM_eq_ok read).mp inside
  simp only [CatalogEntry.toArtifact, bind_eq_ok_iff] at made
  obtain ⟨own, -, releases, -, dependencies, -, symbols, listing, same⟩ := made
  obtain rfl := Except.ok.inj same
  obtain ⟨listed, within, made⟩ := (mem_of_mapM_eq_ok listing).mp member
  simp only [SymbolEntry.toProvidedSymbol, bind_eq_ok_iff] at made
  obtain ⟨symbol, parsed, since, -, limit, -, same⟩ := made
  obtain rfl := Except.ok.inj same
  exact ⟨entry, declared, listed, within, parsed⟩

theorem mem_references_iff {instrumentation : Instrumentation} {surface : Surface}
    (built : instrumentation.surface = .ok surface) :
    symbol ∈ surface.references ↔ ∃ reference ∈ instrumentation.references, Symbol.parse reference = .ok symbol := by
  obtain ⟨references, read, built⟩ := bind_eq_ok_iff.mp built
  obtain ⟨matcherClasses, -, built⟩ := bind_eq_ok_iff.mp built
  obtain rfl := Except.ok.inj built
  exact mem_of_mapM_eq_ok read

theorem foreign_iff {instrumentation : Instrumentation} {surface : Surface}
    (built : instrumentation.surface = .ok surface) :
    surface.Foreign symbol ↔ ∀ start ∈ instrumentation.ignoredPrefixes, ¬ start.toList <+: symbol.owner.toList := by
  obtain ⟨references, -, built⟩ := bind_eq_ok_iff.mp built
  obtain ⟨matcherClasses, -, built⟩ := bind_eq_ok_iff.mp built
  obtain rfl := Except.ok.inj built
  rfl

/-- No library has a symbol of the class, in any version. -/
theorem Unprovided.not_offers (unprovided : config.Unprovided symbol) (built : config.toCatalog = .ok catalog)
    (same : other.owner = symbol.owner) (key : ModuleKey) (version : Version) : ¬ catalog.Offers key version other := by
  rintro ⟨artifact, found, provided, member, rfl, -⟩
  obtain ⟨entry, declared, listed, within, parsed⟩ := exists_entry_of_find? built found member
  exact unprovided.unlisted entry declared listed within _ parsed same

end Config

namespace Verifier
open Config
variable {config : Config} {verifier : Verifier} {symbol : Symbol} {verdict : Verdict}

/-- Where no library has the class of a symbol, in any version, the symbol is missing from every classpath, and no excluded
library is in the way. -/
theorem missingSymbol_mem_violations_of_unoffered (checked : verifier.surface.requiresLookup symbol)
    (unoffered : ∀ key version, ¬ verifier.catalog.Offers key version symbol.ownerClass)
    (referenced : symbol ∈ verifier.surface.references) (classpath : Classpath) :
    .missingSymbol symbol none ∈ verifier.violations classpath := by
  have absent : ¬ classpath.Present verifier.catalog symbol.ownerClass := by
    intro ⟨entry, _, offers⟩
    exact unoffered _ _ offers
  have broken : ¬ classpath.Links verifier.catalog symbol := fun links => absent links.1
  have blameless : Classpath.provider? verifier.catalog classpath.excluded
      (classpath.obstacle verifier.catalog symbol) = none := by
    rw [Classpath.obstacle, if_neg absent]
    exact Classpath.provider?_eq_none_iff.mpr fun entry _ => unoffered entry.1 entry.2
  rw [violations_eq]
  apply List.mem_append_right
  refine List.mem_map.mpr ⟨symbol, ?_, by rw [blameless]⟩
  simp [Surface.checkedReferences, referenced, checked, broken]

theorem requiresLookup_of_unprovided (describes : config.Describes verifier) (unprovided : config.Unprovided symbol) :
    verifier.surface.requiresLookup symbol :=
  Surface.requiresLookup_iff.mpr ((foreign_iff describes.surface).mpr unprovided.foreign)

theorem judge_pass_of_mem {violation : Violation} {found : List Violation} (member : violation ∈ found) :
    judge .pass found = .failed found := by
  cases found with
  | nil => cases member
  | cons first rest => rfl

end Verifier

/-- The verdict is a failure since the symbol is missing, and no excluded library is blamed for it. -/
def Verdict.Misses (verdict : Verdict) (symbol : Symbol) : Prop :=
  ∃ found, verdict.outcome = .failed found ∧ .missingSymbol symbol none ∈ found

namespace Verifier
variable {config : Config} {verifier : Verifier} {symbol : Symbol} {verdicts : List Verdict} {verdict : Verdict}

theorem misses_check_of_unoffered (checked : verifier.surface.requiresLookup symbol)
    (unoffered : ∀ key version, ¬ verifier.catalog.Offers key version symbol.ownerClass)
    (referenced : symbol ∈ verifier.surface.references) (index : Nat) (rule : Rule) (version : Version)
    (dependencies : DependencySet) : (verifier.check index rule version dependencies .pass).Misses symbol := by
  have member := missingSymbol_mem_violations_of_unoffered checked unoffered referenced
    (verifier.classpathOf rule dependencies)
  exact ⟨_, judge_pass_of_mem member, member⟩

theorem misses_check (describes : config.Describes verifier) (unprovided : config.Unprovided symbol)
    (referenced : symbol ∈ verifier.surface.references) (index : Nat) (rule : Rule) (version : Version)
    (dependencies : DependencySet) : (verifier.check index rule version dependencies .pass).Misses symbol :=
  misses_check_of_unoffered (requiresLookup_of_unprovided describes unprovided)
    (unprovided.not_offers describes.catalog rfl) referenced index rule version dependencies

theorem Gives.exists_checksAt (gives : verifier.Gives verdicts) (member : verdict ∈ verdicts)
    (evaluated : ∀ reason, verdict.outcome ≠ .skipped reason) :
    ∃ dependencies rule version, verifier.ChecksAt dependencies rule version verdict := by
  cases gives with
  | verified dependencies => exact ⟨dependencies, exists_checksAt_of_verify member evaluated⟩
  | @picked index dependencies _ found =>
    obtain rfl := List.mem_singleton.mp member
    exact ⟨dependencies, exists_checksAt_of_verifyRule found evaluated⟩
  | sampled candidates =>
    obtain ⟨rule, version, checks⟩ := exists_checksAt_of_matrix member evaluated
    exact ⟨_, rule, version, checks⟩

/-- What a configuration is warned of happens. Wherever a rule is not skipped, a reference to an unknown class is missing,
whatever is resolved, sampled, added or excluded; and a verdict that expects to pass is a failure that says so. -/
theorem unknown_reference_missing (config : Config) (verifier : Verifier) (built : config.verifier = .ok verifier)
    (reference : String) (symbol : Symbol) (listed : reference ∈ config.instrumentation.references)
    (parsed : Symbol.parse reference = .ok symbol)
    (reported : Config.Finding.unknownReference symbol.owner ∈ config.findings) :
    (∀ dependencies index rule, (∀ reason, (verifier.evaluate dependencies index rule).outcome ≠ .skipped reason) →
      (verifier.evaluate dependencies index { rule with expectation := .pass }).Misses symbol) ∧
    ∀ verdicts, verifier.Gives verdicts → ∀ verdict ∈ verdicts, (∀ reason, verdict.outcome ≠ .skipped reason) →
      verdict.expectation = .pass → verdict.Misses symbol := by
  have describes := Config.describes_of_built built
  have referenced : symbol ∈ verifier.surface.references :=
    (Config.mem_references_iff describes.surface).mpr ⟨reference, listed, parsed⟩
  -- The warning may be due to another reference to the same class.
  have unprovided : config.Unprovided symbol := by
    obtain ⟨-, -, other, -, same, foreign, unlisted⟩ := Config.unknownReference_mem_findings_iff.mp reported
    rw [same] at foreign unlisted
    exact ⟨foreign, unlisted⟩
  have missing := misses_check describes unprovided referenced
  constructor
  · intro dependencies index rule evaluated
    obtain ⟨version, -, same⟩ := evaluate_eq_check evaluated
    rw [same]
    exact missing index rule version dependencies
  · intro verdicts gives verdict member evaluated expected
    obtain ⟨dependencies, rule, version, checks⟩ := gives.exists_checksAt member evaluated
    rw [checks.checked, expected]
    exact missing verdict.rule rule version dependencies

section
private def call : Symbol := .method "org.sample.Api" "call" "int"

private def gateway : ModuleKey := ⟨"org.sample", "gateway", isKeyPart_sample, by decide⟩

private def release : Version := ⟨"1.4", [1, 4], none⟩

/-- Of two references one is to a class that is in the catalog. -/
private def gatewayConfig : Config :=
  { instrumentation := { references := ["org.sample.Hook", "org.sample.Api#call(int)"] }
    rules := [{ group := "org.sample", module := "gateway", versions := "[1,2)" }]
    catalog := [{ artifact := "org.sample:gateway", symbols := [{ symbol := "org.sample.Hook" }] }] }

private def gatewayRule : Rule :=
  { key := gateway, versions := ⟨some ⟨⟨"1", [1], none⟩, true⟩, some ⟨⟨"2", [2], none⟩, false⟩, rfl⟩ }

private def gatewayVerifier : Verifier :=
  { surface := .ofReferences [.ofClass "org.sample.Hook", call]
    catalog := ⟨[(gateway, { key := gateway, symbols := [.always (.ofClass "org.sample.Hook")] })]⟩
    rules := [gatewayRule] }

theorem unknown_reference_missing_gateway :
    gatewayConfig.verifier = .ok gatewayVerifier ∧ Symbol.parse "org.sample.Api#call(int)" = .ok call ∧
      Config.Finding.unknownReference call.owner ∈ gatewayConfig.findings ∧ ∃ verdict,
        gatewayVerifier.verify (.single gateway release) = [verdict] ∧ verdict.Misses call := by
  have built : gatewayConfig.verifier = .ok gatewayVerifier := by decide +kernel
  have parsed : Symbol.parse "org.sample.Api#call(int)" = .ok call := by decide +kernel
  have reported : Config.Finding.unknownReference call.owner ∈ gatewayConfig.findings := by decide +kernel
  obtain ⟨-, misses⟩ := unknown_reference_missing _ _ built _ _ (.tail _ (.head _)) parsed reported
  refine ⟨built, parsed, reported, _, rfl, ?_⟩
  apply misses _ (.verified (.single gateway release)) _ List.mem_cons_self
  · intro reason skipped
    have evaluated : (gatewayVerifier.evaluate (.single gateway release) 0 gatewayRule).isSkipped = false := by
      decide +kernel
    rw [Verdict.isSkipped, skipped] at evaluated
    contradiction
  · rfl

end

end Verifier
end Linkage
