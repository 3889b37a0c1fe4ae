import Mathlib.Data.List.Nodup
import Mathlib.Tactic.Tauto
import Linkage.Config.Findings
import Linkage.Proofs.Acceptance
import Linkage.Proofs.Registration

/-! The validation of a configuration and the building of what it describes read the same texts, each on its own. They
agree: there are no errors among the findings of a part just if this part can be built. For the rules this goes along
the list, since a rule is checked against the entries before it and is registered behind their rules. The validation
asks for a little more, namely that there are rules, that no library has two entries in the catalog, and that every
symbol is there in some version. -/

namespace Linkage.Config
open Acceptance

namespace Finding

/-- There are no errors among the findings; warnings may be. -/
def Clean (findings : List Finding) : Prop :=
  ∀ finding ∈ findings, ¬ finding.isError

variable {α : Type} {findings others : List Finding} {check location message : String}

theorem any_isError_iff : findings.any (·.isError) ↔ ¬ Clean findings := by
  simp [Clean]

@[simp]
theorem clean_nil : Clean [] := by
  simp [Clean]

@[simp]
theorem clean_append : Clean (findings ++ others) ↔ Clean findings ∧ Clean others :=
  List.forall_mem_append

@[simp]
theorem clean_flatMap {xs : List α} {f : α → List Finding} : Clean (xs.flatMap f) ↔ ∀ x ∈ xs, Clean (f x) := by
  simp only [Clean, List.mem_flatMap]
  constructor
  · intro clean x member finding inside
    exact clean finding ⟨x, member, inside⟩
  · rintro clean finding ⟨x, member, inside⟩
    exact clean x member finding inside

@[simp]
theorem not_clean_error : ¬ Clean [error check location message] := by
  simp [Clean, error, isError]

@[simp]
theorem clean_warning : Clean [warning check location message] := by
  simp [Clean, warning, isError]

@[simp]
theorem clean_ofRefusal {result : Except Error α} : Clean (ofRefusal check location result) ↔ result.isOk := by
  cases result with
  | ok value => simp [ofRefusal, isOk_iff]
  | error reason => simp [ofRefusal, isOk_iff]

end Finding
open Finding

variable {location text : String}

@[simp]
theorem clean_checkVersion : Clean (checkVersion location text) ↔ (Version.parse text).isOk :=
  clean_ofRefusal

@[simp]
theorem clean_checkOptionalVersion {text : Option String} :
    Clean (checkOptionalVersion location text) ↔ (readOptional Version.parse text).isOk := by
  cases text with
  | none => simp [checkOptionalVersion, readOptional]
  | some text =>
    simp only [checkOptionalVersion, readOptional, Option.toList_some, List.flatMap_singleton, clean_checkVersion]
    rw [isOk_bind_and fun _ => iff_of_true (isOk_pure _) trivial, and_true]

/-- The symbol ends where it starts, or before. -/
def SymbolEntry.HasEmptyWindow (entry : SymbolEntry) : Prop :=
  ∃ since limit, entry.since.map Version.parse = some (.ok since) ∧ entry.until.map Version.parse = some (.ok limit) ∧
    since.compare limit ≠ .lt

theorem clean_checkWindow {entry : SymbolEntry} : Clean (checkWindow location entry) ↔ ¬ entry.HasEmptyWindow := by
  unfold checkWindow SymbolEntry.HasEmptyWindow
  split
  next since limit first second =>
    by_cases opens : since.compare limit = .lt <;> simp [first, second, Version.below, opens]
  next single =>
    simp only [clean_nil, true_iff]
    rintro ⟨since, limit, first, second, -⟩
    exact single since limit first second

theorem isOk_toProvidedSymbol_iff {entry : SymbolEntry} : entry.toProvidedSymbol.isOk ↔
    (Symbol.parse entry.symbol).isOk ∧ (readOptional Version.parse entry.since).isOk ∧
      (readOptional Version.parse entry.until).isOk := by
  simp only [SymbolEntry.toProvidedSymbol, isOk_bind_iff, isOk_pure, and_true, exists_and_right, ← isOk_iff]

theorem clean_checkSymbolEntry {entry : SymbolEntry} : Clean (checkSymbolEntry location entry) ↔
    entry.toProvidedSymbol.isOk ∧ ¬ entry.HasEmptyWindow := by
  simp only [checkSymbolEntry, clean_append, clean_ofRefusal, clean_checkOptionalVersion, clean_checkWindow,
    isOk_toProvidedSymbol_iff, and_assoc]

theorem isOk_toArtifact_iff {entry : CatalogEntry} : entry.toArtifact.isOk ↔
    (ModuleKey.parse entry.artifact).isOk ∧ (∀ release ∈ entry.releases, (Version.parse release).isOk) ∧
      (∀ dependency ∈ entry.dependencies, (Coordinate.parse dependency).isOk) ∧
      ∀ symbol ∈ entry.symbols, symbol.toProvidedSymbol.isOk := by
  simp only [CatalogEntry.toArtifact, isOk_bind_iff, isOk_pure, and_true, exists_and_right, ← isOk_iff, isOk_mapM_iff]

theorem clean_checkCatalogEntry {declared : List ModuleKey} {entry : CatalogEntry} :
    Clean (checkCatalogEntry declared location entry) ↔ entry.toArtifact.isOk ∧
      (∀ key, ModuleKey.parse entry.artifact = .ok key → key ∉ declared) ∧
      ∀ symbol ∈ entry.symbols, ¬ symbol.HasEmptyWindow := by
  simp only [checkCatalogEntry, clean_append, clean_flatMap, clean_checkVersion, clean_ofRefusal,
    clean_checkSymbolEntry, isOk_toArtifact_iff, forall_and]
  cases parsed : ModuleKey.parse entry.artifact with
  | ok key =>
    by_cases repeated : key ∈ declared
    · simp [repeated]
    · simp [repeated, isOk_iff]
      tauto
  | error reason => simp [isOk_iff]

theorem declaredKeys_append (entries others : List CatalogEntry) :
    declaredKeys (entries ++ others) = declaredKeys entries ++ declaredKeys others :=
  List.filterMap_append

theorem declaredKeys_cons_of_ok {entry : CatalogEntry} {key : ModuleKey} (parsed : ModuleKey.parse entry.artifact = .ok key)
    (rest : List CatalogEntry) : declaredKeys (entry :: rest) = key :: declaredKeys rest := by
  simp [declaredKeys, parsed, Except.toOption]

/-- The entries are checked one by one, each against the keys in front of it. Together this says that no two keys are
the same. -/
theorem clean_checkCatalogFrom {before entries : List CatalogEntry} :
    Clean (checkCatalogFrom before entries) ↔ (∀ entry ∈ entries, entry.toArtifact.isOk) ∧
      ((declaredKeys entries).Nodup ∧ (declaredKeys before).Disjoint (declaredKeys entries)) ∧
      ∀ entry ∈ entries, ∀ symbol ∈ entry.symbols, ¬ symbol.HasEmptyWindow := by
  induction entries generalizing before with
  | nil => simp [checkCatalogFrom, declaredKeys]
  | cons entry rest ih =>
    simp only [checkCatalogFrom, clean_append, clean_checkCatalogEntry, ih, List.forall_mem_cons]
    by_cases readable : entry.toArtifact.isOk
    · obtain ⟨key, parsed⟩ := isOk_iff.mp (isOk_toArtifact_iff.mp readable).1
      have single : declaredKeys [entry] = [key] := declaredKeys_cons_of_ok parsed []
      simp only [declaredKeys_append, single, declaredKeys_cons_of_ok parsed, parsed, Except.ok.injEq, forall_eq',
        List.nodup_cons, List.disjoint_append_left, List.disjoint_cons_right, List.singleton_disjoint]
      tauto
    · simp [readable]

theorem clean_checkReference {config : Config} {reference : String} :
    Clean (config.checkReference reference) ↔ (Symbol.parse reference).isOk := by
  unfold checkReference
  cases parsed : Symbol.parse reference with
  | error reason => simp [isOk_iff]
  | ok symbol =>
    simp only [isOk_iff, Except.ok.injEq, exists_eq', iff_true]
    split <;> simp

theorem clean_checkMatcher {entry : String} : Clean (checkMatcher entry) ↔ (readMatcher entry).isOk := by
  unfold checkMatcher readMatcher
  rw [isOk_bind_iff]
  cases parsed : Symbol.parse entry with
  | error reason => simp
  | ok symbol =>
    cases symbol <;> simp [isOk_iff, pure, Except.pure, throw, throwThe, MonadExceptOf.throw]

theorem isOk_surface_iff {instrumentation : Instrumentation} : instrumentation.surface.isOk ↔
    (∀ reference ∈ instrumentation.references, (Symbol.parse reference).isOk) ∧
      ∀ entry ∈ instrumentation.classLoaderMatcher, (readMatcher entry).isOk := by
  simp only [Instrumentation.surface, isOk_bind_iff, isOk_pure, and_true, exists_and_right, ← isOk_iff, isOk_mapM_iff]

theorem isOk_exclusionKeys_iff {instrumentation : Instrumentation} : instrumentation.exclusionKeys.isOk ↔
    ∀ text ∈ instrumentation.exclusions, (ModuleKey.parse text).isOk := by
  simp only [Instrumentation.exclusionKeys, isOk_bind_iff, isOk_pure, and_true, ← isOk_iff, isOk_mapM_iff]

theorem clean_checkInstrumentation {config : Config} : Clean config.checkInstrumentation ↔
    config.instrumentation.surface.isOk ∧ config.instrumentation.exclusionKeys.isOk := by
  have gap {p : Bool} {check location message : String} :
      Clean (if p then [.warning check location message] else []) := by
    split <;> simp
  simp only [checkInstrumentation, clean_append, clean_flatMap, clean_checkReference, clean_checkMatcher,
    clean_ofRefusal, gap, and_true, isOk_surface_iff, isOk_exclusionKeys_iff]

theorem isOk_toRule_iff {entry : RuleEntry} : entry.toRule.isOk ↔
    (ModuleKey.ofParts entry.group entry.module).isOk ∧ (VersionRange.parse entry.versions).isOk ∧
      (∀ text ∈ entry.extraDependencies, (Coordinate.parse text).isOk) ∧
      (∀ text ∈ entry.excludedDependencies, (ModuleKey.parse text).isOk) ∧
      ∀ text ∈ entry.skipVersions, (Version.parse text).isOk := by
  simp only [RuleEntry.toRule, isOk_bind_iff, isOk_pure, and_true, exists_and_right, ← isOk_iff, isOk_mapM_iff]

/-- What a rule takes from its entry, as far as its registration depends on it. -/
theorem toRule_eq_ok {entry : RuleEntry} {rule : Rule} (read : entry.toRule = .ok rule) :
    ModuleKey.ofParts entry.group entry.module = .ok rule.key ∧
      ∀ key, key ∈ rule.excludedDependencies ↔ ∃ text ∈ entry.excludedDependencies, ModuleKey.parse text = .ok key := by
  simp only [RuleEntry.toRule, bind_eq_ok_iff] at read
  obtain ⟨key, named, versions, -, extras, -, excluded, listed, skipped, -, same⟩ := read
  obtain rfl := Except.ok.inj same
  refine ⟨named, ?_⟩
  intro other
  rw [ModuleSet.mem_ofList, mem_of_mapM_eq_ok listed]

/-- A verifier with the exclusions of a configuration and with the rules of some entries. -/
structure Follows (config : Config) (before : List RuleEntry) (verifier : Verifier) : Prop where
  rules : ∀ rule, rule ∈ verifier.rules ↔ ∃ entry ∈ before, entry.toRule = .ok rule
  exclusions : ∀ key, key ∈ verifier.exclusions ↔
    ∃ text ∈ config.instrumentation.exclusions, ModuleKey.parse text = .ok key

section
variable {config : Config} {before entries : List RuleEntry} {entry : RuleEntry} {verifier : Verifier} {rule : Rule}

theorem clean_checkRuleKey : Clean (config.checkRuleKey location entry) ↔
    ∃ key, ModuleKey.ofParts entry.group entry.module = .ok key ∧
      ∀ text ∈ config.instrumentation.exclusions ++ entry.excludedDependencies, ModuleKey.parse text ≠ .ok key := by
  unfold checkRuleKey
  cases named : ModuleKey.ofParts entry.group entry.module with
  | error reason => simp
  | ok key =>
    have uncataloged {p : Bool} {check location message : String} :
        Clean (if p then [] else [.warning check location message]) := by
      split <;> simp
    simp only [clean_append, uncataloged, true_and, Except.ok.injEq, exists_eq_left']
    split
    next excluded =>
      simp only [List.any_eq_true, decide_eq_true_eq, toOption_eq_some_iff] at excluded
      obtain ⟨text, member, parsed⟩ := excluded
      simp only [not_clean_error, false_iff]
      exact fun kept => kept text member parsed
    next kept =>
      simp only [clean_nil, true_iff]
      intro text member parsed
      apply kept
      simp only [List.any_eq_true, decide_eq_true_eq, toOption_eq_some_iff]
      exact ⟨text, member, parsed⟩

theorem clean_checkDuplicate (read : entry.toRule = .ok rule) : Clean (checkDuplicate before location entry) ↔
    ∀ other, (∃ earlier ∈ before, earlier.toRule = .ok other) → ¬ other.same rule := by
  simp only [checkDuplicate, read]
  split
  next repeated =>
    simp only [List.any_eq_true, Option.any_eq_true, toOption_eq_some_iff] at repeated
    obtain ⟨earlier, member, other, parsed, same⟩ := repeated
    simp only [not_clean_error, false_iff]
    exact fun distinct => distinct other ⟨earlier, member, parsed⟩ same
  next distinct =>
    simp only [clean_nil, true_iff]
    rintro other ⟨earlier, member, parsed⟩ same
    apply distinct
    simp only [List.any_eq_true, Option.any_eq_true, toOption_eq_some_iff]
    exact ⟨earlier, member, other, parsed, same⟩

/-- An entry has no errors just if its rule can be registered behind those of the entries before it. -/
theorem clean_checkRule (follows : Follows config before verifier) : Clean (config.checkRule before location entry) ↔
    ∃ rule, entry.toRule = .ok rule ∧ verifier.Accepts rule := by
  simp only [checkRule, clean_append, clean_flatMap, clean_ofRefusal, clean_checkVersion, clean_checkRuleKey]
  constructor
  · rintro ⟨⟨⟨⟨⟨⟨key, named, kept⟩, versions⟩, extras⟩, excluded⟩, skipped⟩, distinct⟩
    obtain ⟨rule, read⟩ := isOk_iff.mp (isOk_toRule_iff.mpr ⟨isOk_iff.mpr ⟨key, named⟩, versions, extras, excluded, skipped⟩)
    obtain ⟨same, mem_excluded⟩ := toRule_eq_ok read
    obtain rfl : key = rule.key := Except.ok.inj (named.symm.trans same)
    refine ⟨rule, read, ?_, ?_, ?_⟩
    · intro other member
      exact (clean_checkDuplicate read).mp distinct other ((follows.rules other).mp member)
    · rw [mem_excluded]
      rintro ⟨text, member, parsed⟩
      exact kept text (List.mem_append_right _ member) parsed
    · rw [follows.exclusions]
      rintro ⟨text, member, parsed⟩
      exact kept text (List.mem_append_left _ member) parsed
  · rintro ⟨rule, read, distinct, keeps, admitted⟩
    obtain ⟨named, mem_excluded⟩ := toRule_eq_ok read
    obtain ⟨-, versions, extras, excluded, skipped⟩ := isOk_toRule_iff.mp (isOk_iff.mpr ⟨rule, read⟩)
    refine ⟨⟨⟨⟨⟨⟨rule.key, named, ?_⟩, versions⟩, extras⟩, excluded⟩, skipped⟩, ?_⟩
    · intro text member parsed
      rcases List.mem_append.mp member with member | member
      · exact admitted ((follows.exclusions _).mpr ⟨text, member, parsed⟩)
      · exact keeps ((mem_excluded _).mpr ⟨text, member, parsed⟩)
    · refine (clean_checkDuplicate read).mpr ?_
      intro other earlier
      exact distinct other ((follows.rules other).mpr earlier)

theorem Follows.withRule (follows : Follows config before verifier) (read : entry.toRule = .ok rule) :
    Follows config (before ++ [entry]) (verifier.withRule rule) where
  rules other := by
    simp only [Verifier.withRule, List.mem_append, follows.rules, List.mem_singleton]
    constructor
    · rintro (⟨earlier, member, parsed⟩ | rfl)
      · exact ⟨earlier, .inl member, parsed⟩
      · exact ⟨entry, .inr rfl, read⟩
    · rintro ⟨earlier, member | rfl, parsed⟩
      · exact .inl ⟨earlier, member, parsed⟩
      · exact .inr (Except.ok.inj (parsed.symm.trans read))
  exclusions := follows.exclusions

theorem isOk_registerRules_cons : (registerRules verifier (entry :: entries)).isOk ↔
    ∃ rule, (entry.toRule = .ok rule ∧ verifier.Accepts rule) ∧ (registerRules (verifier.withRule rule) entries).isOk := by
  rw [registerRules, List.foldlM_cons, isOk_bind_iff]
  constructor
  · rintro ⟨changed, step, registered⟩
    obtain ⟨rule, read, step⟩ := bind_eq_ok_iff.mp step
    obtain ⟨outcome, accepted, step⟩ := bind_eq_ok_iff.mp step
    obtain ⟨accepts, rfl⟩ := Verifier.register_eq_ok_iff.mp accepted
    obtain rfl : verifier.withRule rule = changed := Except.ok.inj step
    exact ⟨rule, ⟨read, accepts⟩, registered⟩
  · rintro ⟨rule, ⟨read, accepts⟩, registered⟩
    refine ⟨verifier.withRule rule, ?_, registered⟩
    rw [read, bind_eq_ok_iff]
    refine ⟨rule, rfl, ?_⟩
    rw [Verifier.register_of_accepts accepts]
    rfl

/-- Entries have no errors just if all their rules can be registered, one after the other. -/
theorem clean_checkRulesFrom (follows : Follows config before verifier) :
    Clean (config.checkRulesFrom before entries) ↔ (registerRules verifier entries).isOk := by
  induction entries generalizing before verifier with
  | nil => simp [checkRulesFrom, registerRules]
  | cons entry rest ih =>
    rw [checkRulesFrom, clean_append, clean_checkRule follows, isOk_registerRules_cons]
    constructor
    · rintro ⟨⟨rule, read, accepts⟩, others⟩
      exact ⟨rule, ⟨read, accepts⟩, (ih (follows.withRule read)).mp others⟩
    · rintro ⟨rule, ⟨read, accepts⟩, registered⟩
      exact ⟨⟨rule, read, accepts⟩, (ih (follows.withRule read)).mpr registered⟩

end

variable {config : Config}

theorem isOk_toCatalog_iff : config.toCatalog.isOk ↔ ∀ entry ∈ config.catalog, entry.toArtifact.isOk := by
  rw [toCatalog, readCatalog, isOk_bind_and fun _ => iff_of_true (isOk_pure _) trivial, and_true, isOk_mapM_iff]

theorem follows_start {exclusions : ModuleSet} {verifier : Verifier}
    (read : config.instrumentation.exclusionKeys = .ok exclusions) (empty : verifier.rules = [])
    (excluded : verifier.exclusions = exclusions) : Follows config [] verifier where
  rules := by simp [empty]
  exclusions key := by
    obtain ⟨keys, listed, same⟩ := bind_eq_ok_iff.mp read
    obtain rfl : ModuleSet.ofList keys = exclusions := Except.ok.inj same
    rw [excluded, ModuleSet.mem_ofList, mem_of_mapM_eq_ok listed]

/-- Surface, catalog and exclusions are read, each whatever the others are, and then the rules are registered. -/
theorem isOk_verifier_iff : config.verifier.isOk ↔ config.instrumentation.surface.isOk ∧ config.toCatalog.isOk ∧
    config.instrumentation.exclusionKeys.isOk ∧ Clean (config.checkRulesFrom [] config.rules) := by
  -- The start has no rules yet, with any number of workers.
  have registered {surface : Surface} {catalog : Catalog} {exclusions : ModuleSet}
      (read : config.instrumentation.exclusionKeys = .ok exclusions) :
      (registerRules (if config.settings.parallel then
          ({ surface, catalog, exclusions } : Verifier).withWorkers config.settings.maxParallel.toNat
        else { surface, catalog, exclusions }) config.rules).isOk ↔ Clean (config.checkRulesFrom [] config.rules) := by
    rw [clean_checkRulesFrom (follows_start read ?_ ?_)]
    all_goals split <;> rfl
  simp only [verifier, isOk_bind_iff]
  constructor
  · rintro ⟨surface, first, catalog, second, exclusions, third, rules⟩
    exact ⟨isOk_iff.mpr ⟨surface, first⟩, isOk_iff.mpr ⟨catalog, second⟩, isOk_iff.mpr ⟨exclusions, third⟩,
      (registered third).mp rules⟩
  · rintro ⟨first, second, third, rules⟩
    obtain ⟨surface, first⟩ := isOk_iff.mp first
    obtain ⟨catalog, second⟩ := isOk_iff.mp second
    obtain ⟨exclusions, third⟩ := isOk_iff.mp third
    exact ⟨surface, first, catalog, second, exclusions, third, (registered third).mpr rules⟩

theorem isOk_dependencySet_iff : config.dependencySet.isOk ↔
    ∀ entry ∈ config.resolved.entries, (ModuleKey.parse entry.1).isOk ∧ (Version.parse entry.2).isOk := by
  simp only [dependencySet, DependencySet.parse]
  rw [isOk_bind_and fun _ => iff_of_true (isOk_pure _) trivial, and_true, isOk_mapM_iff]
  refine forall₂_congr fun entry _ => ?_
  rw [isOk_bind_and]
  intro key
  rw [isOk_bind_and fun _ => iff_of_true (isOk_pure _) trivial, and_true]

theorem clean_checkResolved : Clean config.checkResolved ↔ config.dependencySet.isOk := by
  simp only [checkResolved, clean_flatMap, clean_append, clean_ofRefusal, clean_checkVersion, isOk_dependencySet_iff]

/-- What a configuration needs to be verified: all that it describes can be built, it has rules, no two entries of its
catalog are about one library, and no symbol in it has a window without versions. -/
structure Verifiable (config : Config) : Prop where
  verifier : config.verifier.isOk
  dependencies : config.dependencySet.isOk
  rules : config.rules ≠ []
  distinct : (declaredKeys config.catalog).Nodup
  windows : ∀ entry ∈ config.catalog, ∀ symbol ∈ entry.symbols, ¬ symbol.HasEmptyWindow

theorem clean_findings : Clean config.findings ↔ config.Verifiable := by
  have required : Clean config.checkRules ↔ config.rules ≠ [] ∧ Clean (config.checkRulesFrom [] config.rules) := by
    rw [checkRules, clean_append]
    cases config.rules <;> simp
  simp only [findings, clean_append, clean_checkCatalogFrom, clean_checkInstrumentation, required, clean_checkResolved]
  constructor
  · rintro ⟨⟨⟨⟨artifacts, ⟨distinct, -⟩, windows⟩, surface, exclusions⟩, some, rules⟩, dependencies⟩
    exact ⟨isOk_verifier_iff.mpr ⟨surface, isOk_toCatalog_iff.mpr artifacts, exclusions, rules⟩, dependencies, some,
      distinct, windows⟩
  · rintro ⟨verifier, dependencies, some, distinct, windows⟩
    obtain ⟨surface, catalog, exclusions, rules⟩ := isOk_verifier_iff.mp verifier
    have apart : (declaredKeys []).Disjoint (declaredKeys config.catalog) := by simp [declaredKeys]
    exact ⟨⟨⟨⟨isOk_toCatalog_iff.mp catalog, ⟨distinct, apart⟩, windows⟩, surface, exclusions⟩, some, rules⟩,
      dependencies⟩

theorem isOk_validate_iff : config.validate.isOk ↔ config.Verifiable := by
  rw [← clean_findings, validate]
  split
  next none =>
    simp only [isOk_pure, true_iff]
    simpa [Clean, List.filter_eq_nil_iff] using none
  next errors found =>
    have refused : ¬ Clean config.findings := by
      intro clean
      exact found (List.filter_eq_nil_iff.mpr clean)
    simp [refused, isOk_iff, throw, throwThe, MonadExceptOf.throw]

end Linkage.Config
