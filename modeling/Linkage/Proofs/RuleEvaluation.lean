import Mathlib.Data.List.Sort
import Linkage.Verifier
import Linkage.Proofs.RangeMembership
import Linkage.Proofs.RuleNumbering
import Linkage.Proofs.SymbolPresence

/-! What the verdict about a rule says: whether its library is resolved, in range and not skipped, and if it is, what
the classpath lacks. First come the matcher classes that are not present, then the references that do not link. This
settles the verdict, down to the order of the violations and the excluded library that each one names. -/

namespace Linkage

namespace Surface
variable {surface : Surface} {symbol : Symbol}

/-- The class of the symbol comes neither with the instrumentation nor with the runtime. -/
def Foreign (surface : Surface) (symbol : Symbol) : Prop :=
  ∀ start ∈ surface.helperPrefixes ++ surface.bootstrapPrefixes, ¬ start.toList <+: symbol.owner.toList

theorem requiresLookup_iff : surface.requiresLookup symbol ↔ surface.Foreign symbol := by
  simp [requiresLookup, Foreign, or_imp, forall_and]

/-- The references that do not link, each once, in the order of their first occurrence. -/
structure Broken (surface : Surface) (catalog : Catalog) (classpath : Classpath) (symbols : List Symbol) : Prop where
  mem_iff : ∀ symbol, symbol ∈ symbols ↔
    symbol ∈ surface.references ∧ surface.Foreign symbol ∧ ¬ classpath.Links catalog symbol
  ordered : symbols.Pairwise fun a b => surface.references.idxOf a < surface.references.idxOf b

theorem Broken.unique {catalog : Catalog} {classpath : Classpath} {symbols others : List Symbol}
    (first : surface.Broken catalog classpath symbols) (second : surface.Broken catalog classpath others) :
    symbols = others := by
  let earlier (a b : Symbol) := surface.references.idxOf a < surface.references.idxOf b
  have irrefl : Std.Irrefl earlier := ⟨fun a => Nat.lt_irrefl _⟩
  have antisymm : Std.Antisymm earlier := ⟨fun a b before after => absurd before (Nat.lt_asymm after)⟩
  have members (symbol : Symbol) := (first.mem_iff symbol).trans (second.mem_iff symbol).symm
  exact first.ordered.eq_of_mem_iff second.ordered members

/-- Dropping repetitions keeps the first of each symbol. The induction is over the whole list for every selection from
it, since the recursion removes the head from the tail. -/
private theorem eraseDups_ordered (select : Symbol → Bool) (symbols : List Symbol) :
    (symbols.filter select).eraseDups.Pairwise fun a b => symbols.idxOf a < symbols.idxOf b := by
  induction symbols generalizing select with
  | nil => simp
  | cons first rest ih =>
    -- Members other than the head stand one place further back than in the tail.
    have shifted (others : Symbol → Bool) (different : ∀ symbol, others symbol → symbol ≠ first) :
        (rest.filter others).eraseDups.Pairwise fun a b => (first :: rest).idxOf a < (first :: rest).idxOf b := by
      refine (ih others).imp_of_mem fun {a b} left right before => ?_
      simp only [List.mem_eraseDups, List.mem_filter] at left right
      rw [List.idxOf_cons_ne _ (different a left.2).symm, List.idxOf_cons_ne _ (different b right.2).symm]
      exact Nat.succ_lt_succ before
    by_cases selected : select first
    · rw [List.filter_cons_of_pos selected, List.eraseDups_cons, List.filter_filter]
      refine List.pairwise_cons.mpr ⟨fun symbol member => ?_, shifted _ fun symbol chosen => by simp_all⟩
      have different : symbol ≠ first := by
        simp only [List.mem_eraseDups, List.mem_filter] at member
        simp_all
      simp [List.idxOf_cons_ne _ different.symm]
    · rw [List.filter_cons_of_neg selected]
      exact shifted select fun symbol chosen same => selected (same ▸ chosen)

theorem broken_checkedReferences (surface : Surface) (catalog : Catalog) (classpath : Classpath) :
    surface.Broken catalog classpath (surface.checkedReferences.filter (¬ classpath.Links catalog ·)) where
  mem_iff symbol := by simp [checkedReferences, requiresLookup_iff, and_assoc]
  ordered := (eraseDups_ordered surface.requiresLookup surface.references).filter _

end Surface

namespace Verifier
variable {verifier : Verifier} {classpath : Classpath} {dependencies : DependencySet} {rule : Rule}
  {version : Option Version} {expectation : Expectation} {outcome : Outcome} {found : List Violation}

/-- The matcher classes that nothing on the classpath offers, in the order of the surface. -/
def absentMatchers (verifier : Verifier) (classpath : Classpath) : List String :=
  verifier.surface.matcherClasses.filter fun name => ¬ classpath.Present verifier.catalog (.ofClass name)

/-- What is wrong on a classpath: the absent matcher classes in their order, then the references that do not link. Each
reference names the least excluded library that offers what is in its way. -/
def Finds (verifier : Verifier) (classpath : Classpath) (found : List Violation) : Prop :=
  ∃ (symbols : List Symbol) (blame : Symbol → Option ModuleKey),
    verifier.surface.Broken verifier.catalog classpath symbols ∧
    (∀ symbol ∈ symbols, Classpath.Least verifier.catalog classpath.excluded
      (classpath.obstacle verifier.catalog symbol) (blame symbol)) ∧
    found = (verifier.absentMatchers classpath).map .matcherAbsent ++
      symbols.map fun symbol => .missingSymbol symbol (blame symbol)

private theorem filterMap_eq_map_filter {α : Type u} {β : Type v} {f : α → Option β} {p : α → Prop} [DecidablePred p]
    {g : α → β} (agree : ∀ x, f x = if p x then some (g x) else none) (xs : List α) :
    xs.filterMap f = (xs.filter (p ·)).map g := by
  induction xs with
  | nil => rfl
  | cons x rest ih => by_cases holds : p x <;> simp [agree x, holds, ih]

/-- The violations in terms of what is present, without look-ups. -/
theorem violations_eq : verifier.violations classpath =
    (verifier.absentMatchers classpath).map .matcherAbsent ++
      (verifier.surface.checkedReferences.filter (¬ classpath.Links verifier.catalog ·)).map fun symbol =>
        .missingSymbol symbol (Classpath.provider? verifier.catalog classpath.excluded
          (classpath.obstacle verifier.catalog symbol)) := by
  refine congrArg₂ (· ++ ·) (filterMap_eq_map_filter (fun name => ?_) _) (filterMap_eq_map_filter (fun symbol => ?_) _)
  · by_cases present : classpath.Present verifier.catalog (.ofClass name)
    · obtain ⟨provider, found⟩ := Classpath.lookup_of_present present
      simp [found, present]
    · rw [Classpath.lookup_of_absent present, if_pos present]
      cases Classpath.provider? verifier.catalog classpath.excluded (.ofClass name) <;> rfl
  · by_cases links : classpath.Links verifier.catalog symbol
    · obtain ⟨provider, found⟩ := Classpath.resolves_of_links links
      simp [found, links]
    · rw [Classpath.resolves_of_not_links links, if_pos links]
      cases Classpath.provider? verifier.catalog classpath.excluded (classpath.obstacle verifier.catalog symbol) <;> rfl

theorem finds_iff (ordered : Ascending.Strict ModuleMap.compareKeys classpath.excluded) :
    verifier.Finds classpath found ↔ found = verifier.violations classpath := by
  rw [violations_eq]
  have broken := verifier.surface.broken_checkedReferences verifier.catalog classpath
  constructor
  · rintro ⟨symbols, blame, listed, blamed, rfl⟩
    obtain rfl := listed.unique broken
    refine congrArg _ (List.map_congr_left fun symbol member => ?_)
    rw [Classpath.least_unique (blamed symbol member) (Classpath.least_provider? ordered)]
  · rintro rfl
    exact ⟨_, _, broken, fun symbol _ => Classpath.least_provider? ordered, rfl⟩

/-- What violations mean for a rule that expects to pass, and for one that expects to fail. -/
inductive Judged : Expectation → List Violation → Outcome → Prop where
  | linked : Judged .pass [] .passed
  | broken {found : List Violation} (nonempty : found ≠ []) : Judged .pass found (.failed found)
  | unexpected : Judged .fail [] (.failed [.unexpectedPass])
  | expected {found : List Violation} (nonempty : found ≠ []) : Judged .fail found .passed

theorem judged_iff : Judged expectation found outcome ↔ outcome = judge expectation found := by
  constructor
  · rintro (_ | _ | _ | _)
    · rfl
    · simp [judge]
    · rfl
    · simp [judge]
  · rintro rfl
    cases expectation <;> cases found
    · exact .linked
    · exact .broken (List.cons_ne_nil _ _)
    · exact .unexpected
    · exact .expected (List.cons_ne_nil _ _)

/-- What is concluded about a rule, and at which version. The version has to be resolved, in the range and not skipped,
in this order; then the violations on its classpath decide. -/
inductive Concludes (verifier : Verifier) (dependencies : DependencySet) (rule : Rule) :
    Option Version → Outcome → Prop where
  | unresolved (absent : dependencies.find? rule.key = none) :
      Concludes verifier dependencies rule none (.skipped .unresolvedModule)
  | outside {version : Version} (resolved : dependencies.find? rule.key = some version)
      (outside : ¬ rule.versions.Admits version) :
      Concludes verifier dependencies rule (some version) (.skipped (.outOfRange rule.versions))
  | skipped {version : Version} (resolved : dependencies.find? rule.key = some version)
      (inside : rule.versions.Admits version) (listed : ∃ skipped ∈ rule.skipVersions, skipped.compare version = .eq) :
      Concludes verifier dependencies rule (some version) (.skipped .skippedVersion)
  | checked {version : Version} {exclusions : ModuleSet} {found : List Violation} {outcome : Outcome}
      (resolved : dependencies.find? rule.key = some version)
      (inside : rule.versions.Admits version) (unlisted : ∀ skipped ∈ rule.skipVersions, skipped.compare version ≠ .eq)
      (excluded : ∀ key, key ∈ exclusions ↔ key ∈ verifier.exclusions ∨ key ∈ rule.excludedDependencies)
      (finds : verifier.Finds (.build verifier.catalog dependencies rule.extraDependencies exclusions) found)
      (judged : Judged rule.expectation found outcome) :
      Concludes verifier dependencies rule (some version) outcome

theorem skips_iff {version : Version} :
    rule.skips version ↔ ∃ skipped ∈ rule.skipVersions, skipped.compare version = .eq := by
  simp [Rule.skips]

theorem Concludes.evaluate_eq (concludes : Concludes verifier dependencies rule version outcome) (index : Nat) :
    verifier.evaluate dependencies index rule = verdict index rule version rule.expectation outcome := by
  cases concludes with
  | unresolved absent => simp [evaluate, absent]
  | outside resolved outside => simp [evaluate, resolved, VersionRange.contains_iff_admits, outside]
  | skipped resolved inside listed =>
    simp [evaluate, resolved, VersionRange.contains_iff_admits, inside, skips_iff.mpr listed]
  | @checked version exclusions found outcome resolved inside unlisted excluded finds judged =>
    have kept : ¬ rule.skips version := by simpa [skips_iff] using unlisted
    have united := @Classpath.build_congr exclusions (verifier.exclusions.union rule.excludedDependencies)
      (by simpa using excluded) verifier.catalog dependencies rule.extraDependencies
    rw [united, finds_iff (Classpath.build_excluded_strict _ _ _ _)] at finds
    rw [judged_iff, finds] at judged
    simp [evaluate, check, resolved, VersionRange.contains_iff_admits, inside, kept, judged]

/-- Something is concluded about each rule. -/
theorem exists_concludes (verifier : Verifier) (dependencies : DependencySet) (rule : Rule) :
    ∃ version outcome, Concludes verifier dependencies rule version outcome := by
  cases resolved : dependencies.find? rule.key with
  | none => exact ⟨none, _, .unresolved resolved⟩
  | some version =>
    by_cases inside : rule.versions.Admits version
    · by_cases listed : ∃ skipped ∈ rule.skipVersions, skipped.compare version = .eq
      · exact ⟨some version, _, .skipped resolved inside listed⟩
      · have unlisted : ∀ skipped ∈ rule.skipVersions, skipped.compare version ≠ .eq :=
          fun skipped member same => listed ⟨skipped, member, same⟩
        have ordered := Classpath.build_excluded_strict verifier.catalog dependencies rule.extraDependencies
          (verifier.exclusions.union rule.excludedDependencies)
        exact ⟨some version, _, .checked resolved inside unlisted (fun _ => ModuleSet.mem_union _ _)
          ((finds_iff ordered).mpr rfl) (judged_iff.mpr rfl)⟩
    · exact ⟨some version, _, .outside resolved inside⟩

/-- Verification gives one verdict for each rule, in the order of registration, with what is concluded about the rule.
It depends neither on the other rules nor on the number of workers. -/
theorem verify_concludes (verifier : Verifier) (dependencies : DependencySet) :
    (verifier.verify dependencies).length = verifier.rules.length ∧
    ∀ index (result : Verdict), (verifier.verify dependencies)[index]? = some result ↔ ∃ rule version outcome,
      verifier.rules[index]? = some rule ∧ Concludes verifier dependencies rule version outcome ∧
      result = ⟨index, rule.label, rule.key, version, rule.expectation, outcome⟩ := by
  refine ⟨by rw [verify, mapRules_eq_numbered, length_numbered], fun index result => ?_⟩
  rw [verify, getElem?_mapRules, Option.map_eq_some_iff]
  constructor
  · rintro ⟨rule, registered, rfl⟩
    obtain ⟨version, outcome, concludes⟩ := exists_concludes verifier dependencies rule
    exact ⟨rule, version, outcome, registered, concludes, concludes.evaluate_eq index⟩
  · rintro ⟨rule, version, outcome, registered, concludes, rfl⟩
    exact ⟨rule, registered, concludes.evaluate_eq index⟩

end Verifier
end Linkage
