import Linkage.Proofs.ConfigValidation

/-! Where the checks of a configuration look, and what they may find there. Every finding is about a place of the
configuration, which it names. -/

namespace Linkage.Config

namespace Finding

/-- All findings are about one place, and they come from some of the checks. -/
def FoundAt (location : String) (checks : List String) (findings : List Finding) : Prop :=
  ∀ finding ∈ findings, finding.location = some location ∧ finding.check ∈ checks

variable {α : Type} {findings others : List Finding} {location check message : String} {checks : List String}

@[simp]
theorem foundAt_nil : FoundAt location checks [] := by
  simp [FoundAt]

@[simp]
theorem foundAt_append :
    FoundAt location checks (findings ++ others) ↔ FoundAt location checks findings ∧ FoundAt location checks others :=
  List.forall_mem_append

theorem foundAt_flatMap {xs : List α} {f : α → List Finding} (each : ∀ x ∈ xs, FoundAt location checks (f x)) :
    FoundAt location checks (xs.flatMap f) := by
  intro finding member
  obtain ⟨x, listed, inside⟩ := List.mem_flatMap.mp member
  exact each x listed finding inside

-- The checks of a place are a list of names, so a name is looked up in it wherever one of these lemmas is used.
theorem foundAt_error (listed : check ∈ checks := by decide) : FoundAt location checks [error check location message] :=
  List.forall_mem_singleton.mpr ⟨rfl, listed⟩

theorem foundAt_warning (listed : check ∈ checks := by decide) : FoundAt location checks [warning check location message] :=
  List.forall_mem_singleton.mpr ⟨rfl, listed⟩

theorem foundAt_ofRefusal {result : Except Error α} (listed : check ∈ checks := by decide) :
    FoundAt location checks (ofRefusal check location result) := by
  cases result with
  | ok value => exact foundAt_nil
  | error reason => exact foundAt_error listed

end Finding
open Finding

/-- What may be found in an entry of the catalog. -/
def catalogChecks : List String :=
  ["duplicate-artifact", "invalid-module", "invalid-version", "invalid-coordinate", "invalid-symbol",
    "empty-symbol-window"]

/-- What may be found in a rule. -/
def ruleChecks : List String :=
  ["invalid-module", "uncataloged-module", "self-exclusion", "malformed-range", "invalid-coordinate", "invalid-version",
    "duplicate-rule"]

variable {config : Config} {finding : Finding} {location : String} {checks : List String}

theorem foundAt_checkVersion (text : String) (listed : "invalid-version" ∈ checks := by decide) :
    FoundAt location checks (checkVersion location text) :=
  foundAt_ofRefusal listed

section
variable {before : List CatalogEntry} {declared : List ModuleKey}

theorem foundAt_checkSymbolEntry (entry : SymbolEntry) :
    FoundAt location catalogChecks (checkSymbolEntry location entry) := by
  unfold checkSymbolEntry checkOptionalVersion checkWindow
  simp only [foundAt_append]
  refine ⟨⟨⟨?_, ?_⟩, ?_⟩, ?_⟩
  · exact foundAt_ofRefusal
  · exact foundAt_flatMap fun text _ => foundAt_checkVersion text
  · exact foundAt_flatMap fun text _ => foundAt_checkVersion text
  · split
    · split
      · exact foundAt_nil
      · exact foundAt_error
    · exact foundAt_nil

theorem foundAt_checkCatalogEntry (entry : CatalogEntry) :
    FoundAt location catalogChecks (checkCatalogEntry declared location entry) := by
  unfold checkCatalogEntry
  simp only [foundAt_append]
  refine ⟨⟨⟨?_, ?_⟩, ?_⟩, ?_⟩
  · split
    · split
      · exact foundAt_error
      · exact foundAt_nil
    · exact foundAt_error
  · exact foundAt_flatMap fun text _ => foundAt_checkVersion text
  · exact foundAt_flatMap fun text _ => foundAt_ofRefusal
  · exact foundAt_flatMap fun entry _ => foundAt_checkSymbolEntry entry

end

section
variable {before : List RuleEntry}

theorem foundAt_checkReference (reference : String) :
    FoundAt "instrumentation.references" ["invalid-symbol", "unknown-reference"] (config.checkReference reference) := by
  unfold checkReference
  dsimp only
  split
  · exact foundAt_error
  · split
    · exact foundAt_nil
    · exact foundAt_warning

theorem foundAt_checkMatcher (entry : String) :
    FoundAt "instrumentation.class_loader_matcher" ["invalid-symbol"] (checkMatcher entry) := by
  unfold checkMatcher
  dsimp only
  split
  · exact foundAt_nil
  · exact foundAt_error
  · exact foundAt_error

theorem foundAt_checkRule (entry : RuleEntry) :
    FoundAt location ruleChecks (config.checkRule before location entry) := by
  unfold checkRule checkRuleKey checkDuplicate
  simp only [foundAt_append]
  refine ⟨⟨⟨⟨⟨?_, ?_⟩, ?_⟩, ?_⟩, ?_⟩, ?_⟩
  · split
    · exact foundAt_error
    · refine foundAt_append.mpr ⟨?_, ?_⟩
      · split
        · exact foundAt_nil
        · exact foundAt_warning
      · split
        · exact foundAt_error
        · exact foundAt_nil
  · exact foundAt_ofRefusal
  · exact foundAt_flatMap fun text _ => foundAt_ofRefusal
  · exact foundAt_flatMap fun text _ => foundAt_ofRefusal
  · exact foundAt_flatMap fun text _ => foundAt_checkVersion text
  · split
    · exact foundAt_nil
    · split
      · exact foundAt_error
      · exact foundAt_nil

end

/-- What is found in one entry of a configuration, with its place and the checks that look there. The entries of the
catalog and the rules are checked after the ones before them. -/
inductive Part (config : Config) : String → List String → List Finding → Prop where
  | catalog {before rest : List CatalogEntry} {entry : CatalogEntry}
      (declared : config.catalog = before ++ entry :: rest) :
      Part config ("catalog[" ++ toString before.length ++ "]") catalogChecks
        (checkCatalogEntry (declaredKeys before) ("catalog[" ++ toString before.length ++ "]") entry)
  | reference {reference : String} (listed : reference ∈ config.instrumentation.references) :
      Part config "instrumentation.references" ["invalid-symbol", "unknown-reference"] (config.checkReference reference)
  | matcher {entry : String} (listed : entry ∈ config.instrumentation.classLoaderMatcher) :
      Part config "instrumentation.class_loader_matcher" ["invalid-symbol"] (checkMatcher entry)
  | exclusion {text : String} (listed : text ∈ config.instrumentation.exclusions) :
      Part config "instrumentation.exclusions" ["invalid-module"]
        (ofRefusal "invalid-module" "instrumentation.exclusions" (ModuleKey.parse text))
  | noCatalog (empty : declaredKeys config.catalog = []) (some : config.instrumentation.references ≠ []) :
      Part config "catalog" ["empty-catalog"]
        [warning "empty-catalog" "catalog" "The catalog is empty; every referenced symbol will be missing"]
  | noRules (empty : config.rules = []) :
      Part config "rules" ["no-rules"] [error "no-rules" "rules" "At least one rule is required"]
  | rule {before rest : List RuleEntry} {entry : RuleEntry} (declared : config.rules = before ++ entry :: rest) :
      Part config ("rules[" ++ toString before.length ++ "]") ruleChecks
        (config.checkRule before ("rules[" ++ toString before.length ++ "]") entry)
  | resolved {key version : String} (listed : (key, version) ∈ config.resolved.entries) :
      Part config ("resolved." ++ key) ["invalid-module", "invalid-version"]
        (ofRefusal "invalid-module" ("resolved." ++ key) (ModuleKey.parse key) ++
          checkVersion ("resolved." ++ key) version)

variable {part : List Finding}

theorem Part.foundAt (inside : config.Part location checks part) : FoundAt location checks part := by
  cases inside with
  | catalog declared => exact foundAt_checkCatalogEntry _
  | reference listed => exact foundAt_checkReference _
  | matcher listed => exact foundAt_checkMatcher _
  | exclusion listed => exact foundAt_ofRefusal
  | noCatalog empty some => exact foundAt_warning
  | noRules empty => exact foundAt_error
  | rule declared => exact foundAt_checkRule _
  | resolved listed => exact foundAt_append.mpr ⟨foundAt_ofRefusal, foundAt_checkVersion _⟩

/-- A walk checks every element after the ones before it. -/
theorem mem_walk_iff {α : Type} {walk : List α → List α → List Finding} (check : List α → α → List Finding)
    (nil : ∀ before, walk before [] = [])
    (cons : ∀ before x rest, walk before (x :: rest) = check before x ++ walk (before ++ [x]) rest)
    {before xs : List α} : finding ∈ walk before xs ↔
      ∃ front x rest, xs = front ++ x :: rest ∧ finding ∈ check (before ++ front) x := by
  induction xs generalizing before with
  | nil => simp [nil]
  | cons x rest ih =>
    rw [cons, List.mem_append, ih]
    constructor
    · rintro (here | ⟨front, y, behind, rfl, later⟩)
      · exact ⟨[], x, rest, rfl, by rwa [List.append_nil]⟩
      · exact ⟨x :: front, y, behind, rfl, by rwa [List.append_cons]⟩
    · rintro ⟨front, y, behind, split, found⟩
      cases front with
      | nil =>
        obtain ⟨rfl, rfl⟩ := List.cons.inj split
        rw [List.append_nil] at found
        exact .inl found
      | cons z front =>
        obtain ⟨rfl, rfl⟩ := List.cons.inj split
        rw [List.append_cons] at found
        exact .inr ⟨front, y, behind, rfl, found⟩

theorem mem_checkCatalogFrom_iff {before entries : List CatalogEntry} : finding ∈ checkCatalogFrom before entries ↔
    ∃ front entry rest, entries = front ++ entry :: rest ∧ finding ∈ checkCatalogEntry (declaredKeys (before ++ front))
      ("catalog[" ++ toString (before ++ front).length ++ "]") entry :=
  mem_walk_iff (fun before => checkCatalogEntry (declaredKeys before) ("catalog[" ++ toString before.length ++ "]"))
    (fun _ => rfl) (fun _ _ _ => rfl)

theorem mem_checkRulesFrom_iff {before entries : List RuleEntry} : finding ∈ config.checkRulesFrom before entries ↔
    ∃ front entry rest, entries = front ++ entry :: rest ∧ finding ∈ config.checkRule (before ++ front)
      ("rules[" ++ toString (before ++ front).length ++ "]") entry :=
  mem_walk_iff (fun before => config.checkRule before ("rules[" ++ toString before.length ++ "]"))
    (fun _ => rfl) (fun _ _ _ => rfl)

theorem mem_checkInstrumentation_iff : finding ∈ config.checkInstrumentation ↔
    (∃ reference ∈ config.instrumentation.references, finding ∈ config.checkReference reference) ∨
    (∃ entry ∈ config.instrumentation.classLoaderMatcher, finding ∈ checkMatcher entry) ∨
    (∃ text ∈ config.instrumentation.exclusions,
      finding ∈ ofRefusal "invalid-module" "instrumentation.exclusions" (ModuleKey.parse text)) ∨
    (declaredKeys config.catalog = [] ∧ config.instrumentation.references ≠ []) ∧
      finding = warning "empty-catalog" "catalog" "The catalog is empty; every referenced symbol will be missing" := by
  unfold checkInstrumentation
  simp only [List.mem_append, List.mem_flatMap, or_assoc]
  refine or_congr_right (or_congr_right (or_congr_right ?_))
  split
  next gap =>
    simp only [Bool.and_eq_true, List.isEmpty_iff, Bool.not_eq_true', List.isEmpty_eq_false_iff] at gap
    simp [gap]
  next none =>
    simp only [Bool.and_eq_true, List.isEmpty_iff, Bool.not_eq_true', List.isEmpty_eq_false_iff] at none
    simp [none]

/-- All that is found is found in some part. -/
theorem mem_findings_iff_part : finding ∈ config.findings ↔
    ∃ location checks part, config.Part location checks part ∧ finding ∈ part := by
  have rules : finding ∈ config.checkRules ↔
      (config.rules = [] ∧ finding = error "no-rules" "rules" "At least one rule is required") ∨
        finding ∈ config.checkRulesFrom [] config.rules := by
    unfold checkRules
    rw [List.mem_append]
    cases config.rules <;> simp
  simp only [findings, checkResolved, List.mem_append, List.mem_flatMap, mem_checkInstrumentation_iff, rules,
    mem_checkCatalogFrom_iff, mem_checkRulesFrom_iff, List.nil_append]
  constructor
  · rintro (((⟨front, entry, rest, declared, found⟩ | ⟨reference, listed, found⟩ | ⟨entry, listed, found⟩ |
      ⟨text, listed, found⟩ | ⟨⟨empty, some⟩, rfl⟩) | ⟨empty, rfl⟩ | ⟨front, entry, rest, declared, found⟩) |
      ⟨⟨key, version⟩, listed, found⟩)
    · exact ⟨_, _, _, .catalog declared, found⟩
    · exact ⟨_, _, _, .reference listed, found⟩
    · exact ⟨_, _, _, .matcher listed, found⟩
    · exact ⟨_, _, _, .exclusion listed, found⟩
    · exact ⟨_, _, _, .noCatalog empty some, List.mem_singleton_self _⟩
    · exact ⟨_, _, _, .noRules empty, List.mem_singleton_self _⟩
    · exact ⟨_, _, _, .rule declared, found⟩
    · exact ⟨_, _, _, .resolved listed, List.mem_append.mpr found⟩
  · rintro ⟨location, checks, part, inside, found⟩
    cases inside with
    | catalog declared => exact .inl (.inl (.inl ⟨_, _, _, declared, found⟩))
    | reference listed => exact .inl (.inl (.inr (.inl ⟨_, listed, found⟩)))
    | matcher listed => exact .inl (.inl (.inr (.inr (.inl ⟨_, listed, found⟩))))
    | exclusion listed => exact .inl (.inl (.inr (.inr (.inr (.inl ⟨_, listed, found⟩)))))
    | noCatalog empty some =>
      exact .inl (.inl (.inr (.inr (.inr (.inr ⟨⟨empty, some⟩, List.mem_singleton.mp found⟩)))))
    | noRules empty => exact .inl (.inr (.inl ⟨empty, List.mem_singleton.mp found⟩))
    | rule declared => exact .inl (.inr (.inr ⟨_, _, _, declared, found⟩))
    | resolved listed => exact .inr ⟨_, listed, List.mem_append.mp found⟩

/-- Every finding names its place. -/
theorem text_of_mem_findings (member : finding ∈ config.findings) :
    ∃ location, finding.location = some location ∧ finding.text = location ++ ": " ++ finding.message := by
  obtain ⟨location, checks, part, inside, found⟩ := mem_findings_iff_part.mp member
  have named := (inside.foundAt finding found).1
  refine ⟨location, named, ?_⟩
  rw [Finding.text, named]

end Linkage.Config
