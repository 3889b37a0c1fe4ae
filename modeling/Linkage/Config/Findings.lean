import Linkage.Config.Basic
import Linkage.Diagnostic

/-! Checking a configuration. Every problem is collected, so that one run shows all that needs mending. Gaps in the
catalog are warnings: verification still runs and reports the missing symbols. -/

namespace Linkage.Config

structure Finding where
  check : String
  message : String
  severity : Severity
  /-- The place in the configuration, such as `rules[1]`. -/
  location : Option String
  deriving DecidableEq, Repr

namespace Finding

def error (check location message : String) : Finding :=
  ⟨check, message, .error, some location⟩

def warning (check location message : String) : Finding :=
  ⟨check, message, .warning, some location⟩

def isError (finding : Finding) : Bool :=
  finding.severity = .error

def text (finding : Finding) : String :=
  match finding.location with
  | some location => location ++ ": " ++ finding.message
  | none => finding.message

def diagnostic (finding : Finding) : Diagnostic :=
  { code := .config finding.check, severity := finding.severity, message := finding.text }

def ofRefusal {α : Type} (check location : String) : Except Error α → List Finding
  | .ok _ => []
  | .error reason => [error check location reason.message]

end Finding

def checkVersion (location text : String) : List Finding :=
  Finding.ofRefusal "invalid-version" location (Version.parse text)

def checkOptionalVersion (location : String) (text : Option String) : List Finding :=
  text.toList.flatMap (checkVersion location)

/-- A window that ends where it starts, or before, holds no version. -/
def checkWindow (location : String) (entry : SymbolEntry) : List Finding :=
  match entry.since.map Version.parse, entry.until.map Version.parse with
  | some (.ok since), some (.ok limit) =>
    if since.below limit then []
    else [.error "empty-symbol-window" location
      ("Symbol '" ++ entry.symbol ++ "' has since " ++ since.text ++ " not before until " ++ limit.text)]
  | _, _ => []

def checkSymbolEntry (location : String) (entry : SymbolEntry) : List Finding :=
  Finding.ofRefusal "invalid-symbol" location (Symbol.parse entry.symbol) ++
    checkOptionalVersion location entry.since ++ checkOptionalVersion location entry.until ++
    checkWindow location entry

/-- The findings of one catalog entry, after the libraries that were declared before. -/
def checkCatalogEntry (declared : List ModuleKey) (location : String) (entry : CatalogEntry) : List Finding :=
  (match ModuleKey.parse entry.artifact with
    | .ok key =>
      if key ∈ declared then
        [.error "duplicate-artifact" location ("Artifact '" ++ key.text ++ "' is declared more than once")]
      else []
    | .error reason => [.error "invalid-module" location reason.message]) ++
    entry.releases.flatMap (checkVersion location) ++
    entry.dependencies.flatMap (fun text => Finding.ofRefusal "invalid-coordinate" location (Coordinate.parse text)) ++
    entry.symbols.flatMap (checkSymbolEntry location)

/-- The keys of catalog entries, those that can be read. -/
def declaredKeys (entries : List CatalogEntry) : List ModuleKey :=
  entries.filterMap fun entry => (ModuleKey.parse entry.artifact).toOption

def checkCatalogFrom (before : List CatalogEntry) : List CatalogEntry → List Finding
  | [] => []
  | entry :: rest =>
    checkCatalogEntry (declaredKeys before) ("catalog[" ++ toString before.length ++ "]") entry ++
      checkCatalogFrom (before ++ [entry]) rest

/-- The classes that some library provides at some version. -/
def providedOwners (config : Config) : List String :=
  (config.catalog.flatMap (·.symbols)).filterMap fun entry =>
    (Symbol.parse entry.symbol).toOption.map (·.owner)

/-- The prefixes whose classes are not looked up. -/
def Instrumentation.ignoredPrefixes (instrumentation : Instrumentation) : List String :=
  instrumentation.helperPrefixes ++ instrumentation.bootstrapPrefixes.getD Surface.defaultBootstrapPrefixes

def checkReference (config : Config) (reference : String) : List Finding :=
  let location := "instrumentation.references"
  match Symbol.parse reference with
  | .error reason => [.error "invalid-symbol" location reason.message]
  | .ok symbol =>
    let ignored := config.instrumentation.ignoredPrefixes.any fun start =>
      start.toList.isPrefixOf symbol.owner.toList
    if ignored || symbol.owner ∈ config.providedOwners then []
    else [.warning "unknown-reference" location ("No catalog artifact provides class '" ++ symbol.owner ++ "'")]

def checkMatcher (entry : String) : List Finding :=
  let location := "instrumentation.class_loader_matcher"
  match Symbol.parse entry with
  | .ok (.ofClass _) => []
  | .ok other =>
    [.error "invalid-symbol" location ("'" ++ other.text ++ "' is a " ++ other.kind ++ ", expected a class")]
  | .error reason => [.error "invalid-symbol" location reason.message]

def checkInstrumentation (config : Config) : List Finding :=
  let instrumentation := config.instrumentation
  instrumentation.references.flatMap config.checkReference ++
    instrumentation.classLoaderMatcher.flatMap checkMatcher ++
    instrumentation.exclusions.flatMap
      (fun text => Finding.ofRefusal "invalid-module" "instrumentation.exclusions" (ModuleKey.parse text)) ++
    (if (declaredKeys config.catalog).isEmpty && !instrumentation.references.isEmpty then
      [.warning "empty-catalog" "catalog" "The catalog is empty; every referenced symbol will be missing"]
    else [])

def checkRuleKey (config : Config) (location : String) (entry : RuleEntry) : List Finding :=
  match ModuleKey.ofParts entry.group entry.module with
  | .error reason => [.error "invalid-module" location reason.message]
  | .ok key =>
    let cataloged := declaredKeys config.catalog
    let excluded := (config.instrumentation.exclusions ++ entry.excludedDependencies).any fun text =>
      (ModuleKey.parse text).toOption = some key
    (if cataloged.isEmpty || key ∈ cataloged then []
      else [.warning "uncataloged-module" location ("Module '" ++ key.text ++ "' is not in the catalog")]) ++
      (if excluded then [.error "self-exclusion" location ("Rule for '" ++ key.text ++ "' excludes its own module")]
      else [])

def checkDuplicate (before : List RuleEntry) (location : String) (entry : RuleEntry) : List Finding :=
  match entry.toRule with
  -- What is wrong with the parts of an entry is found by the other checks.
  | .error _ => []
  | .ok rule =>
    if before.any fun other => other.toRule.toOption.any (·.same rule) then
      [.error "duplicate-rule" location ("Rule '" ++ rule.text ++ "' is declared more than once")]
    else []

/-- Checks a rule after the ones in `before`. -/
def checkRule (config : Config) (before : List RuleEntry) (location : String) (entry : RuleEntry) : List Finding :=
  config.checkRuleKey location entry ++
    Finding.ofRefusal "malformed-range" location (VersionRange.parse entry.versions) ++
    entry.extraDependencies.flatMap (fun text => Finding.ofRefusal "invalid-coordinate" location (Coordinate.parse text)) ++
    entry.excludedDependencies.flatMap (fun text => Finding.ofRefusal "invalid-module" location (ModuleKey.parse text)) ++
    entry.skipVersions.flatMap (checkVersion location) ++
    checkDuplicate before location entry

def checkRulesFrom (config : Config) (before : List RuleEntry) : List RuleEntry → List Finding
  | [] => []
  | entry :: rest =>
    config.checkRule before ("rules[" ++ toString before.length ++ "]") entry ++
      checkRulesFrom config (before ++ [entry]) rest

def checkRules (config : Config) : List Finding :=
  (if config.rules.isEmpty then [.error "no-rules" "rules" "At least one rule is required"] else []) ++
    checkRulesFrom config [] config.rules

def checkResolved (config : Config) : List Finding :=
  config.resolved.entries.flatMap fun (key, version) =>
    let location := "resolved." ++ key
    Finding.ofRefusal "invalid-module" location (ModuleKey.parse key) ++ checkVersion location version

/-- All findings: of the catalog, the instrumentation, the rules and the resolved versions. -/
def findings (config : Config) : List Finding :=
  checkCatalogFrom [] config.catalog ++ config.checkInstrumentation ++ config.checkRules ++ config.checkResolved

/-- Refuses a configuration with errors, and tells all of them; warnings pass. -/
def validate (config : Config) : Except Error Unit :=
  match config.findings.filter (·.isError) with
  | [] => return
  | errors => throw (.configInvalid (Text.join "; " (errors.map (·.text))))

end Linkage.Config
