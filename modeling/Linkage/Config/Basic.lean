import Linkage.OutputMode
import Linkage.TextMap
import Linkage.Verifier

/-! The configuration of a project. It holds texts as they were written; the functions here read them as versions,
keys and symbols, and build the verifier that the configuration describes. -/

namespace Linkage.Config

def defaultRepositoryUrl : String := "https://repo1.maven.org/maven2"

structure Settings where
  defaultOutput : OutputMode := .normal
  parallel : Bool := false
  maxParallel : UInt64 := 4
  repositoryUrl : String := defaultRepositoryUrl
  cacheTtlSeconds : UInt64 := 86400
  deriving DecidableEq, Repr

structure Instrumentation where
  helperPrefixes : List String := []
  /-- When it is left out, the default prefixes are meant. -/
  bootstrapPrefixes : Option (List String) := none
  classLoaderMatcher : List String := []
  exclusions : List String := []
  references : List String := []
  deriving DecidableEq, Repr

structure RuleEntry where
  name : Option String := none
  group : String := ""
  module : String := ""
  versions : String := ""
  extraDependencies : List String := []
  excludedDependencies : List String := []
  assertion : Expectation := .pass
  assertInverse : Bool := false
  skipVersions : List String := []
  deriving DecidableEq, Repr

structure SymbolEntry where
  symbol : String
  since : Option String := none
  «until» : Option String := none
  deriving DecidableEq, Repr

structure CatalogEntry where
  artifact : String := ""
  releases : List String := []
  dependencies : List String := []
  symbols : List SymbolEntry := []
  deriving DecidableEq, Repr

end Config

structure Config where
  name : Option String := none
  settings : Config.Settings := {}
  instrumentation : Config.Instrumentation := {}
  rules : List Config.RuleEntry := []
  catalog : List Config.CatalogEntry := []
  /-- The resolved versions of the project, by key. -/
  resolved : TextMap := ∅
  deriving DecidableEq, Repr

namespace Config

/-- A matcher entry has to be a class. -/
def readMatcher (entry : String) : Except Error String := do
  match ← Symbol.parse entry with
  | .ofClass name => return name
  | other => throw (.invalidSymbol other.text "class-loader matcher entries must be classes")

/-- The references are read first, then the matcher classes. -/
def Instrumentation.surface (instrumentation : Instrumentation) : Except Error Surface := do
  let references ← instrumentation.references.mapM Symbol.parse
  let matcherClasses ← instrumentation.classLoaderMatcher.mapM readMatcher
  return { references
           helperPrefixes := instrumentation.helperPrefixes
           bootstrapPrefixes := instrumentation.bootstrapPrefixes.getD Surface.defaultBootstrapPrefixes
           matcherClasses }

def Instrumentation.exclusionKeys (instrumentation : Instrumentation) : Except Error ModuleSet := do
  return ModuleSet.ofList (← instrumentation.exclusions.mapM ModuleKey.parse)

/-- Key, range, extra dependencies, excluded dependencies and skipped versions are read in this order. -/
def RuleEntry.toRule (entry : RuleEntry) : Except Error Rule := do
  let key ← ModuleKey.ofParts entry.group entry.module
  let versions ← VersionRange.parse entry.versions
  let extraDependencies ← entry.extraDependencies.mapM Coordinate.parse
  let excludedDependencies ← entry.excludedDependencies.mapM ModuleKey.parse
  let skipVersions ← entry.skipVersions.mapM Version.parse
  return { name := entry.name
           key, versions, extraDependencies
           excludedDependencies := ModuleSet.ofList excludedDependencies
           expectation := entry.assertion
           assertInverse := entry.assertInverse
           skipVersions := Ascending.ofList Version.compare skipVersions }

def readOptional {α : Type} (parse : String → Except Error α) : Option String → Except Error (Option α)
  | none => return none
  | some text => return some (← parse text)

def SymbolEntry.toProvidedSymbol (entry : SymbolEntry) : Except Error ProvidedSymbol := do
  let symbol ← Symbol.parse entry.symbol
  let since ← readOptional Version.parse entry.since
  let limit ← readOptional Version.parse entry.until
  return ⟨symbol, since, limit⟩

def CatalogEntry.toArtifact (entry : CatalogEntry) : Except Error Artifact := do
  let key ← ModuleKey.parse entry.artifact
  let releases ← entry.releases.mapM Version.parse
  let dependencies ← entry.dependencies.mapM Coordinate.parse
  let symbols ← entry.symbols.mapM SymbolEntry.toProvidedSymbol
  return { key, releases := Ascending.ofList Version.compare releases, dependencies, symbols }

/-- Later entries replace earlier ones of the same library. -/
def readCatalog (entries : List CatalogEntry) : Except Error Catalog := do
  return (← entries.mapM CatalogEntry.toArtifact).foldl Catalog.insert {}

def toCatalog (config : Config) : Except Error Catalog :=
  readCatalog config.catalog

def dependencySet (config : Config) : Except Error DependencySet :=
  DependencySet.parse config.resolved.entries

def registerRules (verifier : Verifier) (entries : List RuleEntry) : Except Error Verifier :=
  entries.foldlM (fun verifier entry => do return (← verifier.register (← entry.toRule)).2) verifier

/-- The verifier that the configuration describes: surface, catalog, exclusions and rules, read in this order. -/
def verifier (config : Config) : Except Error Verifier := do
  let surface ← config.instrumentation.surface
  let catalog ← config.toCatalog
  let exclusions ← config.instrumentation.exclusionKeys
  let start : Verifier := { surface, catalog, exclusions }
  let start := if config.settings.parallel then start.withWorkers config.settings.maxParallel.toNat else start
  registerRules start config.rules

end Config
end Linkage
