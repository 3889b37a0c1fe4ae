import Linkage.Json.Reading

/-! Writing a configuration as a tree of data, in which values that reading would fill in are mostly left out. -/

namespace Linkage.Config

/-- A field, unless its value is the one that is left out. -/
def unlessDefault (name : String) (isDefault : Bool) (value : Json) : List (String × Json) :=
  if isDefault then [] else [(name, value)]

def optionalText (name : String) : Option String → List (String × Json)
  | none => []
  | some text => [(name, .string text)]

def textList (name : String) (items : List String) : List (String × Json) :=
  unlessDefault name items.isEmpty (Json.strings items)

def Settings.toJson (settings : Settings) : Json :=
  .object ([("default_output", .string settings.defaultOutput.word)] ++
    unlessDefault "parallel" (!settings.parallel) (.boolean settings.parallel) ++
    unlessDefault "max_parallel" (settings.maxParallel = 4) (.ofNat settings.maxParallel.toNat) ++
    unlessDefault "repository_url" (settings.repositoryUrl = defaultRepositoryUrl) (.string settings.repositoryUrl) ++
    unlessDefault "cache_ttl_secs" (settings.cacheTtlSeconds = 86400) (.ofNat settings.cacheTtlSeconds.toNat))

def Instrumentation.toJson (instrumentation : Instrumentation) : Json :=
  .object (textList "helper_prefixes" instrumentation.helperPrefixes ++
    (instrumentation.bootstrapPrefixes.elim [] fun starts => [("bootstrap_prefixes", Json.strings starts)]) ++
    textList "class_loader_matcher" instrumentation.classLoaderMatcher ++
    textList "exclusions" instrumentation.exclusions ++
    [("references", Json.strings instrumentation.references)])

def RuleEntry.toJson (entry : RuleEntry) : Json :=
  .object (optionalText "name" entry.name ++
    [("group", .string entry.group), ("module", .string entry.module), ("versions", .string entry.versions)] ++
    textList "extra_dependencies" entry.extraDependencies ++
    textList "excluded_dependencies" entry.excludedDependencies ++
    [("assert", .string entry.assertion.word)] ++
    unlessDefault "assert_inverse" (!entry.assertInverse) (.boolean entry.assertInverse) ++
    textList "skip_versions" entry.skipVersions)

def SymbolEntry.toJson (entry : SymbolEntry) : Json :=
  .object ([("symbol", .string entry.symbol)] ++ optionalText "since" entry.since ++ optionalText "until" entry.until)

def CatalogEntry.toJson (entry : CatalogEntry) : Json :=
  .object ([("artifact", .string entry.artifact)] ++ textList "releases" entry.releases ++
    textList "dependencies" entry.dependencies ++ [("symbols", .list (entry.symbols.map SymbolEntry.toJson))])

def toJson (config : Config) : Json :=
  .object (optionalText "name" config.name ++
    [("settings", config.settings.toJson), ("instrumentation", config.instrumentation.toJson),
      ("rules", .list (config.rules.map RuleEntry.toJson))] ++
    unlessDefault "catalog" config.catalog.isEmpty (.list (config.catalog.map CatalogEntry.toJson)) ++
    unlessDefault "resolved" config.resolved.isEmpty
      (.object (config.resolved.entries.map fun (key, version) => (key, .string version))))

def ofJson? (value : Json) : Option Config :=
  Json.reading.config value

end Linkage.Config
