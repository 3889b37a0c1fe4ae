import Linkage.Config.Basic

/-! Reading a configuration from a tree of data. The shape of the configuration is told once; a notation tells how its
trees answer the questions that reading asks. -/

namespace Linkage

/-- The questions that typed reading asks about a tree. Each fails when the tree is of another kind. -/
structure Reading (m : Type → Type) (ν : Type) where
  refuse : {α : Type} → m α
  text : ν → m String
  boolean : ν → m Bool
  /-- A whole number that fits a 64-bit word. -/
  natural : ν → m UInt64
  /-- A word out of a few. -/
  word : ν → m String
  /-- An optional value, unless it is left out. -/
  present? : ν → m (Option ν)
  items : ν → m (List ν)
  entries : ν → m (List (String × ν))
  /-- The fields of a structure with the given field names. -/
  fields : List String → ν → m (List (String × ν))

namespace Reading
variable {m : Type → Type} [Monad m] {ν : Type} (reading : Reading m ν)

/-- The value of a field, or the default when the field is left out. -/
def field {α : Type} (fields : List (String × ν)) (name : String) (default : α) (read : ν → m α) : m α :=
  match fields.lookup name with
  | none => return default
  | some value => read value

def required {α : Type} (fields : List (String × ν)) (name : String) (read : ν → m α) : m α :=
  match fields.lookup name with
  | none => reading.refuse
  | some value => read value

def optional {α : Type} (read : ν → m α) (value : ν) : m (Option α) := do
  match ← reading.present? value with
  | none => return none
  | some value => return some (← read value)

def listOf {α : Type} (read : ν → m α) (value : ν) : m (List α) := do
  (← reading.items value).mapM read

def known {α : Type} : Option α → m α
  | some value => return value
  | none => reading.refuse

def texts (value : ν) : m (List String) :=
  reading.listOf reading.text value

def textMap (value : ν) : m TextMap := do
  let entries ← (← reading.entries value).mapM fun (key, value) => do return (key, ← reading.text value)
  return TextMap.ofList entries

def outputMode (value : ν) : m OutputMode := do
  reading.known (OutputMode.ofWord? (← reading.word value))

def expectation (value : ν) : m Expectation := do
  reading.known (Expectation.ofWord? (← reading.word value))

def settings (value : ν) : m Config.Settings := do
  let fields ← reading.fields ["default_output", "parallel", "max_parallel", "repository_url", "cache_ttl_secs"] value
  return { defaultOutput := ← field fields "default_output" .normal reading.outputMode
           parallel := ← field fields "parallel" false reading.boolean
           maxParallel := ← field fields "max_parallel" 4 reading.natural
           repositoryUrl := ← field fields "repository_url" Config.defaultRepositoryUrl reading.text
           cacheTtlSeconds := ← field fields "cache_ttl_secs" 86400 reading.natural }

def instrumentation (value : ν) : m Config.Instrumentation := do
  let fields ← reading.fields
    ["helper_prefixes", "bootstrap_prefixes", "class_loader_matcher", "exclusions", "references"] value
  return { helperPrefixes := ← field fields "helper_prefixes" [] reading.texts
           bootstrapPrefixes := ← field fields "bootstrap_prefixes" none (reading.optional reading.texts)
           classLoaderMatcher := ← field fields "class_loader_matcher" [] reading.texts
           exclusions := ← field fields "exclusions" [] reading.texts
           references := ← field fields "references" [] reading.texts }

def ruleEntry (value : ν) : m Config.RuleEntry := do
  let fields ← reading.fields ["name", "group", "module", "versions", "extra_dependencies", "excluded_dependencies",
    "assert", "assert_inverse", "skip_versions"] value
  return { name := ← field fields "name" none (reading.optional reading.text)
           group := ← field fields "group" "" reading.text
           module := ← field fields "module" "" reading.text
           versions := ← field fields "versions" "" reading.text
           extraDependencies := ← field fields "extra_dependencies" [] reading.texts
           excludedDependencies := ← field fields "excluded_dependencies" [] reading.texts
           assertion := ← field fields "assert" .pass reading.expectation
           assertInverse := ← field fields "assert_inverse" false reading.boolean
           skipVersions := ← field fields "skip_versions" [] reading.texts }

def symbolEntry (value : ν) : m Config.SymbolEntry := do
  let fields ← reading.fields ["symbol", "since", "until"] value
  return { symbol := ← reading.required fields "symbol" reading.text
           since := ← field fields "since" none (reading.optional reading.text)
           «until» := ← field fields "until" none (reading.optional reading.text) }

def catalogEntry (value : ν) : m Config.CatalogEntry := do
  let fields ← reading.fields ["artifact", "releases", "dependencies", "symbols"] value
  return { artifact := ← field fields "artifact" "" reading.text
           releases := ← field fields "releases" [] reading.texts
           dependencies := ← field fields "dependencies" [] reading.texts
           symbols := ← field fields "symbols" [] (reading.listOf reading.symbolEntry) }

def config (value : ν) : m Config := do
  let fields ← reading.fields ["name", "settings", "instrumentation", "rules", "catalog", "resolved"] value
  return { name := ← field fields "name" none (reading.optional reading.text)
           settings := ← field fields "settings" {} reading.settings
           instrumentation := ← field fields "instrumentation" {} reading.instrumentation
           rules := ← field fields "rules" [] (reading.listOf reading.ruleEntry)
           catalog := ← field fields "catalog" [] (reading.listOf reading.catalogEntry)
           resolved := ← field fields "resolved" ∅ reading.textMap }

/-- A text that a parser accepts. -/
def parsed {α : Type} (parse : String → Except Error α) (value : ν) : m α := do
  reading.known (parse (← reading.text value)).toOption

/-- A surface is written with all its fields, and with symbols that can be read. -/
def surface (value : ν) : m Surface := do
  let fields ← reading.fields ["references", "helper_prefixes", "bootstrap_prefixes", "class_loader_matcher"] value
  return { references := ← reading.required fields "references" (reading.listOf (reading.parsed Symbol.parse))
           helperPrefixes := ← reading.required fields "helper_prefixes" reading.texts
           bootstrapPrefixes := ← reading.required fields "bootstrap_prefixes" reading.texts
           matcherClasses := ← reading.required fields "class_loader_matcher" reading.texts }

end Reading
end Linkage
