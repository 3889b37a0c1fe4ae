import Linkage.Config.Basic
import Linkage.Json.Writer

/-! The JSON Schema of configurations, by which editors complete and check them. -/

namespace Linkage.Config.Schema

/-- The fields of a schema, in the order in which they are written. -/
abbrev Fields := List (String × Json)

/-! ### Shapes -/

def ofType (name : String) : Fields :=
  [("type", .string name)]

def orNull (name : String) : Fields :=
  [("type", Json.strings [name, "null"])]

def natural (format : String) : Fields :=
  ofType "integer" ++ [("format", .string format), ("minimum", .ofNat 0)]

def defined (name : String) : Fields :=
  [("$ref", .string ("#/$defs/" ++ name))]

def items (shape : Fields) : Fields :=
  [("items", .object shape)]

def listOf (shape : Fields) : Fields :=
  ofType "array" ++ items shape

def texts : Fields :=
  listOf (ofType "string")

def byDefault (value : Json) : Fields :=
  [("default", value)]

/-- A list that is shown even when it is empty. -/
def shownList (shape : Fields) : Fields :=
  ofType "array" ++ byDefault (.list []) ++ items shape

def shownText : Fields :=
  ofType "string" ++ byDefault (.string "")

/-- A shape with what it is for. -/
def about (description : String) (shape : Fields) : Fields :=
  ("description", .string description) :: shape

/-- A structure with the shapes of its fields, which stand in the order of their names. -/
def record (properties : List (String × Fields)) : Fields :=
  ofType "object" ++ [("properties", .object (properties.map fun (name, shape) => (name, .object shape)))]

/-! ### The parts of a configuration -/

def expectation : Fields :=
  about "What a rule expects from versions inside its range." [("oneOf", .list [
    .object (about "Every referenced symbol must resolve." (ofType "string") ++
      [("const", .string Expectation.pass.word)]),
    .object (about "At least one referenced symbol must be missing." (ofType "string") ++
      [("const", .string Expectation.fail.word)])])]

def catalogEntry : Fields :=
  about "One artifact in the catalog" (record [
    ("artifact", about "`group:module`" shownText),
    ("dependencies", about "Transitive dependencies (`group:module:version`)" texts),
    ("releases", about "Known releases" texts),
    ("symbols", about "Provided symbols" (shownList (defined "CatalogSymbol")))])

def catalogSymbol : Fields :=
  about "A symbol provided by a catalog artifact" (record [
    ("since", about "First version providing it (inclusive)" (orNull "string")),
    ("symbol", about "The symbol" (ofType "string")),
    ("until", about "First version no longer providing it (exclusive)" (orNull "string"))]) ++
    [("required", Json.strings ["symbol"])]

def instrumentation : Fields :=
  about "The symbol surface of the instrumentation module" (record [
    ("bootstrap_prefixes", about "Package prefixes that are always resolvable (defaults to `java.` and `javax.`)"
      (orNull "array" ++ items (ofType "string"))),
    ("class_loader_matcher", about "Classes that must be present for the instrumentation to apply" texts),
    ("exclusions", about "Artifacts kept off the classpath for every rule" texts),
    ("helper_prefixes", about "Package prefixes of classes the agent injects itself" texts),
    ("references", about "Referenced symbols: `Class`, `Class#method(params)`, or `Class#field`"
      (shownList (ofType "string")))])

def outputMode : Fields :=
  about "Output verbosity mode" (ofType "string" ++
    [("enum", Json.strings (([.verbose, .normal, .quiet, .silent] : List OutputMode).map (·.word)))])

def ruleEntry : Fields :=
  about "A compatibility rule" (record [
    ("assert", about "Whether versions in range must pass or fail"
      (defined "Assertion" ++ byDefault (.string Expectation.pass.word))),
    ("assert_inverse", about "Also check known versions outside the range with the opposite expectation"
      (ofType "boolean")),
    ("excluded_dependencies", about "Artifacts (`group:module`) kept off the classpath" texts),
    ("extra_dependencies", about "Artifacts (`group:module:version`) added to the classpath" texts),
    ("group", about "Maven group id" shownText),
    ("module", about "Maven artifact id" shownText),
    ("name", about "Display name" (orNull "string")),
    ("skip_versions", about "Versions never evaluated" texts),
    ("versions", about "Supported versions in Maven range notation, e.g. `[1.0.0,)`" shownText)])

def settings : Fields :=
  about "Global settings" (record [
    ("cache_ttl_secs", about "How long fetched version listings stay fresh" (natural "uint64")),
    ("default_output", about "Default output mode: verbose, normal, quiet, silent"
      (defined "OutputMode" ++ byDefault (.string OutputMode.normal.word))),
    ("max_parallel", about "Maximum concurrent rule evaluations" (natural "uint")),
    ("parallel", about "Evaluate rules on worker threads" (ofType "boolean")),
    ("repository_url", about "Maven repository used by `matrix --fetch`" (ofType "string"))])

def definitions : List (String × Fields) :=
  [("Assertion", expectation), ("CatalogEntry", catalogEntry), ("CatalogSymbol", catalogSymbol),
    ("InstrumentationConfig", instrumentation), ("OutputMode", outputMode), ("RuleConfig", ruleEntry),
    ("Settings", settings)]

def root : Json :=
  .object ([("$schema", .string "https://json-schema.org/draft/2020-12/schema"), ("title", .string "MuzzleConfig")] ++
    about "Root configuration structure for `.muzzle/config.yml`" (record [
      ("catalog", about "Declared API surfaces of libraries" (listOf (defined "CatalogEntry"))),
      ("instrumentation", about "What the instrumentation code references"
        (defined "InstrumentationConfig" ++ byDefault (.object [("references", .list [])]))),
      ("name", about "Project name (for display purposes)" (orNull "string")),
      ("resolved", about "Resolved dependency graph (`group:module` to version)"
        (ofType "object" ++ [("additionalProperties", .object (ofType "string"))])),
      ("rules", about "Compatibility rules, evaluated in declaration order" (shownList (defined "RuleConfig"))),
      ("settings", about "Global settings" (defined "Settings" ++
        byDefault (.object [("default_output", .string OutputMode.normal.word)])))]) ++
    [("$defs", .object (definitions.map fun (name, shape) => (name, .object shape)))])

def text : String :=
  root.pretty

end Linkage.Config.Schema
