import Linkage.Diagnostic.Json

/-! A report in the format SARIF 2.1.0. The findings have no place in a file; rule, library and version are
properties of each. -/

namespace Linkage.Diagnostic.Sarif

def schemaUrl : String :=
  "https://raw.githubusercontent.com/oasis-tcs/sarif-spec/master/Schemata/sarif-schema-2.1.0.json"

def toolName : String := "muzzle"
def toolVersion : String := "0.4.0"

def level : Severity → String
  | .hint => "note"
  | .warning => "warning"
  | .error => "error"

/-- The kinds of diagnostics in the order of their first use, each name once. -/
def rules (diagnostics : List Diagnostic) : List Code :=
  diagnostics.foldl (fun codes diagnostic =>
    if codes.any (·.text = diagnostic.code.text) then codes else codes ++ [diagnostic.code]) []

def message (text : String) : Json :=
  .object [("text", .string text)]

def rule (code : Code) : Json :=
  .object [("id", .string code.text), ("shortDescription", message code.description)]

/-- The properties in alphabetical order. -/
def properties (diagnostic : Diagnostic) : List (String × Json) :=
  jsonField "module" diagnostic.module ++ jsonField "rule" diagnostic.rule ++ jsonField "version" diagnostic.version

def result (diagnostic : Diagnostic) : Json :=
  let text := match diagnostic.suggestion with
    | some help => diagnostic.message ++ " (" ++ help ++ ")"
    | none => diagnostic.message
  let properties := properties diagnostic
  .object ([("ruleId", .string diagnostic.code.text), ("level", .string (level diagnostic.severity)),
      ("message", message text)] ++
    (if properties.isEmpty then [] else [("properties", .object properties)]))

def log (diagnostics : List Diagnostic) (summary : Summary) : Json :=
  let driver := Json.object [("name", .string toolName), ("version", .string toolVersion),
    ("rules", .list ((rules diagnostics).map rule))]
  let fingerprint := jsonField "fingerprint" summary.fingerprint
  let run := Json.object ([("tool", .object [("driver", driver)]), ("results", .list (diagnostics.map result))] ++
    (if fingerprint.isEmpty then [] else [("properties", .object fingerprint)]))
  .object [("$schema", .string schemaUrl), ("version", .string "2.1.0"), ("runs", .list [run])]

end Sarif

def sarif (diagnostics : List Diagnostic) (summary : Summary) : String :=
  (Sarif.log diagnostics summary).pretty ++ "\n"

end Linkage.Diagnostic
