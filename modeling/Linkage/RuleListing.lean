import Linkage.Verification

/-! Listing the rules of a project, as a table or as data. -/

namespace Linkage.RuleListing
open Session

/-- What a rule expects, with a mark if the versions outside its range are checked as well. -/
def expectationText (rule : Rule) : String :=
  rule.expectation.word ++ if rule.assertInverse then " (+inverse)" else ""

def row (index : Nat) (rule : Rule) : List String :=
  [toString index, rule.label, rule.key.text, rule.versions.text, expectationText rule,
    toString rule.extraDependencies.length]

/-- Rules with their places in the order of registration, counted from zero. -/
def table (rules : List Rule) : Table :=
  (Verifier.numbered row 0 rules).foldl Table.addRow
    { headers := ["#", "Rule", "Module", "Versions", "Assert", "Extras"] }

/-- One rule as data; the fields are in the order of their names. -/
def ruleJson (index : Nat) (rule : Rule) : Json :=
  .object [("assert", .string rule.expectation.word), ("assert_inverse", .boolean rule.assertInverse),
    ("excluded_dependencies", Json.strings (rule.excludedDependencies.map (·.text))),
    ("extra_dependencies", Json.strings (rule.extraDependencies.map (·.text))), ("id", .ofNat index),
    ("module", .string rule.key.text), ("name", .string rule.label),
    ("skip_versions", Json.strings (rule.skipVersions.map (·.text))), ("versions", .string rule.versions.text)]

def json (rules : List Rule) : Json :=
  .list (Verifier.numbered ruleJson 0 rules)

def list (project : Project) (asJson : Bool) : Action Unit := do
  let config ← project.loadValid (!asJson)
  let verifier ← require config.verifier
  if asJson then tell .message (json verifier.rules).pretty
  else
    let table := table verifier.rules
    Verification.tellTable table
    tell .message (toString table.rows.length ++ " rule(s)")

end Linkage.RuleListing
