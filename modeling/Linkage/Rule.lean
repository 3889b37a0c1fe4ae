import Linkage.Coordinate
import Linkage.ModuleMap
import Linkage.VersionRange

/-! Compatibility rules: a claim that instrumentation code links against every version of one library in a range, with
some extra libraries present and some kept away. -/

namespace Linkage

/-- What a rule expects of the versions in its range: every reference resolves, or some reference does not. -/
inductive Expectation where
  | pass
  | fail
  deriving DecidableEq, Repr, Inhabited

namespace Expectation

def inverted : Expectation → Expectation
  | pass => fail
  | fail => pass

def word : Expectation → String
  | pass => "pass"
  | fail => "fail"

def ofWord? : String → Option Expectation
  | "pass" => some pass
  | "fail" => some fail
  | _ => none

end Expectation

structure Rule where
  name : Option String := none
  key : ModuleKey
  versions : VersionRange
  extraDependencies : List Coordinate := []
  excludedDependencies : ModuleSet := []
  expectation : Expectation := .pass
  /-- Whether the versions outside the range are checked too, with the opposite expectation. -/
  assertInverse : Bool := false
  /-- Versions that are never evaluated. -/
  skipVersions : List Version := []
  deriving DecidableEq, Repr

namespace Rule

/-- A rule that expects to pass. The key is looked at first, then the range, then the extra dependencies. -/
def parse (group name versions : String) (extraDependencies : List String) : Except Error Rule := do
  let key ← ModuleKey.ofParts group name
  let versions ← VersionRange.parse versions
  let extraDependencies ← extraDependencies.mapM Coordinate.parse
  return { key, versions, extraDependencies }

/-- The name, or else the key. -/
def label (rule : Rule) : String :=
  rule.name.getD rule.key.text

def skips (rule : Rule) (version : Version) : Bool :=
  rule.skipVersions.any (·.same version)

def text (rule : Rule) : String :=
  rule.expectation.word ++ " " ++ rule.key.text ++ " " ++ rule.versions.text

instance : ToString Rule := ⟨text⟩

/-- Whether two lists agree position by position. -/
def agree {α : Type u} (same : α → α → Bool) : List α → List α → Bool
  | [], [] => true
  | a :: as, b :: bs => same a b && agree same as bs
  | _, _ => false

/-- Equality of rules up to the spelling of versions. -/
def same (a b : Rule) : Bool :=
  a.name = b.name && a.key = b.key && a.versions.same b.versions &&
    agree Coordinate.same a.extraDependencies b.extraDependencies &&
    a.excludedDependencies = b.excludedDependencies && a.expectation = b.expectation &&
    a.assertInverse = b.assertInverse && agree Version.same a.skipVersions b.skipVersions

end Rule

/-- The number under which a rule is shown, counted from one. -/
def ruleNumber (index : Nat) : String :=
  "#" ++ toString (index + 1)

end Linkage
