import Linkage.ModuleMap
import Linkage.Version

/-! The versions that one build has resolved. -/

namespace Linkage

abbrev DependencySet := ModuleMap Version

namespace DependencySet

def single (key : ModuleKey) (version : Version) : DependencySet :=
  [(key, version)]

/-- Reads keys and versions; a later entry replaces an earlier one with the same key. -/
def parse (entries : List (String × String)) : Except Error DependencySet := do
  let entries ← entries.mapM fun (key, version) => do
    let key ← ModuleKey.parse key
    let version ← Version.parse version
    return (key, version)
  return ModuleMap.ofList entries

/-- Reads `group:name=version` or `group:name:version`. -/
def parseAssignment (value : String) : Except Error (ModuleKey × Version) := do
  let (key, version) ← match Text.cut '=' value.toList with
    | some (key, version) => pure (Text.trim key, Text.trim version)
    | none =>
      match Text.cutLast ':' value.toList with
      | some (key, version) =>
        if ':' ∈ key then pure (key, version)
        else throw (.invalidCoordinate value "expected group:module=version")
      | none => throw (.invalidCoordinate value "expected group:module=version")
  let key ← ModuleKey.parse (.ofList key)
  let version ← Version.parse (.ofList version)
  return (key, version)

def require (dependencies : DependencySet) (key : ModuleKey) : Except Error Version :=
  match dependencies.find? key with
  | some version => return version
  | none => throw (.unresolvedModule key.text)

end DependencySet
end Linkage
