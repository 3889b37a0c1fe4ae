import Linkage.ModuleKey
import Linkage.Version

/-! A library pinned to a version, written `group:name:version`. -/

namespace Linkage

structure Coordinate where
  key : ModuleKey
  version : Version
  deriving DecidableEq, Repr

namespace Coordinate

/-- The key is looked at before the version. -/
def parse (value : String) : Except Error Coordinate :=
  match Text.fields ':' (Text.trim value.toList) with
  | [group, name, version] => do
    let key ← ModuleKey.ofParts (.ofList group) (.ofList name)
    let version ← (Version.parse (.ofList version)).mapError fun error => .invalidCoordinate value error.message
    return ⟨key, version⟩
  | _ => throw (.invalidCoordinate value "expected 'group:module:version'")

def text (coordinate : Coordinate) : String :=
  coordinate.key.text ++ ":" ++ coordinate.version.text

instance : ToString Coordinate := ⟨text⟩

/-- Equality up to the spelling of the version. -/
def same (a b : Coordinate) : Bool :=
  a.key = b.key && a.version.same b.version

end Coordinate
end Linkage
