import Linkage.Rule

/-! Which versions of a library a rule is checked at: the bounds that belong to its range, and every known version in
it. Known versions are the releases of the catalog and candidates that the caller supplies. -/

namespace Linkage

/-- Candidate versions of libraries; the versions of a library ascend, each once. -/
structure Candidates where
  versions : ModuleMap (List Version) := []
  deriving DecidableEq, Repr, Inhabited

namespace Candidates

def get (candidates : Candidates) (key : ModuleKey) : List Version :=
  (candidates.versions.find? key).getD []

/-- Adds versions of a library, which is listed from then on even if there are none. -/
def extend (candidates : Candidates) (key : ModuleKey) (versions : List Version) : Candidates :=
  let held := candidates.get key
  ⟨candidates.versions.insert key (versions.foldl (fun set version => Version.insert version set) held)⟩

def add (candidates : Candidates) (key : ModuleKey) (version : Version) : Candidates :=
  candidates.extend key [version]

/-- Adds the versions of a text such as `group:name=1.0,2.0`; empty items between commas are passed over. -/
def addSpec (candidates : Candidates) (spec : String) : Except Error Candidates :=
  match Text.cut '=' spec.toList with
  | none => throw (.invalidCoordinate spec "expected group:module=version[,version...]")
  | some (key, list) => do
    let key ← ModuleKey.parse (.ofList (Text.trim key))
    let items := ((Text.fields ',' list).map Text.trim).filter (!·.isEmpty)
    let versions ← items.mapM fun item => Version.parse (.ofList item)
    return candidates.extend key versions

def size (candidates : Candidates) : Nat :=
  candidates.versions.foldl (fun count entry => count + entry.2.length) 0

def isEmpty (candidates : Candidates) : Bool :=
  candidates.size = 0

end Candidates

namespace Rule

/-- The versions to evaluate in the range, ascending. Skipped versions are among them, so that they are reported. -/
def samplesInRange (rule : Rule) (known : List Version) : List Version :=
  (known.filter rule.versions.contains).foldl (fun set version => Version.insert version set)
    rule.versions.inclusiveEndpoints

/-- The known versions outside the range, ascending; of equal ones the last is taken. -/
def samplesOutside (rule : Rule) (known : List Version) : List Version :=
  Ascending.ofListLast Version.compare
    (known.filter fun version => !rule.versions.contains version && !rule.skips version)

end Rule
end Linkage
