import Linkage.Coordinate
import Linkage.ModuleMap
import Linkage.Symbol

/-! The known libraries: which releases each has, which libraries it pulls in, and which symbols it provides in which
of its versions. -/

namespace Linkage

/-- A symbol that is provided from the version `since` on and up to, but not in, the version `until`. -/
structure ProvidedSymbol where
  symbol : Symbol
  since : Option Version
  «until» : Option Version
  deriving DecidableEq, Repr

namespace ProvidedSymbol

def always (symbol : Symbol) : ProvidedSymbol :=
  ⟨symbol, none, none⟩

def availableAt (provided : ProvidedSymbol) (version : Version) : Bool :=
  provided.since.all (fun since => !version.below since) && provided.until.all (fun limit => version.below limit)

end ProvidedSymbol

structure Artifact where
  key : ModuleKey
  /-- In ascending order, each once. -/
  releases : List Version := []
  dependencies : List Coordinate := []
  symbols : List ProvidedSymbol := []
  deriving DecidableEq, Repr

namespace Artifact

/-- Adds a release, unless an equal one is known. -/
def withRelease (artifact : Artifact) (version : Version) : Artifact :=
  { artifact with releases := Version.insert version artifact.releases }

def withDependency (artifact : Artifact) (dependency : Coordinate) : Artifact :=
  { artifact with dependencies := artifact.dependencies ++ [dependency] }

def withSymbol (artifact : Artifact) (provided : ProvidedSymbol) : Artifact :=
  { artifact with symbols := artifact.symbols ++ [provided] }

def provides (artifact : Artifact) (symbol : Symbol) (version : Version) : Bool :=
  artifact.symbols.any fun provided => provided.symbol = symbol && provided.availableAt version

end Artifact

structure Catalog where
  artifacts : ModuleMap Artifact := []
  deriving DecidableEq, Repr

namespace Catalog

def find? (catalog : Catalog) (key : ModuleKey) : Option Artifact :=
  catalog.artifacts.find? key

/-- Adds a library in place of one with the same key. -/
def insert (catalog : Catalog) (artifact : Artifact) : Catalog :=
  ⟨ModuleMap.insert artifact.key artifact catalog.artifacts⟩

def contains (catalog : Catalog) (key : ModuleKey) : Bool :=
  (catalog.find? key).isSome

def releases (catalog : Catalog) (key : ModuleKey) : List Version :=
  (catalog.find? key).elim [] (·.releases)

def dependencies (catalog : Catalog) (key : ModuleKey) : List Coordinate :=
  (catalog.find? key).elim [] (·.dependencies)

def dependencyCount (catalog : Catalog) : Nat :=
  catalog.artifacts.foldl (fun count entry => count + entry.2.dependencies.length) 0

def provides (catalog : Catalog) (key : ModuleKey) (symbol : Symbol) (version : Version) : Bool :=
  (catalog.find? key).any (·.provides symbol version)

end Catalog
end Linkage
