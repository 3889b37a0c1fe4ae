import Linkage.Catalog

/-! The libraries that instrumentation code sees in one verification: the resolved versions, a rule's extra
dependencies, and what these pull in, breadth first. The first version that is reached stays. An excluded library
never enters, whatever pulls it in, but it is remembered, so that a symbol only it provides can be blamed on it. -/

namespace Linkage

inductive Origin where
  | resolved
  | extra
  | transitive (via : ModuleKey)
  deriving DecidableEq, Repr

structure Classpath.Entry where
  version : Version
  origin : Origin
  deriving DecidableEq, Repr

inductive Lookup where
  | found (provider : ModuleKey)
  | excluded (key : ModuleKey)
  | missing
  deriving DecidableEq, Repr

structure Classpath where
  entries : ModuleMap Classpath.Entry := []
  excluded : ModuleMap Version := []
  deriving DecidableEq, Repr

namespace Classpath

structure Candidate where
  key : ModuleKey
  version : Version
  origin : Origin
  deriving DecidableEq, Repr

/-- Lets a candidate in, unless it is excluded or its key is taken. The keys let in join the end of the queue. -/
def enter (exclusions : ModuleSet) (state : Classpath × List ModuleKey) (candidate : Candidate) :
    Classpath × List ModuleKey :=
  let (classpath, queue) := state
  if candidate.key ∈ exclusions then
    if classpath.excluded.contains candidate.key then state
    else ({ classpath with excluded := classpath.excluded.insert candidate.key candidate.version }, queue)
  else if classpath.entries.contains candidate.key then state
  else ({ classpath with entries := classpath.entries.insert candidate.key ⟨candidate.version, candidate.origin⟩ },
    queue ++ [candidate.key])

def pulled (catalog : Catalog) (key : ModuleKey) : List Candidate :=
  (catalog.dependencies key).map fun dependency => ⟨dependency.key, dependency.version, .transitive key⟩

/-- Follows the dependencies of the queued keys, for a number of keys. -/
def follow (catalog : Catalog) (exclusions : ModuleSet) : Nat → Classpath × List ModuleKey → Classpath
  | 0, (classpath, _) => classpath
  | _ + 1, (classpath, []) => classpath
  | steps + 1, (classpath, key :: queue) =>
    follow catalog exclusions steps ((pulled catalog key).foldl (enter exclusions) (classpath, queue))

/-- The resolved versions, then the extra dependencies. -/
def direct (resolved : List (ModuleKey × Version)) (extras : List Coordinate) : List Candidate :=
  resolved.map (fun (key, version) => ⟨key, version, .resolved⟩) ++
    extras.map fun extra => ⟨extra.key, extra.version, .extra⟩

/-- Each key is queued once, so there are no more steps than direct candidates and dependencies in the catalog. -/
def steps (catalog : Catalog) (resolved : List (ModuleKey × Version)) (extras : List Coordinate) : Nat :=
  (direct resolved extras).length + catalog.dependencyCount

def build (catalog : Catalog) (resolved : List (ModuleKey × Version)) (extras : List Coordinate) (exclusions : ModuleSet) :
    Classpath :=
  follow catalog exclusions (steps catalog resolved extras) ((direct resolved extras).foldl (enter exclusions) ({}, []))

def find? (classpath : Classpath) (key : ModuleKey) : Option Entry :=
  classpath.entries.find? key

def isExcluded (classpath : Classpath) (key : ModuleKey) : Bool :=
  classpath.excluded.contains key

/-- The first key, in key order, under which the catalog provides the symbol. -/
def provider? (catalog : Catalog) (versions : ModuleMap Version) (symbol : Symbol) : Option ModuleKey :=
  (List.find? (fun entry => catalog.provides entry.1 symbol entry.2) versions).map (·.1)

def lookup (classpath : Classpath) (catalog : Catalog) (symbol : Symbol) : Lookup :=
  match provider? catalog (classpath.entries.map fun (key, entry) => (key, entry.version)) symbol with
  | some provider => .found provider
  -- An exclusion is to blame only if nothing on the classpath provides the symbol.
  | none =>
    match provider? catalog classpath.excluded symbol with
    | some key => .excluded key
    | none => .missing

/-- What provides a symbol together with the class that it belongs to. -/
def resolves (classpath : Classpath) (catalog : Catalog) (symbol : Symbol) : Lookup :=
  if symbol.isClass then classpath.lookup catalog symbol
  else
    match classpath.lookup catalog symbol.ownerClass with
    | .found _ => classpath.lookup catalog symbol
    | other => other

end Classpath
end Linkage
