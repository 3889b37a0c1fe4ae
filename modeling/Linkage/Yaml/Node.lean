import Linkage.Yaml.Scalar

/-! YAML documents as trees. A node that is anchored can be used again by its number; such uses stay in the tree, so
that a node may even contain itself. -/

namespace Linkage.Yaml

inductive Node where
  | scalar (tag : Option String) (style : ScalarStyle) (text : String)
  | sequence (tag : Option String) (items : List Node)
  | mapping (tag : Option String) (entries : List (Node × Node))
  | alias (number : Nat)
  deriving Repr, Inhabited

structure Anchored where
  number : Nat
  /-- How many nodes start before this one. -/
  start : Nat
  node : Node

namespace Node

/-- What stands where a node is left out. -/
def empty : Node :=
  scalar none .plain ""

mutual
/-- How many steps it takes to walk through a node: one for each scalar and alias, and one at each end of a
collection. -/
def size : Node → Nat
  | scalar _ _ _ => 1
  | .alias _ => 1
  | sequence _ items => itemsSize items + 2
  | mapping _ entries => entriesSize entries + 2

def itemsSize : List Node → Nat
  | [] => 0
  | item :: rest => item.size + itemsSize rest

def entriesSize : List (Node × Node) → Nat
  | [] => 0
  | (key, value) :: rest => key.size + value.size + entriesSize rest
end

end Node

/-- The one document of a text; the root of a text without any content is empty. -/
structure Document where
  root : Node
  anchored : List Anchored := []

namespace Document

def size (document : Document) : Nat :=
  document.root.size

/-- Of two nodes with the same number, the one that starts later. -/
def later (a b : Anchored) : Anchored :=
  if a.start < b.start then b else a

def find? (document : Document) (number : Nat) : Option Node :=
  match document.anchored.filter (·.number = number) with
  | [] => none
  | first :: others => some (others.foldl later first).node

end Document

/-- A walk over a document. It may use anchored nodes only for a number of times, so that it comes to an end on every
document; the state tells how many times are left. -/
abbrev Walk := StateT Nat Option

namespace Document

/-- The node itself, or the one that an alias stands for. -/
def resolve (document : Document) : Node → Walk Node
  | .alias number => do
    match ← get with
    | 0 => failure
    | left + 1 =>
      set left
      match document.find? number with
      | some node => return node
      | none => failure
  | node => return node

/-- Walks over a document, using anchored nodes up to a hundred times for each of its parts. -/
def run? {α : Type} (document : Document) (walk : Walk α) : Option α := do
  return (← walk.run (100 * document.size)).1

end Document

/-- A tag of the text's own, which starts with an exclamation mark, without that. -/
def localTag? (tag : Option String) : Option String := do
  match (← tag).toList with
  | '!' :: name => some (.ofList name)
  | _ => none

/-- The tags that the language defines for scalars. -/
def coreTag (name : String) : String :=
  "tag:yaml.org,2002:" ++ name
end Linkage.Yaml
