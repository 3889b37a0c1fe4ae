import Linkage.Config.Reading
import Linkage.Yaml.Node.Parser

/-! Typed reading of YAML. A text may be any scalar and is its source text. A list, a map or a structure may be left
empty, but may not be an explicit null. -/

namespace Linkage.Yaml

/-- Whether a scalar may stand for a kind of value: a plain one may, and a literal one with the tag of that kind. -/
def mayBe (kind : String) (tag : Option String) (style : ScalarStyle) : Bool :=
  style = .plain || (style = .literal && tag = some (coreTag kind))

private def known {α : Type} : Option α → Walk α
  | some value => return value
  | none => failure

namespace Document
variable (document : Document)

def readText (node : Node) : Walk String := do
  match ← document.resolve node with
  | .scalar _ _ text => return text
  | _ => failure

def readBoolean (node : Node) : Walk Bool := do
  match ← document.resolve node with
  | .scalar tag style text => if mayBe "bool" tag style then known (boolean? text) else failure
  | _ => failure

def readNatural (node : Node) : Walk UInt64 := do
  match ← document.resolve node with
  | .scalar tag style text =>
    if mayBe "int" tag style then known ((naturalValue? text.toList).bind Text.wordOf?) else failure
  | _ => failure

/-- A word is a scalar, or the tag of a null value. -/
def readWord (node : Node) : Walk String := do
  match ← document.resolve node with
  | .scalar tag style text =>
    match localTag? tag with
    | none => return text
    | some word => if style = .plain && (text.isEmpty || isNullWord text) then return word else failure
  | _ => failure

/-- A value is left out when nothing or a null word is there, unless a tag says otherwise. -/
def readPresent (node : Node) : Walk (Option Node) := do
  let node ← document.resolve node
  match node with
  | .scalar none .plain text => return if text.isEmpty || isNullWord text then none else some node
  | .scalar (some tag) .plain text =>
    if tag ≠ coreTag "null" then return some node
    if isNullWord text then return none else failure
  | _ => return some node

def readItems (node : Node) : Walk (List Node) := do
  match ← document.resolve node with
  | .sequence _ items => return items
  | .scalar _ .plain "" => return []
  | _ => failure

/-- The entries of a mapping whose keys are all scalars. -/
def readEntries (node : Node) : Walk (List (String × Node)) := do
  match ← document.resolve node with
  | .mapping _ entries => entries.mapM fun (key, value) => do return (← document.readText key, value)
  | .scalar _ .plain "" => return []
  | _ => failure

/-- The known entries of a mapping; one given twice is refused. -/
def readFields (names : List String) (node : Node) : Walk (List (String × Node)) := do
  let fields := (← document.readEntries node).filter fun entry => names.contains entry.1
  if (fields.map (·.1)).Nodup then return fields else failure

def reading : Reading Walk Node where
  refuse := failure
  text := document.readText
  boolean := document.readBoolean
  natural := document.readNatural
  word := document.readWord
  present? := document.readPresent
  items := document.readItems
  entries := document.readEntries
  fields := document.readFields

end Document

def readAs {α : Type} (read : Reading Walk Node → Node → Walk α) (text : String) : Except Fault α := do
  let document ← Document.parse text
  match document.run? (read document.reading document.root) with
  | some value => return value
  | none => throw ⟨.wrongShape, {}⟩

end Linkage.Yaml
