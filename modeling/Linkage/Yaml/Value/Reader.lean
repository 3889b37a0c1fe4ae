import Linkage.Yaml.Node.Parser
import Linkage.Yaml.Value

/-! The data that a document stands for. Floating-point scalars may be taken as their source text instead, so that a
number such as `2.10` keeps its digits; this leaves keys and tagged values alone. -/

namespace Linkage.Yaml.Value

/-- Collections may be nested to this depth. -/
def depthLimit : Nat := 128

/-- What a scalar stands for that a core tag declares to be of some kind, or of no kind that is known. -/
def ofCoreTag (tag : String) (text : String) : Option Value :=
  if tag = coreTag "bool" then (boolean? text).map boolean
  else if tag = coreTag "int" then (whole? text.toList).join.map number
  else if tag = coreTag "float" then (decimalValue? text.toList).map fun value => number (.decimal value)
  else if tag = coreTag "null" then if isNullWord text then some null else none
  else some (string text)

def ofPlain (text : String) : Option Value :=
  (Scalar.ofPlain? text).map fun
    | .null => null
    | .boolean value => boolean value
    | .number value => number value
    | .text text => string text

/-- What a scalar stands for. Under a tag of the document's own, only the style decides. -/
def ofScalar (isTagged : Bool) (tag : Option String) (style : ScalarStyle) (text : String) : Option Value :=
  match if isTagged then none else tag with
  | some tag => ofCoreTag tag text
  | none => if style = .plain then ofPlain text else some (string text)

/-- Puts the source text in place of a floating-point number. -/
def keepingText (keepsText : Bool) (text : String) : Value → Value
  | number (.decimal value) => if keepsText then string text else number (.decimal value)
  | value => value

/-- What a node stands for apart from its tag; `read` reads the nodes in a collection. -/
def ofUntagged (read : Bool → Node → Walk Value) (isTagged keepsText : Bool) : Node → Walk Value
  | .scalar tag style text =>
    match ofScalar isTagged tag style text with
    | some value => return keepingText keepsText text value
    | none => failure
  | .sequence _ items => do return list (← items.mapM (read keepsText))
  | .mapping _ entries => do
    let entries ← entries.mapM fun (key, value) => do return (← read false key, ← read keepsText value)
    if repeatsKey entries then failure
    return mapping entries
  | .alias _ => failure

def tagOf : Node → Option String
  | .scalar tag _ _ => tag
  | .sequence tag _ => tag
  | .mapping tag _ => tag
  | .alias _ => none

def isCollection : Node → Bool
  | .sequence _ _ => true
  | .mapping _ _ => true
  | _ => false

/-- What a node stands for; a tag of the document's own has to have a name. -/
def ofResolved (read : Bool → Node → Walk Value) (keepsText : Bool) (node : Node) : Walk Value :=
  match localTag? (tagOf node) with
  | none => ofUntagged read false keepsText node
  | some "" => failure
  | some tag => do return tagged tag (← ofUntagged read true false node)

/-- What a node stands for, with at most a number of collections in each other. -/
def ofNode (document : Document) : Nat → Bool → Node → Walk Value
  | 0, keepsText, node => do
    let node ← document.resolve node
    if isCollection node then failure
    ofResolved (fun _ _ => failure) keepsText node
  | depth + 1, keepsText, node => do
    ofResolved (ofNode document depth) keepsText (← document.resolve node)

/-- The data of a document, with floating-point numbers or with their source texts. -/
def ofDocument? (keepsText : Bool) (document : Document) : Option Value :=
  document.run? (ofNode document depthLimit keepsText document.root)

def parse (keepsText : Bool) (text : String) : Except Fault Value := do
  match ofDocument? keepsText (← Document.parse text) with
  | some value => return value
  | none => throw ⟨.wrongShape, {}⟩

end Linkage.Yaml.Value
