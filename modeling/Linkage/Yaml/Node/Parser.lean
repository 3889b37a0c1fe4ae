import Linkage.Yaml.Node
import Linkage.Yaml.Token.Lexer

/-! Building the tree of a document from tokens. Nodes that are left out are empty plain scalars. -/

namespace Linkage.Yaml

namespace Node

/-- Where a node stands, which decides what it may be. -/
inductive Place where
  /-- In a flow collection, where block collections may not stand. -/
  | flow
  /-- In a block, or at the top. -/
  | block
  /-- A key or value in a block mapping, where the entries of a sequence need not be indented further. -/
  | mappingPart
  deriving DecidableEq, Repr

structure Parser where
  lexemes : List Lexeme
  /-- What the handles of tags stand for. -/
  handles : List (String × String) := []
  /-- The names of anchors so far, with their numbers. -/
  names : List (String × Nat) := []
  anchored : List Anchored := []
  /-- How many nodes have started. -/
  started : Nat := 0

abbrev Parse := StateT Parser (Except Fault)

namespace Parser

def peek? : Parse (Option Token) := do
  return (← get).lexemes.head?.map (·.token)

def skip : Parse Unit :=
  modify fun parser => { parser with lexemes := parser.lexemes.drop 1 }

def fail {α : Type} (problem : Problem) : Parse α := do
  throw ⟨problem, ((← get).lexemes.head?.map (·.position)).getD {}⟩

/-- The tag that a handle and a suffix stand for; a tag in full has no handle. -/
def resolveTag (handle suffix : String) : Parse String := do
  if handle.isEmpty then return suffix
  match (← get).handles.lookup handle with
  | some start => return start ++ suffix
  | none => fail (.unexpected "undefined tag handle")

def aliasNumber (name : String) : Parse Nat := do
  match (← get).names.lookup name with
  | some number => return number
  | none => fail .unknownAnchor

/-- The anchor and the tag before a node, in either order. -/
def properties : Parse (Option String × Option String) := do
  match ← peek? with
  | some (.anchor name) =>
    skip
    match ← peek? with
    | some (.tag handle suffix) => do
      skip
      return (some name, some (← resolveTag handle suffix))
    | _ => return (some name, none)
  | some (.tag handle suffix) =>
    skip
    let tag ← resolveTag handle suffix
    match ← peek? with
    | some (.anchor name) => do
      skip
      return (some name, some tag)
    | _ => return (none, some tag)
  | _ => return (none, none)

/-- Counts a node that starts, and numbers its anchor by the names that were there before. -/
def start (anchor : Option String) : Parse (Option (Nat × Nat)) := do
  let parser ← get
  match anchor with
  | none =>
    set { parser with started := parser.started + 1 }
    return none
  | some name =>
    let number := parser.names.length
    set { parser with
      started := parser.started + 1
      names := (name, number) :: parser.names.filter (·.1 ≠ name) }
    return some (number, parser.started)

def finish (anchor : Option (Nat × Nat)) (node : Node) : Parse Unit :=
  match anchor with
  | none => return
  | some (number, start) => modify fun parser => { parser with anchored := ⟨number, start, node⟩ :: parser.anchored }

def empty : Parse Node := do
  finish (← start none) Node.empty
  return Node.empty

/-- A tag that is only an exclamation mark tells nothing about a scalar. -/
def scalarTag (tag : Option String) : Option String :=
  tag.filter (· ≠ "!")

mutual
def node : Nat → Place → Parse Node
  | 0, _ => fail (.expected "node content")
  | fuel + 1, place => do
    match ← peek? with
    | some (.alias name) =>
      let number ← aliasNumber name
      skip
      return .alias number
    | _ =>
      let (anchor, tag) ← properties
      let started ← start anchor
      let node ← content fuel place (anchor.isSome || tag.isSome) tag
      finish started node
      return node

/-- A node after its properties; with properties it may be empty. -/
def content : Nat → Place → Bool → Option String → Parse Node
  | 0, _, _, _ => fail (.expected "node content")
  | fuel + 1, place, hasProperties, tag => do
    let otherwise : Parse Node :=
      if hasProperties then return .scalar tag .plain "" else fail (.expected "node content")
    match ← peek? with
    | some (.scalar text style) =>
      skip
      return .scalar (scalarTag tag) style text
    | some .flowSequenceStart =>
      skip
      return .sequence tag (← flowItems fuel true)
    | some .flowMappingStart =>
      skip
      return .mapping tag (← flowEntries fuel true)
    | some .blockEntry =>
      if place = .mappingPart then return .sequence tag (← blockItems fuel false) else otherwise
    | some .blockSequenceStart =>
      if place = .flow then otherwise
      else do
        skip
        return .sequence tag (← blockItems fuel true)
    | some .blockMappingStart =>
      if place = .flow then otherwise
      else do
        skip
        return .mapping tag (← blockEntries fuel)
    | _ => otherwise

def blockItems : Nat → Bool → Parse (List Node)
  | 0, _ => fail (.expected "'-' indicator")
  | fuel + 1, indented => do
    match ← peek? with
    | some .blockEntry =>
      skip
      let isLeftOut := match ← peek? with
        | some .blockEntry | some .blockEnd => true
        | some .key | some .value => !indented
        | _ => false
      let item ← if isLeftOut then empty else node fuel .block
      return item :: (← blockItems fuel indented)
    | some .blockEnd =>
      if indented then skip
      return []
    -- A sequence that is not indented has no end of its own.
    | _ => if indented then fail (.expected "'-' indicator") else return []

/-- A key or value of a block mapping, which may be left out. -/
def blockPart : Nat → Parse Node
  | 0 => fail (.expected "key")
  | fuel + 1 => do
    match ← peek? with
    | some .key | some .value | some .blockEnd => empty
    | _ => node fuel .mappingPart

def blockEntries : Nat → Parse (List (Node × Node))
  | 0 => fail (.expected "key")
  | fuel + 1 => do
    match ← peek? with
    | some .key =>
      skip
      let key ← blockPart fuel
      let value ← match ← peek? with
        | some .value => do
          skip
          blockPart fuel
        | _ => empty
      return (key, value) :: (← blockEntries fuel)
    | some .blockEnd =>
      skip
      return []
    | _ => fail (.expected "key")

def flowItems : Nat → Bool → Parse (List Node)
  | 0, _ => fail (.expected "',' or ']'")
  | fuel + 1, isFirst => do
    let next ← peek?
    if next = some .flowSequenceEnd then
      skip
      return []
    if !isFirst then
      if next ≠ some .flowEntry then fail (.expected "',' or ']'")
      skip
    match ← peek? with
    | some .flowSequenceEnd =>
      skip
      return []
    | some .key =>
      skip
      let pair ← flowPair fuel
      return pair :: (← flowItems fuel false)
    | _ =>
      let item ← node fuel .flow
      return item :: (← flowItems fuel false)

/-- A mapping of one entry, whose braces are left out. A token that shows that the key is left out is passed over,
also when it is the colon: the key and the value are both empty then. -/
def flowPair : Nat → Parse Node
  | 0 => fail (.expected "',' or ']'")
  | fuel + 1 => do
    discard (start none)
    let key ← match ← peek? with
      | some .value | some .flowEntry | some .flowSequenceEnd => do
        skip
        empty
      | _ => node fuel .flow
    let value ← match ← peek? with
      | some .value => do
        skip
        match ← peek? with
        | some .flowEntry | some .flowSequenceEnd => empty
        | _ => node fuel .flow
      | _ => empty
    return .mapping none [(key, value)]

/-- A key of a flow mapping, which may be left out after its indicator. -/
def flowKey : Nat → Parse Node
  | 0 => fail (.expected "',' or '\x7d'")
  | fuel + 1 => do
    match ← peek? with
    | some .value | some .flowEntry | some .flowMappingEnd => empty
    | _ => node fuel .flow

def flowEntries : Nat → Bool → Parse (List (Node × Node))
  | 0, _ => fail (.expected "',' or '\x7d'")
  | fuel + 1, isFirst => do
    let next ← peek?
    if next = some .flowMappingEnd then
      skip
      return []
    if !isFirst then
      if next ≠ some .flowEntry then fail (.expected "',' or '\x7d'")
      skip
    match ← peek? with
    | some .flowMappingEnd =>
      skip
      return []
    | some .key =>
      skip
      let key ← flowKey fuel
      let value ← match ← peek? with
        | some .value => do
          skip
          match ← peek? with
          | some .flowEntry | some .flowMappingEnd => empty
          | _ => node fuel .flow
        | _ => empty
      return (key, value) :: (← flowEntries fuel false)
    -- A node without a colon is a key whose value is left out.
    | _ =>
      let key ← node fuel .flow
      let value ← empty
      return (key, value) :: (← flowEntries fuel false)
end

def isDirective : Token → Bool
  | .versionDirective _ _ => true
  | .tagDirective _ _ => true
  | _ => false

/-- The versions of the language that are understood. -/
def checkVersions (directives : List Token) : Parse Unit := do
  let versions := directives.filterMap fun
    | .versionDirective major minor => some (major, minor)
    | _ => none
  if 1 < versions.length then fail (.unexpected "second version directive")
  if versions.any fun (major, minor) => major ≠ 1 || (minor ≠ 1 && minor ≠ 2) then
    fail (.unexpected "incompatible version")

/-- The handles that a document declares, and the two that are always there. -/
def declareHandles (directives : List Token) : Parse Unit := do
  let handles := directives.filterMap fun
    | .tagDirective handle start => some (handle, start)
    | _ => none
  if !(handles.map (·.1)).Nodup then fail (.unexpected "second tag directive")
  modify fun parser => { parser with handles := handles ++ [("!", "!"), ("!!", "tag:yaml.org,2002:")] }

/-- The directives and the marker before a document. -/
def documentHead : Parse Unit := do
  let tokens := (← get).lexemes.map (·.token)
  let directives := tokens.takeWhile isDirective
  modify fun parser => { parser with lexemes := parser.lexemes.drop directives.length }
  checkVersions directives
  declareHandles directives
  if (← peek?) ≠ some .documentStart then fail (.expected "<document start>")
  skip

/-- The content of a document that was announced, which may be left out. -/
def documentContent (fuel : Nat) : Parse Node := do
  match ← peek? with
  | none | some .documentStart | some .documentEnd => empty
  | some token => if isDirective token then empty else node fuel .block

/-- The root of the document; without a marker it has content, unless the whole text has none. -/
def root (fuel : Nat) : Parse Node := do
  match ← peek? with
  | none => empty
  | some token =>
    if isDirective token || token = .documentStart then
      documentHead
      documentContent fuel
    else
      declareHandles []
      node fuel .block

/-- The only document of a text, maybe with markers after it. -/
def document (fuel : Nat) : Parse Document := do
  let root ← root fuel
  modify fun parser => { parser with lexemes := parser.lexemes.dropWhile (·.token = .documentEnd) }
  if (← peek?).isSome then fail .severalDocuments
  return ⟨root, (← get).anchored⟩

end Parser
end Node

/-- Every token starts at most a few nodes, which bounds the nesting. -/
def Document.ofLexemes (lexemes : List Lexeme) : Except Fault Document := do
  return (← (Node.Parser.document (4 * lexemes.length + 8)).run { lexemes }).1

/-- Reads the one document of a text. -/
def Document.parse (text : String) : Except Fault Document := do
  Document.ofLexemes (← tokenize text)

end Linkage.Yaml
