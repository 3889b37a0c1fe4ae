import Linkage.Yaml.Token.Block
import Linkage.Yaml.Token.Name
import Linkage.Yaml.Token.Plain

/-! Cutting YAML text into tokens. Indentation opens and closes block collections, and a colon may turn out to follow
a key that was read already; the tokens of that key's mapping are then put in front of it. -/

namespace Linkage.Yaml

structure Lexeme where
  token : Token
  position : Position
  deriving DecidableEq, Repr

/-- The place of a node that may turn out to be a key. -/
structure KeyStart where
  /-- How many tokens come before the node. -/
  index : Nat
  position : Position
  /-- Whether the node has to be a key, because it is indented like the keys around it. -/
  required : Bool
  deriving DecidableEq, Repr

structure Lexer where
  /-- The tokens so far, the latest first. -/
  lexemes : List Lexeme := []
  /-- A node in the innermost collection that may be a key. -/
  key : Option KeyStart := none
  /-- The same for each open flow collection, as it was when that was opened. -/
  outerKeys : List (Option KeyStart) := []
  /-- The column of the innermost block collection, or -1. -/
  indent : Int := -1
  outerIndents : List Int := []
  /-- Whether a key may start here. -/
  keyAllowed : Bool := true
  position : Position := {}
  rest : List Char
  deriving Repr

namespace Lexer

def inFlow (lexer : Lexer) : Bool :=
  !lexer.outerKeys.isEmpty

def count (lexer : Lexer) : Nat :=
  lexer.lexemes.length

def emit (lexer : Lexer) (token : Token) : Lexer :=
  { lexer with lexemes := ⟨token, lexer.position⟩ :: lexer.lexemes }

/-- Puts a token in front of the ones that come after `index` others. -/
def emitAt (lexer : Lexer) (index : Nat) (position : Position) (token : Token) : Lexer :=
  let after := lexer.count - index
  { lexer with lexemes := lexer.lexemes.take after ++ ⟨token, position⟩ :: lexer.lexemes.drop after }

def advance (lexer : Lexer) (count : Nat) : Lexer :=
  { lexer with position := lexer.position.skip count, rest := lexer.rest.drop count }

def indicator (lexer : Lexer) (token : Token) (count : Nat) : Lexer :=
  (lexer.emit token).advance count

/-- Gives up a possible key; one that is required is missed. -/
def dropKey (lexer : Lexer) : Except Fault Lexer :=
  match lexer.key with
  | some key => if key.required then throw ⟨.expected "':'", lexer.position⟩ else return { lexer with key := none }
  | none => return lexer

/-- A key ends on its own line and within 1024 characters. -/
def isStale (position : Position) (key : KeyStart) : Bool :=
  key.position.line < position.line || key.position.index + 1024 < position.index

/-- Gives up keys that have become too long. -/
def dropStaleKeys (lexer : Lexer) : Except Fault Lexer :=
  let keys := lexer.key :: lexer.outerKeys
  if keys.any fun key => key.any fun key => key.required && isStale lexer.position key then
    throw ⟨.expected "':'", lexer.position⟩
  else
    let fresh (key : Option KeyStart) := key.filter fun key => !isStale lexer.position key
    return { lexer with key := fresh lexer.key, outerKeys := lexer.outerKeys.map fresh }

/-- Notes that the node that starts here may be a key. -/
def noteKey (lexer : Lexer) : Except Fault Lexer := do
  if !lexer.keyAllowed then return lexer
  let required := !lexer.inFlow && lexer.indent = lexer.position.column
  let lexer ← lexer.dropKey
  return { lexer with key := some ⟨lexer.count, lexer.position, required⟩ }

def allowKey (lexer : Lexer) (allowed : Bool) : Lexer :=
  { lexer with keyAllowed := allowed }

/-- Opens a block collection at a column that is deeper than the open ones. -/
def openBlock (lexer : Lexer) (column : Nat) (emit : Lexer → Lexer) : Lexer :=
  if !lexer.inFlow && lexer.indent < column then
    emit { lexer with indent := column, outerIndents := lexer.indent :: lexer.outerIndents }
  else lexer

/-- Closes the block collections that are deeper than a column. -/
def closeBlocksFrom (lexer : Lexer) (column : Int) : List Int → Lexer
  | [] => lexer
  | outer :: rest =>
    if column < lexer.indent then
      closeBlocksFrom { lexer.emit .blockEnd with indent := outer, outerIndents := rest } column rest
    else lexer

def closeBlocks (lexer : Lexer) (column : Int) : Lexer :=
  if lexer.inFlow then lexer else lexer.closeBlocksFrom column lexer.outerIndents

/-- The end of a text, or a line that stands outside of all collections. -/
def closeAll (lexer : Lexer) : Except Fault Lexer := do
  return ((← (lexer.closeBlocks (-1)).dropKey).allowKey false)

/-- Passes over blanks, comments and line breaks. A key may start after a line break outside of flow collections, and
there a tab may not stand in front of it. -/
def skipGap (inFlow inComment keyAllowed : Bool) (position : Position) : List Char → Bool × Position × List Char
  | [] => (keyAllowed, position, [])
  | '\r' :: '\n' :: rest => skipGap inFlow false (keyAllowed || !inFlow) (position.nextLine 2) rest
  | c :: rest =>
    if isBreak c then skipGap inFlow false (keyAllowed || !inFlow) (position.nextLine 1) rest
    else if inComment || c = '#' then skipGap inFlow true keyAllowed (position.skip 1) rest
    else if c = ' ' || (c = '\t' && (inFlow || !keyAllowed)) then
      skipGap inFlow false keyAllowed (position.skip 1) rest
    else (keyAllowed, position, c :: rest)

def passGap (lexer : Lexer) : Lexer :=
  let (keyAllowed, position, rest) := skipGap lexer.inFlow false lexer.keyAllowed lexer.position lexer.rest
  { lexer with keyAllowed, position, rest }

def continueAt (lexer : Lexer) (position : Position) (rest : List Char) : Lexer :=
  { lexer with position, rest }

def startFlow (lexer : Lexer) (token : Token) : Except Fault Lexer := do
  let lexer ← lexer.noteKey
  return ({ lexer with outerKeys := lexer.key :: lexer.outerKeys, key := none, keyAllowed := true }).indicator token 1

def endFlow (lexer : Lexer) (token : Token) : Except Fault Lexer := do
  let lexer ← lexer.dropKey
  let lexer := match lexer.outerKeys with
    | [] => lexer
    | key :: outer => { lexer with key, outerKeys := outer }
  return (lexer.allowKey false).indicator token 1

def flowEntry (lexer : Lexer) : Except Fault Lexer := do
  return ((← lexer.dropKey).allowKey true).indicator .flowEntry 1

/-- Opens a block collection here, when none is open at this column. -/
def openBlockHere (lexer : Lexer) (token : Token) (what : String) : Except Fault Lexer :=
  if lexer.inFlow then return lexer
  else if !lexer.keyAllowed then throw ⟨.unexpected what, lexer.position⟩
  else return lexer.openBlock lexer.position.column fun lexer => lexer.emit token

def blockEntry (lexer : Lexer) : Except Fault Lexer := do
  let lexer ← lexer.openBlockHere .blockSequenceStart "block sequence entry"
  return ((← lexer.dropKey).allowKey true).indicator .blockEntry 1

def keyIndicator (lexer : Lexer) : Except Fault Lexer := do
  let lexer ← lexer.openBlockHere .blockMappingStart "mapping key"
  return ((← lexer.dropKey).allowKey !lexer.inFlow).indicator .key 1

def valueIndicator (lexer : Lexer) : Except Fault Lexer := do
  match lexer.key with
  -- The node before the colon turns out to be a key, maybe the first one of a mapping.
  | some key =>
    let lexer := lexer.emitAt key.index key.position .key
    let lexer := lexer.openBlock key.position.column fun lexer =>
      lexer.emitAt key.index key.position .blockMappingStart
    return ({ lexer with key := none, keyAllowed := false }).indicator .value 1
  -- The key is empty, or it was marked as one.
  | none =>
    let lexer ← lexer.openBlockHere .blockMappingStart "mapping value"
    return (lexer.allowKey !lexer.inFlow).indicator .value 1

def anchor (lexer : Lexer) (token : String → Token) : Except Fault Lexer := do
  let lexer ← lexer.noteKey
  let name ← scanAnchor (lexer.position.skip 1) (lexer.rest.drop 1)
  return ((lexer.allowKey false).emit (token name.value)).continueAt name.position name.rest

def tag (lexer : Lexer) : Except Fault Lexer := do
  let lexer ← lexer.noteKey
  let tag ← scanTag (lexer.position.skip 1) (lexer.rest.drop 1)
  let ended := endsWord tag.rest || (lexer.inFlow && tag.rest.head? = some ',')
  if !ended then throw ⟨.expected "whitespace or line break", tag.position⟩
  return ((lexer.allowKey false).emit tag.value).continueAt tag.position tag.rest

def quoted (lexer : Lexer) (style : ScalarStyle)
    (scan : Position → List Char → Pending → List Char → Except Fault Scanned) : Except Fault Lexer := do
  let lexer ← lexer.noteKey
  let scalar ← scan (lexer.position.skip 1) [] .none (lexer.rest.drop 1)
  return ((lexer.allowKey false).emit (.scalar scalar.text style)).continueAt scalar.position scalar.rest

/-- After a plain scalar that is followed by a line break, a key may start. -/
def plain (lexer : Lexer) : Except Fault Lexer := do
  let lexer ← lexer.noteKey
  let context : PlainContext := ⟨lexer.inFlow, lexer.indent + 1⟩
  let (scalar, onNewLine) ← scanPlain context lexer.position [] .none lexer.rest
  return ((lexer.allowKey onNewLine).emit (.scalar scalar.text .plain)).continueAt scalar.position scalar.rest

def block (lexer : Lexer) (style : ScalarStyle) : Except Fault Lexer := do
  let lexer ← lexer.dropKey
  let scalar ← scanBlock (style = .folded) lexer.indent (lexer.position.skip 1) (lexer.rest.drop 1)
  return ((lexer.allowKey true).emit (.scalar scalar.text style)).continueAt scalar.position scalar.rest

def directive (lexer : Lexer) : Except Fault Lexer := do
  let lexer ← lexer.closeAll
  let directive ← scanDirective (lexer.position.skip 1) (lexer.rest.drop 1)
  return (lexer.emit directive.value).continueAt directive.position directive.rest

def marker (lexer : Lexer) (token : Token) : Except Fault Lexer := do
  return (← lexer.closeAll).indicator token 3

/-- The characters with a meaning of their own, which cannot start a plain scalar. -/
def isIndicator (c : Char) : Bool :=
  "-?:,[]\x7b\x7d#&*!|>'\"%@\u0060".toList.contains c

/-- Whether a plain scalar may start here: not with an indicator, unless it is one that a word goes on after. -/
def startsPlain (inFlow : Bool) : List Char → Bool
  | [] => false
  | c :: rest =>
    !(isIndicator c || endsWord [c]) || (c = '-' && !(rest.head?.any isBlank)) ||
      (!inFlow && (c = '?' || c = ':') && !endsWord rest)

/-- Reads the token that starts here with the given character. -/
def next (lexer : Lexer) (c : Char) (rest : List Char) : Except Fault Lexer :=
  let inFlow := lexer.inFlow
  let atStart := lexer.position.column = 0
  if atStart && c = '%' then lexer.directive
  else if atStart && isMarker (c :: rest) then
    lexer.marker (if c = '-' then .documentStart else .documentEnd)
  else if c = '[' then lexer.startFlow .flowSequenceStart
  else if c = '\x7b' then lexer.startFlow .flowMappingStart
  else if c = ']' then lexer.endFlow .flowSequenceEnd
  else if c = '\x7d' then lexer.endFlow .flowMappingEnd
  else if c = ',' then lexer.flowEntry
  else if c = '-' && endsWord rest then lexer.blockEntry
  else if c = '?' && (inFlow || endsWord rest) then lexer.keyIndicator
  else if c = ':' && (inFlow || endsWord rest) then lexer.valueIndicator
  else if c = '*' then lexer.anchor .alias
  else if c = '&' then lexer.anchor .anchor
  else if c = '!' then lexer.tag
  else if c = '|' && !inFlow then lexer.block .literal
  else if c = '>' && !inFlow then lexer.block .folded
  else if c = '\'' then lexer.quoted .singleQuoted scanSingleQuoted
  else if c = '"' then lexer.quoted .doubleQuoted scanDoubleQuoted
  else if startsPlain inFlow (c :: rest) then lexer.plain
  else throw ⟨.unexpected "character that cannot start any token", lexer.position⟩

/-- Reads tokens up to the end of the text; each takes at least one character. -/
def run : Nat → Lexer → Except Fault (List Lexeme)
  | 0, lexer => return lexer.lexemes.reverse
  | fuel + 1, lexer => do
    let lexer ← lexer.passGap.dropStaleKeys
    let lexer := lexer.closeBlocks lexer.position.column
    match lexer.rest with
    | [] => return (← lexer.closeAll).lexemes.reverse
    | c :: rest => run fuel (← lexer.next c rest)

end Lexer

/-- A byte order mark at the start of a text is passed over. -/
def afterMark (position : Position) : List Char → Position × List Char
  | '\uFEFF' :: rest => (position.skip 1, rest)
  | text => (position, text)

def tokenize (text : String) : Except Fault (List Lexeme) := do
  let chars := text.toList
  if !chars.all isAllowed then throw ⟨.controlCharacter, {}⟩
  let (position, rest) := afterMark {} chars
  Lexer.run (rest.length + 1) { position, rest }

end Linkage.Yaml
