import Linkage.Yaml.Character
import Linkage.Yaml.Scalar
import Linkage.Yaml.Value

/-! Writing data as YAML text. Collections are written in block style, and lists are not indented under their key.
Texts are quoted only where a plain scalar would read as something else or is not allowed. -/

namespace Linkage.Yaml

/-- The characters that are written as they are; the others are escaped in double quotes. -/
def isPrintable (c : Char) : Bool :=
  let n := c.toNat
  n = 0xA || (0x20 ≤ n && n ≤ 0x7E) || (0xA0 ≤ n && n < 0xFFFE && n ≠ 0xFEFF)

/-- Whether the first of two neighbours passes one test and the second the other. -/
def hasNeighbours (first second : Char → Bool) : List Char → Bool
  | a :: b :: rest => (first a && second b) || hasNeighbours first second (b :: rest)
  | _ => false

/-- Whether a text holds a colon before a blank or at the end, or a number sign after a blank. -/
def hasInnerIndicator : List Char → Bool
  | [] => false
  | c :: rest => (c = ':' && endsWord rest) || (endsWord [c] && rest.head? = some '#') || hasInnerIndicator rest

/-- Whether a plain scalar may not start so. -/
def startsIndicated : List Char → Bool
  | [] => false
  | c :: rest =>
    "#,[]\x7b\x7d&*!|>'\"%@\u0060".toList.contains c || ((c = '?' || c = ':' || c = '-') && endsWord rest) ||
      ['-', '-', '-'].isPrefixOf (c :: rest) || ['.', '.', '.'].isPrefixOf (c :: rest)

/-- Whether a text can be told only with escapes. -/
def needsEscapes (text : List Char) : Bool :=
  text.any (!isPrintable ·) || hasNeighbours (· = ' ') isBreak text

/-- Whether a plain scalar can hold a text. -/
def isPlainText (text : List Char) : Bool :=
  !(needsEscapes text || text.any isBreak || text.head? = some ' ' || text.getLast? = some ' ' ||
    startsIndicated text || hasInnerIndicator text)

/-- Whether a plain scalar would stand for something else than its text. -/
def readsOtherwise (text : String) : Bool :=
  match Scalar.ofPlain? text with
  | some (.text _) => isPaddedDigits text.toList
  | _ => true

/-- The style that a text is written in. Texts of several lines are literal, but not as a key on one line. -/
def styleOf (text : String) : ScalarStyle :=
  let chars := text.toList
  if chars.contains '\n' then
    if needsEscapes chars || chars.getLast? = some ' ' then .doubleQuoted else .literal
  else if !readsOtherwise text && isPlainText chars then .plain
  else if needsEscapes chars || hasNeighbours isBreak (· = ' ') chars then .doubleQuoted
  else .singleQuoted

private def hexDigits (width n : Nat) : String :=
  let digits := (Nat.toDigits 16 n).map Char.toUpper
  .ofList (List.replicate (width - digits.length) '0' ++ digits)

def escapeChar (c : Char) : String :=
  match c with
  | '\x00' => "\\0"
  | '\x07' => "\\a"
  | '\x08' => "\\b"
  | '\t' => "\\t"
  | '\n' => "\\n"
  | '\x0b' => "\\v"
  | '\x0c' => "\\f"
  | '\r' => "\\r"
  | '\x1b' => "\\e"
  | '"' => "\\\""
  | '\\' => "\\\\"
  | '\u0085' => "\\N"
  | '\u2028' => "\\L"
  | '\u2029' => "\\P"
  | c =>
    let n := c.toNat
    if isPrintable c then c.toString
    else if n ≤ 0xFF then "\\x" ++ hexDigits 2 n
    else if n ≤ 0xFFFF then "\\u" ++ hexDigits 4 n
    else "\\U" ++ hexDigits 8 n

def doubleQuoted (text : List Char) : String :=
  "\"" ++ String.join (text.map escapeChar) ++ "\""

/-- Indents the lines of a text, except empty ones; `atStart` tells whether a line starts here. -/
def indentLines (indent : List Char) (atStart : Bool) : List Char → List Char
  | [] => []
  | c :: rest =>
    if isBreak c then c :: indentLines indent true rest
    else (if atStart then indent else []) ++ c :: indentLines indent false rest

private def spaces (count : Nat) : List Char :=
  List.replicate count ' '

/-- A text in single quotes, where a quote is written twice. A line starts with the indentation. -/
def singleQuoted (indent : Nat) (text : List Char) : String :=
  let body := indentLines (spaces indent) false (text.flatMap fun c => if c = '\'' then ['\'', '\''] else [c])
  let ending := if text.getLast?.any isBreak then spaces indent else []
  "'" ++ .ofList (body ++ ending) ++ "'"

/-- What the header of a literal scalar tells: the indentation, when the text starts with a blank or a break, and
whether the text ends without a break or with more than one. -/
def literalHeader (text : List Char) : String :=
  let indentation := if text.head?.any fun c => c = ' ' || isBreak c then "2" else ""
  let ending := match text.reverse with
    | [] => "-"
    | last :: before =>
      if !isBreak last then "-"
      else if before.head?.all isBreak then "+"
      else ""
  "|" ++ indentation ++ ending

/-- A literal scalar; its last line is not ended unless the text ends with a break. -/
def literal (indent : Nat) (text : List Char) : String :=
  literalHeader text ++ "\n" ++ .ofList (indentLines (spaces indent) true text)

def scalarText (indent : Nat) (text : String) : String :=
  match styleOf text with
  | .plain => text
  | .singleQuoted => singleQuoted indent text.toList
  | .literal | .folded => literal indent text.toList
  | .doubleQuoted => doubleQuoted text.toList

/-- The characters that a tag is written with; the others are written as octets. -/
def tagText (tag : String) : String :=
  let octet (byte : UInt8) : String :=
    let c := Char.ofNat byte.toNat
    if isWordChar c || ";/?:@&=+$,_.~*'()[]".toList.contains c then c.toString else "%" ++ hexDigits 2 byte.toNat
  "!" ++ String.join (tag.toUTF8.toList.map octet)

inductive Spot where
  | top
  /-- After a key and a colon. -/
  | afterKey
  /-- After the hyphen of a list's item. -/
  | item
  /-- After the mark of a key, or of a value with a marked key. -/
  | marked
  deriving DecidableEq, Repr

/-- Ends the line, unless it was ended. -/
def endLine (text : String) : String :=
  if text.toList.getLast?.any isBreak then text else text ++ "\n"

namespace Value

/-- The text of a value that is no block collection. -/
def inline? (indent : Nat) : Value → Option String
  | null => some "null"
  | boolean value => some (if value then "true" else "false")
  | number value => some value.text
  | string text => some (scalarText indent text)
  | list [] => some "[]"
  | mapping [] => some "{}"
  | list _ => none
  | mapping _ => none
  | tagged tag value => (inline? indent value).map fun text => tagText tag ++ " " ++ text

/-- A key that is written on the line of its value: it has one line of at most 128 bytes. -/
def simpleKey? : Value → Option String
  | string text =>
    if text.toList.any isBreak || 128 < text.utf8ByteSize then none else some (scalarText 0 text)
  | tagged tag (string text) =>
    if text.toList.any isBreak || 128 < text.utf8ByteSize + tag.utf8ByteSize + 1 then none
    else some (tagText tag ++ " " ++ scalarText 0 text)
  | key => inline? 0 key

/-- How deep the block collection of a value is indented. Lists stand under their key. -/
def innerIndent (spot : Spot) (isTagged isList : Bool) (indent : Nat) : Nat :=
  match spot with
  | .top => 0
  | .afterKey => if isList then indent else indent + 2
  | .item => indent + 2
  | .marked => if isTagged && isList then indent else indent + 2

/-- What is written before the first entry of a block collection: a new line, unless it goes on after an indicator. -/
def lead (spot : Spot) (isTagged : Bool) (indent : Nat) : String :=
  if isTagged || spot = .afterKey then "\n" ++ .ofList (spaces indent)
  else if spot = .top then ""
  else " "

mutual
/-- Writes a value after its indicator or key, up to the end of its last line; `tags` are written before it. The
indentation is that of the collection around it. -/
def write (spot : Spot) (tags : String) (indent : Nat) : Value → String
  | tagged tag value => write spot (tags ++ (if tags.isEmpty && spot = .top then "" else " ") ++ tagText tag) indent value
  | list (first :: rest) =>
    let inner := innerIndent spot (!tags.isEmpty) true indent
    tags ++ lead spot (!tags.isEmpty) inner ++ "-" ++ write .item "" inner first ++ writeItems inner rest
  | mapping (first :: rest) =>
    let inner := innerIndent spot (!tags.isEmpty) false indent
    tags ++ lead spot (!tags.isEmpty) inner ++ writeEntry inner first ++ writeEntries inner rest
  | value =>
    let before := if tags.isEmpty && spot = .top then "" else tags ++ " "
    endLine (before ++ (inline? (if spot = .top then 2 else indent + 2) value).getD "")

def writeItems (indent : Nat) : List Value → String
  | [] => ""
  | item :: rest => .ofList (spaces indent) ++ "-" ++ write .item "" indent item ++ writeItems indent rest

/-- An entry; a key that does not fit its line is marked. -/
def writeEntry (indent : Nat) : Value × Value → String
  | (key, value) =>
    match simpleKey? key with
    | some text => text ++ ":" ++ write .afterKey "" indent value
    | none =>
      "?" ++ write .marked "" indent key ++ .ofList (spaces indent) ++ ":" ++ write .marked "" indent value

def writeEntries (indent : Nat) : List (Value × Value) → String
  | [] => ""
  | entry :: rest => .ofList (spaces indent) ++ writeEntry indent entry ++ writeEntries indent rest
end

mutual
/-- Whether the last scalar of a value is a literal that ends with empty lines, which only the end of the document
shows. -/
def endsOpen : Value → Bool
  | string text => styleOf text = .literal && (literalHeader text.toList).endsWith "+"
  | tagged _ value => endsOpen value
  | list items => endsOpenItems items
  | mapping entries => endsOpenEntries entries
  | _ => false

def endsOpenItems : List Value → Bool
  | [] => false
  | [item] => endsOpen item
  | _ :: rest => endsOpenItems rest

def endsOpenEntries : List (Value × Value) → Bool
  | [] => false
  | [(_, value)] => endsOpen value
  | _ :: rest => endsOpenEntries rest
end

/-- The text of a document with a value. -/
def text (value : Value) : String :=
  value.write .top "" 0 ++ (if value.endsOpen then "...\n" else "")

mutual
/-- JSON data is YAML data. -/
def ofJson : Json → Value
  | .null => null
  | .boolean value => boolean value
  | .number value => number value
  | .string text => string text
  | .list items => list (ofJsonItems items)
  | .object fields => mapping (ofJsonFields fields)

def ofJsonItems : List Json → List Value
  | [] => []
  | item :: rest => ofJson item :: ofJsonItems rest

def ofJsonFields : List (String × Json) → List (Value × Value)
  | [] => []
  | (name, value) :: rest => (string name, ofJson value) :: ofJsonFields rest
end

end Value
end Linkage.Yaml
