import Linkage.Yaml.Token
import Linkage.Yaml.Token.Quoted

/-! The tokens that carry names: anchors and aliases, tags, and directives. -/

namespace Linkage.Yaml

/-- A part of a token: the characters after it, and the place there. -/
structure Taken (α : Type) where
  value : α
  position : Position
  rest : List Char

/-- Takes the longest start whose characters all pass a test. -/
def takeWhile (test : Char → Bool) (position : Position) (input : List Char) : Taken (List Char) :=
  let value := input.takeWhile test
  ⟨value, position.skip value.length, input.dropWhile test⟩

/-- Whether an anchor may end before the rest of a text. -/
def endsAnchor : List Char → Bool
  | [] => true
  | c :: rest => endsWord (c :: rest) || "?:,]\x7d%@\u0060".toList.contains c

def scanAnchor (position : Position) (input : List Char) : Except Fault (Taken String) := do
  let name := takeWhile isWordChar position input
  if name.value.isEmpty || !endsAnchor name.rest then
    throw ⟨.expected "alphabetic or numeric character", name.position⟩
  return ⟨.ofList name.value, name.position, name.rest⟩

/-- The characters of a tag besides letters and digits; `inFull` is for tags that are not shortened. -/
def isTagChar (inFull : Bool) (c : Char) : Bool :=
  isWordChar c || ";/?:@&=+$.!~*'()".toList.contains c || (inFull && (c = ',' || c = '[' || c = ']'))

/-- Octets that are written with a percent sign and two digits each, at the front of a text. -/
def octets : List Char → List UInt8
  | '%' :: a :: b :: rest =>
    match radixValue? 16 [a, b] with
    | some value => value.toUInt8 :: octets rest
    | none => []
  | _ => []

/-- How many octets a character takes that starts with the given one. -/
def octetCount? (first : UInt8) : Option Nat :=
  if first < 0x80 then some 1
  else if 0xC0 ≤ first && first < 0xE0 then some 2
  else if 0xE0 ≤ first && first < 0xF0 then some 3
  else if 0xF0 ≤ first && first < 0xF8 then some 4
  else none

/-- A character that is written by its octets. -/
def scanEscapedChar? (input : List Char) : Option (Char × Nat) := do
  let first ← (octets input).head?
  let count ← octetCount? first
  let encoded := (octets input).take count
  guard (encoded.length = count)
  let text ← String.fromUTF8? ⟨encoded.toArray⟩
  return (← text.toList.head?, 3 * count)

/-- The characters of a tag, for at most a number of characters. -/
def scanTagChars (inFull : Bool) :
    Nat → Position → List Char → List Char → Except Fault (Taken (List Char))
  | 0, position, text, input => return ⟨text.reverse, position, input⟩
  | _ + 1, position, text, [] => return ⟨text.reverse, position, []⟩
  | fuel + 1, position, text, c :: rest =>
    if c = '%' then
      match scanEscapedChar? (c :: rest) with
      | some (escaped, count) =>
        scanTagChars inFull fuel (position.skip count) (escaped :: text) ((c :: rest).drop count)
      | none => throw ⟨.expected "URI escaped octet", position⟩
    else if isTagChar inFull c then scanTagChars inFull fuel (position.skip 1) (c :: text) rest
    else return ⟨text.reverse, position, c :: rest⟩

def scanTagText (inFull : Bool) (position : Position) (input : List Char) : Except Fault (Taken (List Char)) :=
  scanTagChars inFull (input.length + 1) position [] input

/-- A tag after its exclamation mark. It is written in full between angle brackets, or it starts with a handle: the
exclamation mark alone, or a word between two of them. -/
def scanTag (position : Position) (input : List Char) : Except Fault (Taken Token) := do
  match input with
  | '<' :: rest => do
    let text ← scanTagText true (position.skip 1) rest
    match text.rest with
    | '>' :: rest =>
      if text.value.isEmpty then throw ⟨.expected "tag URI", text.position⟩
      return ⟨.tag "" (.ofList text.value), text.position.skip 1, rest⟩
    | _ => throw ⟨.expected "'>'", text.position⟩
  | _ => do
    let word := takeWhile isWordChar position input
    match word.rest with
    | '!' :: rest => do
      let suffix ← scanTagText false (word.position.skip 1) rest
      if suffix.value.isEmpty then throw ⟨.expected "tag URI", suffix.position⟩
      return ⟨.tag (.ofList ('!' :: word.value ++ ['!'])) (.ofList suffix.value), suffix.position, suffix.rest⟩
    | _ => do
      let more ← scanTagText false word.position word.rest
      let suffix := word.value ++ more.value
      let token := if suffix.isEmpty then Token.tag "" "!" else .tag "!" (.ofList suffix)
      return ⟨token, more.position, more.rest⟩

def scanVersionNumber (position : Position) (input : List Char) : Except Fault (Taken Nat) := do
  let digits := takeWhile Text.isDigit position input
  if digits.value.isEmpty || 9 < digits.value.length then throw ⟨.expected "version number", digits.position⟩
  return ⟨Text.digitsValue digits.value, digits.position, digits.rest⟩

def scanVersionDirective (position : Position) (input : List Char) : Except Fault (Taken Token) := do
  let blanks := takeWhile isBlank position input
  let major ← scanVersionNumber blanks.position blanks.rest
  match major.rest with
  | '.' :: rest =>
    let minor ← scanVersionNumber (major.position.skip 1) rest
    return ⟨.versionDirective major.value minor.value, minor.position, minor.rest⟩
  | _ => throw ⟨.expected "digit or '.' character", major.position⟩

/-- The handle of a tag directive: an exclamation mark alone, or a word between two. -/
def scanHandle (position : Position) (input : List Char) : Except Fault (Taken String) := do
  match input with
  | '!' :: rest =>
    let word := takeWhile isWordChar (position.skip 1) rest
    match word.rest with
    | '!' :: rest => return ⟨.ofList ('!' :: word.value ++ ['!']), word.position.skip 1, rest⟩
    | _ =>
      if !word.value.isEmpty then throw ⟨.expected "'!'", word.position⟩
      return ⟨"!", word.position, word.rest⟩
  | _ => throw ⟨.expected "'!'", position⟩

def scanTagDirective (position : Position) (input : List Char) : Except Fault (Taken Token) := do
  let blanks := takeWhile isBlank position input
  let handle ← scanHandle blanks.position blanks.rest
  let blanks := takeWhile isBlank handle.position handle.rest
  if blanks.value.isEmpty then throw ⟨.expected "whitespace", handle.position⟩
  let start ← scanTagText true blanks.position blanks.rest
  if start.value.isEmpty then throw ⟨.expected "tag URI", start.position⟩
  if !endsWord start.rest then throw ⟨.expected "whitespace or line break", start.position⟩
  return ⟨.tagDirective handle.value (.ofList start.value), start.position, start.rest⟩

/-- A directive after its percent sign, up to the end of its line. -/
def scanDirective (position : Position) (input : List Char) : Except Fault (Taken Token) := do
  let name := takeWhile isWordChar position input
  if name.value.isEmpty then throw ⟨.expected "directive name", name.position⟩
  if !endsWord name.rest then throw ⟨.unexpected "non-alphabetical character", name.position⟩
  let directive ← match String.ofList name.value with
    | "YAML" => scanVersionDirective name.position name.rest
    | "TAG" => scanTagDirective name.position name.rest
    | _ => throw ⟨.unexpected "directive name", position⟩
  let blanks := takeWhile isBlank directive.position directive.rest
  let ending :=
    if blanks.rest.head? = some '#' then takeWhile (!isBreak ·) blanks.position blanks.rest else { blanks with value := [] }
  if !endsLine ending.rest then throw ⟨.expected "comment or line break", ending.position⟩
  return ⟨directive.value, ending.position, ending.rest⟩

end Linkage.Yaml
