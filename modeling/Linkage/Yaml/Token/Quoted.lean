import Linkage.Yaml.Scalar

/-! Quoted scalars. Line breaks inside them fold: a single one stands for a space, and of several the first is
dropped. White space around a break is dropped. -/

namespace Linkage.Yaml

/-- White space that was read and whose meaning depends on what follows. -/
inductive Pending where
  | none
  /-- Blanks on the same line, the latest first. -/
  | blanks (taken : List Char)
  /-- A first break, which an escaped one is not, and the breaks after it, the latest first. -/
  | breaks (first : Option Char) (others : List Char)
  deriving DecidableEq, Repr

namespace Pending

def isBreaks : Pending → Bool
  | breaks _ _ => true
  | _ => false

/-- A blank; after a break it is dropped. -/
def addBlank (c : Char) : Pending → Pending
  | none => blanks [c]
  | blanks taken => blanks (c :: taken)
  | breaks first others => breaks first others

/-- A break; the blanks before it are dropped. -/
def addBreak (c : Char) : Pending → Pending
  | breaks first others => breaks first (c :: others)
  | _ => breaks (some c) []

/-- What the white space stands for, the latest first. -/
def folded : Pending → List Char
  | none => []
  | blanks taken => taken
  | breaks (some '\n') [] => [' ']
  | breaks (some '\n') others => others
  | breaks first others => others ++ first.toList

end Pending

/-- A scalar that was read: its text, the place after it, and the rest of the text. -/
structure Scanned where
  text : String
  position : Position
  rest : List Char

/-- Reads a scalar in single quotes after the opening quote; the text so far is given the latest first. -/
def scanSingleQuoted (position : Position) (text : List Char) (pending : Pending) :
    List Char → Except Fault Scanned
  | [] => throw ⟨.unexpected "end of stream", position⟩
  | '\'' :: '\'' :: rest =>
    scanSingleQuoted (position.skip 2) ('\'' :: (pending.folded ++ text)) .none rest
  | '\'' :: rest => return ⟨.ofList (pending.folded ++ text).reverse, position.skip 1, rest⟩
  | '\r' :: '\n' :: rest => scanSingleQuoted (position.nextLine 2) text (pending.addBreak '\n') rest
  | c :: rest =>
    if isBlank c then scanSingleQuoted (position.skip 1) text (pending.addBlank c) rest
    else if c = '\u2028' || c = '\u2029' then scanSingleQuoted (position.nextLine 1) text (pending.addBreak c) rest
    else if isBreak c then scanSingleQuoted (position.nextLine 1) text (pending.addBreak '\n') rest
    else if position.column = 0 && isMarker (c :: rest) then throw ⟨.unexpected "document indicator", position⟩
    else scanSingleQuoted (position.skip 1) (c :: (pending.folded ++ text)) .none rest

/-- What a backslash and a character stand for. -/
def simpleEscape? : Char → Option Char
  | '0' => some '\x00'
  | 'a' => some '\x07'
  | 'b' => some '\x08'
  | 't' | '\t' => some '\t'
  | 'n' => some '\n'
  | 'v' => some '\x0b'
  | 'f' => some '\x0c'
  | 'r' => some '\r'
  | 'e' => some '\x1b'
  | ' ' => some ' '
  | '"' => some '"'
  | '/' => some '/'
  | '\\' => some '\\'
  | 'N' => some '\u0085'
  | '_' => some '\u00a0'
  | 'L' => some '\u2028'
  | 'P' => some '\u2029'
  | _ => none

/-- The character of a code point in hexadecimal digits. -/
def codePoint? (digits : List Char) : Option Char := do
  let value ← radixValue? 16 digits
  guard (!(0xD800 ≤ value && value ≤ 0xDFFF) && value ≤ 0x10FFFF)
  return .ofNat value

/-- Reads a scalar in double quotes after the opening quote; the text so far is given the latest first. -/
def scanDoubleQuoted (position : Position) (text : List Char) (pending : Pending) :
    List Char → Except Fault Scanned
  | [] => throw ⟨.unexpected "end of stream", position⟩
  | '"' :: rest => return ⟨.ofList (pending.folded ++ text).reverse, position.skip 1, rest⟩
  | '\r' :: '\n' :: rest => scanDoubleQuoted (position.nextLine 2) text (pending.addBreak '\n') rest
  | '\\' :: '\r' :: '\n' :: rest =>
    scanDoubleQuoted (position.nextLine 3) (pending.folded ++ text) (.breaks none []) rest
  | '\\' :: 'x' :: a :: b :: rest =>
    match codePoint? [a, b] with
    | some c => scanDoubleQuoted (position.skip 4) (c :: (pending.folded ++ text)) .none rest
    | none => throw ⟨.expected "hexadecimal number", position⟩
  | '\\' :: 'u' :: a :: b :: c :: d :: rest =>
    match codePoint? [a, b, c, d] with
    | some c => scanDoubleQuoted (position.skip 6) (c :: (pending.folded ++ text)) .none rest
    | none => throw ⟨.expected "hexadecimal number", position⟩
  | '\\' :: 'U' :: a :: b :: c :: d :: e :: f :: g :: h :: rest =>
    match codePoint? [a, b, c, d, e, f, g, h] with
    | some c => scanDoubleQuoted (position.skip 10) (c :: (pending.folded ++ text)) .none rest
    | none => throw ⟨.expected "hexadecimal number", position⟩
  | '\\' :: c :: rest =>
    if isBreak c then scanDoubleQuoted (position.nextLine 2) (pending.folded ++ text) (.breaks none []) rest
    else
      match simpleEscape? c with
      | some c => scanDoubleQuoted (position.skip 2) (c :: (pending.folded ++ text)) .none rest
      | none => throw ⟨.unexpected "escape character", position⟩
  | c :: rest =>
    if isBlank c then scanDoubleQuoted (position.skip 1) text (pending.addBlank c) rest
    else if c = '\u2028' || c = '\u2029' then scanDoubleQuoted (position.nextLine 1) text (pending.addBreak c) rest
    else if isBreak c then scanDoubleQuoted (position.nextLine 1) text (pending.addBreak '\n') rest
    else if position.column = 0 && isMarker (c :: rest) then throw ⟨.unexpected "document indicator", position⟩
    else scanDoubleQuoted (position.skip 1) (c :: (pending.folded ++ text)) .none rest

end Linkage.Yaml
