/-! Character classes of YAML, and positions in a text. -/

namespace Linkage.Yaml

/-- Line feed, carriage return, next line, line separator and paragraph separator end a line. -/
def isBreak (c : Char) : Bool :=
  c = '\n' || c = '\r' || c = '\u0085' || c = '\u2028' || c = '\u2029'

def isBlank (c : Char) : Bool :=
  c = ' ' || c = '\t'

/-- Whether a word ends before the rest of a text. -/
def endsWord : List Char → Bool
  | [] => true
  | c :: _ => isBlank c || isBreak c

/-- Whether a line ends before the rest of a text. -/
def endsLine : List Char → Bool
  | [] => true
  | c :: _ => isBreak c

def isWordChar (c : Char) : Bool :=
  ('0' ≤ c && c ≤ '9') || ('A' ≤ c && c ≤ 'Z') || ('a' ≤ c && c ≤ 'z') || c = '_' || c = '-'

/-- The characters that a text may hold. -/
def isAllowed (c : Char) : Bool :=
  let n := c.toNat
  n = 0x9 || n = 0xA || n = 0xD || (0x20 ≤ n && n ≤ 0x7E) || n = 0x85 || (0xA0 ≤ n && n ≤ 0xFFFD) || 0x10000 ≤ n

/-- A document marker at the start of a line: three hyphens or three points, and the end of a word. -/
def isMarker : List Char → Bool
  | '-' :: '-' :: '-' :: rest => endsWord rest
  | '.' :: '.' :: '.' :: rest => endsWord rest
  | _ => false

structure Position where
  index : Nat := 0
  line : Nat := 0
  column : Nat := 0
  deriving DecidableEq, Repr, Inhabited

namespace Position

/-- The place after some characters on the same line. -/
def skip (position : Position) (count : Nat) : Position :=
  { position with index := position.index + count, column := position.column + count }

/-- The place after a line break of some characters. -/
def nextLine (position : Position) (count : Nat) : Position :=
  ⟨position.index + count, position.line + 1, 0⟩

end Position

/-- A line break at the front of a text: what it stands for in a scalar, how many characters it takes, and the rest.
The separators of lines and paragraphs stand for themselves, all others for a line feed. -/
def splitBreak? : List Char → Option (Char × Nat × List Char)
  | '\r' :: '\n' :: rest => some ('\n', 2, rest)
  | c :: rest =>
    if c = '\u2028' || c = '\u2029' then some (c, 1, rest)
    else if isBreak c then some ('\n', 1, rest)
    else none
  | [] => none

inductive Problem where
  | controlCharacter
  | expected (what : String)
  | unexpected (what : String)
  | unknownAnchor
  | severalDocuments
  | wrongShape
  deriving DecidableEq, Repr

structure Fault where
  problem : Problem
  position : Position := {}
  deriving DecidableEq, Repr

def Problem.text : Problem → String
  | controlCharacter => "control characters are not allowed"
  | expected what => "did not find expected " ++ what
  | unexpected what => "found unexpected " ++ what
  | unknownAnchor => "unknown anchor"
  | severalDocuments => "found more than one document"
  | wrongShape => "the document does not have the expected shape"

def Fault.text (fault : Fault) : String :=
  fault.problem.text ++ " at line " ++ toString (fault.position.line + 1) ++ " column " ++
    toString (fault.position.column + 1)

end Linkage.Yaml
