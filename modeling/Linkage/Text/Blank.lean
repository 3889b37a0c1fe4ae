/-! White space as the Unicode standard defines it, and the cutting of texts at its edges and at separators. -/

namespace Linkage.Text

/-- The characters with the property `White_Space`. -/
def isBlank (c : Char) : Bool :=
  let n := c.toNat
  (0x9 ≤ n && n ≤ 0xD) || n = 0x20 || n = 0x85 || n = 0xA0 || n = 0x1680 || (0x2000 ≤ n && n ≤ 0x200A) ||
    n = 0x2028 || n = 0x2029 || n = 0x202F || n = 0x205F || n = 0x3000

def trimStart (text : List Char) : List Char :=
  text.dropWhile isBlank

def trimEnd (text : List Char) : List Char :=
  (text.reverse.dropWhile isBlank).reverse

def trim (text : List Char) : List Char :=
  trimEnd (trimStart text)

/-- The parts between the separators; a text without one is its own only part. -/
def fields (separator : Char) : List Char → List (List Char)
  | [] => [[]]
  | c :: rest =>
    if c = separator then [] :: fields separator rest
    else match fields separator rest with
      | [] => [[c]]
      | first :: others => (c :: first) :: others

/-- The texts before and after the first separator, when there is one. -/
def cut (separator : Char) : List Char → Option (List Char × List Char)
  | [] => none
  | c :: rest =>
    if c = separator then some ([], rest)
    else (cut separator rest).map fun (before, after) => (c :: before, after)

/-- The texts before and after the last separator, when there is one. -/
def cutLast (separator : Char) (text : List Char) : Option (List Char × List Char) :=
  (cut separator text.reverse).map fun (after, before) => (before.reverse, after.reverse)

/-- The parts between the places where a separator of several characters stands; the first `skip` characters belong to
a separator that was found before. -/
def fieldsBetween (separator : List Char) (skip : Nat) : List Char → List (List Char)
  | [] => [[]]
  | c :: rest =>
    match skip with
    | skip + 1 => fieldsBetween separator skip rest
    | 0 =>
      if separator.isPrefixOf (c :: rest) then [] :: fieldsBetween separator (separator.length - 1) rest
      else match fieldsBetween separator 0 rest with
        | [] => [[c]]
        | first :: others => (c :: first) :: others

/-- The lines of a text. A line feed ends a line and takes a carriage return before it along. -/
def lines (text : List Char) : List (List Char) :=
  let parts := fields '\n' text
  let ended := parts.dropLast.map fun line => if line.getLast? = some '\r' then line.dropLast else line
  match parts.getLast? with
  | none | some [] => ended
  | some last => ended ++ [last]

def occursIn (part : List Char) : List Char → Bool
  | [] => part.isEmpty
  | c :: rest => part.isPrefixOf (c :: rest) || occursIn part rest

def trimmed (text : String) : String :=
  .ofList (trim text.toList)

def join (separator : String) : List String → String
  | [] => ""
  | [only] => only
  | first :: rest => first ++ separator ++ join separator rest

end Linkage.Text
