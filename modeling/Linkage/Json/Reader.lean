import Linkage.Json.Basic

/-! Reading JSON text. The text is cut into tokens; an automaton that keeps the open containers on a stack then
consumes the tokens one by one, so that nesting needs no recursion. This gives the text as it is written, where a string
is known to have well-formed escapes. What the escapes stand for counts only where the string is used: a structure
passes over the values of unknown fields without a look at them. -/

namespace Linkage.Json

/-- JSON as it is written. Strings and keys are what stands between their quotes. -/
inductive Raw where
  | null
  | boolean (value : Bool)
  | number (value : Number)
  | string (written : List Char)
  | list (items : List Raw)
  | object (fields : List (List Char × Raw))

inductive Token where
  | openList
  | closeList
  | openObject
  | closeObject
  | comma
  | colon
  | scalar (value : Raw)

private def isSpace (c : Char) : Bool :=
  c = ' ' || c = '\n' || c = '\t' || c = '\r'

private def isNumberChar (c : Char) : Bool :=
  Text.isDigit c || c = '-' || c = '+' || c = '.' || c = 'e' || c = 'E'

private def hexValue? (c : Char) : Option Nat :=
  if '0' ≤ c && c ≤ '9' then some (c.toNat - '0'.toNat)
  else if 'a' ≤ c && c ≤ 'f' then some (c.toNat - 'a'.toNat + 10)
  else if 'A' ≤ c && c ≤ 'F' then some (c.toNat - 'A'.toNat + 10)
  else none

private def unit? (a b c d : Char) : Option Nat := do
  let a ← hexValue? a
  let b ← hexValue? b
  let c ← hexValue? c
  let d ← hexValue? d
  return ((a * 16 + b) * 16 + c) * 16 + d

private def escaped? : Char → Option Char
  | '"' => some '"'
  | '\\' => some '\\'
  | '/' => some '/'
  | 'b' => some '\x08'
  | 'f' => some '\x0c'
  | 'n' => some '\n'
  | 'r' => some '\r'
  | 't' => some '\t'
  | _ => none

/-- A string after its opening quote, as it is written up to the closing quote. -/
def scanString : List Char → Option (List Char)
  | [] => none
  | '"' :: _ => some []
  | '\\' :: 'u' :: a :: b :: c :: d :: rest => do
    let _ ← unit? a b c d
    return '\\' :: 'u' :: a :: b :: c :: d :: (← scanString rest)
  | '\\' :: c :: rest => do
    let _ ← escaped? c
    return '\\' :: c :: (← scanString rest)
  | c :: rest => do
    guard (0x20 ≤ c.toNat)
    return c :: (← scanString rest)

/-- The characters that a written string stands for. Code units above the basic plane come in pairs, and half a pair
stands for nothing. -/
def unescape? : List Char → Option (List Char)
  | [] => some []
  | '\\' :: 'u' :: a :: b :: c :: d :: rest => do
    let high ← unit? a b c d
    if 0xD800 ≤ high && high < 0xDC00 then
      match rest with
      | '\\' :: 'u' :: a :: b :: c :: d :: rest => do
        let low ← unit? a b c d
        guard (0xDC00 ≤ low && low < 0xE000)
        return .ofNat (0x10000 + (high - 0xD800) * 0x400 + (low - 0xDC00)) :: (← unescape? rest)
      | _ => none
    else
      guard (!(0xDC00 ≤ high && high < 0xE000))
      return .ofNat high :: (← unescape? rest)
  | '\\' :: c :: rest => do
    return (← escaped? c) :: (← unescape? rest)
  | c :: rest => do
    return c :: (← unescape? rest)

/-- The exponent of a number, after its digits. -/
private def exponent? : List Char → Option Int
  | [] => some 0
  | c :: rest => do
    guard (c = 'e' || c = 'E')
    let (negative, digits) := match rest with
      | '-' :: digits => (true, digits)
      | '+' :: digits => (false, digits)
      | digits => (false, digits)
    guard (!digits.isEmpty && digits.all Text.isDigit)
    let value : Int := Text.digitsValue digits
    return if negative then -value else value

/-- A number: digits without a needless zero in front, then maybe a fraction and an exponent. -/
def number? (text : List Char) : Option Number := do
  let (negative, unsigned) := match text with
    | '-' :: rest => (true, rest)
    | rest => (false, rest)
  let whole := unsigned.takeWhile Text.isDigit
  guard (!whole.isEmpty && (whole.length = 1 || whole.head? ≠ some '0'))
  match unsigned.dropWhile Text.isDigit with
  | [] => return Number.ofDigits negative whole
  | '.' :: rest =>
    let fraction := rest.takeWhile Text.isDigit
    guard !fraction.isEmpty
    let exponent ← exponent? (rest.dropWhile Text.isDigit)
    return .decimal (.ofDecimal negative (Text.digitsValue (whole ++ fraction)) (exponent - fraction.length))
  | rest =>
    let exponent ← exponent? rest
    return .decimal (.ofDecimal negative (Text.digitsValue whole) exponent)

private def literal? (word : List Char) : Option Raw :=
  match String.ofList word with
  | "null" => some .null
  | "true" => some (.boolean true)
  | "false" => some (.boolean false)
  | _ => none

def tokens : List Char → Option (List Token)
  | [] => some []
  | c :: rest =>
    if isSpace c then tokens rest
    else match c with
      | '[' => (tokens rest).map (.openList :: ·)
      | ']' => (tokens rest).map (.closeList :: ·)
      | '{' => (tokens rest).map (.openObject :: ·)
      | '}' => (tokens rest).map (.closeObject :: ·)
      | ',' => (tokens rest).map (.comma :: ·)
      | ':' => (tokens rest).map (.colon :: ·)
      | '"' =>
        match scanString rest with
        | some written => (tokens (rest.drop (written.length + 1))).map (.scalar (.string written) :: ·)
        | none => none
      | c =>
        if isNumberChar c && c ≠ 'e' && c ≠ 'E' then
          let more := rest.takeWhile isNumberChar
          match number? (c :: more) with
          | some value => (tokens (rest.drop more.length)).map (.scalar (.number value) :: ·)
          | none => none
        else
          let more := rest.takeWhile Char.isAlpha
          match literal? (c :: more) with
          | some value => (tokens (rest.drop more.length)).map (.scalar value :: ·)
          | none => none
termination_by text => text.length
decreasing_by all_goals (simp only [List.length_drop, List.length_cons]; omega)

/-- An open container with what it holds so far, the latest first. -/
inductive Frame where
  | list (items : List Raw)
  | object (fields : List (List Char × Raw)) (key : List Char)

inductive Expecting where
  | value
  | firstItem
  | firstKey (fields : List (List Char × Raw))
  | key (fields : List (List Char × Raw))
  | colon (fields : List (List Char × Raw)) (key : List Char)
  | afterValue (value : Raw)

abbrev Parse := Expecting × List Frame

private def opened : Token → List Frame → Option Parse
  | .openList, frames => some (.firstItem, frames)
  | .openObject, frames => some (.firstKey [], frames)
  | .scalar value, frames => some (.afterValue value, frames)
  | _, _ => none

/-- One token's effect. -/
def advance : Parse → Token → Option Parse
  | (.value, frames), token => opened token frames
  | (.firstItem, frames), .closeList => some (.afterValue (.list []), frames)
  | (.firstItem, frames), token => opened token (.list [] :: frames)
  | (.firstKey _, frames), .closeObject => some (.afterValue (.object []), frames)
  | (.firstKey fields, frames), .scalar (.string key) => some (.colon fields key, frames)
  | (.key fields, frames), .scalar (.string key) => some (.colon fields key, frames)
  | (.colon fields key, frames), .colon => some (.value, .object fields key :: frames)
  | (.afterValue value, .list items :: frames), .comma => some (.value, .list (value :: items) :: frames)
  | (.afterValue value, .list items :: frames), .closeList =>
    some (.afterValue (.list (value :: items).reverse), frames)
  | (.afterValue value, .object fields key :: frames), .comma => some (.key ((key, value) :: fields), frames)
  | (.afterValue value, .object fields key :: frames), .closeObject =>
    some (.afterValue (.object ((key, value) :: fields).reverse), frames)
  | _, _ => none

/-- The one value that a text holds, as it is written. -/
def readRaw? (text : String) : Option Raw := do
  match ← (← tokens text.toList).foldlM advance (.value, []) with
  | (.afterValue value, []) => some value
  | _ => none

namespace Raw

def textOf? (written : List Char) : Option String :=
  (unescape? written).map .ofList

mutual
def decode? : Raw → Option Json
  | null => some .null
  | boolean value => some (.boolean value)
  | number value => some (.number value)
  | string written => (textOf? written).map .string
  | list items => (decodeItems? items).map .list
  | object fields => (decodeFields? fields).map .object

def decodeItems? : List Raw → Option (List Json)
  | [] => some []
  | item :: rest => do
    return (← decode? item) :: (← decodeItems? rest)

def decodeFields? : List (List Char × Raw) → Option (List (String × Json))
  | [] => some []
  | (key, value) :: rest => do
    return (← textOf? key, ← decode? value) :: (← decodeFields? rest)
end

/-- The fields with the given names, and no others. All keys count. -/
def decodeKnown? (names : List String) : List (List Char × Raw) → Option (List (String × Json))
  | [] => some []
  | (key, value) :: rest => do
    let name ← textOf? key
    if names.contains name then return (name, ← decode? value) :: (← decodeKnown? names rest)
    else decodeKnown? names rest

end Raw

/-- The one value that a text holds. -/
def read? (text : String) : Option Json := do
  (← readRaw? text).decode?

/-- The one value that a text holds, without unknown fields if it is an object. -/
def readStructure? (names : List String) (text : String) : Option Json := do
  match ← readRaw? text with
  | .object fields => (Raw.decodeKnown? names fields).map .object
  | value => value.decode?

end Linkage.Json
