import Linkage.Json.Basic
import Linkage.Yaml.Character

/-! Scalars: how they are written, and what a plain one stands for. -/

namespace Linkage.Yaml

inductive ScalarStyle where
  | plain
  | singleQuoted
  | doubleQuoted
  | literal
  | folded
  deriving DecidableEq, Repr, Inhabited

inductive Scalar where
  | null
  | boolean (value : Bool)
  | number (value : Number)
  | text (value : String)
  deriving DecidableEq, Repr

/-- The value of a digit in a radix; the digits beyond nine are letters in either case. -/
def digitValue? (radix : Nat) (c : Char) : Option Nat :=
  let value :=
    if '0' ≤ c && c ≤ '9' then some (c.toNat - '0'.toNat)
    else if 'a' ≤ c && c ≤ 'f' then some (c.toNat - 'a'.toNat + 10)
    else if 'A' ≤ c && c ≤ 'F' then some (c.toNat - 'A'.toNat + 10)
    else none
  value.filter (· < radix)

def radixValue? (radix : Nat) (digits : List Char) : Option Nat := do
  guard !digits.isEmpty
  digits.foldlM (fun value c => do return value * radix + (← digitValue? radix c)) 0

/-- Digits after a needless zero, maybe with a sign, are a text. -/
def isPaddedDigits (text : List Char) : Bool :=
  let unsigned := match text with
    | '-' :: rest | '+' :: rest => rest
    | rest => rest
  match unsigned with
  | '0' :: rest => !rest.isEmpty && rest.all Text.isDigit
  | _ => false

/-- The digits of a number and its radix. -/
def splitRadix : List Char → Nat × List Char
  | '0' :: 'x' :: digits => (16, digits)
  | '0' :: 'o' :: digits => (8, digits)
  | '0' :: 'b' :: digits => (2, digits)
  | digits => (10, digits)

/-- A whole number that is not negative; a plus sign may precede it. -/
def naturalValue? (text : List Char) : Option Nat := do
  let unsigned := match text with
    | '+' :: rest => rest
    | rest => rest
  let (radix, digits) := splitRadix unsigned
  guard (radix ≠ 10 || !isPaddedDigits text)
  radixValue? radix digits

def negativeValue? : List Char → Option Nat
  | '-' :: rest => do
    let (radix, digits) := splitRadix rest
    guard (radix ≠ 10 || !isPaddedDigits rest)
    radixValue? radix digits
  | _ => none

/-- The digits, point and exponent of a decimal number: its digits as one number, and the power of ten. -/
def decimalParts? (text : List Char) : Option (Nat × Int) := do
  let whole := text.takeWhile Text.isDigit
  let afterWhole := text.dropWhile Text.isDigit
  let (fraction, afterFraction) := match afterWhole with
    | '.' :: rest => (rest.takeWhile Text.isDigit, rest.dropWhile Text.isDigit)
    | rest => ([], rest)
  guard !(whole.isEmpty && fraction.isEmpty)
  let exponent ← match afterFraction with
    | [] => some 0
    | c :: rest => do
      guard (c = 'e' || c = 'E')
      let (negative, digits) := match rest with
        | '-' :: digits => (true, digits)
        | '+' :: digits => (false, digits)
        | digits => (false, digits)
      guard (!digits.isEmpty && digits.all Text.isDigit)
      let value : Int := Text.digitsValue digits
      pure (if negative then -value else value)
  return (Text.digitsValue (whole ++ fraction), exponent - fraction.length)

/-- A floating-point number; one that is too large is none. -/
def decimalValue? (text : List Char) : Option Binary64 := do
  let (sign, unsigned) := match text with
    | '+' :: rest => (some false, rest)
    | '-' :: rest => (some true, rest)
    | rest => (none, rest)
  let negative := sign.getD false
  if [".inf", ".Inf", ".INF"].contains (String.ofList unsigned) then return .infinite negative
  if sign.isNone && [".nan", ".NaN", ".NAN"].contains (String.ofList unsigned) then return .notANumber
  let (digits, power) ← decimalParts? unsigned
  match Binary64.ofDecimal negative digits power with
  | .finite negative mantissa exponent => return .finite negative mantissa exponent
  | _ => none

def isNullWord (text : String) : Bool :=
  text = "null" || text = "Null" || text = "NULL" || text = "~"

def boolean? (text : String) : Option Bool :=
  if text = "true" || text = "True" || text = "TRUE" then some true
  else if text = "false" || text = "False" || text = "FALSE" then some false
  else none

/-- Whole numbers up to this bound are refused when they do not fit a word; larger ones are floating-point numbers. -/
def wideLimit : Nat := Nat.pow 2 128

/-- A whole number. One that is too wide for a word, but not for two, has no value at all. -/
def whole? (text : List Char) : Option (Option Number) :=
  match naturalValue? text with
  | some value =>
    if value < Text.wordLimit then some (some (.natural value))
    else if value < wideLimit then some none
    else none
  | none =>
    match negativeValue? text with
    | some 0 => some (some (.natural 0))
    | some magnitude =>
      if magnitude ≤ Text.wordLimit / 2 then some (some (.negative magnitude))
      else if magnitude ≤ wideLimit / 2 then some none
      else none
    | none => none

/-- What a plain scalar stands for, unless it is a whole number that does not fit. -/
def Scalar.ofPlain? (text : String) : Option Scalar :=
  if text.isEmpty || isNullWord text then some .null
  else
    match boolean? text with
    | some value => some (.boolean value)
    | none =>
      let chars := text.toList
      match whole? chars with
      | some value => value.map .number
      | none =>
        if isPaddedDigits chars then some (.text text)
        else
          match decimalValue? chars with
          | some value => some (.number (.decimal value))
          | none => some (.text text)

end Linkage.Yaml
