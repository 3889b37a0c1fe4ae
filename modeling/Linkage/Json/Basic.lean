import Linkage.Binary64
import Linkage.Text.Natural

/-! Trees of data as JSON knows them. Fields keep their order, and a repeated field is kept. -/

namespace Linkage

/-- A number is whole and fits a 64-bit word, signed when it is negative, or it is a floating-point number. -/
inductive Number where
  | natural (value : Nat)
  | negative (magnitude : Nat)
  | decimal (value : Binary64)
  deriving DecidableEq, Repr, Inhabited

namespace Number

def text : Number → String
  | natural value => toString value
  | negative magnitude => "-" ++ toString magnitude
  | decimal value => value.text

/-- A whole number when it fits a word, else the nearest floating-point number. -/
def ofDigits (negative : Bool) (digits : List Char) : Number :=
  let value := Text.digitsValue digits
  if negative then
    if 0 < value && value ≤ Text.wordLimit / 2 then .negative value else .decimal (Binary64.ofDecimal true value 0)
  else if value < Text.wordLimit then .natural value
  else .decimal (Binary64.ofDecimal false value 0)

end Number

inductive Json where
  | null
  | boolean (value : Bool)
  | number (value : Number)
  | string (value : String)
  | list (items : List Json)
  | object (fields : List (String × Json))
  deriving Repr, Inhabited

namespace Json

def ofNat (value : Nat) : Json :=
  .number (.natural value)

def strings (items : List String) : Json :=
  .list (items.map .string)

def field? (name : String) : Json → Option Json
  | .object fields => (fields.find? (·.1 = name)).map (·.2)
  | _ => none

end Json
end Linkage
