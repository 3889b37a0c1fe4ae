/-! Binary floating-point numbers of 64 bits, as exact values. A number is read as the nearest value to a fraction,
ties going to the even mantissa, and written with the fewest decimal digits that read back as the same value. -/

namespace Linkage

/-- A finite value is `mantissa * 2 ^ exponent`, with a mantissa below `2 ^ 53` and an exponent from -1074 on. -/
inductive Binary64 where
  | notANumber
  | infinite (negative : Bool)
  | finite (negative : Bool) (mantissa : Nat) (exponent : Int)
  deriving DecidableEq, Repr, Inhabited

namespace Binary64

def leastExponent : Int := -1074

/-- The whole number nearest to a fraction; a half goes to the even neighbour. -/
def roundToEven (numerator denominator : Nat) : Nat :=
  let whole := numerator / denominator
  let twice := 2 * (numerator % denominator)
  if twice < denominator then whole
  else if denominator < twice then whole + 1
  else whole + whole % 2

def scaled (numerator denominator : Nat) (exponent : Int) : Nat × Nat :=
  if exponent < 0 then (numerator * Nat.pow 2 exponent.natAbs, denominator)
  else (numerator, denominator * Nat.pow 2 exponent.natAbs)

def nearest (negative : Bool) (numerator denominator : Nat) : Binary64 :=
  if numerator = 0 then .finite negative 0 leastExponent
  else
    let guess : Int := (numerator.log2 : Int) - denominator.log2 - 53
    let (top, bottom) := scaled numerator denominator guess
    let full := if top < bottom * Nat.pow 2 53 then guess else guess + 1
    let exponent := max full leastExponent
    let (top, bottom) := scaled numerator denominator exponent
    let mantissa := roundToEven top bottom
    let (mantissa, exponent) := if mantissa = Nat.pow 2 53 then (Nat.pow 2 52, exponent + 1) else (mantissa, exponent)
    if 971 < exponent then .infinite negative else .finite negative mantissa exponent

/-- The value nearest to `digits * 10 ^ power`. Magnitudes far outside the format are settled by their size alone. -/
def ofDecimal (negative : Bool) (digits : Nat) (power : Int) : Binary64 :=
  let size : Int := (digits.log2 : Int) / 3 + power
  if digits = 0 || size < -800 then .finite negative 0 leastExponent
  else if 800 < size then .infinite negative
  else if power < 0 then nearest negative digits (Nat.pow 10 power.natAbs)
  else nearest negative (digits * Nat.pow 10 power.natAbs) 1

def fraction (mantissa : Nat) (exponent : Int) : Nat × Nat :=
  if exponent < 0 then (mantissa, Nat.pow 2 exponent.natAbs) else (mantissa * Nat.pow 2 exponent.natAbs, 1)

/-- The value nearest to a fraction that is not too large, as a fraction. -/
def rounded (numerator denominator : Nat) : Nat × Nat :=
  match nearest false numerator denominator with
  | finite _ mantissa exponent => fraction mantissa exponent
  | _ => (numerator, denominator)

/-- The power of ten of the leading digit of a positive fraction. -/
def leadingPower (numerator denominator : Nat) : Int :=
  let below (power : Int) : Bool :=
    if power < 0 then numerator * Nat.pow 10 power.natAbs < denominator
    else numerator < denominator * Nat.pow 10 power.natAbs
  let guess : Int := (((numerator.log2 : Int) - denominator.log2) * 30103) / 100000
  if below guess then guess - 1
  else if below (guess + 1) then guess
  else guess + 1

/-- Whether reading `digits * 10 ^ power` gives the value back. -/
def readsBack (mantissa : Nat) (exponent : Int) (digits : Nat) (power : Int) : Bool :=
  ofDecimal false digits power = .finite false mantissa exponent

/-- The decimal with `count` digits that reads back, the nearer one of two. -/
def shortestOf (mantissa : Nat) (exponent : Int) (count : Nat) : Option (Nat × Int) :=
  let (numerator, denominator) := fraction mantissa exponent
  let power := leadingPower numerator denominator - count + 1
  let (top, bottom) :=
    if power < 0 then (numerator * Nat.pow 10 power.natAbs, denominator)
    else (numerator, denominator * Nat.pow 10 power.natAbs)
  let low := top / bottom
  let near := roundToEven top bottom
  let far := if near = low then low + 1 else low
  if readsBack mantissa exponent near power then some (near, power)
  else if readsBack mantissa exponent far power then some (far, power)
  else none

/-- The fewest digits that read back, and the power of ten they are multiplied with. -/
def shortest (mantissa : Nat) (exponent : Int) : Nat × Int :=
  ((List.range 17).findSome? fun count => shortestOf mantissa exponent (count + 1)).getD (0, 0)

/-- Zeros at the end of the digits move into the power. -/
def stripZeros : Nat → Nat × Int → Nat × Int
  | 0, decimal => decimal
  | fuel + 1, (digits, power) =>
    if digits ≠ 0 && digits % 10 = 0 then stripZeros fuel (digits / 10, power + 1) else (digits, power)

private def zeros (count : Nat) : String :=
  .ofList (List.replicate count '0')

/-- Positional notation serves magnitudes from `10 ^ -5` up to below `10 ^ 16`, and always shows a point. -/
def magnitudeText (mantissa : Nat) (exponent : Int) : String :=
  if mantissa = 0 then "0.0"
  else
    let (value, power) := stripZeros 17 (shortest mantissa exponent)
    let digits := toString value
    let count := digits.length
    let point := power + count
    if 0 ≤ power && point ≤ 16 then digits ++ zeros power.natAbs ++ ".0"
    else if 0 < point && point ≤ 16 then
      .ofList (digits.toList.take point.natAbs) ++ "." ++ .ofList (digits.toList.drop point.natAbs)
    else if -5 < point && point ≤ 0 then "0." ++ zeros point.natAbs ++ digits
    else
      let fractionDigits := digits.toList.drop 1
      let rest := if fractionDigits.isEmpty then "" else "." ++ .ofList fractionDigits
      .ofList (digits.toList.take 1) ++ rest ++ "e" ++ toString (point - 1)

/-- The text of a value; the special values have the spellings of YAML. -/
def text : Binary64 → String
  | .notANumber => ".nan"
  | .infinite negative => if negative then "-.inf" else ".inf"
  | .finite negative mantissa exponent => (if negative then "-" else "") ++ magnitudeText mantissa exponent

end Binary64
end Linkage
