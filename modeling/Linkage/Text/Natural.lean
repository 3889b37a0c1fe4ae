/-! Natural numbers below a bound, read from decimal digits. -/

namespace Linkage.Text

/-- One more than the largest number that fits a 64-bit word. -/
def wordLimit : Nat := Nat.pow 2 64

def wordOf? (value : Nat) : Option UInt64 :=
  if value < wordLimit then some (.ofNat value) else none

/-- A number as a signed 64-bit word, when it fits one. -/
def signedWord? (value : Nat) : Option Int :=
  if value < wordLimit / 2 then some value else none

def isDigit (c : Char) : Bool :=
  '0' ≤ c && c ≤ '9'

def digitsValue (digits : List Char) : Nat :=
  digits.foldl (fun value c => 10 * value + (c.toNat - '0'.toNat)) 0

/-- A number in decimal digits that is below the word limit; one plus sign may precede it. -/
def natural? (text : List Char) : Option Nat :=
  let digits := match text with
    | '+' :: rest => rest
    | other => other
  let value := digitsValue digits
  if !digits.isEmpty && digits.all isDigit && value < wordLimit then some value else none

end Linkage.Text
