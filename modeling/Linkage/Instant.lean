import Linkage.Elapsed
import Linkage.Text.Blank
import Linkage.Text.Natural

/-! Instants of time, and their texts as dates and times of day. Dates follow the Gregorian calendar in all years. -/

namespace Linkage

/-- The number of days from the start of 1970 to a date. Years are counted from March, so that a leap day ends one. -/
def daysOfDate (year : Int) (month day : Nat) : Int :=
  let marchYear := if month ≤ 2 then year - 1 else year
  let era := marchYear.fdiv 400
  let yearOfEra := marchYear - era * 400
  let monthFromMarch : Int := if 2 < month then (month : Int) - 3 else month + 9
  let dayOfYear := (153 * monthFromMarch + 2).fdiv 5 + day - 1
  let dayOfEra := yearOfEra * 365 + yearOfEra.fdiv 4 - yearOfEra.fdiv 100 + dayOfYear
  era * 146097 + dayOfEra - 719468

def dateOfDays (days : Int) : Int × Nat × Nat :=
  let shifted := days + 719468
  let era := shifted.fdiv 146097
  let dayOfEra := shifted - era * 146097
  let yearOfEra := (dayOfEra - dayOfEra.fdiv 1460 + dayOfEra.fdiv 36524 - dayOfEra.fdiv 146096).fdiv 365
  let dayOfYear := dayOfEra - (365 * yearOfEra + yearOfEra.fdiv 4 - yearOfEra.fdiv 100)
  let monthFromMarch := (5 * dayOfYear + 2).fdiv 153
  let day := dayOfYear - (153 * monthFromMarch + 2).fdiv 5 + 1
  let month := if monthFromMarch < 10 then monthFromMarch + 3 else monthFromMarch - 9
  let year := yearOfEra + era * 400 + (if month ≤ 2 then 1 else 0)
  (year, month.toNat, day.toNat)

def isLeapYear (year : Int) : Bool :=
  year % 4 = 0 && (year % 100 ≠ 0 || year % 400 = 0)

def daysInMonth (year : Int) (month : Nat) : Nat :=
  if month = 2 then if isLeapYear year then 29 else 28
  else if [4, 6, 9, 11].contains month then 30
  else 31

/-- An instant in the years that dates are given for. -/
structure Instant where
  /-- Seconds since the start of 1970, not counting leap seconds. -/
  seconds : Int
  /-- Nanoseconds of the second; a leap second has those of two seconds. -/
  nanoseconds : Nat := 0
  seconds_small : seconds.natAbs < 10000000000000 := by decide
  nanoseconds_small : nanoseconds < 2 * nanosecondsPerSecond := by decide
  deriving DecidableEq, Repr

namespace Instant

def ofParts? (seconds : Int) (nanoseconds : Nat) : Option Instant :=
  if small : seconds.natAbs < 10000000000000 ∧ nanoseconds < 2 * nanosecondsPerSecond then
    some ⟨seconds, nanoseconds, small.1, small.2⟩
  else none

def secondOfDay (instant : Instant) : Int :=
  instant.seconds.fmod 86400

def isLeap (instant : Instant) : Bool :=
  nanosecondsPerSecond ≤ instant.nanoseconds

/-- A leap second between two instants is known of only if one of them lies in it. It has passed when the other one has a
later time of day. -/
def leapSeconds (later earlier : Instant) : Int :=
  if earlier.secondOfDay < later.secondOfDay && earlier.isLeap then 1
  else if later.secondOfDay < earlier.secondOfDay && later.isLeap then -1
  else 0

/-- The nanoseconds from one instant to a later one; negative when it is earlier. -/
def since (later earlier : Instant) : Int :=
  (later.seconds - earlier.seconds + leapSeconds later earlier) * nanosecondsPerSecond +
    (later.nanoseconds - earlier.nanoseconds)

def ofDate? (year : Int) (month day hour minute second nanosecond : Nat) (offset : Int) : Option Instant := do
  guard (-262143 ≤ year && year ≤ 262142 && 1 ≤ month && month ≤ 12 && 1 ≤ day && day ≤ daysInMonth year month)
  guard (hour ≤ 23 && minute ≤ 59 && second ≤ 60 && offset.natAbs < 86400)
  -- A leap second is the second before it, with the nanoseconds of two.
  let (second, nanosecond) := if second = 60 then (59, nanosecond + nanosecondsPerSecond) else (second, nanosecond)
  let instant ← ofParts?
    (daysOfDate year month day * 86400 + hour * 3600 + minute * 60 + second - offset) nanosecond
  let (shownYear, _, _) := dateOfDays (instant.seconds.fdiv 86400)
  guard (-262143 ≤ shownYear && shownYear ≤ 262142)
  return instant

private def padded (width value : Nat) : String :=
  let digits := toString value
  .ofList (List.replicate (width - digits.length) '0') ++ digits

private def yearText (year : Int) : String :=
  if 0 ≤ year && year ≤ 9999 then padded 4 year.toNat
  else (if year < 0 then "-" else "+") ++ padded 4 year.natAbs

/-- A fraction of a second, with as few groups of three digits as show it. -/
private def fractionText (nanoseconds : Nat) : String :=
  if nanoseconds = 0 then ""
  else if nanoseconds % 1000000 = 0 then "." ++ padded 3 (nanoseconds / 1000000)
  else if nanoseconds % 1000 = 0 then "." ++ padded 6 (nanoseconds / 1000)
  else "." ++ padded 9 nanoseconds

def text (instant : Instant) : String :=
  let (year, month, day) := dateOfDays (instant.seconds.fdiv 86400)
  let inDay := (instant.seconds.fmod 86400).toNat
  let (second, nanosecond) :=
    if instant.nanoseconds < nanosecondsPerSecond then (inDay % 60, instant.nanoseconds)
    else (inDay % 60 + 1, instant.nanoseconds - nanosecondsPerSecond)
  yearText year ++ "-" ++ padded 2 month ++ "-" ++ padded 2 day ++ "T" ++ padded 2 (inDay / 3600) ++ ":" ++
    padded 2 (inDay / 60 % 60) ++ ":" ++ padded 2 second ++ fractionText nanosecond ++ "Z"

/-- A number of at most so many digits, after white space. -/
def number? (most : Nat) (input : List Char) : Option (Nat × List Char) := do
  let input := Text.trimStart input
  let digits := (input.take most).takeWhile Text.isDigit
  guard !digits.isEmpty
  return (Text.digitsValue digits, input.drop digits.length)

/-- A year has at most four digits, or a sign and any number of them. -/
def year? (input : List Char) : Option (Int × List Char) := do
  match Text.trimStart input with
  | '-' :: rest => do
    guard (rest.head?.any Text.isDigit)
    let (value, rest) ← number? rest.length rest
    return (-value, rest)
  | '+' :: rest => do
    guard (rest.head?.any Text.isDigit)
    let (value, rest) ← number? rest.length rest
    return (value, rest)
  | input => do
    let (value, rest) ← number? 4 input
    return (value, rest)

def separator? (separator : Char) (input : List Char) : Option (List Char) :=
  match Text.trimStart input with
  | c :: rest => if c = separator then some rest else none
  | [] => none

/-- A fraction of a second, whose digits after the ninth do not count. -/
def fraction? : List Char → Option (Nat × List Char)
  | '.' :: rest => do
    let digits := rest.takeWhile Text.isDigit
    guard !digits.isEmpty
    let counted := digits.take 9
    return (Text.digitsValue counted * Nat.pow 10 (9 - counted.length), rest.drop digits.length)
  | input => some (0, input)

private def twoDigits? : List Char → Option (Nat × List Char)
  | a :: b :: rest => if Text.isDigit a && Text.isDigit b then some (Text.digitsValue [a, b], rest) else none
  | _ => none

/-- The seconds by which a clock is ahead of UTC: a letter, a word, or a sign with hours and minutes. -/
def offset? (input : List Char) : Option (Int × List Char) := do
  if (input.take 3).map Char.toUpper = ['U', 'T', 'C'] then return (0, input.drop 3)
  match input with
  | [] => none
  | sign :: rest =>
    if sign = 'Z' || sign = 'z' then return (0, rest)
    guard (sign = '+' || sign = '-' || sign = '\u2212')
    let (hours, rest) ← twoDigits? rest
    let (minutes, rest) ← twoDigits? (rest.dropWhile fun c => c = ':' || Text.isBlank c)
    guard (minutes ≤ 59)
    let seconds : Int := hours * 3600 + minutes * 60
    return (if sign = '+' then seconds else -seconds, rest)

/-- Reads a date and a time of day with an offset; a letter or a blank stands between date and time, and white space
may stand before each number and separator. -/
def parse? (text : String) : Option Instant := do
  let (year, input) ← year? text.toList
  let (month, input) ← number? 2 (← separator? '-' input)
  let (day, input) ← number? 2 (← separator? '-' input)
  guard (input.head?.any fun c => c = 'T' || c = 't' || c = ' ')
  let (hour, input) ← number? 2 (input.drop 1)
  let (minute, input) ← number? 2 (← separator? ':' input)
  let (second, input) ← number? 2 (← separator? ':' input)
  let (nanosecond, input) ← fraction? input
  let (offset, input) ← offset? (Text.trimStart input)
  guard (Text.trimStart input).isEmpty
  ofDate? year month day hour minute second nanosecond offset

end Instant
end Linkage
