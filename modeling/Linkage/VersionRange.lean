import Linkage.Version

/-! Intervals of versions: `[1.0,2.0)` with square brackets for bounds that belong to the interval and round ones for
bounds that do not, `[1.0,)` and `(,2.0]` with one open end, and `[1.5]` or `1.5` for a single version. -/

namespace Linkage

structure Bound where
  version : Version
  inclusive : Bool
  deriving DecidableEq, Repr, Inhabited

namespace VersionRange

inductive Fault where
  | empty
  | unclosed
  | unopened
  | union
  | roundExact
  | squareLowerEnd
  | squareUpperEnd
  | tooManyCommas
  | badBound (bound : String) (fault : Version.Fault)
  | inverted
  | noVersions
  | unbounded
  deriving DecidableEq, Repr

def Fault.reason : Fault → String
  | empty => "range is empty"
  | unclosed => "missing closing bracket"
  | unopened => "missing opening bracket"
  | union => "unions of ranges are not supported"
  | roundExact => "an exact version must use '[' and ']'"
  | squareLowerEnd => "an unbounded lower end must use '('"
  | squareUpperEnd => "an unbounded upper end must use ')'"
  | tooManyCommas => "expected at most one ','"
  | badBound bound fault => "bad bound '" ++ bound ++ "': " ++ fault.reason
  | inverted => "bounds are inverted"
  | noVersions => "interval contains no versions"
  | unbounded => "at least one bound is required"

/-- What keeps two ends from being those of an interval: there must be a bound, and a version between two bounds. -/
def fault? : Option Bound → Option Bound → Option Fault
  | none, none => some .unbounded
  | some lower, some upper =>
    match lower.version.compare upper.version with
    | .gt => some .inverted
    | .eq => if lower.inclusive && upper.inclusive then none else some .noVersions
    | .lt => none
  | _, _ => none

end VersionRange

structure VersionRange where
  lower : Option Bound
  upper : Option Bound
  isInterval : VersionRange.fault? lower upper = none
  deriving DecidableEq, Repr

namespace VersionRange

def exact (version : Version) : VersionRange :=
  ⟨some ⟨version, true⟩, some ⟨version, true⟩, by simp [fault?, Version.compare_self]⟩

def atLeast (version : Version) : VersionRange :=
  ⟨some ⟨version, true⟩, none, rfl⟩

def ofBounds (lower upper : Option Bound) : Except Fault VersionRange :=
  match found : fault? lower upper with
  | some fault => throw fault
  | none => return ⟨lower, upper, found⟩

def isOpening (c : Char) : Bool :=
  c = '[' || c = '('

def isClosing (c : Char) : Bool :=
  c = ']' || c = ')'

def isBracket (c : Char) : Bool :=
  isOpening c || isClosing c

def readVersion (text : List Char) : Except Fault Version :=
  (Version.read text).mapError (.badBound (.ofList text))

/-- One end of an interval; `openEnd` is what is wrong with a square bracket at an end without bound. -/
def readBound (text : List Char) (inclusive : Bool) (openEnd : Fault) : Except Fault (Option Bound) :=
  if text.isEmpty then if inclusive then throw openEnd else return none
  else return some ⟨← readVersion text, inclusive⟩

def readInterval (inner : List Char) (lowerInclusive upperInclusive : Bool) : Except Fault VersionRange := do
  if inner.any isBracket then throw .union
  match (Text.fields ',' inner).map Text.trim with
  | [single] =>
    if !(lowerInclusive && upperInclusive) then throw .roundExact
    return exact (← readVersion single)
  | [lower, upper] =>
    let lower ← readBound lower lowerInclusive .squareLowerEnd
    let upper ← readBound upper upperInclusive .squareUpperEnd
    ofBounds lower upper
  | _ => throw .tooManyCommas

def read (text : List Char) : Except Fault VersionRange := do
  match Text.trim text with
  | [] => throw .empty
  | first :: rest =>
    -- In a text of one character the first is also the last one.
    let last := rest.getLast?.getD first
    match isOpening first, isClosing last with
    | true, true => readInterval rest.dropLast (first = '[') (last = ']')
    | true, false => throw .unclosed
    | false, true => throw .unopened
    | false, false => return exact (← readVersion (first :: rest))

def parse (text : String) : Except Error VersionRange :=
  (read text.toList).mapError fun fault => .malformedRange text fault.reason

def lowerInclusive (range : VersionRange) : Bool :=
  range.lower.any (·.inclusive)

def upperInclusive (range : VersionRange) : Bool :=
  range.upper.any (·.inclusive)

def isUpperUnbounded (range : VersionRange) : Bool :=
  range.upper.isNone

def contains (range : VersionRange) (version : Version) : Bool :=
  range.lower.all (fun bound => if bound.inclusive then !version.below bound.version else bound.version.below version) &&
    range.upper.all (fun bound => if bound.inclusive then !bound.version.below version else version.below bound.version)

/-- The bounds that belong to the range, in ascending order. -/
def inclusiveEndpoints (range : VersionRange) : List Version :=
  let lower := (range.lower.filter (·.inclusive)).map (·.version)
  let upper := (range.upper.filter (·.inclusive)).map (·.version)
  match lower, upper with
  | some lower, some upper => if lower.same upper then [lower] else [lower, upper]
  | _, _ => lower.toList ++ upper.toList

/-- A range of one version shows it alone. -/
def text (range : VersionRange) : String :=
  let interval :=
    (if range.lowerInclusive then "[" else "(") ++ (range.lower.elim "" (·.version.text)) ++ "," ++
      (range.upper.elim "" (·.version.text)) ++ (if range.upperInclusive then "]" else ")")
  match range.lower, range.upper with
  | some lower, some upper => if lower.version.same upper.version then "[" ++ lower.version.text ++ "]" else interval
  | _, _ => interval

instance : ToString VersionRange := ⟨text⟩

/-- Equality of bounds up to the spelling of versions. -/
def sameBound : Option Bound → Option Bound → Bool
  | none, none => true
  | some a, some b => a.inclusive == b.inclusive && a.version.same b.version
  | _, _ => false

def same (a b : VersionRange) : Bool :=
  sameBound a.lower b.lower && sameBound a.upper b.upper

end VersionRange
end Linkage
