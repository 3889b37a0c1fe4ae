import Linkage.Ascending
import Linkage.Error
import Linkage.Text.Blank
import Linkage.Text.Lowercase
import Linkage.Text.Natural

/-! Release versions: dotted numbers with an optional qualifier, such as `1.2.1`, `1.0.0-RC1` or `2.13.4.Final`.
Missing numbers count as zero, and a qualified version precedes its release, so differently written versions may be
equal. A version keeps the text it was read from. -/

namespace Linkage

structure Version where
  text : String
  numbers : List Nat
  qualifier : Option String
  deriving DecidableEq, Repr, Inhabited

namespace Version

inductive Fault where
  | empty
  | blankInside
  | notNumeric (part : String)
  | emptyQualifier
  deriving DecidableEq, Repr

def Fault.reason : Fault → String
  | empty => "version is empty"
  | blankInside => "version contains whitespace"
  | notNumeric part => "'" ++ part ++ "' is not a numeric component"
  | emptyQualifier => "qualifier is empty"

/-- The numbers in front, and the parts from the first one on that is no number. -/
def splitNumbers : List (List Char) → List Nat × List (List Char)
  | [] => ([], [])
  | part :: rest =>
    match Text.natural? part with
    | some number => let (numbers, others) := splitNumbers rest; (number :: numbers, others)
    | none => ([], part :: rest)

/-- Numbers and qualifier of a text without surrounding white space. -/
def readParts (text : List Char) : Except Fault (List Nat × Option (List Char)) := do
  let (numeric, qualifier) := match Text.cut '-' text with
    | some (numeric, qualifier) => (numeric, some qualifier)
    | none => (text, none)
  match splitNumbers (Text.fields '.' numeric) with
  | (numbers, []) => return (numbers, qualifier)
  | (numbers, part :: rest) =>
    -- Without a hyphen the first part that is no number starts the qualifier, unless it is the very first part.
    if numbers.isEmpty || qualifier.isSome then throw (.notNumeric (.ofList part))
    else return (numbers, some (['.'].intercalate (part :: rest)))

def read (text : List Char) : Except Fault Version := do
  let trimmed := Text.trim text
  if trimmed.isEmpty then throw .empty
  if trimmed.any Text.isBlank then throw .blankInside
  let (numbers, qualifier) ← readParts trimmed
  if qualifier = some [] then throw .emptyQualifier
  return ⟨.ofList trimmed, numbers, qualifier.map .ofList⟩

def parse (text : String) : Except Error Version :=
  (read text.toList).mapError fun fault => .invalidVersion text fault.reason

/-- Qualifiers that mean the release itself. -/
def releaseWords : List String := ["final", "ga", "release"]

/-- The lower-cased qualifier of a version that precedes its release. -/
def preRelease? (version : Version) : Option String :=
  version.qualifier.bind fun qualifier =>
    let word := Text.lowercase qualifier
    if word ∈ releaseWords then none else some word

def isPrerelease (version : Version) : Bool :=
  version.preRelease?.isSome

/-- Compares number by number; a missing number is zero. -/
def compareNumbers : List Nat → List Nat → Ordering
  | [], others => if others.all (· = 0) then .eq else .lt
  | number :: rest, others => (Ord.compare number (others.headD 0)).then (compareNumbers rest others.tail)

/-- A release is above its pre-releases, which compare by their words. -/
def comparePreReleases : Option String → Option String → Ordering
  | none, none => .eq
  | none, some _ => .gt
  | some _, none => .lt
  | some a, some b => Ord.compare a b

protected def compare (a b : Version) : Ordering :=
  (compareNumbers a.numbers b.numbers).then (comparePreReleases a.preRelease? b.preRelease?)

theorem compareNumbers_self (numbers : List Nat) : compareNumbers numbers numbers = .eq := by
  induction numbers with
  | nil => rfl
  | cons number rest ih => simp [compareNumbers, ih, Std.ReflCmp.compare_self]

theorem comparePreReleases_self (word : Option String) : comparePreReleases word word = .eq := by
  cases word with
  | none => rfl
  | some word => simp [comparePreReleases, Std.ReflCmp.compare_self]

theorem compare_self (version : Version) : version.compare version = .eq := by
  simp [Version.compare, compareNumbers_self, comparePreReleases_self]

instance : Ord Version := ⟨Version.compare⟩

/-- Equality of versions whatever their spelling. -/
def same (a b : Version) : Bool :=
  a.compare b = .eq

def below (a b : Version) : Bool :=
  a.compare b = .lt

/-- What equal versions have in common: the numbers without zeros at the end, and the pre-release word. -/
def identity (version : Version) : List Nat × Option String :=
  ((version.numbers.reverse.dropWhile (· = 0)).reverse, version.preRelease?)

instance : ToString Version := ⟨Version.text⟩

end Version

/-- Adds a version to an ascending list, unless an equal one is there. -/
abbrev Version.insert : Version → List Version → List Version := Ascending.insert Version.compare

end Linkage
