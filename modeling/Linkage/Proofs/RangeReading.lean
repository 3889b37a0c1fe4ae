import Linkage.Proofs.RangeMembership
import Linkage.Proofs.VersionReading

/-! Reading ranges. The brackets of an interval are single bytes at the two ends of its text, so they can always be cut
off. What is read is an interval with versions in it, and it has exactly the bounds and brackets that were written; white
space around the text and around its bounds makes no difference. Nothing else that is written in this form is accepted,
such as a square bracket at an open end. -/

namespace Linkage.VersionRange
open Acceptance
variable {range : VersionRange} {version : Version} {lower upper : Option Version}
  {lowerInclusive upperInclusive : Bool} {text inner first last : List Char} {bound? : Option Bound}

/-- Reading as it goes by the bytes of the trimmed text: the brackets are cut off at their offsets. There is nothing if
the offsets are none of a part of the text. -/
def readByOffsets (text : List Char) : Option (Except Fault VersionRange) :=
  match Text.trim text with
  | [] => some (.error .empty)
  | first :: rest =>
    let trimmed : String := .ofList (first :: rest)
    let last := rest.getLast?.getD first
    match isOpening first, isClosing last with
    | true, true =>
      (Text.between? trimmed 1 (trimmed.utf8ByteSize - 1)).map fun inner =>
        readInterval inner.toList (first = '[') (last = ']')
    | true, false => some (.error .unclosed)
    | false, true => some (.error .unopened)
    | false, false => some ((readVersion (first :: rest)).map exact)

theorem isOpening_iff {c : Char} : isOpening c ↔ c = '[' ∨ c = '(' := by
  simp [isOpening]

theorem isClosing_iff {c : Char} : isClosing c ↔ c = ']' ∨ c = ')' := by
  simp [isClosing]

private theorem exists_inner {first : Char} {rest : List Char} (opening : isOpening first)
    (closing : isClosing (rest.getLast?.getD first)) : ∃ inner last, rest = inner ++ [last] ∧ isClosing last := by
  cases found : rest.getLast? with
  | none =>
    -- A single character would have to be both brackets.
    rw [found, Option.getD_none, isClosing_iff] at closing
    rw [isOpening_iff] at opening
    rcases opening with rfl | rfl <;> simp at closing
  | some last =>
    obtain ⟨inner, split⟩ := List.getLast?_eq_some_iff.mp found
    rw [found, Option.getD_some] at closing
    exact ⟨inner, last, split, closing⟩

private theorem utf8ByteSize_opening {c : Char} (opening : isOpening c) : (String.ofList [c]).utf8ByteSize = 1 := by
  rcases isOpening_iff.mp opening with rfl | rfl <;> decide

private theorem utf8ByteSize_closing {c : Char} (closing : isClosing c) : (String.ofList [c]).utf8ByteSize = 1 := by
  rcases isClosing_iff.mp closing with rfl | rfl <;> decide

/-- A bracket is a single byte, so what stands between two brackets lies between the first byte and the last. -/
theorem between?_brackets {first last : Char} {inner : List Char} (opening : isOpening first) (closing : isClosing last) :
    let whole : String := .ofList (first :: (inner ++ [last]))
    Text.between? whole 1 (whole.utf8ByteSize - 1) = some (.ofList inner) := by
  intro whole
  have split : whole = .ofList [first] ++ .ofList inner ++ .ofList [last] := by
    rw [← String.ofList_append, ← String.ofList_append]
    rfl
  have found := Text.between?_append (.ofList [first]) (.ofList inner) (.ofList [last])
  have size : whole.utf8ByteSize - 1 = (String.ofList [first] ++ .ofList inner).utf8ByteSize := by
    rw [split, String.utf8ByteSize_append, utf8ByteSize_closing closing, Nat.add_sub_cancel]
  rwa [← split, ← size, utf8ByteSize_opening opening] at found

theorem readByOffsets_eq (text : List Char) : readByOffsets text = some (read text) := by
  unfold readByOffsets read
  cases Text.trim text with
  | nil => rfl
  | cons first rest =>
    cases opening : isOpening first with
    | false => cases closing : isClosing (rest.getLast?.getD first) <;> simp only [opening, closing] <;> rfl
    | true =>
      cases closing : isClosing (rest.getLast?.getD first) with
      | false => simp only [opening, closing]; rfl
      | true =>
        obtain ⟨inner, last, rfl, ends⟩ := exists_inner opening closing
        simp only [opening, ends, List.getLast?_concat, Option.getD_some, List.dropLast_concat]
        rw [between?_brackets opening ends, Option.map_some, String.toList_ofList]

/-- The ends of an interval: there is a bound, no bracket claims a bound that is missing, and between two bounds there is
a version. -/
structure IsInterval (lower upper : Option Version) (lowerInclusive upperInclusive : Bool) : Prop where
  bounded : lower.isSome ∨ upper.isSome
  lowerOpen : lower = none → lowerInclusive = false
  upperOpen : upper = none → upperInclusive = false
  ordered : ∀ a ∈ lower, ∀ b ∈ upper, (a.compare b).isLE
  inhabited : ∀ a ∈ lower, ∀ b ∈ upper, a.compare b = .eq → lowerInclusive ∧ upperInclusive

theorem isInterval_ends (range : VersionRange) : IsInterval (range.lower.map (·.version)) (range.upper.map (·.version))
    range.lowerInclusive range.upperInclusive := by
  obtain ⟨lower, upper, sound⟩ := range
  cases lower with
  | none =>
    cases upper with
    | none => simp [fault?] at sound
    | some upper => exact ⟨by simp, fun _ => rfl, by simp, by simp, by simp⟩
  | some lower =>
    cases upper with
    | none => exact ⟨by simp, by simp, fun _ => rfl, by simp, by simp⟩
    | some upper =>
      rw [fault?] at sound
      refine ⟨by simp, by simp, by simp, ?_, ?_⟩
      · cases order : lower.version.compare upper.version <;> simp_all
      · cases order : lower.version.compare upper.version <;> simp_all [lowerInclusive, upperInclusive]

theorem IsInterval.fault?_eq_none (interval : IsInterval lower upper lowerInclusive upperInclusive) :
    fault? (lower.map (⟨·, lowerInclusive⟩)) (upper.map (⟨·, upperInclusive⟩)) = none := by
  obtain ⟨bounded, -, -, ordered, inhabited⟩ := interval
  cases lower with
  | none =>
    cases upper with
    | none => simp at bounded
    | some upper => rfl
  | some lower =>
    cases upper with
    | none => rfl
    | some upper =>
      have below := ordered lower rfl upper rfl
      have both := inhabited lower rfl upper rfl
      simp only [Option.map_some, fault?]
      cases order : lower.compare upper with
      | lt => rfl
      | eq => simp [both order]
      | gt => simp [order] at below

theorem any_inclusive {version? : Option Version} {inclusive : Bool} (closed : version? = none → inclusive = false) :
    (version?.map fun version => (⟨version, inclusive⟩ : Bound)).any (·.inclusive) = inclusive := by
  cases version? with
  | none => exact (closed rfl).symm
  | some version => rfl

theorem isInterval_of_fault? (lowerOpen : lower = none → lowerInclusive = false)
    (upperOpen : upper = none → upperInclusive = false)
    (sound : fault? (lower.map (⟨·, lowerInclusive⟩)) (upper.map (⟨·, upperInclusive⟩)) = none) :
    IsInterval lower upper lowerInclusive upperInclusive := by
  have interval := isInterval_ends ⟨_, _, sound⟩
  simpa only [VersionRange.lowerInclusive, VersionRange.upperInclusive, any_inclusive lowerOpen, any_inclusive upperOpen,
    Option.map_map, Function.comp_def, Option.map_id'] using interval

/-- A text in which nothing could be taken for a part of an interval other than a bound. -/
def IsPlain (text : List Char) : Prop :=
  ∀ c ∈ text, c ≠ ',' ∧ isBracket c = false

instance : Decidable (IsPlain text) :=
  List.decidableBAll (fun c => c ≠ ',' ∧ isBracket c = false) text

theorem IsPlain.append (plain : IsPlain first) (others : IsPlain last) : IsPlain (first ++ last) := by
  intro c member
  rcases List.mem_append.mp member with member | member
  · exact plain c member
  · exact others c member

theorem IsPlain.comma_not_mem (plain : IsPlain text) : ',' ∉ text :=
  fun member => (plain ',' member).1 rfl

theorem isBlank_of_isBracket {c : Char} (bracket : isBracket c) : Text.isBlank c = false := by
  rw [isBracket, Bool.or_eq_true, isOpening_iff, isClosing_iff] at bracket
  rcases bracket with (rfl | rfl) | rfl | rfl <;> decide

theorem isPlain_of_allBlank (blank : Text.AllBlank text) : IsPlain text := by
  intro c member
  have white := blank c member
  refine ⟨?_, ?_⟩
  · rintro rfl
    revert white
    decide
  · rw [Bool.eq_false_iff]
    intro bracket
    simp [isBlank_of_isBracket bracket] at white

/-- A bracket is no white space, so trimming stops at it. -/
theorem read_brackets {opening closing : Char} (opens : isOpening opening) (closes : isClosing closing)
    (before : Text.AllBlank first) (behind : Text.AllBlank last) :
    read (first ++ opening :: (inner ++ [closing]) ++ last) =
      readInterval inner (opening = '[') (closing = ']') := by
  have trimmed : Text.trim (opening :: (inner ++ [closing])) = opening :: (inner ++ [closing]) := by
    refine Text.trim_eq_self ?_ ?_
    · intro c found
      obtain rfl : opening = c := Option.some.inj found
      exact isBlank_of_isBracket (by simp [isBracket, opens])
    · intro c found
      rw [← List.cons_append, List.getLast?_concat] at found
      obtain rfl : closing = c := Option.some.inj found
      exact isBlank_of_isBracket (by simp [isBracket, closes])
  rw [read, Text.trim_surround before behind, trimmed]
  simp only [List.getLast?_concat, Option.getD_some, opens, closes, List.dropLast_concat]

theorem readInterval_pair (start : IsPlain first) (stop : IsPlain last) :
    readInterval (first ++ ',' :: last) lowerInclusive upperInclusive = (do
      let lower ← readBound (Text.trim first) lowerInclusive .squareLowerEnd
      let upper ← readBound (Text.trim last) upperInclusive .squareUpperEnd
      ofBounds lower upper) := by
  have noBracket : (first ++ ',' :: last).any isBracket = false := by
    rw [List.any_eq_false]
    intro c member
    rcases List.mem_append.mp member with member | member
    · simp [(start c member).2]
    · rcases List.mem_cons.mp member with rfl | member
      · decide
      · simp [(stop c member).2]
  rw [readInterval, noBracket, Text.fields_append start.comma_not_mem, Text.fields_of_not_mem stop.comma_not_mem]
  rfl

theorem readInterval_single (plain : IsPlain text) : readInterval text true true = (readVersion (Text.trim text)).map exact := by
  have noBracket : text.any isBracket = false := by
    rw [List.any_eq_false]
    intro c member
    simp [(plain c member).2]
  rw [readInterval, noBracket, Text.fields_of_not_mem plain.comma_not_mem]
  rfl

theorem readVersion_text (known : version.WasRead) : readVersion version.text.toList = .ok version := by
  rw [readVersion, known.read_text]
  rfl

/-- What is written for an end; there is nothing for a bound that is missing. -/
def endText (version? : Option Version) : List Char :=
  version?.elim [] (·.text.toList)

/-- The end that a bound and a bracket make; a square bracket needs a bound. -/
def endOf (version? : Option Version) (inclusive : Bool) (openEnd : Fault) : Except Fault (Option Bound) :=
  if version? = none ∧ inclusive then .error openEnd else .ok (version?.map (⟨·, inclusive⟩))

theorem endOf_closed {version? : Option Version} {inclusive : Bool} (openEnd : Fault)
    (closed : version? = none → inclusive = false) :
    endOf version? inclusive openEnd = .ok (version?.map (⟨·, inclusive⟩)) := by
  rw [endOf, if_neg]
  intro both
  rw [closed both.1] at both
  exact Bool.false_ne_true both.2

theorem readBound_endText {version? : Option Version} {inclusive : Bool} {openEnd : Fault}
    (known : ∀ version ∈ version?, version.WasRead) (before : Text.AllBlank first) (behind : Text.AllBlank last) :
    readBound (Text.trim (first ++ endText version? ++ last)) inclusive openEnd = endOf version? inclusive openEnd := by
  rw [Text.trim_surround before behind]
  cases version? with
  | none => cases inclusive <;> rfl
  | some version =>
    have read := known version rfl
    have nonempty : version.text.toList.isEmpty = false := by
      simpa using read.text_ne_nil
    have bounded : endOf (some version) inclusive openEnd = .ok (some ⟨version, inclusive⟩) := endOf_closed openEnd nofun
    rw [bounded]
    simp only [endText, Option.elim_some, read.trim_text, readBound, nonempty, readVersion_text read]
    rfl

theorem ofBounds_eq_ok {lower upper : Option Bound} (sound : fault? lower upper = none) :
    ofBounds lower upper = .ok ⟨lower, upper, sound⟩ := by
  unfold ofBounds
  split
  next fault found => simp [sound] at found
  next => rfl

/-- The white space that may stand in an interval: around it, and around each of its bounds. -/
structure Spacing where
  outerStart : List Char := []
  lowerStart : List Char := []
  lowerEnd : List Char := []
  upperStart : List Char := []
  upperEnd : List Char := []
  outerEnd : List Char := []

structure Spacing.IsBlank (spacing : Spacing) : Prop where
  outerStart : Text.AllBlank spacing.outerStart
  lowerStart : Text.AllBlank spacing.lowerStart
  lowerEnd : Text.AllBlank spacing.lowerEnd
  upperStart : Text.AllBlank spacing.upperStart
  upperEnd : Text.AllBlank spacing.upperEnd
  outerEnd : Text.AllBlank spacing.outerEnd

/-- An interval as it may be written. -/
def Spacing.write (spacing : Spacing) (lower upper : Option Version) (lowerInclusive upperInclusive : Bool) : List Char :=
  spacing.outerStart ++ (if lowerInclusive then '[' else '(') ::
    ((spacing.lowerStart ++ endText lower ++ spacing.lowerEnd ++
      ',' :: (spacing.upperStart ++ endText upper ++ spacing.upperEnd)) ++
    [if upperInclusive then ']' else ')']) ++ spacing.outerEnd

theorem isPlain_end {version? : Option Version} (plain : ∀ version ∈ version?, IsPlain version.text.toList)
    (before : Text.AllBlank first) (behind : Text.AllBlank last) : IsPlain (first ++ endText version? ++ last) := by
  have inner : IsPlain (endText version?) := by
    cases version? with
    | none => simp [endText, IsPlain]
    | some version => exact plain version rfl
  exact ((isPlain_of_allBlank before).append inner).append (isPlain_of_allBlank behind)

section
variable (known : ∀ version, version ∈ lower ∨ version ∈ upper → version.WasRead ∧ IsPlain version.text.toList)
  {spacing : Spacing} (blank : spacing.IsBlank)
include known blank

theorem read_write_ends : read (spacing.write lower upper lowerInclusive upperInclusive) = (do
    let start ← endOf lower lowerInclusive .squareLowerEnd
    let stop ← endOf upper upperInclusive .squareUpperEnd
    ofBounds start stop) := by
  have opens : isOpening (if lowerInclusive then '[' else '(') := by cases lowerInclusive <;> rfl
  have closes : isClosing (if upperInclusive then ']' else ')') := by cases upperInclusive <;> rfl
  have first : decide ((if lowerInclusive then '[' else '(') = '[') = lowerInclusive := by
    cases lowerInclusive <;> decide
  have last : decide ((if upperInclusive then ']' else ')') = ']') = upperInclusive := by
    cases upperInclusive <;> decide
  have start := isPlain_end (fun version member => (known version (.inl member)).2) blank.lowerStart blank.lowerEnd
  have stop := isPlain_end (fun version member => (known version (.inr member)).2) blank.upperStart blank.upperEnd
  rw [Spacing.write, read_brackets opens closes blank.outerStart blank.outerEnd, first, last, readInterval_pair start stop,
    readBound_endText (fun version member => (known version (.inl member)).1) blank.lowerStart blank.lowerEnd,
    readBound_endText (fun version member => (known version (.inr member)).1) blank.upperStart blank.upperEnd]

theorem read_write (interval : IsInterval lower upper lowerInclusive upperInclusive) :
    read (spacing.write lower upper lowerInclusive upperInclusive) =
      .ok ⟨lower.map (⟨·, lowerInclusive⟩), upper.map (⟨·, upperInclusive⟩), interval.fault?_eq_none⟩ := by
  rw [read_write_ends known blank, endOf_closed _ interval.lowerOpen, endOf_closed _ interval.upperOpen]
  exact ofBounds_eq_ok interval.fault?_eq_none

/-- A square bracket at an open lower end is refused, whatever stands at the other end. -/
theorem read_write_squareLowerEnd (missing : lower = none) :
    read (spacing.write lower upper true upperInclusive) = .error .squareLowerEnd := by
  rw [read_write_ends known blank, missing]
  rfl

theorem read_write_squareUpperEnd (missing : upper = none) (lowerOpen : lower = none → lowerInclusive = false) :
    read (spacing.write lower upper lowerInclusive true) = .error .squareUpperEnd := by
  rw [read_write_ends known blank, endOf_closed _ lowerOpen, missing]
  rfl

theorem isInterval_of_read_write (accepted : read (spacing.write lower upper lowerInclusive upperInclusive) = .ok range) :
    IsInterval lower upper lowerInclusive upperInclusive := by
  have lowerOpen : lower = none → lowerInclusive = false := by
    intro missing
    rw [Bool.eq_false_iff]
    rintro rfl
    rw [read_write_squareLowerEnd known blank missing] at accepted
    contradiction
  have upperOpen : upper = none → upperInclusive = false := by
    intro missing
    rw [Bool.eq_false_iff]
    rintro rfl
    rw [read_write_squareUpperEnd known blank missing lowerOpen] at accepted
    contradiction
  rw [read_write_ends known blank, endOf_closed _ lowerOpen, endOf_closed _ upperOpen] at accepted
  have bounded : ofBounds (lower.map (⟨·, lowerInclusive⟩)) (upper.map (⟨·, upperInclusive⟩)) = .ok range := accepted
  unfold ofBounds at bounded
  split at bounded
  next => contradiction
  next sound => exact isInterval_of_fault? lowerOpen upperOpen sound

end

/-- The endpoints of a range are in it and ascend, and they are its inclusive bounds, each once. -/
structure HasEndpoints (range : VersionRange) : Prop where
  inside : ∀ endpoint ∈ range.inclusiveEndpoints, range.contains endpoint
  ascending : Ascending.Strict Version.compare range.inclusiveEndpoints
  listed : ∀ version, (∃ endpoint ∈ range.inclusiveEndpoints, endpoint.compare version = .eq) ↔
    ∃ bound, (bound ∈ range.lower ∨ bound ∈ range.upper) ∧ bound.inclusive ∧ bound.version.compare version = .eq

theorem hasEndpoints (range : VersionRange) : range.HasEndpoints where
  inside _ member := contains_iff_admits.mpr (admits_of_mem_inclusiveEndpoints member)
  ascending := inclusiveEndpoints_strict range
  listed _ := exists_endpoint_iff

theorem parse_eq_ok_iff {text : String} : parse text = .ok range ↔ read text.toList = .ok range :=
  mapError_eq_ok_iff

/-- Reading a text never fails to cut it, and what it gives is an interval that has its endpoints. Each interval
between plain versions is read as it is written, with any white space. Other ends are refused: a square bracket at an
open end, and bounds without a version between them. -/
theorem parse_intervals :
    (∀ text : String, readByOffsets text.toList = some (read text.toList)) ∧
    (∀ (text : String) (range : VersionRange), parse text = .ok range →
      IsInterval (range.lower.map (·.version)) (range.upper.map (·.version)) range.lowerInclusive range.upperInclusive ∧
      range.HasEndpoints) ∧
    ∀ (lower upper : Option Version) (lowerInclusive upperInclusive : Bool) (spacing : Spacing),
      (∀ version, version ∈ lower ∨ version ∈ upper → version.WasRead ∧ IsPlain version.text.toList) →
      spacing.IsBlank →
      (IsInterval lower upper lowerInclusive upperInclusive →
        ∃ range, parse (.ofList (spacing.write lower upper lowerInclusive upperInclusive)) = .ok range ∧
          range.lower.map (·.version) = lower ∧ range.upper.map (·.version) = upper ∧
          range.lowerInclusive = lowerInclusive ∧ range.upperInclusive = upperInclusive) ∧
      ∀ range, parse (.ofList (spacing.write lower upper lowerInclusive upperInclusive)) = .ok range →
        IsInterval lower upper lowerInclusive upperInclusive := by
  refine ⟨fun text => readByOffsets_eq text.toList, ?_, ?_⟩
  · intro text range parsed
    exact ⟨range.isInterval_ends, range.hasEndpoints⟩
  · intro lower upper lowerInclusive upperInclusive spacing known blank
    constructor
    · intro interval
      refine ⟨⟨lower.map (⟨·, lowerInclusive⟩), upper.map (⟨·, upperInclusive⟩), interval.fault?_eq_none⟩, ?_, ?_, ?_,
        any_inclusive interval.lowerOpen, any_inclusive interval.upperOpen⟩
      · rw [parse_eq_ok_iff, String.toList_ofList]
        exact read_write known blank interval
      · simp [Function.comp_def]
      · simp [Function.comp_def]
    · intro range parsed
      rw [parse_eq_ok_iff, String.toList_ofList] at parsed
      exact isInterval_of_read_write known blank parsed

namespace Spaced

def release : Version := ⟨"1.0", [1, 0], none⟩
def candidate : Version := ⟨"2.0-RC1", [2, 0], some "RC1"⟩
def spacing : Spacing :=
  { outerStart := [' '], lowerStart := ['\t'], lowerEnd := [' '], upperStart := ['\u00A0'], outerEnd := ['\n', ' '] }

theorem halfOpen : IsInterval (some release) (some candidate) true false where
  bounded := by decide
  lowerOpen := by decide
  upperOpen := by decide
  ordered := by
    rintro a ⟨⟩ b ⟨⟩
    decide
  inhabited := by
    rintro a ⟨⟩ b ⟨⟩
    decide

theorem spacing_isBlank : spacing.IsBlank :=
  ⟨by decide, by decide, by decide, by decide, by decide, by decide⟩

theorem bounds_known (version : Version) (member : version ∈ some release ∨ version ∈ some candidate) :
    version.WasRead ∧ IsPlain version.text.toList := by
  rcases member with found | found
  · obtain rfl : release = version := Option.some.inj found
    exact ⟨⟨release.text.toList, rfl⟩, by decide⟩
  · obtain rfl : candidate = version := Option.some.inj found
    exact ⟨⟨candidate.text.toList, rfl⟩, by decide⟩

end Spaced

open Spaced in
/-- White space of several kinds around a half-open interval. Without its lower bound the square bracket is too much. -/
theorem parse_intervals_spaced : (∃ range,
    parse (.ofList (spacing.write (some release) (some candidate) true false)) = .ok range ∧
    range.lower.map (·.version) = some release ∧ range.upper.map (·.version) = some candidate ∧
    range.lowerInclusive = true ∧ range.upperInclusive = false ∧
    IsInterval (range.lower.map (·.version)) (range.upper.map (·.version)) range.lowerInclusive range.upperInclusive ∧
    range.HasEndpoints) ∧
    ∀ range, parse (.ofList (spacing.write none (some candidate) true false)) ≠ .ok range := by
  obtain ⟨-, sound, written⟩ := parse_intervals
  constructor
  · obtain ⟨range, parsed, lower, upper, first, last⟩ :=
      (written (some release) (some candidate) true false spacing bounds_known spacing_isBlank).1 halfOpen
    obtain ⟨interval, endpoints⟩ := sound _ range parsed
    exact ⟨range, parsed, lower, upper, first, last, interval, endpoints⟩
  · intro range parsed
    have known (version : Version) (member : version ∈ none ∨ version ∈ some candidate) :
        version.WasRead ∧ IsPlain version.text.toList :=
      bounds_known version (member.elim nofun .inr)
    have interval := (written none (some candidate) true false spacing known spacing_isBlank).2 range parsed
    exact Bool.noConfusion (interval.lowerOpen rfl)

end Linkage.VersionRange
