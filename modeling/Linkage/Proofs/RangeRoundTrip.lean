import Linkage.Proofs.RangeReading
import Linkage.Proofs.VersionIdentity

/-! Reading a range again from the text that shows it. A text in brackets is cut at every comma and refused for any
further bracket, so its bounds are plain and what it reads as shows as a text of the same range. A bare version is not
cut. If a comma or a bracket is in its qualifier, the text in brackets is refused or reads as another range. -/

namespace Linkage.VersionRange
open Acceptance
variable {range : VersionRange} {version : Version} {lower upper : Option Bound} {bound? : Option Bound}
  {lowerInclusive upperInclusive inclusive : Bool} {text inner : List Char} {openEnd : Fault}

def IsBracketed (text : List Char) : Prop :=
  ∃ first ∈ (Text.trim text).head?, isOpening first

/-- A range whose bounds are versions that were read and could stand in an interval. -/
def HasPlainBounds (range : VersionRange) : Prop :=
  ∀ bound, bound ∈ range.lower ∨ bound ∈ range.upper → bound.version.WasRead ∧ IsPlain bound.version.text.toList

theorem readVersion_eq_ok_iff : readVersion text = .ok version ↔ Version.read text = .ok version :=
  mapError_eq_ok_iff

theorem ofBounds_eq_ok_iff : ofBounds lower upper = .ok range ↔ range.lower = lower ∧ range.upper = upper := by
  constructor
  · intro joined
    unfold ofBounds at joined
    split at joined
    next => cases joined
    next =>
      obtain rfl := Except.ok.inj joined
      exact ⟨rfl, rfl⟩
  · rintro ⟨rfl, rfl⟩
    exact ofBounds_eq_ok range.isInterval

/-- A bound that was read has the bracket that was written; an end without bound has a round one. -/
theorem readBound_eq_ok (read : readBound text inclusive openEnd = .ok bound?) :
    (bound? = none ∧ inclusive = false) ∨
      ∃ version, bound? = some ⟨version, inclusive⟩ ∧ Version.read text = .ok version := by
  unfold readBound at read
  split at read
  · split at read
    · cases read
    · next round => exact .inl ⟨(Except.ok.inj read).symm, by simpa using round⟩
  · obtain ⟨version, found, same⟩ := bind_eq_ok_iff.mp read
    exact .inr ⟨version, (Except.ok.inj same).symm, readVersion_eq_ok_iff.mp found⟩

theorem readInterval_eq_ok (read : readInterval inner lowerInclusive upperInclusive = .ok range) :
    inner.any isBracket = false ∧
      ((∃ single version, Text.fields ',' inner = [single] ∧ Version.read (Text.trim single) = .ok version ∧
          range = exact version) ∨
        ∃ first last, Text.fields ',' inner = [first, last] ∧
          readBound (Text.trim first) lowerInclusive .squareLowerEnd = .ok range.lower ∧
          readBound (Text.trim last) upperInclusive .squareUpperEnd = .ok range.upper) := by
  unfold readInterval at read
  cases bracket : inner.any isBracket with
  | true => simp [bracket, bind, Except.bind, throw, throwThe, MonadExceptOf.throw] at read
  | false =>
    refine ⟨rfl, ?_⟩
    simp only [bracket, Bool.false_eq_true, if_false] at read
    match split : Text.fields ',' inner with
    | [] => exact absurd split (Text.fields_ne_nil ',' inner)
    | [single] =>
      simp only [split, List.map_cons, List.map_nil] at read
      split at read
      · cases read
      · obtain ⟨version, found, same⟩ := bind_eq_ok_iff.mp read
        exact .inl ⟨single, version, rfl, readVersion_eq_ok_iff.mp found, (Except.ok.inj same).symm⟩
    | [first, last] =>
      simp only [split, List.map_cons, List.map_nil] at read
      obtain ⟨lower, start, read⟩ := bind_eq_ok_iff.mp read
      obtain ⟨upper, stop, joined⟩ := bind_eq_ok_iff.mp read
      obtain ⟨rfl, rfl⟩ := ofBounds_eq_ok_iff.mp joined
      exact .inr ⟨first, last, rfl, start, stop⟩
    | _ :: _ :: _ :: _ =>
      simp only [split, List.map_cons] at read
      cases read

theorem isPlain_trim_iff : IsPlain (Text.trim text) ↔ IsPlain text := by
  constructor
  · intro plain c member
    cases blank : Text.isBlank c with
    | true =>
      have white : Text.AllBlank [c] := by simp [Text.AllBlank, blank]
      exact isPlain_of_allBlank white c (List.mem_singleton_self c)
    | false => exact plain c ((Text.mem_trim_iff blank).mpr member)
  · exact fun plain c member => plain c (Text.mem_of_mem_trim member)

theorem isPlain_of_mem_fields (noBracket : inner.any isBracket = false) {part : List Char}
    (member : part ∈ Text.fields ',' inner) : IsPlain part := by
  intro c inside
  have other : c ≠ ',' := by
    rintro rfl
    exact Text.not_mem_of_mem_fields member inside
  have found : c ∈ inner := (Text.mem_iff_mem_fields other).mpr ⟨part, member, inside⟩
  exact ⟨other, Bool.eq_false_iff.mpr (List.any_eq_false.mp noBracket c found)⟩

theorem plain_of_read (read : Version.read text = .ok version) (plain : IsPlain text) :
    version.WasRead ∧ IsPlain version.text.toList := by
  refine ⟨⟨text, read⟩, ?_⟩
  rwa [Version.text_of_read read, isPlain_trim_iff]

theorem plain_of_readBound (read : readBound (Text.trim text) inclusive openEnd = .ok bound?) (plain : IsPlain text) :
    ∀ bound ∈ bound?, bound.version.WasRead ∧ IsPlain bound.version.text.toList := by
  intro bound member
  rcases readBound_eq_ok read with ⟨rfl, -⟩ | ⟨version, rfl, found⟩
  · cases member
  · obtain rfl := Option.some.inj member
    exact plain_of_read found (isPlain_trim_iff.mpr plain)

theorem hasPlainBounds_of_readInterval (read : readInterval inner lowerInclusive upperInclusive = .ok range) :
    range.HasPlainBounds := by
  obtain ⟨noBracket, ⟨single, version, split, found, rfl⟩ | ⟨first, last, split, start, stop⟩⟩ := readInterval_eq_ok read
  · have inside : IsPlain single := isPlain_of_mem_fields noBracket (by simp [split])
    have plain := plain_of_read found (isPlain_trim_iff.mpr inside)
    rintro bound (member | member)
    all_goals
      obtain rfl := Option.some.inj member
      exact plain
  · rintro bound (member | member)
    · exact plain_of_readBound start (isPlain_of_mem_fields noBracket (by simp [split])) bound member
    · exact plain_of_readBound stop (isPlain_of_mem_fields noBracket (by simp [split])) bound member

/-- What a bracketed text reads as has plain bounds; what else is read is the version that the text is. -/
theorem read_cases (parsed : read text = .ok range) :
    IsBracketed text ∧ range.HasPlainBounds ∨
      ¬ IsBracketed text ∧ ∃ version, Version.read (Text.trim text) = .ok version ∧ range = exact version := by
  unfold read at parsed
  cases trimmed : Text.trim text with
  | nil =>
    rw [trimmed] at parsed
    cases parsed
  | cons first rest =>
    simp only [trimmed] at parsed
    split at parsed
    next opening closing =>
      exact .inl ⟨⟨first, by rw [trimmed]; rfl, opening⟩, hasPlainBounds_of_readInterval parsed⟩
    next => cases parsed
    next => cases parsed
    next other closing =>
      obtain ⟨version, found, same⟩ := bind_eq_ok_iff.mp parsed
      refine .inr ⟨?_, version, readVersion_eq_ok_iff.mp found, (Except.ok.inj same).symm⟩
      rintro ⟨c, member, opening⟩
      rw [trimmed] at member
      obtain rfl := Option.some.inj member
      simp [other] at opening

theorem text_of_same {lower upper : Bound} (start : range.lower = some lower) (stop : range.upper = some upper)
    (same : lower.version.same upper.version) : range.text.toList = '[' :: (lower.version.text.toList ++ [']']) := by
  simp [text, start, stop, same]

theorem text_of_apart (apart : ∀ lower ∈ range.lower, ∀ upper ∈ range.upper, lower.version.same upper.version = false) :
    range.text.toList = ({} : Spacing).write (range.lower.map (·.version)) (range.upper.map (·.version))
      range.lowerInclusive range.upperInclusive := by
  have opening : (if range.lowerInclusive then "[" else "(").toList = [if range.lowerInclusive then '[' else '('] := by
    split <;> rfl
  have closing : (if range.upperInclusive then "]" else ")").toList = [if range.upperInclusive then ']' else ')'] := by
    split <;> rfl
  cases start : range.lower with
  | none => cases stop : range.upper <;> simp [text, start, stop, Spacing.write, endText, opening, closing]
  | some lower =>
    cases stop : range.upper with
    | none => simp [text, start, stop, Spacing.write, endText, opening, closing]
    | some upper =>
      simp [text, start, stop, apart lower start upper stop, Spacing.write, endText, opening, closing]

theorem inclusive_of_same {lower upper : Bound} (start : range.lower = some lower) (stop : range.upper = some upper)
    (equal : lower.version.same upper.version) : lower.inclusive ∧ upper.inclusive := by
  have both := range.isInterval_ends.inhabited lower.version (by simp [start]) upper.version (by simp [stop])
    (Version.same_iff.mp equal)
  simpa [lowerInclusive, upperInclusive, start, stop] using both

theorem read_squareBrackets (inner : List Char) : read ('[' :: (inner ++ [']'])) = readInterval inner true true := by
  have blank : Text.AllBlank [] := by decide
  simpa using @read_brackets inner [] [] '[' ']' rfl rfl blank blank

theorem read_text_of_same {lower upper : Bound} (start : range.lower = some lower) (stop : range.upper = some upper)
    (equal : lower.version.same upper.version) (plain : range.HasPlainBounds) :
    read range.text.toList = .ok (exact lower.version) := by
  obtain ⟨known, isPlain⟩ := plain lower (.inl start)
  rw [text_of_same start stop equal, read_squareBrackets, readInterval_single isPlain, known.trim_text,
    readVersion_text known]
  rfl

theorem eq_of_ends (range : VersionRange) : (⟨(range.lower.map (·.version)).map (⟨·, range.lowerInclusive⟩),
    (range.upper.map (·.version)).map (⟨·, range.upperInclusive⟩), range.isInterval_ends.fault?_eq_none⟩ : VersionRange) =
      range := by
  obtain ⟨lower, upper, sound⟩ := range
  cases lower <;> cases upper <;> rfl

theorem read_text_of_apart
    (apart : ∀ lower ∈ range.lower, ∀ upper ∈ range.upper, lower.version.same upper.version = false)
    (plain : range.HasPlainBounds) : read range.text.toList = .ok range := by
  have known : ∀ version, version ∈ range.lower.map (·.version) ∨ version ∈ range.upper.map (·.version) →
      version.WasRead ∧ IsPlain version.text.toList := by
    rintro version (member | member)
    · obtain ⟨bound, found, rfl⟩ := Option.map_eq_some_iff.mp member
      exact plain bound (.inl found)
    · obtain ⟨bound, found, rfl⟩ := Option.map_eq_some_iff.mp member
      exact plain bound (.inr found)
  have blank : ({} : Spacing).IsBlank := ⟨by decide, by decide, by decide, by decide, by decide, by decide⟩
  rw [text_of_apart apart, read_write known blank range.isInterval_ends, eq_of_ends]

/-- A range with plain bounds is read again. If its bounds are the same version, they may differ in their spelling. -/
theorem read_again (plain : range.HasPlainBounds) : ∃ again, read range.text.toList = .ok again ∧ again.same range := by
  by_cases equal : ∃ lower ∈ range.lower, ∃ upper ∈ range.upper, lower.version.same upper.version
  · obtain ⟨lower, start, upper, stop, equal⟩ := equal
    refine ⟨_, read_text_of_same start stop equal plain, ?_⟩
    obtain ⟨first, last⟩ := inclusive_of_same start stop equal
    rw [Option.mem_def] at start stop
    simp [same, sameBound, exact, start, stop, first, last, equal, Version.same_self]
  · have apart : ∀ lower ∈ range.lower, ∀ upper ∈ range.upper, lower.version.same upper.version = false := by
      intro lower start upper stop
      rw [Bool.eq_false_iff]
      exact fun found => equal ⟨lower, start, upper, stop, found⟩
    exact ⟨range, read_text_of_apart apart plain, same_self range⟩

theorem text_exact (version : Version) : (exact version).text.toList = '[' :: (version.text.toList ++ [']']) := by
  rw [@text_of_same (exact version) _ _ rfl rfl version.same_self]

/-- A comma shows in the word by which a version precedes its release, so versions that are the same agree on it. -/
theorem comma_mem_congr {other : Version} (known : version.WasRead) (found : other.WasRead) (equal : other.same version) :
    ',' ∈ version.text.toList ↔ ',' ∈ other.text.toList := by
  have odd : ¬ Version.IsNumeric ',' := by simp [Version.IsNumeric, Text.isDigit]
  have before : Text.BeforeLetters ',' := ⟨by decide, by decide⟩
  rw [known.mem_text_iff_preRelease odd before, found.mem_text_iff_preRelease odd before,
    Version.preRelease?_eq_of_same equal]

theorem comma_mem_of_not_isPlain (noBracket : text.any isBracket = false) (odd : ¬ IsPlain text) : ',' ∈ text := by
  by_contra absent
  refine odd fun c member => ⟨?_, Bool.eq_false_iff.mpr (List.any_eq_false.mp noBracket c member)⟩
  rintro rfl
  exact absent member

/-- A bare version with a comma or a bracket: in brackets it is refused, or cut at its comma. -/
theorem not_read_again (known : version.WasRead) (odd : ¬ IsPlain version.text.toList) {again : VersionRange}
    (parsed : read (exact version).text.toList = .ok again) : again.same (exact version) = false := by
  rw [text_exact, read_squareBrackets] at parsed
  obtain ⟨noBracket, cut⟩ := readInterval_eq_ok parsed
  have comma := comma_mem_of_not_isPlain noBracket odd
  obtain ⟨front, behind, split, absent⟩ := List.eq_append_cons_of_mem comma
  have fields : Text.fields ',' version.text.toList = front :: Text.fields ',' behind := by
    rw [split, Text.fields_append absent]
  rw [Bool.eq_false_iff]
  intro equal
  rcases cut with ⟨single, other, listed, -, -⟩ | ⟨first, last, listed, start, -⟩
  · rw [fields] at listed
    exact Text.fields_ne_nil ',' behind (List.cons.inj listed).2
  · rw [fields] at listed
    obtain ⟨rfl, -⟩ := List.cons.inj listed
    rcases readBound_eq_ok start with ⟨-, round⟩ | ⟨other, bound, found⟩
    · cases round
    · have lowered : other.same version := by
        simp only [same, sameBound, exact, bound, Bool.and_eq_true] at equal
        exact equal.1.2
      -- What was read in front of the comma would have to have a comma itself.
      have inside := (comma_mem_congr known ⟨_, found⟩ lowered).mp comma
      rw [Version.text_of_read found] at inside
      exact absent (Text.mem_of_mem_trim (Text.mem_of_mem_trim inside))

/-- A range is read again from its text just if it was read from brackets, or from a version without a comma or a
bracket in it. -/
theorem parse_text_iff {text : String} (parsed : parse text = .ok range) :
    (∃ again, parse range.text = .ok again ∧ again.same range) ↔
      IsBracketed text.toList ∨ IsPlain text.toList := by
  simp only [parse_eq_ok_iff] at parsed ⊢
  rcases read_cases parsed with ⟨bracketed, plain⟩ | ⟨bare, version, found, rfl⟩
  · exact iff_of_true (read_again plain) (.inl bracketed)
  · rw [or_iff_right bare]
    have known : version.WasRead := ⟨_, found⟩
    rw [← isPlain_trim_iff, ← isPlain_trim_iff, ← Version.text_of_read found]
    constructor
    · rintro ⟨again, parsed, equal⟩
      by_contra odd
      rw [not_read_again known odd parsed] at equal
      cases equal
    · intro plain
      refine read_again ?_
      rintro bound (member | member)
      all_goals
        obtain rfl := Option.some.inj member
        exact ⟨known, plain⟩

/-- Two spellings of one version, of which the text shows the first. -/
theorem parse_text_spellings : ∃ range again, parse " [1.0,1] " = .ok range ∧ parse range.text = .ok again ∧
    again.same range ∧ again ≠ range := by
  have parsed : parse " [1.0,1] " =
      .ok ⟨some ⟨⟨"1.0", [1, 0], none⟩, true⟩, some ⟨⟨"1", [1], none⟩, true⟩, by decide⟩ := rfl
  have bracketed : IsBracketed " [1.0,1] ".toList := ⟨'[', by decide, rfl⟩
  obtain ⟨again, found, equal⟩ := (parse_text_iff parsed).mpr (.inl bracketed)
  refine ⟨_, again, parsed, found, equal, ?_⟩
  have shown : parse "[1.0]" = .ok (exact ⟨"1.0", [1, 0], none⟩) := rfl
  obtain rfl := Except.ok.inj (found.symm.trans shown)
  decide

/-- A bare version with a comma in its qualifier shows as an interval, and another one as a text that is refused. -/
theorem bare_comma_not_read_again :
    (∃ range again, parse "1.0,2.0" = .ok range ∧ parse range.text = .ok again ∧ again.same range = false) ∧
      ∃ range, parse "1.0-a,b" = .ok range ∧ (parse range.text).isOk = false :=
  ⟨⟨exact ⟨"1.0,2.0", [1], some "0,2.0"⟩, _, rfl, rfl, by decide⟩, exact ⟨"1.0-a,b", [1, 0], some "a,b"⟩, rfl, by decide⟩

end Linkage.VersionRange
