import Mathlib.Data.Nat.Digits.Defs
import Linkage.Proofs.NumberedVersions
import Linkage.Proofs.TextSplitting

/-! Versions that are written as decimal numbers with dots between them. Such a text is read as these numbers, and compares
as they do, if each of them fits a word. One that does not fit is no number to the reader: as the first one it is refused,
and behind others it starts a qualifier, so that the version precedes the release of the numbers in front of it. -/

namespace Linkage

namespace Text
variable {part : String} {parts : List String} {c : Char}

/-- A text of decimal digits. -/
def IsDecimal (part : String) : Prop :=
  part ≠ "" ∧ ∀ c ∈ part.toList, c.isDigit

instance (part : String) : Decidable (IsDecimal part) :=
  @instDecidableAnd _ _ _ (List.decidableBAll _ part.toList)

/-- The number for which decimal digits stand. -/
def decimalValue (part : String) : Nat :=
  Nat.ofDigits 10 (part.toList.reverse.map fun c => c.toNat - '0'.toNat)

theorem digitsValue_eq_decimalValue (part : String) : digitsValue part.toList = decimalValue part := by
  rw [digitsValue, decimalValue, Nat.ofDigits_eq_foldr, List.map_reverse, List.foldr_reverse, List.foldl_map]
  congr 1
  funext value c
  simp only [Nat.cast_id]
  omega

theorem IsDecimal.not_mem (decimal : IsDecimal part) (other : c.isDigit = false) : c ∉ part.toList := by
  intro member
  simp [decimal.2 c member] at other

theorem IsDecimal.natural?_eq (decimal : IsDecimal part) :
    natural? part.toList = if decimalValue part < 2 ^ 64 then some (decimalValue part) else none := by
  have digits : part.toList.all isDigit := List.all_eq_true.mpr decimal.2
  have limit : wordLimit = 2 ^ 64 := rfl
  unfold natural?
  split
  next rest signed =>
    have sign : '+' ∈ part.toList := signed ▸ List.mem_cons_self
    exact absurd sign (decimal.not_mem (by decide))
  next => simp [decimal.1, digits, digitsValue_eq_decimalValue, limit]

section
variable (decimal : ∀ part ∈ parts, IsDecimal part)
include decimal

theorem fields_join_decimals (some : parts ≠ []) : fields '.' (join "." parts).toList = parts.map String.toList := by
  rw [fields_eq_splitOn, toList_join]
  apply List.splitOn_intercalate
  · intro text member
    obtain ⟨part, listed, rfl⟩ := List.mem_map.mp member
    exact (decimal part listed).not_mem (by decide)
  · simpa using some

theorem isDigit_of_mem_join (member : c ∈ (join "." parts).toList) : c = '.' ∨ c.isDigit := by
  by_cases dot : c = '.'
  · exact .inl dot
  · rw [toList_join] at member
    obtain ⟨text, listed, inside⟩ := (mem_intercalate_iff dot).mp member
    obtain ⟨part, known, rfl⟩ := List.mem_map.mp listed
    exact .inr ((decimal part known).2 c inside)

theorem filled_join_decimals : ∀ c ∈ (join "." parts).toList, isBlank c = false := by
  intro c member
  rcases isDigit_of_mem_join decimal member with rfl | digit
  · decide
  · have bounds := isDigit_bounds digit
    apply isBlank_of_bounds <;> omega

theorem hyphen_not_mem_join_decimals : '-' ∉ (join "." parts).toList := by
  intro member
  rcases isDigit_of_mem_join decimal member with dot | digit
  · exact absurd dot (by decide)
  · exact absurd digit (by decide)

end

end Text

namespace Version
open Text
variable {parts front behind : List String} {large : String}

theorem splitNumbers_decimals (decimal : ∀ part ∈ parts, IsDecimal part)
    (fits : ∀ part ∈ parts, decimalValue part < 2 ^ 64) :
    splitNumbers (parts.map String.toList) = (parts.map decimalValue, []) := by
  induction parts with
  | nil => rfl
  | cons part parts ih =>
    obtain ⟨digits, decimal⟩ := List.forall_mem_cons.mp decimal
    obtain ⟨small, fits⟩ := List.forall_mem_cons.mp fits
    rw [List.map_cons, splitNumbers, digits.natural?_eq, if_pos small, ih decimal fits]
    rfl

theorem numbered_join (some : parts ≠ []) (decimal : ∀ part ∈ parts, IsDecimal part)
    (fits : ∀ part ∈ parts, decimalValue part < 2 ^ 64) :
    Numbered (join "." parts).toList (parts.map decimalValue) where
  filled := filled_join_decimals decimal
  dashless := hyphen_not_mem_join_decimals decimal
  numeric := by rw [fields_join_decimals decimal some, splitNumbers_decimals decimal fits]

theorem natural?_eq_none (decimal : IsDecimal large) (exceeds : 2 ^ 64 ≤ decimalValue large) :
    natural? large.toList = none := by
  rw [decimal.natural?_eq, if_neg (Nat.not_lt.mpr exceeds)]

theorem join_ne_nil (digits : IsDecimal large) (behind : List String) : (join "." (large :: behind)).toList ≠ [] := by
  rw [toList_join_cons]
  simp [digits.1]

/-- A first number that does not fit is refused. -/
theorem read_join_of_large (decimal : ∀ part ∈ large :: behind, IsDecimal part)
    (exceeds : 2 ^ 64 ≤ decimalValue large) :
    read (join "." (large :: behind)).toList = .error (.notNumeric large) := by
  have digits := decimal large List.mem_cons_self
  apply read_of_fault (filled_join_decimals decimal) (join_ne_nil digits behind)
  rw [readParts, cut_eq_none_iff.mpr (hyphen_not_mem_join_decimals decimal)]
  simp only [fields_join_decimals decimal (List.cons_ne_nil large behind), List.map_cons, splitNumbers,
    natural?_eq_none digits exceeds, List.isEmpty_nil, Bool.true_or, if_true, String.ofList_toList]
  rfl

/-- A later number that does not fit starts a qualifier. -/
theorem read_join_append_large (some : front ≠ []) (decimal : ∀ part ∈ front ++ large :: behind, IsDecimal part)
    (fits : ∀ part ∈ front, decimalValue part < 2 ^ 64) (exceeds : 2 ^ 64 ≤ decimalValue large) :
    read (join "." (front ++ large :: behind)).toList = .ok ⟨join "." (front ++ large :: behind),
      front.map decimalValue, Option.some (join "." (large :: behind))⟩ := by
  obtain ⟨before, after⟩ := List.forall_mem_append.mp decimal
  have digits := after large List.mem_cons_self
  have whole : (join "." (front ++ large :: behind)).toList =
      (join "." front).toList ++ '.' :: (join "." (large :: behind)).toList := by
    rw [join_append some (List.cons_ne_nil large behind), String.toList_append, String.toList_append]
    simp
  have result := (numbered_join some before fits).read_dot (filled_join_decimals after) (join_ne_nil digits behind)
    (hyphen_not_mem_join_decimals after) (fields_join_decimals after (List.cons_ne_nil large behind))
    (natural?_eq_none digits exceeds)
  rw [whole, result, ← whole, String.ofList_toList, String.ofList_toList]

theorem lowercase_join_not_mem_releaseWords (digits : IsDecimal large) (behind : List String) :
    lowercase (join "." (large :: behind)) ∉ releaseWords := by
  obtain ⟨c, member⟩ := List.exists_mem_of_ne_nil large.toList (by simpa using digits.1)
  have bounds := isDigit_bounds (digits.2 c member)
  have plain : BeforeLetters c := ⟨by omega, by omega⟩
  apply lowercase_not_mem_releaseWords plain
  rw [toList_join_cons]
  exact List.mem_append_left _ member

/-- Numbers that fit are read as they are, without a qualifier, and compare as they do when filled up with zeros. The first
number that does not fit makes the text no version if it comes first. Else it starts a qualifier, with which the version
precedes that of the numbers in front. -/
theorem dotted_numbers (some : parts ≠ []) (decimal : ∀ part ∈ parts, IsDecimal part) :
    ((∀ part ∈ parts, decimalValue part < 2 ^ 64) → ∃ version, parse (join "." parts) = .ok version ∧
      version.numbers = parts.map decimalValue ∧ version.qualifier = none ∧ version.isPrerelease = false ∧
      ∀ others, others ≠ [] → (∀ part ∈ others, IsDecimal part ∧ decimalValue part < 2 ^ 64) →
        ∃ other, parse (join "." others) = .ok other ∧
          version.compare other = comparePadded (parts.map decimalValue) (others.map decimalValue)) ∧
    ∀ front large behind, parts = front ++ large :: behind → (∀ part ∈ front, decimalValue part < 2 ^ 64) →
      2 ^ 64 ≤ decimalValue large →
      (front = [] → parse (join "." parts) =
        .error (.invalidVersion (join "." parts) ("'" ++ large ++ "' is not a numeric component"))) ∧
      (front ≠ [] → ∃ version release, parse (join "." parts) = .ok version ∧ parse (join "." front) = .ok release ∧
        version.qualifier = Option.some (join "." (large :: behind)) ∧ version.isPrerelease ∧ version.below release) := by
  refine ⟨fun fits => ?_, ?_⟩
  · refine ⟨_, parse_eq_ok_iff.mpr (numbered_join some decimal fits).read, rfl, rfl, rfl, ?_⟩
    intro others nonempty numbers
    have digits := fun part member => (numbers part member).1
    have small := fun part member => (numbers part member).2
    refine ⟨_, parse_eq_ok_iff.mpr (numbered_join nonempty digits small).read, ?_⟩
    exact compare_of_release (preRelease?_eq_none rfl) (preRelease?_eq_none rfl)
  · intro front large behind split fits exceeds
    subst split
    obtain ⟨before, after⟩ := List.forall_mem_append.mp decimal
    constructor
    · intro first
      subst first
      rw [List.nil_append, parse, read_join_of_large after exceeds]
      rfl
    · intro later
      have qualified := read_join_append_large later decimal fits exceeds
      have release := numbered_join later before fits
      have early := lowercase_join_not_mem_releaseWords (after large List.mem_cons_self) behind
      refine ⟨_, _, parse_eq_ok_iff.mpr qualified, parse_eq_ok_iff.mpr release.read, rfl, ?_, ?_⟩
      · rw [isPrerelease, preRelease?_eq_some rfl early, Option.isSome_some]
      · exact below_iff.mpr (compare_of_preRelease rfl (preRelease?_eq_some rfl early) (preRelease?_eq_none rfl))

theorem dotted_numbers_ten : (∀ part ∈ ["1", "10"], IsDecimal part) ∧ ∃ version other,
    parse "1.10" = .ok version ∧ version.numbers = [1, 10] ∧ parse "1.9.0" = .ok other ∧ version.compare other = .gt := by
  have decimal : ∀ part ∈ ["1", "10"], IsDecimal part := by decide +kernel
  obtain ⟨fits, -⟩ := dotted_numbers (List.cons_ne_nil "1" ["10"]) decimal
  obtain ⟨version, parsed, numbers, -, -, compares⟩ := fits (by decide +kernel)
  obtain ⟨other, read, order⟩ := compares ["1", "9", "0"] (by decide) (by decide +kernel)
  refine ⟨decimal, version, other, parsed, numbers, read, ?_⟩
  rw [order]
  decide +kernel

/-- The second number does not fit, so the version comes before all that starts with a one, and not behind. -/
theorem large_number_precedes : (∀ part ∈ ["1", "18446744073709551616"], IsDecimal part) ∧
    ∃ version release, parse "1.18446744073709551616" = .ok version ∧ parse "1" = .ok release ∧
      version.qualifier = some "18446744073709551616" ∧ version.isPrerelease ∧ version.compare release = .lt ∧
      comparePadded (["1", "18446744073709551616"].map decimalValue) (["1"].map decimalValue) = .gt :=
  ⟨by decide +kernel, ⟨"1.18446744073709551616", [1], some "18446744073709551616"⟩, ⟨"1", [1], none⟩,
    by decide +kernel, by decide +kernel, rfl, by decide +kernel, by decide +kernel, by decide +kernel⟩

end Version
end Linkage
