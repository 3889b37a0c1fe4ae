import Linkage.Proofs.VersionReading

/-! Texts that read as numbers and nothing else, and what becomes of them when something is written behind. Numbers behind
a dot are added to those in front. Behind a hyphen, or behind a dot when no number comes first, everything is the
qualifier. -/

namespace Linkage

namespace Text

theorem isDigit_bounds {c : Char} (digit : c.isDigit) : 48 ≤ c.toNat ∧ c.toNat ≤ 57 := by
  simpa [Char.isDigit, UInt32.le_iff_toNat_le] using digit

theorem isBlank_of_bounds {c : Char} (lower : 0x20 < c.toNat) (upper : c.toNat < 0x7F) : isBlank c = false := by
  simp [isBlank]
  omega

end Text

namespace Version
variable {text rest : List Char} {numbers others : List Nat} {version : Version}

/-- Lexicographic comparison, the shorter list being filled up with zeros. -/
def comparePadded (numbers others : List Nat) : Ordering :=
  let length := max numbers.length others.length
  List.compareLex Ord.compare (numbers.takeD length 0) (others.takeD length 0)

theorem compareNumbers_eq_comparePadded (numbers others : List Nat) :
    compareNumbers numbers others = comparePadded numbers others :=
  compareNumbers_eq_padded _ (Nat.le_max_left _ _) (Nat.le_max_right _ _)

theorem splitNumbers_append {parts more : List (List Char)} (numeric : splitNumbers parts = (numbers, [])) :
    splitNumbers (parts ++ more) = (numbers ++ (splitNumbers more).1, (splitNumbers more).2) := by
  induction parts generalizing numbers with
  | nil =>
    obtain rfl := (Prod.mk.inj numeric).1
    rfl
  | cons part parts ih =>
    rw [splitNumbers] at numeric
    rw [List.cons_append, splitNumbers]
    cases read : Text.natural? part with
    | some number =>
      simp only [read, Prod.mk.injEq] at numeric
      rw [ih (Prod.ext rfl numeric.2)]
      simp [← numeric.1]
    | none => simp [read] at numeric

theorem preRelease?_eq_none (plain : version.qualifier = none) : version.preRelease? = none := by
  rw [preRelease?, plain, Option.bind_none]

theorem preRelease?_eq_some {qualifier : String} (qualified : version.qualifier = some qualifier)
    (early : Text.lowercase qualifier ∉ releaseWords) : version.preRelease? = some (Text.lowercase qualifier) := by
  rw [preRelease?, qualified, Option.bind_some, if_neg early]

/-- Releases compare as their numbers. -/
theorem compare_of_release {a b : Version} (release : a.preRelease? = none) (other : b.preRelease? = none) :
    a.compare b = comparePadded a.numbers b.numbers := by
  rw [Version.compare, compareNumbers_eq_comparePadded, release, other, comparePreReleases, Ordering.then_eq]

/-- A version that precedes its release is below all that have the same numbers and precede nothing. -/
theorem compare_of_preRelease {a b : Version} {word : String} (numbers : a.numbers = b.numbers)
    (early : a.preRelease? = some word) (release : b.preRelease? = none) : a.compare b = .lt := by
  rw [Version.compare, numbers, compareNumbers_self, early, release]
  rfl

/-- The text is read as these numbers and nothing else. -/
structure Numbered (text : List Char) (numbers : List Nat) : Prop where
  filled : ∀ c ∈ text, Text.isBlank c = false
  dashless : '-' ∉ text
  numeric : splitNumbers (Text.fields '.' text) = (numbers, [])

section
variable (filled : ∀ c ∈ text, Text.isBlank c = false) (nonempty : text ≠ [])
include filled nonempty

theorem read_of_parts {qualifier : Option (List Char)} (parts : readParts text = .ok (numbers, qualifier))
    (listed : qualifier ≠ some []) : read text = .ok ⟨.ofList text, numbers, qualifier.map .ofList⟩ := by
  rw [read_eq_ok_iff, Text.trim_eq_self_of_forall filled]
  exact ⟨nonempty, filled, numbers, qualifier, parts, listed, rfl⟩

theorem read_of_fault {fault : Fault} (refused : readParts text = .error fault) : read text = .error fault := by
  have visible : text.any Text.isBlank = false := by simpa using filled
  rw [read, Text.trim_eq_self_of_forall filled, visible, refused]
  simp only [List.isEmpty_iff, nonempty, if_false, Bool.false_eq_true]
  rfl

end

namespace Numbered

theorem text_ne_nil (numbered : Numbered text numbers) : text ≠ [] := by
  intro empty
  have numeric := numbered.numeric
  rw [empty] at numeric
  exact absurd (Prod.mk.inj numeric).2 (List.cons_ne_nil [] [])

theorem numbers_ne_nil (numbered : Numbered text numbers) : numbers ≠ [] := by
  intro empty
  have numeric := numbered.numeric
  obtain ⟨first, others, split⟩ := List.exists_cons_of_ne_nil (Text.fields_ne_nil '.' text)
  rw [split, splitNumbers] at numeric
  cases read : Text.natural? first <;> simp [read, empty] at numeric

theorem read (numbered : Numbered text numbers) : read text = .ok ⟨.ofList text, numbers, none⟩ := by
  have parts : readParts text = .ok (numbers, none) := by
    rw [readParts, Text.cut_eq_none_iff.mpr numbered.dashless]
    simp only [numbered.numeric]
    rfl
  exact read_of_parts numbered.filled numbered.text_ne_nil parts (by simp)

theorem append (numbered : Numbered text numbers) (behind : Numbered rest others) :
    Numbered (text ++ '.' :: rest) (numbers ++ others) where
  filled c member := by
    rcases List.mem_append.mp member with before | after
    · exact numbered.filled c before
    · rcases List.mem_cons.mp after with dot | after
      · rw [dot]
        decide
      · exact behind.filled c after
  dashless := by simp [numbered.dashless, behind.dashless]
  numeric := by rw [Text.fields_append_fields, splitNumbers_append numbered.numeric, behind.numeric]

section
variable (numbered : Numbered text numbers) (filled : ∀ c ∈ rest, Text.isBlank c = false) (nonempty : rest ≠ [])
include numbered filled nonempty

private theorem read_qualified {separator : Char} (visible : Text.isBlank separator = false)
    (parts : readParts (text ++ separator :: rest) = .ok (numbers, some rest)) :
    Version.read (text ++ separator :: rest) =
      .ok ⟨.ofList (text ++ separator :: rest), numbers, some (.ofList rest)⟩ := by
  apply read_of_parts _ (by simp) parts (by simpa using nonempty)
  intro c member
  rcases List.mem_append.mp member with before | after
  · exact numbered.filled c before
  · rcases List.mem_cons.mp after with same | after
    · exact same ▸ visible
    · exact filled c after

theorem read_hyphen : Version.read (text ++ '-' :: rest) =
    .ok ⟨.ofList (text ++ '-' :: rest), numbers, some (.ofList rest)⟩ := by
  apply numbered.read_qualified filled nonempty (by decide)
  rw [readParts, Text.cut_append numbered.dashless]
  simp only [numbered.numeric]
  rfl

theorem read_dot {part : List Char} {others : List (List Char)} (dashless : '-' ∉ rest)
    (split : Text.fields '.' rest = part :: others) (unread : Text.natural? part = none) :
    Version.read (text ++ '.' :: rest) = .ok ⟨.ofList (text ++ '.' :: rest), numbers, some (.ofList rest)⟩ := by
  apply numbered.read_qualified filled nonempty (by decide)
  have uncut : '-' ∉ text ++ '.' :: rest := by simp [numbered.dashless, dashless]
  have behind : splitNumbers (part :: others) = ([], part :: others) := by simp [splitNumbers, unread]
  have whole : ['.'].intercalate (part :: others) = rest := by rw [← split, Text.intercalate_fields]
  rw [readParts, Text.cut_eq_none_iff.mpr uncut]
  simp only [Text.fields_append_fields, splitNumbers_append numbered.numeric, split, behind, List.append_nil]
  simp [numbered.numbers_ne_nil, whole]
  rfl

end

end Numbered

/-- A text without white space around it that is read without a qualifier is read as its numbers and nothing else. -/
theorem numbered_of_read (trimmed : Text.trim text = text) (read : read text = .ok version)
    (plain : version.qualifier = none) : Numbered text version.numbers := by
  obtain ⟨-, filled, numbers, qualifier, parts, -, rfl⟩ := read_eq_ok_iff.mp read
  rw [trimmed] at filled parts
  obtain rfl : qualifier = none := Option.map_eq_none_iff.mp plain
  unfold readParts at parts
  cases found : Text.cut '-' text with
  | some halves =>
    simp only [found] at parts
    split at parts
    next => cases parts
    next => simp at parts
  | none =>
    simp only [found] at parts
    split at parts
    next listed split =>
      obtain rfl := (Prod.mk.inj (Except.ok.inj parts)).1
      exact ⟨filled, Text.cut_eq_none_iff.mp found, split⟩
    next =>
      split at parts
      · cases parts
      · cases parts

end Version
end Linkage
