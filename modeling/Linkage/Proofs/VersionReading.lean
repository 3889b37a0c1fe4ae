import Linkage.Proofs.Acceptance
import Linkage.Proofs.TextCutting
import Linkage.Proofs.VersionOrder

/-! Reading versions. What is read depends on the trimmed text alone, and a version reads again from the text that it
keeps. The numbers in front are made of digits and signs, so any other character of the text is one of the qualifier, and
one that is no letter stays what it is when the qualifier is lower-cased. -/

namespace Linkage

namespace Text

/-- Only letters are mapped, and only to letters. -/
private theorem lowercaseRuns_letters : ∀ run ∈ lowercaseRuns, 0x41 ≤ run.1 ∧ (0x41 : Int) ≤ run.1 + run.2.2.2 := by
  decide +kernel

/-- A character that stands before all letters, such as a digit or a comma. -/
def BeforeLetters (c : Char) : Prop :=
  0 < c.toNat ∧ c.toNat < 0x41

theorem lowercaseChar_eq_iff {c d : Char} (plain : BeforeLetters c) : lowercaseChar d = c ↔ d = c := by
  obtain ⟨lower, upper⟩ := plain
  simp only [lowercaseChar]
  split
  next first last step shift found =>
    obtain ⟨source, target⟩ := lowercaseRuns_letters _ (List.mem_of_find?_eq_some found)
    have inside := List.find?_some found
    simp only [Bool.and_eq_true, decide_eq_true_eq] at inside source target
    constructor
    · rintro rfl
      by_cases valid : (d.toNat + shift).toNat.isValidChar
      · rw [Char.ofNat, dif_pos valid] at upper
        have same : (Char.ofNatAux (d.toNat + shift).toNat valid).toNat = (d.toNat + shift).toNat := rfl
        omega
      · rw [Char.ofNat, dif_neg valid] at lower
        exact absurd lower (Nat.lt_irrefl 0)
    · rintro rfl
      omega
  next => rfl

theorem mem_lowercaseAfter_iff {c : Char} (plain : BeforeLetters c) {before text : List Char} :
    c ∈ lowercaseAfter before text ↔ c ∈ text := by
  -- The letters that are not mapped one by one, and what they are mapped to.
  have letter : ∀ d ∈ ['ς', 'σ', 'Σ', 'i', '\u0307', 'İ'], c ≠ d := by
    rintro d member rfl
    revert plain
    simp only [List.mem_cons, List.not_mem_nil, or_false] at member
    rcases member with rfl | rfl | rfl | rfl | rfl | rfl <;> unfold BeforeLetters <;> decide
  induction text generalizing before with
  | nil => simp [lowercaseAfter]
  | cons d rest ih =>
    rw [lowercaseAfter, List.mem_append, List.mem_cons]
    refine or_congr ?_ ih
    split
    next sigma =>
      subst sigma
      split <;> simp [letter]
    next =>
      split
      next dotted =>
        subst dotted
        simp [letter]
      next => rw [List.mem_singleton, eq_comm, lowercaseChar_eq_iff plain, eq_comm]

theorem mem_lowercase_iff {c : Char} (plain : BeforeLetters c) {text : String} :
    c ∈ (lowercase text).toList ↔ c ∈ text.toList := by
  rw [lowercase, String.toList_ofList, mem_lowercaseAfter_iff plain]

end Text

namespace Version
open Acceptance
variable {text : List Char} {version : Version} {c : Char} {numbers : List Nat} {qualifier : Option (List Char)}

/-- A character that numbers and their separators are made of. -/
def IsNumeric (c : Char) : Prop :=
  Text.isDigit c ∨ c = '+' ∨ c = '.' ∨ c = '-'

theorem isNumeric_of_natural? {part : List Char} {number : Nat} (read : Text.natural? part = some number)
    (member : c ∈ part) : IsNumeric c := by
  simp only [Text.natural?, Option.ite_none_right_eq_some, Bool.and_eq_true, List.all_eq_true] at read
  obtain ⟨⟨⟨-, digits⟩, -⟩, -⟩ := read
  split at digits
  next rest =>
    rcases List.mem_cons.mp member with rfl | member
    · exact .inr (.inl rfl)
    · exact .inl (digits c member)
  next => exact .inl (digits c member)

theorem natural?_eq_none_of_mem {part : List Char} (member : c ∈ part) (odd : ¬ IsNumeric c) : Text.natural? part = none := by
  cases read : Text.natural? part with
  | none => rfl
  | some number => exact absurd (isNumeric_of_natural? read member) odd

theorem splitNumbers_eq {parts others : List (List Char)} (split : splitNumbers parts = (numbers, others)) :
    ∃ front, parts = front ++ others ∧ ∀ part ∈ front, ∃ number, Text.natural? part = some number := by
  induction parts generalizing numbers with
  | nil =>
    obtain ⟨-, rfl⟩ := Prod.mk.inj split
    exact ⟨[], rfl, by simp⟩
  | cons part rest ih =>
    unfold splitNumbers at split
    cases read : Text.natural? part with
    | some number =>
      simp only [read, Prod.mk.injEq] at split
      obtain ⟨front, joined, all⟩ := ih (Prod.ext rfl split.2)
      refine ⟨part :: front, by rw [joined, List.cons_append], ?_⟩
      intro other member
      rcases List.mem_cons.mp member with rfl | member
      · exact ⟨number, read⟩
      · exact all other member
    | none =>
      simp only [read, Prod.mk.injEq] at split
      exact ⟨[], split.2, by simp⟩

/-- The numbers in front and the separators between them are not odd, so an odd character is in what is left over. -/
theorem mem_iff_mem_others {others : List (List Char)} (split : splitNumbers (Text.fields '.' text) = (numbers, others))
    (odd : ¬ IsNumeric c) : c ∈ text ↔ ∃ part ∈ others, c ∈ part := by
  have dotless : c ≠ '.' := fun same => odd (.inr (.inr (.inl same)))
  obtain ⟨front, joined, numeric⟩ := splitNumbers_eq split
  have absent : ∀ part ∈ front, c ∉ part := by
    intro part member inside
    obtain ⟨number, read⟩ := numeric part member
    exact odd (isNumeric_of_natural? read inside)
  rw [Text.mem_iff_mem_fields dotless, joined]
  simp only [List.mem_append, or_and_right, exists_or, or_iff_right_iff_imp]
  rintro ⟨part, member, inside⟩
  exact absurd inside (absent part member)

theorem mem_readParts_iff (read : readParts text = .ok (numbers, qualifier)) (odd : ¬ IsNumeric c) :
    c ∈ text ↔ ∃ word ∈ qualifier, c ∈ word := by
  have dotless : c ≠ '.' := fun same => odd (.inr (.inr (.inl same)))
  have dashless : c ≠ '-' := fun same => odd (.inr (.inr (.inr same)))
  unfold readParts at read
  cases found : Text.cut '-' text with
  | some halves =>
    obtain ⟨numeric, word⟩ := halves
    rw [found] at read
    simp only at read
    split at read
    next listed split =>
      obtain ⟨rfl, rfl⟩ := Prod.mk.inj (Except.ok.inj read)
      have absent : c ∉ numeric := by simp [mem_iff_mem_others split odd]
      rw [(Text.cut_eq_some_iff.mp found).1]
      simp [absent, dashless]
    next => simp at read
  | none =>
    rw [found] at read
    simp only at read
    split at read
    next listed split =>
      obtain ⟨rfl, rfl⟩ := Prod.mk.inj (Except.ok.inj read)
      simp [mem_iff_mem_others split odd]
    next listed part rest split =>
      split at read
      · cases read
      · obtain ⟨rfl, rfl⟩ := Prod.mk.inj (Except.ok.inj read)
        rw [mem_iff_mem_others split odd, ← Text.mem_intercalate_iff dotless]
        simp

theorem read_eq_ok_iff : read text = .ok version ↔
    Text.trim text ≠ [] ∧ (∀ c ∈ Text.trim text, Text.isBlank c = false) ∧ ∃ numbers qualifier,
      readParts (Text.trim text) = .ok (numbers, qualifier) ∧ qualifier ≠ some [] ∧
      ⟨.ofList (Text.trim text), numbers, qualifier.map .ofList⟩ = version := by
  unfold read
  by_cases empty : Text.trim text = []
  · simp [empty, bind, Except.bind, throw, throwThe, MonadExceptOf.throw]
  · by_cases blank : (Text.trim text).any Text.isBlank
    · have spaced : ¬ ∀ c ∈ Text.trim text, Text.isBlank c = false := by simpa using blank
      simp [empty, blank, spaced, bind, Except.bind, throw, throwThe, MonadExceptOf.throw]
    · have filled : ∀ c ∈ Text.trim text, Text.isBlank c = false := by simpa using blank
      simp only [empty, blank, List.isEmpty_iff, if_false, Bool.false_eq_true, ne_eq, not_false_eq_true, true_and,
        and_iff_right filled, bind_eq_ok_iff, Prod.exists]
      refine exists₂_congr fun numbers qualifier => and_congr_right fun _ => ?_
      by_cases nothing : qualifier = some []
      · simp [nothing, bind, Except.bind, throw, throwThe, MonadExceptOf.throw]
      · simp only [nothing, if_false, not_false_eq_true, true_and]
        constructor
        · exact Except.ok.inj
        · rintro rfl
          rfl

theorem parse_eq_ok_iff {text : String} : parse text = .ok version ↔ read text.toList = .ok version :=
  mapError_eq_ok_iff

private theorem releaseWords_letters : ∀ word ∈ releaseWords, word.toList.all (0x41 ≤ ·.toNat) := by
  decide

/-- The words for a release are made of letters alone. -/
theorem lowercase_not_mem_releaseWords {qualifier : String} (plain : Text.BeforeLetters c) (member : c ∈ qualifier.toList) :
    Text.lowercase qualifier ∉ releaseWords := by
  intro release
  have letter := List.all_eq_true.mp (releaseWords_letters _ release) c ((Text.mem_lowercase_iff plain).mpr member)
  exact Nat.not_le.mpr plain.2 (by simpa using letter)

theorem read_trim (text : List Char) : read (Text.trim text) = read text := by
  unfold read
  rw [Text.trim_trim]

/-- A version that some text reads as. -/
def WasRead (version : Version) : Prop :=
  ∃ text, read text = .ok version

namespace WasRead

/-- The numbers and the qualifier are those of the version's own text, in which there is no white space. -/
theorem parts_of_text (known : WasRead version) : version.text.toList ≠ [] ∧
    (∀ c ∈ version.text.toList, Text.isBlank c = false) ∧ ∃ word,
      readParts version.text.toList = .ok (version.numbers, word) ∧ word ≠ some [] ∧
      word.map .ofList = version.qualifier := by
  obtain ⟨text, read⟩ := known
  obtain ⟨nonempty, filled, numbers, word, parts, listed, rfl⟩ := read_eq_ok_iff.mp read
  rw [String.toList_ofList]
  exact ⟨nonempty, filled, word, parts, listed, rfl⟩

theorem text_ne_nil (known : WasRead version) : version.text.toList ≠ [] :=
  known.parts_of_text.1

theorem filled (known : WasRead version) : ∀ c ∈ version.text.toList, Text.isBlank c = false :=
  known.parts_of_text.2.1

theorem trim_text (known : WasRead version) : Text.trim version.text.toList = version.text.toList :=
  Text.trim_eq_self_of_forall known.filled

theorem read_text (known : WasRead version) : read version.text.toList = .ok version := by
  obtain ⟨nonempty, filled, word, parts, listed, kept⟩ := known.parts_of_text
  rw [read_eq_ok_iff, known.trim_text]
  refine ⟨nonempty, filled, version.numbers, word, parts, listed, ?_⟩
  rw [String.ofList_toList, kept]

theorem mem_text_iff (known : WasRead version) (odd : ¬ IsNumeric c) :
    c ∈ version.text.toList ↔ ∃ word ∈ version.qualifier, c ∈ word.toList := by
  obtain ⟨-, -, word, parts, -, kept⟩ := known.parts_of_text
  rw [mem_readParts_iff parts odd, ← kept]
  cases word <;> simp

/-- What is odd in a version shows in the word by which it precedes its release. -/
theorem mem_text_iff_preRelease (known : WasRead version) (odd : ¬ IsNumeric c) (plain : Text.BeforeLetters c) :
    c ∈ version.text.toList ↔ ∃ word ∈ version.preRelease?, c ∈ word.toList := by
  rw [known.mem_text_iff odd, preRelease?]
  cases version.qualifier with
  | none => simp
  | some qualifier =>
    have lowered := @Text.mem_lowercase_iff c plain qualifier
    simp only [Option.bind_some, Option.mem_def, Option.some.injEq, exists_eq_left', ← lowered]
    split
    next release =>
      have absent : c ∉ (Text.lowercase qualifier).toList :=
        fun member => lowercase_not_mem_releaseWords plain (lowered.mp member) release
      simp [absent]
    next => simp

end WasRead

theorem text_of_read (read : read text = .ok version) : version.text.toList = Text.trim text := by
  obtain ⟨-, -, numbers, qualifier, -, -, rfl⟩ := read_eq_ok_iff.mp read
  rw [String.toList_ofList]

end Version
end Linkage
