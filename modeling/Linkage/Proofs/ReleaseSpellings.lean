import Linkage.Proofs.NumberedVersions
import Linkage.Proofs.VersionIdentity

/-! What may be written behind a release. Zeros change nothing, nor do the words that mean the release itself, in any letter
case. Every other word makes a version that precedes the release but nothing that the release does not precede, and such
versions stand in the order of their lower-cased words. -/

namespace Linkage

namespace Text
variable {c : Char} {before text : List Char} {word : String}

theorem isAlpha_bounds (letter : c.isAlpha) : 65 ≤ c.toNat ∧ c.toNat ≤ 122 := by
  have cases : (65 ≤ c.toNat ∧ c.toNat ≤ 90) ∨ (97 ≤ c.toNat ∧ c.toNat ≤ 122) := by
    rcases Bool.or_eq_true_iff.mp letter with upper | lower
    · exact .inl (of_decide_eq_true upper)
    · obtain ⟨least, most⟩ := Bool.and_eq_true_iff.mp lower
      exact .inr ⟨of_decide_eq_true least, of_decide_eq_true most⟩
  omega

theorem isAlpha_of_toLower (letter : c.toLower.isAlpha) : c.isAlpha := by
  by_cases upper : c.isUpper
  · exact Bool.or_eq_true_iff.mpr (.inl upper)
  · have same : c.toLower = c := dif_neg fun inside => upper (decide_eq_true inside)
    rwa [same] at letter

theorem isBlank_of_isAlpha (letter : c.isAlpha) : isBlank c = false := by
  have bounds := isAlpha_bounds letter
  apply isBlank_of_bounds <;> omega

private theorem lowercaseChar_letters :
    ∀ place < 58, lowercaseChar (.ofNat (65 + place)) = (Char.ofNat (65 + place)).toLower := by
  decide +kernel

theorem lowercaseChar_of_isAlpha (letter : c.isAlpha) : lowercaseChar c = c.toLower := by
  have bounds := isAlpha_bounds letter
  have single := lowercaseChar_letters (c.toNat - 65) (by omega)
  rwa [Nat.add_sub_cancel' bounds.1, Char.ofNat_toNat] at single

theorem lowercaseAfter_letters (letters : ∀ c ∈ text, c.isAlpha) : lowercaseAfter before text = text.map Char.toLower := by
  induction text generalizing before with
  | nil => rfl
  | cons c rest ih =>
    obtain ⟨letter, others⟩ := List.forall_mem_cons.mp letters
    have sigma : c ≠ 'Σ' := fun same => absurd (same ▸ letter) (by decide)
    have dotted : c ≠ 'İ' := fun same => absurd (same ▸ letter) (by decide)
    rw [lowercaseAfter, if_neg sigma, if_neg dotted, lowercaseChar_of_isAlpha letter, ih others]
    rfl

/-- On the letters from A to Z, the two ways of lower-casing agree. -/
theorem lowercase_letters (letters : ∀ c ∈ word.toList, c.isAlpha) : lowercase word = word.toLower := by
  have ascii : word.toLower = word.map Char.toLower := rfl
  rw [lowercase, lowercaseAfter_letters letters, ascii, ← String.toList_map, String.ofList_toList]

end Text

namespace Version
variable {text : List Char} {numbers others : List Nat} {word : String} {version release : Version}

theorem significant_append_zeros (count : Nat) : significant (numbers ++ List.replicate count 0) = significant numbers := by
  have zeros : ∀ number ∈ List.replicate count 0, decide (number = 0) = true := by
    intro number member
    exact decide_eq_true (List.eq_of_mem_replicate member)
  rw [significant, List.reverse_append, List.reverse_replicate, List.dropWhile_append_of_pos zeros, significant]

private theorem numbered_zero : Numbered ['0'] [0] where
  filled := List.forall_mem_singleton.mpr (by decide)
  dashless := by decide
  numeric := by decide

theorem Numbered.append_zeros (numbered : Numbered text numbers) (count : Nat) :
    Numbered (text ++ (List.replicate count ['.', '0']).flatten) (numbers ++ List.replicate count 0) := by
  induction count with
  | zero => simpa using numbered
  | succ count ih =>
    have longer := ih.append numbered_zero
    rw [List.replicate_succ', List.replicate_succ', List.flatten_append]
    simpa using longer

private theorem releaseWords_alpha : ∀ word ∈ releaseWords, word ≠ "" ∧ word.toList.all Char.isAlpha := by
  decide

theorem alpha_of_toLower (meant : word.toLower ∈ releaseWords) :
    word.toList ≠ [] ∧ (∀ c ∈ word.toList, c.isAlpha) ∧ Text.lowercase word ∈ releaseWords := by
  obtain ⟨nonempty, alpha⟩ := releaseWords_alpha _ meant
  have spelled : word.toLower.toList = word.toList.map Char.toLower := String.toList_map
  have letters : ∀ c ∈ word.toList, c.isAlpha := by
    intro c member
    apply Text.isAlpha_of_toLower
    apply List.all_eq_true.mp alpha
    rw [spelled]
    exact List.mem_map_of_mem member
  refine ⟨?_, letters, ?_⟩
  · intro empty
    rw [empty] at spelled
    exact nonempty (String.toList_eq_nil_iff.mp spelled)
  · rwa [Text.lowercase_letters letters]

theorem not_isNumeric_of_isAlpha {c : Char} (letter : c.isAlpha) : ¬ IsNumeric c := by
  have bounds := Text.isAlpha_bounds letter
  intro numeric
  rcases numeric with digit | rfl | rfl | rfl
  · have limits := Text.isDigit_bounds digit
    omega
  all_goals exact absurd letter (by decide)

/-- The qualifier of a version that precedes its release. -/
structure Precedes (word : String) : Prop where
  nonempty : word ≠ ""
  filled : ∀ c ∈ word.toList, Text.isBlank c = false
  early : Text.lowercase word ∉ releaseWords

section
variable {text : String} (numbered : Numbered text.toList numbers)
include numbered

theorem parse_zeros (count : Nat) : parse (text ++ String.join (List.replicate count ".0")) =
    .ok ⟨text ++ String.join (List.replicate count ".0"), numbers ++ List.replicate count 0, none⟩ := by
  have spelled : (text ++ String.join (List.replicate count ".0")).toList =
      text.toList ++ (List.replicate count ['.', '0']).flatten := by
    rw [String.toList_append, String.toList_join, List.flatMap_replicate]
    rfl
  rw [parse_eq_ok_iff, spelled, (numbered.append_zeros count).read, ← spelled, String.ofList_toList]

theorem parse_hyphen (nonempty : word ≠ "") (filled : ∀ c ∈ word.toList, Text.isBlank c = false) :
    parse (text ++ "-" ++ word) = .ok ⟨text ++ "-" ++ word, numbers, some word⟩ := by
  have spelled : (text ++ "-" ++ word).toList = text.toList ++ '-' :: word.toList := by
    simp
  have some : word.toList ≠ [] := by simpa using nonempty
  rw [parse_eq_ok_iff, spelled, numbered.read_hyphen filled some, ← spelled, String.ofList_toList, String.ofList_toList]

theorem parse_dot (some : word.toList ≠ []) (letters : ∀ c ∈ word.toList, c.isAlpha) :
    parse (text ++ "." ++ word) = .ok ⟨text ++ "." ++ word, numbers, Option.some word⟩ := by
  have spelled : (text ++ "." ++ word).toList = text.toList ++ '.' :: word.toList := by
    simp
  have filled : ∀ c ∈ word.toList, Text.isBlank c = false := fun c member => Text.isBlank_of_isAlpha (letters c member)
  have absent {c : Char} (other : c.isAlpha = false) : c ∉ word.toList := by
    intro member
    simp [letters c member] at other
  obtain ⟨c, member⟩ := List.exists_mem_of_ne_nil word.toList some
  have unread := natural?_eq_none_of_mem member (not_isNumeric_of_isAlpha (letters c member))
  have split := Text.fields_of_not_mem (absent (by decide : '.'.isAlpha = false))
  rw [parse_eq_ok_iff, spelled, numbered.read_dot filled some (absent (by decide)) split unread, ← spelled,
    String.ofList_toList, String.ofList_toList]

end

theorem same_of_release {a b : Version} (numbers : significant a.numbers = significant b.numbers)
    (release : a.preRelease? = none) (other : b.preRelease? = none) : a.same b := by
  rw [same_iff, compare_of_release release other, ← compareNumbers_eq_comparePadded]
  exact compareNumbers_eq_iff.mpr numbers

theorem preRelease?_eq_none_of_word {version : Version} (qualified : version.qualifier = some word)
    (meant : Text.lowercase word ∈ releaseWords) : version.preRelease? = none := by
  rw [preRelease?, qualified, Option.bind_some, if_pos meant]

/-- A text that is read as a release is equal to it with zeros or a word for the release behind. With any other word it
is below the release and above all that has smaller numbers, and the words decide about two of these. What is read is
read again from its text. -/
theorem release_spellings {text : String} {release : Version} (trimmed : Text.trim text.toList = text.toList)
    (parsed : parse text = .ok release) (plain : release.qualifier = none) :
    (∀ count, ∃ version, parse (text ++ String.join (List.replicate count ".0")) = .ok version ∧ version.same release) ∧
    (∀ word : String, word.toLower ∈ releaseWords → ∀ separator ∈ ["-", "."],
      ∃ version, parse (text ++ separator ++ word) = .ok version ∧ version.same release) ∧
    (∀ word, Precedes word → ∃ version, parse (text ++ "-" ++ word) = .ok version ∧ version.below release ∧
      ∀ other : Version, comparePadded other.numbers release.numbers = .lt → other.below version) ∧
    (∀ word other, Precedes word → Precedes other → ∃ first second, parse (text ++ "-" ++ word) = .ok first ∧
      parse (text ++ "-" ++ other) = .ok second ∧
      first.compare second = Ord.compare (Text.lowercase word) (Text.lowercase other)) ∧
    ∀ (written : String) (version : Version), parse written = .ok version → parse (toString version) = .ok version := by
  have numbered := numbered_of_read trimmed (parse_eq_ok_iff.mp parsed) plain
  have bare := preRelease?_eq_none plain
  refine ⟨fun count => ?_, ?_, ?_, ?_, ?_⟩
  · exact ⟨_, parse_zeros numbered count, same_of_release (significant_append_zeros count) (preRelease?_eq_none rfl) bare⟩
  · intro word meant separator member
    obtain ⟨some, letters, lowered⟩ := alpha_of_toLower meant
    have filled := fun c inside => Text.isBlank_of_isAlpha (letters c inside)
    simp only [List.mem_cons, List.not_mem_nil, or_false] at member
    rcases member with rfl | rfl
    · have read := parse_hyphen numbered (by simpa using some) filled
      exact ⟨_, read, same_of_release rfl (preRelease?_eq_none_of_word rfl lowered) bare⟩
    · have read := parse_dot numbered some letters
      exact ⟨_, read, same_of_release rfl (preRelease?_eq_none_of_word rfl lowered) bare⟩
  · intro word precedes
    refine ⟨_, parse_hyphen numbered precedes.nonempty precedes.filled, ?_, fun other smaller => ?_⟩
    · exact below_iff.mpr (compare_of_preRelease rfl (preRelease?_eq_some rfl precedes.early) bare)
    · rw [below_iff, Version.compare, compareNumbers_eq_comparePadded, smaller]
      rfl
  · intro word other precedes also
    refine ⟨_, _, parse_hyphen numbered precedes.nonempty precedes.filled, parse_hyphen numbered also.nonempty also.filled, ?_⟩
    rw [Version.compare, compareNumbers_self, preRelease?_eq_some rfl precedes.early, preRelease?_eq_some rfl also.early]
    rfl
  · intro written version read
    have known : version.WasRead := ⟨written.toList, parse_eq_ok_iff.mp read⟩
    exact parse_eq_ok_iff.mpr known.read_text

theorem release_spellings_candidate : Precedes "RC1" ∧ ∃ release longer final candidate, parse "1.2" = .ok release ∧
    parse "1.2.0.0" = .ok longer ∧ longer.same release ∧ parse "1.2.FINAL" = .ok final ∧ final.same release ∧
    parse "1.2-RC1" = .ok candidate ∧ candidate.below release ∧ Version.below ⟨"1.1.9", [1, 1, 9], none⟩ candidate := by
  have parsed : parse "1.2" = .ok ⟨"1.2", [1, 2], none⟩ := by decide +kernel
  have filled : ∀ c ∈ "RC1".toList, Text.isBlank c = false := by simp [Text.isBlank]
  have precedes : Precedes "RC1" := ⟨by decide, filled, by decide +kernel⟩
  obtain ⟨zeros, words, early, -, -⟩ := release_spellings (by decide +kernel) parsed rfl
  obtain ⟨longer, written, equal⟩ := zeros 2
  obtain ⟨final, spelled, released⟩ := words "FINAL" (by decide +kernel) "." (by decide)
  obtain ⟨candidate, named, below, above⟩ := early "RC1" precedes
  exact ⟨precedes, _, longer, final, candidate, parsed, written, equal, spelled, released, named, below,
    above _ (by decide +kernel)⟩

end Version
end Linkage
