import Mathlib.Data.String.Basic
import Linkage.Coordinate
import Linkage.Proofs.KeyOrder
import Linkage.Proofs.VersionReading

/-! The texts of keys and of pinned libraries. White space around a key does not count, and within it there is none, so a
text is read as a key just if the key's own text is what trimming leaves of it. Thus every key is read again from its
text, and different keys have different texts. A pinned library may be written with white space in front of its version
too; its own text has none. -/

namespace Linkage

theorem IsKeyPart.colon_not_mem {part : String} (isPart : IsKeyPart part) : ':' ∉ part.toList :=
  fun member => (isPart.2 ':' member).2 rfl

namespace ModuleKey
open Acceptance
variable {key other : ModuleKey} {group name value : String}

theorem eq_of_parts (group : key.group.toList = other.group.toList) (name : key.name.toList = other.name.toList) :
    key = other := by
  obtain ⟨first, second, _, _⟩ := key
  obtain ⟨rival, twin, _, _⟩ := other
  obtain rfl := String.toList_inj.mp group
  obtain rfl := String.toList_inj.mp name
  rfl

theorem make_eq_ok_iff : make group name = .ok key ↔ key.group = group ∧ key.name = name := by
  constructor
  · intro made
    unfold make at made
    split at made
    next =>
      split at made
      next =>
        cases made
        exact ⟨rfl, rfl⟩
      next => contradiction
    next => contradiction
  · rintro ⟨rfl, rfl⟩
    rw [make, dif_pos key.group_isKeyPart, dif_pos key.name_isKeyPart]
    rfl

theorem ofParts_eq_ok_iff : ofParts group name = .ok key ↔ key.group = group ∧ key.name = name :=
  mapError_eq_ok_iff.trans make_eq_ok_iff

theorem toList_text (key : ModuleKey) : key.text.toList = key.group.toList ++ ':' :: key.name.toList := by
  simp [text]

theorem filled_text (key : ModuleKey) : ∀ c ∈ key.text.toList, Text.isBlank c = false := by
  intro c member
  rw [toList_text, List.mem_append, List.mem_cons] at member
  rcases member with inGroup | rfl | inName
  · exact (key.group_isKeyPart.2 c inGroup).1
  · decide
  · exact (key.name_isKeyPart.2 c inName).1

theorem trim_text (key : ModuleKey) : Text.trim key.text.toList = key.text.toList :=
  Text.trim_eq_self_of_forall key.filled_text

theorem fields_text (key : ModuleKey) : Text.fields ':' key.text.toList = [key.group.toList, key.name.toList] := by
  rw [toList_text, Text.fields_append key.group_isKeyPart.colon_not_mem,
    Text.fields_of_not_mem key.name_isKeyPart.colon_not_mem]

/-- A key is what is written between the outer white space. -/
theorem parse_eq_ok_iff : parse value = .ok key ↔ Text.trim value.toList = key.text.toList := by
  constructor
  · intro read
    unfold parse at read
    split at read
    next group name parts =>
      obtain ⟨same, equal⟩ := ofParts_eq_ok_iff.mp read
      obtain ⟨-, whole, -⟩ := Text.fields_eq_iff.mp parts
      rw [whole, toList_text, same, equal]
      simp
    next => contradiction
  · intro trimmed
    rw [parse, trimmed, fields_text]
    exact ofParts_eq_ok_iff.mpr ⟨String.ofList_toList.symm, String.ofList_toList.symm⟩

theorem parse_text (key : ModuleKey) : parse key.text = .ok key :=
  parse_eq_ok_iff.mpr key.trim_text

theorem text_inj : key.text = other.text ↔ key = other := by
  refine ⟨fun same => ?_, congrArg text⟩
  have again := parse_text key
  rw [same, parse_text other] at again
  exact (Except.ok.inj again).symm

theorem parse_parts (made : ofParts group name = .ok key) : parse (group ++ ":" ++ name) = .ok key := by
  obtain ⟨rfl, rfl⟩ := ofParts_eq_ok_iff.mp made
  exact parse_text key

theorem compare_eq_lt_iff : key.compare other = .lt ↔
    key.group < other.group ∨ key.group = other.group ∧ key.name < other.name := by
  rw [ModuleKey.compare, Ordering.then_eq_lt, compare_lt_iff_lt, compare_lt_iff_lt, compare_eq_iff_eq]

end ModuleKey

namespace Coordinate
open Acceptance
variable {coordinate : Coordinate} {value : String}

theorem toList_text (coordinate : Coordinate) :
    coordinate.text.toList = coordinate.key.text.toList ++ ':' :: coordinate.version.text.toList := by
  simp [text]

/-- Behind the last colon stands a text that reads as the version. -/
theorem parse_eq_ok_iff : parse value = .ok coordinate ↔ ∃ version, ':' ∉ version ∧
    Text.trim value.toList = coordinate.key.text.toList ++ ':' :: version ∧
    Version.read version = .ok coordinate.version := by
  constructor
  · intro read
    unfold parse at read
    split at read
    next group name version parts =>
      obtain ⟨key, named, read⟩ := bind_eq_ok_iff.mp read
      obtain ⟨pinned, versioned, same⟩ := bind_eq_ok_iff.mp read
      obtain rfl : (⟨key, pinned⟩ : Coordinate) = coordinate := Except.ok.inj same
      obtain ⟨isGroup, isName⟩ := ModuleKey.ofParts_eq_ok_iff.mp named
      obtain ⟨-, whole, apart⟩ := Text.fields_eq_iff.mp parts
      refine ⟨version, apart version (by simp), ?_, ?_⟩
      · rw [whole, ModuleKey.toList_text, isGroup, isName]
        simp
      · simpa using Version.parse_eq_ok_iff.mp (mapError_eq_ok_iff.mp versioned)
    next => contradiction
  · rintro ⟨version, last, trimmed, read⟩
    have parts : Text.fields ':' (Text.trim value.toList) =
        [coordinate.key.group.toList, coordinate.key.name.toList, version] := by
      rw [trimmed, Text.fields_append_fields, ModuleKey.fields_text, Text.fields_of_not_mem last]
      rfl
    have named : ModuleKey.ofParts (.ofList coordinate.key.group.toList) (.ofList coordinate.key.name.toList) =
        .ok coordinate.key :=
      ModuleKey.ofParts_eq_ok_iff.mpr ⟨String.ofList_toList.symm, String.ofList_toList.symm⟩
    have versioned : Version.parse (.ofList version) = .ok coordinate.version :=
      Version.parse_eq_ok_iff.mpr (by rwa [String.toList_ofList])
    rw [parse, parts]
    dsimp only
    rw [named, versioned]
    rfl

theorem wasRead_version (read : parse value = .ok coordinate) : coordinate.version.WasRead := by
  obtain ⟨version, -, -, versioned⟩ := parse_eq_ok_iff.mp read
  exact ⟨version, versioned⟩

theorem colon_not_mem_version (read : parse value = .ok coordinate) : ':' ∉ coordinate.version.text.toList := by
  obtain ⟨version, last, -, versioned⟩ := parse_eq_ok_iff.mp read
  rw [Version.text_of_read versioned]
  exact fun member => last (Text.mem_of_mem_trim member)

theorem parse_text (read : parse value = .ok coordinate) : parse coordinate.text = .ok coordinate := by
  have known := wasRead_version read
  refine parse_eq_ok_iff.mpr ⟨coordinate.version.text.toList, colon_not_mem_version read, ?_, known.read_text⟩
  rw [toList_text]
  apply Text.trim_eq_self_of_forall
  intro c member
  rcases List.mem_append.mp member with inKey | behind
  · exact coordinate.key.filled_text c inKey
  · rcases List.mem_cons.mp behind with rfl | inVersion
    · decide
    · exact known.filled c inVersion

/-- Keys and pinned libraries are read again from their texts. A key's text belongs to it alone, but keys are not in the
order of their texts: the group counts first, and a colon comes after a full stop. -/
theorem texts_read_back (key other : ModuleKey) (coordinate : Coordinate) (group name value : String) :
    (ModuleKey.parse value = .ok key ↔ Text.trimmed value = key.text) ∧
    ModuleKey.parse key.text = .ok key ∧
    (key.text = other.text ↔ key = other) ∧
    (key.compare other = .lt ↔ key.group < other.group ∨ key.group = other.group ∧ key.name < other.name) ∧
    (key.compare other = .eq ↔ key = other) ∧
    (ModuleKey.ofParts group name = .ok key → ModuleKey.parse (group ++ ":" ++ name) = .ok key) ∧
    (parse value = .ok coordinate → parse coordinate.text = .ok coordinate) := by
  refine ⟨?_, key.parse_text, ModuleKey.text_inj, ModuleKey.compare_eq_lt_iff, ?_, ModuleKey.parse_parts, parse_text⟩
  · rw [ModuleKey.parse_eq_ok_iff, Text.trimmed, ← String.toList_inj, String.toList_ofList]
  · exact Std.LawfulEqCmp.compare_eq_iff_eq

section
private def meterKey : ModuleKey := ⟨"org.sample", "meter", isKeyPart_sample, by decide⟩

private def meterCandidate : Coordinate := ⟨meterKey, "1.0-RC=1", [1, 0], some "RC=1"⟩

/-- White space around the whole and in front of the version is left out when the library is written again. -/
theorem texts_read_back_spaced :
    ModuleKey.ofParts "org.sample" "meter" = .ok meterKey ∧ parse "\torg.sample:meter: 1.0-RC=1\n" = .ok meterCandidate ∧
      ModuleKey.parse ("org.sample" ++ ":" ++ "meter") = .ok meterKey ∧
      meterCandidate.text = "org.sample:meter:1.0-RC=1" ∧ parse meterCandidate.text = .ok meterCandidate := by
  have made : ModuleKey.ofParts "org.sample" "meter" = .ok meterKey := by decide +kernel
  have read : parse "\torg.sample:meter: 1.0-RC=1\n" = .ok meterCandidate := by decide +kernel
  obtain ⟨-, -, -, -, -, again, reread⟩ :=
    texts_read_back meterKey meterKey meterCandidate "org.sample" "meter" "\torg.sample:meter: 1.0-RC=1\n"
  exact ⟨made, read, again made, by decide +kernel, reread read⟩

end

example : ModuleKey.compare ⟨"a", "x", by decide, by decide⟩ ⟨"a.b", "x", by decide, by decide⟩ = .lt ∧
    "a.b:x" < "a:x" := by
  decide +kernel

end Coordinate
end Linkage
