import Linkage.DependencySet
import Linkage.Proofs.KeyTexts

/-! Resolved versions in the words of a command line. What stands in front of the first equals sign is a key and all that
follows is a version, colons and further equals signs included. A text without an equals sign is cut at its last colon,
and then a pinned library is read as a pinned library is, wherever white space stands. -/

namespace Linkage.DependencySet
open Acceptance
variable {key : ModuleKey} {version : Version} {front behind : List Char}

private theorem parse_ofList_eq_ok_iff : ModuleKey.parse (.ofList front) = .ok key ↔ Text.trim front = key.text.toList := by
  rw [ModuleKey.parse_eq_ok_iff, String.toList_ofList]

/-- The two sides of an assignment are read as a key and as a version. -/
private theorem sides_eq_ok_iff : (do
    let key ← ModuleKey.parse (.ofList front)
    let version ← Version.parse (.ofList behind)
    return (key, version)) = .ok (key, version) ↔
      Text.trim front = key.text.toList ∧ Version.read behind = .ok version := by
  simp only [bind_eq_ok_iff, parse_ofList_eq_ok_iff, Version.parse_eq_ok_iff, String.toList_ofList]
  constructor
  · rintro ⟨named, isKey, given, read, same⟩
    cases same
    exact ⟨isKey, read⟩
  · rintro ⟨isKey, read⟩
    exact ⟨key, isKey, version, read, rfl⟩

theorem parseAssignment_equals (first : '=' ∉ front) :
    parseAssignment (.ofList (front ++ '=' :: behind)) = .ok (key, version) ↔
      Text.trim front = key.text.toList ∧ Version.read behind = .ok version := by
  rw [parseAssignment, String.toList_ofList, Text.cut_append first]
  simp only [pure_bind]
  rw [sides_eq_ok_iff, Text.trim_trim, Version.read_trim]

theorem parseAssignment_colon (plain : '=' ∉ front ++ ':' :: behind) (last : ':' ∉ behind) :
    parseAssignment (.ofList (front ++ ':' :: behind)) = .ok (key, version) ↔
      Text.trim front = key.text.toList ∧ Version.read behind = .ok version := by
  rw [parseAssignment, String.toList_ofList, Text.cut_eq_none_iff.mpr plain, Text.cutLast_append last]
  by_cases colon : ':' ∈ front
  · simp only [colon, if_true, pure_bind]
    rw [sides_eq_ok_iff]
  · have unlike : Text.trim front ≠ key.text.toList := by
      intro same
      refine colon (Text.mem_of_mem_trim ?_)
      rw [same, ModuleKey.toList_text]
      simp
    simp [colon, unlike, bind, Except.bind]

/-- The last colon of a pinned library is the one in front of its version, also with the outer white space. -/
theorem parseAssignment_of_coordinate {value : String} (plain : '=' ∉ value.toList)
    (read : Coordinate.parse value = .ok ⟨key, version⟩) : parseAssignment value = .ok (key, version) := by
  obtain ⟨pinned, last, trimmed, versioned⟩ := Coordinate.parse_eq_ok_iff.mp read
  obtain ⟨before, after, outer, ending, whole⟩ := Text.exists_trim value.toList
  rw [trimmed] at whole
  have cut : value.toList = (before ++ key.text.toList) ++ ':' :: (pinned ++ after) := by
    rw [whole]
    simp
  have colonless : ':' ∉ pinned ++ after := by
    rw [List.mem_append, not_or]
    exact ⟨last, Text.not_mem_of_allBlank ending (by decide)⟩
  have front : Text.trim (before ++ key.text.toList) = key.text.toList := by
    rw [Text.trim_append_start outer, key.trim_text]
  have behind : Version.read (pinned ++ after) = .ok version := by
    rw [← Version.read_trim, Text.trim_append_end ending, Version.read_trim, versioned]
  rw [cut] at plain
  rw [← String.ofList_toList (s := value), cut]
  exact (parseAssignment_colon plain colonless).mpr ⟨front, behind⟩

/-- The white space around the two sides of an assignment. -/
structure Spacing where
  start : String := ""
  inner : String := ""
  next : String := ""
  stop : String := ""

structure Spacing.IsBlank (spacing : Spacing) : Prop where
  start : Text.AllBlank spacing.start.toList
  inner : Text.AllBlank spacing.inner.toList
  next : Text.AllBlank spacing.next.toList
  stop : Text.AllBlank spacing.stop.toList

/-- An assignment as it may be written. -/
def Spacing.write (spacing : Spacing) (key : ModuleKey) (version : Version) : String :=
  spacing.start ++ key.text ++ spacing.inner ++ "=" ++ (spacing.next ++ version.text ++ spacing.stop)

theorem parseAssignment_write {spacing : Spacing} (blank : spacing.IsBlank) (plain : '=' ∉ key.text.toList)
    (known : version.WasRead) : parseAssignment (spacing.write key version) = .ok (key, version) := by
  have cut : (spacing.write key version).toList =
      (spacing.start.toList ++ key.text.toList ++ spacing.inner.toList) ++
        '=' :: (spacing.next.toList ++ version.text.toList ++ spacing.stop.toList) := by
    simp [Spacing.write]
  have first : '=' ∉ spacing.start.toList ++ key.text.toList ++ spacing.inner.toList := by
    simp only [List.mem_append, not_or]
    exact ⟨⟨Text.not_mem_of_allBlank blank.start (by decide), plain⟩, Text.not_mem_of_allBlank blank.inner (by decide)⟩
  rw [← String.ofList_toList (s := spacing.write key version), cut, parseAssignment_equals first,
    Text.trim_surround blank.start blank.inner, ← Version.read_trim, Text.trim_surround blank.next blank.stop,
    Version.read_trim]
  exact ⟨key.trim_text, known.read_text⟩

/-- A pinned library without an equals sign is the same assignment, and a key without one may be put together with any
version that was read, whatever stands in it. -/
theorem assignments_agree (key : ModuleKey) (version : Version) :
    (∀ value, '=' ∉ value.toList → Coordinate.parse value = .ok ⟨key, version⟩ →
      parseAssignment value = .ok (key, version)) ∧
    ∀ spacing : Spacing, spacing.IsBlank → '=' ∉ key.text.toList → version.WasRead →
      parseAssignment (spacing.write key version) = .ok (key, version) :=
  ⟨fun _ plain read => parseAssignment_of_coordinate plain read,
    fun _ blank plain known => parseAssignment_write blank plain known⟩

section
private def gadgetKey : ModuleKey := ⟨"org.sample", "gadget", isKeyPart_sample, by decide⟩

private def gadgetVersion : Version := ⟨"1.0-a:b=c,d", [1, 0], some "a:b=c,d"⟩

private def gadgetSpacing : Spacing := { start := " ", inner := "\t", next := "\u00a0", stop := "\n" }

/-- A version that holds all the separators is told from its key by the first equals sign. -/
theorem assignments_agree_separators :
    Coordinate.parse " org.sample:gadget:\t1.0\n" = .ok ⟨gadgetKey, ⟨"1.0", [1, 0], none⟩⟩ ∧
      parseAssignment " org.sample:gadget:\t1.0\n" = .ok (gadgetKey, ⟨"1.0", [1, 0], none⟩) ∧
      gadgetSpacing.IsBlank ∧ gadgetVersion.WasRead ∧
      gadgetSpacing.write gadgetKey gadgetVersion = " org.sample:gadget\t=\u00a01.0-a:b=c,d\n" ∧
      parseAssignment (gadgetSpacing.write gadgetKey gadgetVersion) = .ok (gadgetKey, gadgetVersion) := by
  have read : Coordinate.parse " org.sample:gadget:\t1.0\n" = .ok ⟨gadgetKey, ⟨"1.0", [1, 0], none⟩⟩ := by decide +kernel
  have blank : gadgetSpacing.IsBlank := by constructor <;> decide +kernel
  have known : gadgetVersion.WasRead := ⟨gadgetVersion.text.toList, by decide +kernel⟩
  obtain ⟨ofCoordinate, -⟩ := assignments_agree gadgetKey ⟨"1.0", [1, 0], none⟩
  obtain ⟨-, ofSides⟩ := assignments_agree gadgetKey gadgetVersion
  refine ⟨read, ofCoordinate _ ?_ read, blank, known, ?_, ofSides gadgetSpacing blank ?_ known⟩ <;> decide +kernel

end

/-- White space in front of the last colon is overlooked in an assignment only. -/
example : (parseAssignment "org.sample:gadget :1.0").isOk ∧ ¬ (Coordinate.parse "org.sample:gadget :1.0").isOk := by
  decide +kernel

end Linkage.DependencySet
