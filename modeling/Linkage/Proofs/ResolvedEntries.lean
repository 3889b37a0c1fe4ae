import Mathlib.Data.List.Dedup
import Linkage.Proofs.ConfigValidation
import Linkage.Proofs.KeyTexts
import Linkage.Proofs.VersionBindings

/-! The resolved versions that an accepted configuration has. Each text is checked for itself, and several texts may name
one library if they differ in outer white space. Then only the greatest of them counts. So there are as many resolved
versions as different texts between the outer white space, and none is lost just if these are all different. -/

namespace Linkage.Config
open Acceptance
variable {config : Config} {dependencies : DependencySet} {pairs : List (ModuleKey × Version)}

/-- The keys of the resolved versions, without the white space around them. -/
def resolvedTexts (config : Config) : List String :=
  config.resolved.entries.map fun entry => Text.trimmed entry.1

/-- What is left of a text that was read as a key is the text of this key. -/
theorem resolvedTexts_eq (read : config.resolved.entries.mapM DependencySet.readEntry = .ok pairs) :
    config.resolvedTexts = (pairs.map (·.1)).map ModuleKey.text := by
  rw [resolvedTexts]
  generalize config.resolved.entries = entries at read
  induction entries generalizing pairs with
  | nil =>
    obtain rfl : [] = pairs := Except.ok.inj read
    rfl
  | cons entry rest ih =>
    rw [List.mapM_cons, bind_eq_ok_iff] at read
    obtain ⟨⟨key, version⟩, head, read⟩ := read
    obtain ⟨others, tail, same⟩ := bind_eq_ok_iff.mp read
    obtain rfl : (key, version) :: others = pairs := Except.ok.inj same
    have trimmed : Text.trim entry.1.toList = key.text.toList :=
      ModuleKey.parse_eq_ok_iff.mp (DependencySet.readEntry_eq_ok_iff.mp head).1
    rw [List.map_cons, List.map_cons, List.map_cons, ih tail, Text.trimmed, trimmed, String.ofList_toList]

theorem length_dependencySet (read : config.dependencySet = .ok dependencies) :
    dependencies.length = config.resolvedTexts.dedup.length := by
  obtain ⟨pairs, given, rfl⟩ := DependencySet.parse_eq_ok_iff.mp read
  have injective : Function.Injective ModuleKey.text := fun _ _ => ModuleKey.text_inj.mp
  rw [ModuleMap.length_ofList, resolvedTexts_eq given, List.dedup_map_of_injective injective, List.length_map]

/-- The resolved versions of an accepted configuration can be read. Of several texts for one library the greatest counts.
No entry is lost just if the texts are different between their outer white space; then each entry has its version. -/
theorem resolved_entries_kept_iff (config : Config) (accepted : config.validate = .ok ()) :
    ∃ dependencies, config.dependencySet = .ok dependencies ∧
      (∀ key version, dependencies.find? key = some version ↔ DependencySet.Pins config.resolved key version) ∧
      dependencies.length = config.resolvedTexts.dedup.length ∧
      (dependencies.length = config.resolved.entries.length ↔ config.resolvedTexts.Nodup) ∧
      (config.resolvedTexts.Nodup → ∀ entry ∈ config.resolved.entries, ∃ key version,
        ModuleKey.parse entry.1 = .ok key ∧ Version.parse entry.2 = .ok version ∧
          dependencies.find? key = some version) := by
  have verifiable := isOk_validate_iff.mp (isOk_iff.mpr ⟨(), accepted⟩)
  obtain ⟨dependencies, read⟩ := isOk_iff.mp verifiable.dependencies
  have bound (key : ModuleKey) (version : Version) : dependencies.find? key = some version ↔
      DependencySet.Pins config.resolved key version := DependencySet.find?_of_parse read
  have count := length_dependencySet read
  refine ⟨dependencies, read, bound, count, ?_, ?_⟩
  · have whole : config.resolved.entries.length = config.resolvedTexts.length := (List.length_map _).symm
    rw [count, whole, (List.dedup_sublist _).length_eq, List.dedup_eq_self]
  · intro distinct entry member
    obtain ⟨named, given⟩ := isOk_dependencySet_iff.mp verifiable.dependencies entry member
    obtain ⟨key, isKey⟩ := isOk_iff.mp named
    obtain ⟨version, isVersion⟩ := isOk_iff.mp given
    refine ⟨key, version, isKey, isVersion, (bound key version).mpr ⟨entry, member, isKey, isVersion, ?_⟩⟩
    intro other inside same
    have alike : Text.trimmed other.1 = Text.trimmed entry.1 := by
      rw [Text.trimmed, Text.trimmed, ModuleKey.parse_eq_ok_iff.mp same, ModuleKey.parse_eq_ok_iff.mp isKey]
    rw [List.inj_on_of_nodup_map distinct inside member alike]

section
private def pinnedKey : ModuleKey := ⟨"org.sample", "pinned", isKeyPart_sample, by decide⟩

private def pinnedVersion : Version := ⟨"2.1", [2, 1], none⟩

private def pinningConfig (resolved : List (String × String)) : Config :=
  { rules := [{ group := "org.sample", module := "pinned", versions := "[1,3)" }]
    resolved := .ofList resolved }

/-- White space around the keys does no harm as long as they are different. -/
theorem resolved_entries_kept_iff_spaced :
    let config := pinningConfig [("\u00a0org.sample:pinned", "2.1"), ("org.sample:other ", "1")]
    config.validate = .ok () ∧ config.resolvedTexts.Nodup ∧
      ∃ dependencies, config.dependencySet = .ok dependencies ∧ dependencies.length = 2 ∧
        dependencies.find? pinnedKey = some pinnedVersion := by
  intro config
  have accepted : config.validate = .ok () := by decide +kernel
  have distinct : config.resolvedTexts.Nodup := by decide +kernel
  have named : ModuleKey.parse "\u00a0org.sample:pinned" = .ok pinnedKey := by decide +kernel
  have given : Version.parse "2.1" = .ok pinnedVersion := by decide +kernel
  have listed : ("\u00a0org.sample:pinned", "2.1") ∈ config.resolved.entries := by decide +kernel
  obtain ⟨dependencies, read, -, -, count, kept⟩ := resolved_entries_kept_iff config accepted
  refine ⟨accepted, distinct, dependencies, read, count.mpr distinct, ?_⟩
  obtain ⟨key, version, isKey, isVersion, bound⟩ := kept distinct _ listed
  obtain rfl : pinnedKey = key := Except.ok.inj (named.symm.trans isKey)
  obtain rfl : pinnedVersion = version := Except.ok.inj (given.symm.trans isVersion)
  exact bound

/-- Two texts of one key are accepted. The version of the first one is gone. -/
theorem spaced_key_loses_entry :
    let config := pinningConfig [("org.sample:pinned", "1.0"), ("org.sample:pinned ", "2.1")]
    config.validate = .ok () ∧ config.findings = [] ∧ config.resolved.entries.length = 2 ∧
      ("org.sample:pinned", "1.0") ∈ config.resolved.entries ∧ ModuleKey.parse "org.sample:pinned" = .ok pinnedKey ∧
      Version.parse "1.0" = .ok ⟨"1.0", [1, 0], none⟩ ∧
      config.dependencySet = .ok [(pinnedKey, pinnedVersion)] := by
  decide +kernel

end

end Linkage.Config
