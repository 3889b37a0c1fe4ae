import Mathlib.Data.List.Dedup
import Linkage.DependencySet
import Linkage.TextMap
import Linkage.Proofs.Acceptance
import Linkage.Proofs.KeyOrder

/-! Versions of libraries that are read and bound one after the other. The last element that names a library decides its
version, whatever was bound before. In a map from texts the last element is the one with the greatest of the texts that
name the library. As many libraries are bound as different keys were read. -/

namespace Linkage

namespace ModuleMap
open Ascending
variable {ν : Type u} {key : ModuleKey} {value : ν} {map : ModuleMap ν} {entries : List (ModuleKey × ν)}

/-- Binds the entries one after the other, over what is bound already. -/
def bindAll (entries : List (ModuleKey × ν)) (map : ModuleMap ν) : ModuleMap ν :=
  entries.foldl (fun map entry => ModuleMap.insert entry.1 entry.2 map) map

theorem holds_iff : Holds compareKeys entries (key, value) ↔ ∃ held, (key, held) ∈ entries := by
  constructor
  · rintro ⟨⟨other, held⟩, member, same⟩
    have same : other.compare key = .eq := same
    obtain rfl := Std.LawfulEqCmp.eq_of_compare same
    exact ⟨held, member⟩
  · rintro ⟨held, member⟩
    exact ⟨(key, held), member, (Std.ReflCmp.compare_self : key.compare key = .eq)⟩

/-- What was bound before is seen only where nothing new is. -/
theorem find?_bindAll (entries : List (ModuleKey × ν)) (map : ModuleMap ν) (key : ModuleKey) :
    (bindAll entries map).find? key = ((ofList entries).find? key).or (map.find? key) := by
  induction entries generalizing map with
  | nil => rfl
  | cons entry rest ih =>
    have onto (map : ModuleMap ν) : bindAll (entry :: rest) map = bindAll rest (ModuleMap.insert entry.1 entry.2 map) := rfl
    have alone : ofList (entry :: rest) = bindAll rest (ModuleMap.insert entry.1 entry.2 []) := rfl
    rw [onto, alone, ih, ih, Option.or_assoc, find?_insert, find?_insert]
    split <;> rfl

theorem ofList_strict (entries : List (ModuleKey × ν)) : Strict compareKeys (ofList entries) :=
  List.foldlRecOn entries _ .nil fun _ ordered _ _ => insert_strict ordered

/-- Of several entries of a key the last one counts. -/
theorem find?_ofList_iff : (ofList entries).find? key = some value ↔ Last compareKeys entries (key, value) := by
  have replaced : ofList entries = ofListLast compareKeys entries := by
    simp only [ofList, ofListLast, insert_eq_replace]
  rw [find?_eq_some_iff (ofList_strict entries), replaced, mem_ofListLast_iff]

/-- The entries of a map are bound again as they are. -/
theorem find?_ofList_of_strict (ordered : Strict compareKeys map) : (ofList map).find? key = map.find? key := by
  refine Option.ext fun value => ?_
  rw [find?_ofList_iff, find?_eq_some_iff ordered]
  constructor
  · rintro ⟨before, after, rfl, -⟩
    simp
  · intro member
    obtain ⟨before, after, split⟩ := List.append_of_mem member
    refine ⟨before, after, split, ?_⟩
    rw [split, Strict, List.pairwise_append] at ordered
    rintro ⟨later, inside, same⟩
    have below := (List.pairwise_cons.mp ordered.2.1).1 later inside
    rw [Std.OrientedCmp.eq_symm same] at below
    contradiction

theorem keys_nodup (ordered : Strict compareKeys map) : map.keys.Nodup := by
  refine List.pairwise_map.mpr (ordered.imp ?_)
  rintro ⟨key, value⟩ ⟨other, held⟩ below rfl
  have same : key.compare key = .lt := below
  simp [Std.ReflCmp.compare_self] at same

theorem mem_keys_bindAll : key ∈ (bindAll entries map).keys ↔ key ∈ entries.map (·.1) ∨ key ∈ map.keys := by
  induction entries generalizing map with
  | nil => simp [bindAll]
  | cons entry rest ih =>
    rw [bindAll, List.foldl_cons, ← bindAll, ih, mem_keys_insert, List.map_cons, List.mem_cons, or_left_comm, or_assoc]

/-- There are as many entries as different keys were bound. -/
theorem length_ofList (entries : List (ModuleKey × ν)) : (ofList entries).length = (entries.map (·.1)).dedup.length := by
  have same : (ofList entries).keys.Perm (entries.map (·.1)).dedup := by
    rw [List.perm_ext_iff_of_nodup (keys_nodup (ofList_strict entries)) (List.nodup_dedup _)]
    intro key
    rw [List.mem_dedup]
    exact mem_keys_bindAll.trans (or_iff_left List.not_mem_nil)
  rw [← same.length_eq, keys, List.length_map]

end ModuleMap

namespace DependencySet
open Acceptance
variable {α : Type} {read : α → Except Error (ModuleKey × Version)} {element : α} {elements rest : List α}
  {pairs : List (ModuleKey × Version)} {key : ModuleKey} {version : Version}

/-- Some element is read as a version of the library. -/
def Names (read : α → Except Error (ModuleKey × Version)) (elements : List α) (key : ModuleKey) : Prop :=
  ∃ element ∈ elements, ∃ version, read element = .ok (key, version)

/-- The last element that is read as a version of the library is read as this version. -/
def Decides (read : α → Except Error (ModuleKey × Version)) (elements : List α) (key : ModuleKey) (version : Version) :
    Prop :=
  ∃ before element after, elements = before ++ element :: after ∧ read element = .ok (key, version) ∧
    ¬ Names read after key

theorem not_names_nil : ¬ Names read [] key := by
  simp [Names]

theorem names_cons :
    Names read (element :: rest) key ↔ (∃ version, read element = .ok (key, version)) ∨ Names read rest key := by
  simp [Names]

theorem not_decides_nil : ¬ Decides read [] key version := by
  simp [Decides]

theorem decides_cons : Decides read (element :: rest) key version ↔
    read element = .ok (key, version) ∧ ¬ Names read rest key ∨ Decides read rest key version := by
  constructor
  · rintro ⟨before, found, after, split, given, last⟩
    cases before with
    | nil =>
      obtain ⟨rfl, rfl⟩ := List.cons.inj split
      exact .inl ⟨given, last⟩
    | cons first before =>
      obtain ⟨rfl, rfl⟩ := List.cons.inj split
      exact .inr ⟨before, found, after, rfl, given, last⟩
  · rintro (⟨given, last⟩ | ⟨before, found, after, rfl, given, last⟩)
    · exact ⟨[], element, rest, rfl, given, last⟩
    · exact ⟨element :: before, found, after, rfl, given, last⟩

theorem Decides.names (decides : Decides read elements key version) : Names read elements key := by
  obtain ⟨before, element, after, rfl, given, -⟩ := decides
  exact ⟨element, by simp, version, given⟩

/-- Of the elements that name a library there is a last one. -/
theorem Names.decides (names : Names read elements key) : ∃ version, Decides read elements key version := by
  induction elements with
  | nil => exact absurd names not_names_nil
  | cons element rest ih =>
    by_cases later : Names read rest key
    · obtain ⟨version, decides⟩ := ih later
      exact ⟨version, decides_cons.mpr (.inr decides)⟩
    · obtain ⟨version, given⟩ := (names_cons.mp names).resolve_right later
      exact ⟨version, decides_cons.mpr (.inl ⟨given, later⟩)⟩

theorem names_iff (given : elements.mapM read = .ok pairs) : Names read elements key ↔ ∃ version, (key, version) ∈ pairs := by
  simp only [mem_of_mapM_eq_ok given, Names]
  constructor
  · rintro ⟨element, member, version, same⟩
    exact ⟨version, element, member, same⟩
  · rintro ⟨version, element, member, same⟩
    exact ⟨element, member, version, same⟩

/-- The induction goes through the elements together with what they are read as. -/
theorem decides_iff_last (given : elements.mapM read = .ok pairs) :
    Decides read elements key version ↔ Ascending.Last ModuleMap.compareKeys pairs (key, version) := by
  induction elements generalizing pairs with
  | nil =>
    obtain rfl : [] = pairs := Except.ok.inj given
    exact iff_of_false not_decides_nil Ascending.not_last_nil
  | cons element rest ih =>
    rw [List.mapM_cons, bind_eq_ok_iff] at given
    obtain ⟨first, head, given⟩ := given
    obtain ⟨others, tail, same⟩ := bind_eq_ok_iff.mp given
    obtain rfl : first :: others = pairs := Except.ok.inj same
    rw [decides_cons, Ascending.last_cons, ih tail, names_iff tail, ModuleMap.holds_iff, head, Except.ok.injEq]

theorem find?_ofList_read (given : elements.mapM read = .ok pairs) :
    (ModuleMap.ofList pairs).find? key = some version ↔ Decides read elements key version := by
  rw [ModuleMap.find?_ofList_iff, decides_iff_last given]

theorem find?_ofList_read_eq_none (given : elements.mapM read = .ok pairs) :
    (ModuleMap.ofList pairs).find? key = none ↔ ¬ Names read elements key := by
  rw [Option.eq_none_iff_forall_ne_some]
  constructor
  · intro nothing names
    obtain ⟨version, decides⟩ := names.decides
    exact nothing version ((find?_ofList_read given).mpr decides)
  · intro unnamed version found
    exact unnamed ((find?_ofList_read given).mp found).names

/-- Reads a key and a version. -/
def readEntry (entry : String × String) : Except Error (ModuleKey × Version) := do
  let key ← ModuleKey.parse entry.1
  let version ← Version.parse entry.2
  return (key, version)

theorem readEntry_eq_ok_iff {entry : String × String} :
    readEntry entry = .ok (key, version) ↔ ModuleKey.parse entry.1 = .ok key ∧ Version.parse entry.2 = .ok version := by
  simp only [readEntry, bind_eq_ok_iff]
  constructor
  · rintro ⟨named, isKey, given, isVersion, same⟩
    cases same
    exact ⟨isKey, isVersion⟩
  · rintro ⟨isKey, isVersion⟩
    exact ⟨key, isKey, version, isVersion, rfl⟩

theorem parse_eq_ok_iff {entries : List (String × String)} {dependencies : DependencySet} :
    parse entries = .ok dependencies ↔ ∃ pairs, entries.mapM readEntry = .ok pairs ∧ .ofList pairs = dependencies := by
  have steps : parse entries = entries.mapM readEntry >>= fun pairs => return ModuleMap.ofList pairs := rfl
  rw [steps, bind_eq_ok_iff]
  constructor
  · rintro ⟨pairs, given, same⟩
    exact ⟨pairs, given, Except.ok.inj same⟩
  · rintro ⟨pairs, given, rfl⟩
    exact ⟨pairs, given, rfl⟩

/-- Some text of the map names the library. -/
def Mentions (texts : TextMap) (key : ModuleKey) : Prop :=
  ∃ entry ∈ texts.entries, ModuleKey.parse entry.1 = .ok key

/-- Of the texts that name the library, the greatest one is bound to the version. -/
def Pins (texts : TextMap) (key : ModuleKey) (version : Version) : Prop :=
  ∃ entry ∈ texts.entries, ModuleKey.parse entry.1 = .ok key ∧ Version.parse entry.2 = .ok version ∧
    ∀ other ∈ texts.entries, ModuleKey.parse other.1 = .ok key → other.1 ≤ entry.1

section
variable {texts : TextMap} {dependencies : DependencySet}

theorem names_iff_mentions (readable : ∀ entry ∈ texts.entries, (Version.parse entry.2).isOk) :
    Names readEntry texts.entries key ↔ Mentions texts key := by
  constructor
  · rintro ⟨entry, member, version, given⟩
    exact ⟨entry, member, (readEntry_eq_ok_iff.mp given).1⟩
  · rintro ⟨entry, member, named⟩
    obtain ⟨version, given⟩ := isOk_iff.mp (readable entry member)
    exact ⟨entry, member, version, readEntry_eq_ok_iff.mpr ⟨named, given⟩⟩

/-- In a map of texts the entries come in the order of their keys. -/
theorem decides_iff_pins (readable : ∀ entry ∈ texts.entries, (Version.parse entry.2).isOk) :
    Decides readEntry texts.entries key version ↔ Pins texts key version := by
  constructor
  · rintro ⟨before, entry, after, split, given, last⟩
    obtain ⟨isKey, isVersion⟩ := readEntry_eq_ok_iff.mp given
    have member : entry ∈ texts.entries := by simp [split]
    refine ⟨entry, member, isKey, isVersion, ?_⟩
    intro other inside named
    have ordered := texts.ascending
    rw [split, List.pairwise_append] at ordered
    obtain ⟨-, -, below⟩ := ordered
    rw [split] at inside
    rcases List.mem_append.mp inside with earlier | inside
    · exact String.not_lt.mp (String.lt_asymm (below other earlier entry List.mem_cons_self))
    · rcases List.mem_cons.mp inside with rfl | later
      · exact String.le_refl _
      · obtain ⟨held, isHeld⟩ := isOk_iff.mp (readable other (by simp [split, later]))
        exact absurd ⟨other, later, held, readEntry_eq_ok_iff.mpr ⟨named, isHeld⟩⟩ last
  · rintro ⟨entry, member, isKey, isVersion, greatest⟩
    obtain ⟨before, after, split⟩ := List.append_of_mem member
    refine ⟨before, entry, after, split, readEntry_eq_ok_iff.mpr ⟨isKey, isVersion⟩, ?_⟩
    rintro ⟨other, later, held, given⟩
    have ordered := texts.ascending
    rw [split, List.pairwise_append] at ordered
    obtain ⟨-, ordered, -⟩ := ordered
    have above : entry.1 < other.1 := (List.pairwise_cons.mp ordered).1 other later
    exact String.not_lt.mpr (greatest other (by simp [split, later]) (readEntry_eq_ok_iff.mp given).1) above

variable (given : parse texts.entries = .ok dependencies)
include given

theorem readable_of_parse : ∀ entry ∈ texts.entries, (Version.parse entry.2).isOk := by
  obtain ⟨pairs, all, -⟩ := parse_eq_ok_iff.mp given
  intro entry member
  obtain ⟨⟨key, version⟩, same⟩ := isOk_iff.mp (isOk_mapM_iff.mp (isOk_iff.mpr ⟨pairs, all⟩) entry member)
  exact isOk_iff.mpr ⟨version, (readEntry_eq_ok_iff.mp same).2⟩

theorem strict_of_parse : Ascending.Strict ModuleMap.compareKeys dependencies := by
  obtain ⟨pairs, -, rfl⟩ := parse_eq_ok_iff.mp given
  exact ModuleMap.ofList_strict pairs

theorem find?_of_parse : dependencies.find? key = some version ↔ Pins texts key version := by
  rw [← decides_iff_pins (readable_of_parse given)]
  obtain ⟨pairs, all, rfl⟩ := parse_eq_ok_iff.mp given
  exact find?_ofList_read all

theorem find?_of_parse_eq_none : dependencies.find? key = none ↔ ¬ Mentions texts key := by
  rw [← names_iff_mentions (readable_of_parse given)]
  obtain ⟨pairs, all, rfl⟩ := parse_eq_ok_iff.mp given
  exact find?_ofList_read_eq_none all

end

end DependencySet
end Linkage
