import Linkage.ModuleMap
import Linkage.Proofs.AscendingLists

/-! Module keys are totally ordered, and the order agrees with equality. So a map binds each key at most once, and a
look-up sees the last value that was bound. -/

namespace Linkage

instance : Std.TransCmp ModuleKey.compare :=
  inferInstanceAs (Std.TransCmp (compareLex (compareOn ModuleKey.group) (compareOn ModuleKey.name)))

instance : Std.LawfulEqCmp ModuleKey.compare where
  eq_of_compare {a b} same := by
    obtain ⟨group, name⟩ := Ordering.then_eq_eq.mp same
    have groups := Std.LawfulEqOrd.eq_of_compare group
    have names := Std.LawfulEqOrd.eq_of_compare name
    cases a
    cases b
    simp_all

/-- The group of the libraries in the examples. -/
theorem isKeyPart_sample : IsKeyPart "org.sample" := by decide

namespace ModuleMap
variable {ν : Type u} {key other : ModuleKey} {value : ν} {map : ModuleMap ν}

/-- Entries are compared by their keys alone. -/
def compareKeys (a b : ModuleKey × ν) : Ordering :=
  a.1.compare b.1

instance : Std.TransCmp (compareKeys : ModuleKey × ν → ModuleKey × ν → Ordering) where
  eq_swap {a b} := @Std.OrientedCmp.eq_swap _ ModuleKey.compare _ a.1 b.1
  isLE_trans {a b c} lower upper := @Std.TransCmp.isLE_trans _ ModuleKey.compare _ a.1 b.1 c.1 lower upper

@[simp]
theorem find?_nil : ModuleMap.find? ([] : ModuleMap ν) key = none :=
  rfl

theorem find?_cons :
    ModuleMap.find? ((other, value) :: map) key = if other = key then some value else map.find? key := by
  by_cases same : other = key <;> simp [ModuleMap.find?, same]

/-- Binding a key is seen under that key only. The map need not ascend for this: what stands before the new entry has
smaller keys. -/
theorem find?_insert : (map.insert key value).find? other = if key = other then some value else map.find? other := by
  induction map with
  | nil => simp [ModuleMap.insert, find?_cons]
  | cons entry rest ih =>
    obtain ⟨first, held⟩ := entry
    unfold ModuleMap.insert
    cases order : key.compare first with
    | lt => exact find?_cons
    | eq =>
      obtain rfl := Std.LawfulEqCmp.eq_of_compare order
      simp only [find?_cons]
      split <;> rfl
    | gt =>
      have different : key ≠ first := by
        rintro rfl
        simp [Std.ReflCmp.compare_self] at order
      simp only [find?_cons, ih]
      grind

theorem mem_keys_iff : key ∈ map.keys ↔ (map.find? key).isSome := by
  simp [keys, ModuleMap.find?, List.find?_isSome]

theorem mem_keys_insert : other ∈ (map.insert key value).keys ↔ other = key ∨ other ∈ map.keys := by
  rw [mem_keys_iff, mem_keys_iff, find?_insert]
  split
  next same => simp [same]
  next different => simp [Ne.symm different]

/-- In a map in key order a look-up sees every entry. -/
theorem find?_eq_some_iff (ordered : Ascending.Strict compareKeys map) : map.find? key = some value ↔ (key, value) ∈ map := by
  induction map with
  | nil => simp
  | cons entry rest ih =>
    obtain ⟨first, held⟩ := entry
    obtain ⟨above, ordered⟩ := List.pairwise_cons.mp ordered
    rw [find?_cons, List.mem_cons, Prod.mk.injEq]
    split
    next same =>
      have apart : (key, value) ∉ rest := by
        intro member
        have below : first.compare key = .lt := above _ member
        simp [same, Std.ReflCmp.compare_self] at below
      simp [same, apart, eq_comm]
    next different => simp [ih ordered, Ne.symm different]

theorem insert_eq_replace : map.insert key value = Ascending.replace compareKeys (key, value) map := by
  induction map with
  | nil => rfl
  | cons entry rest ih =>
    obtain ⟨first, held⟩ := entry
    rw [ModuleMap.insert, ih]
    rfl

theorem insert_strict (strict : Ascending.Strict compareKeys map) :
    Ascending.Strict compareKeys (map.insert key value) := by
  rw [insert_eq_replace]
  exact Ascending.replace_strict (key, value) strict

end ModuleMap

namespace ModuleSet
variable {key other : ModuleKey} {set : ModuleSet}

@[simp]
theorem mem_insert : other ∈ set.insert key ↔ other = key ∨ other ∈ set := by
  induction set with
  | nil => simp [ModuleSet.insert, Ascending.insert]
  | cons first rest ih =>
    rw [ModuleSet.insert, Ascending.insert]
    cases order : key.compare first with
    | lt => simp
    | eq => simp [Std.LawfulEqCmp.eq_of_compare order]
    | gt =>
      rw [ModuleSet.insert] at ih
      simp only [List.mem_cons, ih]
      exact or_left_comm

@[simp]
theorem mem_union (set others : ModuleSet) : key ∈ set.union others ↔ key ∈ set ∨ key ∈ others := by
  unfold union
  induction others generalizing set with
  | nil => simp
  | cons other rest ih =>
    rw [List.foldl_cons, ih, mem_insert, List.mem_cons]
    grind

@[simp]
theorem mem_ofList {keys : List ModuleKey} : key ∈ ModuleSet.ofList keys ↔ key ∈ keys := by
  have added : ModuleSet.ofList keys = union [] keys := rfl
  simp [added]

end ModuleSet
end Linkage
