import Linkage.Proofs.NullDeletion

/-! What laying data over data means for each path of keys. A value of the overlay that is neither null nor a mapping is
found in the result as it is. Where a path leaves the overlay, because one of its mappings lacks the next key, the result
has what the base has there, be it nothing. Both go along the path: a mapping of the overlay is laid over what the base
has for the same key, which counts as null if there is nothing. -/

namespace Linkage.Yaml.Value
variable {key value found base overlay : Value} {entries fields : List (Value × Value)} {path : List Value}

/-- The keys lead to a mapping of the data that lacks the next one of them. -/
def Leaves (data : Value) (path : List Value) : Prop :=
  ∃ front key behind fields, path = front ++ key :: behind ∧ data.descend? front = some (mapping fields) ∧
    find? key fields = none

theorem leaves_cons_iff : Leaves overlay (key :: path) ↔ ∃ fields, overlay = mapping fields ∧
    (find? key fields = none ∨ ∃ value, find? key fields = some value ∧ Leaves value path) := by
  constructor
  · intro ⟨front, last, behind, inner, split, reached, missing⟩
    cases front with
    | nil =>
      obtain ⟨rfl, -⟩ := List.cons.inj split
      exact ⟨inner, Option.some.inj reached, .inl missing⟩
    | cons first front =>
      obtain ⟨rfl, rest⟩ := List.cons.inj split
      cases overlay with
      | mapping fields =>
        obtain ⟨value, bound, further⟩ := Option.bind_eq_some_iff.mp reached
        exact ⟨fields, rfl, .inr ⟨value, bound, front, last, behind, inner, rest, further, missing⟩⟩
      | _ => cases reached
  · intro ⟨fields, same, leaves⟩
    subst same
    rcases leaves with missing | ⟨value, bound, front, last, behind, inner, split, reached, missing⟩
    · exact ⟨[], key, path, fields, rfl, rfl, missing⟩
    · refine ⟨key :: front, last, behind, inner, by rw [split, List.cons_append], ?_, missing⟩
      rw [descend?, bound, Option.bind_some, reached]

theorem Leaves.path_ne_nil (leaves : Leaves overlay path) : path ≠ [] := by
  obtain ⟨front, key, behind, -, split, -⟩ := leaves
  simp [split]

/-- Nothing is found within null. -/
theorem isNull_eq_false_of_descend? (reached : overlay.descend? path = some value) (present : value.isNull = false) :
    overlay.isNull = false := by
  cases path with
  | nil =>
    obtain rfl := Option.some.inj reached
    exact present
  | cons key path =>
    cases overlay with
    | mapping fields => rfl
    | _ => cases reached

theorem Leaves.isNull_eq_false (leaves : Leaves overlay path) : overlay.isNull = false := by
  obtain ⟨front, -, -, fields, -, reached, -⟩ := leaves
  exact isNull_eq_false_of_descend? reached rfl

theorem wellFormed_of_find? (formed : (mapping fields).WellFormed) (bound : find? key fields = some found) :
    found.WellFormed := by
  obtain ⟨entry, member, -, rfl⟩ := mem_of_find?_eq_some bound
  exact (wellFormed_mapping_iff.mp formed).values entry member

/-- What the data has for a key, or else null. -/
def child (data : Value) (key : Value) : Value :=
  (data.descend? [key]).getD null

theorem child_mapping (entries : List (Value × Value)) (key : Value) :
    child (mapping entries) key = (find? key entries).getD null := by
  cases found : find? key entries <;> simp [child, descend?, found]

theorem child_of_apart (apart : ∀ entries, base ≠ mapping entries) (key : Value) : child base key = null := by
  cases base <;> simp_all [child, descend?]

theorem descend?_child (deeper : path ≠ []) : (child base key).descend? path = base.descend? (key :: path) := by
  obtain ⟨next, path, rfl⟩ := List.exists_cons_of_ne_nil deeper
  cases base with
  | mapping entries =>
    rw [child_mapping]
    cases found : find? key entries <;> simp [descend?, found]
  | _ => rfl

theorem wellFormed_child (formed : base.WellFormed) (key : Value) : (child base key).WellFormed := by
  by_cases below : ∃ entries, base = mapping entries
  · obtain ⟨entries, rfl⟩ := below
    rw [child_mapping]
    exact wellFormed_getD_find? (wellFormed_mapping_iff.mp formed) key
  · rw [child_of_apart (not_exists.mp below)]
    exact .null

section
variable (formed : (mapping fields).WellFormed) (known : base.WellFormed) (wanted : key.WellFormed)
include formed known wanted

/-- A step into an entry of the overlay is one into what the base has for its key. -/
theorem descend?_overlaid_of_bound (bound : find? key fields = some found) (present : found.isNull = false)
    (path : List Value) :
    (overlaid base (mapping fields)).descend? (key :: path) = (overlaid (child base key) found).descend? path := by
  by_cases below : ∃ entries, base = mapping entries
  · obtain ⟨entries, rfl⟩ := below
    have fieldsFormed := wellFormed_mapping_iff.mp formed
    have entriesFormed := wellFormed_mapping_iff.mp known
    obtain ⟨entry, member, equal, rfl⟩ := mem_of_find?_eq_some bound
    rw [descend?_overlaid entriesFormed fieldsFormed wanted member equal, laid, present, if_neg Bool.false_ne_true,
      child_mapping, find?_congr entriesFormed.keys wanted (fieldsFormed.keys entry member) equal]
    rfl
  · have apart := not_exists.mp below
    rw [overlaid_by_mapping apart, child_of_apart apart, overlaid_null, descend?, bound, Option.bind_some]

/-- A key that the overlay lacks leads to what the base has. -/
theorem descend?_overlaid_of_missing (missing : find? key fields = none) (path : List Value) :
    (overlaid base (mapping fields)).descend? (key :: path) = base.descend? (key :: path) := by
  by_cases below : ∃ entries, base = mapping entries
  · obtain ⟨entries, rfl⟩ := below
    have fieldsFormed := wellFormed_mapping_iff.mp formed
    have entriesFormed := wellFormed_mapping_iff.mp known
    rw [overlaid_mapping, overlaidEntries_eq_foldl, descend?, descend?,
      find?_foldl_lay_of_absent entriesFormed (laysOver fieldsFormed entriesFormed) wanted (find?_eq_none_iff.mp missing)]
  · have apart := not_exists.mp below
    rw [overlaid_by_mapping apart, descend?, missing, Option.bind_none]
    cases base <;> simp_all [descend?]

end

theorem descend?_overlaid_of_value (formed : overlay.WellFormed) (known : base.WellFormed)
    (keys : ∀ key ∈ path, key.WellFormed) (reached : overlay.descend? path = some value) (present : value.isNull = false)
    (single : ∀ inner, value ≠ mapping inner) : (overlaid base overlay).descend? path = some value := by
  induction path generalizing base overlay with
  | nil =>
    obtain rfl := Option.some.inj reached
    cases overlay with
    | null => cases present
    | mapping inner => exact absurd rfl (single inner)
    | _ => simp [overlaid, descend?]
  | cons key path ih =>
    obtain ⟨wanted, others⟩ := List.forall_mem_cons.mp keys
    cases overlay with
    | mapping fields =>
      obtain ⟨found, bound, further⟩ := Option.bind_eq_some_iff.mp reached
      have held := isNull_eq_false_of_descend? further present
      rw [descend?_overlaid_of_bound formed known wanted bound held]
      exact ih (wellFormed_of_find? formed bound) (wellFormed_child known key) others further
    | _ => cases reached

theorem descend?_overlaid_of_leaves (formed : overlay.WellFormed) (known : base.WellFormed)
    (keys : ∀ key ∈ path, key.WellFormed) (leaves : Leaves overlay path) :
    (overlaid base overlay).descend? path = base.descend? path := by
  induction path generalizing base overlay with
  | nil => exact absurd rfl leaves.path_ne_nil
  | cons key path ih =>
    obtain ⟨wanted, others⟩ := List.forall_mem_cons.mp keys
    obtain ⟨fields, rfl, inside⟩ := leaves_cons_iff.mp leaves
    rcases inside with missing | ⟨value, bound, deeper⟩
    · exact descend?_overlaid_of_missing formed known wanted missing path
    · rw [descend?_overlaid_of_bound formed known wanted bound deeper.isNull_eq_false,
        ih (wellFormed_of_find? formed bound) (wellFormed_child known key) others deeper,
        descend?_child deeper.path_ne_nil]

/-- What an overlay says about a path is what the result has there: a value other than null and mappings as it is, and
where the path leaves the overlay, what the base has or lacks. A value with a tag counts as a whole. -/
theorem layered_paths (formed : overlay.WellFormed) (known : base.WellFormed) (keys : ∀ key ∈ path, key.WellFormed) :
    (∀ value, overlay.descend? path = some value → value.isNull = false → (∀ inner, value ≠ mapping inner) →
      (overlaid base overlay).descend? path = some value) ∧
    (Leaves overlay path → (overlaid base overlay).descend? path = base.descend? path) := by
  constructor
  · intro value reached present single
    exact descend?_overlaid_of_value formed known keys reached present single
  · intro leaves
    exact descend?_overlaid_of_leaves formed known keys leaves

namespace Override

def shared : Value :=
  mapping [(string "settings", mapping [(string "parallel", boolean true), (string "workers", string "8")]),
    (string "rules", list [string "core", string "events"])]

def own : Value :=
  mapping [(string "settings", mapping [(string "parallel", boolean false)]), (string "rules", list [string "core"])]

theorem shared_wellFormed : shared.WellFormed := by
  have settings : (mapping [(string "parallel", boolean true), (string "workers", string "8")]).WellFormed :=
    .mapping (by simp [WellFormed.string]) (by simp [WellFormed.string, WellFormed.boolean]) rfl
  have rules : (list [string "core", string "events"]).WellFormed := .list (by simp [WellFormed.string])
  exact .mapping (by simp [WellFormed.string]) (by simp [settings, rules]) rfl

theorem own_wellFormed : own.WellFormed := by
  have settings := wellFormed_single (.string "parallel") (.boolean false)
  have rules : (list [string "core"]).WellFormed := .list (by simp [WellFormed.string])
  exact .mapping (by simp [WellFormed.string]) (by simp [settings, rules]) rfl

theorem keys_wellFormed (texts : List String) : ∀ key ∈ texts.map string, key.WellFormed := by
  intro key member
  obtain ⟨text, -, rfl⟩ := List.mem_map.mp member
  exact .string text

end Override

open Override in
theorem layered_paths_settings : shared.WellFormed ∧ own.WellFormed ∧
    (overlaid shared own).descend? [string "settings", string "parallel"] = some (boolean false) ∧
    (overlaid shared own).descend? [string "settings", string "workers"] = some (string "8") ∧
    (overlaid shared own).descend? [string "rules"] = some (list [string "core"]) := by
  have told := layered_paths own_wellFormed shared_wellFormed (keys_wellFormed ["settings", "parallel"])
  have kept := layered_paths own_wellFormed shared_wellFormed (keys_wellFormed ["settings", "workers"])
  have listed := layered_paths own_wellFormed shared_wellFormed (keys_wellFormed ["rules"])
  have leaves : Leaves own [string "settings", string "workers"] :=
    ⟨[string "settings"], string "workers", [], [(string "parallel", boolean false)], rfl, rfl, rfl⟩
  exact ⟨shared_wellFormed, own_wellFormed, told.1 _ rfl rfl (by simp), kept.2 leaves, listed.1 _ rfl rfl (by simp)⟩

end Linkage.Yaml.Value
