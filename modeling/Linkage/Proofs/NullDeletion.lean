import Linkage.Proofs.MappingEntries

/-! Nulls in an overlay. An overlay is laid key by key where both sides have a mapping, so a null takes away what is at
its path wherever the base has a mapping to take it from. What the base lacks comes from the overlay as it is, and the
nulls in it stay. If none stays, laying the overlay a second time changes nothing. -/

namespace Linkage.Yaml.Value
variable {key wanted value base overlay : Value} {entry : Value × Value} {entries merged fields : List (Value × Value)}
  {path : List Value}

/-- What is found when keys are followed through mappings. -/
def descend? : Value → List Value → Option Value
  | data, [] => some data
  | mapping entries, key :: path => (find? key entries).bind fun value => value.descend? path
  | _, _ :: _ => none

/-- A null below the top of the data. -/
structure NullAt (data : Value) (path : List Value) : Prop where
  below : path ≠ []
  keys : ∀ key ∈ path, key.WellFormed
  null : ∃ value ∈ data.descend? path, value.isNull

def MapsAt (data : Value) (path : List Value) : Prop :=
  ∃ entries, data.descend? path = some (mapping entries)

@[simp]
theorem overlaid_by_null (base : Value) : overlaid base null = base := by
  simp [overlaid]

/-- Over nothing, an overlay stays as it is. -/
@[simp]
theorem overlaid_null (overlay : Value) : overlaid null overlay = overlay := by
  cases overlay <;> simp [overlaid]

theorem overlaid_mapping (entries fields : List (Value × Value)) :
    overlaid (mapping entries) (mapping fields) = mapping (overlaidEntries entries entries fields) := by
  simp [overlaid]

theorem overlaid_by_mapping (apart : ∀ entries, base ≠ mapping entries) (fields : List (Value × Value)) :
    overlaid base (mapping fields) = mapping fields := by
  cases base <;> simp_all [overlaid]

/-- What an entry of an overlay binds its key to. -/
def laid (base : List (Value × Value)) (entry : Value × Value) : Option Value :=
  if entry.2.isNull then none else some (overlaid ((find? entry.1 base).getD null) entry.2)

def lay (base merged : List (Value × Value)) (entry : Value × Value) : List (Value × Value) :=
  match laid base entry with
  | none => swapRemove entry.1 merged
  | some value => put entry.1 value merged

theorem overlaidEntries_eq_foldl (base merged overlay : List (Value × Value)) :
    overlaidEntries base merged overlay = overlay.foldl (lay base) merged := by
  induction overlay generalizing merged with
  | nil => simp [overlaidEntries]
  | cons entry rest ih =>
    rw [overlaidEntries, List.foldl_cons, ← ih, lay, laid]
    split
    next => rfl
    next =>
      cases find? entry.1 base with
      | none => simp
      | some existing => rfl

theorem wellFormed_getD_find? (formed : Formed entries) (key : Value) : ((find? key entries).getD null).WellFormed := by
  cases found : find? key entries with
  | none => exact .null
  | some value =>
    obtain ⟨entry, member, -, rfl⟩ := mem_of_find?_eq_some found
    exact formed.values entry member

theorem Formed.lay (formed : Formed merged) (known : entry.1.WellFormed)
    (bound : ∀ value ∈ laid entries entry, value.WellFormed) : Formed (lay entries merged entry) := by
  unfold Value.lay
  cases found : laid entries entry with
  | none => exact formed.swapRemove entry.1
  | some value => exact formed.put known (bound value found)

theorem find?_lay (formed : Formed merged) (known : wanted.WellFormed) (given : entry.1.WellFormed) :
    find? wanted (lay entries merged entry) = if same wanted entry.1 then laid entries entry else find? wanted merged := by
  unfold lay
  cases laid entries entry with
  | none => exact find?_swapRemove formed known given
  | some value => exact find?_put formed.keys known given

/-- Entries with well-formed keys that bind them to well-formed values, when laid over those of a base. -/
def LaysOver (fields entries : List (Value × Value)) : Prop :=
  ∀ entry ∈ fields, entry.1.WellFormed ∧ ∀ value ∈ laid entries entry, value.WellFormed

theorem Formed.foldl_lay (formed : Formed merged) (given : LaysOver fields entries) :
    Formed (fields.foldl (Value.lay entries) merged) := by
  induction fields generalizing merged with
  | nil => exact formed
  | cons entry rest ih =>
    obtain ⟨⟨known, bound⟩, others⟩ := List.forall_mem_cons.mp given
    exact ih (formed.lay known bound) others

theorem find?_foldl_lay_of_absent (formed : Formed merged) (given : LaysOver fields entries) (known : wanted.WellFormed)
    (absent : ∀ entry ∈ fields, same wanted entry.1 = false) :
    find? wanted (fields.foldl (lay entries) merged) = find? wanted merged := by
  induction fields generalizing merged with
  | nil => rfl
  | cons entry rest ih =>
    obtain ⟨first, others⟩ := List.forall_mem_cons.mp given
    obtain ⟨different, missing⟩ := List.forall_mem_cons.mp absent
    rw [List.foldl_cons, ih (formed.lay first.1 first.2) others missing, find?_lay formed known first.1, different,
      if_neg Bool.false_ne_true]

/-- A key of an overlay is bound to what its entry lays, whatever is done for the other entries. -/
theorem find?_foldl_lay (formed : Formed merged) (overlay : Formed fields) (given : LaysOver fields entries)
    (known : wanted.WellFormed) (member : entry ∈ fields) (equal : same wanted entry.1) :
    find? wanted (fields.foldl (lay entries) merged) = laid entries entry := by
  obtain ⟨front, behind, rfl⟩ := List.append_of_mem member
  have key := overlay.keys entry member
  have before : LaysOver front entries := fun other listed => given other (List.mem_append_left _ listed)
  have after : LaysOver (entry :: behind) entries := fun other listed => given other (List.mem_append_right _ listed)
  obtain ⟨own, later⟩ := List.forall_mem_cons.mp after
  have absent : ∀ other ∈ behind, same wanted other.1 = false := by
    intro other listed
    have apart := (List.pairwise_cons.mp (List.pairwise_append.mp overlay.distinct).2.1).1 other listed
    rw [same_congr known key (later other listed).1 equal, apart.1]
  have middle := formed.foldl_lay before
  rw [List.foldl_append, List.foldl_cons, find?_foldl_lay_of_absent (middle.lay own.1 own.2) later known absent,
    find?_lay middle known key, if_pos equal]

theorem laysOver_of_forall (known : Formed entries) (keys : ∀ entry ∈ fields, entry.1.WellFormed)
    (values : ∀ entry ∈ fields, ∀ base : Value, base.WellFormed → (overlaid base entry.2).WellFormed) :
    LaysOver fields entries := by
  intro entry member
  refine ⟨keys entry member, fun value bound => ?_⟩
  unfold laid at bound
  split at bound
  next => cases bound
  next =>
    obtain rfl := Option.some.inj bound
    exact values entry member _ (wellFormed_getD_find? known entry.1)

theorem wellFormed_overlaid (formed : overlay.WellFormed) (known : base.WellFormed) : (overlaid base overlay).WellFormed := by
  induction formed generalizing base with
  | null => simpa using known
  | boolean flag => simpa [overlaid] using .boolean flag
  | number number => simpa [overlaid] using .number number
  | string text => simpa [overlaid] using .string text
  | list each => simpa [overlaid] using .list each
  | tagged tag inner => simpa [overlaid] using .tagged tag inner
  | @mapping fields keys values distinct _ laidValues =>
    by_cases below : ∃ entries, base = mapping entries
    · obtain ⟨entries, rfl⟩ := below
      have formed := wellFormed_mapping_iff.mp known
      rw [overlaid_mapping, overlaidEntries_eq_foldl, wellFormed_mapping_iff]
      exact formed.foldl_lay (laysOver_of_forall formed keys fun entry member base => laidValues entry member)
    · rw [overlaid_by_mapping (not_exists.mp below)]
      exact .mapping keys values distinct

theorem laysOver (overlay : Formed fields) (known : Formed entries) : LaysOver fields entries :=
  laysOver_of_forall known overlay.keys fun entry member _ => wellFormed_overlaid (overlay.values entry member)

theorem descend?_overlaid (known : Formed entries) (overlay : Formed fields) (formed : wanted.WellFormed)
    (member : entry ∈ fields) (equal : same wanted entry.1) (path : List Value) :
    (overlaid (mapping entries) (mapping fields)).descend? (wanted :: path) =
      (laid entries entry).bind (·.descend? path) := by
  rw [overlaid_mapping, overlaidEntries_eq_foldl, descend?,
    find?_foldl_lay known overlay (laysOver overlay known) formed member equal]

theorem not_mapsAt (apart : ∀ entries, value ≠ mapping entries) (path : List Value) : ¬ MapsAt value path := by
  rintro ⟨entries, found⟩
  cases path with
  | nil => exact apart entries (Option.some.inj found)
  | cons key path => cases value <;> simp_all [descend?]

theorem mapsAt_cons_iff : MapsAt (mapping entries) (key :: path) ↔ MapsAt ((find? key entries).getD null) path := by
  cases found : find? key entries with
  | none =>
    refine iff_of_false ?_ (not_mapsAt (by simp) path)
    rintro ⟨inner, reached⟩
    simp [descend?, found] at reached
  | some value => simp [MapsAt, descend?, found]

theorem mapsAt_dropLast (below : path ≠ []) (found : base.descend? path = some value) : MapsAt base path.dropLast := by
  induction path generalizing base with
  | nil => exact absurd rfl below
  | cons key path ih =>
    cases base with
    | mapping entries =>
      cases path with
      | nil => exact ⟨entries, rfl⟩
      | cons next path =>
        obtain ⟨inner, bound, reached⟩ := Option.bind_eq_some_iff.mp found
        rw [List.dropLast_cons_cons, mapsAt_cons_iff, bound]
        exact ih (List.cons_ne_nil next path) reached
    | _ => cases found

theorem nullAt_cons_iff : NullAt overlay (key :: path) ↔ key.WellFormed ∧ ∃ fields found,
    overlay = mapping fields ∧ find? key fields = some found ∧ (path = [] ∧ found.isNull ∨ NullAt found path) := by
  constructor
  · rintro ⟨-, keys, value, reached, null⟩
    obtain ⟨known, others⟩ := List.forall_mem_cons.mp keys
    cases overlay with
    | mapping fields =>
      obtain ⟨found, bound, reached⟩ := Option.bind_eq_some_iff.mp reached
      refine ⟨known, fields, found, rfl, bound, ?_⟩
      cases path with
      | nil =>
        obtain rfl := Option.some.inj reached
        exact .inl ⟨rfl, null⟩
      | cons next path => exact .inr ⟨List.cons_ne_nil next path, others, value, reached, null⟩
    | _ => cases reached
  · rintro ⟨known, fields, found, rfl, bound, ⟨rfl, null⟩ | ⟨below, keys, value, reached, null⟩⟩
    · exact ⟨List.cons_ne_nil key [], by simpa using known, found, by simp [descend?, bound], null⟩
    · exact ⟨List.cons_ne_nil key path, List.forall_mem_cons.mpr ⟨known, keys⟩, value,
        by rw [descend?, bound]; exact reached, null⟩

/-- Data with a null below is a mapping, and so no null itself. -/
theorem NullAt.isNull_eq_false (deleted : NullAt overlay path) : overlay.isNull = false := by
  obtain ⟨below, -, value, reached, -⟩ := deleted
  cases path with
  | nil => exact absurd rfl below
  | cons key path =>
    cases overlay with
    | mapping fields => rfl
    | _ => cases reached

/-- What becomes of a null in an overlay: it takes away what is at its path if the base has a mapping there, and otherwise
stays. The induction is along the path; a mapping that the base lacks counts as laid over nothing. -/
theorem descend?_overlaid_at_null (formed : overlay.WellFormed) (known : base.WellFormed) (deleted : NullAt overlay path) :
    (MapsAt base path.dropLast → (overlaid base overlay).descend? path = none) ∧
      (¬ MapsAt base path.dropLast → (overlaid base overlay).descend? path = overlay.descend? path) := by
  induction path generalizing base overlay with
  | nil => exact absurd rfl deleted.below
  | cons key path ih =>
    obtain ⟨wanted, fields, found, rfl, bound, inside⟩ := nullAt_cons_iff.mp deleted
    by_cases below : ∃ entries, base = mapping entries
    · obtain ⟨entries, rfl⟩ := below
      have fieldsFormed := wellFormed_mapping_iff.mp formed
      have entriesFormed := wellFormed_mapping_iff.mp known
      obtain ⟨entry, member, equal, rfl⟩ := mem_of_find?_eq_some bound
      rw [descend?_overlaid entriesFormed fieldsFormed wanted member equal, laid]
      rcases inside with ⟨rfl, null⟩ | deeper
      · rw [if_pos null]
        exact ⟨fun _ => rfl, fun apart => absurd ⟨entries, rfl⟩ apart⟩
      · rw [deeper.isNull_eq_false, if_neg Bool.false_ne_true, List.dropLast_cons_of_ne_nil deeper.below, mapsAt_cons_iff,
          find?_congr entriesFormed.keys wanted (fieldsFormed.keys entry member) equal, descend?, bound]
        exact ih (fieldsFormed.values entry member) (wellFormed_getD_find? entriesFormed entry.1) deeper
    · have apart := not_exists.mp below
      rw [overlaid_by_mapping apart]
      exact ⟨fun reached => absurd reached (not_mapsAt apart _), fun _ => rfl⟩

theorem descend?_overlaid_eq_none_iff (formed : overlay.WellFormed) (known : base.WellFormed)
    (deleted : NullAt overlay path) : (overlaid base overlay).descend? path = none ↔ MapsAt base path.dropLast := by
  obtain ⟨gone, stays⟩ := descend?_overlaid_at_null formed known deleted
  refine ⟨fun absent => ?_, gone⟩
  by_cases reached : MapsAt base path.dropLast
  · exact reached
  · obtain ⟨-, -, value, held, -⟩ := deleted
    rw [stays reached, held] at absent
    cases absent

/-- Where every null of an overlay takes something away. -/
def Clears (overlay base : Value) : Prop :=
  ∀ path, NullAt overlay path → MapsAt base path.dropLast

theorem Clears.of_entry (clear : Clears (mapping fields) base) (formed : Formed fields) (member : entry ∈ fields) :
    (entry.2.isNull → MapsAt base []) ∧ ∀ path, NullAt entry.2 path → MapsAt base (entry.1 :: path.dropLast) := by
  have known := formed.keys entry member
  have bound := find?_eq_some_of_mem formed known member (same_refl known)
  refine ⟨fun null => ?_, fun path deeper => ?_⟩
  · exact clear [entry.1] (nullAt_cons_iff.mpr ⟨known, fields, entry.2, rfl, bound, .inl ⟨rfl, null⟩⟩)
  · rw [← List.dropLast_cons_of_ne_nil deeper.below]
    exact clear (entry.1 :: path) (nullAt_cons_iff.mpr ⟨known, fields, entry.2, rfl, bound, .inr deeper⟩)

/-- Entries that bind each of their keys to what is laid for it stay as they are. -/
theorem foldl_lay_eq_self (settled : ∀ entry ∈ fields, laid entries entry = find? entry.1 entries) :
    fields.foldl (lay entries) entries = entries := by
  induction fields with
  | nil => rfl
  | cons entry rest ih =>
    obtain ⟨first, others⟩ := List.forall_mem_cons.mp settled
    have unchanged : lay entries entries entry = entries := by
      rw [lay, first]
      cases found : find? entry.1 entries with
      | none => exact swapRemove_eq_self found
      | some value => exact put_eq_self found
    rw [List.foldl_cons, unchanged, ih others]

section
variable (formed : Formed fields)
  (again : ∀ entry ∈ fields, ∀ base : Value, base.WellFormed → Clears entry.2 base →
    overlaid (overlaid base entry.2) entry.2 = overlaid base entry.2)
include formed again

/-- The second time, each entry is laid over what it was bound to the first time. -/
theorem overlaid_mapping_again (known : Formed entries) (clear : Clears (mapping fields) (mapping entries)) :
    overlaid (overlaid (mapping entries) (mapping fields)) (mapping fields) =
      overlaid (mapping entries) (mapping fields) := by
  rw [overlaid_mapping, overlaid_mapping, overlaidEntries_eq_foldl, overlaidEntries_eq_foldl]
  congr 1
  refine foldl_lay_eq_self fun entry member => ?_
  have key := formed.keys entry member
  rw [laid, find?_foldl_lay known formed (laysOver formed known) key member (same_refl key), laid]
  split
  next => rfl
  next =>
    refine congrArg some (again entry member _ (wellFormed_getD_find? known entry.1) ?_)
    intro path deeper
    exact mapsAt_cons_iff.mp ((clear.of_entry formed member).2 path deeper)

/-- Where the base has nothing to take from, there is no null in the overlay, and it can be laid over itself. -/
theorem overlaid_mapping_self (apart : ∀ entries, base ≠ mapping entries) (clear : Clears (mapping fields) base) :
    overlaid (mapping fields) (mapping fields) = mapping fields := by
  rw [overlaid_mapping, overlaidEntries_eq_foldl]
  congr 1
  refine foldl_lay_eq_self fun entry member => ?_
  have key := formed.keys entry member
  obtain ⟨top, deep⟩ := clear.of_entry formed member
  rw [laid, find?_eq_some_of_mem formed key member (same_refl key)]
  split
  next null => exact absurd (top null) (not_mapsAt apart [])
  next =>
    have settled := again entry member null .null fun path deeper => absurd (deep path deeper) (not_mapsAt apart _)
    rw [overlaid_null] at settled
    exact congrArg some settled

end

/-- If each null has taken something away, laying the same overlay again changes nothing, not even the order. -/
theorem overlaid_again (formed : overlay.WellFormed) (known : base.WellFormed) (clear : Clears overlay base) :
    overlaid (overlaid base overlay) overlay = overlaid base overlay := by
  induction formed generalizing base with
  | null => simp
  | boolean | number | string | list | tagged => simp [overlaid]
  | @mapping fields keys values distinct _ again =>
    have formed := wellFormed_mapping_iff.mp (.mapping keys values distinct)
    have settles : ∀ entry ∈ fields, ∀ base : Value, base.WellFormed → Clears entry.2 base →
        overlaid (overlaid base entry.2) entry.2 = overlaid base entry.2 :=
      fun entry member base => again entry member
    by_cases below : ∃ entries, base = mapping entries
    · obtain ⟨entries, rfl⟩ := below
      exact overlaid_mapping_again formed settles (wellFormed_mapping_iff.mp known) clear
    · have apart := not_exists.mp below
      rw [overlaid_by_mapping apart]
      exact overlaid_mapping_self formed settles apart clear

/-- What is found in data is found in data that is the same. -/
theorem descend?_of_same {other : Value} (formed : base.WellFormed) (known : other.WellFormed) (equal : base.same other)
    (keys : ∀ key ∈ path, key.WellFormed) (found : (base.descend? path).isSome) : (other.descend? path).isSome := by
  induction path generalizing base other with
  | nil => rfl
  | cons key path ih =>
    obtain ⟨wanted, later⟩ := List.forall_mem_cons.mp keys
    cases base with
    | mapping entries =>
      obtain ⟨fields, rfl, -, matched⟩ := same_mapping_iff.mp equal
      have entriesFormed := wellFormed_mapping_iff.mp formed
      have fieldsFormed := wellFormed_mapping_iff.mp known
      cases bound : find? key entries with
      | none => simp [descend?, bound] at found
      | some value =>
        obtain ⟨entry, member, start, rfl⟩ := mem_of_find?_eq_some bound
        obtain ⟨field, listed, sameKey, sameValue⟩ := matched entry member
        have reached := find?_eq_some_of_mem fieldsFormed wanted listed
          (same_trans wanted (entriesFormed.keys entry member) (fieldsFormed.keys field listed) start sameKey)
        rw [descend?, bound, Option.bind_some] at found
        rw [descend?, reached, Option.bind_some]
        exact ih (entriesFormed.values entry member) (fieldsFormed.values field listed) sameValue later found
    | _ => cases found

/-- A null deletes what is at its path if the base has a mapping there, and otherwise stays. An overlay that is laid twice
gives the same as once just if each of its nulls deletes. -/
theorem nulls_delete (formed : overlay.WellFormed) (known : base.WellFormed) :
    (∀ path, NullAt overlay path →
      (MapsAt base path.dropLast → (overlaid base overlay).descend? path = none) ∧
        (¬ MapsAt base path.dropLast → (overlaid base overlay).descend? path = overlay.descend? path)) ∧
      ((overlaid (overlaid base overlay) overlay).same (overlaid base overlay) ↔ Clears overlay base) := by
  have result := wellFormed_overlaid formed known
  refine ⟨fun path => descend?_overlaid_at_null formed known, ?_, ?_⟩
  · intro equal path deleted
    rw [← descend?_overlaid_eq_none_iff formed known deleted]
    cases found : (overlaid base overlay).descend? path with
    | none => rfl
    | some value =>
      have gone := (descend?_overlaid_eq_none_iff formed result deleted).mpr (mapsAt_dropLast deleted.below found)
      have back := descend?_of_same result (wellFormed_overlaid formed result)
        (same_symm (wellFormed_overlaid formed result) result equal) deleted.keys (Option.isSome_of_eq_some found)
      rw [gone] at back
      cases back
  · intro clear
    rw [overlaid_again formed known clear]
    exact same_refl result

theorem wellFormed_single (known : key.WellFormed) (formed : value.WellFormed) : (mapping [(key, value)]).WellFormed :=
  .mapping (by simpa using known) (by simpa using formed) rfl

namespace Parallel

def settings : Value := mapping [(string "settings", mapping [(string "parallel", boolean true)])]
def reset : Value := mapping [(string "settings", mapping [(string "parallel", null)])]
def place : List Value := [string "settings", string "parallel"]

theorem settings_wellFormed : settings.WellFormed :=
  wellFormed_single (.string "settings") (wellFormed_single (.string "parallel") (.boolean true))

theorem reset_wellFormed : reset.WellFormed :=
  wellFormed_single (.string "settings") (wellFormed_single (.string "parallel") .null)

theorem nullAt_place : NullAt reset place where
  below := by simp [place]
  keys := by
    intro key member
    simp only [place, List.mem_cons, List.not_mem_nil, or_false] at member
    rcases member with rfl | rfl
    · exact .string "settings"
    · exact .string "parallel"
  null := ⟨null, rfl, rfl⟩

end Parallel

open Parallel in
theorem nulls_delete_setting : settings.descend? place = some (boolean true) ∧
    (overlaid settings reset).descend? place = none := by
  refine ⟨rfl, ?_⟩
  have deletes := (nulls_delete reset_wellFormed settings_wellFormed).1 place nullAt_place
  exact deletes.1 ⟨[(string "parallel", boolean true)], rfl⟩

open Parallel in
/-- Where there are no settings, the null stays; it takes itself away when the overlay is laid again. -/
theorem null_stays_over_nothing : NullAt reset place ∧ (overlaid (mapping []) reset).descend? place = some null ∧
    (overlaid (overlaid (mapping []) reset) reset).same (overlaid (mapping []) reset) = false :=
  ⟨nullAt_place, rfl, rfl⟩

end Linkage.Yaml.Value
