import Linkage.Proofs.ValueIdentity
import Linkage.Yaml.Value.Layering

/-! The entries of a mapping, looked up by key. Binding a key and taking one away keep keys distinct and leave all other
keys alone; when there is nothing to change, the entries stay as they are, in their order. -/

namespace Linkage.Yaml.Value
variable {key wanted value : Value} {entry : Value × Value} {entries others front behind : List (Value × Value)}

/-- The entries of a mapping in a document. That keys are apart is said both ways, so it does not depend on the order of
the entries. -/
structure Formed (entries : List (Value × Value)) : Prop where
  keys : ∀ entry ∈ entries, entry.1.WellFormed
  values : ∀ entry ∈ entries, entry.2.WellFormed
  distinct : entries.Pairwise fun a b => same a.1 b.1 = false ∧ same b.1 a.1 = false

theorem wellFormed_mapping_iff : (mapping entries).WellFormed ↔ Formed entries := by
  constructor
  · rintro (_ | _ | _ | _ | _ | ⟨keys, values, distinct⟩)
    refine ⟨keys, values, ?_⟩
    refine (repeatsKey_eq_false_iff.mp distinct).imp_of_mem ?_
    intro a b first last apart
    refine ⟨apart, Bool.eq_false_iff.mpr fun equal => ?_⟩
    simp [same_symm (keys b last) (keys a first) equal] at apart
  · intro formed
    exact .mapping formed.keys formed.values (repeatsKey_eq_false_iff.mpr (formed.distinct.imp And.left))

theorem Formed.perm (formed : Formed entries) (reordered : entries.Perm others) : Formed others where
  keys entry member := formed.keys entry (reordered.mem_iff.mpr member)
  values entry member := formed.values entry (reordered.mem_iff.mpr member)
  distinct := formed.distinct.perm reordered And.symm

theorem Formed.sublist (formed : Formed entries) (fewer : others.Sublist entries) : Formed others where
  keys entry member := formed.keys entry (fewer.mem member)
  values entry member := formed.values entry (fewer.mem member)
  distinct := formed.distinct.sublist fewer

theorem find?_cons : find? wanted (entry :: entries) = if same wanted entry.1 then some entry.2 else find? wanted entries := by
  unfold find?
  rw [List.find?_cons]
  split <;> simp_all

theorem find?_eq_none_iff : find? wanted entries = none ↔ ∀ entry ∈ entries, same wanted entry.1 = false := by
  simp [find?]

theorem mem_of_find?_eq_some (found : find? wanted entries = some value) :
    ∃ entry ∈ entries, same wanted entry.1 ∧ entry.2 = value := by
  obtain ⟨entry, listed, bound⟩ := Option.map_eq_some_iff.mp found
  have equal := List.find?_some listed
  exact ⟨entry, List.mem_of_find?_eq_some listed, equal, bound⟩

/-- As keys are distinct, each entry can be looked up. -/
theorem find?_eq_some_of_mem (formed : Formed entries) (known : wanted.WellFormed) (member : entry ∈ entries)
    (equal : same wanted entry.1) : find? wanted entries = some entry.2 := by
  induction entries with
  | nil => cases member
  | cons first rest ih =>
    rw [find?_cons]
    rcases List.mem_cons.mp member with rfl | later
    · rw [if_pos equal]
    · have different : same wanted first.1 = false := by
        have apart := (List.pairwise_cons.mp formed.distinct).1 entry later
        rw [same_congr known (formed.keys entry member) (formed.keys first List.mem_cons_self) equal, apart.2]
      rw [different, if_neg Bool.false_ne_true, ih (formed.sublist (List.sublist_cons_self first rest)) later]

theorem find?_eq_some_iff (formed : Formed entries) (known : wanted.WellFormed) :
    find? wanted entries = some value ↔ ∃ entry ∈ entries, same wanted entry.1 ∧ entry.2 = value := by
  refine ⟨mem_of_find?_eq_some, ?_⟩
  rintro ⟨entry, member, equal, rfl⟩
  exact find?_eq_some_of_mem formed known member equal

theorem find?_perm (formed : Formed entries) (known : wanted.WellFormed) (reordered : entries.Perm others) :
    find? wanted entries = find? wanted others := by
  apply Option.ext
  intro value
  rw [find?_eq_some_iff formed known, find?_eq_some_iff (formed.perm reordered) known]
  simp only [reordered.mem_iff]

theorem find?_congr (keys : ∀ entry ∈ entries, entry.1.WellFormed) (known : wanted.WellFormed) (formed : key.WellFormed)
    (equal : same wanted key) : find? wanted entries = find? key entries := by
  induction entries with
  | nil => rfl
  | cons entry rest ih =>
    obtain ⟨first, others⟩ := List.forall_mem_cons.mp keys
    rw [find?_cons, find?_cons, same_congr known formed first equal, ih others]

theorem mem_put (member : entry ∈ put key value entries) :
    (entry.1 = key ∨ ∃ old ∈ entries, old.1 = entry.1) ∧ (entry.2 = value ∨ ∃ old ∈ entries, old.2 = entry.2) := by
  induction entries with
  | nil =>
    obtain rfl := List.mem_singleton.mp member
    exact ⟨.inl rfl, .inl rfl⟩
  | cons first rest ih =>
    rw [put] at member
    split at member
    next =>
      rcases List.mem_cons.mp member with rfl | later
      · exact ⟨.inr ⟨first, List.mem_cons_self, rfl⟩, .inl rfl⟩
      · have old := List.mem_cons_of_mem first later
        exact ⟨.inr ⟨entry, old, rfl⟩, .inr ⟨entry, old, rfl⟩⟩
    next =>
      rcases List.mem_cons.mp member with rfl | later
      · exact ⟨.inr ⟨entry, List.mem_cons_self, rfl⟩, .inr ⟨entry, List.mem_cons_self, rfl⟩⟩
      · obtain ⟨keys, values⟩ := ih later
        refine ⟨keys.imp_right ?_, values.imp_right ?_⟩
        · rintro ⟨old, listed, equal⟩
          exact ⟨old, List.mem_cons_of_mem _ listed, equal⟩
        · rintro ⟨old, listed, equal⟩
          exact ⟨old, List.mem_cons_of_mem _ listed, equal⟩

theorem put_distinct (formed : Formed entries) (known : key.WellFormed) :
    (put key value entries).Pairwise fun a b => same a.1 b.1 = false ∧ same b.1 a.1 = false := by
  induction entries with
  | nil => simp [put]
  | cons first rest ih =>
    obtain ⟨apart, distinct⟩ := List.pairwise_cons.mp formed.distinct
    rw [put]
    split
    next => exact List.pairwise_cons.mpr ⟨apart, distinct⟩
    next different =>
      refine List.pairwise_cons.mpr ⟨?_, ih (formed.sublist (List.sublist_cons_self first rest))⟩
      intro entry member
      rcases (mem_put member).1 with same | ⟨old, listed, same⟩
      · rw [same]
        refine ⟨Bool.eq_false_iff.mpr fun equal => different ?_, Bool.eq_false_iff.mpr different⟩
        exact same_symm (formed.keys first List.mem_cons_self) known equal
      · rw [← same]
        exact apart old listed

theorem Formed.put (formed : Formed entries) (known : key.WellFormed) (bound : value.WellFormed) :
    Formed (put key value entries) where
  keys entry member := by
    rcases (mem_put member).1 with same | ⟨old, listed, same⟩
    · exact same ▸ known
    · exact same ▸ formed.keys old listed
  values entry member := by
    rcases (mem_put member).2 with same | ⟨old, listed, same⟩
    · exact same ▸ bound
    · exact same ▸ formed.values old listed
  distinct := put_distinct formed known

theorem find?_put (keys : ∀ entry ∈ entries, entry.1.WellFormed) (known : wanted.WellFormed) (formed : key.WellFormed) :
    find? wanted (put key value entries) = if same wanted key then some value else find? wanted entries := by
  induction entries with
  | nil => rw [put, find?_cons]
  | cons entry rest ih =>
    obtain ⟨first, others⟩ := List.forall_mem_cons.mp keys
    rw [put]
    split
    next equal =>
      have moved : same wanted entry.1 = same wanted key := by
        rw [Bool.eq_iff_iff]
        exact ⟨fun found => same_trans known first formed found (same_symm formed first equal),
          fun found => same_trans known formed first found equal⟩
      rw [find?_cons, find?_cons, moved]
      split <;> rfl
    next different =>
      rw [find?_cons, find?_cons, ih others]
      split
      next found =>
        split
        next also => exact absurd (same_trans formed known first (same_symm known formed also) found) different
        next => rfl
      next => rfl

theorem put_of_absent (absent : ∀ entry ∈ entries, same key entry.1 = false) :
    put key value entries = entries ++ [(key, value)] := by
  induction entries with
  | nil => rfl
  | cons entry rest ih =>
    obtain ⟨first, others⟩ := List.forall_mem_cons.mp absent
    rw [put, first, if_neg Bool.false_ne_true, ih others]
    rfl

theorem put_eq_self (found : find? key entries = some value) : put key value entries = entries := by
  induction entries with
  | nil => cases found
  | cons entry rest ih =>
    rw [find?_cons] at found
    rw [put]
    split at found
    next equal =>
      obtain rfl := Option.some.inj found
      rw [if_pos equal]
    next different => rw [if_neg different, ih found]

theorem swapRemove_eq_self (absent : find? key entries = none) : swapRemove key entries = entries := by
  have missing : entries.findIdx? (fun entry => same key entry.1) = none := by
    rw [List.findIdx?_eq_none_iff]
    exact find?_eq_none_iff.mp absent
  rw [swapRemove, missing]

/-- Taking away a key that is there leaves the other entries, though not in their order. -/
theorem swapRemove_perm (before : ∀ entry ∈ front, same key entry.1 = false) (equal : same key entry.1) :
    (swapRemove key (front ++ entry :: behind)).Perm (front ++ behind) := by
  have place : (front ++ entry :: behind).findIdx? (fun entry => same key entry.1) = some front.length := by
    have missing : front.findIdx? (fun entry => same key entry.1) = none := List.findIdx?_eq_none_iff.mpr before
    simp [List.findIdx?_append, List.findIdx?_cons, missing, equal]
  rw [swapRemove, place]
  rcases List.eq_nil_or_concat behind with rfl | ⟨inner, last, rfl⟩
  · simp
  · have moved : (front ++ entry :: inner).set front.length last = front ++ last :: inner := by
      rw [List.set_append_right _ _ (Nat.le_refl _), Nat.sub_self, List.set_cons_zero]
    have split : front ++ entry :: (inner ++ [last]) = (front ++ entry :: inner) ++ [last] := by simp
    have inside : ¬ front.length + 1 = ((front ++ entry :: inner) ++ [last]).length := by simp
    simp only [List.concat_eq_append, split, List.getLast?_concat, inside, if_false, List.dropLast_concat, moved]
    exact (List.perm_append_singleton last inner).symm.append_left front

/-- Either the key is not there, or one entry with it goes. -/
theorem swapRemove_cases (key : Value) (entries : List (Value × Value)) :
    (find? key entries = none ∧ swapRemove key entries = entries) ∨
      ∃ entry others, entries.Perm (entry :: others) ∧ same key entry.1 ∧ (swapRemove key entries).Perm others := by
  cases found : entries.find? fun entry => same key entry.1 with
  | none =>
    have absent : find? key entries = none := by rw [find?, found, Option.map_none]
    exact .inl ⟨absent, swapRemove_eq_self absent⟩
  | some entry =>
    obtain ⟨equal, front, behind, rfl, before⟩ := List.find?_eq_some_iff_append.mp found
    refine .inr ⟨entry, front ++ behind, List.perm_middle, equal, swapRemove_perm ?_ equal⟩
    intro other member
    simpa using before other member

theorem Formed.swapRemove (formed : Formed entries) (key : Value) : Formed (swapRemove key entries) := by
  rcases swapRemove_cases key entries with ⟨-, unchanged⟩ | ⟨entry, others, split, -, rest⟩
  · exact unchanged.symm ▸ formed
  · exact ((formed.perm split).sublist (List.sublist_cons_self entry others)).perm rest.symm

theorem find?_swapRemove (formed : Formed entries) (known : wanted.WellFormed) (taken : key.WellFormed) :
    find? wanted (swapRemove key entries) = if same wanted key then none else find? wanted entries := by
  rcases swapRemove_cases key entries with ⟨absent, unchanged⟩ | ⟨entry, others, split, equal, rest⟩
  · rw [unchanged]
    split
    next gone => rw [find?_congr formed.keys known taken gone, absent]
    next => rfl
  · have whole := formed.perm split
    have first := whole.keys entry List.mem_cons_self
    rw [find?_perm (formed.swapRemove key) known rest, find?_perm formed known split, find?_cons]
    split
    next gone =>
      have found : same wanted entry.1 := same_trans known taken first gone equal
      refine find?_eq_none_iff.mpr fun other member => ?_
      have apart := (List.pairwise_cons.mp whole.distinct).1 other member
      rw [same_congr known first (whole.keys other (List.mem_cons_of_mem _ member)) found, apart.1]
    next stays =>
      have other : ¬ same wanted entry.1 :=
        fun found => stays (same_trans known first taken found (same_symm taken first equal))
      rw [if_neg other]

end Linkage.Yaml.Value
