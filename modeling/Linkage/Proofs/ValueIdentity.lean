import Linkage.Yaml.Value

/-! Data that can be in a document: no mapping in it has a key twice. On such data, being the same is an equivalence,
although mappings are compared one way only, each entry of the first with those of the second. As they are equally long
and keys are distinct, no entry of the second is left over. -/

namespace Linkage.Yaml.Value
variable {value other third : Value} {items others thirds : List Value} {entries fields : List (Value × Value)}

/-- Data in which no mapping has a key twice. -/
inductive WellFormed : Value → Prop where
  | null : WellFormed null
  | boolean (value : Bool) : WellFormed (boolean value)
  | number (value : Number) : WellFormed (number value)
  | string (text : String) : WellFormed (string text)
  | list {items : List Value} (each : ∀ item ∈ items, WellFormed item) : WellFormed (list items)
  | mapping {entries : List (Value × Value)} (keys : ∀ entry ∈ entries, WellFormed entry.1)
    (values : ∀ entry ∈ entries, WellFormed entry.2) (distinct : repeatsKey entries = false) :
    WellFormed (mapping entries)
  | tagged (tag : String) {value : Value} (inner : WellFormed value) : WellFormed (tagged tag value)

theorem repeatsKey_eq_false_iff :
    repeatsKey entries = false ↔ entries.Pairwise fun a b => same a.1 b.1 = false := by
  induction entries with
  | nil => simp [repeatsKey]
  | cons entry rest ih =>
    rw [repeatsKey, Bool.or_eq_false_iff, ih, List.pairwise_cons, List.any_eq_false]
    simp only [Bool.not_eq_true]

/-- The number itself, but one zero for all floating-point zeros. -/
def unsigned : Number → Number
  | .decimal (.finite _ 0 _) => .decimal (.finite false 0 0)
  | other => other

theorem sameNumber_iff {a b : Number} : sameNumber a b ↔ unsigned a = unsigned b := by
  unfold sameNumber unsigned
  grind

theorem holdsAll_iff : holdsAll entries fields ↔
    ∀ entry ∈ entries, ∃ field ∈ fields, same entry.1 field.1 ∧ same entry.2 field.2 := by
  induction entries with
  | nil => simp [holdsAll]
  | cons entry rest ih =>
    rw [holdsAll, Bool.and_eq_true, ih, List.forall_mem_cons]
    simp

@[simp]
theorem same_null_iff : same null other ↔ other = null := by
  cases other with
  | null => exact ⟨fun _ => rfl, fun _ => rfl⟩
  | _ => exact ⟨nofun, nofun⟩

@[simp]
theorem same_boolean_iff {flag : Bool} : same (boolean flag) other ↔ other = boolean flag := by
  cases other with
  | boolean found =>
    change decide (flag = found) = true ↔ _
    rw [decide_eq_true_iff, boolean.injEq, eq_comm]
  | _ => exact ⟨nofun, nofun⟩

theorem same_number_iff {number : Number} :
    same (.number number) other ↔ ∃ found, other = .number found ∧ unsigned number = unsigned found := by
  cases other with
  | number found => exact sameNumber_iff.trans ⟨fun signs => ⟨found, rfl, signs⟩, fun ⟨_, rfl, signs⟩ => signs⟩
  | _ => exact ⟨nofun, nofun⟩

@[simp]
theorem same_string_iff {text : String} : same (string text) other ↔ other = string text := by
  cases other with
  | string found =>
    change decide (text = found) = true ↔ _
    rw [decide_eq_true_iff, string.injEq, eq_comm]
  | _ => exact ⟨nofun, nofun⟩

theorem same_list_iff : same (list items) other ↔ ∃ others, other = list others ∧ sameItems items others := by
  cases other with
  | list others => exact ⟨fun inside => ⟨others, rfl, inside⟩, fun ⟨_, rfl, inside⟩ => inside⟩
  | _ => exact ⟨nofun, nofun⟩

theorem same_mapping_iff : same (mapping entries) other ↔ ∃ fields, other = mapping fields ∧
    entries.length = fields.length ∧
      ∀ entry ∈ entries, ∃ field ∈ fields, same entry.1 field.1 ∧ same entry.2 field.2 := by
  cases other with
  | mapping fields =>
    change (decide (entries.length = fields.length) && holdsAll entries fields) = true ↔ _
    rw [Bool.and_eq_true, decide_eq_true_iff, holdsAll_iff]
    exact ⟨fun matched => ⟨fields, rfl, matched⟩, fun ⟨_, rfl, matched⟩ => matched⟩
  | _ => exact ⟨nofun, nofun⟩

theorem same_tagged_iff {tag : String} :
    same (tagged tag value) other ↔ ∃ inner, other = tagged tag inner ∧ same value inner := by
  cases other with
  | tagged label inner =>
    change (decide (tag = label) && same value inner) = true ↔ _
    rw [Bool.and_eq_true, decide_eq_true_iff]
    constructor
    · rintro ⟨rfl, inside⟩
      exact ⟨inner, rfl, inside⟩
    · rintro ⟨found, whole, inside⟩
      obtain ⟨rfl, rfl⟩ := tagged.inj whole
      exact ⟨rfl, inside⟩
  | _ => exact ⟨nofun, nofun⟩

theorem sameItems_refl (each : ∀ item ∈ items, same item item) : sameItems items items := by
  induction items with
  | nil => rfl
  | cons item rest ih =>
    rw [List.forall_mem_cons] at each
    rw [sameItems, each.1, ih each.2, Bool.and_self]

theorem sameItems_symm (each : ∀ item ∈ items, ∀ other ∈ others, same item other → same other item)
    (equal : sameItems items others) : sameItems others items := by
  induction items generalizing others with
  | nil =>
    cases others with
    | nil => rfl
    | cons _ _ => simp [sameItems] at equal
  | cons item rest ih =>
    cases others with
    | nil => simp [sameItems] at equal
    | cons other others =>
      simp only [sameItems, Bool.and_eq_true] at equal ⊢
      refine ⟨each item List.mem_cons_self other List.mem_cons_self equal.1, ih ?_ equal.2⟩
      intro item member other found
      exact each item (List.mem_cons_of_mem _ member) other (List.mem_cons_of_mem _ found)

theorem sameItems_trans
    (each : ∀ item ∈ items, ∀ other ∈ others, ∀ third ∈ thirds, same item other → same other third → same item third)
    (first : sameItems items others) (second : sameItems others thirds) : sameItems items thirds := by
  induction items generalizing others thirds with
  | nil =>
    cases others with
    | nil => exact second
    | cons _ _ => simp [sameItems] at first
  | cons item rest ih =>
    cases others with
    | nil => simp [sameItems] at first
    | cons other others =>
      cases thirds with
      | nil => simp [sameItems] at second
      | cons third thirds =>
        simp only [sameItems, Bool.and_eq_true] at first second ⊢
        refine ⟨each item List.mem_cons_self other List.mem_cons_self third List.mem_cons_self first.1 second.1, ?_⟩
        refine ih ?_ first.2 second.2
        intro item member other found third known
        exact each item (List.mem_cons_of_mem _ member) other (List.mem_cons_of_mem _ found) third
          (List.mem_cons_of_mem _ known)

/-- Where each of some things has its own match among no more others, no other is without one. The induction takes a
thing away together with its match. -/
theorem matched_of_length_le {α β : Type} {Matches : α → β → Prop} {xs : List α} {ys : List β}
    (apart : xs.Pairwise fun a b => ∀ y ∈ ys, Matches a y → ¬ Matches b y) (few : ys.length ≤ xs.length)
    (matched : ∀ x ∈ xs, ∃ y ∈ ys, Matches x y) : ∀ y ∈ ys, ∃ x ∈ xs, Matches x y := by
  induction xs generalizing ys with
  | nil =>
    intro y member
    simp [List.length_eq_zero_iff.mp (Nat.le_zero.mp few)] at member
  | cons x rest ih =>
    obtain ⟨own, member, found⟩ := matched x List.mem_cons_self
    obtain ⟨front, behind, rfl⟩ := List.append_of_mem member
    obtain ⟨alone, apart⟩ := List.pairwise_cons.mp apart
    have others : ∀ y ∈ front ++ behind, ∃ x ∈ rest, Matches x y := by
      refine ih ?_ ?_ ?_
      · exact apart.imp fun separate y inside => separate y (by simp_all [or_left_comm])
      · simp only [List.length_append, List.length_cons] at few ⊢
        omega
      · intro other inside
        obtain ⟨y, listed, same⟩ := matched other (List.mem_cons_of_mem _ inside)
        rcases List.mem_append.mp listed with before | after
        · exact ⟨y, List.mem_append_left _ before, same⟩
        · rcases List.mem_cons.mp after with rfl | after
          · exact absurd same (alone other inside y member found)
          · exact ⟨y, List.mem_append_right _ after, same⟩
    intro y listed
    by_cases same : y = own
    · exact ⟨x, List.mem_cons_self, same ▸ found⟩
    · obtain ⟨other, inside, matching⟩ := others y (by simp_all)
      exact ⟨other, List.mem_cons_of_mem _ inside, matching⟩

/-- What the two laws say about one value. -/
structure Equates (value : Value) : Prop where
  symm : ∀ other : Value, other.WellFormed → same value other → same other value
  trans : ∀ other third : Value, other.WellFormed → third.WellFormed → same value other → same other third →
    same value third

theorem Equates.of_unique (unique : ∀ other, same value other ↔ other = value) : Equates value where
  symm other _ equal := by
    obtain rfl := (unique other).mp equal
    exact equal
  trans other third _ _ first second := by
    obtain rfl := (unique other).mp first
    exact second

theorem Equates.number (number : Number) : Equates (.number number) where
  symm other _ equal := by
    obtain ⟨found, rfl, signs⟩ := same_number_iff.mp equal
    exact same_number_iff.mpr ⟨number, rfl, signs.symm⟩
  trans other third _ _ first second := by
    obtain ⟨found, rfl, start⟩ := same_number_iff.mp first
    obtain ⟨last, rfl, stop⟩ := same_number_iff.mp second
    exact same_number_iff.mpr ⟨last, rfl, start.trans stop⟩

theorem Equates.list (each : ∀ item ∈ items, Equates item) : Equates (list items) where
  symm other formed equal := by
    obtain ⟨others, rfl, inside⟩ := same_list_iff.mp equal
    cases formed with | list formed =>
    refine same_list_iff.mpr ⟨items, rfl, sameItems_symm ?_ inside⟩
    intro item member other found
    exact (each item member).symm other (formed other found)
  trans other third formed known first second := by
    obtain ⟨others, rfl, start⟩ := same_list_iff.mp first
    obtain ⟨thirds, rfl, stop⟩ := same_list_iff.mp second
    cases formed with | list formed =>
    cases known with | list known =>
    refine same_list_iff.mpr ⟨thirds, rfl, sameItems_trans ?_ start stop⟩
    intro item member other found third reached
    exact (each item member).trans other third (formed other found) (known third reached)

/-- Two entries with one match would have the same key: symmetry of mappings needs transitivity of their keys. -/
theorem Equates.mapping (keys : ∀ entry ∈ entries, entry.1.WellFormed) (distinct : repeatsKey entries = false)
    (sameKeys : ∀ entry ∈ entries, Equates entry.1) (sameValues : ∀ entry ∈ entries, Equates entry.2) :
    Equates (mapping entries) where
  symm other formed equal := by
    obtain ⟨fields, rfl, length, matched⟩ := same_mapping_iff.mp equal
    cases formed with | mapping otherKeys otherValues =>
    refine same_mapping_iff.mpr ⟨entries, rfl, length.symm, ?_⟩
    have apart : entries.Pairwise fun a b => ∀ field ∈ fields,
        same a.1 field.1 ∧ same a.2 field.2 → ¬ (same b.1 field.1 ∧ same b.2 field.2) := by
      refine (repeatsKey_eq_false_iff.mp distinct).imp_of_mem ?_
      intro a b first last different field member start stop
      have back := (sameKeys b last).symm field.1 (otherKeys field member) stop.1
      have joined := (sameKeys a first).trans field.1 b.1 (otherKeys field member) (keys b last) start.1 back
      simp [different] at joined
    intro field member
    obtain ⟨entry, found, key, value⟩ := matched_of_length_le apart (Nat.le_of_eq length.symm) matched field member
    exact ⟨entry, found, (sameKeys entry found).symm _ (otherKeys field member) key,
      (sameValues entry found).symm _ (otherValues field member) value⟩
  trans other third formed known first second := by
    obtain ⟨fields, rfl, length, matched⟩ := same_mapping_iff.mp first
    obtain ⟨last, rfl, others, reached⟩ := same_mapping_iff.mp second
    cases formed with | mapping otherKeys otherValues =>
    cases known with | mapping thirdKeys thirdValues =>
    refine same_mapping_iff.mpr ⟨last, rfl, length.trans others, ?_⟩
    intro entry member
    obtain ⟨field, found, key, value⟩ := matched entry member
    obtain ⟨behind, listed, nextKey, nextValue⟩ := reached field found
    exact ⟨behind, listed,
      (sameKeys entry member).trans _ _ (otherKeys field found) (thirdKeys behind listed) key nextKey,
      (sameValues entry member).trans _ _ (otherValues field found) (thirdValues behind listed) value nextValue⟩

theorem Equates.tagged (tag : String) (inner : Equates value) : Equates (tagged tag value) where
  symm other formed equal := by
    obtain ⟨found, rfl, inside⟩ := same_tagged_iff.mp equal
    cases formed with | tagged _ formed =>
    exact same_tagged_iff.mpr ⟨value, rfl, inner.symm found formed inside⟩
  trans other third formed known first second := by
    obtain ⟨found, rfl, start⟩ := same_tagged_iff.mp first
    obtain ⟨last, rfl, stop⟩ := same_tagged_iff.mp second
    cases formed with | tagged _ formed =>
    cases known with | tagged _ known =>
    exact same_tagged_iff.mpr ⟨last, rfl, inner.trans found last formed known start stop⟩

/-- On data of documents, being the same is symmetric and transitive. -/
theorem equates (formed : value.WellFormed) : Equates value := by
  induction formed with
  | null => exact .of_unique fun _ => same_null_iff
  | boolean flag => exact .of_unique fun _ => same_boolean_iff
  | string text => exact .of_unique fun _ => same_string_iff
  | number number => exact .number number
  | list each ih => exact .list ih
  | mapping keys values distinct sameKeys sameValues => exact .mapping keys distinct sameKeys sameValues
  | tagged tag inner ih => exact .tagged tag ih

theorem same_symm (formed : value.WellFormed) (known : other.WellFormed) (equal : same value other) : same other value :=
  (equates formed).symm other known equal

theorem same_trans (formed : value.WellFormed) (known : other.WellFormed) (last : third.WellFormed)
    (first : same value other) (second : same other third) : same value third :=
  (equates formed).trans other third known last first second

theorem same_congr (formed : value.WellFormed) (known : other.WellFormed) (last : third.WellFormed)
    (equal : same value other) : same value third = same other third := by
  rw [Bool.eq_iff_iff]
  exact ⟨same_trans known formed last (same_symm formed known equal), same_trans formed known last equal⟩

theorem same_refl (formed : value.WellFormed) : same value value := by
  induction formed with
  | null => simp
  | boolean flag => simp
  | number number => exact same_number_iff.mpr ⟨number, rfl, rfl⟩
  | string text => simp
  | list each ih => exact sameItems_refl ih
  | @mapping entries _ _ _ sameKeys sameValues =>
    refine same_mapping_iff.mpr ⟨entries, rfl, rfl, ?_⟩
    intro entry member
    exact ⟨entry, member, sameKeys entry member, sameValues entry member⟩
  | @tagged _ value _ ih => exact same_tagged_iff.mpr ⟨value, rfl, ih⟩

end Linkage.Yaml.Value
