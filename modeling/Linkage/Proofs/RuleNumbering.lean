import Linkage.Verifier

/-! Sharing rules out among workers changes nothing: the pieces in their order are the whole list, and each piece is
numbered from where it starts. So the answer at a place is that of the rule at this place, for any number of workers.
Where the answers are lists, those of a rule stand together, behind those of the rules before it. -/

namespace Linkage.Verifier
variable {α : Type u} {β : Type v} (f : Nat → α → β)

theorem getElem?_numbered (first index : Nat) (elements : List α) :
    (numbered f first elements)[index]? = elements[index]?.map (f (first + index)) := by
  induction elements generalizing first index with
  | nil => simp [numbered]
  | cons element rest ih =>
    cases index with
    | zero => simp [numbered]
    | succ index => simp [numbered, ih, Nat.add_assoc, Nat.add_comm 1]

@[simp]
theorem length_numbered (first : Nat) (elements : List α) : (numbered f first elements).length = elements.length := by
  induction elements generalizing first with
  | nil => rfl
  | cons element rest ih => simp [numbered, ih]

theorem numbered_append (first : Nat) (elements others : List α) :
    numbered f first (elements ++ others) =
      numbered f first elements ++ numbered f (first + elements.length) others := by
  induction elements generalizing first with
  | nil => rfl
  | cons element rest ih => simp [numbered, ih, Nat.add_assoc, Nat.add_comm 1]

theorem map_numbered {γ : Type w} (g : β → γ) (first : Nat) (elements : List α) :
    (numbered f first elements).map g = numbered (fun index element => g (f index element)) first elements := by
  induction elements generalizing first with
  | nil => rfl
  | cons element rest ih => simp [numbered, ih]

/-- Numbering each piece from its place is numbering the whole. Only the last piece can be short, and nothing follows
it. -/
private theorem numbered_pieces {size : Nat} (positive : 0 < size) (place : Nat) (elements : List α) :
    (numbered (fun place piece => numbered f (place * size) piece) place (pieces size elements)).flatten =
      numbered f (place * size) elements := by
  fun_induction pieces size elements generalizing place with
  | case1 => rfl
  | case2 x rest ih =>
    have whole : x :: rest = (x :: rest.take (size - 1)) ++ rest.drop (size - 1) := by simp
    rw [numbered, List.flatten_cons, ih, whole, numbered_append]
    congr 1
    by_cases full : size - 1 ≤ rest.length
    · have next : (place + 1) * size = place * size + (x :: rest.take (size - 1)).length := by
        simp only [List.length_cons, List.length_take, Nat.min_eq_left full, Nat.succ_mul]
        omega
      rw [next]
    · simp [List.drop_eq_nil_of_le (Nat.le_of_not_le full), numbered]

/-- The pieces joined are the whole, for any number of workers that is not zero. -/
theorem flatten_shared {workers : Nat} (someone : 0 < workers) (elements : List α) :
    (shared workers f elements).flatten = numbered f 0 elements := by
  cases elements with
  | nil => simp [shared, pieces, numbered]
  | cons element rest =>
    have positive : 0 < ((element :: rest).length + workers - 1) / workers := by
      apply Nat.div_pos
      · simp only [List.length_cons]
        omega
      · exact someone
    rw [shared, numbered_pieces f positive 0, Nat.zero_mul]

theorem mapRules_eq_numbered (verifier : Verifier) (f : Nat → Rule → β) :
    verifier.mapRules f = numbered f 0 verifier.rules := by
  simp only [mapRules]
  split
  · rfl
  next several => exact flatten_shared f (by omega) verifier.rules

theorem getElem?_mapRules (verifier : Verifier) (f : Nat → Rule → β) (index : Nat) :
    (verifier.mapRules f)[index]? = verifier.rules[index]?.map (f index) := by
  rw [mapRules_eq_numbered, getElem?_numbered, Nat.zero_add]

section
variable {block : Nat → α → List β} {first : Nat} {elements : List α} {element : α} {result : β} {index : Nat}

theorem mem_flatten_numbered : result ∈ (numbered block first elements).flatten ↔
    ∃ index element, elements[index]? = some element ∧ result ∈ block (first + index) element := by
  rw [List.mem_flatten]
  constructor
  · rintro ⟨results, member, inside⟩
    obtain ⟨index, found⟩ := List.mem_iff_getElem?.mp member
    rw [getElem?_numbered, Option.map_eq_some_iff] at found
    obtain ⟨element, found, rfl⟩ := found
    exact ⟨index, element, found, inside⟩
  · rintro ⟨index, element, found, inside⟩
    refine ⟨_, List.mem_iff_getElem?.mpr ⟨index, ?_⟩, inside⟩
    rw [getElem?_numbered, found, Option.map_some]

/-- Blocks that are in order, one after the other, are in order together. -/
theorem pairwise_flatten_numbered {r : β → β → Prop} (within : ∀ index element, (block index element).Pairwise r)
    (across : ∀ {index later : Nat} {element other : α}, index < later →
      ∀ a ∈ block index element, ∀ b ∈ block later other, r a b) :
    (numbered block first elements).flatten.Pairwise r := by
  induction elements generalizing first with
  | nil => exact .nil
  | cons element rest ih =>
    refine List.pairwise_append.mpr ⟨within first element, ih, fun a inside b member => ?_⟩
    obtain ⟨index, other, -, later⟩ := mem_flatten_numbered.mp member
    exact across (by omega) a inside b later

variable {number : β → Nat} (tells : ∀ index element, ∀ result ∈ block index element, number result = index)
include tells

private theorem filter_flatten_numbered_apart (apart : ∀ place < elements.length, first + place ≠ index) :
    (numbered block first elements).flatten.filter (number · = index) = [] := by
  refine List.filter_eq_nil_iff.mpr fun result member => ?_
  obtain ⟨place, element, found, inside⟩ := mem_flatten_numbered.mp member
  obtain ⟨bound, -⟩ := List.getElem?_eq_some_iff.mp found
  simpa [tells _ _ result inside] using apart place bound

/-- Results that tell their number are those of one block. -/
theorem filter_flatten_numbered (found : elements[index]? = some element) :
    (numbered block 0 elements).flatten.filter (number · = index) = block index element := by
  obtain ⟨before, after, rfl, rfl⟩ : ∃ before after, elements = before ++ element :: after ∧ before.length = index := by
    obtain ⟨inside, rfl⟩ := List.getElem?_eq_some_iff.mp found
    exact ⟨elements.take index, elements.drop (index + 1), by simp, by simp [Nat.le_of_lt inside]⟩
  have own : (block before.length element).filter (number · = before.length) = block before.length element :=
    List.filter_eq_self.mpr fun result inside => by simp [tells _ _ result inside]
  have front : (numbered block 0 before).flatten.filter (number · = before.length) = [] :=
    filter_flatten_numbered_apart tells (by omega)
  have back : (numbered block (before.length + 1) after).flatten.filter (number · = before.length) = [] :=
    filter_flatten_numbered_apart tells (by omega)
  rw [numbered_append, Nat.zero_add, numbered, List.flatten_append, List.flatten_cons, List.filter_append,
    List.filter_append, own, front, back, List.nil_append, List.append_nil]

end

end Linkage.Verifier
