import Mathlib.Data.List.TakeWhile
import Linkage.Text.Blank

/-! Texts that are put together from parts come apart again in one way only, if a part cannot hold the character by
which the next one is set off. -/

namespace Linkage.Text
variable {p : Char → Bool} {separator : Char} {first second rest others : List Char}

theorem takeWhile_append (inside : ∀ c ∈ first, p c) (stops : ∀ c ∈ rest.head?, ¬ p c) :
    (first ++ rest).takeWhile p = first := by
  rw [List.takeWhile_append_of_pos inside]
  cases rest with
  | nil => rw [List.takeWhile_nil, List.append_nil]
  | cons c rest => rw [List.takeWhile_cons_of_neg (stops c rfl), List.append_nil]

theorem append_inj_front (inside : ∀ c ∈ first, p c) (within : ∀ c ∈ second, p c) (stops : ∀ c ∈ rest.head?, ¬ p c)
    (ends : ∀ c ∈ others.head?, ¬ p c) (same : first ++ rest = second ++ others) : first = second ∧ rest = others := by
  have fronts := congrArg (List.takeWhile p) same
  rw [takeWhile_append inside stops, takeWhile_append within ends] at fronts
  subst fronts
  exact ⟨rfl, List.append_cancel_left same⟩

private theorem ne_of_mem {c : Char} (absent : separator ∉ first) (member : c ∈ first) : (c != separator) = true := by
  rw [bne_iff_ne]
  intro same
  exact absent (same ▸ member)

theorem takeWhile_first (absent : separator ∉ first) : (first ++ separator :: rest).takeWhile (· != separator) = first :=
  takeWhile_append (fun _ => ne_of_mem absent) (by simp)

theorem takeWhile_first_of_not_mem (absent : separator ∉ first) : first.takeWhile (· != separator) = first :=
  List.takeWhile_eq_self_iff.mpr fun _ => ne_of_mem absent

theorem dropWhile_first (absent : separator ∉ first) :
    (first ++ separator :: rest).dropWhile (· != separator) = separator :: rest := by
  rw [List.dropWhile_append_of_pos fun _ => ne_of_mem absent]
  simp

theorem dropWhile_first_of_not_mem (absent : separator ∉ first) : first.dropWhile (· != separator) = [] :=
  List.dropWhile_eq_nil_iff.mpr fun _ => ne_of_mem absent

/-- Two parts without the separator end where it first stands. -/
theorem append_inj_first (absent : separator ∉ first) (missing : separator ∉ second)
    (same : first ++ separator :: rest = second ++ separator :: others) : first = second ∧ rest = others := by
  have stops (rest : List Char) : ∀ c ∈ (separator :: rest).head?, ¬ (c != separator) = true := by simp
  obtain ⟨fronts, behind⟩ := append_inj_front (fun _ => ne_of_mem absent) (fun _ => ne_of_mem missing)
    (stops rest) (stops others) same
  exact ⟨fronts, (List.cons.inj behind).2⟩

/-- Two parts without the separator begin behind the last one. -/
theorem append_inj_last (absent : separator ∉ rest) (missing : separator ∉ others)
    (same : first ++ separator :: rest = second ++ separator :: others) : first = second ∧ rest = others := by
  have mirrored := congrArg List.reverse same
  simp only [List.reverse_append, List.reverse_cons, List.append_assoc, List.singleton_append] at mirrored
  obtain ⟨backs, fronts⟩ := append_inj_first (mt List.mem_reverse.mp absent) (mt List.mem_reverse.mp missing) mirrored
  exact ⟨List.reverse_inj.mp fronts, List.reverse_inj.mp backs⟩

theorem blank_not_mem (c : Char) (blank : isBlank c = true) (filled : ∀ c ∈ first, isBlank c = false) : c ∉ first := by
  intro member
  rw [filled c member] at blank
  cases blank

theorem not_mem_number {c : Char} (other : c.isDigit = false) (number : Nat) : c ∉ (toString number).toList := by
  rw [Nat.toString_eq_ofList_toDigits, String.toList_ofList]
  intro member
  have digit := Nat.isDigit_of_mem_toDigits (by decide) (by decide) member
  rw [other] at digit
  contradiction

/-- Nothing follows, or a space does. -/
def EndsWord (rest : List Char) : Prop :=
  ∀ c ∈ rest.head?, c = ' '

/-- A word ends at the first space. -/
theorem append_inj_word (absent : ' ' ∉ first) (missing : ' ' ∉ second) (stops : EndsWord rest) (ends : EndsWord others)
    (same : first ++ rest = second ++ others) : first = second ∧ rest = others := by
  have stopped {rest : List Char} (stops : EndsWord rest) : ∀ c ∈ rest.head?, ¬ (c != ' ') = true := by
    intro c first
    rw [stops c first]
    decide
  exact append_inj_front (fun _ => ne_of_mem absent) (fun _ => ne_of_mem missing) (stopped stops) (stopped ends) same

theorem toList_join_cons (separator text : String) (texts : List String) :
    (join separator (text :: texts)).toList =
      text.toList ++ if texts = [] then [] else separator.toList ++ (join separator texts).toList := by
  cases texts with
  | nil => simp [join]
  | cons next texts => simp [join]

theorem join_cons_cons (separator text next : String) (texts : List String) :
    join separator (text :: next :: texts) = text ++ separator ++ join separator (next :: texts) :=
  rfl

theorem toList_join (separator : String) (texts : List String) :
    (join separator texts).toList = separator.toList.intercalate (texts.map String.toList) := by
  induction texts with
  | nil => rfl
  | cons text texts ih =>
    cases texts with
    | nil => simp [join]
    | cons next texts =>
      rw [join_cons_cons, String.toList_append, String.toList_append, ih]
      exact List.intercalate_cons_cons.symm

theorem join_append {separator : String} {texts others : List String} (some : texts ≠ []) (more : others ≠ []) :
    join separator (texts ++ others) = join separator texts ++ separator ++ join separator others := by
  induction texts with
  | nil => exact absurd rfl some
  | cons text texts ih =>
    cases texts with
    | nil =>
      obtain ⟨next, others, rfl⟩ := List.exists_cons_of_ne_nil more
      exact join_cons_cons separator text next others
    | cons next texts =>
      have joined : join separator (text :: next :: texts ++ others) =
          text ++ separator ++ join separator (next :: texts ++ others) := join_cons_cons separator text next _
      rw [joined, ih (List.cons_ne_nil next texts), join_cons_cons]
      simp only [String.append_assoc]

end Linkage.Text
