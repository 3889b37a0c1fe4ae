import Mathlib.Data.List.TakeDrop
import Linkage.Version

/-! Versions are totally preordered, whatever the number of their components. Numbers of different length compare as
if the shorter were filled up with zeros, so any common length gives the same answer as the recursion. Of qualifiers it
only matters that all are lower-cased the same way. -/

namespace Linkage.Version

private theorem compareNumbers_unfold (a b : List Nat) :
    compareNumbers a b = (Ord.compare (a.headD 0) (b.headD 0)).then (compareNumbers a.tail b.tail) := by
  cases a with
  | cons number rest => rfl
  | nil =>
    cases b with
    | nil => rfl
    | cons number rest =>
      cases number with
      | zero => simp [compareNumbers]
      | succ number =>
        have smaller : Ord.compare 0 (number + 1) = .lt := Nat.compare_eq_lt.mpr (Nat.succ_pos number)
        simp [compareNumbers, smaller]

/-- The comparison is the lexicographic one of the numbers filled up with zeros to a common length. -/
theorem compareNumbers_eq_padded (length : Nat) {a b : List Nat} (first : a.length ≤ length)
    (second : b.length ≤ length) :
    compareNumbers a b = List.compareLex Ord.compare (a.takeD length 0) (b.takeD length 0) := by
  induction length generalizing a b with
  | zero =>
    obtain rfl := List.eq_nil_of_length_eq_zero (Nat.le_zero.mp first)
    obtain rfl := List.eq_nil_of_length_eq_zero (Nat.le_zero.mp second)
    rfl
  | succ length ih =>
    have rest := @ih a.tail b.tail (by simp; omega) (by simp; omega)
    rw [compareNumbers_unfold, rest]
    simp only [List.takeD, List.compareLex_cons_cons]

instance : Std.TransCmp compareNumbers where
  eq_swap {a b} := by
    have first := Nat.le_max_left a.length b.length
    have second := Nat.le_max_right a.length b.length
    rw [compareNumbers_eq_padded _ first second, compareNumbers_eq_padded _ second first]
    exact Std.OrientedCmp.eq_swap
  isLE_trans {a b c} lower upper := by
    let length := a.length + b.length + c.length
    have first : a.length ≤ length := by omega
    have second : b.length ≤ length := by omega
    have third : c.length ≤ length := by omega
    rw [compareNumbers_eq_padded length first second] at lower
    rw [compareNumbers_eq_padded length second third] at upper
    rw [compareNumbers_eq_padded length first third]
    exact Std.TransCmp.isLE_trans lower upper

instance : Std.TransCmp comparePreReleases where
  eq_swap {a b} := by
    cases a <;> cases b <;> try rfl
    exact Std.OrientedOrd.eq_swap
  isLE_trans {a b c} lower upper := by
    cases a <;> cases b <;> cases c <;> simp only [comparePreReleases] at *
    all_goals first | exact Std.TransOrd.isLE_trans lower upper | contradiction | rfl

section
variable (lower : String → String)

/-- The qualifier of a version that precedes its release, lower-cased in some way. -/
def wordBy (version : Version) : Option String :=
  version.qualifier.bind fun qualifier =>
    let word := lower qualifier
    if word ∈ releaseWords then none else some word

/-- The comparison of versions whose qualifiers are lower-cased in some way. -/
def compareBy (a b : Version) : Ordering :=
  (compareNumbers a.numbers b.numbers).then (comparePreReleases (a.wordBy lower) (b.wordBy lower))

instance : Std.TransCmp (compareBy lower) where
  eq_swap {a b} := by
    rw [compareBy, compareBy, Ordering.swap_then, ← Std.OrientedCmp.eq_swap, ← Std.OrientedCmp.eq_swap]
  isLE_trans {a b c} lower upper := by
    simp only [compareBy, Ordering.isLE_then_iff_and] at *
    refine ⟨Std.TransCmp.isLE_trans lower.1 upper.1, ?_⟩
    rcases lower.2 with strict | words
    · exact .inl (Std.TransCmp.lt_of_lt_of_isLE strict upper.1)
    · rcases upper.2 with strict | others
      · exact .inl (Std.TransCmp.lt_of_isLE_of_lt lower.1 strict)
      · exact .inr (Std.TransCmp.isLE_trans words others)

end

theorem compareBy_lowercase : compareBy Text.lowercase = Version.compare :=
  rfl

instance : Std.TransCmp Version.compare :=
  inferInstanceAs (Std.TransCmp (compareBy Text.lowercase))

@[simp]
theorem same_iff {a b : Version} : a.same b = true ↔ a.compare b = .eq := by
  simp [same]

@[simp]
theorem below_iff {a b : Version} : a.below b = true ↔ a.compare b = .lt := by
  simp [below]

end Linkage.Version
