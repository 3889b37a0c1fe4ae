import Linkage.Proofs.VersionOrder

/-! Three things tell whether versions are equal: the comparison, equality, and the identity that is hashed. They
agree, for numbers of any length and whatever the qualifiers are. Nothing here depends on how a qualifier is
lower-cased, only on all qualifiers being lower-cased the same way. -/

namespace Linkage.Version
variable {a b : Version} {numbers others : List Nat} {number : Nat}

/-- The numbers up to the last one that is not zero. -/
def significant (numbers : List Nat) : List Nat :=
  (numbers.reverse.dropWhile (· = 0)).reverse

@[simp]
theorem significant_nil : significant [] = [] :=
  rfl

/-- A number counts, unless it is zero and nothing behind it counts. -/
theorem significant_cons (number : Nat) (numbers : List Nat) :
    significant (number :: numbers) =
      if number = 0 ∧ significant numbers = [] then [] else number :: significant numbers := by
  simp only [significant, List.reverse_cons, List.dropWhile_append, List.isEmpty_iff, List.reverse_eq_nil_iff]
  by_cases zeros : numbers.reverse.dropWhile (· = 0) = []
  · by_cases zero : number = 0
    · simp [zeros, zero]
    · simp [zeros, zero]
  · simp [zeros]

theorem significant_eq_nil_iff : significant numbers = [] ↔ ∀ number ∈ numbers, number = 0 := by
  induction numbers with
  | nil => simp
  | cons number rest ih => simp [significant_cons, ih]

theorem significant_cons_eq_iff {other : Nat} : significant (number :: numbers) = significant (other :: others) ↔
    number = other ∧ significant numbers = significant others := by
  constructor
  · intro same
    simp only [significant_cons] at same
    split at same
    next first =>
      split at same
      next second => exact ⟨first.1.trans second.1.symm, first.2.trans second.2.symm⟩
      next => contradiction
    next =>
      split at same
      next => contradiction
      next => exact List.cons.inj same
  · rintro ⟨rfl, same⟩
    rw [significant_cons, significant_cons, same]

/-- Numbers compare as equal if they differ by zeros at the end at most. The induction is along the first list, as the
comparison is; where the second has come to its end, the rest of the first has to be zeros. -/
theorem compareNumbers_eq_iff : compareNumbers numbers others = .eq ↔ significant numbers = significant others := by
  induction numbers generalizing others with
  | nil =>
    rw [significant_nil, @eq_comm _ [], significant_eq_nil_iff]
    simp [compareNumbers]
  | cons number rest ih =>
    rw [compareNumbers, Ordering.then_eq_eq, ih, Std.LawfulEqOrd.compare_eq_iff_eq]
    cases others with
    | nil =>
      have ended : significant (number :: rest) = [] ↔ number = 0 ∧ significant rest = [] := by
        simp [significant_eq_nil_iff]
      exact ended.symm
    | cons other others => exact significant_cons_eq_iff.symm

theorem comparePreReleases_eq_iff {word other : Option String} :
    comparePreReleases word other = .eq ↔ word = other := by
  cases word <;> cases other <;> simp [comparePreReleases]

section
variable (lower : String → String)

/-- What is hashed, if qualifiers are lower-cased in some way. -/
def identityBy (version : Version) : List Nat × Option String :=
  (significant version.numbers, version.wordBy lower)

theorem identityBy_lowercase : identityBy Text.lowercase = identity :=
  rfl

theorem compareBy_eq_iff : compareBy lower a b = .eq ↔ identityBy lower a = identityBy lower b := by
  rw [compareBy, Ordering.then_eq_eq, compareNumbers_eq_iff, comparePreReleases_eq_iff, identityBy, identityBy,
    Prod.mk.injEq]

end

theorem same_self (version : Version) : version.same version := by
  rw [same_iff, compare_self]

theorem preRelease?_eq_of_same (equal : a.same b) : a.preRelease? = b.preRelease? := by
  rw [same_iff, ← compareBy_lowercase, compareBy_eq_iff, identityBy_lowercase] at equal
  exact (Prod.mk.inj equal).2

/-- A comparison that is a total preorder, and an identity that versions share just if they compare as equal. -/
structure Preorders {ι : Type u} (order : Version → Version → Ordering) (identity : Version → ι) : Prop where
  refl : ∀ a, order a a = .eq
  swap : ∀ a b, order b a = (order a b).swap
  trans : ∀ a b c, (order a b).isLE → (order b c).isLE → (order a c).isLE
  strict : ∀ a b c, (order a b).isLE → (order b c).isLE → order a b = .lt ∨ order b c = .lt → order a c = .lt
  identifies : ∀ a b, order a b = .eq ↔ identity a = identity b

theorem compareBy_preorders (lower : String → String) : Preorders (compareBy lower) (identityBy lower) where
  refl _ := Std.ReflCmp.compare_self
  swap _ _ := Std.OrientedCmp.eq_swap
  trans _ _ _ := Std.TransCmp.isLE_trans
  strict a b c below above strictly := by
    rcases strictly with strictly | strictly
    · exact Std.TransCmp.lt_of_lt_of_isLE strictly above
    · exact Std.TransCmp.lt_of_isLE_of_lt below strictly
  identifies _ _ := compareBy_eq_iff lower

/-- Versions are totally preordered; those that compare as equal, those that are the same, and those with one identity
are the same pairs. This holds for every way of lower-casing as well as for the one in use. -/
theorem compare_preorders : Preorders Version.compare identity ∧
    (∀ a b : Version, a.same b ↔ a.identity = b.identity) ∧
    ∀ lower : String → String, Preorders (compareBy lower) (identityBy lower) := by
  have used := compareBy_preorders Text.lowercase
  rw [compareBy_lowercase, identityBy_lowercase] at used
  refine ⟨used, fun a b => ?_, compareBy_preorders⟩
  rw [same_iff]
  exact used.identifies a b

end Linkage.Version
