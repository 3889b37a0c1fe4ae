import Mathlib.Data.List.Forall2
import Linkage.Verifier
import Linkage.Proofs.RangeMembership
import Linkage.Proofs.VersionIdentity

/-! Data that differ only in how versions are written. Equality of coordinates, ranges and rules looks through the
spelling of the versions in them, and so does that of verdicts and reports. What depends on the order of versions alone
cannot tell such data apart. -/

namespace Linkage

namespace Version
variable {a b c d : Version}

theorem same_iff_identity : a.same b ↔ a.identity = b.identity := by
  rw [same_iff, ← compareBy_lowercase, compareBy_eq_iff, identityBy_lowercase]

theorem same_symm (equal : a.same b) : b.same a := by
  rw [same_iff_identity] at equal ⊢
  exact equal.symm

theorem same_trans (first : a.same b) (second : b.same c) : a.same c := by
  rw [same_iff_identity] at first second ⊢
  exact first.trans second

/-- Equal versions stand in the same place of the order. -/
theorem compare_congr (left : a.same b) (right : c.same d) : a.compare c = b.compare d := by
  rw [same_iff] at left right
  exact (Std.TransCmp.congr_left left).trans (Std.TransCmp.congr_right right)

theorem below_congr (left : a.same b) (right : c.same d) : a.below c = b.below d := by
  rw [below, below, compare_congr left right]

theorem same_congr (left : a.same b) (right : c.same d) : a.same c = b.same d := by
  rw [same, same, compare_congr left right]

theorem holds_congr {known others : List Version} (listed : List.Forall₂ (fun a b => same a b) known others) :
    Ascending.Holds Version.compare known a ↔ Ascending.Holds Version.compare others a := by
  induction listed with
  | nil => rfl
  | cons first _ ih => rw [Ascending.holds_cons, Ascending.holds_cons, ih, compare_congr first (same_self a)]

end Version

theorem Coordinate.same_iff {a b : Coordinate} : a.same b ↔ a.key = b.key ∧ a.version.same b.version := by
  simp [Coordinate.same]

theorem Coordinate.same_self (coordinate : Coordinate) : coordinate.same coordinate :=
  Coordinate.same_iff.mpr ⟨rfl, Version.same_self _⟩

theorem Coordinate.same_symm {a b : Coordinate} (equal : a.same b) : b.same a := by
  rw [Coordinate.same_iff] at equal ⊢
  exact ⟨equal.1.symm, Version.same_symm equal.2⟩

namespace VersionRange
variable {range other : VersionRange} {bound? other? : Option Bound} {a b version : Version}

theorem sameBound_iff : sameBound bound? other? ↔
    Option.Rel (fun bound other => bound.inclusive = other.inclusive ∧ bound.version.same other.version) bound? other? := by
  cases bound? <;> cases other? <;> simp [sameBound]

private theorem sameBound_symm (alike : sameBound bound? other?) : sameBound other? bound? := by
  rw [sameBound_iff] at alike ⊢
  cases alike with
  | none => exact .none
  | some bounds => exact .some ⟨bounds.1.symm, Version.same_symm bounds.2⟩

private theorem all_of_sameBound {f g : Bound → Bool} (alike : sameBound bound? other?)
    (agree : ∀ bound other : Bound, bound.inclusive = other.inclusive → bound.version.same other.version →
      f bound = g other) : bound?.all f = other?.all g := by
  rw [sameBound_iff] at alike
  cases alike with
  | none => rfl
  | some bounds => exact agree _ _ bounds.1 bounds.2

theorem same_symm (alike : range.same other) : other.same range := by
  obtain ⟨lower, upper⟩ := Bool.and_eq_true_iff.mp alike
  exact Bool.and_eq_true_iff.mpr ⟨sameBound_symm lower, sameBound_symm upper⟩

/-- Equal ranges hold the same versions, however all of them are written. -/
theorem contains_of_same (alike : range.same other) (equal : a.same b) : range.contains a = other.contains b := by
  obtain ⟨lower, upper⟩ := Bool.and_eq_true_iff.mp alike
  unfold contains
  rw [all_of_sameBound lower, all_of_sameBound upper]
  · intro bound other inclusive versions
    rw [inclusive, Version.below_congr equal versions, Version.below_congr versions equal]
  · intro bound other inclusive versions
    rw [inclusive, Version.below_congr equal versions, Version.below_congr versions equal]

private theorem exists_bound_iff (alike : sameBound bound? other?) :
    (∃ bound ∈ bound?, bound.inclusive ∧ bound.version.compare version = .eq) ↔
      ∃ bound ∈ other?, bound.inclusive ∧ bound.version.compare version = .eq := by
  rw [sameBound_iff] at alike
  cases alike with
  | none => rfl
  | some bounds => simp [bounds.1, Version.compare_congr bounds.2 (Version.same_self version)]

/-- Equal ranges have equal endpoints. -/
theorem holds_inclusiveEndpoints_of_same (alike : range.same other) :
    Ascending.Holds Version.compare range.inclusiveEndpoints version ↔
      Ascending.Holds Version.compare other.inclusiveEndpoints version := by
  obtain ⟨lower, upper⟩ := Bool.and_eq_true_iff.mp alike
  unfold Ascending.Holds
  rw [exists_endpoint_iff, exists_endpoint_iff]
  simp only [or_and_right, exists_or]
  rw [exists_bound_iff lower, exists_bound_iff upper]

end VersionRange

namespace Rule
variable {α : Type u} {rule other : Rule} {a b : Version}

theorem agree_iff {same : α → α → Bool} {xs ys : List α} :
    agree same xs ys ↔ List.Forall₂ (fun x y => same x y) xs ys := by
  induction xs generalizing ys with
  | nil => cases ys <;> simp [agree]
  | cons x xs ih => cases ys <;> simp [agree, ih]

/-- What equal rules have in common, with the spelling of versions left out. -/
structure Alike (rule other : Rule) : Prop where
  name : rule.name = other.name
  key : rule.key = other.key
  versions : rule.versions.same other.versions
  extraDependencies : List.Forall₂ (fun a b => Coordinate.same a b) rule.extraDependencies other.extraDependencies
  excludedDependencies : rule.excludedDependencies = other.excludedDependencies
  expectation : rule.expectation = other.expectation
  assertInverse : rule.assertInverse = other.assertInverse
  skipVersions : List.Forall₂ (fun a b => Version.same a b) rule.skipVersions other.skipVersions

theorem same_iff : rule.same other ↔ rule.Alike other := by
  simp only [same, Bool.and_eq_true, decide_eq_true_eq, agree_iff]
  constructor
  · rintro ⟨⟨⟨⟨⟨⟨⟨name, key⟩, versions⟩, extras⟩, excluded⟩, expectation⟩, inverse⟩, skips⟩
    exact ⟨name, key, versions, extras, excluded, expectation, inverse, skips⟩
  · intro alike
    exact ⟨⟨⟨⟨⟨⟨⟨alike.name, alike.key⟩, alike.versions⟩, alike.extraDependencies⟩, alike.excludedDependencies⟩,
      alike.expectation⟩, alike.assertInverse⟩, alike.skipVersions⟩

theorem alike_self (rule : Rule) : rule.Alike rule where
  name := rfl
  key := rfl
  versions := VersionRange.same_self _
  extraDependencies := List.forall₂_same.mpr fun extra _ => Coordinate.same_self extra
  excludedDependencies := rfl
  expectation := rfl
  assertInverse := rfl
  skipVersions := List.forall₂_same.mpr fun version _ => Version.same_self version

theorem Alike.symm (alike : rule.Alike other) : other.Alike rule where
  name := alike.name.symm
  key := alike.key.symm
  versions := VersionRange.same_symm alike.versions
  extraDependencies := (alike.extraDependencies.imp fun _ _ => Coordinate.same_symm).flip
  excludedDependencies := alike.excludedDependencies.symm
  expectation := alike.expectation.symm
  assertInverse := alike.assertInverse.symm
  skipVersions := (alike.skipVersions.imp fun _ _ => Version.same_symm).flip

theorem Alike.label (alike : rule.Alike other) : rule.label = other.label := by
  rw [Rule.label, Rule.label, alike.name, alike.key]

theorem Alike.skips (alike : rule.Alike other) (equal : a.same b) : rule.skips a = other.skips b := by
  have listed := alike.skipVersions
  unfold Rule.skips
  generalize rule.skipVersions = skipped at listed ⊢
  generalize other.skipVersions = others at listed ⊢
  induction listed with
  | nil => rfl
  | cons first rest ih => rw [List.any_cons, List.any_cons, ih, Version.same_congr first equal]

end Rule

/-- Equality of reasons up to the spelling of versions. -/
def SkipReason.same : SkipReason → SkipReason → Bool
  | outOfRange range, outOfRange other => range.same other
  | reason, other => reason = other

def Outcome.same : Outcome → Outcome → Bool
  | skipped reason, skipped other => reason.same other
  | outcome, other => outcome = other

/-- Equality of verdicts up to the spelling of versions. -/
def Verdict.same (a b : Verdict) : Bool :=
  a.rule = b.rule && a.label = b.label && a.key = b.key && Verifier.compareVersions a.version b.version = .eq &&
    a.expectation = b.expectation && a.outcome.same b.outcome

/-- Equality of reports, verdict by verdict. -/
def Report.same (a b : Report) : Bool :=
  Rule.agree Verdict.same a.verdicts b.verdicts

end Linkage
