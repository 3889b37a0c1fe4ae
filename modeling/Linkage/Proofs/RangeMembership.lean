import Linkage.VersionRange
import Linkage.Proofs.AscendingLists
import Linkage.Proofs.VersionOrder

/-! Which versions a range holds depends on their order alone, not on how they are written. A range has versions between
its ends, so a bound that belongs to it lies within the other bound as well. -/

namespace Linkage.VersionRange
variable {range : VersionRange} {version a b : Version} {lower upper : Bound}

theorem sameBound_self (bound? : Option Bound) : sameBound bound? bound? := by
  cases bound? with
  | none => rfl
  | some bound => simp [sameBound, Version.same, Version.compare_self]

theorem same_self (range : VersionRange) : range.same range := by
  simp [same, sameBound_self]

/-- The version is on the inner side of both bounds, or equal to one that belongs to the range. -/
def Admits (range : VersionRange) (version : Version) : Prop :=
  (∀ bound ∈ range.lower, bound.version.compare version = .lt ∨
    bound.inclusive ∧ bound.version.compare version = .eq) ∧
  ∀ bound ∈ range.upper, version.compare bound.version = .lt ∨
    bound.inclusive ∧ version.compare bound.version = .eq

private theorem not_below_iff : b.below a = false ↔ a.compare b = .lt ∨ a.compare b = .eq := by
  have swapped := @Std.OrientedCmp.eq_swap _ Version.compare _ b a
  cases order : a.compare b <;> simp [Version.below, swapped, order]

theorem contains_iff_admits : range.contains version ↔ range.Admits version := by
  simp only [contains, Admits, Bool.and_eq_true, Option.all_eq_true, Option.mem_def]
  refine and_congr (forall_congr' fun bound => imp_congr_right fun _ => ?_)
    (forall_congr' fun bound => imp_congr_right fun _ => ?_)
  all_goals cases bound.inclusive <;> simp [not_below_iff]

instance : DecidablePred range.Admits := fun _ => decidable_of_iff _ contains_iff_admits

theorem contains_congr (same : a.compare b = .eq) : range.contains a = range.contains b := by
  have left := fun bound : Version => @Std.TransCmp.congr_left _ Version.compare _ a b bound same
  have right := fun bound : Version => @Std.TransCmp.congr_right _ Version.compare _ bound a b same
  simp only [contains, Version.below, left, right]

theorem lower_isLE_upper (first : range.lower = some lower) (second : range.upper = some upper) :
    lower.version.compare upper.version = .lt ∨
      lower.version.compare upper.version = .eq ∧ lower.inclusive ∧ upper.inclusive := by
  have sound := range.isInterval
  rw [first, second, fault?] at sound
  cases order : lower.version.compare upper.version <;> simp_all

/-- The version of a bound, if the bound belongs to the range. -/
private theorem endpoint_iff {bound? : Option Bound} :
    (bound?.filter (·.inclusive)).map (·.version) = some version ↔
      ∃ bound, bound? = some bound ∧ bound.inclusive ∧ bound.version = version := by
  simp [Option.filter_eq_some_iff, and_assoc]

theorem mem_inclusiveEndpoints (member : version ∈ range.inclusiveEndpoints) :
    (∃ bound, range.lower = some bound ∧ bound.inclusive ∧ bound.version = version) ∨
      ∃ bound, range.upper = some bound ∧ bound.inclusive ∧ bound.version = version := by
  rw [← endpoint_iff, ← endpoint_iff]
  simp only [inclusiveEndpoints] at member
  split at member
  next first second =>
    rw [first, second]
    split at member
    · exact .inl (congrArg some (List.mem_singleton.mp member).symm)
    · simpa [eq_comm] using member
  next => simpa only [List.mem_append, Option.mem_toList, Option.mem_def] using member

/-- A bound that belongs to a range is held by it. -/
theorem admits_of_mem_inclusiveEndpoints (member : version ∈ range.inclusiveEndpoints) : range.Admits version := by
  rcases mem_inclusiveEndpoints member with ⟨lower, first, inclusive, rfl⟩ | ⟨upper, second, inclusive, rfl⟩
  · refine ⟨fun bound held => ?_, fun bound held => ?_⟩
    · obtain rfl : lower = bound := Option.some.inj (first.symm.trans held)
      exact .inr ⟨inclusive, Version.compare_self _⟩
    · exact (lower_isLE_upper first held).imp_right fun same => ⟨same.2.2, same.1⟩
  · refine ⟨fun bound held => ?_, fun bound held => ?_⟩
    · exact (lower_isLE_upper held second).imp_right fun same => ⟨same.2.1, same.1⟩
    · obtain rfl : upper = bound := Option.some.inj (second.symm.trans held)
      exact .inr ⟨inclusive, Version.compare_self _⟩

/-- The endpoints of a range are the bounds that belong to it; one stands for both if they are equal. -/
theorem exists_endpoint_iff : (∃ endpoint ∈ range.inclusiveEndpoints, endpoint.compare version = .eq) ↔
    ∃ bound, (bound ∈ range.lower ∨ bound ∈ range.upper) ∧ bound.inclusive ∧ bound.version.compare version = .eq := by
  constructor
  · rintro ⟨endpoint, member, same⟩
    rcases mem_inclusiveEndpoints member with ⟨bound, held, inclusive, rfl⟩ | ⟨bound, held, inclusive, rfl⟩
    · exact ⟨bound, .inl held, inclusive, same⟩
    · exact ⟨bound, .inr held, inclusive, same⟩
  · rintro ⟨bound, held | held, inclusive, same⟩
    · have first := endpoint_iff.mpr ⟨bound, held, inclusive, rfl⟩
      refine ⟨bound.version, ?_, same⟩
      simp only [inclusiveEndpoints, first]
      cases (range.upper.filter (·.inclusive)).map (·.version) with
      | none => simp
      | some upper =>
        simp only
        split <;> simp
    · have second := endpoint_iff.mpr ⟨bound, held, inclusive, rfl⟩
      simp only [inclusiveEndpoints, second]
      cases (range.lower.filter (·.inclusive)).map (·.version) with
      | none => exact ⟨bound.version, by simp, same⟩
      | some lower =>
        cases equal : lower.same bound.version with
        | true => exact ⟨lower, by simp [equal], Std.TransCmp.eq_trans (Version.same_iff.mp equal) same⟩
        | false => exact ⟨bound.version, by simp [equal], same⟩

theorem inclusiveEndpoints_strict (range : VersionRange) :
    Ascending.Strict Version.compare range.inclusiveEndpoints := by
  simp only [inclusiveEndpoints]
  split
  next first second =>
    obtain ⟨lower, low, -, rfl⟩ := endpoint_iff.mp first
    obtain ⟨upper, high, -, rfl⟩ := endpoint_iff.mp second
    split
    · exact List.pairwise_singleton _ _
    next different =>
      rw [Version.same_iff] at different
      exact List.pairwise_pair.mpr ((lower_isLE_upper low high).resolve_right fun same => different same.1)
  next single =>
    cases first : (range.lower.filter (·.inclusive)).map (·.version) with
    | none => cases (range.upper.filter (·.inclusive)).map (·.version) <;> simp [Ascending.Strict]
    | some lower =>
      cases second : (range.upper.filter (·.inclusive)).map (·.version) with
      | none => simp [Ascending.Strict]
      | some upper => exact absurd second (single lower upper first)

end Linkage.VersionRange
