import Linkage.Proofs.EvaluationSpelling
import Linkage.Proofs.RuleEvaluation

/-! The samples of a rule share out the known versions: each is sampled in the range or outside of it, or it is outside
and skipped. Of equal versions one stands for all. In the range it is an endpoint if one of them is, and else the version
that is known first; outside it is the one that is known last. -/

namespace Linkage.Rule
open Ascending
variable {rule : Rule} {known : List Version} {version : Version}

/-- The rule lists an equal version among those to pass over. -/
def PassesOver (rule : Rule) (version : Version) : Prop :=
  Holds Version.compare rule.skipVersions version

/-- The inner versions are sampled in the range, and the outer ones outside of it. -/
structure Partition (rule : Rule) (known inner outer : List Version) : Prop where
  ascending : Strict Version.compare inner ∧ Strict Version.compare outer
  inside : ∀ version, Holds Version.compare inner version ↔
    Holds Version.compare rule.versions.inclusiveEndpoints version ∨
      rule.versions.Admits version ∧ Holds Version.compare known version
  insideSpelling : ∀ version, version ∈ inner ↔ version ∈ rule.versions.inclusiveEndpoints ∨
    ¬ Holds Version.compare rule.versions.inclusiveEndpoints version ∧
      rule.versions.Admits version ∧ First Version.compare known version
  outside : ∀ version, Holds Version.compare outer version ↔
    (¬ rule.versions.Admits version ∧ ¬ rule.PassesOver version) ∧ Holds Version.compare known version
  outsideSpelling : ∀ version, version ∈ outer ↔
    (¬ rule.versions.Admits version ∧ ¬ rule.PassesOver version) ∧ Last Version.compare known version
  apart : ∀ version, ¬ (Holds Version.compare inner version ∧ Holds Version.compare outer version)
  covering : ∀ version ∈ known, Holds Version.compare inner version ∨ Holds Version.compare outer version ∨
    ¬ rule.versions.Admits version ∧ rule.PassesOver version

theorem sampledOutside_iff : (!rule.versions.contains version && !rule.skips version) ↔
    ¬ rule.versions.Admits version ∧ ¬ rule.PassesOver version := by
  rw [Bool.and_eq_true, Bool.not_eq_true', Bool.not_eq_true', ← Bool.not_eq_true, ← Bool.not_eq_true,
    VersionRange.contains_iff_admits, Verifier.skips_iff]
  rfl

theorem admits_of_holds_endpoints (held : Holds Version.compare rule.versions.inclusiveEndpoints version) :
    rule.versions.Admits version := by
  obtain ⟨endpoint, member, equal⟩ := held
  have inside := VersionRange.contains_iff_admits.mpr (VersionRange.admits_of_mem_inclusiveEndpoints member)
  rw [VersionRange.contains_congr equal] at inside
  exact VersionRange.contains_iff_admits.mp inside

theorem mem_samplesInRange_iff : version ∈ rule.samplesInRange known ↔ version ∈ rule.versions.inclusiveEndpoints ∨
    ¬ Holds Version.compare rule.versions.inclusiveEndpoints version ∧
      rule.versions.Admits version ∧ First Version.compare known version := by
  rw [samplesInRange, mem_foldl_insert_iff _ rule.versions.inclusiveEndpoints_strict, first_filter,
    VersionRange.contains_iff_admits]
  intro sample equal
  exact VersionRange.contains_congr equal

theorem mem_samplesOutside_iff : version ∈ rule.samplesOutside known ↔
    (¬ rule.versions.Admits version ∧ ¬ rule.PassesOver version) ∧ Last Version.compare known version := by
  rw [samplesOutside, mem_ofListLast_iff, last_filter, sampledOutside_iff]
  intro sample equal
  exact sampledOutside_congr equal

theorem samples_partition (rule : Rule) (known : List Version) :
    Partition rule known (rule.samplesInRange known) (rule.samplesOutside known) := by
  have inside : ∀ version, Holds Version.compare (rule.samplesInRange known) version ↔
      Holds Version.compare rule.versions.inclusiveEndpoints version ∨
        rule.versions.Admits version ∧ Holds Version.compare known version := by
    intro version
    rw [holds_samplesInRange, VersionRange.contains_iff_admits, or_comm]
  have outside : ∀ version, Holds Version.compare (rule.samplesOutside known) version ↔
      (¬ rule.versions.Admits version ∧ ¬ rule.PassesOver version) ∧ Holds Version.compare known version := by
    intro version
    rw [holds_samplesOutside, sampledOutside_iff]
  refine ⟨⟨samplesInRange_strict, samplesOutside_strict⟩, inside, fun _ => mem_samplesInRange_iff, outside,
    fun _ => mem_samplesOutside_iff, ?_, ?_⟩
  · intro version
    rw [inside, outside]
    rintro ⟨endpoint | ⟨admits, -⟩, ⟨refused, -⟩, -⟩
    · exact refused (admits_of_holds_endpoints endpoint)
    · exact refused admits
  · intro version member
    have held : Holds Version.compare known version := ⟨version, member, Version.compare_self version⟩
    rw [inside, outside]
    by_cases admits : rule.versions.Admits version
    · exact .inl (.inr ⟨admits, held⟩)
    · by_cases passed : rule.PassesOver version
      · exact .inr (.inr ⟨admits, passed⟩)
      · exact .inr (.inl ⟨⟨admits, passed⟩, held⟩)

end Linkage.Rule
