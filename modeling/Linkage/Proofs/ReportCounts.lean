import Mathlib.Data.List.Forall2
import Linkage.Diagnostic.Json
import Linkage.Proofs.VerdictShape

/-! What a report tells about verdicts, and how often. Violations become errors and skipped samples become hints, verdict
by verdict. A failure that a verifier gives has violations, so there are errors just if something failed. -/

namespace Linkage

theorem Verdict.WellShaped.failure_iff {verdict : Verdict} (shaped : verdict.WellShaped) :
    verdict.isFailure ↔ verdict.violations ≠ [] := by
  constructor
  · intro failure
    obtain ⟨found, failed⟩ := isFailure_iff.mp failure
    rw [violations_of_failed failed]
    cases expected : verdict.expectation with
    | pass => exact (shaped.broken found failed expected).1
    | fail =>
      rw [shaped.unexpected found failed expected]
      exact List.cons_ne_nil _ _
  · intro nonempty
    by_contra other
    exact nonempty (violations_of_not_isFailure other)

namespace Diagnostic
variable {verdicts : List Verdict}

/-- The diagnostics that stand for a verdict. -/
structure Tells (verdict : Verdict) (told : List Diagnostic) : Prop where
  about : ∀ diagnostic ∈ told, diagnostic.rule = some verdict.label ∧ diagnostic.module = some verdict.key.text ∧
    diagnostic.version = verdict.version.map (·.text)
  messages : (told.filter (·.severity = .error)).map (·.message) = verdict.violations.map (·.text)
  hints : count .hint told = if verdict.isSkipped then 1 else 0
  warnings : count .warning told = 0

theorem severity_ofViolation (violation : Violation) : (ofViolation violation).severity = .error :=
  rfl

theorem severity_ofSkip (reason : SkipReason) : (ofSkip reason).severity = .hint :=
  rfl

theorem tells_ofVerdict (verdict : Verdict) : Tells verdict (ofVerdict verdict) := by
  unfold ofVerdict
  cases outcome : verdict.outcome with
  | passed => constructor <;> simp [count, Verdict.violations, Verdict.isSkipped, outcome]
  | skipped reason =>
    constructor <;> simp [about, count, severity_ofSkip, Verdict.violations, Verdict.isSkipped, outcome]
  | failed found =>
    constructor
    · intro diagnostic member
      obtain ⟨violation, -, rfl⟩ := List.mem_map.mp member
      exact ⟨rfl, rfl, rfl⟩
    · have errors : ∀ diagnostic ∈ found.map fun violation => (ofViolation violation).about verdict,
          diagnostic.severity = .error := by
        intro diagnostic member
        obtain ⟨violation, -, rfl⟩ := List.mem_map.mp member
        rfl
      rw [List.filter_eq_self.mpr fun diagnostic member => decide_eq_true (errors diagnostic member), List.map_map,
        Verdict.violations_of_failed outcome]
      rfl
    · simp [count, about, severity_ofViolation, Verdict.isSkipped, outcome, List.countP_map, Function.comp_def]
    · simp [count, about, severity_ofViolation, List.countP_map, Function.comp_def]

theorem Tells.errors {verdict : Verdict} {told : List Diagnostic} (tells : Tells verdict told) :
    count .error told = verdict.violations.length := by
  rw [count, List.countP_eq_length_filter, ← List.length_map (·.message), tells.messages, List.length_map]

theorem count_ofVerdicts_cons (severity : Severity) (verdict : Verdict) (rest : List Verdict) :
    count severity (ofVerdicts (verdict :: rest)) = count severity (ofVerdict verdict) + count severity (ofVerdicts rest) :=
  List.countP_append

/-- What a list of diagnostics has to do with verdicts: their blocks follow each other in the order of the verdicts. -/
structure Reflects (verdicts : List Verdict) (told : List Diagnostic) : Prop where
  blocks : ∃ blocks, List.Forall₂ Tells verdicts blocks ∧ told = blocks.flatten
  errors : count .error told = (verdicts.flatMap (·.violations)).length
  hints : count .hint told = verdicts.countP (·.isSkipped)
  warnings : ∀ diagnostic ∈ told, diagnostic.severity ≠ .warning

theorem reflects_ofVerdicts (verdicts : List Verdict) : Reflects verdicts (ofVerdicts verdicts) := by
  constructor
  · refine ⟨verdicts.map ofVerdict, ?_, List.flatMap_def⟩
    rw [List.forall₂_map_right_iff, List.forall₂_same]
    intro verdict _
    exact tells_ofVerdict verdict
  · induction verdicts with
    | nil => rfl
    | cons verdict rest ih =>
      rw [count_ofVerdicts_cons, (tells_ofVerdict verdict).errors, ih, List.flatMap_cons, List.length_append]
  · induction verdicts with
    | nil => rfl
    | cons verdict rest ih =>
      rw [count_ofVerdicts_cons, (tells_ofVerdict verdict).hints, ih, List.countP_cons, Nat.add_comm]
  · intro diagnostic member warned
    obtain ⟨verdict, -, inside⟩ := List.mem_flatMap.mp member
    have none := List.countP_eq_zero.mp (tells_ofVerdict verdict).warnings diagnostic inside
    exact none (decide_eq_true warned)

theorem errors_pos_iff (shaped : ∀ verdict ∈ verdicts, verdict.WellShaped) :
    0 < count .error (ofVerdicts verdicts) ↔ ∃ verdict ∈ verdicts, verdict.isFailure := by
  rw [(reflects_ofVerdicts verdicts).errors, List.length_pos_iff, ne_eq, List.flatMap_eq_nil_iff, not_forall₂]
  constructor
  · intro ⟨verdict, listed, nonempty⟩
    exact ⟨verdict, listed, (shaped verdict listed).failure_iff.mpr nonempty⟩
  · intro ⟨verdict, listed, failure⟩
    exact ⟨verdict, listed, (shaped verdict listed).failure_iff.mp failure⟩

theorem field?_errors_summaryJson (told : List Diagnostic) (summary : Summary) :
    (summaryJson told summary).field? "errors" = some (.ofNat (count .error told)) := by
  cases fingerprint : summary.fingerprint <;> simp [summaryJson, Json.field?, jsonField, fingerprint]

end Diagnostic

namespace Summary

theorem total_ofVerdicts (verdicts : List Verdict) : (ofVerdicts verdicts).total = verdicts.length := by
  unfold total ofVerdicts Report.passed Report.failed Report.skipped
  induction verdicts with
  | nil => rfl
  | cons verdict rest ih =>
    simp only [List.countP_cons, List.length_cons] at ih ⊢
    unfold Verdict.isPass Verdict.isFailure Verdict.isSkipped at ih ⊢
    cases verdict.outcome <;> simp <;> omega

theorem failed_pos_iff {verdicts : List Verdict} :
    0 < (ofVerdicts verdicts).failed ↔ ∃ verdict ∈ verdicts, verdict.isFailure :=
  List.countP_pos_iff

end Summary
end Linkage
