import Linkage.Proofs.EvaluationSpelling

/-! More candidates, no fewer verdicts. Verdicts of a matrix run stand in strict order, and each of them has its equal
among the verdicts for candidates that hold equal versions and more. Lists in order are aligned without moving anything,
so the smaller report is contained in the larger one as it stands. -/

namespace Linkage

namespace Verdict
variable {a b c d : Verdict}

theorem same_iff : a.same b ↔ a.rule = b.rule ∧ a.label = b.label ∧ a.key = b.key ∧
    Verifier.compareVersions a.version b.version = .eq ∧ a.expectation = b.expectation ∧ a.outcome.same b.outcome := by
  simp [Verdict.same, and_assoc]

theorem isFailure_of_same (equal : a.same b) : a.isFailure = b.isFailure := by
  obtain ⟨-, -, -, -, -, outcomes⟩ := same_iff.mp equal
  unfold isFailure
  generalize a.outcome = outcome at outcomes ⊢
  generalize b.outcome = result at outcomes ⊢
  cases outcome <;> cases result <;> first | rfl | simp [Outcome.same] at outcomes

/-- An earlier rule, or the same rule at a lower version. -/
def Earlier (a b : Verdict) : Prop :=
  a.rule < b.rule ∨ a.rule = b.rule ∧ Verifier.compareVersions a.version b.version = .lt

theorem earlier_of_before (before : Verifier.Before a b) : a.Earlier b := by
  rcases before with lower | ⟨same, lower, upper, first, second, below⟩
  · exact .inl lower
  · refine .inr ⟨same, ?_⟩
    rw [first, second]
    exact below

theorem Earlier.asymm (earlier : a.Earlier b) : ¬ b.Earlier a := by
  intro later
  rcases earlier with lower | ⟨same, below⟩ <;> rcases later with upper | ⟨equal, above⟩
  · exact Nat.lt_asymm lower upper
  · omega
  · omega
  · have swapped := Std.OrientedCmp.gt_of_lt above
    rw [below] at swapped
    contradiction

theorem Earlier.crosses (first : a.same b) (second : c.same d) (earlier : a.Earlier c) : b.Earlier d := by
  obtain ⟨number, -, -, version, -, -⟩ := same_iff.mp first
  obtain ⟨other, -, -, spelling, -, -⟩ := same_iff.mp second
  have moved : Verifier.compareVersions a.version c.version = Verifier.compareVersions b.version d.version :=
    (Std.TransCmp.congr_left version).trans (Std.TransCmp.congr_right spelling)
  unfold Earlier at earlier ⊢
  rwa [number, other, moved] at earlier

end Verdict

namespace Candidates
variable {key : ModuleKey} {version : Version} {calls others : List (ModuleKey × List Version)}

/-- Adds versions of libraries, call by call. -/
def extended (candidates : Candidates) (calls : List (ModuleKey × List Version)) : Candidates :=
  calls.foldl (fun candidates call => candidates.extend call.1 call.2) candidates

/-- Some call adds a version of the library that equals the given one. -/
def Added (calls : List (ModuleKey × List Version)) (key : ModuleKey) (version : Version) : Prop :=
  ∃ call ∈ calls, call.1 = key ∧ Ascending.Holds Version.compare call.2 version

theorem holds_get_extend (candidates : Candidates) (place : ModuleKey) (added : List Version) :
    Ascending.Holds Version.compare ((candidates.extend place added).get key) version ↔
      place = key ∧ Ascending.Holds Version.compare added version ∨
        Ascending.Holds Version.compare (candidates.get key) version := by
  unfold extend get
  rw [ModuleMap.find?_insert]
  split
  next same =>
    subst same
    rw [Option.getD_some, Ascending.holds_foldl_insert, eq_self, true_and]
  next apart => simp [apart]

/-- After any calls, a version is among the candidates if it was there or some call has added it. -/
theorem holds_get_extended (candidates : Candidates) (calls : List (ModuleKey × List Version)) :
    Ascending.Holds Version.compare ((candidates.extended calls).get key) version ↔
      Added calls key version ∨ Ascending.Holds Version.compare (candidates.get key) version := by
  unfold extended Added
  induction calls generalizing candidates with
  | nil => simp
  | cons call rest ih =>
    rw [List.foldl_cons, ih, holds_get_extend]
    rw [List.exists_mem_cons_iff, or_left_comm, or_assoc]

theorem within_extended (start : Candidates) (known : ∀ key version, Added calls key version → Added others key version) :
    (start.extended calls).Within (start.extended others) := by
  intro key version member
  have held : Ascending.Holds Version.compare ((start.extended calls).get key) version :=
    ⟨version, member, Version.compare_self version⟩
  rw [holds_get_extended] at held
  obtain ⟨twin, listed, equal⟩ := (holds_get_extended start others).mpr (held.imp_left (known key version))
  exact ⟨twin, listed, Version.same_symm (Version.same_iff.mpr equal)⟩

end Candidates

namespace Verifier
variable {verifier other : Verifier} {candidates others : Candidates}

theorem matrix_earlier (verifier : Verifier) (candidates : Candidates) :
    (verifier.matrix candidates).verdicts.Pairwise Verdict.Earlier := by
  rw [matrix_verdicts]
  apply pairwise_flatten_numbered
  · intro index rule
    exact (sampleRule_ascending verifier candidates index rule).imp Verdict.earlier_of_before
  · intro index later rule rival earlier a first b second
    left
    rwa [sampleRule_rule a first, sampleRule_rule b second]

/-- Each verdict is the one at some sample, and an equal sample is judged in the other run. -/
theorem matrix_covered (alike : verifier.Alike other) (within : candidates.Within others) :
    ∀ result ∈ (verifier.matrix candidates).verdicts, ∃ twin ∈ (other.matrix others).verdicts, result.same twin := by
  intro result member
  rw [matrix_verdicts] at member ⊢
  obtain ⟨index, rule, registered, inside⟩ := mem_flatten_numbered.mp member
  obtain ⟨version, sampled, rfl⟩ := mem_sampleRule inside
  obtain ⟨bound, listed⟩ := List.getElem?_eq_some_iff.mp registered
  have reach : index < other.rules.length := alike.rules.length_eq ▸ bound
  have rules : rule.Alike other.rules[index] := by
    rw [← Rule.same_iff, ← listed]
    exact alike.rules.get bound reach
  obtain ⟨spelling, found, equal⟩ :=
    holds_samples_alike alike rules within ⟨version, sampled, Version.compare_self version⟩
  refine ⟨other.sampleAt (0 + index) other.rules[index] spelling, ?_, ?_⟩
  · refine mem_flatten_numbered.mpr ⟨index, _, List.getElem?_eq_getElem reach, ?_⟩
    exact (sampleRule_perm other others (0 + index) _).mem_iff.mpr (List.mem_map_of_mem found)
  · exact sampleAt_alike alike rules _ (Version.same_symm (Version.same_iff.mpr equal))

theorem matrix_within (alike : verifier.Alike other) (within : candidates.Within others) :
    List.SublistForall₂ (fun a b => Verdict.same a b) (verifier.matrix candidates).verdicts
      (other.matrix others).verdicts :=
  Ascending.sublistForall₂_of_covered (matrix_earlier verifier candidates) (matrix_earlier other others) Verdict.Earlier.crosses
    Verdict.Earlier.asymm (matrix_covered alike within)

/-- Runs that are contained in each other report the same. -/
theorem matrix_same (alike : verifier.Alike other) (within : candidates.Within others)
    (back : others.Within candidates) : (verifier.matrix candidates).same (other.matrix others) := by
  rw [Report.same, Rule.agree_iff]
  exact Ascending.forall₂_of_covered (matrix_earlier verifier candidates) (matrix_earlier other others)
    Verdict.Earlier.crosses Verdict.Earlier.asymm (matrix_covered alike within) (matrix_covered alike.symm back)

theorem isSuccess_of_within (within : candidates.Within others) (success : (verifier.matrix others).isSuccess) :
    (verifier.matrix candidates).isSuccess := by
  simp only [Report.isSuccess, Report.failed, decide_eq_true_eq, List.countP_eq_zero] at success ⊢
  intro result member
  obtain ⟨twin, listed, equal⟩ := matrix_covered verifier.alike_self within result member
  rw [Verdict.isFailure_of_same equal]
  exact success twin listed

/-- With more candidates no verdict is lost or changed, and their order stays, so a run without a failure has none with
fewer candidates either. Candidates with equal versions give equal reports; they may have been added in another order,
in other spellings or repeatedly. -/
theorem matrix_grows (verifier : Verifier) :
    (∀ candidates others : Candidates, candidates.Within others →
      (∃ kept, kept.Sublist (verifier.matrix others).verdicts ∧
        List.Forall₂ (fun a b => Verdict.same a b) (verifier.matrix candidates).verdicts kept) ∧
      ((verifier.matrix others).isSuccess → (verifier.matrix candidates).isSuccess) ∧
      (others.Within candidates → (verifier.matrix candidates).same (verifier.matrix others))) ∧
    ∀ (start : Candidates) (calls others : List (ModuleKey × List Version)),
      (∀ key version, Candidates.Added calls key version ↔ Candidates.Added others key version) →
      (verifier.matrix (start.extended calls)).same (verifier.matrix (start.extended others)) := by
  refine ⟨?_, ?_⟩
  · intro candidates others within
    refine ⟨?_, isSuccess_of_within within, matrix_same verifier.alike_self within⟩
    obtain ⟨kept, equal, part⟩ := List.sublistForall₂_iff.mp (matrix_within verifier.alike_self within)
    exact ⟨kept, part, equal⟩
  · intro start calls others known
    apply matrix_same verifier.alike_self
    · exact Candidates.within_extended start fun key version => (known key version).mp
    · exact Candidates.within_extended start fun key version => (known key version).mpr

namespace Connector

def connector : ModuleKey := ⟨"org.sample", "connector", isKeyPart_sample, by decide⟩
def first : Version := ⟨"1.4", [1, 4], none⟩
def respelled : Version := ⟨"1.4.0.Final", [1, 4, 0], some "Final"⟩
def second : Version := ⟨"1.7", [1, 7], none⟩
def next : Version := ⟨"2.0", [2, 0], none⟩
def query : Symbol := .ofClass "org.sample.Query"

def sample : Rule :=
  { key := connector, versions := ⟨some ⟨first, true⟩, some ⟨next, false⟩, by decide⟩, assertInverse := true }

def start : Verifier :=
  { surface := .ofReferences [query]
    catalog := ⟨[(connector, { key := connector, symbols := [⟨query, none, some next⟩] })]⟩
    rules := [sample] }

def few : Candidates := ⟨[(connector, [respelled])]⟩
def many : Candidates := ⟨[(connector, [first, second, next])]⟩

theorem few_within_many : few.Within many := by
  intro key version member
  simp only [few, Candidates.get, ModuleMap.find?_cons, ModuleMap.find?_nil] at member
  split at member
  next same =>
    subst same
    obtain rfl := List.mem_singleton.mp member
    exact ⟨first, by decide, by decide⟩
  next => exact absurd member List.not_mem_nil

/-- The same versions in another order, spelling and number. -/
def calls : List (ModuleKey × List Version) := [(connector, [first, second])]
def repeated : List (ModuleKey × List Version) := [(connector, [second]), (connector, [respelled, second])]

theorem added_iff (key : ModuleKey) (version : Version) :
    Candidates.Added calls key version ↔ Candidates.Added repeated key version := by
  have equal : respelled.same first := by decide
  have moved := Version.compare_congr equal (Version.same_self version)
  simp only [Candidates.Added, calls, repeated, List.exists_mem_cons_iff, List.not_mem_nil, false_and, exists_false,
    or_false, Ascending.holds_cons, Ascending.holds_nil, moved]
  tauto

end Connector

open Connector in
/-- One candidate equals an end of the range; with two more, one of them outside, two verdicts are added. -/
theorem matrix_grows_connector :
    (start.matrix few).verdicts.map (·.versionLabel) = ["1.4"] ∧
      (start.matrix many).verdicts.map (·.versionLabel) = ["1.4", "1.7", "2.0"] ∧ (start.matrix many).isSuccess ∧
      (∃ kept, kept.Sublist (start.matrix many).verdicts ∧
        List.Forall₂ (fun a b => Verdict.same a b) (start.matrix few).verdicts kept) ∧
      (start.matrix few).isSuccess ∧ (start.matrix (few.extended calls)).same (start.matrix (few.extended repeated)) := by
  have success : (start.matrix many).isSuccess := by decide
  obtain ⟨contained, kept, -⟩ := (matrix_grows start).1 few many few_within_many
  exact ⟨by decide, by decide, success, contained, kept success, (matrix_grows start).2 few calls repeated added_iff⟩

end Verifier

end Linkage
