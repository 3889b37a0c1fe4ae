import Linkage.Proofs.MatrixGrowth
import Linkage.Proofs.ReadVerifiers

/-! What a fingerprint says about a report. Reports that are equal may write their versions differently, and then their
lines differ. Reports that differ have different lines, unless bars in names hide what rules are about. -/

namespace Linkage

namespace Candidates
variable {candidates : Candidates} {calls others : List (ModuleKey × List Version)} {key : ModuleKey} {version : Version}

/-- Some call adds the version of the library, as it is written. -/
def Written (calls : List (ModuleKey × List Version)) (key : ModuleKey) (version : Version) : Prop :=
  ∃ call ∈ calls, call.1 = key ∧ version ∈ call.2

theorem written_nil : ¬ Written [] key version := by
  simp [Written]

theorem written_cons {call : ModuleKey × List Version} :
    Written (call :: calls) key version ↔ call.1 = key ∧ version ∈ call.2 ∨ Written calls key version := by
  simp [Written]

theorem strict_get_extended (calls : List (ModuleKey × List Version))
    (strict : ∀ key, Ascending.Strict Version.compare (candidates.get key)) :
    ∀ key, Ascending.Strict Version.compare ((candidates.extended calls).get key) := by
  induction calls generalizing candidates with
  | nil => exact strict
  | cons call rest ih =>
    apply ih
    intro key
    unfold extend get
    rw [ModuleMap.find?_insert]
    split
    · exact Ascending.foldl_insert_strict _ (strict call.1)
    · exact strict key

theorem strict_get_fresh (calls : List (ModuleKey × List Version)) (key : ModuleKey) :
    Ascending.Strict Version.compare ((({} : Candidates).extended calls).get key) := by
  apply strict_get_extended
  intro key
  exact .nil

theorem mem_get_extended (member : version ∈ (candidates.extended calls).get key) :
    Written calls key version ∨ version ∈ candidates.get key := by
  induction calls generalizing candidates with
  | nil => exact .inr member
  | cons call rest ih =>
    rcases ih member with ⟨other, listed, added⟩ | held
    · exact .inl ⟨other, List.mem_cons_of_mem _ listed, added⟩
    · unfold extend get at held
      rw [ModuleMap.find?_insert] at held
      split at held
      next same =>
        rcases Ascending.mem_of_mem_foldl_insert held with added | held
        · exact .inl ⟨call, List.mem_cons_self, same, added⟩
        · exact .inr (same ▸ held)
      next => exact .inr held

/-- If no version is added in two spellings, what is added is there as it is written. -/
theorem mem_get_extended_iff (single : ∀ a b, Written calls key a → Written calls key b → a.same b → a = b) :
    version ∈ (({} : Candidates).extended calls).get key ↔ Written calls key version := by
  constructor
  · intro member
    exact (mem_get_extended member).resolve_right List.not_mem_nil
  · intro written
    obtain ⟨call, listed, about, added⟩ := written
    have held : Ascending.Holds Version.compare ((({} : Candidates).extended calls).get key) version :=
      (holds_get_extended {} calls).mpr (.inl ⟨call, listed, about, version, added, Version.compare_self version⟩)
    obtain ⟨twin, member, equal⟩ := held
    have found := (mem_get_extended member).resolve_right List.not_mem_nil
    rwa [single twin version found ⟨call, listed, about, added⟩ (Version.same_iff.mpr equal)] at member

end Candidates

namespace Verifier
variable {verifier other : Verifier} {candidates others : Candidates} {result : Verdict}

/-- A run looks at nothing else of candidates than the versions of each library. -/
theorem matrix_congr (same : ∀ key, candidates.get key = others.get key) :
    verifier.matrix candidates = verifier.matrix others := by
  unfold matrix matrixByRule sampleRule
  simp only [same]

/-- The label and the key of a verdict are those of the rule with its number. -/
theorem rule_of_mem_matrix (member : result ∈ (verifier.matrix candidates).verdicts) : ∃ rule,
    verifier.rules[result.rule]? = some rule ∧ result.label = rule.label ∧ result.key = rule.key := by
  rw [matrix_verdicts] at member
  obtain ⟨index, rule, registered, inside⟩ := mem_flatten_numbered.mp member
  obtain ⟨version, -, rfl⟩ := mem_sampleRule inside
  rw [sampleAt_rule, Nat.zero_add]
  obtain ⟨outcome, shape, -⟩ := verifier.sampleAt_eq index rule version
  exact ⟨rule, registered, by rw [shape]; rfl, by rw [shape]; rfl⟩

theorem eq_of_same_outcome {a b : Outcome} (equal : a.same b) (evaluated : ∀ range, a ≠ .skipped (.outOfRange range)) :
    a = b := by
  cases a with
  | passed => simpa [Outcome.same] using equal
  | failed found => simpa [Outcome.same] using equal
  | skipped reason =>
    cases b with
    | passed => simp [Outcome.same] at equal
    | failed found => simp [Outcome.same] at equal
    | skipped other =>
      cases reason with
      | outOfRange range => exact absurd rfl (evaluated range)
      | unresolvedModule => simpa [Outcome.same, SkipReason.same] using equal
      | skippedVersion => simpa [Outcome.same, SkipReason.same] using equal

theorem line_of_same {a b : Verdict} (equal : a.same b) (labels : a.versionLabel = b.versionLabel)
    (evaluated : ∀ range, a.outcome ≠ .skipped (.outOfRange range)) : a.line = b.line := by
  obtain ⟨rule, label, key, -, expectation, outcomes⟩ := Verdict.same_iff.mp equal
  have outcome := eq_of_same_outcome outcomes evaluated
  unfold Verdict.line Verdict.status Verdict.detail
  rw [rule, label, key, labels, expectation, outcome]

theorem lines_of_same {verdicts others : List Verdict}
    (equal : List.Forall₂ (fun a b => Verdict.same a b) verdicts others)
    (labels : verdicts.map (·.versionLabel) = others.map (·.versionLabel))
    (evaluated : ∀ verdict ∈ verdicts, ∀ range, verdict.outcome ≠ .skipped (.outOfRange range)) :
    (Report.mk verdicts).lines = (Report.mk others).lines := by
  have lines : verdicts.map (·.line) = others.map (·.line) := by
    induction equal with
    | nil => rfl
    | cons first _ ih =>
      obtain ⟨label, labels⟩ := List.cons.inj labels
      obtain ⟨clear, evaluated⟩ := List.forall_mem_cons.mp evaluated
      rw [List.map_cons, List.map_cons, line_of_same first label clear, ih labels evaluated]
  rw [← String.toList_inj, Report.toList_lines, Report.toList_lines]
  have flat (verdicts : List Verdict) : (verdicts.flatMap fun verdict => verdict.line.toList ++ ['\n']) =
      (verdicts.map (·.line)).flatMap fun line => line.toList ++ ['\n'] := by
    rw [List.flatMap_map]
  rw [flat, flat, lines]

private theorem exists_partner {α β : Type} {related : α → β → Prop} {xs : List α} {ys : List β}
    (all : List.Forall₂ related xs ys) : ∀ x ∈ xs, ∃ y ∈ ys, related x y := by
  induction all with
  | nil => simp
  | cons first _ ih =>
    intro x member
    rcases List.mem_cons.mp member with rfl | member
    · exact ⟨_, List.mem_cons_self, first⟩
    · obtain ⟨y, listed, same⟩ := ih x member
      exact ⟨y, List.mem_cons_of_mem _ listed, same⟩

/-- Rules with one number have the same label and key in runs that report the same. -/
theorem legible_of_same (equal : (verifier.matrix candidates).same (other.matrix others)) :
    ∀ a ∈ (verifier.matrix candidates).verdicts, ∀ b ∈ (other.matrix others).verdicts, a.rule = b.rule →
      Verdict.Legible a b := by
  intro a first b second number
  rw [Report.same, Rule.agree_iff] at equal
  -- The other run has a verdict like `a`, and it is about the rule that `b` is about.
  obtain ⟨twin, listed, same⟩ := exists_partner equal a first
  obtain ⟨rule, label, key, -⟩ := Verdict.same_iff.mp same
  obtain ⟨own, registered, ownLabel, ownKey⟩ := rule_of_mem_matrix listed
  obtain ⟨rival, found, rivalLabel, rivalKey⟩ := rule_of_mem_matrix second
  rw [← number, rule, registered] at found
  obtain rfl := Option.some.inj found
  exact .inl ⟨by rw [label, ownLabel, rivalLabel], by rw [key, ownKey, rivalKey]⟩

/-- Candidates that hold the same versions, as they are written, give one report. -/
theorem matrix_of_same_versions (verifier : Verifier)
    (strict : ∀ key, Ascending.Strict Version.compare (candidates.get key))
    (ordered : ∀ key, Ascending.Strict Version.compare (others.get key))
    (same : ∀ key version, version ∈ candidates.get key ↔ version ∈ others.get key) :
    verifier.matrix candidates = verifier.matrix others :=
  matrix_congr fun key => (strict key).eq_of_mem_iff (ordered key) (same key)

/-- Two runs that report the same, up to the spelling of versions. -/
structure RespectsSpelling (verifier other : Verifier) (candidates others : Candidates) : Prop where
  fingerprint : (verifier.matrix candidates).same (other.matrix others) →
    (verifier.matrix candidates).verdicts.map (·.versionLabel) = (other.matrix others).verdicts.map (·.versionLabel) →
    (verifier.matrix candidates).lines = (other.matrix others).lines ∧
      (verifier.matrix candidates).fingerprint = (other.matrix others).fingerprint
  report : (verifier.matrix candidates).same (other.matrix others) →
    verifier.WasRead → other.WasRead → candidates.WasRead → others.WasRead →
    (verifier.matrix candidates).lines = (other.matrix others).lines → verifier.matrix candidates = other.matrix others
  versions : (∀ key, Ascending.Strict Version.compare (candidates.get key)) →
    (∀ key, Ascending.Strict Version.compare (others.get key)) →
    (∀ key version, version ∈ candidates.get key ↔ version ∈ others.get key) →
    verifier.matrix candidates = verifier.matrix others
  additions : ∀ calls turned : List (ModuleKey × List Version),
    (∀ key version, Candidates.Written calls key version ↔ Candidates.Written turned key version) →
    (∀ key a b, Candidates.Written calls key a → Candidates.Written calls key b → a.same b → a = b) →
    verifier.matrix (({} : Candidates).extended calls) = verifier.matrix (({} : Candidates).extended turned)

/-- Equal reports that write versions alike have the same lines. If versions were read, no others have: then the reports
do not differ at all. Candidates that hold the same versions, as they are written, give one report; they may have been
added in any order and repeatedly, if no version is added in two spellings. -/
theorem fingerprint_respects_spelling (verifier other : Verifier) (candidates others : Candidates) :
    RespectsSpelling verifier other candidates others := by
  constructor
  case fingerprint =>
    intro equal labels
    have evaluated := (matrix_sampled verifier candidates).evaluated
    have lines : (verifier.matrix candidates).lines = (other.matrix others).lines :=
      lines_of_same (Rule.agree_iff.mp equal) labels fun verdict member => (evaluated verdict member).2
    exact ⟨lines, congrArg Sha256.hexOf lines⟩
  case report =>
    intro equal known found read given lines
    exact congrArg Report.mk (Report.verdicts_inj (wasRead_matrix known read) (wasRead_matrix found given)
      (legible_of_same equal) lines)
  case versions => exact matrix_of_same_versions verifier
  case additions =>
    intro calls turned written single
    apply matrix_of_same_versions verifier (Candidates.strict_get_fresh calls) (Candidates.strict_get_fresh turned)
    intro key version
    rw [Candidates.mem_get_extended_iff (single key), written, Candidates.mem_get_extended_iff]
    intro a b first second
    exact single key a b ((written key a).mpr first) ((written key b).mpr second)

namespace Spelled

theorem isKeyPart_group : IsKeyPart "g" := by decide
theorem isKeyPart_name : IsKeyPart "m" := by decide

def library : ModuleKey := ⟨"g", "m", isKeyPart_group, isKeyPart_name⟩
def zero : Version := ⟨"0", [0], none⟩
def short : Version := ⟨"1.0", [1, 0], none⟩
def long : Version := ⟨"1.0.0", [1, 0, 0], none⟩
def middle : Version := ⟨"1.5", [1, 5], none⟩
def two : Version := ⟨"2", [2], none⟩

/-- The range `(0,2)`. -/
def sample : Rule := { key := library, versions := ⟨some ⟨zero, false⟩, some ⟨two, false⟩, by decide⟩ }

def start : Verifier := { surface := .ofReferences [], catalog := {}, rules := [sample] }

def calls : List (ModuleKey × List Version) := [(library, [short, middle])]
def turned : List (ModuleKey × List Version) := [(library, [middle]), (library, [short, middle])]

theorem written_iff (key : ModuleKey) (version : Version) :
    Candidates.Written calls key version ↔ Candidates.Written turned key version := by
  simp only [calls, turned, Candidates.written_cons, Candidates.written_nil, List.mem_cons, List.not_mem_nil]
  tauto

theorem single {key : ModuleKey} {a b : Version} (first : Candidates.Written calls key a)
    (second : Candidates.Written calls key b) (equal : a.same b) : a = b := by
  simp only [calls, Candidates.written_cons, Candidates.written_nil, List.mem_cons, List.not_mem_nil, or_false]
    at first second
  revert equal
  rcases first.2 with rfl | rfl <;> rcases second.2 with rfl | rfl <;> decide

theorem known_start : start.WasRead := by
  refine ⟨⟨by simp [start, Surface.ofReferences], by simp [start, Surface.ofReferences]⟩, ?_, ?_⟩
  · intro key version member
    cases member
  · intro rule member bound held
    obtain rfl : rule = sample := List.mem_singleton.mp member
    rcases held with held | held
    · obtain rfl := Option.some.inj held
      exact ⟨"0".toList, by decide⟩
    · obtain rfl := Option.some.inj held
      exact ⟨"2".toList, by decide⟩

theorem mem_calls_iff {key : ModuleKey} {version : Version} :
    version ∈ (({} : Candidates).extended calls).get key ↔ Candidates.Written calls key version :=
  Candidates.mem_get_extended_iff fun _ _ => single

theorem mem_turned_iff {key : ModuleKey} {version : Version} :
    version ∈ (({} : Candidates).extended turned).get key ↔ Candidates.Written turned key version := by
  apply Candidates.mem_get_extended_iff
  intro a b first second
  exact single ((written_iff key a).mpr first) ((written_iff key b).mpr second)

theorem read_calls : (({} : Candidates).extended calls).WasRead := by
  intro key version member
  have written := mem_calls_iff.mp member
  simp only [calls, Candidates.written_cons, Candidates.written_nil, List.mem_cons, List.not_mem_nil, or_false]
    at written
  rcases written.2 with rfl | rfl
  · exact ⟨"1.0".toList, by decide⟩
  · exact ⟨"1.5".toList, by decide⟩

end Spelled

open Spelled in
theorem fingerprint_respects_spelling_turned : (start.matrix (({} : Candidates).extended calls)).passed = 2 ∧
    start.matrix (({} : Candidates).extended calls) = start.matrix (({} : Candidates).extended turned) ∧
    (start.withWorkers 2).matrix (({} : Candidates).extended calls) =
      (start.withWorkers 2).matrix (({} : Candidates).extended turned) ∧
    (start.matrix (({} : Candidates).extended calls)).fingerprint =
      ((start.withWorkers 2).matrix (({} : Candidates).extended calls)).fingerprint ∧
    start.matrix (({} : Candidates).extended calls) =
      (start.withWorkers 2).matrix (({} : Candidates).extended calls) := by
  refine ⟨by decide, ?_, ?_, ?_⟩
  · exact (fingerprint_respects_spelling start start {} {}).additions calls turned written_iff fun _ _ _ => single
  · apply (fingerprint_respects_spelling (start.withWorkers 2) start _ _).versions (Candidates.strict_get_fresh calls)
      (Candidates.strict_get_fresh turned)
    intro key version
    rw [mem_calls_iff, mem_turned_iff, written_iff]
  · have respects := fingerprint_respects_spelling start (start.withWorkers 2) (({} : Candidates).extended calls)
      (({} : Candidates).extended calls)
    have equal : (start.matrix (({} : Candidates).extended calls)).same
        ((start.withWorkers 2).matrix (({} : Candidates).extended calls)) := by
      decide
    obtain ⟨lines, fingerprint⟩ := respects.fingerprint equal (by decide)
    have known : (start.withWorkers 2).WasRead := ⟨known_start.surface, known_start.catalog, known_start.ranges⟩
    exact ⟨fingerprint, respects.report equal known_start known read_calls read_calls lines⟩

open Spelled in
/-- Two spellings of one version are added in either order. The first one stays and is told. -/
theorem fingerprint_tells_spelling :
    (∀ key version, Candidates.Written [(library, [short, long])] key version ↔
      Candidates.Written [(library, [long, short])] key version) ∧
    (start.matrix (({} : Candidates).extended [(library, [short, long])])).same
      (start.matrix (({} : Candidates).extended [(library, [long, short])])) ∧
    (start.matrix (({} : Candidates).extended [(library, [short, long])])).fingerprint ≠
      (start.matrix (({} : Candidates).extended [(library, [long, short])])).fingerprint := by
  refine ⟨?_, by decide, by decide +kernel⟩
  intro key version
  simp only [Candidates.written_cons, Candidates.written_nil, List.mem_cons, List.not_mem_nil]
  tauto

end Verifier

/-- No bar hides where the label and the key of a rule end. -/
def Rule.Barless (rule : Rule) : Prop :=
  '|' ∉ rule.label.toList ∧ '|' ∉ rule.key.name.toList

def Sha256.Collide (text other : String) : Prop :=
  text ≠ other ∧ Sha256.hexOf text = Sha256.hexOf other

namespace Verifier

theorem legible_of_rules {verifier other : Verifier} {candidates others : Candidates}
    (legible : ∀ (index : Nat) (rule rival : Rule), verifier.rules[index]? = some rule → other.rules[index]? = some rival →
      rule.label = rival.label ∧ rule.key = rival.key ∨ rule.Barless ∧ rival.Barless) :
    ∀ a ∈ (verifier.matrix candidates).verdicts, ∀ b ∈ (other.matrix others).verdicts, a.rule = b.rule →
      Verdict.Legible a b := by
  intro a first b second number
  obtain ⟨rule, registered, label, key⟩ := rule_of_mem_matrix first
  obtain ⟨rival, found, rivalLabel, rivalKey⟩ := rule_of_mem_matrix second
  unfold Verdict.Legible Verdict.Barless
  rw [label, key, rivalLabel, rivalKey]
  exact legible a.rule rule rival registered (number ▸ found)

/-- Of runs whose texts were read, the lines determine the whole report, for rules that have the same labels and keys and
for any rules without bars in labels and names. So do their fingerprints, as far as hashes do not collide. -/
theorem lines_determine_report (verifier other : Verifier) (candidates others : Candidates) :
    (verifier.WasRead → other.WasRead → candidates.WasRead → others.WasRead →
      (∀ (index : Nat) (rule rival : Rule), verifier.rules[index]? = some rule → other.rules[index]? = some rival →
        rule.label = rival.label ∧ rule.key = rival.key ∨ rule.Barless ∧ rival.Barless) →
      ((verifier.matrix candidates).lines = (other.matrix others).lines →
        verifier.matrix candidates = other.matrix others) ∧
      ((verifier.matrix candidates).fingerprint = (other.matrix others).fingerprint →
        verifier.matrix candidates = other.matrix others ∨
          Sha256.Collide (verifier.matrix candidates).lines (other.matrix others).lines)) ∧
    (∀ config : Config, config.verifier = .ok verifier → verifier.WasRead) ∧
    ∀ specs : List String, specs.foldlM Candidates.addSpec {} = .ok candidates → candidates.WasRead := by
  refine ⟨?_, fun config => Config.verifier_wasRead, ?_⟩
  · intro known found read given legible
    have determined (lines : (verifier.matrix candidates).lines = (other.matrix others).lines) :
        verifier.matrix candidates = other.matrix others :=
      congrArg Report.mk (Report.verdicts_inj (wasRead_matrix known read) (wasRead_matrix found given)
        (legible_of_rules legible) lines)
    refine ⟨determined, ?_⟩
    intro hashes
    by_cases lines : (verifier.matrix candidates).lines = (other.matrix others).lines
    · exact .inl (determined lines)
    · exact .inr ⟨lines, hashes⟩
  · intro specs added
    refine Candidates.wasRead_of_specs ?_ added
    intro key version member
    cases member

section
/-- Two named rules, verified in parallel or not. -/
private def namedRules (parallel : Bool) : Config :=
  { settings := { parallel }
    rules := [{ name := some "x", group := "g", module := "m", versions := "1" },
      { name := some "y", group := "g", module := "m", versions := "2" }] }

/-- One rule, named like the rest of a line and the beginning of the next one. -/
private def forgedRule : Config :=
  { rules := [{ name := some "x|g:m|1|pass|pass|\n1|y", group := "g", module := "m", versions := "2" }] }

theorem lines_determine_report_named : ∃ (verifier other : Verifier) (candidates : Candidates),
    (namedRules false).verifier = .ok verifier ∧ (namedRules true).verifier = .ok other ∧
    verifier.workers ≠ other.workers ∧ ["g:m=3"].foldlM Candidates.addSpec {} = .ok candidates ∧
    verifier.matrix candidates = other.matrix {} := by
  have built : ((namedRules false).verifier.toOption.bind fun verifier => (namedRules true).verifier.toOption.bind
      fun other => (["g:m=3"].foldlM Candidates.addSpec {}).toOption.map fun candidates =>
        (verifier.rules = other.rules ∧ verifier.workers ≠ other.workers ∧
          (verifier.matrix candidates).lines = (other.matrix {}).lines : Bool)) = some true := by
    decide +kernel
  obtain ⟨verifier, first, rest⟩ := Option.bind_eq_some_iff.mp built
  obtain ⟨other, second, rest⟩ := Option.bind_eq_some_iff.mp rest
  obtain ⟨candidates, given, holds⟩ := Option.map_eq_some_iff.mp rest
  obtain ⟨rules, workers, lines⟩ := of_decide_eq_true holds
  have first := Acceptance.toOption_eq_some_iff.mp first
  have second := Acceptance.toOption_eq_some_iff.mp second
  have given := Acceptance.toOption_eq_some_iff.mp given
  refine ⟨verifier, other, candidates, first, second, workers, given, ?_⟩
  obtain ⟨determined, known, read⟩ := lines_determine_report verifier other candidates {}
  obtain ⟨-, found, none⟩ := lines_determine_report other verifier {} {}
  apply (determined (known _ first) (found _ second) (read _ given) (none [] rfl) ?_).1 lines
  intro index rule rival registered found
  rw [← rules, registered] at found
  obtain rfl := Option.some.inj found
  exact .inl ⟨rfl, rfl⟩

/-- The lines of two verdicts are those of a single one. -/
theorem bars_hide_rules : ∃ verifier other : Verifier, (namedRules false).verifier = .ok verifier ∧
    forgedRule.verifier = .ok other ∧ (verifier.matrix {}).lines = (other.matrix {}).lines ∧
    (verifier.matrix {}).verdicts.length = 2 ∧ (other.matrix {}).verdicts.length = 1 := by
  have built : ((namedRules false).verifier.toOption.bind fun verifier => forgedRule.verifier.toOption.map
      fun other => ((verifier.matrix {}).lines = (other.matrix {}).lines ∧ (verifier.matrix {}).verdicts.length = 2 ∧
        (other.matrix {}).verdicts.length = 1 : Bool)) = some true := by
    decide +kernel
  obtain ⟨verifier, first, rest⟩ := Option.bind_eq_some_iff.mp built
  obtain ⟨other, second, holds⟩ := Option.map_eq_some_iff.mp rest
  exact ⟨verifier, other, Acceptance.toOption_eq_some_iff.mp first, Acceptance.toOption_eq_some_iff.mp second,
    of_decide_eq_true holds⟩

end

end Verifier
end Linkage
