import Linkage.Report
import Linkage.Proofs.ViolationTexts

/-! The lines of a report, which enter its fingerprint. Their fields are joined by bars and nothing is escaped, but the
front of a line shows what rule it is about if labels and names hold no bar, and the rest shows what was found. -/

namespace Linkage

theorem Version.WasRead.eq_of_text {version other : Version} (known : version.WasRead) (found : other.WasRead)
    (same : version.text = other.text) : version = other :=
  Except.ok.inj (known.read_text.symm.trans (same ▸ found.read_text))

namespace Verdict
open Text
variable {a b : Verdict} {rest others : List Char}

/-- Its version and the symbols in its violations were read, and it is skipped only if its rule says so. -/
structure WasRead (verdict : Verdict) : Prop where
  version : ∃ version, verdict.version = some version ∧ version.WasRead
  violations : ∀ violation ∈ verdict.violations, violation.WasRead
  skipped : ∀ reason, verdict.outcome = .skipped reason → reason = .skippedVersion

theorem WasRead.found {verdict : Verdict} {found : List Violation} (known : verdict.WasRead)
    (failed : verdict.outcome = .failed found) : ∀ violation ∈ found, violation.WasRead := by
  simpa only [Verdict.violations, failed] using known.violations

/-- No bar hides where the label and the key of a verdict end. -/
def Barless (verdict : Verdict) : Prop :=
  '|' ∉ verdict.label.toList ∧ '|' ∉ verdict.key.name.toList

/-- Two verdicts whose lines show if they are about the same rule. -/
def Legible (a b : Verdict) : Prop :=
  a.label = b.label ∧ a.key = b.key ∨ a.Barless ∧ b.Barless

/-- What stands behind the key, up to a detail. -/
def finding (verdict : Verdict) (detail : List Char) : List Char :=
  verdict.versionLabel.toList ++ '|' :: verdict.expectation.word.toList ++ '|' :: verdict.status.toList ++ '|' :: detail

theorem finding_append (verdict : Verdict) (word tail : List Char) :
    verdict.finding (word ++ tail) = verdict.finding word ++ tail := by
  simp only [finding, List.append_assoc, List.cons_append]

theorem toList_line (verdict : Verdict) : verdict.line.toList =
    (toString verdict.rule).toList ++ '|' :: (verdict.label.toList ++ '|' :: (verdict.key.text.toList ++ '|' ::
      verdict.finding verdict.detail.toList)) := by
  have bar : "|".toList = ['|'] := by decide +kernel
  simp only [line, join, String.toList_append, bar, List.append_assoc, List.cons_append, List.nil_append,
    finding]

theorem index_inj {index other : Nat} (same : (toString index).toList = (toString other).toList) : index = other := by
  rw [Nat.toString_eq_ofList_toDigits, Nat.toString_eq_ofList_toDigits, String.toList_ofList, String.toList_ofList] at same
  have value := congrArg (fun digits => Nat.ofDigitChars 10 digits 0) same
  simpa only [Nat.ofDigitChars_ten_toDigits] using value

theorem front_inj (legible : a.rule = b.rule → Legible a b)
    (same : (toString a.rule).toList ++ '|' :: (a.label.toList ++ '|' :: (a.key.text.toList ++ '|' :: rest)) =
      (toString b.rule).toList ++ '|' :: (b.label.toList ++ '|' :: (b.key.text.toList ++ '|' :: others))) :
    a.rule = b.rule ∧ a.label = b.label ∧ a.key = b.key ∧ rest = others := by
  obtain ⟨index, same⟩ := append_inj_first (not_mem_number rfl a.rule) (not_mem_number rfl b.rule) same
  have rule : a.rule = b.rule := index_inj index
  rcases legible rule with ⟨label, key⟩ | ⟨⟨plain, barless⟩, ⟨clear, free⟩⟩
  · rw [label, key] at same
    have behind := (List.cons.inj (List.append_cancel_left same)).2
    exact ⟨rule, label, key, (List.cons.inj (List.append_cancel_left behind)).2⟩
  · obtain ⟨label, same⟩ := append_inj_first plain clear same
    simp only [ModuleKey.text, String.toList_append, List.append_assoc] at same
    obtain ⟨group, same⟩ := append_inj_first a.key.group_isKeyPart.colon_not_mem b.key.group_isKeyPart.colon_not_mem same
    obtain ⟨name, same⟩ := append_inj_first barless free same
    exact ⟨rule, String.toList_inj.mp label, ModuleKey.eq_of_parts group name, same⟩

/-- The first word of a detail holds no bar. -/
theorem detail_starts {verdict : Verdict} (known : verdict.WasRead) : ∃ word tail, verdict.detail.toList = word ++ tail ∧
    ' ' ∉ word ∧ '|' ∉ word ∧ EndsWord tail := by
  cases outcome : verdict.outcome with
  | passed => exact ⟨[], [], by simp [detail, outcome], by simp [EndsWord]⟩
  | skipped reason =>
    have text : "version skipped by rule".toList = "version".toList ++ " skipped by rule".toList := by decide +kernel
    refine ⟨"version".toList, " skipped by rule".toList, ?_, by decide +kernel, by decide +kernel, by simp [EndsWord]⟩
    rw [detail, outcome, known.skipped reason outcome]
    exact text
  | failed found =>
    cases found with
    | nil => exact ⟨[], [], by simp [detail, outcome, join], by simp [EndsWord]⟩
    | cons violation violations =>
      obtain ⟨word, tail, text, ⟨spaceless, -, barless⟩, ends, going⟩ := violation.starts
      refine ⟨word, tail ++ Violation.tail violations, ?_, spaceless, barless, ?_⟩
      · simp only [detail, outcome]
        rw [Violation.toList_join_violations, text, List.append_assoc]
      · cases tail with
        | nil => simp at going
        | cons c tail => exact ends

theorem bar_not_mem_word (expectation : Expectation) : '|' ∉ expectation.word.toList := by
  cases expectation <;> decide +kernel

theorem bar_not_mem_status (verdict : Verdict) : '|' ∉ verdict.status.toList := by
  unfold status
  cases verdict.outcome <;> simp

/-- Only a detail has white space. -/
theorem blank_not_mem_finding {c : Char} (blank : isBlank c = true) {verdict : Verdict} {detail : List Char}
    (known : verdict.WasRead) (absent : c ∉ detail) : c ∉ verdict.finding detail := by
  obtain ⟨version, versioned, read⟩ := known.version
  have label : c ∉ verdict.versionLabel.toList := by
    rw [versionLabel, versioned]
    exact Text.blank_not_mem c blank read.filled
  have expectation : c ∉ verdict.expectation.word.toList := by
    apply Text.blank_not_mem c blank
    cases verdict.expectation <;> simp [Expectation.word] <;> decide
  have status : c ∉ verdict.status.toList := by
    apply Text.blank_not_mem c blank
    unfold Verdict.status
    cases verdict.outcome <;> simp <;> decide
  have bar : c ≠ '|' := by
    intro same
    rw [same] at blank
    cases blank
  simp [finding, label, expectation, status, absent, bar]

/-- In front of the first space there are no other bars than those between fields and those of the version. -/
theorem finding_inj (known : a.WasRead) (read : b.WasRead)
    (same : a.finding a.detail.toList = b.finding b.detail.toList) :
    a.versionLabel = b.versionLabel ∧ a.expectation.word = b.expectation.word ∧ a.status = b.status ∧
      a.detail = b.detail := by
  obtain ⟨word, tail, text, spaceless, barless, ends⟩ := detail_starts known
  obtain ⟨start, behind, shown, unspaced, unbarred, stops⟩ := detail_starts read
  rw [text, shown, finding_append, finding_append] at same
  obtain ⟨fronts, rfl⟩ := append_inj_word (blank_not_mem_finding rfl known spaceless)
    (blank_not_mem_finding rfl read unspaced) ends stops same
  obtain ⟨outer, rfl⟩ := append_inj_last barless unbarred fronts
  obtain ⟨inner, status⟩ := append_inj_last a.bar_not_mem_status b.bar_not_mem_status outer
  obtain ⟨version, expectation⟩ := append_inj_last (bar_not_mem_word _) (bar_not_mem_word _) inner
  refine ⟨String.toList_inj.mp version, String.toList_inj.mp expectation, String.toList_inj.mp status, ?_⟩
  rw [← String.toList_inj, text, shown]

theorem feed_not_mem_detail {verdict : Verdict} (known : verdict.WasRead) : '\n' ∉ verdict.detail.toList := by
  cases outcome : verdict.outcome with
  | passed => simp [detail, outcome]
  | skipped reason =>
    rw [detail, outcome, known.skipped reason outcome]
    decide +kernel
  | failed violations =>
    simpa only [detail, outcome] using Violation.feed_not_mem_join (known.found outcome)

theorem eq_of_word {expectation other : Expectation} (same : expectation.word = other.word) : expectation = other := by
  cases expectation <;> cases other <;> first | rfl | exact absurd same (by decide)

theorem eq_of_detail (known : a.WasRead) (read : b.WasRead) (status : a.status = b.status) (same : a.detail = b.detail) :
    a.outcome = b.outcome := by
  cases first : a.outcome with
  | passed =>
    cases second : b.outcome with
    | passed => rfl
    | failed violations => simp [Verdict.status, first, second] at status
    | skipped reason => simp [Verdict.status, first, second] at status
  | failed violations =>
    cases second : b.outcome with
    | passed => simp [Verdict.status, first, second] at status
    | failed others =>
      have texts := congrArg String.toList same
      simp only [detail, first, second] at texts
      rw [Violation.join_inj (known.found first) (read.found second) texts]
    | skipped reason => simp [Verdict.status, first, second] at status
  | skipped reason =>
    cases second : b.outcome with
    | passed => simp [Verdict.status, first, second] at status
    | failed others => simp [Verdict.status, first, second] at status
    | skipped other => rw [known.skipped reason first, read.skipped other second]

theorem eq_of_versionLabel (known : a.WasRead) (read : b.WasRead) (same : a.versionLabel = b.versionLabel) :
    a.version = b.version := by
  obtain ⟨version, versioned, wasRead⟩ := known.version
  obtain ⟨other, shown, found⟩ := read.version
  rw [versionLabel, versionLabel, versioned, shown] at same
  rw [versioned, shown, wasRead.eq_of_text found same]

theorem line_append_inj (known : a.WasRead) (read : b.WasRead) (legible : a.rule = b.rule → Legible a b)
    (same : a.line.toList ++ '\n' :: rest = b.line.toList ++ '\n' :: others) : a = b ∧ rest = others := by
  rw [toList_line, toList_line] at same
  simp only [List.append_assoc, List.cons_append] at same
  obtain ⟨rule, label, key, same⟩ := front_inj legible same
  obtain ⟨founds, rests⟩ := append_inj_first (blank_not_mem_finding rfl known (feed_not_mem_detail known))
    (blank_not_mem_finding rfl read (feed_not_mem_detail read)) same
  obtain ⟨version, expectation, status, detail⟩ := finding_inj known read founds
  refine ⟨?_, rests⟩
  have versions := eq_of_versionLabel known read version
  have expectations := eq_of_word expectation
  have outcomes := eq_of_detail known read status detail
  cases a
  cases b
  simp_all

end Verdict

namespace Report
open Text

theorem toList_lines (report : Report) :
    report.lines.toList = report.verdicts.flatMap fun verdict => verdict.line.toList ++ ['\n'] := by
  have general (verdicts : List Verdict) (start : String) :
      (verdicts.foldl (fun text verdict => text ++ verdict.line ++ "\n") start).toList =
        start.toList ++ verdicts.flatMap fun verdict => verdict.line.toList ++ ['\n'] := by
    induction verdicts generalizing start with
    | nil => simp
    | cons verdict rest ih =>
      have feed : "\n".toList = ['\n'] := by decide +kernel
      rw [List.foldl_cons, ih]
      simp only [String.toList_append, feed, List.flatMap_cons, List.append_assoc]
  exact general report.verdicts ""

theorem verdicts_inj {verdicts others : List Verdict} (known : ∀ verdict ∈ verdicts, verdict.WasRead)
    (read : ∀ verdict ∈ others, verdict.WasRead)
    (legible : ∀ a ∈ verdicts, ∀ b ∈ others, a.rule = b.rule → Verdict.Legible a b)
    (same : (Report.mk verdicts).lines = (Report.mk others).lines) : verdicts = others := by
  have texts := congrArg String.toList same
  rw [toList_lines, toList_lines] at texts
  clear same
  induction verdicts generalizing others with
  | nil =>
    cases others with
    | nil => rfl
    | cons b others => simp at texts
  | cons a verdicts ih =>
    cases others with
    | nil => simp at texts
    | cons b others =>
      simp only [List.flatMap_cons, List.append_assoc, List.singleton_append] at texts
      obtain ⟨rfl, rests⟩ := Verdict.line_append_inj (known a List.mem_cons_self) (read b List.mem_cons_self)
        (legible a List.mem_cons_self b List.mem_cons_self) texts
      rw [ih (fun verdict member => known verdict (List.mem_cons_of_mem _ member))
        (fun verdict member => read verdict (List.mem_cons_of_mem _ member))
        (fun a first b second => legible a (List.mem_cons_of_mem _ first) b (List.mem_cons_of_mem _ second)) rests]

end Report
end Linkage
