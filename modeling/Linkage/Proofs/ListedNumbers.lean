import Linkage.Proofs.RuleNumbering
import Linkage.Proofs.ValidLoading

/-! The number with which a rule is listed, and the number by which a verification picks it. Both count the rules in
the order of registration, the listing from zero and the verification from one. -/

namespace Linkage
open Session

namespace Project
variable {project : Project} {session : Session} {config : Config}

theorem exists_loadValid (loaded : (session.perform project.load).1 = .ok config) (verifiable : config.Verifiable)
    (showWarnings : Bool) : ∃ later, session.perform (project.loadValid showWarnings) = (.ok config, later) :=
  ⟨_, Prod.ext (perform_loadValid_iff.mpr ⟨loaded, verifiable⟩) rfl⟩

end Project

theorem Verification.perform_tellTable {session : Session} (table : Table) :
    session.perform (tellTable table) =
      (.ok (), session.telling .message ((Text.lines table.text.toList).map String.ofList ++ [""])) := by
  rw [tellTable, perform_bind_of_ok (perform_tellAll _), perform_tell, telling_append]

namespace RuleListing
variable {rules : List Rule} {rule : Rule} {number : Nat}

/-- A rule is listed with a number: this is what its row starts with in the table, and its `id` as data. -/
structure Lists (rules : List Rule) (number : Nat) (rule : Rule) : Prop where
  table : ∃ place : Nat, rules[place]? = some rule ∧ (table rules).rows[place]?.bind List.head? = some (toString number)
  json : ∃ (place : Nat) (items : List Json), rules[place]? = some rule ∧ json rules = .list items ∧
    items[place]?.bind (Json.field? "id") = some (.ofNat number)

/-- All cells fit the headers, so that rows are added as they are. -/
theorem rows_foldl_addRow (place : Nat) (rules : List Rule) (table : Table) (fits : table.headers.length = 6) :
    ((Verifier.numbered row place rules).foldl Table.addRow table).rows =
      table.rows ++ Verifier.numbered row place rules := by
  induction rules generalizing place table with
  | nil => simp [Verifier.numbered]
  | cons rule rest ih =>
    have whole : Table.fitted table.headers.length (row place rule) = row place rule := by
      rw [fits]
      rfl
    have added : (table.addRow (row place rule)).rows = table.rows ++ [row place rule] := by
      rw [Table.addRow, whole]
    rw [Verifier.numbered, List.foldl_cons, ih (place + 1) (table.addRow (row place rule)) fits, added,
      List.append_assoc, List.singleton_append]

theorem rows_table (rules : List Rule) : (table rules).rows = Verifier.numbered row 0 rules :=
  rows_foldl_addRow 0 rules _ rfl

theorem lists_iff : Lists rules number rule ↔ rules[number]? = some rule := by
  constructor
  · intro listed
    obtain ⟨place, items, found, shown, told⟩ := listed.json
    cases shown
    rw [Verifier.getElem?_numbered, found, Nat.zero_add] at told
    have same : Json.ofNat place = Json.ofNat number := Option.some.inj told
    cases same
    exact found
  · intro found
    constructor
    · refine ⟨number, found, ?_⟩
      rw [rows_table, Verifier.getElem?_numbered, found, Nat.zero_add]
      rfl
    · refine ⟨number, _, found, rfl, ?_⟩
      rw [Verifier.getElem?_numbered, found, Nat.zero_add]
      rfl

/-- What the listing tells about some rules. -/
def lines (rules : List Rule) (asJson : Bool) : List String :=
  if asJson then [(json rules).pretty]
  else (Text.lines (table rules).text.toList).map String.ofList ++ ["", toString rules.length ++ " rule(s)"]

variable {project : Project} {session later : Session} {config : Config} {verifier : Verifier}

theorem perform_list {asJson : Bool} (loaded : session.perform (project.loadValid !asJson) = (.ok config, later))
    (built : config.verifier = .ok verifier) :
    session.perform (list project asJson) = (.ok (), later.telling .message (lines verifier.rules asJson)) := by
  rw [list, perform_bind_of_ok loaded, built, perform_bind_of_ok (perform_require_ok verifier)]
  cases asJson with
  | true => rfl
  | false =>
    have rows : (table verifier.rules).rows.length = verifier.rules.length := by
      rw [rows_table, Verifier.length_numbered]
    rw [if_neg Bool.false_ne_true, perform_bind_of_ok (Verification.perform_tellTable _), perform_tell, telling_append,
      rows, lines, if_neg Bool.false_ne_true, List.append_assoc, List.singleton_append]

end RuleListing

namespace Verification
variable {project : Project} {session later : Session} {config : Config} {verifier : Verifier}
  {dependencies : DependencySet} {number : Nat}

/-- What a verification does about its verdicts. -/
def conclude (config : Config) (format : ReportFormat) (verdicts : List Verdict) : Action Unit := do
  let forPeople := format = .human
  let summary := Summary.ofVerdicts verdicts
  if forPeople then tell .header ("Verifying " ++ title config)
  tellReport format verdicts summary
  if 0 < summary.failed then stop 1
  if forPeople then
    if summary.passed = 0 then tell .warning "No rule matched the resolved dependencies"
    else tell .success "All rules pass"

/-- What is told when a number belongs to no rule. -/
def unknownNumber (number count : Nat) : String :=
  "No rule " ++ toString number ++ " (the config declares " ++ toString count ++ ")"

section
variable (options : VerifyOptions)
  (loaded : session.perform (project.loadValid (options.format = .human)) = (.ok config, later))
  (built : config.verifier = .ok verifier)
  (resolved : Verification.dependencies later.files config options = .ok dependencies)
include loaded built resolved

theorem perform_verify {verdicts : List Verdict} (found : verdicts? verifier dependencies options.rule = some verdicts) :
    session.perform (verify project options) = later.perform (conclude config options.format verdicts) := by
  rw [verify, perform_bind_of_ok loaded, perform_bind_of_ok perform_get, resolved,
    perform_bind_of_ok (perform_require_ok dependencies), built, perform_bind_of_ok (perform_require_ok verifier), found]
  rfl

theorem perform_verify_unknown (unknown : verdicts? verifier dependencies options.rule = none) :
    session.perform (verify project options) = (.error (.exit 2),
      later.telling .error [unknownNumber (options.rule.getD 0) verifier.rules.length]) := by
  rw [verify, perform_bind_of_ok loaded, perform_bind_of_ok perform_get, resolved,
    perform_bind_of_ok (perform_require_ok dependencies), built, perform_bind_of_ok (perform_require_ok verifier),
    unknown]
  rfl

end

theorem verdicts?_succ (number : Nat) : verdicts? verifier dependencies (some (number + 1)) =
    (verifier.verify dependencies)[number]?.map ([·]) := by
  rw [Verifier.verify, Verifier.getElem?_mapRules]
  rfl

theorem verdicts?_eq_none_iff :
    verdicts? verifier dependencies (some number) = none ↔ number = 0 ∨ verifier.rules.length < number := by
  cases number with
  | zero => simp [verdicts?]
  | succ number =>
    rw [verdicts?, Verifier.verifyRule, Option.map_eq_none_iff, Option.map_eq_none_iff, List.getElem?_eq_none_iff]
    omega

/-- The number by which a verification picks a rule is one more than the number with which it is listed. No rule is
picked by zero, with which the first rule is listed, nor by a number that is greater than that of rules. -/
theorem picks_listed_succ (loaded : (session.perform project.load).1 = .ok config) (verifiable : config.Verifiable) :
    ∃ verifier, config.verifier = .ok verifier ∧
      (∀ asJson, ∃ later, session.perform (project.loadValid !asJson) = (.ok config, later) ∧
        session.perform (RuleListing.list project asJson) =
          (.ok (), later.telling .message (RuleListing.lines verifier.rules asJson))) ∧
      ∀ options : VerifyOptions, ∃ later,
        session.perform (project.loadValid (options.format = .human)) = (.ok config, later) ∧
        ∀ dependencies, Verification.dependencies later.files config options = .ok dependencies →
          let run (number : Option Nat) := session.perform (verify project { options with rule := number })
          run none = later.perform (conclude config options.format (verifier.verify dependencies)) ∧
          (∀ number rule, RuleListing.Lists verifier.rules number rule →
            (verifier.verify dependencies)[number]? = some (verifier.evaluate dependencies number rule) ∧
            run (some (number + 1)) =
              later.perform (conclude config options.format [verifier.evaluate dependencies number rule])) ∧
          ∀ number, number = 0 ∨ verifier.rules.length < number →
            run (some number) = (.error (.exit 2), later.telling .error [unknownNumber number verifier.rules.length]) := by
  obtain ⟨verifier, built⟩ := Acceptance.isOk_iff.mp verifiable.verifier
  refine ⟨verifier, built, fun asJson => ?_, fun options => ?_⟩
  · obtain ⟨later, done⟩ := Project.exists_loadValid loaded verifiable !asJson
    exact ⟨later, done, RuleListing.perform_list done built⟩
  · obtain ⟨later, done⟩ := Project.exists_loadValid loaded verifiable (options.format = .human)
    refine ⟨later, done, ?_⟩
    intro dependencies resolved run
    refine ⟨?_, ?_, ?_⟩
    · exact perform_verify { options with rule := none } done built resolved rfl
    · intro number rule listed
      have verdict : (verifier.verify dependencies)[number]? = some (verifier.evaluate dependencies number rule) := by
        rw [Verifier.verify, Verifier.getElem?_mapRules, RuleListing.lists_iff.mp listed, Option.map_some]
      refine ⟨verdict, ?_⟩
      apply perform_verify { options with rule := some (number + 1) } done built resolved
      rw [verdicts?_succ, verdict, Option.map_some]
    · intro number unknown
      apply perform_verify_unknown { options with rule := some number } done built resolved
      exact verdicts?_eq_none_iff.mpr unknown

/-- The options give no versions of their own. -/
theorem dependencies_of_config {files : Files} {rule : Option Nat} {format : ReportFormat}
    (read : config.dependencySet = .ok dependencies) :
    Verification.dependencies files config { rule, format } = .ok dependencies := by
  rw [dependencies_eq, read]
  rfl

section
/-- A rule that fails with what is resolved, and one that passes. -/
private def rulesText : String :=
  "rules: [\x7bgroup: g, module: a, versions: 1, assert: fail\x7d, \x7bgroup: g, module: b, versions: 1\x7d]\n" ++
    "resolved: \x7bg:a: 1, g:b: 1\x7d"

private def rulesProject : Project := { root := "/p" }

private def rulesSession : Session :=
  { files := { entries := [(["p", ".muzzle", "config.yml"], .text rulesText)] } }

private def rulesConfig : Config :=
  { rules := [{ group := "g", module := "a", versions := "1", assertion := .fail },
      { group := "g", module := "b", versions := "1" }]
    resolved := .ofList [("g:a", "1"), ("g:b", "1")] }

private theorem rules_loaded : (rulesSession.perform rulesProject.load).1 = .ok rulesConfig := by
  decide +kernel

private theorem rules_verifiable : rulesConfig.Verifiable :=
  Config.isOk_validate_iff.mp (by decide +kernel)

theorem picks_listed_succ_first :
    (rulesSession.perform rulesProject.load).1 = .ok rulesConfig ∧ rulesConfig.Verifiable ∧
      ∃ verifier dependencies later verdict, rulesConfig.verifier = .ok verifier ∧
        rulesConfig.dependencySet = .ok dependencies ∧ (verifier.verify dependencies)[0]? = some verdict ∧
        rulesSession.perform (verify rulesProject { rule := some 1 }) =
          Session.perform later (conclude rulesConfig .human [verdict]) ∧
        rulesSession.perform (verify rulesProject { rule := some 0 }) =
          (.error (.exit 2), later.telling .error [unknownNumber 0 verifier.rules.length]) := by
  obtain ⟨verifier, built, -, runs⟩ := picks_listed_succ rules_loaded rules_verifiable
  obtain ⟨dependencies, read⟩ := Acceptance.isOk_iff.mp rules_verifiable.dependencies
  obtain ⟨later, -, picks⟩ := runs {}
  obtain ⟨-, listed, unknown⟩ := picks dependencies (dependencies_of_config read)
  have several : rulesConfig.verifier.toOption.any (0 < ·.rules.length) := by decide +kernel
  rw [built] at several
  have found : verifier.rules[0]? = some _ := List.getElem?_eq_getElem (of_decide_eq_true several)
  obtain ⟨verdict, picked⟩ := listed 0 _ (RuleListing.lists_iff.mpr found)
  exact ⟨rules_loaded, rules_verifiable, verifier, dependencies, later, _, built, read, verdict, picked,
    unknown 0 (.inl rfl)⟩

/-- The first rule is listed with zero, by which it is not found. One is listed for the second rule, which passes, and
picks the first one, which fails. -/
theorem listed_number_picks_other :
    (rulesSession.perform rulesProject.load).1 = .ok rulesConfig ∧ rulesConfig.Verifiable ∧
      ∃ verifier dependencies first second later failure success, rulesConfig.verifier = .ok verifier ∧
        rulesConfig.dependencySet = .ok dependencies ∧ verifier.verify dependencies = [failure, success] ∧
        failure.isFailure ∧ success.isPass ∧
        RuleListing.Lists verifier.rules 0 first ∧ RuleListing.Lists verifier.rules 1 second ∧
        rulesSession.perform (verify rulesProject { rule := some 0 }) =
          (.error (.exit 2), Session.telling later .error ["No rule 0 (the config declares 2)"]) ∧
        rulesSession.perform (verify rulesProject { rule := some 1 }) =
          later.perform (conclude rulesConfig .human [failure]) := by
  obtain ⟨verifier, built⟩ := Acceptance.isOk_iff.mp rules_verifiable.verifier
  obtain ⟨dependencies, read⟩ := Acceptance.isOk_iff.mp rules_verifiable.dependencies
  obtain ⟨later, loaded⟩ := Project.exists_loadValid rules_loaded rules_verifiable true
  have several : rulesConfig.verifier.toOption.any (·.rules.length = 2) := by decide +kernel
  have verified : (rulesConfig.verifier.toOption.bind fun verifier => rulesConfig.dependencySet.toOption.map fun all =>
      ((verifier.verify all).map (·.isFailure), (verifier.verify all).map (·.isPass))) =
        some ([true, false], [false, true]) := by
    decide +kernel
  rw [built] at several verified
  rw [read] at verified
  obtain ⟨first, second, rules⟩ := List.length_eq_two.mp (of_decide_eq_true several)
  obtain ⟨failure, success, verdicts⟩ : ∃ failure success, verifier.verify dependencies = [failure, success] :=
    List.length_eq_two.mp (by simpa using congrArg List.length (Prod.mk.inj (Option.some.inj verified)).1)
  have outcomes := Prod.mk.inj (Option.some.inj verified)
  simp only [verdicts, List.map_cons, List.map_nil, List.cons.injEq, and_true] at outcomes
  refine ⟨rules_loaded, rules_verifiable, verifier, dependencies, first, second, later, failure, success, built, read,
    verdicts, outcomes.1.1, outcomes.2.2, ?_, ?_, ?_, ?_⟩
  · exact RuleListing.lists_iff.mpr (by rw [rules]; rfl)
  · exact RuleListing.lists_iff.mpr (by rw [rules]; rfl)
  · have refused := perform_verify_unknown { rule := some 0 } loaded built (dependencies_of_config read) rfl
    have text : unknownNumber 0 2 = "No rule 0 (the config declares 2)" := by decide +kernel
    rw [rules] at refused
    exact text ▸ refused
  · apply perform_verify { rule := some 1 } loaded built (dependencies_of_config read)
    rw [verdicts?_succ, verdicts]
    rfl

end

end Verification
end Linkage
