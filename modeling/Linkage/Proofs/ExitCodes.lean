import Linkage.Program
import Linkage.Proofs.ListedNumbers
import Linkage.Proofs.ToldReports

/-! The exit codes of the commands that verify rules. Before and after its report such a run only tells things, so that
it ends as the summary of the report says. That agrees with the errors among the diagnostics, in every format. -/

namespace Linkage
open Session

/-- The session after some more notices. -/
def Session.logging (session : Session) (notices : List (OutputMode × Notice)) : Session :=
  { session with log := session.log ++ notices }

namespace Session
variable {session : Session}

theorem logging_nil : session.logging [] = session := by
  unfold logging
  rw [List.append_nil]

theorem logging_append (notices others : List (OutputMode × Notice)) :
    (session.logging notices).logging others = session.logging (notices ++ others) := by
  unfold logging
  rw [List.append_assoc]

def OnlyTells (action : Action Unit) : Prop :=
  ∀ session : Session, ∃ notices, session.perform action = (.ok (), session.logging notices)

theorem onlyTells_pure : OnlyTells (pure ()) := by
  intro session
  refine ⟨[], ?_⟩
  rw [perform_pure, logging_nil]

theorem onlyTells_tell (kind : NoticeKind) (text : String) : OnlyTells (tell kind text) := by
  intro session
  exact ⟨[(session.mode, ⟨kind, text⟩)], rfl⟩

end Session

namespace Verification
variable {format : ReportFormat} {verdicts : List Verdict} {summary : Summary} {session later last : Session}
  {action : Action Unit} {next : Unit → Action Unit} {done : Except Stop Unit × Session}

theorem onlyTells_tellTable (table : Table) : OnlyTells (tellTable table) :=
  fun _ => ⟨_, perform_tellTable table⟩

theorem perform_tellReport : session.perform (tellReport format verdicts summary) =
    (.ok (), session.logging (reportNotices format verdicts summary session.mode)) := by
  rw [tellReport, perform_bind_of_ok perform_get, reportNotices]
  dsimp only
  split
  · exact perform_forM_tell lineKind _
  · rfl

/-- How a run ends that has told a report. -/
structure Reported (format : ReportFormat) (verdicts : List Verdict) (summary : Summary)
    (done : Except Stop Unit × Session) : Prop where
  told : reportNotices format verdicts summary done.2.mode <:+: done.2.log
  exitCode : (Program.ending done.1).1 = if 0 < summary.failed then 1 else 0

theorem Reported.after (first : OnlyTells action)
    (reported : ∀ session : Session, Reported format verdicts summary (session.perform (next ()))) :
    Reported format verdicts summary (session.perform (action >>= next)) := by
  obtain ⟨notices, told⟩ := first session
  rw [perform_bind_of_ok told]
  exact reported _

/-- The first step is only taken sometimes. -/
theorem Reported.optional {p : Prop} [Decidable p] (first : OnlyTells action)
    (reported : ∀ session : Session, Reported format verdicts summary (session.perform (next ()))) :
    Reported format verdicts summary (session.perform (if p then action >>= next else next ())) := by
  split
  · exact Reported.after first reported
  · exact reported session

/-- A run may tell more once nothing has failed. -/
theorem reported_tellReport {p : Prop} [Decidable p] (stops : p ↔ 0 < summary.failed) (rest : Unit → Action Unit)
    (ends : OnlyTells (rest ())) : Reported format verdicts summary
      (session.perform (tellReport format verdicts summary >>= fun _ => if p then stop 1 >>= rest else rest ())) := by
  rw [perform_bind_of_ok perform_tellReport]
  by_cases failed : p
  · rw [if_pos failed, perform_bind, perform_stop]
    constructor
    · exact (List.suffix_append session.log _).isInfix
    · rw [if_pos (stops.mp failed)]
      rfl
  · obtain ⟨notices, told⟩ := ends (session.logging (reportNotices format verdicts summary session.mode))
    rw [if_neg failed, told]
    constructor
    · exact List.infix_append _ _ _
    · rw [if_neg (stops.not.mp failed)]
      rfl

theorem reported_conclude (config : Config) (format : ReportFormat) (verdicts : List Verdict) :
    Reported format verdicts (.ofVerdicts verdicts) (session.perform (conclude config format verdicts)) := by
  unfold conclude
  refine Reported.optional (onlyTells_tell _ _) ?_
  intro session
  apply reported_tellReport Iff.rfl
  split
  · split <;> exact onlyTells_tell _ _
  · exact onlyTells_pure

/-- What a matrix run does with its candidates. -/
def concludeMatrix (surroundings : Surroundings) (config : Config) (verifier : Verifier) (format : ReportFormat)
    (candidates : Candidates) : Action Unit := do
  let forPeople := format = .human
  if forPeople then tell .header ("Matrix for " ++ title config)
  tell (.progress verifier.rules.length) "Verifying rules"
  let report := verifier.matrix candidates
  if forPeople && (← get).mode = .verbose then tellTable (verdictTable report.verdicts)
  tellReport format report.verdicts (.ofReport report)
  if !report.isSuccess then stop 1
  if forPeople then
    tell .success (toString verifier.rules.length ++ " rule(s) compatible across " ++ toString report.passed ++
      " sample(s) in " ++ surroundings.elapsed.text)

theorem not_isSuccess_iff {report : Report} : (!report.isSuccess) = true ↔ 0 < (Summary.ofReport report).failed := by
  rw [Bool.not_eq_true', Report.isSuccess, decide_eq_false_iff_not, Nat.pos_iff_ne_zero]
  rfl

theorem reported_concludeMatrix (surroundings : Surroundings) (config : Config) (verifier : Verifier)
    (format : ReportFormat) (candidates : Candidates) :
    Reported format (verifier.matrix candidates).verdicts (.ofReport (verifier.matrix candidates))
      (session.perform (concludeMatrix surroundings config verifier format candidates)) := by
  unfold concludeMatrix
  refine Reported.optional (onlyTells_tell _ _) ?_
  intro session
  apply Reported.after (onlyTells_tell _ _)
  intro session
  rw [perform_bind_of_ok perform_get]
  refine Reported.optional (onlyTells_tellTable _) ?_
  intro session
  apply reported_tellReport not_isSuccess_iff
  split
  · exact onlyTells_tell _ _
  · exact onlyTells_pure

section
variable {project : Project} {config : Config} {verifier : Verifier} {surroundings : Surroundings}
  {options : MatrixOptions} {given candidates : Candidates}

theorem exists_candidates (read : options.candidates.foldlM Candidates.addSpec {} = .ok given)
    (repository : Repository) : ∃ candidates last,
      session.perform (Verification.candidates surroundings repository verifier options) = (.ok candidates, last) := by
  rw [Verification.candidates, read, perform_bind_of_ok (perform_require_ok given)]
  split
  · exact goesOn_foldlM (goesOn_fetchInto surroundings repository) _ given session
  · exact goesOn_pure given session

theorem perform_matrix (loaded : session.perform (project.loadValid (options.format = .human)) = (.ok config, later))
    (built : config.verifier = .ok verifier)
    (gathered : later.perform (Verification.candidates surroundings (repository project config) verifier options) =
      (.ok candidates, last)) :
    session.perform (matrix surroundings project options) =
      last.perform (concludeMatrix surroundings config verifier options.format candidates) := by
  rw [matrix, perform_bind_of_ok loaded, built, perform_bind_of_ok (perform_require_ok verifier),
    perform_bind_of_ok gathered]
  rfl

theorem gives_verdicts? {dependencies : DependencySet} {number : Option Nat}
    (found : verdicts? verifier dependencies number = some verdicts) : verifier.Gives verdicts := by
  match number with
  | none =>
    cases found
    exact .verified dependencies
  | some 0 => cases found
  | some (index + 1) =>
    obtain ⟨verdict, picked, rfl⟩ := Option.map_eq_some_iff.mp found
    exact .picked picked

end

/-- A run that has told a report ends with the exit code 1 if there are errors in the report, which is if a verdict is a
failure, and with 0 otherwise. The report shows its errors in every format. -/
structure Agrees (format : ReportFormat) (verdicts : List Verdict) (summary : Summary)
    (done : Except Stop Unit × Session) : Prop where
  told : reportNotices format verdicts summary done.2.mode <:+: done.2.log
  shows : Shows (Diagnostic.ofVerdicts verdicts) summary done.2.mode format
    (reportNotices format verdicts summary done.2.mode)
  exitCode : (Program.ending done.1).1 =
    if 0 < Diagnostic.count .error (Diagnostic.ofVerdicts verdicts) then 1 else 0
  failures : 0 < Diagnostic.count .error (Diagnostic.ofVerdicts verdicts) ↔ ∃ verdict ∈ verdicts, verdict.isFailure
  json : (Diagnostic.summaryJson (Diagnostic.ofVerdicts verdicts) summary).field? "errors" =
    some (.ofNat (Diagnostic.count .error (Diagnostic.ofVerdicts verdicts)))

theorem Reported.agrees {verifier : Verifier} (reported : Reported format verdicts summary done)
    (gives : verifier.Gives verdicts) (counted : summary.failed = (Summary.ofVerdicts verdicts).failed) :
    Agrees format verdicts summary done := by
  have failures := Diagnostic.errors_pos_iff gives.wellShaped
  constructor
  · exact reported.told
  · exact shows_reportNotices _ _ _ _
  · simp only [reported.exitCode, counted, Summary.failed_pos_iff, failures]
  · exact failures
  · exact Diagnostic.field?_errors_summaryJson _ _

/-- The commands that verify the rules of a project tell reports that agree with their exit codes. -/
structure RunsAgree (project : Project) (session : Session) (config : Config) (verifier : Verifier) : Prop where
  verified : ∀ options : VerifyOptions, ∃ later,
    session.perform (project.loadValid (options.format = .human)) = (.ok config, later) ∧
    ∀ dependencies, Verification.dependencies later.files config options = .ok dependencies →
      ∀ verdicts, verdicts? verifier dependencies options.rule = some verdicts →
        Agrees options.format verdicts (.ofVerdicts verdicts) (session.perform (verify project options))
  sampled : ∀ surroundings (options : MatrixOptions), ∃ later,
    session.perform (project.loadValid (options.format = .human)) = (.ok config, later) ∧
    ∀ given, options.candidates.foldlM Candidates.addSpec {} = .ok given → ∃ candidates last,
      later.perform (Verification.candidates surroundings (repository project config) verifier options) =
        (.ok candidates, last) ∧
      Agrees options.format (verifier.matrix candidates).verdicts (.ofReport (verifier.matrix candidates))
        (session.perform (matrix surroundings project options))

/-- Diagnostics follow the verdicts of a verifier, one by one and in number. Each command that tells a report of verdicts
ends with an exit code that agrees with it, and so does the program. -/
theorem reports_agree :
    (∀ (verifier : Verifier) verdicts, verifier.Gives verdicts →
      Diagnostic.Reflects verdicts (Diagnostic.ofVerdicts verdicts) ∧
      (Summary.ofVerdicts verdicts).total = verdicts.length) ∧
    (∀ (project : Project) (session : Session) config, (session.perform project.load).1 = .ok config →
      config.Verifiable → ∃ verifier, config.verifier = .ok verifier ∧ RunsAgree project session config verifier) ∧
    ∀ surroundings environment files invocation,
      (Program.carryOut surroundings environment files invocation).exitCode =
        (Program.ending (Session.perform { files, mode := invocation.mode } (invocation.commandToRun.execute surroundings
          ⟨Program.rootOf files invocation, invocation.config⟩)).1).1 := by
  refine ⟨?_, ?_, ?_⟩
  · intro verifier verdicts _
    exact ⟨Diagnostic.reflects_ofVerdicts verdicts, Summary.total_ofVerdicts verdicts⟩
  · intro project session config loaded verifiable
    obtain ⟨verifier, built⟩ := Acceptance.isOk_iff.mp verifiable.verifier
    refine ⟨verifier, built, ?_⟩
    constructor
    case verified =>
      intro options
      obtain ⟨later, done⟩ := Project.exists_loadValid loaded verifiable (options.format = .human)
      refine ⟨later, done, ?_⟩
      intro dependencies resolved verdicts found
      rw [perform_verify options done built resolved found]
      exact (reported_conclude config options.format verdicts).agrees (gives_verdicts? found) rfl
    case sampled =>
      intro surroundings options
      obtain ⟨later, done⟩ := Project.exists_loadValid loaded verifiable (options.format = .human)
      refine ⟨later, done, ?_⟩
      intro given read
      obtain ⟨candidates, last, gathered⟩ := exists_candidates read (repository project config)
      refine ⟨candidates, last, gathered, ?_⟩
      rw [perform_matrix done built gathered]
      exact (reported_concludeMatrix surroundings config verifier options.format candidates).agrees (.sampled candidates) rfl
  · intro surroundings environment files invocation
    rfl

section
private def brokenText : String :=
  "rules: [\x7bgroup: g, module: a, versions: 1, assert: fail\x7d]\nresolved: \x7bg:a: 1\x7d"

private def brokenProject : Project := { root := "/p" }

private def brokenSession : Session :=
  { files := { entries := [(["p", ".muzzle", "config.yml"], .text brokenText)] } }

private def brokenConfig : Config :=
  { rules := [{ group := "g", module := "a", versions := "1", assertion := .fail }]
    resolved := .ofList [("g:a", "1")] }

/-- Nothing is referenced, so that nothing fails as expected. -/
theorem reports_agree_broken : (brokenSession.perform brokenProject.load).1 = .ok brokenConfig ∧
    brokenConfig.Verifiable ∧ ∃ verifier dependencies verdicts, brokenConfig.verifier = .ok verifier ∧
      brokenConfig.dependencySet = .ok dependencies ∧ verifier.verify dependencies = verdicts ∧
      Diagnostic.Reflects verdicts (Diagnostic.ofVerdicts verdicts) ∧
      Agrees .json verdicts (.ofVerdicts verdicts) (brokenSession.perform (verify brokenProject { format := .json })) ∧
      (Program.ending (brokenSession.perform (verify brokenProject { format := .json })).1).1 = 1 := by
  have loaded : (brokenSession.perform brokenProject.load).1 = .ok brokenConfig := by decide +kernel
  have verifiable : brokenConfig.Verifiable := Config.isOk_validate_iff.mp (by decide +kernel)
  obtain ⟨reflects, agree, -⟩ := reports_agree
  obtain ⟨verifier, built, runs⟩ := agree brokenProject brokenSession brokenConfig loaded verifiable
  obtain ⟨dependencies, read⟩ := Acceptance.isOk_iff.mp verifiable.dependencies
  obtain ⟨later, -, agrees⟩ := runs.verified { format := .json }
  have agreed := agrees dependencies (dependencies_of_config read) (verifier.verify dependencies) rfl
  have failed : (brokenConfig.verifier.toOption.bind fun verifier => brokenConfig.dependencySet.toOption.map fun all =>
      (verifier.verify all).any (·.isFailure)) = some true := by
    decide +kernel
  rw [built, read] at failed
  have errors := agreed.failures.mpr (List.any_eq_true.mp (Option.some.inj failed))
  refine ⟨loaded, verifiable, verifier, dependencies, _, built, read, rfl, ?_, agreed, ?_⟩
  · exact (reflects verifier _ (.verified dependencies)).1
  · rw [agreed.exitCode, if_pos errors]

end

end Verification
end Linkage
