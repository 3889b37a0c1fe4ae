import Linkage.Command
import Linkage.Project
import Linkage.Table

/-! Verifying the rules of a project, against the versions it has resolved or against samples of all ranges. -/

namespace Linkage.Verification
open Session

/-- The name of a project, or else that of the program. -/
def title (config : Config) : String :=
  config.name.getD "muzzle"

/-- The kind of notice for a line of a report. -/
def lineKind (line : String) : NoticeKind :=
  if line.startsWith "error" then .error
  else if line.startsWith "warning" then .warning
  else .message

/-- Tells a report: for people line by line, for programs as one message. -/
def tellReport (format : ReportFormat) (verdicts : List Verdict) (summary : Summary) : Action Unit := do
  let text := format.render (Diagnostic.ofVerdicts verdicts) summary false (← get).mode.showsHints
  if format = .human then
    ((Text.lines text.toList).map String.ofList).forM fun line => tell (lineKind line) line
  else tell .message (.ofList (Text.trimEnd text.toList))

/-- The versions of the configuration, then those of a file, then single ones; of several versions of a library the
last counts. -/
def dependencies (files : Files) (config : Config) (options : VerifyOptions) : Except Error DependencySet := do
  let configured ← config.dependencySet
  let loaded ← match options.resolved with
    | none => pure configured
    | some path => pure ((← DependencySet.load files path).foldl (fun all (key, version) => all.insert key version)
        configured)
  options.assignments.foldlM (fun all assignment => do
    let (key, version) ← DependencySet.parseAssignment assignment
    return all.insert key version) loaded

/-- The verdicts of all rules, or of the one with a number; there may be no rule with that number. -/
def verdicts? (verifier : Verifier) (dependencies : DependencySet) : Option Nat → Option (List Verdict)
  | none => some (verifier.verify dependencies)
  | some 0 => none
  | some (index + 1) => (verifier.verifyRule index dependencies).map ([·])

def verify (project : Project) (options : VerifyOptions) : Action Unit := do
  let forPeople := options.format = .human
  let config ← project.loadValid forPeople
  let dependencies ← require (dependencies (← get).files config options)
  let verifier ← require config.verifier
  match verdicts? verifier dependencies options.rule with
  | none =>
    tell .error ("No rule " ++ toString (options.rule.getD 0) ++ " (the config declares " ++
      toString verifier.rules.length ++ ")")
    stop 2
  | some verdicts =>
    let summary := Summary.ofVerdicts verdicts
    if forPeople then tell .header ("Verifying " ++ title config)
    tellReport options.format verdicts summary
    if 0 < summary.failed then stop 1
    if forPeople then
      if summary.passed = 0 then tell .warning "No rule matched the resolved dependencies"
      else tell .success "All rules pass"

def repository (project : Project) (config : Config) : Repository :=
  { Repository.ofUrl config.settings.repositoryUrl with
    cache := some ⟨project.listingsPath, config.settings.cacheTtlSeconds.toNat⟩ }

/-- Fetches the versions of one library and adds them to the candidates. A failure is told, and changes nothing. -/
def fetchInto (surroundings : Surroundings) (repository : Repository) (candidates : Candidates) (key : ModuleKey) :
    Action Candidates := do
  tell .spinner ("Fetching versions of " ++ key.text)
  let (files, result) := repository.fetch surroundings.send (← get).files surroundings.now key
  modify fun session => { session with files }
  match result with
  | .ok versions =>
    tell .spinnerSuccess (key.text ++ ": " ++ toString versions.length ++ " version(s)")
    return candidates.extend key versions
  | .error error =>
    tell .spinnerError (key.text ++ ": fetch failed")
    tell .warning ("Could not fetch versions of " ++ key.text ++ ": " ++ error.message)
    return candidates

/-- The libraries that rules are about, each once, in the order of their keys. -/
def libraries (verifier : Verifier) : List ModuleKey :=
  ModuleSet.ofList (verifier.rules.map (·.key))

/-- The candidates that were given, and those that are fetched for each library. -/
def candidates (surroundings : Surroundings) (repository : Repository) (verifier : Verifier)
    (options : MatrixOptions) : Action Candidates := do
  let given ← require (options.candidates.foldlM Candidates.addSpec {})
  if options.fetch then (libraries verifier).foldlM (fetchInto surroundings repository) given else return given

def verdictTable (verdicts : List Verdict) : Table :=
  verdicts.foldl (fun table verdict => table.addRow
    [verdict.label, verdict.key.text, verdict.versionLabel, verdict.expectation.word, verdict.status])
    { headers := ["Rule", "Module", "Version", "Expect", "Status"] }

/-- Tells a table line by line, with an empty line after it. -/
def tellTable (table : Table) : Action Unit := do
  tellAll .message ((Text.lines table.text.toList).map String.ofList)
  tell .message ""

def matrix (surroundings : Surroundings) (project : Project) (options : MatrixOptions) : Action Unit := do
  let forPeople := options.format = .human
  let config ← project.loadValid forPeople
  let verifier ← require config.verifier
  let candidates ← candidates surroundings (repository project config) verifier options
  if forPeople then tell .header ("Matrix for " ++ title config)
  tell (.progress verifier.rules.length) "Verifying rules"
  let report := verifier.matrix candidates
  if forPeople && (← get).mode = .verbose then tellTable (verdictTable report.verdicts)
  tellReport options.format report.verdicts (.ofReport report)
  if !report.isSuccess then stop 1
  if forPeople then
    tell .success (toString verifier.rules.length ++ " rule(s) compatible across " ++ toString report.passed ++
      " sample(s) in " ++ surroundings.elapsed.text)

end Linkage.Verification
