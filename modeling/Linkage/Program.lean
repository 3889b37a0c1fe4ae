import Linkage.CommandLine.Invocation
import Linkage.Config.Display
import Linkage.Config.Schema
import Linkage.Console
import Linkage.RuleListing
import Linkage.Starter.Installation

/-! The program as a whole: a command line is carried out on files, and gives an exit code and what is written. -/

namespace Linkage

/-- Carries out a command. The scripts that complete command lines are not part of this library. -/
def Command.execute (surroundings : Surroundings) (project : Project) : Command → Action Unit
  | verify options => Verification.verify project options
  | matrix options => Verification.matrix surroundings project options
  | rules json => RuleListing.list project json
  | config json check => Config.display project json check
  | init template force => Starter.install project.root template force
  | schema => Session.tell .message Config.Schema.text
  | completions _ => return

namespace Invocation

def commandToRun (invocation : Invocation) : Command :=
  invocation.command.getD (.verify {})

def execute (surroundings : Surroundings) (files : Files) (root : String) (invocation : Invocation) :
    Session × Except Stop Unit :=
  ({ files, mode := invocation.mode } : Session).run
    (invocation.commandToRun.execute surroundings ⟨root, invocation.config⟩)

end Invocation

/-- The variables of the environment, and whether the standard output is a screen. -/
structure Environment where
  values : List (String × String) := []
  isScreen : Bool := false
  deriving DecidableEq, Repr

namespace Environment
variable (environment : Environment)

def has (name : String) : Bool :=
  environment.values.any (·.1 = name)

/-- Whether a server runs the program, so that nobody looks at the screen. -/
def isAutomated : Bool :=
  ["CI", "GITHUB_ACTIONS", "GITLAB_CI", "CIRCLECI", "TRAVIS", "JENKINS_URL"].any environment.has

def theme (noColor : Bool) : Theme :=
  if noColor || environment.has "NO_COLOR" || !environment.isScreen then .plain else .colored

def console (noColor : Bool) : Console :=
  .suited (!environment.isAutomated) environment.isScreen (environment.theme noColor)

end Environment

/-- What is left when the program has ended. -/
structure Completion where
  exitCode : Nat
  files : Files
  written : Written
  deriving DecidableEq, Repr

namespace Program

def currentPath (files : Files) : String :=
  "/" ++ Text.join "/" files.current

/-- The project that is named, else the one around the current directory. -/
def rootOf (files : Files) (invocation : Invocation) : String :=
  let current := currentPath files
  invocation.project.getD ((Config.projectRoot? files current).getD current)

/-- The paths by which the project around the current directory is found. -/
def searchPaths (files : Files) : List String :=
  (Path.andAbove (currentPath files)).flatMap fun path => [Path.join path Config.directory, Path.join path ".git"]

/-- The directories and files that commands may look at, apart from the listings of a repository. -/
def projectPaths (root : String) (invocation : Invocation) : List String :=
  let resolved := match invocation.commandToRun with
    | .verify options => options.resolved
    | _ => none
  [root, Path.join root Config.directory, Config.sharedPath root, Config.localPath root, Path.join root ".gitignore"] ++
    invocation.config.toList ++ resolved.toList

/-- How a run ended: its exit code, and a last notice when it failed. -/
def ending : Except Stop Unit → Nat × Option Notice
  | .ok _ => (0, none)
  | .error (.exit code) => (code, none)
  | .error (.failure error) => (1, some ⟨.error, "Error: " ++ error.message⟩)

def write (console : Console) (log : List (OutputMode × Notice)) : Written :=
  log.foldl (fun written (mode, notice) => written ++ console.write mode notice) {}

def carryOut (surroundings : Surroundings) (environment : Environment) (files : Files) (invocation : Invocation) :
    Completion :=
  let (session, result) := invocation.execute surroundings files (rootOf files invocation)
  let (exitCode, last) := ending result
  let log := session.log ++ last.toList.map fun notice => (session.mode, notice)
  { exitCode, files := session.files, written := write (environment.console invocation.noColor) log }

def run (surroundings : Surroundings) (environment : Environment) (files : Files) (arguments : List String) :
    Except CommandLine.Refusal Completion := do
  let invocation ← Invocation.parse (environment.values.lookup "MUZZLE_CONFIG") arguments
  return carryOut surroundings environment files invocation

end Program
end Linkage
