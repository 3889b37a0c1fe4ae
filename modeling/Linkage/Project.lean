import Linkage.Config.Findings
import Linkage.Config.Loading
import Linkage.Session

/-! A project: the directory whose configuration the commands use. -/

namespace Linkage

structure Project where
  root : String
  /-- A configuration file to read in place of those of the project. -/
  configFile : Option String := none
  deriving DecidableEq, Repr

namespace Project
open Session

def listingsPath (project : Project) : String :=
  Path.join (Path.join (Path.join project.root Config.directory) "cache") "metadata"

/-- The mode that a configuration asks for counts unless another one was asked for. -/
def settledMode (mode : OutputMode) (config : Config) : OutputMode :=
  if mode = .normal then config.settings.defaultOutput else mode

/-- Loads the configuration. One that is not there or that cannot be read is told, and ends the run. -/
def load (project : Project) : Action Config := do
  match Config.load (← get).files project.root project.configFile with
  | .ok config =>
    modify fun session => { session with mode := settledMode session.mode config }
    return config
  | .error (.configNotFound _) =>
    tell .error "No configuration found. Run 'muzzle init' first."
    stop 2
  | .error (.configUnreadable path reason) =>
    tell .error ("Parse error in " ++ path ++ ": " ++ reason)
    stop 1
  | .error error => throw (.failure error)

def findingLine (finding : Config.Finding) : String :=
  let start := finding.location.elim "" (· ++ " ")
  start ++ "[" ++ finding.check ++ "]: " ++ finding.message

def tellFinding (showWarnings : Bool) (finding : Config.Finding) : Action Unit :=
  if finding.isError then tell .error (findingLine finding)
  else if showWarnings then tell .warning (findingLine finding)
  else return

/-- Loads the configuration and tells what was found in it; an error ends the run. -/
def loadValid (project : Project) (showWarnings : Bool) : Action Config := do
  let config ← project.load
  let findings := config.findings
  findings.forM (tellFinding showWarnings)
  if findings.any (·.isError) then stop 1
  return config

end Project
end Linkage
