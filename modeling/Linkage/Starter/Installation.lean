import Linkage.Project
import Linkage.Starter

/-! Giving a project its first configuration. -/

namespace Linkage.Starter
open Session

/-- What is kept out of version control. -/
def privateEntries : List String :=
  [".muzzle/config.local.yml", ".muzzle/cache/"]

/-- The private entries that are no lines of a list of ignored files. -/
def missingEntries (ignored : String) : List String :=
  let lines := (Text.lines ignored.toList).map fun line => String.ofList (Text.trim line)
  privateEntries.filter fun entry => !lines.contains entry

/-- A list of ignored files with entries added, each on a line of its own. -/
def withEntries (ignored : String) (entries : List String) : String :=
  let start := if ignored.isEmpty || ignored.endsWith "\n" then ignored else ignored ++ "\n"
  start ++ String.join (entries.map (· ++ "\n"))

/-- Adds the private entries to the list of ignored files, if the project has one. -/
def updateIgnored (root : String) : Action Unit := do
  let path := Path.join root ".gitignore"
  let files := (← get).files
  if files.contains path then
    let ignored ← require ((files.read path).mapError fun failure => .inputOutput failure.reason)
    let missing := missingEntries ignored
    if !missing.isEmpty then
      change (files.write path (withEntries ignored missing))
      tell .message ("Added " ++ Text.join ", " missing ++ " to .gitignore")

def nextSteps : List String :=
  ["\nNext steps:", "  1. Describe your instrumentation's references and the catalog",
    "  2. Run `muzzle verify` to check the resolved versions",
    "  3. Run `muzzle matrix` to check every rule's whole range"]

/-- Writes a starter as the configuration of a project. One that is there already is replaced only by force. -/
def install (root : String) (template : Option String) (force : Bool) : Action Unit := do
  let path := Config.sharedPath root
  if (← get).files.contains path && !force then
    tell .warning "Configuration already exists. Use --force to overwrite."
    stop 1
  let name := template.getD defaultName
  match text name with
  | .error error =>
    tell .error error.message
    stop 1
  | .ok content =>
    change ((← get).files.makeDirectory (Path.join root Config.directory))
    change ((← get).files.write path content)
    updateIgnored root
    tell .success ("Created .muzzle/config.yml from template '" ++ name ++ "'")
    tellAll .message nextSteps

end Linkage.Starter
