import Linkage.Project

/-! Showing the configuration of a project, or checking it. -/

namespace Linkage.Config
open Session

/-- The problems that the reason of a refusal lists. -/
def problems (reason : String) : List String :=
  (Text.fieldsBetween "; ".toList 0 reason.toList).map String.ofList

/-- Tells whether the configuration is valid, or else each problem. -/
def check (config : Config) : Action Unit := do
  match config.validate with
  | .ok _ => tell .success "Configuration is valid"
  | .error (.configInvalid reason) =>
    tellAll .error (problems reason)
    stop 1
  | .error error => throw (.failure error)

/-- The files that a configuration was read from, as comments above it. -/
def tellLayers (project : Project) : Action Unit := do
  let paths := layerPaths (← get).files project.root
  tellAll .message (paths.map ("# " ++ ·))
  if !paths.isEmpty then tell .message ""

def display (project : Project) (asJson onlyCheck : Bool) : Action Unit := do
  let config ← project.load
  if onlyCheck then config.check
  else if asJson then tell .message config.toJson.pretty
  else
    tellLayers project
    tell .message (Yaml.Value.ofJson config.toJson).text

end Linkage.Config
