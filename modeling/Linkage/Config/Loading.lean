import Linkage.Config.Json
import Linkage.Files
import Linkage.Yaml.Reading
import Linkage.Yaml.Value.Layering
import Linkage.Yaml.Value.Reader
import Linkage.Yaml.Value.Writer

/-! Finding and loading the configuration of a project. Local settings are laid over the shared ones as plain data,
in which version numbers keep their digits; the result is read again as a configuration. -/

namespace Linkage

/-- Reads a list of resolved versions by key. -/
def DependencySet.load (files : Files) (path : String) : Except Error DependencySet := do
  let text ← (files.read path).mapError fun failure => .inputOutput failure.reason
  let entries ← (Yaml.readAs (fun reading => reading.textMap) text).mapError fun fault =>
    .configUnreadable path fault.text
  DependencySet.parse entries.entries

namespace Config

def directory : String := ".muzzle"

/-- Where the shared configuration of a project is, whether or not it is there. -/
def sharedPath (root : String) : String :=
  Path.join (Path.join root directory) "config.yml"

/-- Where the settings are that are laid over the shared ones. -/
def localPath (root : String) : String :=
  Path.join (Path.join root directory) "config.local.yml"

/-- The configuration files of a project that are there, the one that is laid over the others last. -/
def layerPaths (files : Files) (root : String) : List String :=
  [sharedPath root, localPath root].filter files.contains

/-- The nearest directory from here upwards that has a configuration, else the nearest repository. -/
def projectRoot? (files : Files) (start : String) : Option String :=
  let candidates := Path.andAbove start
  (candidates.find? fun path => files.isDirectory (Path.join path directory)).or
    (candidates.find? fun path => files.contains (Path.join path ".git"))

def readText (files : Files) (path : String) : Except Error String :=
  (files.read path).mapError fun
    | .missing => .configNotFound path
    | failure => .inputOutput failure.reason

/-- Reads a configuration; a blank text is one without any settings. -/
def parse (text path : String) : Except Error Config :=
  if (Text.trim text.toList).isEmpty then return {}
  else (Yaml.readAs (fun reading => reading.config) text).mapError fun fault => .configUnreadable path fault.text

def loadFile (files : Files) (path : String) : Except Error Config := do
  parse (← readText files path) path

def loadValue (files : Files) (path : String) : Except Error Yaml.Value := do
  let text ← readText files path
  if (Text.trim text.toList).isEmpty then return .null
  (Yaml.Value.parse true text).mapError fun fault => .configUnreadable path fault.text

def ofLayered (path : String) (value : Yaml.Value) : Except Error Config :=
  (Yaml.readAs (fun reading => reading.config) value.text).mapError fun fault =>
    .configUnreadable path ("Failed to parse merged config: " ++ fault.text)

/-- The configuration of a project. -/
def loadProject (files : Files) (root : String) : Except Error Config := do
  let shared := sharedPath root
  if !files.contains shared then throw (.configNotFound shared)
  -- Only where there are local settings is the configuration read as data and laid over.
  if !files.contains (localPath root) then return ← loadFile files shared
  let layers ← (layerPaths files root).mapM (loadValue files)
  ofLayered shared (Yaml.Value.layered layers)

/-- One named file alone, or the configuration of a project. -/
def load (files : Files) (root : String) : Option String → Except Error Config
  | some path => loadFile files path
  | none => loadProject files root

end Config
end Linkage
