import Linkage.Text.Blank

/-! The files that a run of the program can see, as a value. Names are looked up as they are written: a name and the
place where it leads are told apart, because messages show the name. -/

namespace Linkage

namespace Path

/-- An absolute path, or one that goes on from `base`. -/
def join (base rest : String) : String :=
  if rest.startsWith "/" || base.isEmpty then rest
  else if base.endsWith "/" then base ++ rest
  else base ++ "/" ++ rest

/-- The names in a path. -/
def names (path : String) : List String :=
  (Text.fields '/' path.toList).filterMap fun name =>
    if name.isEmpty || name = ['.'] then none else some (.ofList name)

/-- The path without its last name; a path without names has none above it. -/
def parent? (path : String) : Option String :=
  match (names path).dropLast, names path with
  | _, [] => none
  | above, _ => some ((if path.startsWith "/" then "/" else "") ++ Text.join "/" above)

/-- The paths above a path, the nearest first, for at most a number of steps. -/
def above : Nat → String → List String
  | 0, _ => []
  | steps + 1, path =>
    match parent? path with
    | some parent => parent :: above steps parent
    | none => []

def andAbove (path : String) : List String :=
  path :: above (names path).length path

end Path

/-- The names that lead to a place from the top. -/
abbrev Place := List String

inductive Entry where
  | text (content : String)
  /-- A file whose bytes are no text. -/
  | binary
  | directory
  deriving DecidableEq, Repr

inductive AccessFailure where
  | missing
  | isDirectory
  | notDirectory
  | notText
  | occupied
  deriving DecidableEq, Repr

namespace AccessFailure

def reason : AccessFailure → String
  | missing => "No such file or directory (os error 2)"
  | isDirectory => "Is a directory (os error 21)"
  | notDirectory => "Not a directory (os error 20)"
  | notText => "stream did not contain valid UTF-8"
  | occupied => "File exists (os error 17)"

end AccessFailure

/-- Files and directories by their places. The directories above an entry are there without being listed. -/
structure Files where
  /-- The directory that relative paths start from. -/
  current : Place := []
  entries : List (Place × Entry) := []
  deriving DecidableEq, Repr

namespace Files
variable (files : Files)

/-- One name further; two points go back. -/
def step (place : Place) (name : String) : Place :=
  if name = ".." then place.dropLast else place ++ [name]

def place (path : String) : Place :=
  (Path.names path).foldl step (if path.startsWith "/" then [] else files.current)

/-- What is listed at a place, or that there is a directory above listed entries. -/
def entryAt? (place : Place) : Option Entry :=
  match files.entries.lookup place with
  | some entry => some entry
  | none =>
    if place.isEmpty || files.entries.any (fun entry => place.isPrefixOf entry.1) then some .directory else none

def entry? (path : String) : Option Entry :=
  files.entryAt? (files.place path)

def contains (path : String) : Bool :=
  (files.entry? path).isSome

def isDirectory (path : String) : Bool :=
  files.entry? path = some .directory

def isFile (place : Place) : Bool :=
  match files.entries.lookup place with
  | some (.text _) => true
  | some .binary => true
  | _ => false

/-- Whether a file stands where a directory above the place should be. -/
def isBlocked (place : Place) : Bool :=
  (List.range place.length).any fun count => files.isFile (place.take count)

def read (path : String) : Except AccessFailure String :=
  match files.entry? path with
  | some (.text content) => return content
  | some .binary => throw .notText
  | some .directory => throw .isDirectory
  | none => throw (if files.isBlocked (files.place path) then .notDirectory else .missing)

/-- Lists an entry in place of what was there. -/
def put (place : Place) (entry : Entry) : Files :=
  { files with entries := files.entries.filter (·.1 ≠ place) ++ [(place, entry)] }

/-- Writes a file whose directory is there. -/
def write (path content : String) : Except AccessFailure Files :=
  let place := files.place path
  match files.entryAt? place with
  | some .directory => throw .isDirectory
  | some _ => return files.put place (.text content)
  | none =>
    if files.isBlocked place then throw .notDirectory
    else if files.entryAt? place.dropLast = some .directory then return files.put place (.text content)
    else throw .missing

/-- Makes a directory and those above it, as far as they are not there. -/
def makeDirectory (path : String) : Except AccessFailure Files :=
  let place := files.place path
  if files.isFile place then throw .occupied
  else if files.isBlocked place then throw .notDirectory
  else if files.entryAt? place = some .directory then return files
  else return files.put place .directory

def removeDirectory (path : String) : Except AccessFailure Files :=
  let place := files.place path
  match files.entryAt? place with
  | some .directory => return { files with entries := files.entries.filter fun entry => !place.isPrefixOf entry.1 }
  | some _ => throw .notDirectory
  | none => throw .missing

end Files
end Linkage
