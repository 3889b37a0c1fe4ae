import Linkage.Program
import Std.Time.DateTime.Timestamp

/-! The command line program. It reads the files that a command may look at, carries the command out, and then writes
the files that have changed. -/

namespace Linkage.Machine

/-- What is found at a path is listed. A file that cannot be read counts as one without text. -/
def observe (files : Files) (path : String) : IO Files := do
  let found := (← IO.currentDir) / path
  let place := files.place path
  if ← found.isDir then return files.put place .directory
  if !(← found.pathExists) then return files
  try
    let bytes ← IO.FS.readBinFile found
    return files.put place ((String.fromUTF8? bytes).elim .binary .text)
  catch _ => return files.put place .binary

/-- Lists a directory with the files in it. -/
def observeAll (files : Files) (path : String) : IO Files := do
  let found := (← IO.currentDir) / path
  let files ← observe files path
  if !(← found.isDir) then return files
  (← found.readDir).foldlM (fun files entry => observe files (Path.join path entry.fileName)) files

/-- Writes the entries that were not there before. -/
def writeChanges (before after : Files) : IO Unit :=
  after.entries.forM fun (place, entry) => do
    let path := "/" ++ Text.join "/" place
    if before.entries.lookup place ≠ some entry then
      match entry with
      | .directory => IO.FS.createDirAll path
      | .text content => IO.FS.writeFile path content
      | .binary => return

def readEnvironment : IO Environment := do
  let names := ["MUZZLE_CONFIG", "NO_COLOR", "CI", "GITHUB_ACTIONS", "GITLAB_CI", "CIRCLECI", "TRAVIS", "JENKINS_URL"]
  let values ← names.filterMapM fun name => return (← IO.getEnv name).map (name, ·)
  return { values, isScreen := ← (← IO.getStdout).isTty }

def readNow : IO Instant := do
  let seconds := (← Std.Time.Timestamp.now).toSecondsSinceUnixEpoch.val
  return (Instant.ofParts? seconds 0).getD { seconds := 0 }

/-- Lists all that a command may look at. -/
def readFiles (invocation : Invocation) : IO Files := do
  let start : Files := { current := Path.names (← IO.currentDir).toString }
  let files ← (Program.searchPaths start).foldlM observe start
  let root := Program.rootOf files invocation
  let files ← (Program.projectPaths root invocation).foldlM observe files
  observeAll files (Project.listingsPath ⟨root, none⟩)

/-- The command is carried out twice, because the time that the first run takes is told in the second. -/
def carryOutTimed (environment : Environment) (files : Files) (invocation : Invocation) : IO Completion := do
  let now ← readNow
  let started ← IO.monoNanosNow
  let first ← IO.lazyPure fun _ => Program.carryOut { now } environment files invocation
  if first.exitCode ≠ 0 then return first
  let nanoseconds := (← IO.monoNanosNow) - started
  let elapsed : Elapsed := ⟨nanoseconds / nanosecondsPerSecond, nanoseconds % nanosecondsPerSecond⟩
  return Program.carryOut { now, elapsed } environment files invocation

end Linkage.Machine

open Linkage Machine

def main (arguments : List String) : IO UInt32 := do
  let environment ← readEnvironment
  match Invocation.parse (environment.values.lookup "MUZZLE_CONFIG") arguments with
  | .error refusal =>
    if refusal.exitCode = 0 then IO.println refusal.message else IO.eprintln refusal.message
    return refusal.exitCode.toUInt32
  | .ok invocation =>
    let files ← readFiles invocation
    let completion ← carryOutTimed environment files invocation
    writeChanges files completion.files
    IO.print completion.written.out
    IO.eprint completion.written.err
    return completion.exitCode.toUInt32
