import Linkage.Elapsed
import Linkage.Error
import Linkage.Files
import Linkage.Notice
import Linkage.Repository.Fetch

/-! One run of a command: the files it works on, what it tells, and how it ends. -/

namespace Linkage

/-- What a run finds around it, apart from the files. -/
structure Surroundings where
  now : Instant
  /-- How requests to repositories are answered. -/
  send : Repository.Request := Repository.unreachable
  /-- How long it takes to evaluate a matrix. -/
  elapsed : Elapsed := {}

structure Session where
  files : Files := {}
  /-- How much is told from now on. -/
  mode : OutputMode := .normal
  /-- All notices, each with the mode in which it was given. -/
  log : List (OutputMode × Notice) := []
  deriving DecidableEq, Repr

/-- Why a run ends before its end. What it has told and written by then stays. -/
inductive Stop where
  /-- The command has told what is wrong. -/
  | exit (code : Nat)
  | failure (error : Error)
  deriving DecidableEq, Repr

abbrev Action := ExceptT Stop (StateM Session)

namespace Session

def notices (session : Session) : List Notice :=
  session.log.map (·.2)

def tell (kind : NoticeKind) (text : String) : Action Unit :=
  modify fun session => { session with log := session.log ++ [(session.mode, ⟨kind, text⟩)] }

def tellAll (kind : NoticeKind) (texts : List String) : Action Unit :=
  texts.forM (tell kind)

def stop {α : Type} (code : Nat) : Action α :=
  throw (.exit code)

/-- Goes on with a result, or ends the run with its error. -/
def require {α : Type} : Except Error α → Action α
  | .ok value => return value
  | .error error => throw (.failure error)

/-- Goes on with changed files. -/
def change (result : Except AccessFailure Files) : Action Unit := do
  let files ← require (result.mapError fun failure => .inputOutput failure.reason)
  modify fun session => { session with files }

def run (session : Session) (action : Action Unit) : Session × Except Stop Unit :=
  let (result, session) := (ExceptT.run action).run session
  (session, result)

end Session
end Linkage
