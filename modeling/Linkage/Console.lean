import Linkage.Notice
import Linkage.Theme

/-! How notices are written. Reports stay on the standard output; on a plain console the warnings and errors are kept
apart from them. -/

namespace Linkage

structure Written where
  out : String := ""
  err : String := ""
  deriving DecidableEq, Repr

def Written.append (first second : Written) : Written :=
  ⟨first.out ++ second.out, first.err ++ second.err⟩

instance : Append Written := ⟨Written.append⟩

inductive Console where
  /-- Lines without styles, as other programs read them. -/
  | plain
  /-- All on the standard output, in the styles of a theme; only a screen shows spinners. -/
  | terminal (theme : Theme)
  deriving DecidableEq, Repr

namespace Console

/-- The console for people is taken where there are both a screen and somebody who looks at it. -/
def suited (interactive isScreen : Bool) (theme : Theme) : Console :=
  if interactive && isScreen then terminal theme else plain

/-- Whether a mode shows notices of a kind; errors are shown in every mode. -/
def shows (mode : OutputMode) : NoticeKind → Bool
  | .error => true
  | .spinner | .spinnerSuccess | .spinnerError | .spinnerSkipped | .progress _ => mode.showsProgress
  | _ => mode.showsStatus

def line (text : String) : Written :=
  { out := text ++ "\n" }

def errorLine (text : String) : Written :=
  { err := text ++ "\n" }

/-- A notice on a plain console. Of a spinner only the start is told. -/
def writePlain (notice : Notice) : Written :=
  let theme := Theme.plain
  match notice.kind with
  | .message => line notice.text
  | .success => line (theme.success notice.text)
  | .warning => errorLine (theme.warning notice.text)
  | .error => errorLine (theme.error notice.text)
  | .header => line ("\n" ++ notice.text ++ "\n")
  | .hint => line ("  " ++ notice.text)
  | .spinner => errorLine notice.text
  | .spinnerSuccess | .spinnerError | .spinnerSkipped | .progress _ => {}

def writeThemed (theme : Theme) (notice : Notice) : Written :=
  match notice.kind with
  | .message => line notice.text
  | .success => line (theme.success notice.text)
  | .warning => line (theme.warning notice.text)
  | .error => line (theme.error notice.text)
  | .header => line ("\n" ++ theme.header notice.text ++ "\n")
  | .hint => line ("  " ++ theme.hint notice.text)
  | .spinner | .spinnerSuccess | .spinnerError | .spinnerSkipped | .progress _ => {}

def write (console : Console) (mode : OutputMode) (notice : Notice) : Written :=
  if !shows mode notice.kind then {}
  else
    match console with
    | plain => writePlain notice
    | terminal theme => writeThemed theme notice

end Console
end Linkage
