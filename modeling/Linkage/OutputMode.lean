import Linkage.Text.Lowercase

/-! How much the program tells. -/

namespace Linkage

inductive OutputMode where
  /-- Skipped samples are listed too. -/
  | verbose
  /-- Headers, findings and the summary. -/
  | normal
  /-- Findings and the summary, but no progress. -/
  | quiet
  /-- Errors only. -/
  | silent
  deriving DecidableEq, Repr, Inhabited

namespace OutputMode

def word : OutputMode → String
  | verbose => "verbose"
  | normal => "normal"
  | quiet => "quiet"
  | silent => "silent"

def ofWord? : String → Option OutputMode
  | "verbose" => some verbose
  | "normal" => some normal
  | "quiet" => some quiet
  | "silent" => some silent
  | _ => none

/-- Reads a word in any letter case; what is wrong with another text is told. -/
def parse (text : String) : Except String OutputMode :=
  match ofWord? (Text.lowercase text) with
  | some mode => return mode
  | none => throw ("unknown output mode: " ++ text)

/-- Whether hints about skipped samples are listed. -/
def showsHints (mode : OutputMode) : Bool :=
  mode = verbose

/-- Whether spinners and progress bars are drawn. -/
def showsProgress (mode : OutputMode) : Bool :=
  mode = verbose || mode = normal

def showsStatus (mode : OutputMode) : Bool :=
  mode ≠ silent

end OutputMode
end Linkage
