import Linkage.OutputMode
import Linkage.Text.Blank

/-! What a command tells the user, apart from how it is shown. -/

namespace Linkage

/-- What a notice is for. A spinner is shown while something takes long, and it ends with a notice of its own. -/
inductive NoticeKind where
  | message
  | success
  | warning
  | error
  | header
  | hint
  | spinner
  | spinnerSuccess
  | spinnerError
  | spinnerSkipped
  /-- A progress bar over a number of steps. -/
  | progress (total : Nat)
  deriving DecidableEq, Repr

structure Notice where
  kind : NoticeKind
  text : String
  deriving DecidableEq, Repr

namespace Notice

def textsOf (kind : NoticeKind) (notices : List Notice) : List String :=
  (notices.filter (·.kind = kind)).map (·.text)

/-- All messages, as a report that was told line by line. -/
def report (notices : List Notice) : String :=
  Text.join "\n" (textsOf .message notices)

/-- The progress bars: how many steps each has, and what they are. -/
def bars (notices : List Notice) : List (Nat × String) :=
  notices.filterMap fun notice =>
    match notice.kind with
    | .progress total => some (total, notice.text)
    | _ => none

def mentions (kind : NoticeKind) (part : String) (notices : List Notice) : Bool :=
  (textsOf kind notices).any fun text => Text.occursIn part.toList text.toList

end Notice
end Linkage
