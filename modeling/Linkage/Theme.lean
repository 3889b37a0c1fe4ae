import Linkage.Text.Style

/-! Signs and styles by which notices are told apart. -/

namespace Linkage

/-- The styles of a theme; the signs are the same in all themes. -/
structure Theme where
  successStyle : Text.Style := Text.Style.plain
  warningStyle : Text.Style := Text.Style.plain
  errorStyle : Text.Style := Text.Style.plain
  skippedStyle : Text.Style := Text.Style.plain
  headerStyle : Text.Style := Text.Style.plain
  hintStyle : Text.Style := Text.Style.plain
  deriving DecidableEq, Repr

namespace Theme

/-- Signs without any styles. -/
def plain : Theme := {}

def colored : Theme where
  successStyle := Text.Style.green
  warningStyle := Text.Style.orange
  errorStyle := Text.Style.red.bold
  skippedStyle := Text.Style.plain.dim
  headerStyle := Text.Style.cyan.bold
  hintStyle := Text.Style.cyan.dim

variable (theme : Theme)

def success (text : String) : String :=
  theme.successStyle.apply ("✓ " ++ text)

def warning (text : String) : String :=
  theme.warningStyle.apply ("⚠ " ++ text)

def error (text : String) : String :=
  theme.errorStyle.apply ("✗ " ++ text)

def skipped (text : String) : String :=
  theme.skippedStyle.apply ("○ " ++ text)

def header (text : String) : String :=
  theme.headerStyle.apply ("▸ " ++ text)

def hint (text : String) : String :=
  theme.hintStyle.apply text

end Theme
end Linkage
