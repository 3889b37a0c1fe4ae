/-! Styled text for terminals: control sequences before the text switch styles on, and one after it switches all of
them off again. -/

namespace Linkage.Text

/-- A style is the list of its codes, a colour first. -/
abbrev Style := List String

namespace Style

def plain : Style := []
def red : Style := ["31"]
def green : Style := ["32"]
def yellow : Style := ["33"]
def cyan : Style := ["36"]
def orange : Style := ["38;5;208"]

def bold (style : Style) : Style := style ++ ["1"]
def dim (style : Style) : Style := style ++ ["2"]

def sequence (code : String) : String :=
  "\x1b[" ++ code ++ "m"

/-- A text without style stays as it is. -/
def apply (style : Style) (text : String) : String :=
  if style.isEmpty then text
  else String.join (style.map sequence) ++ text ++ sequence "0"

end Style
end Linkage.Text
