import Linkage.Yaml.Token.Quoted

/-! Plain scalars. They end at an indicator, at a comment, at a document marker, and in block context at a line that
is not indented enough. Line breaks fold as they do in quotes. -/

namespace Linkage.Yaml

/-- The characters that structure flow collections. -/
def isFlowIndicator (c : Char) : Bool :=
  c = ',' || c = '[' || c = ']' || c = '\x7b' || c = '\x7d'

/-- Where a plain scalar stands: whether in a flow collection, and the least column of its further lines. -/
structure PlainContext where
  inFlow : Bool
  leastColumn : Int

/-- Whether a plain scalar ends before a character that is neither blank nor a break. -/
def endsPlain (context : PlainContext) (position : Position) (pending : Pending) : List Char → Bool
  | [] => true
  | c :: rest =>
    (pending.isBreaks && !context.inFlow && position.column < context.leastColumn) ||
      (pending ≠ .none && (c = '#' || (position.column = 0 && isMarker (c :: rest)))) ||
      (c = ':' && endsWord rest) || (context.inFlow && isFlowIndicator c)

/-- A colon directly before a flow indicator is refused in a flow collection. -/
def isStrayColon (context : PlainContext) : List Char → Bool
  | ':' :: c :: _ => context.inFlow && (isFlowIndicator c || c = '?')
  | _ => false

/-- Reads a plain scalar; the answer tells also whether line breaks come after it. -/
def scanPlain (context : PlainContext) (position : Position) (text : List Char) (pending : Pending) :
    List Char → Except Fault (Scanned × Bool)
  | [] => return (⟨.ofList text.reverse, position, []⟩, pending.isBreaks)
  | '\r' :: '\n' :: rest => scanPlain context (position.nextLine 2) text (pending.addBreak '\n') rest
  | c :: rest =>
    if isBlank c then
      if c = '\t' && pending.isBreaks && position.column < context.leastColumn then
        throw ⟨.unexpected "tab character that violates indentation", position⟩
      else scanPlain context (position.skip 1) text (pending.addBlank c) rest
    else if c = '\u2028' || c = '\u2029' then scanPlain context (position.nextLine 1) text (pending.addBreak c) rest
    else if isBreak c then scanPlain context (position.nextLine 1) text (pending.addBreak '\n') rest
    else if pending ≠ .none && endsPlain context position pending (c :: rest) then
      return (⟨.ofList text.reverse, position, c :: rest⟩, pending.isBreaks)
    else if isStrayColon context (c :: rest) then throw ⟨.unexpected "':'", position⟩
    else if endsPlain context position pending (c :: rest) then
      return (⟨.ofList text.reverse, position, c :: rest⟩, pending.isBreaks)
    else scanPlain context (position.skip 1) (c :: (pending.folded ++ text)) .none rest

end Linkage.Yaml
