import Linkage.Error
import Linkage.Text.Blank

/-! What instrumentation code refers to: a class `a.B`, a method `a.B#name(parameters)` or a field `a.B#name`. -/

namespace Linkage

inductive Symbol where
  | ofClass (name : String)
  | method (owner name parameters : String)
  | field (owner name : String)
  deriving DecidableEq, Repr, Inhabited

namespace Symbol

inductive Fault where
  | empty
  | blankInside
  | classEmpty
  | emptySegment
  | classParentheses
  | memberEmpty
  | parametersOpen
  | methodEmpty
  | unbalanced
  | fieldCharacters
  deriving DecidableEq, Repr

def Fault.reason : Fault → String
  | empty => "symbol is empty"
  | blankInside => "symbol contains whitespace"
  | classEmpty => "class name is empty"
  | emptySegment => "class name has an empty package segment"
  | classParentheses => "class name contains parentheses"
  | memberEmpty => "member name is empty"
  | parametersOpen => "method parameters must end with ')'"
  | methodEmpty => "method name is empty"
  | unbalanced => "unbalanced parentheses"
  | fieldCharacters => "field name contains invalid characters"

def isParenthesis (c : Char) : Bool :=
  c = '(' || c = ')'

def checkClass (name : List Char) : Except Fault Unit :=
  if name.isEmpty then throw .classEmpty
  else if (Text.fields '.' name).any (·.isEmpty) then throw .emptySegment
  else if name.any isParenthesis then throw .classParentheses
  else return

/-- The part after the first `#`. -/
def readMember (owner member : List Char) : Except Fault Symbol := do
  if member.isEmpty then throw .memberEmpty
  match Text.cut '(' member with
  | some (name, rest) =>
    if rest.getLast? ≠ some ')' then throw .parametersOpen
    if name.isEmpty then throw .methodEmpty
    if rest.dropLast.any isParenthesis then throw .unbalanced
    return method (.ofList owner) (.ofList name) (.ofList rest.dropLast)
  | none =>
    if member.any fun c => c = ')' || c = '#' then throw .fieldCharacters
    return field (.ofList owner) (.ofList member)

/-- Reads a symbol from a text without surrounding white space. -/
def read (text : List Char) : Except Fault Symbol := do
  if text.isEmpty then throw .empty
  if text.any Text.isBlank then throw .blankInside
  match Text.cut '#' text with
  | none => checkClass text; return ofClass (.ofList text)
  | some (owner, member) => checkClass owner; readMember owner member

def parse (value : String) : Except Error Symbol :=
  let text := Text.trim value.toList
  (read text).mapError fun fault => .invalidSymbol (.ofList text) fault.reason

/-- The class that a symbol belongs to; a class belongs to itself. -/
def owner : Symbol → String
  | ofClass name => name
  | method owner _ _ => owner
  | field owner _ => owner

def isClass : Symbol → Bool
  | ofClass _ => true
  | _ => false

def ownerClass (symbol : Symbol) : Symbol :=
  ofClass symbol.owner

def kind : Symbol → String
  | ofClass _ => "class"
  | method _ _ _ => "method"
  | field _ _ => "field"

def text : Symbol → String
  | ofClass name => name
  | method owner name parameters => owner ++ "#" ++ name ++ "(" ++ parameters ++ ")"
  | field owner name => owner ++ "#" ++ name

instance : ToString Symbol := ⟨text⟩

end Symbol
end Linkage
