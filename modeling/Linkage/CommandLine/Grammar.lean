import Linkage.Text.Blank
import Linkage.Text.Natural

/-! Reading the arguments of a command line by a grammar of named parameters. A value that stands apart from its
parameter is checked when the next parameter comes, or at the end; this decides which of two faults is told. -/

namespace Linkage.CommandLine

inductive Refusal where
  | unknownArgument
  /-- A value is missing, or it is none of the values that are possible. -/
  | invalidValue
  | invalidNumber
  /-- Two parameters exclude each other, or one is given again. -/
  | conflict
  | unknownCommand
  | missingArgument
  /-- A flag is given a value. -/
  | surplusValue
  | helpWanted
  | versionWanted
  deriving DecidableEq, Repr

namespace Refusal

/-- To have asked for help is no failure. -/
def exitCode : Refusal → Nat
  | helpWanted | versionWanted => 0
  | _ => 2

def message : Refusal → String
  | unknownArgument => "error: an argument is not known here"
  | invalidValue => "error: a value is missing or is not possible"
  | invalidNumber => "error: a value is not a number"
  | conflict => "error: arguments exclude each other, or one is given twice"
  | unknownCommand => "error: there is no such command"
  | missingArgument => "error: an argument is missing"
  | surplusValue => "error: a flag takes no value"
  | helpWanted => "Usage: muzzle [OPTIONS] [verify|matrix|rules|config|init|schema|completions]"
  | versionWanted => "muzzle 0.4.0"

end Refusal

inductive ValueForm where
  | text
  /-- A path has at least one character. -/
  | path
  | number
  | word (words : List String)
  deriving DecidableEq, Repr

inductive ParameterForm where
  | flag
  | value (form : ValueForm)
  | values (form : ValueForm)
  /-- A flag that stops the reading. -/
  | stop (reason : Refusal)
  deriving DecidableEq, Repr

structure Parameter where
  /-- What follows two dashes. -/
  name : String
  /-- What follows a single dash. -/
  letter : Option Char := none
  form : ParameterForm := .flag
  deriving DecidableEq, Repr

structure Grammar where
  parameters : List Parameter
  positional : Option Parameter := none
  /-- Pairs of flags that exclude each other. -/
  exclusive : List (String × String) := []
  /-- The words that end the arguments of this grammar. -/
  commands : List String := []
  deriving DecidableEq, Repr

structure Given where
  values : List (String × String) := []
  /-- A parameter whose value has not been checked yet, with the value once it is there. -/
  waiting : Option (Parameter × Option String) := none
  deriving DecidableEq, Repr

namespace ValueForm

def refusal? (form : ValueForm) (value : String) : Option Refusal :=
  match form with
  | text => none
  | path => if value.isEmpty then some .invalidValue else none
  | number => if (Text.natural? value.toList).isSome then none else some .invalidNumber
  | word words => if words.contains value then none else some .invalidValue

end ValueForm

namespace Given
variable (given : Given)

def has (name : String) : Bool :=
  given.values.any (·.1 = name)

def value? (name : String) : Option String :=
  given.values.lookup name

def valuesOf (name : String) : List String :=
  (given.values.filter (·.1 = name)).map (·.2)

/-- Whether the next argument is a value, unless it looks like a parameter. -/
def wantsValue : Bool :=
  given.waiting.any (·.2.isNone)

def add (parameter : Parameter) (value : String) : Given :=
  { given with values := given.values ++ [(parameter.name, value)] }

/-- A parameter that is given once may not be given again; this is looked at before the value is. -/
def accept (parameter : Parameter) (value : String) : Except Refusal Given :=
  let once (form : ValueForm) : Except Refusal Given :=
    match form.refusal? value with
    | some refusal => throw refusal
    | none => return given.add parameter value
  match parameter.form with
  | .values form => once form
  | .value form => if given.has parameter.name then throw .conflict else once form
  | .flag => if given.has parameter.name then throw .conflict else return given.add parameter value
  | .stop reason => throw reason

def settle : Except Refusal Given :=
  match given.waiting with
  | none => return given
  | some (_, none) => throw .invalidValue
  | some (parameter, some value) => { given with waiting := none }.accept parameter value

/-- A parameter that has its value, or needs none. -/
def take (parameter : Parameter) (value : String) : Except Refusal Given := do
  (← given.settle).accept parameter value

def await (parameter : Parameter) : Except Refusal Given := do
  return { ← given.settle with waiting := some (parameter, none) }

end Given

namespace Parameter

def takesValue (parameter : Parameter) : Bool :=
  match parameter.form with
  | .value _ | .values _ => true
  | _ => false

end Parameter

namespace Grammar
variable (grammar : Grammar)

/-- A parameter by its name, maybe with a value after an equals sign. -/
def readNamed (given : Given) (body : List Char) : Except Refusal Given :=
  let (name, value) := match Text.cut '=' body with
    | some (name, value) => (name, some (String.ofList value))
    | none => (body, none)
  match grammar.parameters.find? (·.name = String.ofList name) with
  | none => throw .unknownArgument
  | some parameter =>
    match value with
    | none => if parameter.takesValue then given.await parameter else given.take parameter ""
    | some value => if parameter.takesValue then given.take parameter value else throw .surplusValue

/-- Parameters by their letters. What follows the letter of one that takes a value is the value. -/
def readLetters (given : Given) : List Char → Except Refusal Given
  | [] => return given
  | letter :: rest =>
    match grammar.parameters.find? (·.letter = some letter) with
    | none => throw .unknownArgument
    | some parameter =>
      if !parameter.takesValue then do readLetters (← given.take parameter "") rest
      else
        match rest with
        | [] => given.await parameter
        | '=' :: value => given.take parameter (.ofList value)
        | value => given.take parameter (.ofList value)

def readPlain (given : Given) (isLast : Bool) (argument : String) : Except Refusal Given := do
  match grammar.positional with
  | some parameter =>
    if given.has parameter.name || given.waiting.any (·.1 = parameter) then throw .unknownArgument
    return { ← given.settle with waiting := some (parameter, some argument) }
  | none =>
    if grammar.commands.isEmpty || (isLast && grammar.commands.contains argument) then throw .unknownArgument
    else throw .unknownCommand

/-- Reads arguments up to a command, and gives the command with the arguments that follow it. -/
def readFrom (given : Given) (isLast : Bool) : List String → Except Refusal (Given × Option (String × List String))
  | [] => return (given, none)
  | argument :: rest =>
    -- After two dashes every argument stands by itself.
    if isLast then do readFrom (← grammar.readPlain given true argument) true rest
    else if !given.wantsValue && grammar.commands.contains argument then return (given, some (argument, rest))
    else if argument = "--" then readFrom given true rest
    else
      match argument.toList with
      | '-' :: '-' :: body => do readFrom (← grammar.readNamed given body) false rest
      | '-' :: letter :: letters => do readFrom (← grammar.readLetters given (letter :: letters)) false rest
      | _ =>
        match given.waiting with
        | some (parameter, none) => readFrom { given with waiting := some (parameter, some argument) } false rest
        | _ => do readFrom (← grammar.readPlain given false argument) false rest

def read (arguments : List String) : Except Refusal (Given × Option (String × List String)) :=
  grammar.readFrom {} false arguments

/-- Checks what was given as a whole. The values that stand in for parameters that were left out are checked too. -/
def complete (defaults : List (String × String)) (given : Given) : Except Refusal Given := do
  let given ← given.settle
  let missing := grammar.parameters.filter fun parameter => !given.has parameter.name
  missing.forM fun parameter =>
    match defaults.lookup parameter.name with
    | none => return
    | some value => do discard (given.accept parameter value)
  if grammar.exclusive.any fun (first, second) => given.has first && given.has second then throw .conflict
  if grammar.positional.any fun parameter => !given.has parameter.name then throw .missingArgument
  return given

end Grammar
end Linkage.CommandLine
