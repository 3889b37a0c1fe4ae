import Linkage.Command
import Linkage.CommandLine.Grammar
import Linkage.OutputMode

/-! The command line of the program. Some parameters may be given before a command or after it. -/

namespace Linkage

structure Invocation where
  /-- A configuration file to read in place of those of the project. -/
  config : Option String := none
  project : Option String := none
  verbose : Bool := false
  quiet : Bool := false
  noColor : Bool := false
  debug : Bool := false
  /-- When it is left out, the resolved versions are verified. -/
  command : Option Command := none
  deriving DecidableEq, Repr

namespace CommandLine

def formatWords : List String :=
  ([.human, .json, .sarif] : List ReportFormat).map (·.word)

def sharedParameters : List Parameter :=
  [{ name := "config", letter := 'c', form := .value .path }, { name := "project", letter := 'p', form := .value .path },
    { name := "verbose", letter := 'v' }, { name := "quiet", letter := 'q' }, { name := "no-color" },
    { name := "debug" }, { name := "help", letter := 'h', form := .stop .helpWanted },
    { name := "version", letter := 'V', form := .stop .versionWanted }]

structure CommandForm where
  name : String
  parameters : List Parameter := []
  positional : Option Parameter := none
  build : Given → Command

def formatParameter : Parameter :=
  { name := "format", form := .value (.word formatWords) }

def Given.format (given : Given) : ReportFormat :=
  ((given.value? "format").bind ReportFormat.ofWord?).getD .human

def commandForms : List CommandForm :=
  [{ name := "verify"
     parameters := [{ name := "resolved", form := .value .path }, { name := "set", form := .values .text },
       { name := "rule", form := .value .number }, formatParameter]
     build := fun given => .verify
       { resolved := given.value? "resolved"
         assignments := given.valuesOf "set"
         rule := (given.value? "rule").bind fun text => Text.natural? text.toList
         format := given.format } },
    { name := "matrix"
      parameters := [{ name := "candidate", form := .values .text }, { name := "fetch" }, formatParameter]
      build := fun given => .matrix
        { candidates := given.valuesOf "candidate", fetch := given.has "fetch", format := given.format } },
    { name := "rules", parameters := [{ name := "json" }], build := fun given => .rules (given.has "json") },
    { name := "config"
      parameters := [{ name := "json" }, { name := "check" }]
      build := fun given => .config (given.has "json") (given.has "check") },
    { name := "init"
      parameters := [{ name := "template", form := .value .text }, { name := "force" }]
      build := fun given => .init (given.value? "template") (given.has "force") },
    { name := "schema", build := fun _ => .schema },
    { name := "completions"
      positional := some { name := "shell", form := .value (.word (Shell.all.map (·.word))) }
      build := fun given => .completions (((given.value? "shell").bind Shell.ofWord?).getD .bash) }]

/-- The word that asks for help about the command that follows it. -/
def helpCommand : String := "help"

def commandNames : List String :=
  commandForms.map (·.name) ++ [helpCommand]

def exclusiveFlags : List (String × String) :=
  [("verbose", "quiet")]

def programGrammar : Grammar where
  parameters := sharedParameters
  exclusive := exclusiveFlags
  commands := commandNames

def CommandForm.grammar (form : CommandForm) : Grammar where
  parameters := form.parameters ++ sharedParameters
  positional := form.positional
  exclusive := exclusiveFlags

/-- Help is there about the program and about each command. -/
def helpAbout : List String → Refusal
  | [] => .helpWanted
  | [name] => if commandNames.contains name then .helpWanted else .unknownCommand
  | _ => .unknownCommand

def readCommand (defaults : List (String × String)) (name : String) (arguments : List String) :
    Except Refusal (Given × Option Command) := do
  if name = helpCommand then throw (helpAbout arguments)
  match commandForms.find? (·.name = name) with
  | none => throw .unknownCommand
  | some form =>
    let (given, _) ← form.grammar.read arguments
    let given ← form.grammar.complete defaults given
    return (given, some (form.build given))

end CommandLine

namespace Invocation
open CommandLine

/-- Reads a command line. The environment may name a configuration for the case that no parameter does. The arguments
of the command are checked before those of the program are checked as a whole. -/
def parse (environmentConfig : Option String) (arguments : List String) : Except Refusal Invocation := do
  let defaults := environmentConfig.toList.map fun path => ("config", path)
  let (outer, rest) ← programGrammar.read arguments
  let (inner, command) ← match rest with
    | none => pure (({} : Given), none)
    | some (name, arguments) => readCommand defaults name arguments
  let outer ← programGrammar.complete defaults outer
  let has (name : String) : Bool := outer.has name || inner.has name
  return { config := ((inner.value? "config").or (outer.value? "config")).or environmentConfig
           project := (inner.value? "project").or (outer.value? "project")
           verbose := has "verbose"
           quiet := has "quiet"
           noColor := has "no-color"
           debug := has "debug"
           command }

/-- How much is told at first. To be quiet counts more. -/
def mode (invocation : Invocation) : OutputMode :=
  if invocation.quiet then .quiet else if invocation.verbose then .verbose else .normal

end Invocation
end Linkage
