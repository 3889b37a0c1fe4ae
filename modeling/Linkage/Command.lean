import Linkage.Diagnostic.Format

/-! The commands of the program, with their options. -/

namespace Linkage

structure VerifyOptions where
  /-- A file with resolved versions, which count more than those of the configuration. -/
  resolved : Option String := none
  /-- Resolved versions that count most, each with its key. -/
  assignments : List String := []
  /-- The only rule to verify, counted from one. -/
  rule : Option Nat := none
  format : ReportFormat := .human
  deriving DecidableEq, Repr

structure MatrixOptions where
  /-- Versions to sample, each text with the key they belong to. -/
  candidates : List String := []
  /-- Whether the versions that the repository lists are sampled too. -/
  fetch : Bool := false
  format : ReportFormat := .human
  deriving DecidableEq, Repr

inductive Shell where
  | bash
  | elvish
  | fish
  | powershell
  | zsh
  deriving DecidableEq, Repr

namespace Shell

def all : List Shell :=
  [bash, elvish, fish, powershell, zsh]

def word : Shell → String
  | bash => "bash"
  | elvish => "elvish"
  | fish => "fish"
  | powershell => "powershell"
  | zsh => "zsh"

def ofWord? (text : String) : Option Shell :=
  all.find? (·.word = text)

end Shell

inductive Command where
  | verify (options : VerifyOptions)
  | matrix (options : MatrixOptions)
  | rules (json : Bool)
  | config (json check : Bool)
  | init (template : Option String) (force : Bool)
  | schema
  | completions (shell : Shell)
  deriving DecidableEq, Repr

end Linkage
