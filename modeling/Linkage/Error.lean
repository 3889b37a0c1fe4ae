/-! What can go wrong, and how it is told. -/

namespace Linkage

inductive Error where
  | malformedRange (expression reason : String)
  | invalidVersion (version reason : String)
  | invalidCoordinate (value reason : String)
  | invalidSymbol (value reason : String)
  | missingSymbol (symbol module version : String)
  | unresolvedModule (module : String)
  | incompatible (failures : Nat)
  | configNotFound (path : String)
  | configUnreadable (path reason : String)
  | configInvalid (reason : String)
  | inputOutput (reason : String)
  /-- Any other failure, with the failure that lies behind it. -/
  | other (text : String) (cause : Option String)
  deriving DecidableEq, Repr, Inhabited

namespace Error

def message : Error → String
  | malformedRange expression reason => "Malformed version range '" ++ expression ++ "': " ++ reason
  | invalidVersion version reason => "Invalid version '" ++ version ++ "': " ++ reason
  | invalidCoordinate value reason => "Invalid coordinate '" ++ value ++ "': " ++ reason
  | invalidSymbol value reason => "Invalid symbol '" ++ value ++ "': " ++ reason
  | missingSymbol symbol module version => "Missing symbol " ++ symbol ++ " with " ++ module ++ " " ++ version
  | unresolvedModule module => "Module " ++ module ++ " is not present in the dependency set"
  | incompatible failures => "Compatibility violation: " ++ toString failures ++ " sample(s) failed"
  | configNotFound path => "Configuration not found: " ++ path
  | configUnreadable path reason => "Failed to parse config at " ++ path ++ ": " ++ reason
  | configInvalid reason => "Invalid configuration: " ++ reason
  | inputOutput reason => "IO error: " ++ reason
  | other text _ => text

def source : Error → Option String
  | inputOutput reason => some reason
  | other _ cause => cause
  | _ => none

end Error
end Linkage
