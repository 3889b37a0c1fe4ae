import Linkage.Symbol

/-! What instrumentation code needs from the libraries that it targets. -/

namespace Linkage

structure Surface where
  references : List Symbol
  /-- Classes under these prefixes are injected together with the instrumentation. -/
  helperPrefixes : List String
  /-- Classes under these prefixes come with the runtime. -/
  bootstrapPrefixes : List String
  /-- Classes without which the instrumentation never applies. -/
  matcherClasses : List String
  deriving DecidableEq, Repr, Inhabited

namespace Surface

def defaultBootstrapPrefixes : List String := ["java.", "javax."]

def ofReferences (references : List Symbol) : Surface :=
  ⟨references, [], defaultBootstrapPrefixes, []⟩

def withHelperPrefix (surface : Surface) (start : String) : Surface :=
  { surface with helperPrefixes := surface.helperPrefixes ++ [start] }

def withMatcherClass (surface : Surface) (name : String) : Surface :=
  { surface with matcherClasses := surface.matcherClasses ++ [name] }

/-- Whether a symbol has to be found on the classpath: its owner is under none of the prefixes. -/
def requiresLookup (surface : Surface) (symbol : Symbol) : Bool :=
  !(surface.helperPrefixes ++ surface.bootstrapPrefixes).any fun start =>
    start.toList.isPrefixOf symbol.owner.toList

/-- The references to look up, each once, in the order of their first occurrence. -/
def checkedReferences (surface : Surface) : List Symbol :=
  (surface.references.filter surface.requiresLookup).eraseDups

end Surface
end Linkage
