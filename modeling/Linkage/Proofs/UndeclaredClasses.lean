import Linkage.Proofs.UnknownReferences

/-! Classes that the catalog declares. A reference links only if its class is listed as a symbol of its own, but one listed
member is enough to silence the warning. So the warning is given less often than a class is bound to be missing. -/

namespace Linkage

namespace Config
variable {config : Config} {catalog : Catalog} {symbol : Symbol}

/-- Some entry of the catalog lists the symbol, for whatever versions. -/
def Declares (config : Config) (symbol : Symbol) : Prop :=
  ∃ entry ∈ config.catalog, ∃ listed ∈ entry.symbols, Symbol.parse listed.symbol = .ok symbol

instance : Decidable (config.Declares symbol) :=
  inferInstanceAs (Decidable (∃ entry ∈ config.catalog, ∃ listed ∈ entry.symbols, _))

theorem declares_of_offers (built : config.toCatalog = .ok catalog) {key : ModuleKey} {version : Version}
    (offers : catalog.Offers key version symbol) : config.Declares symbol := by
  obtain ⟨artifact, found, provided, member, rfl, -⟩ := offers
  exact exists_entry_of_find? built found member

/-- The warning looks at the owners of all symbols that are listed. -/
theorem unprovided_iff_not_declares : config.Unprovided symbol ↔
    (∀ start ∈ config.instrumentation.ignoredPrefixes, ¬ start.toList <+: symbol.owner.toList) ∧
      ∀ member : Symbol, member.owner = symbol.owner → ¬ config.Declares member := by
  constructor
  · intro unprovided
    refine ⟨unprovided.foreign, ?_⟩
    intro member same ⟨entry, declared, listed, within, parsed⟩
    exact unprovided.unlisted entry declared listed within member parsed same
  · intro ⟨foreign, undeclared⟩
    refine ⟨foreign, ?_⟩
    intro entry declared listed within member parsed same
    exact undeclared member same ⟨entry, declared, listed, within, parsed⟩

end Config

namespace Verifier

/-- A reference that is looked up, to a class that the catalog does not declare, is missing from every classpath, and so
wherever a rule is not skipped. The warning is given just if the catalog declares nothing of this class. -/
theorem undeclared_class_reported_iff (config : Config) (verifier : Verifier) (built : config.verifier = .ok verifier)
    (reference : String) (symbol : Symbol) (listed : reference ∈ config.instrumentation.references)
    (parsed : Symbol.parse reference = .ok symbol) (checked : verifier.surface.requiresLookup symbol)
    (undeclared : ¬ config.Declares symbol.ownerClass) :
    (Config.Finding.unknownReference symbol.owner ∈ config.findings ↔
      ∀ member : Symbol, member.owner = symbol.owner → ¬ config.Declares member) ∧
    (∀ key version, ¬ verifier.catalog.Offers key version symbol.ownerClass) ∧
    (∀ classpath, .missingSymbol symbol none ∈ verifier.violations classpath) ∧
    ∀ verdicts, verifier.Gives verdicts → ∀ verdict ∈ verdicts, (∀ reason, verdict.outcome ≠ .skipped reason) →
      verdict.expectation = .pass → verdict.Misses symbol := by
  have describes := Config.describes_of_built built
  have foreign := (Config.foreign_iff describes.surface).mp (Surface.requiresLookup_iff.mp checked)
  have referenced : symbol ∈ verifier.surface.references :=
    (Config.mem_references_iff describes.surface).mpr ⟨reference, listed, parsed⟩
  have unoffered (key : ModuleKey) (version : Version) : ¬ verifier.catalog.Offers key version symbol.ownerClass :=
    fun offers => undeclared (Config.declares_of_offers describes.catalog offers)
  refine ⟨?_, unoffered, missingSymbol_mem_violations_of_unoffered checked unoffered referenced, ?_⟩
  · rw [Config.unknownReference_mem_findings_iff]
    constructor
    · intro ⟨_, _, other, _, same, unprovided⟩
      rw [← same]
      exact (Config.unprovided_iff_not_declares.mp unprovided).2
    · intro nothing
      exact ⟨reference, listed, symbol, parsed, rfl, Config.unprovided_iff_not_declares.mpr ⟨foreign, nothing⟩⟩
  · intro verdicts gives verdict member evaluated expected
    obtain ⟨dependencies, rule, version, checks⟩ := gives.exists_checksAt member evaluated
    rw [checks.checked, expected]
    exact misses_check_of_unoffered checked unoffered referenced verdict.rule rule version dependencies

section
private def apiCall : Symbol := .method "org.sample.Api" "call" "int"

private def apiLibrary : ModuleKey := ⟨"org.sample", "api", isKeyPart_sample, by decide⟩

private def apiVersion : Version := ⟨"1.4", [1, 4], none⟩

private def apiConfig (listed : List Config.SymbolEntry) : Config :=
  { instrumentation := { references := ["org.sample.Api#call(int)"] }
    rules := [{ group := "org.sample", module := "api", versions := "[1,3)" }]
    catalog := [{ artifact := "org.sample:api", symbols := listed }] }

private def apiVerifier (provided : List ProvidedSymbol) : Verifier :=
  { surface := .ofReferences [apiCall]
    catalog := ⟨[(apiLibrary, { key := apiLibrary, symbols := provided })]⟩
    rules := [{ key := apiLibrary, versions := ⟨some ⟨⟨"1", [1], none⟩, true⟩, some ⟨⟨"3", [3], none⟩, false⟩, rfl⟩ }] }

private def apiVerdict : Verdict :=
  ⟨0, "org.sample:api", apiLibrary, some apiVersion, .pass, .failed [.missingSymbol apiCall none]⟩

theorem undeclared_class_reported_iff_api :
    (apiConfig []).verifier = .ok (apiVerifier []) ∧ ¬ (apiConfig []).Declares apiCall.ownerClass ∧
      Config.Finding.unknownReference apiCall.owner ∈ (apiConfig []).findings ∧ apiVerdict.Misses apiCall := by
  have built : (apiConfig []).verifier = .ok (apiVerifier []) := by decide +kernel
  have parsed : Symbol.parse "org.sample.Api#call(int)" = .ok apiCall := by decide +kernel
  have checked : (apiVerifier []).surface.requiresLookup apiCall := by decide +kernel
  have undeclared (member : Symbol) : ¬ (apiConfig []).Declares member := by
    simp [Config.Declares, apiConfig]
  obtain ⟨reported, -, -, misses⟩ := undeclared_class_reported_iff _ _ built _ _ (.head _) parsed checked (undeclared _)
  refine ⟨built, undeclared _, reported.mpr fun member _ => undeclared member, ?_⟩
  have verified : (apiVerifier []).verify (.single apiLibrary apiVersion) = [apiVerdict] := by decide +kernel
  apply misses _ (.verified (.single apiLibrary apiVersion))
  · rw [verified]
    exact List.mem_cons_self
  · simp [apiVerdict]
  · rfl

/-- The catalog lists a method, but not its class. There is no warning, and the method is missing. -/
theorem listed_member_silences_warning :
    (apiConfig [{ symbol := "org.sample.Api#call(int)" }]).verifier = .ok (apiVerifier [.always apiCall]) ∧
    Symbol.parse "org.sample.Api#call(int)" = .ok apiCall ∧
    (apiVerifier [.always apiCall]).surface.requiresLookup apiCall ∧
    ¬ (apiConfig [{ symbol := "org.sample.Api#call(int)" }]).Declares apiCall.ownerClass ∧
    Config.Finding.unknownReference apiCall.owner ∉ (apiConfig [{ symbol := "org.sample.Api#call(int)" }]).findings ∧
    (apiVerifier [.always apiCall]).verify (.single apiLibrary apiVersion) = [apiVerdict] := by
  decide +kernel

end

end Verifier
end Linkage
