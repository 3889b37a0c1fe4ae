import Linkage.Proofs.ConfiguredVerifiers
import Linkage.Proofs.MatrixSamples
import Linkage.Proofs.RangeRoundTrip
import Linkage.Proofs.ReportLines

/-! Verifiers whose versions and symbols were read from texts, as configurations and candidates on a command line give
them. All that their verdicts show was read too. -/

namespace Linkage
open Acceptance

theorem Version.wasRead_of_parse {text : String} {version : Version} (parsed : Version.parse text = .ok version) :
    version.WasRead :=
  ⟨text.toList, Acceptance.mapError_eq_ok_iff.mp parsed⟩

namespace VersionRange
variable {range : VersionRange}

def WasRead (range : VersionRange) : Prop :=
  ∀ bound, bound ∈ range.lower ∨ bound ∈ range.upper → bound.version.WasRead

theorem WasRead.endpoint (known : range.WasRead) : ∀ version ∈ range.inclusiveEndpoints, version.WasRead := by
  intro version member
  rcases mem_inclusiveEndpoints member with ⟨bound, held, -, rfl⟩ | ⟨bound, held, -, rfl⟩
  · exact known bound (.inl held)
  · exact known bound (.inr held)

theorem wasRead_of_parse {text : String} (parsed : parse text = .ok range) : range.WasRead := by
  rcases read_cases (parse_eq_ok_iff.mp parsed) with ⟨-, plain⟩ | ⟨-, version, read, rfl⟩
  · intro bound held
    exact (plain bound held).1
  · intro bound held
    rcases held with held | held
    · obtain rfl := Option.some.inj held
      exact ⟨_, read⟩
    · obtain rfl := Option.some.inj held
      exact ⟨_, read⟩

end VersionRange

def Candidates.WasRead (candidates : Candidates) : Prop :=
  ∀ key, ∀ version ∈ candidates.get key, version.WasRead

def Catalog.WasRead (catalog : Catalog) : Prop :=
  ∀ key, ∀ version ∈ catalog.releases key, version.WasRead

structure Surface.WasRead (surface : Surface) : Prop where
  references : ∀ symbol ∈ surface.references, symbol.WasRead
  matcherClasses : ∀ name ∈ surface.matcherClasses, (Symbol.ofClass name).WasRead

namespace Verifier
variable {verifier : Verifier} {candidates : Candidates} {rule : Rule} {version : Version}

structure WasRead (verifier : Verifier) : Prop where
  surface : verifier.surface.WasRead
  catalog : verifier.catalog.WasRead
  ranges : ∀ rule ∈ verifier.rules, rule.versions.WasRead

theorem wasRead_samples (known : verifier.WasRead) (read : candidates.WasRead) (registered : rule ∈ verifier.rules)
    (sampled : version ∈ verifier.samples candidates rule) : version.WasRead := by
  have listed : ∀ version ∈ verifier.catalog.releases rule.key ++ candidates.get rule.key, version.WasRead := by
    intro version member
    rcases List.mem_append.mp member with released | given
    · exact known.catalog rule.key version released
    · exact read rule.key version given
  unfold samples at sampled
  rcases List.mem_append.mp sampled with inside | outside
  · rcases Ascending.mem_of_mem_foldl_insert inside with chosen | endpoint
    · exact listed version (List.mem_filter.mp chosen).1
    · exact (known.ranges rule registered).endpoint version endpoint
  · split at outside
    · exact listed version (List.mem_filter.mp (Ascending.mem_of_mem_ofListLast outside)).1
    · cases outside

theorem wasRead_violations (known : verifier.WasRead) (classpath : Classpath) :
    ∀ violation ∈ verifier.violations classpath, violation.WasRead := by
  intro violation member
  unfold violations at member
  simp only [List.mem_append, List.mem_filterMap] at member
  rcases member with ⟨name, listed, named⟩ | ⟨symbol, checked, named⟩
  · split at named
    · cases named
    · cases named
      exact known.surface.matcherClasses name listed
  · have referenced : symbol ∈ verifier.surface.references :=
      (List.mem_filter.mp (List.mem_eraseDups.mp checked)).1
    split at named
    · cases named
    · cases named
      exact known.surface.references symbol referenced
    · cases named
      exact known.surface.references symbol referenced

theorem wasRead_judge {expectation : Expectation} {found listed : List Violation}
    (known : ∀ violation ∈ found, violation.WasRead) (failed : judge expectation found = .failed listed) :
    ∀ violation ∈ listed, violation.WasRead := by
  cases expectation with
  | pass =>
    cases found with
    | nil => cases failed
    | cons violation rest =>
      cases failed
      exact known
  | fail =>
    cases found with
    | nil =>
      cases failed
      intro violation member
      rw [List.mem_singleton.mp member]
      trivial
    | cons violation rest => cases failed

theorem wasRead_check (known : verifier.WasRead) (index : Nat) (rule : Rule) (version : Version)
    (dependencies : DependencySet) (expectation : Expectation) :
    ∀ violation ∈ (verifier.check index rule version dependencies expectation).violations, violation.WasRead := by
  intro violation member
  unfold Verdict.violations at member
  split at member
  next listed failed => exact wasRead_judge (wasRead_violations known _) failed violation member
  next => cases member

theorem wasRead_sampleAt (known : verifier.WasRead) (index : Nat) (rule : Rule) (read : version.WasRead) :
    (verifier.sampleAt index rule version).WasRead := by
  constructor
  · exact ⟨version, sampleAt_version .., read⟩
  · unfold sampleAt
    split
    · unfold evaluate
      split
      · exact fun _ member => nomatch member
      · split
        · exact fun _ member => nomatch member
        · split
          · exact fun _ member => nomatch member
          · exact wasRead_check known _ _ _ _ _
    · exact wasRead_check known _ _ _ _ _
  · intro reason skipped
    obtain ⟨outcome, shape, skips⟩ := verifier.sampleAt_eq index rule version
    rw [shape] at skipped
    exact (skips reason skipped).2

/-- All verdicts of a matrix run were read if the verifier and the candidates were. -/
theorem wasRead_matrix (known : verifier.WasRead) (read : candidates.WasRead) :
    ∀ result ∈ (verifier.matrix candidates).verdicts, result.WasRead := by
  intro result member
  rw [matrix_verdicts] at member
  obtain ⟨index, rule, registered, inside⟩ := mem_flatten_numbered.mp member
  obtain ⟨version, sampled, rfl⟩ := mem_sampleRule inside
  exact wasRead_sampleAt known _ rule (wasRead_samples known read (List.mem_of_getElem? registered) sampled)

end Verifier

namespace Candidates
variable {candidates given : Candidates} {versions : List Version}

theorem WasRead.extend (known : candidates.WasRead) (key : ModuleKey) (read : ∀ version ∈ versions, version.WasRead) :
    (candidates.extend key versions).WasRead := by
  intro other version member
  unfold Candidates.extend get at member
  rw [ModuleMap.find?_insert] at member
  split at member
  · rcases Ascending.mem_of_mem_foldl_insert member with added | held
    · exact read version added
    · exact known key version held
  · exact known other version member

theorem WasRead.addSpec {spec : String} (known : candidates.WasRead) (added : candidates.addSpec spec = .ok given) :
    given.WasRead := by
  unfold Candidates.addSpec at added
  split at added
  · cases added
  · obtain ⟨key, -, added⟩ := bind_eq_ok_iff.mp added
    obtain ⟨versions, listed, added⟩ := bind_eq_ok_iff.mp added
    obtain rfl := Except.ok.inj added
    apply known.extend
    intro version member
    obtain ⟨item, -, parsed⟩ := (mem_of_mapM_eq_ok listed).mp member
    exact Version.wasRead_of_parse parsed

theorem wasRead_of_specs {specs : List String} (known : candidates.WasRead)
    (added : specs.foldlM Candidates.addSpec candidates = .ok given) : given.WasRead := by
  induction specs generalizing candidates with
  | nil =>
    obtain rfl := Except.ok.inj added
    exact known
  | cons spec rest ih =>
    rw [List.foldlM_cons] at added
    obtain ⟨middle, first, added⟩ := bind_eq_ok_iff.mp added
    exact ih (known.addSpec first) added

end Candidates

namespace Config
variable {config : Config} {verifier : Verifier}

theorem surface_wasRead {instrumentation : Instrumentation} {surface : Surface}
    (built : instrumentation.surface = .ok surface) : surface.WasRead := by
  obtain ⟨references, symbols, built⟩ := bind_eq_ok_iff.mp built
  obtain ⟨matcherClasses, names, built⟩ := bind_eq_ok_iff.mp built
  obtain rfl := Except.ok.inj built
  constructor
  · intro symbol member
    obtain ⟨text, -, parsed⟩ := (mem_of_mapM_eq_ok symbols).mp member
    exact Symbol.wasRead_of_parse parsed
  · intro name member
    obtain ⟨entry, -, read⟩ := (mem_of_mapM_eq_ok names).mp member
    obtain ⟨symbol, parsed, named⟩ := bind_eq_ok_iff.mp read
    cases symbol with
    | ofClass other =>
      obtain rfl : other = name := Except.ok.inj named
      exact Symbol.wasRead_of_parse parsed
    | method => cases named
    | field => cases named

theorem toArtifact_wasRead {entry : CatalogEntry} {artifact : Artifact} (built : entry.toArtifact = .ok artifact) :
    ∀ version ∈ artifact.releases, version.WasRead := by
  obtain ⟨key, -, built⟩ := bind_eq_ok_iff.mp built
  obtain ⟨releases, listed, built⟩ := bind_eq_ok_iff.mp built
  obtain ⟨dependencies, -, built⟩ := bind_eq_ok_iff.mp built
  obtain ⟨symbols, -, built⟩ := bind_eq_ok_iff.mp built
  obtain rfl := Except.ok.inj built
  intro version member
  have released : version ∈ releases :=
    (Ascending.mem_of_mem_foldl_insert member).resolve_right List.not_mem_nil
  obtain ⟨text, -, parsed⟩ := (mem_of_mapM_eq_ok listed).mp released
  exact Version.wasRead_of_parse parsed

theorem insert_wasRead {catalog : Catalog} {artifact : Artifact} (known : catalog.WasRead)
    (read : ∀ version ∈ artifact.releases, version.WasRead) : (catalog.insert artifact).WasRead := by
  intro key version member
  unfold Catalog.releases Catalog.find? Catalog.insert at member
  rw [ModuleMap.find?_insert] at member
  split at member
  · exact read version member
  · exact known key version member

theorem toCatalog_wasRead {catalog : Catalog} (built : config.toCatalog = .ok catalog) : catalog.WasRead := by
  obtain ⟨artifacts, listed, built⟩ := bind_eq_ok_iff.mp built
  obtain rfl := Except.ok.inj built
  apply List.foldlRecOn artifacts Catalog.insert
  · intro key version member
    cases member
  · intro catalog known artifact member
    obtain ⟨entry, -, read⟩ := (mem_of_mapM_eq_ok listed).mp member
    exact insert_wasRead known (toArtifact_wasRead read)

theorem toRule_wasRead {entry : RuleEntry} {rule : Rule} (built : entry.toRule = .ok rule) : rule.versions.WasRead := by
  simp only [RuleEntry.toRule, bind_eq_ok_iff] at built
  obtain ⟨key, -, versions, parsed, extras, -, excluded, -, skipped, -, same⟩ := built
  obtain rfl := Except.ok.inj same
  exact VersionRange.wasRead_of_parse parsed

/-- The verifier of a configuration has read all that it shows. -/
theorem verifier_wasRead (built : config.verifier = .ok verifier) : verifier.WasRead := by
  have describes := describes_of_built built
  refine ⟨surface_wasRead describes.surface, toCatalog_wasRead describes.catalog, ?_⟩
  intro rule member
  obtain ⟨entry, -, read⟩ := describes.declared rule member
  exact toRule_wasRead read

end Config
end Linkage
