import Linkage.Proofs.ClasspathSearch
import Linkage.Proofs.VersionSpelling

/-! A classpath that is built from differently written versions has the same libraries, in equal versions and for the
same reasons. The search asks the same keys in the same order, so its runs stay side by side turn by turn; windows tell
equal versions not apart, so a look-up finds the same library on both sides. -/

namespace Linkage

/-- The same keys in the same order, with related values. -/
def ModuleMap.Alike {ν : Type u} {μ : Type v} (related : ν → μ → Prop) (map : ModuleMap ν) (other : ModuleMap μ) : Prop :=
  List.Forall₂ (fun a b => a.1 = b.1 ∧ related a.2 b.2) map other

theorem ModuleMap.alike_self {ν : Type u} {related : ν → ν → Prop} (refl : ∀ value, related value value)
    (map : ModuleMap ν) : ModuleMap.Alike related map map :=
  List.forall₂_same.mpr fun entry _ => ⟨rfl, refl entry.2⟩

namespace ModuleMap.Alike
variable {ν : Type u} {μ : Type v} {related : ν → μ → Prop} {map : ModuleMap ν} {other : ModuleMap μ}

theorem symm {converse : μ → ν → Prop} (alike : Alike related map other)
    (symmetric : ∀ value held, related value held → converse held value) : Alike converse other map := by
  apply List.Forall₂.flip
  exact alike.imp fun entry bound same => ⟨same.1.symm, symmetric _ _ same.2⟩

theorem find? (alike : Alike related map other) (key : ModuleKey) :
    Option.Rel related (map.find? key) (other.find? key) := by
  induction alike with
  | nil => exact .none
  | @cons entry held rest others first _ ih =>
    obtain ⟨bound, value⟩ := entry
    obtain ⟨_, _⟩ := held
    obtain ⟨rfl, values⟩ := first
    rw [find?_cons, find?_cons]
    split
    · exact .some values
    · exact ih

/-- Two ways to answer from what is bound to a key, or from its absence. -/
theorem answers {α : Type w} {β : Type x} (alike : Alike related map other) (key : ModuleKey) (agree : α → β → Prop)
    (tell : Option ν → α) (say : Option μ → β) (neither : agree (tell none) (say none))
    (both : ∀ value held, related value held → agree (tell (some value)) (say (some held))) :
    agree (tell (map.find? key)) (say (other.find? key)) := by
  have found := alike.find? key
  generalize map.find? key = bound at found ⊢
  generalize other.find? key = held at found ⊢
  cases found with
  | none => exact neither
  | some values => exact both _ _ values

theorem contains (alike : Alike related map other) (key : ModuleKey) : map.contains key = other.contains key :=
  alike.answers key Eq Option.isSome Option.isSome rfl fun _ _ _ => rfl

theorem insert (alike : Alike related map other) (key : ModuleKey) {value : ν} {held : μ} (values : related value held) :
    Alike related (map.insert key value) (other.insert key held) := by
  induction alike with
  | nil => exact .cons ⟨rfl, values⟩ .nil
  | @cons entry bound rest others first later ih =>
    obtain ⟨place, kept⟩ := entry
    obtain ⟨_, _⟩ := bound
    obtain ⟨rfl, same⟩ := first
    unfold ModuleMap.insert
    cases key.compare place with
    | lt => exact .cons ⟨rfl, values⟩ (.cons ⟨rfl, same⟩ later)
    | eq => exact .cons ⟨rfl, values⟩ later
    | gt => exact .cons ⟨rfl, same⟩ ih

end ModuleMap.Alike

/-- The same symbol in equal windows. -/
structure ProvidedSymbol.Alike (provided other : ProvidedSymbol) : Prop where
  symbol : provided.symbol = other.symbol
  since : Option.Rel (fun a b => Version.same a b) provided.since other.since
  limit : Option.Rel (fun a b => Version.same a b) provided.until other.until

private theorem limit_self (limit : Option Version) : Option.Rel (fun a b => Version.same a b) limit limit := by
  cases limit with
  | none => exact .none
  | some version => exact .some (Version.same_self version)

private theorem limit_symm {limit other : Option Version} (alike : Option.Rel (fun a b => Version.same a b) limit other) :
    Option.Rel (fun a b => Version.same a b) other limit := by
  cases alike with
  | none => exact .none
  | some same => exact .some (Version.same_symm same)

theorem ProvidedSymbol.alike_self (provided : ProvidedSymbol) : provided.Alike provided :=
  ⟨rfl, limit_self _, limit_self _⟩

theorem ProvidedSymbol.Alike.symm {provided other : ProvidedSymbol} (alike : provided.Alike other) :
    other.Alike provided :=
  ⟨alike.symbol.symm, limit_symm alike.since, limit_symm alike.limit⟩

/-- Libraries that a catalog describes the same, apart from the spelling of versions. -/
structure Artifact.Alike (artifact other : Artifact) : Prop where
  key : artifact.key = other.key
  releases : List.Forall₂ (fun a b => Version.same a b) artifact.releases other.releases
  dependencies : List.Forall₂ (fun a b => Coordinate.same a b) artifact.dependencies other.dependencies
  symbols : List.Forall₂ ProvidedSymbol.Alike artifact.symbols other.symbols

theorem Artifact.alike_self (artifact : Artifact) : artifact.Alike artifact where
  key := rfl
  releases := List.forall₂_same.mpr fun version _ => Version.same_self version
  dependencies := List.forall₂_same.mpr fun dependency _ => Coordinate.same_self dependency
  symbols := List.forall₂_same.mpr fun provided _ => ProvidedSymbol.alike_self provided

theorem Artifact.Alike.symm {artifact other : Artifact} (alike : artifact.Alike other) : other.Alike artifact where
  key := alike.key.symm
  releases := (alike.releases.imp fun _ _ => Version.same_symm).flip
  dependencies := (alike.dependencies.imp fun _ _ => Coordinate.same_symm).flip
  symbols := (alike.symbols.imp fun _ _ => ProvidedSymbol.Alike.symm).flip

def Catalog.Alike (catalog other : Catalog) : Prop :=
  ModuleMap.Alike Artifact.Alike catalog.artifacts other.artifacts

theorem Catalog.alike_self (catalog : Catalog) : catalog.Alike catalog :=
  ModuleMap.alike_self Artifact.alike_self _

theorem Catalog.Alike.symm {catalog other : Catalog} (alike : catalog.Alike other) : other.Alike catalog :=
  ModuleMap.Alike.symm alike fun _ _ => Artifact.Alike.symm

theorem ProvidedSymbol.Alike.availableAt {provided other : ProvidedSymbol} {a b : Version}
    (alike : provided.Alike other) (equal : a.same b) : provided.availableAt a = other.availableAt b := by
  obtain ⟨_, since, limit⟩ := provided
  obtain ⟨_, _, _⟩ := other
  obtain ⟨-, sinces, limits⟩ := alike
  unfold ProvidedSymbol.availableAt
  congr 1
  · cases sinces with
    | none => rfl
    | some same => rw [Option.all_some, Option.all_some, Version.below_congr equal same]
  · cases limits with
    | none => rfl
    | some same => rw [Option.all_some, Option.all_some, Version.below_congr equal same]

theorem Artifact.Alike.provides {artifact other : Artifact} {a b : Version} (alike : artifact.Alike other)
    (symbol : Symbol) (equal : a.same b) : artifact.provides symbol a = other.provides symbol b := by
  have listed := alike.symbols
  unfold Artifact.provides
  generalize artifact.symbols = symbols at listed ⊢
  generalize other.symbols = others at listed ⊢
  induction listed with
  | nil => rfl
  | cons first rest ih => rw [List.any_cons, List.any_cons, ih, first.symbol, first.availableAt equal]

namespace Catalog.Alike
variable {catalog other : Catalog} (alike : catalog.Alike other) (key : ModuleKey)
include alike

theorem provides (symbol : Symbol) {a b : Version} (equal : a.same b) :
    catalog.provides key symbol a = other.provides key symbol b :=
  ModuleMap.Alike.answers alike key Eq (Option.any (·.provides symbol a)) (Option.any (·.provides symbol b)) rfl
    fun _ _ same => same.provides symbol equal

theorem dependencies : List.Forall₂ (fun a b => Coordinate.same a b) (catalog.dependencies key) (other.dependencies key) :=
  ModuleMap.Alike.answers alike key (List.Forall₂ fun a b => Coordinate.same a b) (·.elim [] (·.dependencies))
    (·.elim [] (·.dependencies)) .nil fun _ _ same => same.dependencies

theorem releases : List.Forall₂ (fun a b => Version.same a b) (catalog.releases key) (other.releases key) :=
  ModuleMap.Alike.answers alike key (List.Forall₂ fun a b => Version.same a b) (·.elim [] (·.releases))
    (·.elim [] (·.releases)) .nil fun _ _ same => same.releases

end Catalog.Alike

namespace Classpath
variable {catalog other : Catalog} {exclusions : ModuleSet} {candidates others : List Candidate}
  {state next : Classpath × List ModuleKey} {classpath path : Classpath} {symbol : Symbol}

structure Candidate.Alike (candidate other : Candidate) : Prop where
  key : candidate.key = other.key
  version : candidate.version.same other.version
  origin : candidate.origin = other.origin

/-- The same libraries in equal versions, on the classpath and among those kept off it. -/
structure Alike (classpath path : Classpath) : Prop where
  entries : ModuleMap.Alike (fun a b => a.version.same b.version ∧ a.origin = b.origin) classpath.entries path.entries
  excluded : ModuleMap.Alike (fun a b => Version.same a b) classpath.excluded path.excluded

theorem alike_empty : Alike {} {} :=
  ⟨.nil, .nil⟩

theorem enter_alike (exclusions : ModuleSet) (alike : state.1.Alike next.1) (queues : state.2 = next.2) {candidate rival : Candidate}
    (same : candidate.Alike rival) :
    (enter exclusions state candidate).1.Alike (enter exclusions next rival).1 ∧
      (enter exclusions state candidate).2 = (enter exclusions next rival).2 := by
  obtain ⟨classpath, queue⟩ := state
  obtain ⟨path, _⟩ := next
  obtain ⟨key, version, origin⟩ := candidate
  obtain ⟨_, spelling, _⟩ := rival
  obtain ⟨rfl, versions, rfl⟩ := same
  obtain rfl : queue = _ := queues
  have taken := alike.entries.contains key
  have known := alike.excluded.contains key
  simp only [enter, taken, known]
  split
  · split
    · exact ⟨alike, rfl⟩
    · exact ⟨⟨alike.entries, alike.excluded.insert key versions⟩, rfl⟩
  · split
    · exact ⟨alike, rfl⟩
    · exact ⟨⟨alike.entries.insert key ⟨versions, rfl⟩, alike.excluded⟩, rfl⟩

theorem ask_alike (exclusions : ModuleSet) (state next : Classpath × List ModuleKey) (alike : state.1.Alike next.1)
    (queues : state.2 = next.2) (same : List.Forall₂ Candidate.Alike candidates others) :
    (ask exclusions candidates state).1.Alike (ask exclusions others next).1 ∧
      (ask exclusions candidates state).2 = (ask exclusions others next).2 := by
  induction same generalizing state next with
  | nil => exact ⟨alike, queues⟩
  | cons first _ ih =>
    obtain ⟨entered, queued⟩ := enter_alike exclusions alike queues first
    exact ih _ _ entered queued

theorem pulled_alike (alike : catalog.Alike other) (key : ModuleKey) :
    List.Forall₂ Candidate.Alike (pulled catalog key) (pulled other key) := by
  unfold pulled
  rw [List.forall₂_map_left_iff, List.forall₂_map_right_iff]
  refine (alike.dependencies key).imp ?_
  intro dependency rival same
  rw [Coordinate.same_iff] at same
  exact ⟨same.1, same.2, rfl⟩

/-- Runs from equal candidates stay side by side: the same keys have been followed and are queued. -/
theorem Reached.alike {followed : List ModuleKey} (reached : Reached catalog exclusions candidates followed state)
    (catalogs : catalog.Alike other) (same : List.Forall₂ Candidate.Alike candidates others) :
    ∃ next, Reached other exclusions others followed next ∧ state.1.Alike next.1 ∧ state.2 = next.2 := by
  induction reached with
  | start =>
    obtain ⟨asked, queued⟩ := ask_alike exclusions ({}, []) ({}, []) alike_empty rfl same
    exact ⟨_, .start, asked, queued⟩
  | @turn followed classpath key queue before ih =>
    obtain ⟨⟨path, _⟩, reached, alike, rfl⟩ := ih
    obtain ⟨asked, queued⟩ := ask_alike exclusions (classpath, queue) (path, queue) alike rfl (pulled_alike catalogs key)
    exact ⟨_, .turn reached, asked, queued⟩

theorem direct_alike {resolved settled : DependencySet} {extras rivals : List Coordinate}
    (dependencies : ModuleMap.Alike (fun a b => Version.same a b) resolved settled)
    (same : List.Forall₂ (fun a b => Coordinate.same a b) extras rivals) :
    List.Forall₂ Candidate.Alike (direct resolved extras) (direct settled rivals) := by
  unfold direct
  apply List.rel_append
  · rw [List.forall₂_map_left_iff, List.forall₂_map_right_iff]
    exact dependencies.imp fun a b entries => ⟨entries.1, entries.2, rfl⟩
  · rw [List.forall₂_map_left_iff, List.forall₂_map_right_iff]
    refine same.imp ?_
    intro extra rival equal
    rw [Coordinate.same_iff] at equal
    exact ⟨equal.1, equal.2, rfl⟩

/-- Catalogs, resolved versions and extra dependencies may all be written differently. -/
theorem build_alike {resolved settled : DependencySet} {extras rivals : List Coordinate} (catalogs : catalog.Alike other)
    (dependencies : ModuleMap.Alike (fun a b => Version.same a b) resolved settled)
    (same : List.Forall₂ (fun a b => Coordinate.same a b) extras rivals) (exclusions : ModuleSet) :
    (build catalog resolved extras exclusions).Alike (build other settled rivals exclusions) := by
  obtain ⟨followed, first⟩ := build_reached catalog resolved extras exclusions
  obtain ⟨⟨path, _⟩, beside, alike, rfl⟩ := first.alike catalogs (direct_alike dependencies same)
  obtain ⟨others, second⟩ := build_reached other settled rivals exclusions
  rw [← beside.end_unique second]
  exact alike

theorem provider?_alike {held kept : ModuleMap Version} (catalogs : catalog.Alike other)
    (alike : ModuleMap.Alike (fun a b => Version.same a b) held kept) (symbol : Symbol) :
    provider? catalog held symbol = provider? other kept symbol := by
  induction alike with
  | nil => rfl
  | @cons entry rival rest others first _ ih =>
    unfold provider? at ih ⊢
    have offered := catalogs.provides entry.1 symbol first.2
    rw [first.1] at offered
    rw [List.find?_cons, List.find?_cons, first.1, offered]
    split
    · exact congrArg some first.1
    · exact ih

section
variable (catalogs : catalog.Alike other) (alike : classpath.Alike path)
include catalogs alike

theorem lookup_alike (symbol : Symbol) : classpath.lookup catalog symbol = path.lookup other symbol := by
  have versions : ModuleMap.Alike (fun a b => Version.same a b)
      (classpath.entries.map fun placed => (placed.1, placed.2.version))
      (path.entries.map fun placed => (placed.1, placed.2.version)) := by
    unfold ModuleMap.Alike
    rw [List.forall₂_map_left_iff, List.forall₂_map_right_iff]
    exact alike.entries.imp fun a b entries => ⟨entries.1, entries.2.1⟩
  have present := provider?_alike catalogs versions symbol
  have barred := provider?_alike catalogs alike.excluded symbol
  unfold lookup
  simp only [present, barred]

theorem resolves_alike (symbol : Symbol) : classpath.resolves catalog symbol = path.resolves other symbol := by
  unfold resolves
  rw [lookup_alike catalogs alike, lookup_alike catalogs alike]

end

end Classpath
end Linkage
