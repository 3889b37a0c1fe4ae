import Linkage.Proofs.ClasspathSearch

/-! Which symbols code can link against on a classpath, and which excluded library is named for one that it cannot.
Only the windows of the catalog and the versions on the classpath decide this; a look-up merely finds the first library,
and the first one in a list of keys in order is the least. -/

namespace Linkage

/-- The version is not below the first one with the symbol, and below the first one without it. -/
def ProvidedSymbol.InWindow (provided : ProvidedSymbol) (version : Version) : Prop :=
  (∀ since ∈ provided.since, version.compare since ≠ .lt) ∧ ∀ limit ∈ provided.until, version.compare limit = .lt

theorem ProvidedSymbol.availableAt_iff {provided : ProvidedSymbol} {version : Version} :
    provided.availableAt version ↔ provided.InWindow version := by
  simp [availableAt, InWindow, Version.below, Option.all_eq_true]

/-- The catalog has a library under the key that lists the symbol for a window with the version in it. -/
def Catalog.Offers (catalog : Catalog) (key : ModuleKey) (version : Version) (symbol : Symbol) : Prop :=
  ∃ artifact, catalog.find? key = some artifact ∧
    ∃ provided ∈ artifact.symbols, provided.symbol = symbol ∧ provided.InWindow version

theorem Catalog.provides_iff {catalog : Catalog} {key : ModuleKey} {version : Version} {symbol : Symbol} :
    catalog.provides key symbol version ↔ catalog.Offers key version symbol := by
  simp [provides, Offers, Artifact.provides, Option.any_eq_true, ProvidedSymbol.availableAt_iff]

instance (catalog : Catalog) (key : ModuleKey) (version : Version) (symbol : Symbol) :
    Decidable (catalog.Offers key version symbol) :=
  decidable_of_iff _ Catalog.provides_iff

namespace Classpath
variable {catalog : Catalog} {exclusions : ModuleSet} {candidates : List Candidate} {followed : List ModuleKey}
  {state : Classpath × List ModuleKey} {classpath : Classpath} {held : ModuleMap Version} {symbol : Symbol}

/-- Some library on the classpath offers the symbol in the version that is there. -/
def Present (classpath : Classpath) (catalog : Catalog) (symbol : Symbol) : Prop :=
  ∃ entry ∈ classpath.entries, catalog.Offers entry.1 entry.2.version symbol

instance : Decidable (classpath.Present catalog symbol) :=
  inferInstanceAs (Decidable (∃ entry ∈ classpath.entries, _))

/-- A symbol links if its class is present, and it is present itself. -/
def Links (classpath : Classpath) (catalog : Catalog) (symbol : Symbol) : Prop :=
  classpath.Present catalog symbol.ownerClass ∧ classpath.Present catalog symbol

instance : Decidable (classpath.Links catalog symbol) :=
  inferInstanceAs (Decidable (_ ∧ _))

/-- What is in the way of a symbol that does not link: its class if this is not present, or else the symbol itself. -/
def obstacle (classpath : Classpath) (catalog : Catalog) (symbol : Symbol) : Symbol :=
  if classpath.Present catalog symbol.ownerClass then symbol else symbol.ownerClass

/-- The least of the keys whose libraries offer the symbol, if there is one. -/
def Least (catalog : Catalog) (held : ModuleMap Version) (symbol : Symbol) : Option ModuleKey → Prop
  | none => ∀ entry ∈ held, ¬ catalog.Offers entry.1 entry.2 symbol
  | some key => (∃ version, (key, version) ∈ held ∧ catalog.Offers key version symbol) ∧
      ∀ entry ∈ held, catalog.Offers entry.1 entry.2 symbol → (key.compare entry.1).isLE

theorem provider?_eq_none_iff : provider? catalog held symbol = none ↔ Least catalog held symbol none := by
  simp [provider?, Least, Catalog.provides_iff]

theorem least_provider? (ordered : Ascending.Strict ModuleMap.compareKeys held) :
    Least catalog held symbol (provider? catalog held symbol) := by
  cases found : provider? catalog held symbol with
  | none => exact provider?_eq_none_iff.mp found
  | some key =>
    obtain ⟨⟨_, version⟩, first, rfl⟩ := Option.map_eq_some_iff.mp found
    obtain ⟨offers, before, after, rfl, earlier⟩ := List.find?_eq_some_iff_append.mp first
    refine ⟨⟨version, by simp, Catalog.provides_iff.mp offers⟩, fun entry member others => ?_⟩
    rcases List.mem_append.mp member with member | member
    · have refused := earlier entry member
      simp [Catalog.provides_iff.mpr others] at refused
    · rcases List.mem_cons.mp member with rfl | member
      · simp [Std.ReflCmp.compare_self]
      · have behind := (List.pairwise_append.mp ordered).2.1
        exact Ordering.isLE_of_eq_lt ((List.pairwise_cons.mp behind).1 entry member)

theorem least_unique {a b : Option ModuleKey} (first : Least catalog held symbol a)
    (second : Least catalog held symbol b) : a = b := by
  cases a with
  | none =>
    cases b with
    | none => rfl
    | some key =>
      obtain ⟨⟨version, member, offers⟩, -⟩ := second
      exact absurd offers (first _ member)
  | some key =>
    obtain ⟨⟨version, member, offers⟩, least⟩ := first
    cases b with
    | none => exact absurd offers (second _ member)
    | some other =>
      obtain ⟨⟨otherVersion, otherMember, otherOffers⟩, otherLeast⟩ := second
      have below := least _ otherMember otherOffers
      have above := otherLeast _ member offers
      exact congrArg some (Std.LawfulEqCmp.eq_of_compare (Std.OrientedCmp.isLE_antisymm below above))

/-- The versions on the classpath. -/
def versions (classpath : Classpath) : ModuleMap Version :=
  classpath.entries.map fun entry => (entry.1, entry.2.version)

theorem lookup_eq : classpath.lookup catalog symbol = (provider? catalog classpath.versions symbol).elim
    ((provider? catalog classpath.excluded symbol).elim .missing .excluded) .found := by
  unfold lookup
  split
  next provider found =>
    have provided : provider? catalog classpath.versions symbol = some provider := found
    rw [provided, Option.elim_some]
  next absent =>
    have unprovided : provider? catalog classpath.versions symbol = none := absent
    rw [unprovided, Option.elim_none]
    cases provider? catalog classpath.excluded symbol <;> rfl

theorem provider?_versions_eq_none_iff :
    provider? catalog classpath.versions symbol = none ↔ ¬ classpath.Present catalog symbol := by
  rw [provider?_eq_none_iff]
  simp only [Least, versions, List.forall_mem_map, Present, not_exists, not_and]

theorem lookup_of_present (present : classpath.Present catalog symbol) :
    ∃ provider, classpath.lookup catalog symbol = .found provider := by
  rw [lookup_eq]
  cases found : provider? catalog classpath.versions symbol with
  | some provider => exact ⟨provider, rfl⟩
  | none => exact absurd present (provider?_versions_eq_none_iff.mp found)

theorem lookup_of_absent (absent : ¬ classpath.Present catalog symbol) :
    classpath.lookup catalog symbol = (provider? catalog classpath.excluded symbol).elim .missing .excluded := by
  rw [lookup_eq, provider?_versions_eq_none_iff.mpr absent]
  rfl

theorem resolves_of_links (links : classpath.Links catalog symbol) :
    ∃ provider, classpath.resolves catalog symbol = .found provider := by
  obtain ⟨provider, found⟩ := lookup_of_present links.1
  simpa [resolves, found] using lookup_of_present links.2

/-- A failing look-up says which excluded library is in the way, of the class or else of the member. -/
theorem resolves_of_not_links (broken : ¬ classpath.Links catalog symbol) : classpath.resolves catalog symbol =
    (provider? catalog classpath.excluded (classpath.obstacle catalog symbol)).elim .missing .excluded := by
  by_cases present : classpath.Present catalog symbol.ownerClass
  · have absent : ¬ classpath.Present catalog symbol := fun member => broken ⟨present, member⟩
    obtain ⟨provider, found⟩ := lookup_of_present present
    simp [resolves, obstacle, found, present, lookup_of_absent absent]
  · have absent := lookup_of_absent present
    rw [obstacle, if_neg present, ← absent, resolves]
    split
    next isClass =>
      cases symbol with
      | ofClass name => rfl
      | method | field => simp [Symbol.isClass] at isClass
    next =>
      split
      next found =>
        rw [found] at absent
        cases blamed : provider? catalog classpath.excluded symbol.ownerClass <;> rw [blamed] at absent
        · contradiction
        · contradiction
      next => rfl

/-- Both maps of the classpath are in key order. -/
structure Ordered (classpath : Classpath) : Prop where
  entries : Ascending.Strict ModuleMap.compareKeys classpath.entries
  excluded : Ascending.Strict ModuleMap.compareKeys classpath.excluded

theorem ask_ordered (ordered : state.1.Ordered) : (ask exclusions candidates state).1.Ordered := by
  induction candidates generalizing state with
  | nil => exact ordered
  | cons candidate rest ih =>
    apply ih
    simp only [enter]
    split <;> split
    · exact ordered
    · exact ⟨ordered.entries, ModuleMap.insert_strict ordered.excluded⟩
    · exact ordered
    · exact ⟨ModuleMap.insert_strict ordered.entries, ordered.excluded⟩

theorem Reached.ordered (reached : Reached catalog exclusions candidates followed state) : state.1.Ordered := by
  have run := congrArg (·.1) reached.asked
  rw [← run]
  exact ask_ordered ⟨.nil, .nil⟩

theorem build_ordered (catalog : Catalog) (resolved : List (ModuleKey × Version)) (extras : List Coordinate)
    (exclusions : ModuleSet) : (build catalog resolved extras exclusions).Ordered := by
  obtain ⟨followed, reached⟩ := build_reached catalog resolved extras exclusions
  exact reached.ordered

theorem build_excluded_strict (catalog : Catalog) (resolved : List (ModuleKey × Version)) (extras : List Coordinate)
    (exclusions : ModuleSet) :
    Ascending.Strict ModuleMap.compareKeys (build catalog resolved extras exclusions).excluded :=
  (build_ordered catalog resolved extras exclusions).excluded

end Classpath
end Linkage
