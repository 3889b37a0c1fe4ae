import Mathlib.Order.Bounds.Defs
import Linkage.Proofs.ClasspathSearch

/-! What is on a classpath, as a set of keys: the least set that holds the direct keys and all that its members depend
on, exclusions apart. What is excluded is remembered exactly if something on the classpath, or the caller, asked for
it. Cycles and libraries that the catalog does not know need no special care. -/

namespace Linkage

/-- The catalog has a library under the key, and that library depends on the other key in some version. -/
def Catalog.DependsOn (catalog : Catalog) (key other : ModuleKey) : Prop :=
  ∃ artifact, catalog.find? key = some artifact ∧ ∃ dependency ∈ artifact.dependencies, dependency.key = other

namespace Classpath
variable {catalog : Catalog} {resolved : List (ModuleKey × Version)} {extras : List Coordinate}
  {exclusions : ModuleSet} {candidates : List Candidate} {state : Classpath × List ModuleKey}
  {followed : List ModuleKey} {key other : ModuleKey}

/-- A key that is resolved, or that is the key of an extra dependency. -/
def IsDirect (resolved : List (ModuleKey × Version)) (extras : List Coordinate) (key : ModuleKey) : Prop :=
  (∃ version, (key, version) ∈ resolved) ∨ ∃ extra ∈ extras, extra.key = key

structure Closed (catalog : Catalog) (resolved : List (ModuleKey × Version)) (extras : List Coordinate)
    (exclusions : ModuleSet) (keys : Set ModuleKey) : Prop where
  direct : ∀ key, IsDirect resolved extras key → key ∉ exclusions → key ∈ keys
  pulled : ∀ key ∈ keys, ∀ other, catalog.DependsOn key other → other ∉ exclusions → other ∈ keys

theorem mem_direct_iff :
    (∃ candidate ∈ direct resolved extras, candidate.key = key) ↔ IsDirect resolved extras key := by
  simp only [direct, IsDirect, List.mem_append, List.mem_map, or_and_right, exists_or]
  constructor
  · rintro (⟨_, ⟨⟨_, version⟩, member, rfl⟩, rfl⟩ | ⟨_, ⟨extra, member, rfl⟩, rfl⟩)
    · exact .inl ⟨version, member⟩
    · exact .inr ⟨extra, member, rfl⟩
  · rintro (⟨version, member⟩ | ⟨extra, member, rfl⟩)
    · exact .inl ⟨_, ⟨(key, version), member, rfl⟩, rfl⟩
    · exact .inr ⟨_, ⟨extra, member, rfl⟩, rfl⟩

theorem mem_pulled_iff : (∃ candidate ∈ pulled catalog key, candidate.key = other) ↔ catalog.DependsOn key other := by
  cases found : catalog.find? key <;> simp [pulled, Catalog.dependencies, Catalog.DependsOn, found]

/-- Whether one of the candidates of a run has the key. -/
private theorem asked_iff :
    ((direct resolved extras ++ followed.flatMap (pulled catalog)).find? (·.key = key)).isSome ↔
      IsDirect resolved extras key ∨ ∃ via ∈ followed, catalog.DependsOn via key := by
  simp only [List.find?_isSome, List.mem_append, List.mem_flatMap, or_and_right, exists_or, decide_eq_true_eq,
    ← mem_direct_iff, ← mem_pulled_iff]
  grind

namespace Reached

/-- What a run has let in so far: the direct keys and what the followed keys depend on, exclusions apart. -/
theorem mem_iff_asked (reached : Reached catalog exclusions (direct resolved extras) followed state) (key : ModuleKey) :
    key ∈ followed ++ state.2 ↔
      key ∉ exclusions ∧ (IsDirect resolved extras key ∨ ∃ via ∈ followed, catalog.DependsOn via key) := by
  rw [reached.mem_iff, reached.find?_entries, ← asked_iff]
  split <;> simp_all

theorem isExcluded_iff (reached : Reached catalog exclusions (direct resolved extras) followed state) (key : ModuleKey) :
    state.1.isExcluded key ↔
      key ∈ exclusions ∧ (IsDirect resolved extras key ∨ ∃ via ∈ followed, catalog.DependsOn via key) := by
  rw [isExcluded, ModuleMap.contains, reached.find?_excluded, ← asked_iff]
  split <;> simp_all

/-- No turn lets in a key that some closed set lacks. -/
theorem subset_closed (reached : Reached catalog exclusions (direct resolved extras) followed state)
    {keys : Set ModuleKey} (closed : Closed catalog resolved extras exclusions keys) : ∀ key ∈ followed ++ state.2, key ∈ keys := by
  induction reached with
  | start =>
    intro key member
    have first : Reached catalog exclusions (direct resolved extras) [] _ := .start
    obtain ⟨allowed, asked⟩ := (first.mem_iff_asked key).mp member
    simp only [List.not_mem_nil, false_and, exists_false, or_false] at asked
    exact closed.direct key asked allowed
  | @turn followed classpath via queue before ih =>
    intro key member
    obtain ⟨allowed, asked | ⟨source, earlier, depends⟩⟩ := (before.turn.mem_iff_asked key).mp member
    · exact closed.direct key asked allowed
    · have known : source ∈ followed ++ via :: queue := by grind
      exact closed.pulled source (ih source known) key depends allowed

end Reached

/-- Building a classpath ends on every catalog: finitely many turns of the search empty the queue, and the answer is
what they leave. Its keys are the least set that is closed under dependencies, and the remembered exclusions are the excluded
keys that the caller or a member of the set asks for. -/
theorem build_least_closed (catalog : Catalog) (resolved : List (ModuleKey × Version)) (extras : List Coordinate)
    (exclusions : ModuleSet) :
    (∃ followed, Reached catalog exclusions (direct resolved extras) followed
      (build catalog resolved extras exclusions, [])) ∧
    IsLeast {keys | Closed catalog resolved extras exclusions keys}
      {key | key ∈ (build catalog resolved extras exclusions).entries.keys} ∧
    (∀ key, (build catalog resolved extras exclusions).isExcluded key ↔ key ∈ exclusions ∧
      (IsDirect resolved extras key ∨
        ∃ via ∈ (build catalog resolved extras exclusions).entries.keys, catalog.DependsOn via key)) ∧
    ∀ key ∈ exclusions, key ∉ (build catalog resolved extras exclusions).entries.keys := by
  obtain ⟨followed, reached⟩ := build_reached catalog resolved extras exclusions
  have members : ∀ key, key ∈ (build catalog resolved extras exclusions).entries.keys ↔ key ∈ followed := by
    intro key
    rw [ModuleMap.mem_keys_iff, ← reached.mem_iff, List.append_nil]
  have asked := reached.mem_iff_asked
  simp only [List.append_nil] at asked
  refine ⟨⟨followed, reached⟩, ⟨⟨?_, ?_⟩, ?_⟩, ?_, ?_⟩
  · intro key direct allowed
    exact (members key).mpr ((asked key).mpr ⟨allowed, .inl direct⟩)
  · intro via member key depends allowed
    exact (members key).mpr ((asked key).mpr ⟨allowed, .inr ⟨via, (members via).mp member, depends⟩⟩)
  · intro keys closed key member
    exact reached.subset_closed closed key (by simpa using (members key).mp member)
  · intro key
    simpa only [members] using reached.isExcluded_iff key
  · intro key excluded member
    exact ((asked key).mp ((members key).mp member)).1 excluded

end Classpath
end Linkage
