import Mathlib.Data.List.Forall2
import Linkage.Config.Reading
import Linkage.Yaml.Node

/-! Typed reading asks its questions and nothing else. Where the nodes of a document answer each question as some other
trees do, the same configuration is read from both, or none. The nodes are read without using any node a second time. -/

namespace Linkage
open Yaml

/-- Both fail, or both give results that are related; the walk has used no anchored node. -/
def Agree {α β : Type} (r : α → β → Prop) (walk : Walk α) (answer : Option β) : Prop :=
  ∀ left, Option.Rel (fun (result : α × Nat) value => r result.1 value ∧ result.2 = left) (walk.run left) answer

namespace Agree
variable {α α' β β' : Type} {r : α → α' → Prop} {s : β → β' → Prop} {walk : Walk α} {answer : Option α'}

theorem pure {value : α} {other : α'} (related : r value other) : Agree r (pure value) (pure other) :=
  fun _ => .some ⟨related, rfl⟩

theorem some {value : α} {other : α'} (related : r value other) : Agree r (Pure.pure value) (some other) :=
  .pure related

theorem none : Agree r failure none :=
  fun _ => .none

theorem bind {next : α → Walk β} {after : α' → Option β'} (first : Agree r walk answer)
    (second : ∀ value other, r value other → Agree s (next value) (after other)) :
    Agree s (walk >>= next) (answer >>= after) := by
  intro left
  have step := first left
  rw [StateT.run_bind]
  generalize walk.run left = outcome at step ⊢
  cases step with
  | none => exact .none
  | some related =>
    obtain ⟨related, rfl⟩ := related
    exact second _ _ related _

/-- Results that are the same are used in the same way. -/
theorem bind_eq {answer : Option α} {next : α → Walk β} {after : α → Option β'} (first : Agree Eq walk answer)
    (second : ∀ value, Agree s (next value) (after value)) : Agree s (walk >>= next) (answer >>= after) := by
  refine first.bind ?_
  rintro value _ rfl
  exact second value

theorem mapM {f : α → Walk β} {g : α' → Option β'} {xs : List α} {ys : List α'}
    (each : ∀ x y, r x y → Agree s (f x) (g y)) (related : List.Forall₂ r xs ys) :
    Agree (List.Forall₂ s) (xs.mapM f) (ys.mapM g) := by
  induction related with
  | nil => exact .pure .nil
  | cons first _ ih =>
    rw [List.mapM_cons, List.mapM_cons]
    refine (each _ _ first).bind fun value other same => ih.bind fun values others all => .pure ?_
    exact .cons same all

theorem mapM_eq {f : α → Walk β} {g : α' → Option β} {xs : List α} {ys : List α'}
    (each : ∀ x y, r x y → Agree Eq (f x) (g y)) (related : List.Forall₂ r xs ys) :
    Agree Eq (xs.mapM f) (ys.mapM g) := by
  have all := mapM each related
  rwa [List.forall₂_eq_eq_eq] at all

end Agree

/-- Entries with the same name, bound to what is related. -/
def SameField {ν ν' : Type} (like : ν → ν' → Prop) (entry : String × ν) (other : String × ν') : Prop :=
  entry.1 = other.1 ∧ like entry.2 other.2

theorem SameField.filter {ν ν' : Type} {like : ν → ν' → Prop} {fields : List (String × ν)} {others : List (String × ν')}
    (alike : List.Forall₂ (SameField like) fields others) (names : List String) :
    List.Forall₂ (SameField like) (fields.filter fun entry => names.contains entry.1)
      (others.filter fun entry => names.contains entry.1) := by
  induction alike with
  | nil => exact .nil
  | @cons entry other _ _ first _ ih =>
    rw [List.filter_cons, List.filter_cons, first.1]
    split
    · exact .cons first ih
    · exact ih

theorem SameField.names {ν ν' : Type} {like : ν → ν' → Prop} {fields : List (String × ν)} {others : List (String × ν')}
    (alike : List.Forall₂ (SameField like) fields others) : fields.map (·.1) = others.map (·.1) := by
  induction alike with
  | nil => rfl
  | cons first _ ih => rw [List.map_cons, List.map_cons, first.1, ih]

/-- Every question about a tree is answered as it is about a tree that is like it. -/
structure Reading.Answers {ν ν' : Type} (reading : Reading Walk ν) (other : Reading Option ν') (like : ν → ν' → Prop) :
    Prop where
  refuse : ∀ {α β : Type} {r : α → β → Prop}, Agree r reading.refuse other.refuse
  text : ∀ {node value}, like node value → Agree Eq (reading.text node) (other.text value)
  boolean : ∀ {node value}, like node value → Agree Eq (reading.boolean node) (other.boolean value)
  natural : ∀ {node value}, like node value → Agree Eq (reading.natural node) (other.natural value)
  word : ∀ {node value}, like node value → Agree Eq (reading.word node) (other.word value)
  present : ∀ {node value}, like node value → Agree (Option.Rel like) (reading.present? node) (other.present? value)
  items : ∀ {node value}, like node value → Agree (List.Forall₂ like) (reading.items node) (other.items value)
  entries : ∀ {node value}, like node value →
    Agree (List.Forall₂ (SameField like)) (reading.entries node) (other.entries value)
  fields : ∀ {node value} (names : List String), like node value →
    Agree (List.Forall₂ (SameField like)) (reading.fields names node) (other.fields names value)

namespace Reading.Answers
variable {ν ν' α : Type} {reading : Reading Walk ν} {other : Reading Option ν'} {like : ν → ν' → Prop}
  {read : ν → Walk α} {answer : ν' → Option α} {node : ν} {value : ν'} {fields : List (String × ν)}
  {others : List (String × ν')}

theorem lookup (alike : List.Forall₂ (SameField like) fields others) (name : String) :
    (fields.lookup name = none ∧ others.lookup name = none) ∨
      ∃ node value, fields.lookup name = some node ∧ others.lookup name = some value ∧ like node value := by
  induction alike with
  | nil => exact .inl ⟨rfl, rfl⟩
  | @cons entry other fields others first _ ih =>
    obtain ⟨key, node⟩ := entry
    obtain ⟨key, value⟩ := other
    obtain ⟨rfl, bound⟩ := first
    rw [List.lookup_cons, List.lookup_cons]
    cases name == key with
    | true => exact .inr ⟨node, value, rfl, rfl, bound⟩
    | false => exact ih

theorem field (alike : List.Forall₂ (SameField like) fields others) (name : String) (default : α)
    (each : ∀ {node value}, like node value → Agree Eq (read node) (answer value)) :
    Agree Eq (Reading.field fields name default read) (Reading.field others name default answer) := by
  unfold Reading.field
  obtain ⟨absent, missing⟩ | ⟨node, value, found, held, bound⟩ := lookup alike name
  · rw [absent, missing]
    exact .pure rfl
  · rw [found, held]
    exact each bound

variable (answers : reading.Answers other like)
include answers

theorem required (alike : List.Forall₂ (SameField like) fields others) (name : String)
    (each : ∀ {node value}, like node value → Agree Eq (read node) (answer value)) :
    Agree Eq (reading.required fields name read) (other.required others name answer) := by
  unfold Reading.required
  obtain ⟨absent, missing⟩ | ⟨node, value, found, held, bound⟩ := lookup alike name
  · rw [absent, missing]
    exact answers.refuse
  · rw [found, held]
    exact each bound

theorem optional (each : ∀ {node value}, like node value → Agree Eq (read node) (answer value))
    (alike : like node value) : Agree Eq (reading.optional read node) (other.optional answer value) := by
  refine (answers.present alike).bind ?_
  intro found held present
  cases present with
  | none => exact .pure rfl
  | some bound => exact (each bound).bind_eq fun result => .pure rfl

theorem listOf (each : ∀ {node value}, like node value → Agree Eq (read node) (answer value))
    (alike : like node value) : Agree Eq (reading.listOf read node) (other.listOf answer value) :=
  (answers.items alike).bind fun _ _ all => .mapM_eq (fun _ _ bound => each bound) all

theorem known (found : Option α) : Agree Eq (reading.known found) (other.known found) := by
  cases found with
  | none => exact answers.refuse
  | some value => exact .pure rfl

theorem texts (alike : like node value) : Agree Eq (reading.texts node) (other.texts value) :=
  answers.listOf answers.text alike

theorem textMap (alike : like node value) : Agree Eq (reading.textMap node) (other.textMap value) := by
  refine (answers.entries alike).bind fun entries others all => ?_
  refine (Agree.mapM_eq ?_ all).bind_eq fun texts => .pure rfl
  rintro ⟨key, node⟩ ⟨key, value⟩ ⟨rfl, bound⟩
  exact (answers.text bound).bind_eq fun text => .pure rfl

theorem outputMode (alike : like node value) : Agree Eq (reading.outputMode node) (other.outputMode value) :=
  (answers.word alike).bind_eq fun _ => answers.known _

theorem expectation (alike : like node value) : Agree Eq (reading.expectation node) (other.expectation value) :=
  (answers.word alike).bind_eq fun _ => answers.known _

theorem settings (alike : like node value) : Agree Eq (reading.settings node) (other.settings value) := by
  refine (answers.fields _ alike).bind fun fields others all => ?_
  refine (field all _ _ answers.outputMode).bind_eq fun defaultOutput => ?_
  refine (field all _ _ answers.boolean).bind_eq fun parallel => ?_
  refine (field all _ _ answers.natural).bind_eq fun maxParallel => ?_
  refine (field all _ _ answers.text).bind_eq fun repositoryUrl => ?_
  exact (field all _ _ answers.natural).bind_eq fun cacheTtlSeconds => .pure rfl

theorem instrumentation (alike : like node value) :
    Agree Eq (reading.instrumentation node) (other.instrumentation value) := by
  refine (answers.fields _ alike).bind fun fields others all => ?_
  refine (field all _ _ answers.texts).bind_eq fun helperPrefixes => ?_
  refine (field all _ _ (answers.optional answers.texts)).bind_eq fun bootstrapPrefixes => ?_
  refine (field all _ _ answers.texts).bind_eq fun classLoaderMatcher => ?_
  refine (field all _ _ answers.texts).bind_eq fun exclusions => ?_
  exact (field all _ _ answers.texts).bind_eq fun references => .pure rfl

theorem ruleEntry (alike : like node value) : Agree Eq (reading.ruleEntry node) (other.ruleEntry value) := by
  refine (answers.fields _ alike).bind fun fields others all => ?_
  refine (field all _ _ (answers.optional answers.text)).bind_eq fun name => ?_
  refine (field all _ _ answers.text).bind_eq fun group => ?_
  refine (field all _ _ answers.text).bind_eq fun module => ?_
  refine (field all _ _ answers.text).bind_eq fun versions => ?_
  refine (field all _ _ answers.texts).bind_eq fun extraDependencies => ?_
  refine (field all _ _ answers.texts).bind_eq fun excludedDependencies => ?_
  refine (field all _ _ answers.expectation).bind_eq fun assertion => ?_
  refine (field all _ _ answers.boolean).bind_eq fun assertInverse => ?_
  exact (field all _ _ answers.texts).bind_eq fun skipVersions => .pure rfl

theorem symbolEntry (alike : like node value) : Agree Eq (reading.symbolEntry node) (other.symbolEntry value) := by
  refine (answers.fields _ alike).bind fun fields others all => ?_
  refine (answers.required all _ answers.text).bind_eq fun symbol => ?_
  refine (field all _ _ (answers.optional answers.text)).bind_eq fun since => ?_
  exact (field all _ _ (answers.optional answers.text)).bind_eq fun «until» => .pure rfl

theorem catalogEntry (alike : like node value) : Agree Eq (reading.catalogEntry node) (other.catalogEntry value) := by
  refine (answers.fields _ alike).bind fun fields others all => ?_
  refine (field all _ _ answers.text).bind_eq fun artifact => ?_
  refine (field all _ _ answers.texts).bind_eq fun releases => ?_
  refine (field all _ _ answers.texts).bind_eq fun dependencies => ?_
  exact (field all _ _ (answers.listOf answers.symbolEntry)).bind_eq fun symbols => .pure rfl

/-- Trees that answer alike are read as the same configuration, or both are refused. -/
theorem config (alike : like node value) : Agree Eq (reading.config node) (other.config value) := by
  refine (answers.fields _ alike).bind fun fields others all => ?_
  refine (field all _ _ (answers.optional answers.text)).bind_eq fun name => ?_
  refine (field all _ _ answers.settings).bind_eq fun settings => ?_
  refine (field all _ _ answers.instrumentation).bind_eq fun instrumentation => ?_
  refine (field all _ _ (answers.listOf answers.ruleEntry)).bind_eq fun rules => ?_
  refine (field all _ _ (answers.listOf answers.catalogEntry)).bind_eq fun catalog => ?_
  exact (field all _ _ answers.textMap).bind_eq fun resolved => .pure rfl

end Reading.Answers
end Linkage
