import Linkage.Proofs.MatrixGrowth
import Linkage.Proofs.Registration

/-! How versions are written decides nothing. Inputs that are built step by step from equal versions stay alike, the
same rules are accepted for them, and all that is verified comes out equal. -/

namespace Linkage

section
variable {α : Type u} {related : α → α → Prop} {xs ys zs : List α}

private theorem forall₂_trans (trans : ∀ {a b c}, related a b → related b c → related a c)
    (first : List.Forall₂ related xs ys) (second : List.Forall₂ related ys zs) : List.Forall₂ related xs zs := by
  induction first generalizing zs with
  | nil => exact second
  | cons head _ ih =>
    cases second with
    | cons next later => exact .cons (trans head next) (ih later)

end

theorem Coordinate.same_trans {a b c : Coordinate} (first : a.same b) (second : b.same c) : a.same c := by
  rw [Coordinate.same_iff] at first second ⊢
  exact ⟨first.1.trans second.1, Version.same_trans first.2 second.2⟩

namespace VersionRange
variable {a b c : VersionRange} {first? second? third? : Option Bound}

private theorem sameBound_trans (first : sameBound first? second?) (second : sameBound second? third?) :
    sameBound first? third? := by
  rw [sameBound_iff] at first second ⊢
  cases first with
  | none => exact second
  | some left =>
    cases second with
    | some right => exact .some ⟨left.1.trans right.1, Version.same_trans left.2 right.2⟩

theorem same_trans (first : a.same b) (second : b.same c) : a.same c := by
  obtain ⟨lower, upper⟩ := Bool.and_eq_true_iff.mp first
  obtain ⟨below, above⟩ := Bool.and_eq_true_iff.mp second
  exact Bool.and_eq_true_iff.mpr ⟨sameBound_trans lower below, sameBound_trans upper above⟩

end VersionRange

namespace Rule
variable {a b c d : Rule}

theorem Alike.trans (first : a.Alike b) (second : b.Alike c) : a.Alike c where
  name := first.name.trans second.name
  key := first.key.trans second.key
  versions := VersionRange.same_trans first.versions second.versions
  extraDependencies := forall₂_trans Coordinate.same_trans first.extraDependencies second.extraDependencies
  excludedDependencies := first.excludedDependencies.trans second.excludedDependencies
  expectation := first.expectation.trans second.expectation
  assertInverse := first.assertInverse.trans second.assertInverse
  skipVersions := forall₂_trans Version.same_trans first.skipVersions second.skipVersions

/-- Whether two rules are equal does not depend on how they are written. -/
theorem same_congr (left : a.Alike b) (right : c.Alike d) : a.same c = b.same d := by
  rw [Bool.eq_iff_iff, same_iff, same_iff]
  constructor
  · intro equal
    exact left.symm.trans (equal.trans right)
  · intro equal
    exact left.trans (equal.trans right.symm)

end Rule

/-- The same libraries with equal candidates. -/
def Candidates.Alike (candidates others : Candidates) : Prop :=
  ModuleMap.Alike (List.Forall₂ fun a b => Version.same a b) candidates.versions others.versions

namespace Candidates.Alike
variable {candidates others : Candidates}

theorem get (alike : candidates.Alike others) (key : ModuleKey) :
    List.Forall₂ (fun a b => Version.same a b) (candidates.get key) (others.get key) :=
  alike.answers key (List.Forall₂ fun a b => Version.same a b) (·.getD []) (·.getD []) .nil fun _ _ same => same

theorem symm (alike : candidates.Alike others) : others.Alike candidates :=
  ModuleMap.Alike.symm alike fun _ _ same => (same.imp fun _ _ => Version.same_symm).flip

theorem within (alike : candidates.Alike others) : candidates.Within others := by
  intro key version member
  obtain ⟨twin, listed, equal⟩ :=
    (Version.holds_congr (alike.get key)).mp ⟨version, member, Version.compare_self version⟩
  exact ⟨twin, listed, Version.same_symm (Version.same_iff.mpr equal)⟩

end Candidates.Alike

namespace Version
variable {a b : Version} {set others : List Version}

/-- A search for the place of a version takes the same way on both sides. -/
theorem insert_alike (versions : a.same b) (alike : List.Forall₂ (fun a b => same a b) set others) :
    List.Forall₂ (fun a b => same a b) (Version.insert a set) (Version.insert b others) := by
  induction alike with
  | nil => exact .cons versions .nil
  | @cons held kept _ _ first later ih =>
    unfold Version.insert Ascending.insert
    rw [compare_congr versions first]
    cases b.compare kept with
    | lt => exact .cons versions (.cons first later)
    | eq => exact .cons first later
    | gt => exact .cons first ih

theorem foldl_insert_alike {added given : List Version} (versions : List.Forall₂ (fun a b => same a b) added given)
    (alike : List.Forall₂ (fun a b => same a b) set others) :
    List.Forall₂ (fun a b => same a b) (added.foldl (fun set version => Version.insert version set) set)
      (given.foldl (fun set version => Version.insert version set) others) := by
  induction versions generalizing set others with
  | nil => exact alike
  | cons first _ ih => exact ih (insert_alike first alike)

end Version

/-- Building from equal versions keeps inputs alike, also where a version is dropped because an equal one is there. -/
structure BuiltAlike : Prop where
  release : ∀ {artifact other : Artifact} {a b : Version}, artifact.Alike other → a.same b →
    (artifact.withRelease a).Alike (other.withRelease b)
  dependency : ∀ {artifact other : Artifact} {a b : Coordinate}, artifact.Alike other → a.same b →
    (artifact.withDependency a).Alike (other.withDependency b)
  symbol : ∀ {artifact other : Artifact} {a b : ProvidedSymbol}, artifact.Alike other → a.Alike b →
    (artifact.withSymbol a).Alike (other.withSymbol b)
  artifact : ∀ {catalog other : Catalog} {a b : Artifact}, catalog.Alike other → a.Alike b →
    (catalog.insert a).Alike (other.insert b)
  resolved : ∀ {dependencies settled : DependencySet} (key : ModuleKey) {a b : Version},
    ModuleMap.Alike (fun a b => Version.same a b) dependencies settled → a.same b →
    ModuleMap.Alike (fun a b => Version.same a b) (dependencies.insert key a) (settled.insert key b)
  candidates : ∀ {candidates others : Candidates} (key : ModuleKey) {added given : List Version},
    candidates.Alike others → List.Forall₂ (fun a b => Version.same a b) added given →
    (candidates.extend key added).Alike (others.extend key given)
  skipped : ∀ {rule other : Rule} {versions spellings : List Version}, rule.Alike other →
    List.Forall₂ (fun a b => Version.same a b) versions spellings →
    Rule.Alike { rule with skipVersions := Ascending.ofList Version.compare versions }
      { other with skipVersions := Ascending.ofList Version.compare spellings }

theorem builtAlike : BuiltAlike where
  release alike versions := { alike with releases := Version.insert_alike versions alike.releases }
  dependency alike dependencies :=
    { alike with dependencies := List.rel_append alike.dependencies (.cons dependencies .nil) }
  symbol alike symbols := { alike with symbols := List.rel_append alike.symbols (.cons symbols .nil) }
  artifact {_ _ library _} catalogs alike := by
    have inserted := ModuleMap.Alike.insert catalogs library.key alike
    unfold Catalog.Alike Catalog.insert
    rwa [← alike.key]
  resolved key _ _ alike versions := alike.insert key versions
  candidates key _ _ alike versions := ModuleMap.Alike.insert alike key (Version.foldl_insert_alike versions (alike.get key))
  skipped alike versions := { alike with skipVersions := Version.foldl_insert_alike versions .nil }

namespace Verifier
variable {verifier other : Verifier} {rule rival : Rule} {rules rivals : List Rule} {dependencies settled : DependencySet}

/-- The numbers under which rules are registered, one after the other; a rule that is refused gets none. -/
def answers (verifier : Verifier) : List Rule → List (Option Nat)
  | [] => []
  | rule :: rest =>
    (verifier.register rule).toOption.map (·.1) :: (verifier.settled (verifier.register rule)).answers rest

/-- The verifier with all the rules registered that it accepts. -/
def enrolled (verifier : Verifier) (rules : List Rule) : Verifier :=
  verifier.run (rules.map .register)

theorem accepts_alike (alike : verifier.Alike other) (same : rule.Alike rival) (accepts : verifier.Accepts rule) :
    other.Accepts rival where
  distinct := by
    have refused : verifier.rules.any (·.same rule) = false := by simpa using accepts.distinct
    have equal : verifier.rules.any (·.same rule) = other.rules.any (·.same rival) := by
      have listed := alike.rules
      generalize verifier.rules = registered at listed ⊢
      generalize other.rules = others at listed ⊢
      induction listed with
      | nil => rfl
      | cons first _ ih => rw [List.any_cons, List.any_cons, ih, Rule.same_congr (Rule.same_iff.mp first) same]
    simpa [equal] using refused
  keeps := by
    rw [← same.key, ← same.excludedDependencies]
    exact accepts.keeps
  admitted := by
    rw [← same.key, ← alike.exclusions]
    exact accepts.admitted

theorem withRule_alike (alike : verifier.Alike other) (same : rule.Alike rival) :
    (verifier.withRule rule).Alike (other.withRule rival) :=
  { alike with rules := List.rel_append alike.rules (.cons (Rule.same_iff.mpr same) .nil) }

/-- A rule is accepted under the same number on both sides, or refused on both. -/
theorem register_alike (alike : verifier.Alike other) (same : rule.Alike rival) :
    (verifier.register rule).toOption.map (·.1) = (other.register rival).toOption.map (·.1) ∧
      (verifier.settled (verifier.register rule)).Alike (other.settled (other.register rival)) := by
  by_cases accepts : verifier.Accepts rule
  · rw [register_of_accepts accepts, register_of_accepts (accepts_alike alike same accepts)]
    exact ⟨congrArg some alike.rules.length_eq, withRule_alike alike same⟩
  · have refused : ¬ other.Accepts rival := fun accepted => accepts (accepts_alike alike.symm same.symm accepted)
    obtain ⟨error, first⟩ := register_of_not_accepts accepts
    obtain ⟨fault, second⟩ := register_of_not_accepts refused
    rw [first, second]
    exact ⟨rfl, alike⟩

theorem enrolled_alike (alike : verifier.Alike other) (same : List.Forall₂ (fun a b => Rule.same a b) rules rivals) :
    verifier.answers rules = other.answers rivals ∧ (verifier.enrolled rules).Alike (other.enrolled rivals) := by
  induction same generalizing verifier other with
  | nil => exact ⟨rfl, alike⟩
  | cons first _ ih =>
    obtain ⟨numbers, changed⟩ := register_alike alike (Rule.same_iff.mp first)
    obtain ⟨later, last⟩ := ih changed
    exact ⟨congrArg₂ List.cons numbers later, last⟩

theorem verifyRule_alike (alike : verifier.Alike other)
    (resolved : ModuleMap.Alike (fun a b => Version.same a b) dependencies settled) (index : Nat) :
    Option.Rel (fun a b => Verdict.same a b) (verifier.verifyRule index dependencies) (other.verifyRule index settled) := by
  unfold verifyRule
  by_cases bound : index < verifier.rules.length
  · have reach : index < other.rules.length := alike.rules.length_eq ▸ bound
    have same := Rule.same_iff.mp (alike.rules.get bound reach)
    rw [List.getElem?_eq_getElem bound, List.getElem?_eq_getElem reach]
    exact .some (evaluate_alike alike same index resolved)
  · have past : ¬ index < other.rules.length := alike.rules.length_eq ▸ bound
    rw [List.getElem?_eq_none (Nat.not_lt.mp bound), List.getElem?_eq_none (Nat.not_lt.mp past)]
    exact .none

theorem verify_alike (alike : verifier.Alike other)
    (resolved : ModuleMap.Alike (fun a b => Version.same a b) dependencies settled) :
    List.Forall₂ (fun a b => Verdict.same a b) (verifier.verify dependencies) (other.verify settled) := by
  rw [verify, verify, mapRules_eq_numbered, mapRules_eq_numbered]
  have listed := alike.rules
  generalize verifier.rules = registered at listed ⊢
  generalize other.rules = others at listed ⊢
  generalize 0 = place
  induction listed generalizing place with
  | nil => exact .nil
  | cons first _ ih => exact .cons (evaluate_alike alike (Rule.same_iff.mp first) place resolved) (ih (place + 1))

/-- Versions may be replaced by equal ones everywhere: in the catalog, in the rules, among the resolved versions and
among the candidates. The same rules are accepted, under the same numbers, and verification as well as a matrix run come
to equal verdicts. Where such inputs are put together version by version, the results are again such inputs. -/
theorem spelling_neutral : BuiltAlike ∧
    ∀ (verifier other : Verifier) (rules rivals : List Rule) (dependencies settled : DependencySet)
      (candidates others : Candidates), verifier.Alike other →
      List.Forall₂ (fun a b => Rule.same a b) rules rivals →
      ModuleMap.Alike (fun a b => Version.same a b) dependencies settled → candidates.Alike others →
      verifier.answers rules = other.answers rivals ∧
      List.Forall₂ (fun a b => Verdict.same a b) ((verifier.enrolled rules).verify dependencies)
        ((other.enrolled rivals).verify settled) ∧
      (∀ index, Option.Rel (fun a b => Verdict.same a b) ((verifier.enrolled rules).verifyRule index dependencies)
        ((other.enrolled rivals).verifyRule index settled)) ∧
      ((verifier.enrolled rules).matrix candidates).same ((other.enrolled rivals).matrix others) := by
  refine ⟨builtAlike, ?_⟩
  intro verifier other rules rivals dependencies settled candidates others alike same resolved given
  obtain ⟨numbers, enrolled⟩ := enrolled_alike alike same
  refine ⟨numbers, verify_alike enrolled resolved, verifyRule_alike enrolled resolved, ?_⟩
  exact matrix_same enrolled given.within given.symm.within

namespace Respelled
open Connector (connector query)

def one : Version := ⟨"1.0", [1, 0], none⟩
def final : Version := ⟨"1.0.0.Final", [1, 0, 0], some "Final"⟩
def two : Version := ⟨"2", [2], none⟩
def zeros : Version := ⟨"2.0.0", [2, 0, 0], none⟩

def start (first second : Version) : Verifier :=
  fresh (.ofReferences [query])
    ⟨[(connector, { key := connector, releases := [first], symbols := [⟨query, some first, some second⟩] })]⟩

/-- The versions from the first one on. -/
def sample (first : Version) : Rule :=
  { key := connector, versions := .atLeast first }

def known (first second : Version) : Candidates := ⟨[(connector, [first, second])]⟩

theorem start_alike : (start one two).Alike (start final zeros) where
  surface := rfl
  catalog := .cons ⟨rfl, rfl, .cons (by decide) .nil, .nil,
    .cons ⟨rfl, .some (by decide), .some (by decide)⟩ .nil⟩ .nil
  exclusions := rfl
  rules := .nil

end Respelled

open Respelled in
open Connector (connector query) in
/-- A rule is refused if it is there in another spelling, and the release that lacks the symbol fails on both sides. -/
theorem spelling_neutral_connector :
    (start one two).answers [sample one, sample final] = [some 0, none] ∧
      ((start one two).enrolled [sample one]).verify (.single connector two) =
        [⟨0, "org.sample:connector", connector, some two, .pass, .failed [.missingSymbol query none]⟩] ∧
      (start one two).answers [sample one, sample final] = (start final zeros).answers [sample final, sample one] ∧
      List.Forall₂ (fun a b => Verdict.same a b)
        (((start one two).enrolled [sample one, sample final]).verify (.single connector two))
        (((start final zeros).enrolled [sample final, sample one]).verify (.single connector zeros)) ∧
      (((start one two).enrolled [sample one, sample final]).matrix (known one two)).same
        (((start final zeros).enrolled [sample final, sample one]).matrix (known final zeros)) := by
  have rules : List.Forall₂ (fun a b => Rule.same a b) [sample one, sample final] [sample final, sample one] :=
    .cons (by decide) (.cons (by decide) .nil)
  obtain ⟨numbers, verified, -, sampled⟩ := spelling_neutral.2 _ _ _ _ (.single connector two) (.single connector zeros)
    (known one two) (known final zeros) start_alike rules (.cons ⟨rfl, by decide⟩ .nil)
    (.cons ⟨rfl, .cons (by decide) (.cons (by decide) .nil)⟩ .nil)
  exact ⟨by decide, by decide, numbers, verified, sampled⟩

end Verifier
end Linkage
