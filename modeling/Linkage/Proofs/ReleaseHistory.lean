import Linkage.Config.Basic
import Linkage.Proofs.Acceptance
import Linkage.Proofs.KeyOrder
import Linkage.Proofs.OrderedSearch
import Linkage.Proofs.VersionSpelling

/-! Releases that are added to a new library, one after the other. The list of them is in strict order at each step, so
a search may be trusted at the next one. What is in it afterwards are the versions that were added, equal ones once and
in the spelling that came first. In another order only spellings may come out differently. -/

namespace Linkage

namespace Artifact
open Acceptance Ascending

variable {search : List Version → Version → Answer} {artifact : Artifact} {key : ModuleKey} {version : Version}
  {versions others : List Version}

/-- Adds a release at the place that a search finds for it, unless an equal one is found. -/
def releaseBy? (search : List Version → Version → Answer) (artifact : Artifact) (version : Version) : Option Artifact :=
  (insertBy? search version artifact.releases).map fun releases => { artifact with releases }

/-- A new library after releases have been added to it. -/
def released (key : ModuleKey) (versions : List Version) : Artifact :=
  versions.foldl withRelease { key }

/-- The same with a search for the place of each release. -/
def releasedBy? (search : List Version → Version → Answer) (key : ModuleKey) (versions : List Version) :
    Option Artifact :=
  versions.foldlM (releaseBy? search) { key }

theorem withRelease_strict (strict : Strict Version.compare artifact.releases) (version : Version) :
    Strict Version.compare (artifact.withRelease version).releases :=
  insert_strict version strict

theorem releaseBy?_eq (searches : Searches Version.compare search) (strict : Strict Version.compare artifact.releases)
    (version : Version) : artifact.releaseBy? search version = some (artifact.withRelease version) := by
  rw [releaseBy?, insertBy?_eq searches strict]
  rfl

/-- The releases stay in strict order, so no answer of the search is outside of what is asked of it. -/
theorem foldlM_releaseBy? (searches : Searches Version.compare search)
    (strict : Strict Version.compare artifact.releases) (versions : List Version) :
    versions.foldlM (releaseBy? search) artifact = some (versions.foldl withRelease artifact) := by
  induction versions generalizing artifact with
  | nil => rfl
  | cons version rest ih =>
    rw [List.foldlM_cons, releaseBy?_eq searches strict version, List.foldl_cons]
    exact ih (withRelease_strict strict version)

theorem foldl_withRelease (artifact : Artifact) (versions : List Version) :
    versions.foldl withRelease artifact = { artifact with
      releases := versions.foldl (fun set version => Version.insert version set) artifact.releases } := by
  induction versions generalizing artifact with
  | nil => rfl
  | cons version rest ih =>
    rw [List.foldl_cons, ih, List.foldl_cons]
    rfl

theorem released_eq (key : ModuleKey) (versions : List Version) :
    released key versions = { key, releases := ofList Version.compare versions } :=
  foldl_withRelease { key } versions

theorem releases_released : (released key versions).releases = ofList Version.compare versions := by
  rw [released_eq]

theorem aligned_releases_iff :
    List.Forall₂ (fun a b => Version.same a b) (released key versions).releases (released key others).releases ↔
      ∀ version, Holds Version.compare versions version ↔ Holds Version.compare others version := by
  rw [releases_released, releases_released]
  constructor
  · intro aligned version
    have held := Version.holds_congr aligned (a := version)
    rwa [holds_ofList, holds_ofList] at held
  · intro same
    have aligned : List.Forall₂ (fun a b => Version.compare a b = .eq) (ofList Version.compare versions)
        (ofList Version.compare others) := by
      apply (ofList_strict versions).aligned (ofList_strict others)
      intro version
      rw [holds_ofList, holds_ofList, same]
    exact aligned.imp fun _ _ => Version.same_iff.mpr

/-- An entry of a configuration adds its releases to a new library. -/
theorem releases_toArtifact {entry : Config.CatalogEntry} (listed : entry.releases.mapM Version.parse = .ok versions)
    (built : entry.toArtifact = .ok artifact) : artifact.releases = (released key versions).releases := by
  rw [Config.CatalogEntry.toArtifact, listed] at built
  simp only [bind_eq_ok_iff] at built
  obtain ⟨library, -, releases, same, dependencies, -, symbols, -, built⟩ := built
  obtain rfl := Except.ok.inj same
  obtain rfl := Except.ok.inj built
  rw [releases_released]

/-- What a library is like after versions have been added to a new one. -/
structure Released (key : ModuleKey) (versions : List Version) (artifact : Artifact) : Prop where
  searched : ∀ search, Searches Version.compare search → releasedBy? search key versions = some artifact
  only_releases : artifact = { key, releases := artifact.releases }
  ascending : Strict Version.compare artifact.releases
  held : ∀ version, Holds Version.compare artifact.releases version ↔ Holds Version.compare versions version
  members : ∀ version, version ∈ artifact.releases ↔ First Version.compare versions version
  aligned_iff : ∀ others,
    List.Forall₂ (fun a b => Version.same a b) artifact.releases (released key others).releases ↔
      ∀ version, Holds Version.compare versions version ↔ Holds Version.compare others version
  turned : ∀ turned, versions.Perm turned →
    List.Forall₂ (fun a b => Version.same a b) artifact.releases (released key turned).releases
  configured : ∀ (entry : Config.CatalogEntry) (described : Artifact), entry.releases.mapM Version.parse = .ok versions →
    entry.toArtifact = .ok described → described.releases = artifact.releases

/-- Whatever versions are added to a new library: with any search that is right, no step fails, and nothing else of the
library changes. Its releases ascend strictly and hold what was added, and nothing else; of equal versions the one that
came first. They are equal, one by one, to those from other additions just if the same versions were added, and so from
the same additions in any order. The releases in a configuration are added like this. -/
theorem releases_history (key : ModuleKey) (versions : List Version) : Released key versions (released key versions) := by
  have known : (released key versions).releases = ofList Version.compare versions := releases_released
  constructor
  case searched =>
    intro search searches
    have start : Strict Version.compare ({ key } : Artifact).releases := .nil
    exact foldlM_releaseBy? searches start versions
  case aligned_iff => exact fun others => aligned_releases_iff
  case turned =>
    intro turned moved
    apply aligned_releases_iff.mpr
    intro version
    exact holds_perm moved
  case configured => exact fun _ _ => releases_toArtifact
  all_goals rw [known]
  case only_releases => exact released_eq key versions
  case ascending => exact ofList_strict versions
  case held => exact fun version => holds_ofList
  case members => exact fun version => mem_ofList_iff

section
private def pump : ModuleKey := ⟨"org.sample", "pump", isKeyPart_sample, by decide⟩

private def early : Version := ⟨"1.0.0", [1, 0, 0], none⟩
private def candidate : Version := ⟨"1.2-rc1", [1, 2], some "rc1"⟩
private def late : Version := ⟨"1.2.0", [1, 2, 0], none⟩
private def respelled : Version := ⟨"1.2.Final", [1, 2], some "Final"⟩

private def additions : List Version := [late, early, respelled, candidate]
private def turnedAdditions : List Version := [candidate, respelled, late, early]

private def pumpEntry : Config.CatalogEntry :=
  { artifact := "org.sample:pump", releases := ["1.2.0", "1.0.0", "1.2.Final", "1.2-rc1"] }

/-- Two spellings of one release; the first of them stays, and that is another one when they are added in another
order. -/
theorem releases_history_pump :
    Searches Version.compare (bisect Version.compare) ∧ additions.Perm turnedAdditions ∧
      pumpEntry.releases.mapM Version.parse = .ok additions ∧
      releasedBy? (bisect Version.compare) pump additions = some { key := pump, releases := [early, candidate, late] } ∧
      (released pump turnedAdditions).releases = [early, candidate, respelled] ∧
      List.Forall₂ (fun a b => Version.same a b) (released pump additions).releases
        (released pump turnedAdditions).releases ∧
      ∃ described, pumpEntry.toArtifact = .ok described ∧ described.releases = [early, candidate, late] := by
  have moved : additions.Perm turnedAdditions := by decide
  have listed : pumpEntry.releases.mapM Version.parse = .ok additions := by decide +kernel
  have built : pumpEntry.toArtifact = .ok { key := pump, releases := [early, candidate, late] } := by decide +kernel
  have searches : Searches Version.compare (bisect Version.compare) := searches_bisect
  have held : (released pump additions).releases = [early, candidate, late] := by decide
  have history := releases_history pump additions
  refine ⟨searches, moved, listed, ?_, by decide, history.turned turnedAdditions moved, _, built, ?_⟩
  · rw [history.searched _ searches, history.only_releases, held]
  · rw [history.configured pumpEntry _ listed built, held]

end

end Artifact
end Linkage
