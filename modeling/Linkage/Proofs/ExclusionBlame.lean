import Mathlib.Logic.Relation
import Linkage.Proofs.ClasspathMediation
import Linkage.Proofs.SymbolPresence

/-! Who is blamed for a symbol that exclusions keep away. An excluded library is remembered in the version of the first
candidate that asks for it, but it is not followed, so what it would have pulled in may never be asked for. Only the
libraries that lead to a key decide which candidate of it comes first. If none of these is excluded and nearer than the
key itself, then an excluded key is asked for in the version that it would have without exclusions. -/

namespace Linkage.Classpath
variable {catalog : Catalog} {resolved : List (ModuleKey × Version)} {extras : List Coordinate}
  {exclusions hidden : ModuleSet} {candidates : List Candidate} {candidate : Candidate} {followed : List ModuleKey}
  {state cut : Classpath × List ModuleKey} {classpath : Classpath} {symbol : Symbol} {key other provider : ModuleKey}

/-- The second search stands where the first one does, except that it does not let in hidden keys. -/
structure Shadows (hidden : ModuleSet) (state cut : Classpath × List ModuleKey) : Prop where
  entries : ∀ key, key ∉ hidden → cut.1.entries.find? key = state.1.entries.find? key
  queue : cut.2 = state.2.filter (· ∉ hidden)

section
variable (more : ∀ key ∈ exclusions, key ∈ hidden)
include more

theorem Shadows.enter (shadows : Shadows hidden state cut) :
    Shadows hidden (enter exclusions state candidate) (enter hidden cut candidate) := by
  constructor
  · intro key visible
    have allowed : key ∉ exclusions := fun barred => visible (more key barred)
    simp [find?_entries_enter, shadows.entries key visible, visible, allowed]
  · rw [queue_enter, queue_enter, shadows.queue]
    by_cases visible : candidate.key ∈ hidden
    · rw [if_neg fun entering => entering.1 visible]
      split <;> simp [visible]
    · have allowed : candidate.key ∉ exclusions := fun barred => visible (more _ barred)
      rw [shadows.entries candidate.key visible]
      split <;> simp_all

theorem Shadows.ask (shadows : Shadows hidden state cut) :
    Shadows hidden (ask exclusions candidates state) (ask hidden candidates cut) := by
  induction candidates generalizing state cut with
  | nil => exact shadows
  | cons candidate rest ih => exact ih (shadows.enter more)

end

/-- The second search need not hear of a candidate that it would not let in. -/
theorem Shadows.enter_hidden (shadows : Shadows hidden state cut) (unseen : candidate.key ∈ hidden) :
    Shadows hidden (Classpath.enter exclusions state candidate) cut := by
  constructor
  · intro key visible
    have different : candidate.key ≠ key := fun same => visible (same ▸ unseen)
    simp [find?_entries_enter, shadows.entries key visible, different]
  · rw [queue_enter, shadows.queue]
    split <;> simp [unseen]

theorem Shadows.ask_hidden (shadows : Shadows hidden state cut) (unseen : ∀ candidate ∈ candidates, candidate.key ∈ hidden) :
    Shadows hidden (Classpath.ask exclusions candidates state) cut := by
  induction candidates generalizing state with
  | nil => exact shadows
  | cons candidate rest ih =>
    obtain ⟨first, later⟩ := List.forall_mem_cons.mp unseen
    exact ih (shadows.enter_hidden first) later

/-- What the hidden ones among the followed keys pull in is hidden as well, and is not the key itself. -/
def Aside (catalog : Catalog) (hidden : ModuleSet) (key : ModuleKey) (followed : List ModuleKey) : Prop :=
  ∀ via ∈ followed, via ∈ hidden → ∀ other, catalog.DependsOn via other → other ∈ hidden ∧ other ≠ key

/-- A search that leaves out the hidden keys takes the other turns in the same order. -/
theorem Reached.shadow (reached : Reached catalog exclusions candidates followed state)
    (more : ∀ key ∈ exclusions, key ∈ hidden) (aside : Aside catalog hidden key followed) :
    ∃ cut, Reached catalog hidden candidates (followed.filter (· ∉ hidden)) cut ∧ Shadows hidden state cut := by
  induction reached with
  | start => exact ⟨_, .start, Shadows.ask more ⟨by simp, rfl⟩⟩
  | @turn followed classpath via queue before ih =>
    obtain ⟨earlier, last⟩ := List.forall_mem_append.mp aside
    obtain ⟨⟨cut, waiting⟩, run, shadows⟩ := ih earlier
    have front : waiting = (via :: queue).filter (· ∉ hidden) := shadows.queue
    subst front
    rw [List.filter_append]
    by_cases unseen : via ∈ hidden
    · rw [List.filter_cons_of_neg (by simpa using unseen)] at run shadows
      rw [List.filter_cons_of_neg (by simpa using unseen), List.filter_nil, List.append_nil]
      have rest : Shadows hidden (classpath, queue) (cut, queue.filter (· ∉ hidden)) := ⟨shadows.entries, rfl⟩
      refine ⟨_, run, rest.ask_hidden ?_⟩
      intro candidate member
      exact (last via (List.mem_singleton_self via) unseen candidate.key (mem_pulled_iff.mp ⟨candidate, member, rfl⟩)).1
    · rw [List.filter_cons_of_pos (by simpa using unseen)] at run shadows
      rw [List.filter_cons_of_pos (by simpa using unseen), List.filter_nil]
      exact ⟨_, run.turn, Shadows.ask more ⟨shadows.entries, rfl⟩⟩

theorem find?_pulled_filter (aside : Aside catalog hidden key followed) :
    ((followed.filter (· ∉ hidden)).flatMap (pulled catalog)).find? (·.key = key) =
      (followed.flatMap (pulled catalog)).find? (·.key = key) := by
  induction followed with
  | nil => rfl
  | cons via rest ih =>
    obtain ⟨first, later⟩ := List.forall_mem_cons.mp aside
    rw [List.flatMap_cons, List.find?_append, ← ih later]
    by_cases unseen : via ∈ hidden
    · have none : (pulled catalog via).find? (·.key = key) = none := by
        apply List.find?_eq_none.mpr
        intro candidate member
        simpa using (first unseen candidate.key (mem_pulled_iff.mp ⟨candidate, member, rfl⟩)).2
      rw [List.filter_cons_of_neg (by simpa using unseen), none, Option.none_or]
    · rw [List.filter_cons_of_pos (by simpa using unseen), List.flatMap_cons, List.find?_append]

theorem find?_candidates_filter (aside : Aside catalog hidden key followed) :
    (candidates ++ (followed.filter (· ∉ hidden)).flatMap (pulled catalog)).find? (·.key = key) =
      (candidates ++ followed.flatMap (pulled catalog)).find? (·.key = key) := by
  rw [List.find?_append, List.find?_append, find?_pulled_filter aside]

/-- Once a key has been asked for, leaving out more keys does not change in which version it is remembered. -/
theorem Reached.find?_excluded_hidden (reached : Reached catalog exclusions (direct resolved extras) followed state)
    (more : ∀ key ∈ exclusions, key ∈ hidden) (aside : Aside catalog hidden key followed) (unseen : key ∈ hidden)
    (asked : (direct resolved extras ++ followed.flatMap (pulled catalog)).find? (·.key = key) = some candidate) :
    (build catalog resolved extras hidden).excluded.find? key = some candidate.version := by
  obtain ⟨cut, run, -⟩ := reached.shadow more aside
  obtain ⟨rest, ended⟩ := run.to_build
  rw [ended.find?_excluded, if_pos unseen, List.flatMap_append, ← List.append_assoc, List.find?_append,
    find?_candidates_filter aside, asked]
  rfl

/-- In the end an excluded key is remembered alike, whether or not more keys are left out. -/
theorem Reached.find?_excluded_end (ended : Reached catalog exclusions (direct resolved extras) followed (classpath, []))
    (more : ∀ key ∈ exclusions, key ∈ hidden) (aside : Aside catalog hidden key followed) (excluded : key ∈ exclusions) :
    (build catalog resolved extras hidden).excluded.find? key = classpath.excluded.find? key := by
  obtain ⟨⟨cut, waiting⟩, run, shadows⟩ := ended.shadow more aside
  obtain rfl : waiting = [] := shadows.queue
  obtain ⟨others, built⟩ := build_reached catalog resolved extras hidden
  rw [← run.end_unique built, run.find?_excluded, ended.find?_excluded, if_pos (more key excluded), if_pos excluded,
    find?_candidates_filter aside]

/-- The key depends on the other one, directly or through further libraries. -/
def Leads (catalog : Catalog) (key other : ModuleKey) : Prop :=
  Relation.TransGen catalog.DependsOn key other

open Classical in
/-- The exclusions, and whatever some library depends on that does not lead to the key. -/
noncomputable def unrelated (catalog : Catalog) (exclusions : ModuleSet) (key : ModuleKey) : ModuleSet :=
  exclusions ++ (catalog.artifacts.flatMap fun listed => listed.2.dependencies.map (·.key)).filter (¬ Leads catalog · key)

theorem mem_unrelated_of_excluded (excluded : other ∈ exclusions) : other ∈ unrelated catalog exclusions key :=
  List.mem_append_left _ excluded

theorem mem_unrelated_of_dependsOn {via : ModuleKey} (depends : catalog.DependsOn via other)
    (apart : ¬ Leads catalog other key) : other ∈ unrelated catalog exclusions key := by
  obtain ⟨artifact, found, dependency, member, rfl⟩ := depends
  obtain ⟨listed, first, rfl⟩ := Option.map_eq_some_iff.mp found
  apply List.mem_append_right
  refine List.mem_filter.mpr ⟨?_, by simpa using apart⟩
  exact List.mem_flatMap.mpr ⟨listed, List.mem_of_find?_eq_some first, List.mem_map_of_mem member⟩

/-- The unrelated keys can be left out as long as no excluded key that leads to the key is followed. -/
theorem aside_unrelated (apart : ∀ via ∈ followed, via ∈ exclusions → ¬ Leads catalog via key) :
    Aside catalog (unrelated catalog exclusions key) key followed := by
  intro via member unseen other depends
  have stray : ¬ Leads catalog via key := by
    rcases List.mem_append.mp unseen with barred | listed
    · exact apart via member barred
    · simpa using (List.mem_filter.mp listed).2
  refine ⟨mem_unrelated_of_dependsOn depends fun leads => stray (.head depends leads), ?_⟩
  intro same
  subst same
  exact stray (.single depends)

/-- While nothing is excluded, no key of the set that leads to the given key is nearer than this. -/
def Exposed (catalog : Catalog) (resolved : List (ModuleKey × Version)) (extras : List Coordinate)
    (exclusions : ModuleSet) (key : ModuleKey) : Prop :=
  ∀ other ∈ exclusions, Leads catalog other key → ∀ length, Path catalog resolved extras [] length other →
    ∃ least ≤ length, Path catalog resolved extras [] least key

/-- When nothing is excluded, an exposed key is asked for before an excluded key that leads to it is followed. -/
theorem Exposed.asked_early (exposed : Exposed catalog resolved extras exclusions key)
    (ended : Reached catalog [] (direct resolved extras) followed (classpath, [])) (member : key ∈ followed) :
    ∃ initial state, Reached catalog [] (direct resolved extras) initial state ∧ initial <+: followed ∧
      key ∈ initial ++ state.2 ∧ ∀ via ∈ initial, via ∈ exclusions → ¬ Leads catalog via key := by
  classical
  -- The key itself may come first.
  obtain ⟨first, chosen⟩ : ∃ first, followed.find? (fun via => via = key ∨ via ∈ exclusions ∧ Leads catalog via key) =
      some first :=
    Option.isSome_iff_exists.mp (List.find?_isSome.mpr ⟨key, member, by simp⟩)
  obtain ⟨stop, initial, later, rfl, passed⟩ := List.find?_eq_some_iff_append.mp chosen
  obtain ⟨reached, queue, before⟩ := ended.exists_turn
  refine ⟨initial, _, before, List.prefix_append initial _, ?_, ?_⟩
  · rcases of_decide_eq_true stop with rfl | ⟨barred, leads⟩
    · simp
    · obtain ⟨length, path⟩ := before.exists_path (List.mem_append_right initial List.mem_cons_self)
      obtain ⟨least, within, nearer⟩ := exposed first barred leads _ (path_depth path)
      exact before.layered.complete first rfl least key nearer within
  · intro via inside barred leads
    have refused := passed via inside
    simp [barred, leads] at refused

theorem Exposed.find?_excluded (exposed : Exposed catalog resolved extras exclusions key) (excluded : key ∈ exclusions)
    {entry : Entry} (held : (build catalog resolved extras []).find? key = some entry) :
    (build catalog resolved extras exclusions).excluded.find? key = some entry.version := by
  obtain ⟨followed, full⟩ := build_reached catalog resolved extras []
  obtain ⟨others, ended⟩ := build_reached catalog resolved extras exclusions
  have member : key ∈ followed ++ [] := (full.mem_iff key).mpr (Option.isSome_of_eq_some held)
  rw [List.append_nil] at member
  obtain ⟨initial, state, early, ⟨later, rfl⟩, known, apart⟩ := exposed.asked_early full member
  obtain ⟨asked, found⟩ : ∃ asked, (direct resolved extras ++ initial.flatMap (pulled catalog)).find? (·.key = key) =
      some asked := by
    have present := (early.mem_iff key).mp known
    rw [early.find?_entries, if_neg List.not_mem_nil, Option.isSome_map] at present
    exact Option.isSome_iff_exists.mp present
  have same : asked.entry = entry := by
    have whole := full.find?_entries key
    rw [if_neg List.not_mem_nil, List.flatMap_append, ← List.append_assoc, List.find?_append, found] at whole
    exact Option.some.inj (whole.symm.trans held)
  have more : ∀ other ∈ exclusions, other ∈ unrelated catalog exclusions key := fun _ => mem_unrelated_of_excluded
  -- Both searches agree with the one that leaves out the unrelated keys.
  have first := early.find?_excluded_hidden nofun (aside_unrelated apart) (more key excluded) found
  have second := ended.find?_excluded_end more (aside_unrelated fun via inside barred =>
    absurd (List.mem_append_left [] inside) (ended.not_mem_of_excluded barred)) excluded
  rw [← second, first, ← same]
  rfl

theorem mem_of_mem_excluded {version : Version}
    (remembered : (key, version) ∈ (build catalog resolved extras exclusions).excluded) : key ∈ exclusions := by
  obtain ⟨followed, reached⟩ := build_reached catalog resolved extras exclusions
  have held := (ModuleMap.find?_eq_some_iff reached.ordered.excluded).mpr remembered
  rw [reached.find?_excluded] at held
  split at held
  · assumption
  · cases held

theorem lookup_of_resolves (found : classpath.resolves catalog symbol = .found provider) :
    classpath.lookup catalog symbol = .found provider := by
  unfold resolves at found
  split at found
  · exact found
  · split at found
    next => exact found
    next other => exact absurd found (other provider)

/-- What a symbol is found in is on the classpath, and has the symbol in the version that is there. -/
theorem exists_entry_of_resolves (ordered : classpath.Ordered)
    (found : classpath.resolves catalog symbol = .found provider) :
    ∃ entry, classpath.find? provider = some entry ∧ catalog.Offers provider entry.version symbol := by
  have looked := lookup_of_resolves found
  rw [lookup_eq] at looked
  cases first : provider? catalog classpath.versions symbol with
  | none =>
    rw [first] at looked
    cases blamed : provider? catalog classpath.excluded symbol <;> simp [blamed] at looked
  | some other =>
    rw [first, Option.elim_some, Lookup.found.injEq] at looked
    subst looked
    obtain ⟨listed, chosen, rfl⟩ := Option.map_eq_some_iff.mp first
    have offers := List.find?_some chosen
    obtain ⟨⟨key, entry⟩, member, rfl⟩ := List.mem_map.mp (List.mem_of_find?_eq_some chosen)
    exact ⟨entry, (ModuleMap.find?_eq_some_iff ordered.entries).mpr member, Catalog.provides_iff.mp offers⟩

theorem resolves_eq_iff_least (ordered : classpath.Ordered) (broken : ¬ classpath.Links catalog symbol)
    (blamed : Option ModuleKey) : classpath.resolves catalog symbol = blamed.elim .missing .excluded ↔
      Least catalog classpath.excluded (classpath.obstacle catalog symbol) blamed := by
  have least : Least catalog classpath.excluded (classpath.obstacle catalog symbol) _ := least_provider? ordered.excluded
  rw [resolves_of_not_links broken]
  constructor
  · intro same
    have agree : provider? catalog classpath.excluded (classpath.obstacle catalog symbol) = blamed := by
      generalize provider? catalog classpath.excluded (classpath.obstacle catalog symbol) = found at same
      cases found <;> cases blamed <;> simp_all
    rwa [agree] at least
  · intro other
    rw [least_unique least other]

/-- Blame for exclusions. The least remembered library that has what is in the way is blamed, and nobody if there is none.
The library that would provide the symbol is remembered in its own version if no nearer excluded library leads to it. The
symbol is not just missing then, except that its class may come from elsewhere and be gone too. -/
theorem exclusion_blamed (catalog : Catalog) (resolved : List (ModuleKey × Version)) (extras : List Coordinate)
    (exclusions : ModuleSet) (symbol : Symbol) (provider : ModuleKey) (excluded : provider ∈ exclusions) :
    let full := build catalog resolved extras []
    let cut := build catalog resolved extras exclusions
    full.resolves catalog symbol = .found provider → (∀ key, cut.resolves catalog symbol ≠ .found key) →
    (∀ blamed : Option ModuleKey, cut.resolves catalog symbol = blamed.elim .missing .excluded ↔
      Least catalog cut.excluded (cut.obstacle catalog symbol) blamed) ∧
    (Exposed catalog resolved extras exclusions provider → ∃ entry, full.find? provider = some entry ∧
      cut.excluded.find? provider = some entry.version ∧ catalog.Offers provider entry.version symbol ∧
      (cut.Present catalog symbol.ownerClass ∨ catalog.Offers provider entry.version symbol.ownerClass →
        ∃ key ∈ exclusions, cut.resolves catalog symbol = .excluded key)) := by
  intro full cut found broken
  have ordered : cut.Ordered := build_ordered catalog resolved extras exclusions
  have unlinked : ¬ cut.Links catalog symbol := by
    intro links
    obtain ⟨key, linked⟩ := resolves_of_links links
    exact broken key linked
  have blame := resolves_eq_iff_least ordered unlinked
  refine ⟨blame, ?_⟩
  intro exposed
  obtain ⟨entry, held, offers⟩ := exists_entry_of_resolves (build_ordered catalog resolved extras []) found
  have remembered : cut.excluded.find? provider = some entry.version := exposed.find?_excluded excluded held
  refine ⟨entry, held, remembered, offers, ?_⟩
  intro present
  have obstructs : catalog.Offers provider entry.version (cut.obstacle catalog symbol) := by
    unfold obstacle
    split
    next => exact offers
    next absent => exact present.resolve_left absent
  cases resolution : cut.resolves catalog symbol with
  | found key => exact absurd resolution (broken key)
  | missing =>
    have none : Least catalog cut.excluded (cut.obstacle catalog symbol) none := (blame none).mp resolution
    have listed := (ModuleMap.find?_eq_some_iff ordered.excluded).mp remembered
    exact absurd obstructs (none _ listed)
  | excluded key =>
    obtain ⟨⟨version, listed, -⟩, -⟩ : Least catalog cut.excluded (cut.obstacle catalog symbol) (some key) :=
      (blame (some key)).mp resolution
    exact ⟨key, mem_of_mem_excluded listed, rfl⟩

section
private def app : ModuleKey := ⟨"org.sample", "app", isKeyPart_sample, by decide⟩

private def hook : ModuleKey := ⟨"org.sample", "hook", isKeyPart_sample, by decide⟩

private def bundle : ModuleKey := ⟨"org.sample", "bundle", isKeyPart_sample, by decide⟩

private def tool : ModuleKey := ⟨"org.sample", "tool", isKeyPart_sample, by decide⟩

private def release : Version := ⟨"1.0", [1, 0], none⟩

private def hookClass : Symbol := .ofClass "org.sample.Hook"

private def hookMethod : Symbol := .method "org.sample.Hook" "run" ""

/-- The hook is behind the bundle. The tool leads nowhere, but has a method of the hook's class. -/
private def libraries : Catalog :=
  ⟨[(app, { key := app, dependencies := [⟨bundle, release⟩, ⟨tool, release⟩] }),
    (bundle, { key := bundle, dependencies := [⟨hook, release⟩] }),
    (hook, { key := hook, symbols := [.always hookClass] }),
    (tool, { key := tool, symbols := [.always hookMethod] })]⟩

private theorem not_leads_tool : ¬ Leads libraries tool hook := by
  intro leads
  obtain ⟨other, ⟨artifact, found, dependency, member, -⟩, -⟩ := Relation.TransGen.head'_iff.mp leads
  obtain rfl := Option.some.inj found
  cases member

theorem exclusion_blamed_hook :
    hook ∈ [hook, tool] ∧ (build libraries [(app, release)] [] []).resolves libraries hookClass = .found hook ∧
    (∀ key, (build libraries [(app, release)] [] [hook, tool]).resolves libraries hookClass ≠ .found key) ∧
    Exposed libraries [(app, release)] [] [hook, tool] hook ∧
    ∃ key ∈ [hook, tool], (build libraries [(app, release)] [] [hook, tool]).resolves libraries hookClass = .excluded key := by
  have excluded : hook ∈ [hook, tool] := List.mem_cons_self
  have found : (build libraries [(app, release)] [] []).resolves libraries hookClass = .found hook := by decide
  have resolution : (build libraries [(app, release)] [] [hook, tool]).resolves libraries hookClass = .excluded hook := by
    decide
  have broken (key : ModuleKey) :
      (build libraries [(app, release)] [] [hook, tool]).resolves libraries hookClass ≠ .found key := by
    rw [resolution]
    exact nofun
  have exposed : Exposed libraries [(app, release)] [] [hook, tool] hook := by
    intro other member leads length path
    rcases List.mem_pair.mp member with rfl | rfl
    · exact ⟨length, Nat.le_refl _, path⟩
    · exact absurd leads not_leads_tool
  obtain ⟨-, blamed⟩ := exclusion_blamed libraries [(app, release)] [] [hook, tool] hookClass hook excluded found broken
  obtain ⟨entry, held, -, -, named⟩ := blamed exposed
  have own : entry.version = release := by
    have listed : (build libraries [(app, release)] [] []).find? hook = some ⟨release, .transitive bundle⟩ := by decide
    rw [listed] at held
    obtain rfl := Option.some.inj held
    rfl
  refine ⟨excluded, found, broken, exposed, named (.inr ?_)⟩
  rw [own]
  decide

/-- Behind the bundle the hook is not remembered. Without exclusions it would provide its class. -/
theorem nested_exclusion_unblamed :
    (build libraries [(app, release)] [] []).resolves libraries hookClass = .found hook ∧ hook ∈ [hook, bundle] ∧
    (build libraries [(app, release)] [] [hook, bundle]).resolves libraries hookClass = .missing := by
  decide

/-- The tool is remembered, but the class of its method is gone with the bundle. -/
example : (build libraries [(app, release)] [] []).resolves libraries hookMethod = .found tool ∧
    (build libraries [(app, release)] [] [bundle, tool]).isExcluded tool ∧
    (build libraries [(app, release)] [] [bundle, tool]).resolves libraries hookMethod = .missing := by
  decide

end

end Linkage.Classpath
