import Mathlib.Order.Lattice.Nat
import Linkage.Proofs.ClasspathClosure

/-! Which of several declarations of a library a classpath holds: a resolved version before an extra dependency, that
before any other, and among the others one of the nearest. The search follows keys in the order of their distance, so
the first candidate of a key comes from a library that is as near as any that depends on it. -/

namespace Linkage.Classpath

/-- The paths of a length in the dependency graph, from a direct key to a key and through no excluded key. -/
inductive Path (catalog : Catalog) (resolved : List (ModuleKey × Version)) (extras : List Coordinate)
    (exclusions : ModuleSet) : Nat → ModuleKey → Prop where
  | direct {key : ModuleKey} (asked : IsDirect resolved extras key) (allowed : key ∉ exclusions) :
      Path catalog resolved extras exclusions 0 key
  | step {length : Nat} {via key : ModuleKey} (path : Path catalog resolved extras exclusions length via)
      (depends : catalog.DependsOn via key) (allowed : key ∉ exclusions) :
      Path catalog resolved extras exclusions (length + 1) key

/-- The length of a shortest path to a key. -/
noncomputable def depth (catalog : Catalog) (resolved : List (ModuleKey × Version)) (extras : List Coordinate)
    (exclusions : ModuleSet) (key : ModuleKey) : Nat :=
  sInf {length | Path catalog resolved extras exclusions length key}

variable {catalog : Catalog} {resolved : List (ModuleKey × Version)} {extras : List Coordinate}
  {exclusions : ModuleSet} {state : Classpath × List ModuleKey} {followed : List ModuleKey} {key via : ModuleKey}
  {length : Nat}

theorem depth_le (path : Path catalog resolved extras exclusions length key) :
    depth catalog resolved extras exclusions key ≤ length :=
  Nat.sInf_le path

theorem path_depth (path : Path catalog resolved extras exclusions length key) :
    Path catalog resolved extras exclusions (depth catalog resolved extras exclusions key) key := by
  have nonempty : {length | Path catalog resolved extras exclusions length key}.Nonempty := ⟨length, path⟩
  exact Nat.sInf_mem nonempty

theorem depth_isLeast (path : Path catalog resolved extras exclusions length key) :
    IsLeast {length | Path catalog resolved extras exclusions length key}
      (depth catalog resolved extras exclusions key) :=
  ⟨path_depth path, fun _ other => depth_le other⟩

theorem depth_step (path : Path catalog resolved extras exclusions length via) (depends : catalog.DependsOn via key)
    (allowed : key ∉ exclusions) :
    depth catalog resolved extras exclusions key ≤ depth catalog resolved extras exclusions via + 1 :=
  depth_le (.step (path_depth path) depends allowed)

/-- The keys let in so far stand in the order of their depth and span at most one level beyond the next key to follow;
the levels up to that key's are complete. -/
structure Layered (catalog : Catalog) (resolved : List (ModuleKey × Version)) (extras : List Coordinate)
    (exclusions : ModuleSet) (followed queue : List ModuleKey) : Prop where
  ordered : (followed ++ queue).Pairwise fun a b =>
    depth catalog resolved extras exclusions a ≤ depth catalog resolved extras exclusions b
  near : ∀ next ∈ queue.head?, ∀ key ∈ followed ++ queue,
    depth catalog resolved extras exclusions key ≤ depth catalog resolved extras exclusions next + 1
  complete : ∀ next ∈ queue.head?, ∀ length key, Path catalog resolved extras exclusions length key →
    length ≤ depth catalog resolved extras exclusions next → key ∈ followed ++ queue

namespace Reached

/-- Whatever a run lets in lies at the end of a path. -/
theorem exists_path (reached : Reached catalog exclusions (direct resolved extras) followed state)
    (member : key ∈ followed ++ state.2) : ∃ length, Path catalog resolved extras exclusions length key := by
  have closed : Closed catalog resolved extras exclusions
      {key | ∃ length, Path catalog resolved extras exclusions length key} := by
    refine ⟨?_, ?_⟩
    · intro key asked allowed
      exact ⟨0, .direct asked allowed⟩
    · intro via ⟨length, path⟩ key depends allowed
      exact ⟨length + 1, .step path depends allowed⟩
  exact reached.subset_closed closed key member

theorem mem_of_depends (reached : Reached catalog exclusions (direct resolved extras) followed state)
    (member : via ∈ followed) (depends : catalog.DependsOn via key) (allowed : key ∉ exclusions) :
    key ∈ followed ++ state.2 :=
  (reached.mem_iff_asked key).mpr ⟨allowed, .inr ⟨via, member, depends⟩⟩

variable {classpath : Classpath} {queue : List ModuleKey}

/-- What a turn adds to the queue lies exactly one level below the key that is followed. -/
private theorem depth_fresh
    (before : Reached catalog exclusions (direct resolved extras) followed (classpath, via :: queue))
    (layered : Layered catalog resolved extras exclusions followed (via :: queue))
    (allowed : key ∉ exclusions) (free : classpath.entries.find? key = none) (depends : catalog.DependsOn via key) :
    depth catalog resolved extras exclusions key = depth catalog resolved extras exclusions via + 1 := by
  obtain ⟨length, path⟩ := before.exists_path (List.mem_append_right followed List.mem_cons_self)
  apply Nat.le_antisymm (depth_step path depends allowed)
  apply Nat.lt_of_not_le
  intro shallow
  have known := layered.complete via rfl _ key (path_depth (.step path depends allowed)) shallow
  have held := (before.mem_iff key).mp known
  simp [free] at held

private theorem layered_start :
    Layered catalog resolved extras exclusions [] (ask exclusions (direct resolved extras) ({}, [])).2 := by
  have first : Reached catalog exclusions (direct resolved extras) [] _ := .start
  have shallow : ∀ key ∈ (ask exclusions (direct resolved extras) ({}, [])).2,
      depth catalog resolved extras exclusions key = 0 := by
    intro key member
    obtain ⟨allowed, asked⟩ := (first.mem_iff_asked key).mp member
    simp only [List.not_mem_nil, false_and, exists_false, or_false] at asked
    exact Nat.le_zero.mp (depth_le (.direct asked allowed))
  refine ⟨?_, ?_, ?_⟩
  · exact List.pairwise_of_forall_mem_list fun a member b _ => by simp [shallow a member]
  · intro next _ key member
    simp [shallow key member]
  · intro next front length key path within
    rw [shallow next (List.mem_of_mem_head? front), Nat.le_zero] at within
    cases path with
    | direct asked allowed => exact (first.mem_iff_asked key).mpr ⟨allowed, .inl asked⟩
    | step path depends allowed => cases within

/-- The next key to follow is at the front of the queue, which ascends, or is new when the queue was empty. So it lies on
the level of the key that is followed or one below, and nothing that waits lies above it. -/
private theorem depth_front {fresh : List ModuleKey} {next : ModuleKey}
    (layered : Layered catalog resolved extras exclusions followed (via :: queue))
    (below : ∀ key ∈ fresh,
      depth catalog resolved extras exclusions key = depth catalog resolved extras exclusions via + 1)
    (first : next ∈ (queue ++ fresh).head?) :
    depth catalog resolved extras exclusions via ≤ depth catalog resolved extras exclusions next ∧
    depth catalog resolved extras exclusions next ≤ depth catalog resolved extras exclusions via + 1 ∧
    ∀ key ∈ queue, depth catalog resolved extras exclusions next ≤ depth catalog resolved extras exclusions key := by
  have ascends := (List.pairwise_append.mp layered.ordered).2.1
  cases queue with
  | nil =>
    have level := below next (List.mem_of_mem_head? first)
    exact ⟨by omega, by omega, by simp⟩
  | cons head rest =>
    obtain rfl : head = next := by simpa using first
    obtain ⟨later, tail⟩ := List.pairwise_cons.mp ascends
    refine ⟨later head List.mem_cons_self, layered.near via rfl head (by simp), ?_⟩
    intro key member
    rcases List.mem_cons.mp member with rfl | member
    · exact Nat.le_refl _
    · exact (List.pairwise_cons.mp tail).1 key member

private theorem layered_turn
    (before : Reached catalog exclusions (direct resolved extras) followed (classpath, via :: queue))
    (layered : Layered catalog resolved extras exclusions followed (via :: queue)) :
    Layered catalog resolved extras exclusions (followed ++ [via])
      (ask exclusions (pulled catalog via) (classpath, queue)).2 := by
  let depth := depth catalog resolved extras exclusions
  obtain ⟨fresh, joined, new⟩ := @queue_ask exclusions (pulled catalog via) (classpath, queue)
  simp only at joined new
  have below : ∀ key ∈ fresh, depth key = depth via + 1 := by
    intro key member
    obtain ⟨allowed, free, asked⟩ := new key member
    exact before.depth_fresh layered allowed free (mem_pulled_iff.mp asked)
  have near : ∀ key ∈ followed ++ via :: queue, depth key ≤ depth via + 1 := layered.near via rfl
  have whole : followed ++ [via] ++ (queue ++ fresh) = (followed ++ via :: queue) ++ fresh := by simp
  have expanded : ∀ source ∈ followed ++ [via], ∀ key, catalog.DependsOn source key → key ∉ exclusions →
      key ∈ (followed ++ via :: queue) ++ fresh := by
    intro source member key depends allowed
    have inside := before.turn.mem_of_depends member depends allowed
    rwa [joined, whole] at inside
  rw [joined]
  refine ⟨?_, ?_, ?_⟩
  · rw [whole, List.pairwise_append]
    refine ⟨layered.ordered, List.pairwise_of_forall_mem_list fun a first b second => ?_, fun a first b second => ?_⟩
    · exact Nat.le_of_eq ((below a first).trans (below b second).symm)
    · exact Nat.le_trans (near a first) (Nat.le_of_eq (below b second).symm)
  · intro next first key member
    have lower : depth via ≤ depth next := (depth_front layered below first).1
    rw [whole] at member
    rcases List.mem_append.mp member with old | new
    · exact Nat.le_trans (near key old) (Nat.succ_le_succ lower)
    · exact Nat.le_trans (Nat.le_of_eq (below key new)) (Nat.succ_le_succ lower)
  · intro next first length key path within
    change length ≤ depth next at within
    obtain ⟨-, upper, least⟩ := depth_front layered below first
    change depth next ≤ depth via + 1 at upper
    rw [whole]
    by_cases shallow : length ≤ depth via
    · exact List.mem_append_left _ (layered.complete via rfl length key path shallow)
    · cases path with
      | direct => exact absurd (Nat.zero_le _) shallow
      | @step length source key path depends allowed =>
        have nearer : length ≤ depth via := by omega
        have known := layered.complete via rfl length source path nearer
        rcases List.mem_append.mp known with done | pending
        · exact expanded source (List.mem_append_left _ done) key depends allowed
        · rcases List.mem_cons.mp pending with rfl | waiting
          · exact expanded source (by simp) key depends allowed
          · have close : depth next ≤ depth source := least source waiting
            have far : depth source ≤ length := depth_le path
            omega

theorem layered (reached : Reached catalog exclusions (direct resolved extras) followed state) :
    Layered catalog resolved extras exclusions followed state.2 := by
  induction reached with
  | start => exact layered_start
  | turn before ih => exact before.layered_turn ih

end Reached

/-- Among the direct candidates a resolved version comes first, and then the first extra dependency. -/
theorem find?_direct : ((direct resolved extras).find? (·.key = key)).map Candidate.entry =
    ((ModuleMap.find? resolved key).map fun version => ⟨version, .resolved⟩).or
      ((extras.find? (·.key = key)).map fun extra => ⟨extra.version, .extra⟩) := by
  simp [direct, List.find?_append, List.find?_map, Option.map_or, ModuleMap.find?, Function.comp_def, Candidate.entry]

theorem find?_pulled : ((pulled catalog via).find? (·.key = key)).map Candidate.entry =
    ((catalog.dependencies via).find? (·.key = key)).map fun dependency => ⟨dependency.version, .transitive via⟩ := by
  simp [pulled, List.find?_map, Function.comp_def, Candidate.entry]

/-- A candidate that is pulled in comes from the first followed library that depends on its key. -/
theorem find?_followed {entry : Entry}
    (found : ((followed.flatMap (pulled catalog)).find? (·.key = key)).map Candidate.entry = some entry) :
    ∃ earlier via later artifact dependency, followed = earlier ++ via :: later ∧
      (∀ other ∈ earlier, ¬ catalog.DependsOn other key) ∧ catalog.find? via = some artifact ∧
      artifact.dependencies.find? (·.key = key) = some dependency ∧ entry = ⟨dependency.version, .transitive via⟩ := by
  obtain ⟨candidate, first, rfl⟩ := Option.map_eq_some_iff.mp found
  rw [List.find?_flatMap, List.findSome?_eq_some_iff] at first
  obtain ⟨earlier, via, later, split, taken, passed⟩ := first
  have pulledEntry := congrArg (Option.map Candidate.entry) taken
  rw [find?_pulled] at pulledEntry
  obtain ⟨dependency, chosen, same⟩ := Option.map_eq_some_iff.mp pulledEntry
  cases known : catalog.find? via with
  | none => simp [Catalog.dependencies, known] at chosen
  | some artifact =>
    simp only [Catalog.dependencies, known, Option.elim_some] at chosen
    refine ⟨earlier, via, later, artifact, dependency, split, ?_, known, chosen, same.symm⟩
    intro other before depends
    obtain ⟨asked, member, key⟩ := mem_pulled_iff.mpr depends
    have refused := List.find?_eq_none.mp (passed other before) asked member
    simp [key] at refused

/-- At the end of the search every key at the end of a path has been followed. -/
theorem Reached.mem_of_path {classpath : Classpath}
    (reached : Reached catalog exclusions (direct resolved extras) followed (classpath, []))
    (path : Path catalog resolved extras exclusions length key) : key ∈ followed := by
  induction path with
  | direct asked allowed => simpa using (reached.mem_iff_asked _).mpr ⟨allowed, .inl asked⟩
  | step path depends allowed ih => simpa using reached.mem_of_depends ih depends allowed

private theorem not_isDirect (pinned : ModuleMap.find? resolved key = none)
    (added : extras.find? (·.key = key) = none) : ¬ IsDirect resolved extras key := by
  rintro (⟨version, member⟩ | ⟨extra, member, same⟩)
  · have absent := List.find?_eq_none.mp (Option.map_eq_none_iff.mp pinned) (key, version) member
    simp at absent
  · have absent := List.find?_eq_none.mp added extra member
    simp [same] at absent

/-- Keys that are followed later are no nearer. -/
private theorem nearest_of_split {classpath : Classpath} {earlier later : List ModuleKey} {source : ModuleKey}
    (reached : Reached catalog exclusions (direct resolved extras) followed (classpath, []))
    (split : followed = earlier ++ via :: later) (member : source ∈ followed) (late : source ∉ earlier) :
    depth catalog resolved extras exclusions via ≤ depth catalog resolved extras exclusions source := by
  have ordered := reached.layered.ordered
  rw [List.append_nil, split, List.pairwise_append, List.pairwise_cons] at ordered
  rw [split, List.mem_append] at member
  rcases List.mem_cons.mp (member.resolve_left late) with rfl | behind
  · exact Nat.le_refl _
  · exact ordered.2.1.1 source behind

/-- The nearest declaration of a library wins: the resolved version, else the first extra dependency, else what the
catalog declares first in a library on the classpath that is one step nearer than the key, on shortest paths. -/
theorem build_nearest (catalog : Catalog) (resolved : List (ModuleKey × Version)) (extras : List Coordinate)
    (exclusions : ModuleSet) (key : ModuleKey) (entry : Entry)
    (found : (build catalog resolved extras exclusions).find? key = some entry) :
    match ModuleMap.find? resolved key, extras.find? (·.key = key) with
    | some version, _ => entry = ⟨version, .resolved⟩
    | none, some extra => entry = ⟨extra.version, .extra⟩
    | none, none => ∃ via artifact dependency level,
        via ∈ (build catalog resolved extras exclusions).entries.keys ∧ catalog.find? via = some artifact ∧
        artifact.dependencies.find? (·.key = key) = some dependency ∧ entry = ⟨dependency.version, .transitive via⟩ ∧
        IsLeast {length | Path catalog resolved extras exclusions length via} level ∧
        IsLeast {length | Path catalog resolved extras exclusions length key} (level + 1) := by
  obtain ⟨followed, reached⟩ := build_reached catalog resolved extras exclusions
  have first := reached.find?_entries key
  rw [← find?, found] at first
  have allowed : key ∉ exclusions := by
    intro barred
    simp [barred] at first
  rw [if_neg allowed, List.find?_append, Option.map_or, find?_direct] at first
  cases pinned : ModuleMap.find? resolved key with
  | some version => simpa [pinned] using first
  | none =>
    cases added : extras.find? (·.key = key) with
    | some extra => simpa [pinned, added] using first
    | none =>
      simp only [pinned, added, Option.map_none, Option.none_or] at first
      obtain ⟨earlier, via, later, artifact, dependency, split, passed, known, chosen, rfl⟩ := find?_followed first.symm
      have member : via ∈ followed := by simp [split]
      have depends : catalog.DependsOn via key :=
        ⟨artifact, known, dependency, List.mem_of_find?_eq_some chosen, by simpa using List.find?_some chosen⟩
      obtain ⟨length, path⟩ := reached.exists_path (by simpa using member)
      have shortest := depth_isLeast path
      have onPath : via ∈ (build catalog resolved extras exclusions).entries.keys := by
        rw [ModuleMap.mem_keys_iff, ← reached.mem_iff]
        simpa using member
      refine ⟨via, artifact, dependency, _, onPath, known, chosen, rfl, shortest, ?_⟩
      refine ⟨Path.step shortest.1 depends allowed, ?_⟩
      intro length path
      cases path with
      | direct asked => exact absurd asked (not_isDirect pinned added)
      | @step length source key path depends =>
        -- The source of the last step is followed, but not before `via`, the first that depends on the key.
        have nearer := nearest_of_split reached split (reached.mem_of_path path)
          (fun before => passed source before depends)
        exact Nat.succ_le_succ (Nat.le_trans nearer (depth_le path))

namespace Diamond

def top : ModuleKey := ⟨"org.sample", "top", by decide, by decide⟩
def left : ModuleKey := ⟨"org.sample", "left", by decide, by decide⟩
def right : ModuleKey := ⟨"org.sample", "right", by decide, by decide⟩
def bottom : ModuleKey := ⟨"org.sample", "bottom", by decide, by decide⟩
def older : Version := ⟨"1.0", [1, 0], none⟩
def newer : Version := ⟨"2.0", [2, 0], none⟩

/-- Both sides depend on the bottom, in different versions, and the bottom depends on the top again. -/
def libraries : Catalog :=
  ⟨[(bottom, { key := bottom, dependencies := [⟨top, newer⟩] }),
    (left, { key := left, dependencies := [⟨bottom, older⟩] }),
    (right, { key := right, dependencies := [⟨bottom, newer⟩] }),
    (top, { key := top, dependencies := [⟨left, older⟩, ⟨right, older⟩] })]⟩

end Diamond

open Diamond in
/-- Of two sides of a diamond the one that is declared first decides. -/
theorem build_nearest_diamond :
    (build libraries [(top, older)] [] []).find? bottom = some ⟨older, .transitive left⟩ ∧
    ∃ via artifact dependency level,
      via ∈ (build libraries [(top, older)] [] []).entries.keys ∧ libraries.find? via = some artifact ∧
      artifact.dependencies.find? (·.key = bottom) = some dependency ∧
      (⟨older, .transitive left⟩ : Entry) = ⟨dependency.version, .transitive via⟩ ∧
      IsLeast {length | Path libraries [(top, older)] [] [] length via} level ∧
      IsLeast {length | Path libraries [(top, older)] [] [] length bottom} (level + 1) :=
  ⟨by decide, build_nearest libraries [(top, older)] [] [] bottom ⟨older, .transitive left⟩ (by decide)⟩

end Linkage.Classpath
