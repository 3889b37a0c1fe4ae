import Mathlib.Algebra.Order.BigOperators.Group.List
import Mathlib.Algebra.Order.Group.Nat
import Mathlib.Algebra.GroupWithZero.Nat
import Linkage.Classpath
import Linkage.Proofs.KeyOrder

/-! The breadth-first search behind a classpath, one turn at a time. Every turn asks the candidates that one key pulls
in, so a run has asked the direct candidates and then those of each followed key in turn; the first candidate of a key
is the one that counts. A turn always lowers the work that is left, which is why the number of steps is enough. -/

namespace Linkage.Classpath
variable {catalog : Catalog} {exclusions : ModuleSet} {candidates : List Candidate} {candidate : Candidate}
  {state : Classpath × List ModuleKey} {key : ModuleKey}

def Candidate.entry (candidate : Candidate) : Entry :=
  ⟨candidate.version, candidate.origin⟩

/-- Asks the candidates one after the other. -/
def ask (exclusions : ModuleSet) (candidates : List Candidate) (state : Classpath × List ModuleKey) :
    Classpath × List ModuleKey :=
  candidates.foldl (enter exclusions) state

@[simp]
theorem ask_nil : ask exclusions [] state = state :=
  rfl

@[simp]
theorem ask_cons :
    ask exclusions (candidate :: candidates) state = ask exclusions candidates (enter exclusions state candidate) :=
  rfl

theorem ask_append (others : List Candidate) :
    ask exclusions (candidates ++ others) state = ask exclusions others (ask exclusions candidates state) :=
  List.foldl_append

/-- The states in which the search takes its turns, with the keys that have been followed so far. In a turn the first
key leaves the queue, and what it pulls in asks to enter. The search is over when the queue is empty. -/
inductive Reached (catalog : Catalog) (exclusions : ModuleSet) (candidates : List Candidate) :
    List ModuleKey → Classpath × List ModuleKey → Prop where
  | start : Reached catalog exclusions candidates [] (ask exclusions candidates ({}, []))
  | turn {followed : List ModuleKey} {classpath : Classpath} {key : ModuleKey} {queue : List ModuleKey}
      (before : Reached catalog exclusions candidates followed (classpath, key :: queue)) :
      Reached catalog exclusions candidates (followed ++ [key]) (ask exclusions (pulled catalog key) (classpath, queue))

private theorem entries_enter_of_barred (barred : candidate.key ∈ exclusions) :
    (enter exclusions state candidate).1.entries = state.1.entries := by
  simp only [enter, barred, if_true]
  split <;> rfl

private theorem enter_of_taken {entry : Entry} (allowed : candidate.key ∉ exclusions)
    (held : state.1.entries.find? candidate.key = some entry) : enter exclusions state candidate = state := by
  simp [enter, allowed, ModuleMap.contains, held]

theorem find?_entries_enter : (enter exclusions state candidate).1.entries.find? key =
    (state.1.entries.find? key).or (if candidate.key = key ∧ key ∉ exclusions then some candidate.entry else none) := by
  by_cases barred : candidate.key ∈ exclusions
  · rw [entries_enter_of_barred barred, if_neg (by rintro ⟨rfl, allowed⟩; exact allowed barred), Option.or_none]
  · cases held : state.1.entries.find? candidate.key with
    | some entry =>
      have same := enter_of_taken barred held
      by_cases asked : candidate.key = key
      · subst asked
        simp [same, held]
      · simp [same, asked]
    | none =>
      by_cases asked : candidate.key = key
      · subst asked
        simp [enter, barred, ModuleMap.contains, held, ModuleMap.find?_insert, Candidate.entry]
      · simp [enter, barred, ModuleMap.contains, held, ModuleMap.find?_insert, asked]

theorem find?_excluded_enter : (enter exclusions state candidate).1.excluded.find? key =
    (state.1.excluded.find? key).or
      (if candidate.key = key ∧ key ∈ exclusions then some candidate.version else none) := by
  by_cases barred : candidate.key ∈ exclusions
  · cases held : state.1.excluded.find? candidate.key with
    | some version =>
      have same : enter exclusions state candidate = state := by simp [enter, barred, ModuleMap.contains, held]
      by_cases asked : candidate.key = key
      · subst asked
        simp [same, held]
      · simp [same, asked]
    | none =>
      by_cases asked : candidate.key = key
      · subst asked
        simp [enter, barred, ModuleMap.contains, held, ModuleMap.find?_insert]
      · simp [enter, barred, ModuleMap.contains, held, ModuleMap.find?_insert, asked]
  · have same : (enter exclusions state candidate).1.excluded = state.1.excluded := by
      simp only [enter, barred, if_false]
      split <;> rfl
    rw [same, if_neg (by rintro ⟨rfl, excluded⟩; exact barred excluded), Option.or_none]

theorem queue_enter : (enter exclusions state candidate).2 =
    if candidate.key ∉ exclusions ∧ state.1.entries.find? candidate.key = none then state.2 ++ [candidate.key]
    else state.2 := by
  by_cases barred : candidate.key ∈ exclusions
  · simp only [enter, barred, if_true, not_true, false_and, if_false]
    split <;> rfl
  · cases held : state.1.entries.find? candidate.key <;> simp [enter, barred, ModuleMap.contains, held]

/-- The first candidate of a key decides its entry, unless the key is taken already. -/
theorem find?_entries_ask : (ask exclusions candidates state).1.entries.find? key =
    (state.1.entries.find? key).or
      (if key ∈ exclusions then none else (candidates.find? (·.key = key)).map Candidate.entry) := by
  induction candidates generalizing state with
  | nil => simp
  | cons candidate rest ih =>
    rw [ask_cons, ih, find?_entries_enter, Option.or_assoc]
    by_cases asked : candidate.key = key <;> by_cases barred : key ∈ exclusions <;> simp [asked, barred]

theorem find?_excluded_ask : (ask exclusions candidates state).1.excluded.find? key =
    (state.1.excluded.find? key).or
      (if key ∈ exclusions then (candidates.find? (·.key = key)).map Candidate.version else none) := by
  induction candidates generalizing state with
  | nil => simp
  | cons candidate rest ih =>
    rw [ask_cons, ih, find?_excluded_enter, Option.or_assoc]
    by_cases asked : candidate.key = key <;> by_cases barred : key ∈ exclusions <;> simp [asked, barred]

/-- Keys only join the end of the queue, and only those that are new. -/
theorem queue_ask : ∃ fresh, (ask exclusions candidates state).2 = state.2 ++ fresh ∧
    ∀ key ∈ fresh, key ∉ exclusions ∧ state.1.entries.find? key = none ∧
      ∃ candidate ∈ candidates, candidate.key = key := by
  induction candidates generalizing state with
  | nil => exact ⟨[], by simp, by simp⟩
  | cons candidate rest ih =>
    obtain ⟨fresh, joined, new⟩ := @ih (enter exclusions state candidate)
    have later : ∀ key ∈ fresh, key ∉ exclusions ∧ state.1.entries.find? key = none ∧
        ∃ other ∈ candidate :: rest, other.key = key := by
      intro key member
      obtain ⟨allowed, free, other, inside, same⟩ := new key member
      rw [find?_entries_enter, Option.or_eq_none_iff] at free
      exact ⟨allowed, free.1, other, List.mem_cons_of_mem _ inside, same⟩
    rw [queue_enter] at joined
    split at joined
    next entered =>
      refine ⟨candidate.key :: fresh, by simpa using joined, ?_⟩
      intro key member
      rcases List.mem_cons.mp member with rfl | member
      · exact ⟨entered.1, entered.2, candidate, List.mem_cons_self, rfl⟩
      · exact later key member
    next => exact ⟨fresh, joined, later⟩

/-- The queue is only read at its front, so what stands before it does not matter. -/
theorem ask_behind (front : List ModuleKey) (state : Classpath × List ModuleKey) :
    ask exclusions candidates (state.1, front ++ state.2) =
      ((ask exclusions candidates state).1, front ++ (ask exclusions candidates state).2) := by
  induction candidates generalizing state with
  | nil => rfl
  | cons candidate rest ih =>
    have once : enter exclusions (state.1, front ++ state.2) candidate =
        ((enter exclusions state candidate).1, front ++ (enter exclusions state candidate).2) := by
      simp only [enter]
      split <;> split <;> simp
    rw [ask_cons, ask_cons, once]
    exact ih _

/-- From the empty classpath on, the queue lists what is on the classpath. -/
theorem mem_queue_ask (listed : ∀ key, key ∈ state.2 ↔ (state.1.entries.find? key).isSome) (key : ModuleKey) :
    key ∈ (ask exclusions candidates state).2 ↔ ((ask exclusions candidates state).1.entries.find? key).isSome := by
  induction candidates generalizing state with
  | nil => exact listed key
  | cons candidate rest ih =>
    apply ih
    intro key
    have before := listed key
    rw [queue_enter, find?_entries_enter, Option.isSome_or]
    by_cases asked : candidate.key = key
    · subst asked
      cases held : state.1.entries.find? candidate.key <;> by_cases barred : candidate.key ∈ exclusions <;>
        simp_all
    · split <;> simp_all [Ne.symm asked]

/-- The dependencies of the libraries that are not on the classpath yet. -/
def unseen (entries : ModuleMap Entry) (artifacts : ModuleMap Artifact) : Nat :=
  (artifacts.map fun listed => if (entries.find? listed.1).isNone then listed.2.dependencies.length else 0).sum

/-- A queued key stands for its own turn and for the keys it may bring in. -/
def work (catalog : Catalog) (state : Classpath × List ModuleKey) : Nat :=
  (state.2.map fun key => (catalog.dependencies key).length + 1).sum + unseen state.1.entries catalog.artifacts

private theorem unseen_insert_le (key : ModuleKey) (entries : ModuleMap Entry) (artifacts : ModuleMap Artifact)
    (entry : Entry) : unseen (entries.insert key entry) artifacts ≤ unseen entries artifacts := by
  apply List.sum_le_sum
  intro listed member
  simp only [ModuleMap.find?_insert]
  by_cases same : key = listed.1 <;> simp [same]

private theorem unseen_insert (entries : ModuleMap Entry) (artifacts : ModuleMap Artifact) (entry : Entry)
    (free : entries.find? key = none) :
    unseen (entries.insert key entry) artifacts + ((Catalog.mk artifacts).dependencies key).length ≤
      unseen entries artifacts := by
  induction artifacts with
  | nil => simp [unseen, Catalog.dependencies, Catalog.find?]
  | cons listed rest ih =>
    obtain ⟨other, artifact⟩ := listed
    have tail := unseen_insert_le key entries rest entry
    simp only [unseen, Catalog.dependencies, Catalog.find?, List.map_cons, List.sum_cons, ModuleMap.find?_cons,
      ModuleMap.find?_insert] at ih tail ⊢
    by_cases same : other = key
    · subst same
      simp [free] at tail ⊢
      omega
    · simp only [same, Ne.symm same, if_false] at ih ⊢
      omega

private theorem work_enter (catalog : Catalog) (exclusions : ModuleSet) (state : Classpath × List ModuleKey)
    (candidate : Candidate) : work catalog (enter exclusions state candidate) ≤ work catalog state + 1 := by
  by_cases barred : candidate.key ∈ exclusions
  · simp [work, entries_enter_of_barred barred, queue_enter, barred]
  · cases held : state.1.entries.find? candidate.key with
    | some entry =>
      rw [enter_of_taken barred held]
      exact Nat.le_succ _
    | none =>
      have rest : _ + (catalog.dependencies candidate.key).length ≤ _ :=
        unseen_insert state.1.entries catalog.artifacts ⟨candidate.version, candidate.origin⟩ held
      simp only [work, enter, barred, ModuleMap.contains, held, Option.isSome_none, if_false, List.map_append,
        List.sum_append, List.map_singleton, List.sum_singleton, Bool.false_eq_true]
      omega

private theorem work_ask (catalog : Catalog) (exclusions : ModuleSet) (candidates : List Candidate)
    (state : Classpath × List ModuleKey) :
    work catalog (ask exclusions candidates state) ≤ work catalog state + candidates.length := by
  induction candidates generalizing state with
  | nil => exact Nat.le_refl _
  | cons candidate rest ih =>
    have first := work_enter catalog exclusions state candidate
    have later := ih (enter exclusions state candidate)
    rw [ask_cons, List.length_cons]
    omega

/-- A turn takes away its own share of the work, whatever it brings in. -/
private theorem work_turn (catalog : Catalog) (exclusions : ModuleSet) (classpath : Classpath) (key : ModuleKey)
    (queue : List ModuleKey) :
    work catalog (ask exclusions (pulled catalog key) (classpath, queue)) < work catalog (classpath, key :: queue) := by
  have bound := work_ask catalog exclusions (pulled catalog key) (classpath, queue)
  simp only [pulled, List.length_map] at bound
  simp only [work, List.map_cons, List.sum_cons] at bound ⊢
  simp only [pulled]
  omega

private theorem work_start :
    work catalog (ask exclusions candidates ({}, [])) ≤ candidates.length + catalog.dependencyCount := by
  have bound := work_ask catalog exclusions candidates ({}, [])
  have count : work catalog ({}, []) = catalog.dependencyCount := by
    simp [work, unseen, Catalog.dependencyCount, List.sum_eq_foldl, List.foldl_map]
  omega

theorem follow_empty {classpath : Classpath} (steps : Nat) :
    follow catalog exclusions steps (classpath, []) = classpath := by
  cases steps with
  | zero => rfl
  | succ steps => rfl

namespace Reached
variable {followed : List ModuleKey}

/-- As many steps as there is work to do bring the search to its end. -/
theorem follow_ends (reached : Reached catalog exclusions candidates followed state) {steps : Nat}
    (enough : work catalog state ≤ steps) :
    ∃ rest, Reached catalog exclusions candidates (followed ++ rest) (follow catalog exclusions steps state, []) := by
  induction steps generalizing followed state with
  | zero =>
    obtain ⟨classpath, queue⟩ := state
    cases queue with
    | nil => exact ⟨[], by rwa [List.append_nil]⟩
    | cons key queue => simp [work] at enough
  | succ steps ih =>
    obtain ⟨classpath, queue⟩ := state
    cases queue with
    | nil => exact ⟨[], by rwa [List.append_nil]⟩
    | cons key queue =>
      have less := work_turn catalog exclusions classpath key queue
      obtain ⟨rest, ended⟩ := ih reached.turn (Nat.le_of_lt_succ (Nat.lt_of_lt_of_le less enough))
      rw [List.append_assoc] at ended
      exact ⟨key :: rest, ended⟩

/-- Every key that has been followed was at the front of the queue when its turn came. -/
theorem exists_turn {initial rest : List ModuleKey}
    (reached : Reached catalog exclusions candidates (initial ++ key :: rest) state) :
    ∃ classpath queue, Reached catalog exclusions candidates initial (classpath, key :: queue) := by
  generalize split : initial ++ key :: rest = followed at reached
  induction reached generalizing rest with
  | start => simp at split
  | @turn followed classpath last queue before ih =>
    rcases List.eq_nil_or_concat rest with rfl | ⟨rest, final, rfl⟩
    · obtain ⟨rfl, same⟩ := List.append_inj' split rfl
      obtain rfl := List.singleton_inj.mp same
      exact ⟨classpath, queue, before⟩
    · rw [List.concat_eq_append, ← List.cons_append, ← List.append_assoc] at split
      exact ih (List.append_inj' split rfl).1

/-- A run has asked the direct candidates and what each followed key pulls in, in this order. -/
theorem asked (reached : Reached catalog exclusions candidates followed state) :
    ask exclusions (candidates ++ followed.flatMap (pulled catalog)) ({}, []) = (state.1, followed ++ state.2) := by
  induction reached with
  | start => simp
  | @turn followed classpath key queue before ih =>
    rw [List.flatMap_append, List.flatMap_singleton, ← List.append_assoc, ask_append, ih, List.append_cons]
    exact ask_behind (followed ++ [key]) (classpath, queue)

theorem find?_entries (reached : Reached catalog exclusions candidates followed state) (key : ModuleKey) :
    state.1.entries.find? key = if key ∈ exclusions then none else
      ((candidates ++ followed.flatMap (pulled catalog)).find? (·.key = key)).map Candidate.entry := by
  have run := congrArg (·.1.entries.find? key) reached.asked
  rw [find?_entries_ask] at run
  simpa using run.symm

theorem find?_excluded (reached : Reached catalog exclusions candidates followed state) (key : ModuleKey) :
    state.1.excluded.find? key = if key ∈ exclusions then
      ((candidates ++ followed.flatMap (pulled catalog)).find? (·.key = key)).map Candidate.version else none := by
  have run := congrArg (·.1.excluded.find? key) reached.asked
  rw [find?_excluded_ask] at run
  simpa using run.symm

/-- Each key on the classpath has been followed or is still queued. -/
theorem mem_iff (reached : Reached catalog exclusions candidates followed state) (key : ModuleKey) :
    key ∈ followed ++ state.2 ↔ (state.1.entries.find? key).isSome := by
  have listed : key ∈ (ask exclusions (candidates ++ followed.flatMap (pulled catalog)) ({}, [])).2 ↔ _ :=
    mem_queue_ask (by simp) key
  simpa only [reached.asked] using listed

theorem not_mem_of_excluded (reached : Reached catalog exclusions candidates followed state)
    (excluded : key ∈ exclusions) : key ∉ followed ++ state.2 := by
  intro member
  have held := (reached.mem_iff key).mp member
  rw [reached.find?_entries, if_pos excluded] at held
  cases held

/-- Each turn of a run takes one step of the search. -/
theorem follow_start (reached : Reached catalog exclusions candidates followed state) (steps : Nat) :
    follow catalog exclusions (followed.length + steps) (ask exclusions candidates ({}, [])) =
      follow catalog exclusions steps state := by
  induction reached generalizing steps with
  | start => rw [List.length_nil, Nat.zero_add]
  | @turn followed classpath key queue before ih =>
    have earlier := ih (steps + 1)
    rw [List.length_append, List.length_singleton, Nat.add_assoc, Nat.add_comm 1, earlier]
    rfl

/-- Runs that have come to their end have come to the same classpath. -/
theorem end_unique {others : List ModuleKey} {classpath other : Classpath}
    (first : Reached catalog exclusions candidates followed (classpath, []))
    (second : Reached catalog exclusions candidates others (other, [])) : classpath = other := by
  have left := first.follow_start others.length
  have right := second.follow_start followed.length
  rw [follow_empty] at left right
  rw [← left, ← right, Nat.add_comm]

end Reached

/-- The search ends: finitely many turns empty the queue, and what is then on the classpath is the answer. -/
theorem build_reached (catalog : Catalog) (resolved : List (ModuleKey × Version)) (extras : List Coordinate)
    (exclusions : ModuleSet) :
    ∃ followed, Reached catalog exclusions (direct resolved extras) followed
      (build catalog resolved extras exclusions, []) :=
  Reached.follow_ends .start work_start

/-- Wherever a run stands, it goes on to the answer. -/
theorem Reached.to_build {resolved : List (ModuleKey × Version)} {extras : List Coordinate} {followed : List ModuleKey}
    (reached : Reached catalog exclusions (direct resolved extras) followed state) :
    ∃ rest, Reached catalog exclusions (direct resolved extras) (followed ++ rest)
      (build catalog resolved extras exclusions, []) := by
  obtain ⟨rest, ended⟩ := reached.follow_ends (Nat.le_refl _)
  obtain ⟨others, built⟩ := build_reached catalog resolved extras exclusions
  rw [ended.end_unique built] at ended
  exact ⟨rest, ended⟩

/-- Exclusions matter as a set; their order and repetitions do not. -/
theorem build_congr {exclusions others : ModuleSet} (same : ∀ key, key ∈ exclusions ↔ key ∈ others)
    (catalog : Catalog) (resolved : List (ModuleKey × Version)) (extras : List Coordinate) :
    build catalog resolved extras exclusions = build catalog resolved extras others := by
  have entering : enter exclusions = enter others := by
    funext state candidate
    simp only [enter, same]
  have following : follow catalog exclusions = follow catalog others := by
    funext steps
    induction steps with
    | zero => rfl
    | succ steps ih =>
      funext ⟨classpath, queue⟩
      cases queue with
      | nil => rfl
      | cons key queue => simp only [follow, entering, ih]
  rw [build, build, entering, following]

end Linkage.Classpath
