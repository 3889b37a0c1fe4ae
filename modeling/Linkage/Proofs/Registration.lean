import Mathlib.Data.List.Induction
import Linkage.Verifier
import Linkage.Proofs.KeyOrder

/-! Setting a verifier up, call by call. A rule is accepted if it keeps its own library, both by its own exclusions and
by those that hold at the time. Nobody looks again when a library is excluded later on, so a registered rule lacks its
library exactly if some call excluded this library behind the registration. -/

namespace Linkage.Verifier
variable {verifier : Verifier} {rule : Rule} {key : ModuleKey}

structure Accepts (verifier : Verifier) (rule : Rule) : Prop where
  distinct : ∀ other ∈ verifier.rules, ¬ other.same rule
  keeps : rule.key ∉ rule.excludedDependencies
  admitted : rule.key ∉ verifier.exclusions

def withRule (verifier : Verifier) (rule : Rule) : Verifier :=
  { verifier with rules := verifier.rules ++ [rule] }

theorem register_of_accepts (accepts : verifier.Accepts rule) :
    verifier.register rule = .ok (verifier.rules.length, verifier.withRule rule) := by
  have distinct : verifier.rules.any (·.same rule) = false := by simpa using accepts.distinct
  simp [register, distinct, accepts.keeps, accepts.admitted]
  rfl

theorem register_of_not_accepts (refused : ¬ verifier.Accepts rule) :
    ∃ error, verifier.register rule = .error error := by
  unfold register
  split
  · exact ⟨_, rfl⟩
  next distinct =>
    split
    · exact ⟨_, rfl⟩
    next kept =>
      simp only [Bool.or_eq_true, decide_eq_true_eq, not_or] at kept
      exact absurd ⟨by simpa using distinct, kept.1, kept.2⟩ refused

theorem register_eq_ok_iff {registered : Nat × Verifier} : verifier.register rule = .ok registered ↔
    verifier.Accepts rule ∧ (verifier.rules.length, verifier.withRule rule) = registered := by
  by_cases accepts : verifier.Accepts rule
  · simp [register_of_accepts accepts, accepts]
  · obtain ⟨error, refused⟩ := register_of_not_accepts accepts
    simp [refused, accepts]

/-- A call that sets a verifier up. -/
inductive Call where
  | exclude (key : ModuleKey)
  | share (workers : Nat)
  | register (rule : Rule)
  | registerText (group name versions : String) (extraDependencies : List String)

/-- The rule that a call registers, if it registers one. Its text may be refused. -/
def Call.offer? : Call → Option (Except Error Rule)
  | exclude _ => none
  | share _ => none
  | register rule => some (.ok rule)
  | registerText group name versions extraDependencies => some (Rule.parse group name versions extraDependencies)

/-- A registration that is refused leaves the verifier as it is. -/
def settled (verifier : Verifier) : Except Error (Nat × Verifier) → Verifier
  | .ok (_, changed) => changed
  | .error _ => verifier

def after (verifier : Verifier) : Call → Verifier
  | .exclude key => verifier.withExclusion key
  | .share workers => verifier.withWorkers workers
  | .register rule => verifier.settled (verifier.register rule)
  | .registerText group name versions extraDependencies =>
    verifier.settled (verifier.registerText group name versions extraDependencies)

def run (verifier : Verifier) (calls : List Call) : Verifier :=
  calls.foldl after verifier

inductive Changes (verifier : Verifier) : Call → Verifier → Prop where
  | excluded (key : ModuleKey) : Changes verifier (.exclude key) (verifier.withExclusion key)
  | shared (workers : Nat) : Changes verifier (.share workers) (verifier.withWorkers workers)
  | registered {call : Call} {rule : Rule} (offered : call.offer? = some (.ok rule)) (accepts : verifier.Accepts rule) :
      Changes verifier call (verifier.withRule rule)
  | refused {call : Call} {offer : Except Error Rule} (offered : call.offer? = some offer)
      (refused : ∀ rule, offer = .ok rule → ¬ verifier.Accepts rule) : Changes verifier call verifier

theorem changes_register {call : Call} (offered : call.offer? = some (.ok rule)) :
    verifier.Changes call (verifier.settled (verifier.register rule)) := by
  by_cases accepts : verifier.Accepts rule
  · rw [register_of_accepts accepts]
    exact .registered offered accepts
  · obtain ⟨error, refused⟩ := register_of_not_accepts accepts
    rw [refused]
    refine .refused offered ?_
    intro other same
    rwa [← Except.ok.inj same]

theorem changes_after (verifier : Verifier) (call : Call) : verifier.Changes call (verifier.after call) := by
  cases call with
  | exclude key => exact .excluded key
  | share workers => exact .shared workers
  | register rule => exact changes_register rfl
  | registerText group name versions extraDependencies =>
    cases parsed : Rule.parse group name versions extraDependencies with
    | ok rule =>
      have same : verifier.registerText group name versions extraDependencies = verifier.register rule := by
        rw [registerText, parsed]
        rfl
      rw [after, same]
      exact changes_register (congrArg some parsed)
    | error error =>
      have same : verifier.registerText group name versions extraDependencies = .error error := by
        rw [registerText, parsed]
        rfl
      rw [after, same]
      refine .refused rfl ?_
      intro rule accepted
      rw [parsed] at accepted
      contradiction

/-- Only a call that says so excludes a library. -/
theorem mem_exclusions_after {call : Call} :
    key ∈ (verifier.after call).exclusions ↔ key ∈ verifier.exclusions ∨ call = .exclude key := by
  have changes := verifier.changes_after call
  generalize verifier.after call = changed at changes ⊢
  cases changes with
  | excluded other =>
    simp only [withExclusion, ModuleSet.mem_insert, Call.exclude.injEq]
    rw [or_comm, eq_comm]
  | shared workers => simp [withWorkers]
  | registered offered accepts =>
    have other : call ≠ .exclude key := by
      rintro rfl
      simp [Call.offer?] at offered
    simp [withRule, other]
  | refused offered refused =>
    have other : call ≠ .exclude key := by
      rintro rfl
      simp [Call.offer?] at offered
    simp [other]

theorem mem_rules_after {call : Call} (member : rule ∈ (verifier.after call).rules) :
    rule ∈ verifier.rules ∨ verifier.Accepts rule ∧ call ≠ .exclude rule.key := by
  have changes := verifier.changes_after call
  generalize verifier.after call = changed at changes member
  cases changes with
  | excluded key => exact .inl member
  | shared workers => exact .inl member
  | registered offered accepts =>
    rcases List.mem_append.mp member with earlier | last
    · exact .inl earlier
    · obtain rfl := List.mem_singleton.mp last
      refine .inr ⟨accepts, ?_⟩
      rintro rfl
      simp [Call.offer?] at offered
  | refused offered refused => exact .inl member

@[simp]
theorem run_nil : verifier.run [] = verifier :=
  rfl

theorem run_snoc (calls : List Call) (call : Call) : verifier.run (calls ++ [call]) = (verifier.run calls).after call := by
  rw [run, List.foldl_append]
  rfl

theorem mem_exclusions_run {calls : List Call} :
    key ∈ (verifier.run calls).exclusions ↔ key ∈ verifier.exclusions ∨ .exclude key ∈ calls := by
  induction calls using List.reverseRecOn with
  | nil => simp
  | append_singleton calls call ih =>
    rw [run_snoc, mem_exclusions_after, ih, List.mem_append, List.mem_singleton, or_assoc, @eq_comm _ call]

/-- A call excludes the library when the rule is registered already. -/
def ExcludedLate (verifier : Verifier) (calls : List Call) (rule : Rule) : Prop :=
  ∃ before behind, calls = before ++ .exclude rule.key :: behind ∧ rule ∈ (verifier.run before).rules

theorem excludedLate_snoc {calls : List Call} {call : Call} : verifier.ExcludedLate (calls ++ [call]) rule ↔
    verifier.ExcludedLate calls rule ∨ call = .exclude rule.key ∧ rule ∈ (verifier.run calls).rules := by
  constructor
  · rintro ⟨before, behind, split, registered⟩
    rcases List.eq_nil_or_concat behind with rfl | ⟨others, last, rfl⟩
    · obtain ⟨rfl, same⟩ := List.append_inj' split rfl
      exact .inr ⟨List.cons.inj same |>.1, registered⟩
    · have inner : calls ++ [call] = (before ++ .exclude rule.key :: others) ++ [last] := by simpa using split
      obtain ⟨rfl, -⟩ := List.append_inj' inner rfl
      exact .inl ⟨before, others, rfl, registered⟩
  · rintro (⟨before, behind, rfl, registered⟩ | ⟨rfl, registered⟩)
    · exact ⟨before, behind ++ [call], by simp, registered⟩
    · exact ⟨calls, [], rfl, registered⟩

/-- A rule that was accepted keeps its library until a call behind its registration excludes it. -/
theorem mem_rules_run {calls : List Call} (member : rule ∈ (verifier.run calls).rules) (empty : verifier.rules = []) :
    rule.key ∉ rule.excludedDependencies ∧
      (rule.key ∈ (verifier.run calls).exclusions ↔ verifier.ExcludedLate calls rule) := by
  -- What is excluded late depends on the calls in front, so the induction is on the last call.
  induction calls using List.reverseRecOn with
  | nil => simp [empty] at member
  | append_singleton calls call ih =>
    rw [run_snoc] at member ⊢
    rw [mem_exclusions_after, excludedLate_snoc]
    by_cases earlier : rule ∈ (verifier.run calls).rules
    -- A rule that was there already is excluded by this call or by one before.
    · obtain ⟨keeps, late⟩ := ih earlier
      exact ⟨keeps, by rw [late]; simp [earlier]⟩
    -- A rule that this call registers has passed the exclusions of all calls before.
    · obtain ⟨accepts, other⟩ := (mem_rules_after member).resolve_left earlier
      refine ⟨accepts.keeps, ?_⟩
      have notLate : ¬ verifier.ExcludedLate calls rule := by
        rintro ⟨before, behind, rfl, registered⟩
        exact accepts.admitted (mem_exclusions_run.mpr (.inr (by simp)))
      simp [accepts.admitted, other, notLate, earlier]

/-- A verifier on which nothing has been called. -/
def fresh (surface : Surface) (catalog : Catalog) : Verifier :=
  { surface, catalog }

/-- Whatever calls set a verifier up, no rule excludes its own library, and a rule lacks it on its classpath just if
some call excluded the library from all classpaths after the rule had been registered. -/
theorem run_keeps_libraries (surface : Surface) (catalog : Catalog) (calls : List Call) :
    ∀ rule ∈ ((fresh surface catalog).run calls).rules, rule.key ∉ rule.excludedDependencies ∧
      (rule.key ∈ ((fresh surface catalog).run calls).exclusions ↔ (fresh surface catalog).ExcludedLate calls rule) := by
  intro rule member
  exact mem_rules_run member rfl

namespace Databind

def databind : ModuleKey := ⟨"jk", "databind", by decide, by decide⟩
def release : Version := ⟨"2.12.3", [2, 12, 3], none⟩
def mapper : Symbol := .ofClass "jk.Mapper"
def sample : Rule := { key := databind, versions := .exact release }
def start : Verifier := fresh (.ofReferences [mapper]) ⟨[(databind, { key := databind, symbols := [.always mapper] })]⟩
def excludedFirst : List Call := [.exclude databind, .share 2, .register sample]
def excludedLast : List Call := [.register sample, .share 2, .exclude databind]

end Databind

open Databind in
/-- Behind an exclusion of its library the rule is refused. In front of one it stays. -/
theorem run_keeps_libraries_databind :
    (start.run excludedFirst).rules = [] ∧ sample ∈ (start.run excludedLast).rules ∧
      sample.key ∉ sample.excludedDependencies ∧
      (sample.key ∈ (start.run excludedLast).exclusions ↔ start.ExcludedLate excludedLast sample) := by
  have registered : sample ∈ (start.run excludedLast).rules := by decide
  exact ⟨by decide, registered, run_keeps_libraries _ _ excludedLast sample registered⟩

open Databind in
/-- A registered rule can lack its own library, and then this library is named for what is missing. -/
theorem late_exclusion_removes_library :
    sample ∈ (start.run excludedLast).rules ∧ sample.key ∈ (start.run excludedLast).exclusions ∧
      (start.run excludedLast).verify (.single databind release) =
        [⟨0, "jk:databind", databind, some release, .pass, .failed [.missingSymbol mapper (some databind)]⟩] := by
  refine ⟨by decide, by decide, ?_⟩
  decide

end Linkage.Verifier
